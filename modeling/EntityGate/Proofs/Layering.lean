/-
# Permissions on top of each other

Permissions that are put on top of others unite with them: what the top sets counts, and what it
leaves open stays as it is below.  The union goes down to every flag, every hook and every entry
of a bucket, a layer that one of both lacks counting as the empty one, and it keeps the order of
names: those of the base, then the new ones of the top.

A table is determined by its keys in order and by what is found under them.  So the laws of a
union, that it is associative, that nothing on either side changes nothing and that a second time
changes nothing, need a look at one name only.
-/
import EntityGate.Proofs.Reload

namespace EntityGate

/-! ## Tables -/

namespace Table

variable {α : Type}

/-- A table is determined by its keys and by what is found under them. -/
lemma ext_get? {t u : Table α} (hkeys : t.keys = u.keys)
    (hget : ∀ name, t.get? name = u.get? name) : t = u := by
  have h := t.nodup
  simp only [keys, get?] at hkeys hget
  refine Table.ext ?_
  generalize t.entries = entries at *
  generalize u.entries = more at *
  induction entries generalizing more with
  | nil => exact (List.map_eq_nil_iff.mp hkeys.symm).symm
  | cons entry rest ih =>
    obtain ⟨k, v⟩ := entry
    cases more with
    | nil => simp at hkeys
    | cons other others =>
      obtain ⟨k', w⟩ := other
      obtain ⟨rfl, hrest⟩ := List.cons.inj hkeys
      obtain ⟨hk, hnodup⟩ := List.nodup_cons.mp h
      have hv : v = w := by simpa [lookup_cons] using hget k
      have hsame : rest = others := by
        refine ih hnodup others hrest fun name => ?_
        by_cases hname : name = k
        · subst hname
          have hk' : name ∉ others.map Prod.fst := hrest ▸ hk
          rw [lookup_eq_none_of_notMem hk, lookup_eq_none_of_notMem hk']
        · simpa [lookup_cons, hname] using hget name
      rw [hv, hsame]

/-- The keys of two tables, one on top of the other: those of the base, then the new ones. -/
def unitedKeys (base top : Table α) : List String :=
  base.keys ++ top.keys.filter (· ∉ base.keys)

/-- A table with the entries of another one on top, each combined with what is there already. -/
def overlay (combine : Option α → α → α) (base top : Table α) : Table α :=
  top.entries.foldl (fun t (k, v) => t.insert k (combine (t.get? k) v)) base

/-- What is found under a name of two tables, one on top of the other. -/
def stacked (combine : Option α → α → α) (below : Option α) : Option α → Option α
  | none => below
  | some v => some (combine below v)

lemma merge_eq_overlay (base top : Table α) : base.merge top = overlay (fun _ v => v) base top :=
  merge_eq_foldl base top

section

variable {combine : Option α → α → α} {base top third : Table α}

lemma get?_overlay (base top : Table α) (name : String) :
    (overlay combine base top).get? name = stacked combine (base.get? name) (top.get? name) := by
  have h := top.nodup
  unfold overlay
  rw [show top.get? name = top.entries.lookup name from rfl]
  generalize top.entries = entries at h ⊢
  induction entries generalizing base with
  | nil => rfl
  | cons entry rest ih =>
    obtain ⟨k, v⟩ := entry
    obtain ⟨hk, hnodup⟩ := List.nodup_cons.mp h
    rw [List.foldl_cons, ih _ hnodup, get?_insert, lookup_cons]
    by_cases hname : name = k
    · subst hname
      rw [if_pos rfl, if_pos rfl, lookup_eq_none_of_notMem hk]
      rfl
    · rw [if_neg hname, if_neg hname]

lemma keys_overlay (base top : Table α) :
    (overlay combine base top).keys = unitedKeys base top := by
  have h := top.nodup
  unfold overlay
  rw [unitedKeys, show top.keys = top.entries.map Prod.fst from rfl]
  generalize top.entries = entries at h ⊢
  induction entries generalizing base with
  | nil => simp
  | cons entry rest ih =>
    obtain ⟨k, v⟩ := entry
    obtain ⟨hk, hnodup⟩ := List.nodup_cons.mp h
    rw [List.foldl_cons, ih _ hnodup, keys_insert, List.map_cons]
    by_cases hbase : k ∈ base.keys
    · simp [hbase]
    · -- a new key goes to the end, and does not occur again
      have hrest : (rest.map Prod.fst).filter (· ∉ base.keys ++ [k]) =
          (rest.map Prod.fst).filter (· ∉ base.keys) := by
        refine List.filter_congr fun name hname => ?_
        have hne : name ≠ k := fun hsame => hk (hsame ▸ hname)
        simp [hne]
      rw [if_neg hbase, hrest, List.filter_cons_of_pos (by simpa using hbase), List.append_assoc]
      rfl

/-- The third of three tables adds the keys that neither of the others has. -/
lemma unitedKeys_assoc {united more : Table α} (hunited : united.keys = unitedKeys base top)
    (hmore : more.keys = unitedKeys top third) :
    unitedKeys united third = unitedKeys base more := by
  rw [unitedKeys, hunited, unitedKeys, unitedKeys, hmore, unitedKeys, List.append_assoc,
    List.filter_append, List.filter_filter]
  congr 2
  refine List.filter_congr fun name _ => ?_
  by_cases hbase : name ∈ base.keys
  · simp [hbase]
  · simp [hbase]

/-- Three tables on top of each other, where the values under one name can be combined in either
order. -/
lemma overlay_assoc
    (hassoc : ∀ name, stacked combine (stacked combine (base.get? name) (top.get? name))
        (third.get? name) =
      stacked combine (base.get? name) (stacked combine (top.get? name) (third.get? name))) :
    overlay combine (overlay combine base top) third =
      overlay combine base (overlay combine top third) := by
  refine ext_get? ?_ fun name => ?_
  · rw [keys_overlay, keys_overlay]
    exact unitedKeys_assoc (keys_overlay base top) (keys_overlay top third)
  · rw [get?_overlay, get?_overlay, get?_overlay, get?_overlay]
    exact hassoc name

/-- A table on top of nothing, where nothing is combined with its values. -/
lemma overlay_empty (hnone : ∀ name v, top.get? name = some v → combine none v = v) :
    overlay combine .empty top = top := by
  refine ext_get? ?_ fun name => ?_
  · rw [keys_overlay]
    simp [unitedKeys, keys, empty]
  · rw [get?_overlay]
    cases hv : top.get? name with
    | none => rfl
    | some v => exact congrArg some (hnone name v hv)

/-- A table on top of itself, where each value is combined with itself. -/
lemma overlay_self (hself : ∀ name v, top.get? name = some v → combine (some v) v = v) :
    overlay combine top top = top := by
  refine ext_get? ?_ fun name => ?_
  · rw [keys_overlay, unitedKeys, List.filter_eq_nil_iff.mpr (by simp), List.append_nil]
  · rw [get?_overlay]
    cases hv : top.get? name with
    | none => rfl
    | some v => exact congrArg some (hself name v hv)

end

end Table

/-! ## The union of permissions -/

/-- Hooks that are those of the top, and where it has none, those of the base. -/
structure Hooks.Unites (base top united : Hooks) : Prop where
  closure : united.closure = top.closure.or base.closure
  mutate : united.mutate = top.mutate.or base.mutate
  enforce : united.enforce = top.enforce.or base.enforce
  setTo : united.setTo = top.setTo.or base.setTo
  validate : united.validate = top.validate.or base.validate

/-- A table with the values of the top, and where it has no key, those of the base. -/
structure Table.Unites {α : Type} (base top united : Table α) : Prop where
  value : ∀ name, united.get? name = (top.get? name).or (base.get? name)
  order : united.keys = Table.unitedKeys base top

namespace Layer

/-- A layer that is the union of two: flags, hooks, and each bucket entry by entry. -/
structure Unites (base top united : Layer) : Prop where
  allowed : united.allowed = top.allowed.or base.allowed
  permissive : united.permissive = top.permissive.or base.permissive
  hooks : base.hooks.Unites top.hooks united.hooks
  entries : ∀ b, (base.bucket b).Unites (top.bucket b) (united.bucket b)

end Layer

/-- Layers by name that are the unions of those of two tables, a layer that one of both lacks
counting as the empty one. -/
structure LayersUnite (base top united : Table Layer) : Prop where
  present : ∀ name,
    (united.get? name).isSome ↔ (base.get? name).isSome ∨ (top.get? name).isSome
  layer : ∀ name, ((base.get? name).getD default).Unites ((top.get? name).getD default)
    ((united.get? name).getD default)
  order : united.keys = Table.unitedKeys base top

namespace Node

/-- A node that is the union of two, down to its fields and placeholders. -/
structure Unites (base top united : Node) : Prop where
  layer : base.toLayer.Unites top.toLayer united.toLayer
  fields : LayersUnite base.fields top.fields united.fields
  placeholderNames :
    LayersUnite base.placeholderNames top.placeholderNames united.placeholderNames

end Node

/-- The parts of a query that have a node of their own in the permissions of a read. -/
inductive Clause where
  | conditions
  | having
  | orderBy
  | groupBy
  | placeholders

namespace ReadPermissions

/-- The node of a part of the query. -/
def node (permissions : ReadPermissions) : Clause → Node
  | .conditions => permissions.conditions
  | .having => permissions.having
  | .orderBy => permissions.orderBy
  | .groupBy => permissions.groupBy
  | .placeholders => permissions.placeholders

/-- Read permissions that are the union of two: flags, the largest limit, and each node with the
one in its place. -/
structure Unites (base top united : ReadPermissions) : Prop where
  allowed : united.allowed = top.allowed.or base.allowed
  maxLimit : united.maxLimit = top.maxLimit.or base.maxLimit
  nodes : ∀ clause, (base.node clause).Unites (top.node clause) (united.node clause)

end ReadPermissions

/-- The laws of a union: it is what `unites` says of its parts, it is associative, nothing on either
side changes nothing, and a second time changes nothing. -/
structure UnionLaws {α : Type} (unites : α → α → α → Prop) (nothing : α) (merge : α → α → α) :
    Prop where
  unites_merge : ∀ a b, unites a b (merge a b)
  assoc : ∀ a b c, merge (merge a b) c = merge a (merge b c)
  nothing_merge : ∀ a, merge nothing a = a
  merge_nothing : ∀ a, merge a nothing = a
  merge_self : ∀ a, merge a a = a

/-! ## The laws, part by part -/

lemma Table.unionLaws (α : Type) : UnionLaws (Unites (α := α)) .empty merge where
  unites_merge a b := by
    refine ⟨get?_merge a b, ?_⟩
    rw [merge_eq_overlay, keys_overlay]
  assoc a b c := by
    simp only [merge_eq_overlay]
    refine overlay_assoc fun name => ?_
    cases b.get? name <;> cases c.get? name <;> rfl
  nothing_merge a := by
    rw [merge_eq_overlay]
    exact overlay_empty fun _ _ _ => rfl
  merge_nothing a := rfl
  merge_self a := by
    rw [merge_eq_overlay]
    exact overlay_self fun _ _ _ => rfl

lemma Hooks.unionLaws : UnionLaws Unites default merge where
  unites_merge a b := by constructor <;> simp [merge]
  assoc a b c := by simp [merge, Option.or_assoc]
  nothing_merge a := by simp [merge, default]
  merge_nothing a := by simp [merge, default]
  merge_self a := by simp [merge]

namespace Layer

/-- Layers with the same flags, buckets and hooks are the same. -/
lemma ext_bucket {l m : Layer} (hallowed : l.allowed = m.allowed)
    (hpermissive : l.permissive = m.permissive) (hbuckets : ∀ b, l.bucket b = m.bucket b)
    (hhooks : l.hooks = m.hooks) : l = m := by
  cases l
  cases m
  have hoperators := hbuckets .operators
  have hdirections := hbuckets .directions
  have hassign := hbuckets .assign
  have hchain := hbuckets .chain
  simp_all [bucket]

lemma unionLaws : UnionLaws Unites default merge where
  unites_merge l m := by
    refine ⟨by simp [merge], by simp [merge], Hooks.unionLaws.unites_merge _ _, fun b => ?_⟩
    rw [bucket_merge]
    exact (Table.unionLaws Setting).unites_merge _ _
  assoc l m n := by
    refine ext_bucket (by simp [merge, Option.or_assoc]) (by simp [merge, Option.or_assoc])
      (fun b => ?_) (Hooks.unionLaws.assoc _ _ _)
    simp only [bucket_merge]
    exact (Table.unionLaws Setting).assoc _ _ _
  nothing_merge l := by
    refine ext_bucket (by simp [merge, default]) (by simp [merge, default]) (fun b => ?_)
      (Hooks.unionLaws.nothing_merge _)
    have hnothing : (default : Layer).bucket b = .empty := by cases b <;> rfl
    rw [bucket_merge, hnothing]
    exact (Table.unionLaws Setting).nothing_merge _
  merge_nothing l := by
    refine ext_bucket (by simp [merge, default]) (by simp [merge, default]) (fun b => ?_)
      (Hooks.unionLaws.merge_nothing _)
    cases b <;> rfl
  merge_self l := by
    refine ext_bucket (by simp [merge]) (by simp [merge]) (fun b => ?_)
      (Hooks.unionLaws.merge_self _)
    rw [bucket_merge]
    exact (Table.unionLaws Setting).merge_self _

end Layer

/-- What a layer of the top becomes over a layer that may be missing. -/
def Layer.onto (below : Option Layer) (top : Layer) : Layer := (below.getD default).merge top

lemma mergeLayers_eq_overlay (base top : Table Layer) :
    mergeLayers base top = Table.overlay Layer.onto base top := rfl

lemma unionLaws_mergeLayers : UnionLaws LayersUnite .empty mergeLayers where
  unites_merge a b := by
    have hget : ∀ name, (Table.overlay Layer.onto a b).get? name =
        Table.stacked Layer.onto (a.get? name) (b.get? name) := Table.get?_overlay a b
    refine ⟨fun name => ?_, fun name => ?_, ?_⟩
    · rw [mergeLayers_eq_overlay, hget]
      cases b.get? name <;> simp [Table.stacked]
    · rw [mergeLayers_eq_overlay, hget]
      have hunion := Layer.unionLaws.unites_merge ((a.get? name).getD default)
        ((b.get? name).getD default)
      cases htop : b.get? name with
      | none =>
        rw [htop, Option.getD_none, Layer.unionLaws.merge_nothing] at hunion
        exact hunion
      | some top =>
        rw [htop] at hunion
        exact hunion
    · rw [mergeLayers_eq_overlay, Table.keys_overlay]
  assoc a b c := by
    simp only [mergeLayers_eq_overlay]
    refine Table.overlay_assoc fun name => ?_
    cases hthird : c.get? name with
    | none => rfl
    | some third =>
      refine congrArg some ?_
      cases htop : b.get? name with
      | none =>
        -- the layer of the top is put on the empty one first
        show _ = Layer.onto _ (Layer.merge default third)
        rw [Layer.unionLaws.nothing_merge third]
        rfl
      | some top => exact Layer.unionLaws.assoc _ _ _
  nothing_merge a := by
    rw [mergeLayers_eq_overlay]
    exact Table.overlay_empty fun name layer _ => Layer.unionLaws.nothing_merge layer
  merge_nothing a := rfl
  merge_self a := by
    rw [mergeLayers_eq_overlay]
    exact Table.overlay_self fun name layer _ => Layer.unionLaws.merge_self layer

/-- Nodes unite in their layers, fields and placeholders. -/
lemma Node.unionLaws : UnionLaws Unites default merge where
  unites_merge a b := ⟨Layer.unionLaws.unites_merge _ _, unionLaws_mergeLayers.unites_merge _ _,
    unionLaws_mergeLayers.unites_merge _ _⟩
  assoc a b c := by
    simp only [merge, Node.mk.injEq]
    exact ⟨Layer.unionLaws.assoc _ _ _, unionLaws_mergeLayers.assoc _ _ _,
      unionLaws_mergeLayers.assoc _ _ _⟩
  nothing_merge a := by
    cases a
    simp only [merge, Node.mk.injEq]
    exact ⟨Layer.unionLaws.nothing_merge _, unionLaws_mergeLayers.nothing_merge _,
      unionLaws_mergeLayers.nothing_merge _⟩
  merge_nothing a := by
    cases a
    simp only [merge, Node.mk.injEq]
    exact ⟨Layer.unionLaws.merge_nothing _, rfl, rfl⟩
  merge_self a := by
    cases a
    simp only [merge, Node.mk.injEq]
    exact ⟨Layer.unionLaws.merge_self _, unionLaws_mergeLayers.merge_self _,
      unionLaws_mergeLayers.merge_self _⟩

namespace ReadPermissions

@[simp] lemma node_merge (base top : ReadPermissions) (clause : Clause) :
    (base.merge top).node clause = (base.node clause).merge (top.node clause) := by
  cases clause <;> rfl

@[simp] lemma node_default (clause : Clause) :
    (default : ReadPermissions).node clause = default := by
  cases clause <;> rfl

/-- Read permissions with the same flags and nodes are the same. -/
lemma ext_node {p q : ReadPermissions} (hallowed : p.allowed = q.allowed)
    (hmaxLimit : p.maxLimit = q.maxLimit) (hnodes : ∀ clause, p.node clause = q.node clause) :
    p = q := by
  cases p
  cases q
  have hconditions := hnodes .conditions
  have hhaving := hnodes .having
  have horderBy := hnodes .orderBy
  have hgroupBy := hnodes .groupBy
  have hplaceholders := hnodes .placeholders
  simp_all [node]

/-- Read permissions unite node by node. -/
lemma unionLaws : UnionLaws Unites default merge where
  unites_merge p q := by
    refine ⟨by simp [merge], by simp [merge], fun clause => ?_⟩
    rw [node_merge]
    exact Node.unionLaws.unites_merge _ _
  assoc p q r := by
    refine ext_node (by simp [merge, Option.or_assoc]) (by simp [merge, Option.or_assoc])
      fun clause => ?_
    simp only [node_merge]
    exact Node.unionLaws.assoc _ _ _
  nothing_merge p := by
    refine ext_node (by simp [merge, default]) (by simp [merge, default]) fun clause => ?_
    rw [node_merge, node_default]
    exact Node.unionLaws.nothing_merge _
  merge_nothing p := by
    refine ext_node (by simp [merge, default]) (by simp [merge, default]) fun clause => ?_
    rw [node_merge, node_default]
    exact Node.unionLaws.merge_nothing _
  merge_self p := by
    refine ext_node (by simp [merge]) (by simp [merge]) fun clause => ?_
    rw [node_merge]
    exact Node.unionLaws.merge_self _

end ReadPermissions

/-! ## The union -/

/-- Layers, nodes and read permissions are put on top of each other as a union: what the top sets
counts, what it leaves open stays, in every flag, hook, bucket entry and clause, and the names keep
their order.  So putting them on top of each other is associative, the empty permissions change
nothing on either side, and a second time changes nothing. -/
theorem merging_is_a_union :
    UnionLaws Layer.Unites default Layer.merge ∧ UnionLaws Node.Unites default Node.merge ∧
    UnionLaws ReadPermissions.Unites default ReadPermissions.merge :=
  ⟨Layer.unionLaws, Node.unionLaws, ReadPermissions.unionLaws⟩

/-- Permissions that refuse an operator of a field. -/
def strictNames : Json :=
  .obj [("allowed", .bool true), ("where", .obj [("fields", .obj [("t.name", .obj [
    ("operators", .obj [("like", .bool false), ("eq", .bool true)])])])])]

/-- Permissions that have nothing to say of that operator any more: its entry is `null`.  They name
another field first, which is new. -/
def laxNames : Json :=
  .obj [("where", .obj [("permissive", .bool true), ("fields", .obj [
    ("t.year", .obj [("allowed", .bool true)]),
    ("t.name", .obj [("operators", .obj [("gt", .bool true), ("like", .null)])])])])]

/-- The `null` counts as an entry of the top, the other entries keep what the base says of them, the
new names come last, and the other clauses stay empty. -/
theorem lax_names_over_strict_names : ∃ strict lax : ReadPermissions,
    ReadPermissions.ofJson? strictNames = some strict ∧
    ReadPermissions.ofJson? laxNames = some lax ∧
    strict.Unites lax (strict.merge lax) ∧ strict.merge (lax.merge lax) = strict.merge lax ∧
    (strict.merge lax).allowed.map Setting.toJson = some (.bool true) ∧
    (strict.merge lax).conditions.fields.keys = ["t.name", "t.year"] ∧
    ((strict.merge lax).conditions.field? "t.name").map (fun layer =>
        layer.operators.entries.map fun entry => (entry.1, entry.2.toJson)) =
      some [("like", .null), ("eq", .bool true), ("gt", .bool true)] ∧
    (strict.merge lax).having.fields.keys = [] := by
  have hrun : (ReadPermissions.ofJson? strictNames).bind (fun strict =>
      (ReadPermissions.ofJson? laxNames).map fun lax =>
        ((strict.merge lax).allowed.map Setting.toJson, (strict.merge lax).conditions.fields.keys,
          ((strict.merge lax).conditions.field? "t.name").map (fun layer =>
            layer.operators.entries.map fun entry => (entry.1, entry.2.toJson)),
          (strict.merge lax).having.fields.keys)) =
      some (some (.bool true), ["t.name", "t.year"],
        some [("like", .null), ("eq", .bool true), ("gt", .bool true)], []) := by
    rfl
  obtain ⟨strict, hstrict, hrun⟩ := Option.bind_eq_some_iff.mp hrun
  obtain ⟨lax, hlax, hrun⟩ := Option.map_eq_some_iff.mp hrun
  simp only [Prod.mk.injEq] at hrun
  obtain ⟨hallowed, hfields, hname, hhaving⟩ := hrun
  obtain ⟨-, -, hunion⟩ := merging_is_a_union
  have hunites := hunion.unites_merge strict lax
  have htwice : lax.merge lax = lax := hunion.merge_self lax
  exact ⟨strict, lax, hstrict, hlax, hunites, congrArg _ htwice, hallowed, hfields, hname, hhaving⟩

end EntityGate
