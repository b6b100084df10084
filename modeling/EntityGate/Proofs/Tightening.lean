/-
# Denials

Permissions are tightened by turning flags and entries into the literal `false`, whether they were
set before or not.  What compiles under the tighter permissions compiles under the others to the
same query, but for one thing.  The fallbacks of a bucket depend on each other: a permissive field
leaves the word to the entry of its aggregate, and a field that is not permissive lets a permissive
aggregate decide in spite of that entry.  So a target can be refused below a permissive field and
allowed when the field is no longer permissive; and a flag or an entry that cannot be read stands
in the way of all that looks at it, which a denial does not.

Nothing else stands in the way.  In particular no denial of a group or a placeholder, and none by
an entry of a field, allows anything that was refused before.
-/
import EntityGate.Proofs.Acceptance

namespace EntityGate

open Decision Resolve

/-! ## Tighter permissions -/

/-- The setting that denies. -/
def Setting.denial : Setting := .literal (.bool false)

/-- A setting that is kept, or turned into a denial. -/
def Turns (s tight : Setting?) : Prop := tight = s ∨ tight = some .denial

namespace Turns

lemma refl (s : Setting?) : Turns s s := .inl rfl

lemma trans {s t u : Setting?} (h : Turns s t) (h' : Turns t u) : Turns s u := by
  rcases h' with rfl | rfl
  · exact h
  · exact .inr rfl

/-- A setting that resolves, and not to a denial, was kept. -/
lemma kept {s tight : Setting?} (h : Turns s tight) {registry : Registry} {ctx : Context}
    {name : String} {b : Option Bool} (hb : bool? registry ctx name tight = .ok b)
    (hdenied : b ≠ some false) : bool? registry ctx name s = .ok b := by
  rcases h with rfl | rfl
  · exact hb
  · cases hb
    exact (hdenied rfl).elim

end Turns

/-- A layer some of whose flags and entries are turned into denials. -/
structure Layer.Tightens (layer tight : Layer) : Prop where
  allowed : Turns layer.allowed tight.allowed
  permissive : Turns layer.permissive tight.permissive
  entries : ∀ bucket target,
    Turns ((layer.bucket bucket).get? target) ((tight.bucket bucket).get? target)
  hooks : tight.hooks = layer.hooks

/-- A field layer that is tightened; where there is none, it is the empty layer. -/
abbrev FieldTightens (field tight : Option Layer) : Prop :=
  (field.getD default).Tightens (tight.getD default)

/-- A node that is tightened, down to its fields and placeholders. -/
structure Node.Tightens (node tight : Node) : Prop where
  layer : node.toLayer.Tightens tight.toLayer
  fields : ∀ name, FieldTightens (node.fields.get? name) (tight.fields.get? name)
  placeholderNames : ∀ name,
    FieldTightens (node.placeholderNames.get? name) (tight.placeholderNames.get? name)

/-- Read permissions that are tightened; the largest limit is kept. -/
structure ReadPermissions.Tightens (permissions tight : ReadPermissions) : Prop where
  allowed : Turns permissions.allowed tight.allowed
  maxLimit : tight.maxLimit = permissions.maxLimit
  conditions : permissions.conditions.Tightens tight.conditions
  having : permissions.having.Tightens tight.having
  orderBy : permissions.orderBy.Tightens tight.orderBy
  groupBy : permissions.groupBy.Tightens tight.groupBy
  placeholders : permissions.placeholders.Tightens tight.placeholders

namespace Permission

variable {registry : Registry} {aggregate tightAggregate : Layer} {field tightField : Option Layer}
  {bucket : Bucket} {target : String} {ctx : Context}

/-! ## Targets of a bucket -/

/-- What stands in the way of a target that the field layer leaves open: a flag of the field or an
entry of the aggregate that cannot be read, or an entry that denies, below which the field is
permissive. -/
inductive Obstructed (registry : Registry) (aggregate : Layer) (field : Option Layer)
    (bucket : Bucket) (target : String) (ctx : Context) : Prop where
  | unreadableFlag (f : Fault) (hopen : explicitAnswer registry field bucket target ctx = .ok none)
      (hpermissive : fieldPermissive registry field target ctx = .error f)
  | unreadableEntry (f : Fault) (hopen : explicitAnswer registry field bucket target ctx = .ok none)
      (hentry : aggregateAnswer registry aggregate bucket target ctx = .error f)
  | deniedEntry (hopen : explicitAnswer registry field bucket target ctx = .ok none)
      (hpermissive : fieldPermissive registry field target ctx = .ok (some true))
      (hentry : aggregateAnswer registry aggregate bucket target ctx = .ok (some false))

/-- Nothing stands in the way of what is granted. -/
lemma Grants.unobstructed (h : Grants registry aggregate field bucket target ctx) :
    ¬ Obstructed registry aggregate field bucket target ctx := by
  rintro (⟨f, hopen', hpermissive'⟩ | ⟨f, hopen', hentry'⟩ | ⟨hopen', hpermissive', hentry'⟩) <;>
    cases h <;> simp_all

section

variable (haggregate : aggregate.Tightens tightAggregate) (hfield : FieldTightens field tightField)

include hfield in
lemma explicitAnswer_kept {b : Option Bool}
    (h : explicitAnswer registry tightField bucket target ctx = .ok b) (hb : b ≠ some false) :
    explicitAnswer registry field bucket target ctx = .ok b := by
  have hsetting : ∀ field : Option Layer, (field.bind fun f => (f.bucket bucket).get? target) =
      ((field.getD default).bucket bucket).get? target := by
    rintro (_ | field)
    · cases bucket <;> rfl
    · rfl
  rw [explicitAnswer, hsetting] at h ⊢
  exact (hfield.entries bucket target).kept h hb

include hfield in
lemma fieldPermissive_kept {b : Option Bool}
    (h : fieldPermissive registry tightField target ctx = .ok b) (hb : b ≠ some false) :
    fieldPermissive registry field target ctx = .ok b := by
  have hsetting : ∀ field : Option Layer, (field.bind fun f => f.permissive) =
      (field.getD default).permissive := by
    rintro (_ | field) <;> rfl
  rw [fieldPermissive, hsetting] at h ⊢
  exact hfield.permissive.kept h hb

include haggregate in
lemma aggregateAnswer_kept {b : Option Bool}
    (h : aggregateAnswer registry tightAggregate bucket target ctx = .ok b) (hb : b ≠ some false) :
    aggregateAnswer registry aggregate bucket target ctx = .ok b :=
  (haggregate.entries bucket target).kept h hb

include haggregate hfield

/-- What is granted by tighter layers is granted, unless something stands in the way. -/
lemma Grants.loosened (h : Grants registry tightAggregate tightField bucket target ctx)
    (hclear : ¬ Obstructed registry aggregate field bucket target ctx) :
    Grants registry aggregate field bucket target ctx := by
  cases h with
  | explicit h => exact .explicit (explicitAnswer_kept hfield h (by simp))
  | permissiveField entry hopen hpermissive hentry hdenied =>
    exact .permissiveField entry (explicitAnswer_kept hfield hopen (by simp))
      (fieldPermissive_kept hfield hpermissive (by simp))
      (aggregateAnswer_kept haggregate hentry hdenied) hdenied
  | aggregateEntry _ hopen _ _ hentry =>
    replace hopen := explicitAnswer_kept hfield hopen (by simp)
    replace hentry := aggregateAnswer_kept haggregate hentry (by simp)
    -- the flag of the field may have been anything before
    cases hpermissive : fieldPermissive registry field target ctx with
    | error f => exact (hclear (.unreadableFlag f hopen hpermissive)).elim
    | ok permissive =>
      by_cases hyes : permissive = some true
      · exact .permissiveField _ hopen (hyes ▸ hpermissive) hentry (by simp)
      · exact .aggregateEntry permissive hopen hpermissive hyes hentry
  | permissiveAggregate _ _ hopen _ _ _ _ hflag =>
    replace hopen := explicitAnswer_kept hfield hopen (by simp)
    replace hflag := haggregate.permissive.kept hflag (by simp)
    -- so may the flag of the field and the entry of the aggregate
    cases hpermissive : fieldPermissive registry field target ctx with
    | error f => exact (hclear (.unreadableFlag f hopen hpermissive)).elim
    | ok permissive =>
      cases hentry : aggregateAnswer registry aggregate bucket target ctx with
      | error f => exact (hclear (.unreadableEntry f hopen hentry)).elim
      | ok entry =>
        by_cases hyes : permissive = some true
        · subst hyes
          refine .permissiveField entry hopen hpermissive hentry ?_
          rintro rfl
          exact hclear (.deniedEntry hopen hpermissive hentry)
        · by_cases hallowed : entry = some true
          · exact .aggregateEntry permissive hopen hpermissive hyes (hallowed ▸ hentry)
          · exact .permissiveAggregate permissive entry hopen hpermissive hyes hentry hallowed hflag

/-! ## Values and flags -/

/-- The hooks of tighter layers pass what they passed before. -/
lemma passes_tightened {value after : Json} :
    Passes registry tightAggregate tightField value ctx after ↔
      Passes registry aggregate field value ctx after := by
  have hhooks : (tightField.getD default).hooks = (field.getD default).hooks := hfield.hooks
  have hmutate : ∀ field : Option Layer, (field.bind fun f => f.hooks.mutate) =
      (field.getD default).hooks.mutate := by rintro (_ | field) <;> rfl
  have hclosure : ∀ field : Option Layer, (field.bind fun f => f.hooks.closure) =
      (field.getD default).hooks.closure := by rintro (_ | field) <;> rfl
  have hmutates : mutateOf tightAggregate tightField = mutateOf aggregate field := by
    rw [mutateOf, mutateOf, hmutate, hmutate, hhooks, haggregate.hooks]
  have hcloses : closureOf tightAggregate tightField = closureOf aggregate field := by
    rw [closureOf, closureOf, hclosure, hclosure, hhooks, haggregate.hooks]
  constructor
  · rintro ⟨hreplaced, hagreed⟩
    exact ⟨hmutates ▸ hreplaced, hcloses ▸ hagreed⟩
  · rintro ⟨hreplaced, hagreed⟩
    exact ⟨hmutates.symm ▸ hreplaced, hcloses.symm ▸ hagreed⟩

/-- What is allowed by tighter flags is allowed. -/
lemma Allows.loosened
    (h : Allows registry tightAggregate (tightField.bind fun f => f.allowed) ctx) :
    Allows registry aggregate (field.bind fun f => f.allowed) ctx := by
  have hallowed : ∀ field : Option Layer, (field.bind fun f => f.allowed) =
      (field.getD default).allowed := by rintro (_ | field) <;> rfl
  rw [hallowed] at h ⊢
  cases h with
  | explicit h => exact .explicit (hfield.allowed.kept h (by simp))
  | permissiveAggregate hopen hflag =>
    exact .permissiveAggregate (hfield.allowed.kept hopen (by simp))
      (haggregate.permissive.kept hflag (by simp))

end

/-- Something stands in the way of a value that passes its hooks. -/
def Obstructs (registry : Registry) (aggregate : Layer) (field : Option Layer) (bucket : Bucket)
    (target : String) (value : Json) (ctx : Context) : Prop :=
  ∃ after, Passes registry aggregate field value ctx after ∧
    Obstructed registry aggregate field bucket target (ctx.withExtra "value" after)

/-- What hooks make of a value is determined. -/
lemma Passes.unique {value after after' : Json}
    (h : Passes registry aggregate field value ctx after)
    (h' : Passes registry aggregate field value ctx after') : after = after' := by
  obtain ⟨h, -⟩ := h
  obtain ⟨h', -⟩ := h'
  cases hhook : mutateOf aggregate field with
  | none =>
    rw [hhook] at h h'
    exact h.trans h'.symm
  | some s =>
    rw [hhook] at h h'
    exact Except.ok.inj (h.symm.trans h')

/-- Nothing stands in the way of what is permitted. -/
lemma Permits.unobstructed {value after : Json}
    (h : Permits registry aggregate field bucket target value ctx after) :
    ¬ Obstructs registry aggregate field bucket target value ctx := by
  rintro ⟨after', hpasses, hobstructed⟩
  obtain rfl := hpasses.unique h.passes
  exact h.grants.unobstructed hobstructed

/-- What tighter layers permit is permitted, unless something stands in the way. -/
lemma Permits.loosened (haggregate : aggregate.Tightens tightAggregate)
    (hfield : FieldTightens field tightField) {value after : Json}
    (h : Permits registry tightAggregate tightField bucket target value ctx after)
    (hclear : ¬ Obstructs registry aggregate field bucket target value ctx) :
    Permits registry aggregate field bucket target value ctx after := by
  have hpasses := (passes_tightened haggregate hfield).mp h.passes
  exact ⟨hpasses, h.grants.loosened haggregate hfield fun hobstructed =>
    hclear ⟨after, hpasses, hobstructed⟩⟩

end Permission

/-! ## Conditions -/

namespace FieldTest

/-- What the literals of a test become if the layers of a node permit it. -/
def Becomes (registry : Registry) (node : Node) (ctx : Context) (t : FieldTest) (after : Json) :
    Prop :=
  Permission.Permits registry node.toLayer (node.field? t.field) .operators t.operator.name
    (.arr t.literals) (Checked.testContext ctx t.field t.operator) after

/-- Something in the layers of a node stands in the way of a test. -/
def Obstructed (registry : Registry) (node : Node) (ctx : Context) (t : FieldTest) : Prop :=
  Permission.Obstructs registry node.toLayer (node.field? t.field) .operators t.operator.name
    (.arr t.literals) (Checked.testContext ctx t.field t.operator)

end FieldTest

/-- What a node permits of some tests, another one permits, with the same values. -/
def Replays (registry : Registry) (node other : Node) (ctx : Context) (tests : List FieldTest) :
    Prop :=
  ∀ t ∈ tests, ∀ after, t.Becomes registry node ctx after → t.Becomes registry other ctx after

namespace Replays

variable {registry : Registry} {node other : Node} {ctx : Context} {t : FieldTest}
  {tests more : List FieldTest}

lemma left (h : Replays registry node other ctx (tests ++ more)) :
    Replays registry node other ctx tests :=
  fun t ht => h t (List.mem_append_left _ ht)

lemma right (h : Replays registry node other ctx (tests ++ more)) :
    Replays registry node other ctx more :=
  fun t ht => h t (List.mem_append_right _ ht)

lemma tail (h : Replays registry node other ctx (t :: tests)) :
    Replays registry node other ctx tests :=
  fun t ht => h t (List.mem_cons_of_mem _ ht)

/-- Tighter permissions for tests are replayed, unless something stands in their way. -/
lemma of_tightens (h : other.Tightens node)
    (hclear : ∀ t ∈ tests, ¬ t.Obstructed registry other ctx) :
    Replays registry node other ctx tests :=
  fun t ht _ hafter => hafter.loosened h.layer (h.fields t.field) (hclear t ht)

end Replays

namespace Checked

variable {registry : Registry} {node other : Node} {ctx : Context}

lemma authorize_replays {field : String} {operator : Operator} {arguments : List CheckedArgument}
    {value : Json} {tests : List FieldTest}
    (h : Replays registry node other ctx (⟨field, operator, literals arguments⟩ :: tests))
    (hvalue : authorize registry node ctx field operator arguments = .ok value) :
    authorize registry other ctx field operator arguments = .ok value :=
  authorize_eq_ok.mpr (h _ List.mem_cons_self value (authorize_eq_ok.mp hvalue))

mutual
/-- A condition whose tests are replayed is built alike. -/
theorem build_replays : (c : Checked) → ∀ {bound : Bound} {made : Expr × Bound},
    Replays registry node other ctx c.tests → build registry node ctx bound c = .ok made →
      build registry other ctx bound c = .ok made
  | .group _ operator conditions, bound, made, hreplays, h => by
    rw [tests] at hreplays
    rw [build] at h ⊢
    obtain ⟨items, hitems, h⟩ := bind_eq_ok.mp h
    exact bind_eq_ok.mpr ⟨items, buildItems_replays conditions hreplays hitems, h⟩
  | .leaf _ field operator arguments, bound, made, hreplays, h => by
    rw [tests] at hreplays
    rw [build] at h ⊢
    obtain ⟨value, hvalue, h⟩ := bind_eq_ok.mp h
    refine bind_eq_ok.mpr ⟨value, authorize_replays hreplays hvalue, ?_⟩
    split at h
    · rename_i hmembership
      rw [if_pos hmembership]
      obtain ⟨operands, hoperands, h⟩ := bind_eq_ok.mp h
      exact bind_eq_ok.mpr ⟨operands, buildNested_replays arguments hreplays.tail hoperands, h⟩
    · rename_i hmembership
      rw [if_neg hmembership]
      obtain ⟨operands, hoperands, h⟩ := bind_eq_ok.mp h
      exact bind_eq_ok.mpr ⟨operands, buildOperands_replays arguments hreplays.tail hoperands, h⟩

theorem buildItems_replays : (cs : List Checked) → ∀ {bound : Bound} {made : List Expr × Bound},
    Replays registry node other ctx (itemTests cs) →
      buildItems registry node ctx bound cs = .ok made →
      buildItems registry other ctx bound cs = .ok made
  | [], bound, made, _, h => h
  | c :: rest, bound, made, hreplays, h => by
    rw [itemTests] at hreplays
    obtain ⟨e, between, others, he, hothers, hmade⟩ := buildItems_cons_eq_ok.mp h
    exact buildItems_cons_eq_ok.mpr ⟨e, between, others, build_replays c hreplays.left he,
      buildItems_replays rest hreplays.right hothers, hmade⟩

theorem buildNested_replays : (arguments : List CheckedArgument) →
    ∀ {bound : Bound} {made : List Operand × Bound},
    Replays registry node other ctx (argumentTests arguments) →
      buildNested registry node ctx bound arguments = .ok made →
      buildNested registry other ctx bound arguments = .ok made
  | [], bound, made, _, h => h
  | .literal _ :: rest, bound, made, hreplays, h => by
    rw [argumentTests] at hreplays
    rw [buildNested] at h ⊢
    exact buildNested_replays rest hreplays h
  | .nested c :: rest, bound, made, hreplays, h => by
    rw [argumentTests] at hreplays
    obtain ⟨e, between, others, he, hothers, hmade⟩ := buildNested_cons_eq_ok.mp h
    exact buildNested_cons_eq_ok.mpr ⟨e, between, others, build_replays c hreplays.left he,
      buildNested_replays rest hreplays.right hothers, hmade⟩

theorem buildOperands_replays : (arguments : List CheckedArgument) →
    ∀ {bound : Bound} {values : List Json} {made : List Operand × Bound},
    Replays registry node other ctx (argumentTests arguments) →
      buildOperands registry node ctx bound values arguments = .ok made →
      buildOperands registry other ctx bound values arguments = .ok made
  | [], bound, values, made, _, h => h
  | .literal v :: rest, bound, values, made, hreplays, h => by
    rw [argumentTests] at hreplays
    obtain ⟨others, hothers, hmade⟩ := buildOperands_literal_eq_ok.mp h
    exact buildOperands_literal_eq_ok.mpr
      ⟨others, buildOperands_replays rest hreplays hothers, hmade⟩
  | .nested c :: rest, bound, values, made, hreplays, h => by
    rw [argumentTests] at hreplays
    obtain ⟨e, between, others, he, hothers, hmade⟩ := buildOperands_nested_eq_ok.mp h
    exact buildOperands_nested_eq_ok.mpr ⟨e, between, others, build_replays c hreplays.left he,
      buildOperands_replays rest hreplays.right hothers, hmade⟩
end

/-- A clause whose tests are replayed is built alike. -/
theorem buildAll_replays {cs : List Checked} {bound : Bound} {made : Option Expr × Bound}
    (hreplays : Replays registry node other ctx (itemTests cs))
    (h : buildAll registry node ctx bound cs = .ok made) :
    buildAll registry other ctx bound cs = .ok made := by
  rw [buildAll_eq_buildFrom] at h ⊢
  generalize (none : Option Expr) = acc at h ⊢
  induction cs generalizing acc bound with
  | nil => exact h
  | cons c rest ih =>
    rw [itemTests] at hreplays
    rw [buildFrom] at h ⊢
    obtain ⟨built, hbuilt, h⟩ := bind_eq_ok.mp h
    exact bind_eq_ok.mpr ⟨built, build_replays c hreplays.left hbuilt, ih hreplays.right _ h⟩

end Checked

/-! ## Compilations -/

namespace Decision

/-- A loop each of whose passes returns what another one returns. -/
lemma mapM_eq_ok_of_imp {ε α β : Type} {f g : α → Except ε β} {l : List α} {bs : List β}
    (hpass : ∀ a ∈ l, ∀ b, f a = .ok b → g a = .ok b) (h : l.mapM f = .ok bs) :
    l.mapM g = .ok bs := by
  induction l generalizing bs with
  | nil => exact h
  | cons a l ih =>
    obtain ⟨b, hb, rest, hrest, rfl⟩ := mapM_cons_eq_ok.mp h
    exact mapM_cons_eq_ok.mpr ⟨b, hpass a List.mem_cons_self b hb, rest,
      ih (fun a ha => hpass a (List.mem_cons_of_mem _ ha)) hrest, rfl⟩

end Decision

namespace ReadRequest

/-- The request under some permissions, which take the place of those that are configured and of
those of the call. -/
def under (r : ReadRequest) (permissions : ReadPermissions) : ReadRequest :=
  { r with
    config := { r.config with read := { r.config.read with permissions } }
    overrides := { r.overrides with permissions := none } }

/-- A request is under its own permissions. -/
lemma compile_under_permissions (registry : Registry) (r : ReadRequest) :
    compile registry (r.under r.permissions) = compile registry r := rfl

/-- Something in the permissions stands in the way of a test or an order at some depth of a
request. -/
inductive Obstructed (registry : Registry) (r : ReadRequest) (permissions : ReadPermissions) :
    Prop where
  | condition (checked : CheckedQuery) (h : CheckedQuery.of r.frontEnd.query = .ok checked)
      (t : FieldTest) (ht : t ∈ Checked.itemTests checked.conditions)
      (hobstructed : t.Obstructed registry permissions.conditions r.ctx)
  | having (checked : CheckedQuery) (h : CheckedQuery.of r.frontEnd.query = .ok checked)
      (t : FieldTest) (ht : t ∈ Checked.itemTests checked.having)
      (hobstructed : t.Obstructed registry permissions.having r.ctx)
  | order (checked : CheckedQuery) (h : CheckedQuery.of r.frontEnd.query = .ok checked)
      (field : String) (direction : Direction) (hasked : (field, direction) ∈ checked.orders)
      (hobstructed : Permission.Obstructs registry permissions.orderBy.toLayer
        (permissions.orderBy.field? field) .directions direction.name (.str direction.name)
        (r.ctx.withExtra "field" (.str field)))

end ReadRequest

namespace Compile

variable {registry : Registry} {r : ReadRequest} {permissions tight : ReadPermissions}

/-- Nothing stands in the way of what compiles. -/
lemma unobstructed_of_compile {q : QuerySpec}
    (h : (compile registry (r.under permissions)).outcome.1 = .ok q) :
    ¬ r.Obstructed registry permissions := by
  obtain ⟨checked, spec, bound, authorized, hresolving, hauthorizing, -⟩ := compile_eq_ok.mp h
  have hchecked : CheckedQuery.of r.frontEnd.query = .ok checked :=
    (resolving_eq_ok.mp hresolving).1
  obtain ⟨_, _, _, _, _, _, orders, -, -, hconditions, hhaving, horders, -⟩ :=
    authorizing_eq_ok.mp hauthorizing
  rintro (⟨_, h, t, ht, hobstructed⟩ | ⟨_, h, t, ht, hobstructed⟩ |
    ⟨_, h, field, direction, hasked, hobstructed⟩)
  all_goals obtain rfl := Except.ok.inj (h.symm.trans hchecked)
  · obtain ⟨after, hafter⟩ := (Checked.buildAll_sound hconditions).1 t ht
    exact hafter.unobstructed hobstructed
  · obtain ⟨after, hafter⟩ := (Checked.buildAll_sound hhaving).1 t ht
    exact hafter.unobstructed hobstructed
  · obtain ⟨clause, hclause⟩ := exists_mapM_eq_ok.mp ⟨orders, horders⟩ _ hasked
    obtain ⟨after, hafter, -⟩ := authorizeOrder_eq_ok.mp hclause
    exact hafter.unobstructed hobstructed

/-- What compiles under tighter permissions compiles to the same query, if nothing stands in the
way. -/
lemma compile_loosened (htight : permissions.Tightens tight)
    (hclear : ¬ r.Obstructed registry permissions) {q : QuerySpec}
    (h : (compile registry (r.under tight)).outcome.1 = .ok q) :
    (compile registry (r.under permissions)).outcome.1 = .ok q := by
  obtain ⟨checked, spec, bound, authorized, hresolving, hauthorizing, hassembling⟩ :=
    compile_eq_ok.mp h
  have hchecked : CheckedQuery.of r.frontEnd.query = .ok checked :=
    (resolving_eq_ok.mp hresolving).1
  obtain ⟨backEnd, frontEnd, conditions, bound₁, having, bound₂, orders, hbackEnd, hfrontEnd,
    hconditions, hhaving, horders, hgroups, rfl⟩ := authorizing_eq_ok.mp hauthorizing
  refine compile_eq_ok.mpr ⟨checked, spec, bound, _, hresolving, authorizing_eq_ok.mpr
    ⟨backEnd, frontEnd, conditions, bound₁, having, bound₂, orders, hbackEnd, ?_, ?_, ?_, ?_, ?_,
      rfl⟩, ?_⟩
  · refine mapM_eq_ok_of_imp (fun entry _ made hmade => ?_) hfrontEnd
    obtain ⟨hfree, after, ⟨hallows, hpasses⟩, hmade⟩ := frontEndPlaceholder_eq_ok_iff.mp hmade
    exact frontEndPlaceholder_eq_ok_iff.mpr ⟨hfree, after,
      ⟨hallows.loosened htight.placeholders.layer (htight.placeholders.placeholderNames entry.1),
        (Permission.passes_tightened htight.placeholders.layer
          (htight.placeholders.placeholderNames entry.1)).mp hpasses⟩, hmade⟩
  · exact Checked.buildAll_replays (.of_tightens htight.conditions fun t ht hobstructed =>
      hclear (.condition checked hchecked t ht hobstructed)) hconditions
  · exact Checked.buildAll_replays (.of_tightens htight.having fun t ht hobstructed =>
      hclear (.having checked hchecked t ht hobstructed)) hhaving
  · refine mapM_eq_ok_of_imp (fun asked hasked clause hclause => ?_) horders
    obtain ⟨after, hpermits, hclause⟩ := authorizeOrder_eq_ok.mp hclause
    exact authorizeOrder_eq_ok.mpr ⟨after, hpermits.loosened htight.orderBy.layer
      (htight.orderBy.fields asked.1) fun hobstructed =>
        hclear (.order checked hchecked asked.1 asked.2 hasked hobstructed), hclause⟩
  · refine forM_eq_ok.mpr fun field hfield => ?_
    obtain ⟨⟨after, hpasses⟩, hallows⟩ :=
      authorizeGroup_eq_ok.mp (forM_eq_ok.mp hgroups field hfield)
    exact authorizeGroup_eq_ok.mpr ⟨⟨after, (Permission.passes_tightened htight.groupBy.layer
      (htight.groupBy.fields field)).mp hpasses⟩,
      hallows.loosened htight.groupBy.layer (htight.groupBy.fields field)⟩
  · have hlimit : (r.under tight).permissions.maxLimit =
        (r.under permissions).permissions.maxLimit := htight.maxLimit
    unfold assembling at hassembling ⊢
    rw [hlimit] at hassembling
    exact hassembling

end Compile

/-! ## Overrides made of denials -/

/-- A layer that sets nothing but denials. -/
structure Layer.Denies (layer : Layer) : Prop where
  allowed : Turns none layer.allowed
  permissive : Turns none layer.permissive
  entries : ∀ bucket, ∀ entry ∈ (layer.bucket bucket).entries, entry.2 = .denial
  hooks : layer.hooks = default

/-- A node that sets nothing but denials, down to its fields and placeholders. -/
structure Node.Denies (node : Node) : Prop where
  layer : node.toLayer.Denies
  fields : ∀ entry ∈ node.fields.entries, entry.2.Denies
  placeholderNames : ∀ entry ∈ node.placeholderNames.entries, entry.2.Denies

/-- Read permissions that set nothing but denials. -/
structure ReadPermissions.Denies (permissions : ReadPermissions) : Prop where
  allowed : Turns none permissions.allowed
  maxLimit : permissions.maxLimit = none
  conditions : permissions.conditions.Denies
  having : permissions.having.Denies
  orderBy : permissions.orderBy.Denies
  groupBy : permissions.groupBy.Denies
  placeholders : permissions.placeholders.Denies

/-- A denial on top of a setting turns it. -/
lemma Turns.of_top {top : Setting?} (h : Turns none top) (s : Setting?) : Turns s (top <|> s) := by
  rcases h with rfl | rfl
  · exact .refl s
  · exact .inr rfl

/-- A merged table holds under a key what it held before, or what was merged in. -/
lemma Table.get?_merge_cases {α : Type} (t other : Table α) (key : String) :
    (t.merge other).get? key = t.get? key ∨
      ∃ v, (key, v) ∈ other.entries ∧ (t.merge other).get? key = some v := by
  rw [merge_eq_foldl]
  by_cases hkey : key ∈ other.entries.map Prod.fst
  · exact .inr (get?_foldl_insert_of_mem hkey t)
  · exact .inl (get?_foldl_insert_of_notMem hkey t)

namespace Layer

lemma Tightens.refl (layer : Layer) : layer.Tightens layer :=
  ⟨.refl _, .refl _, fun _ _ => .refl _, rfl⟩

lemma Tightens.trans {layer tight tighter : Layer} (h : layer.Tightens tight)
    (h' : tight.Tightens tighter) : layer.Tightens tighter :=
  ⟨h.allowed.trans h'.allowed, h.permissive.trans h'.permissive,
    fun bucket target => (h.entries bucket target).trans (h'.entries bucket target),
    h'.hooks.trans h.hooks⟩

/-- Denials on top of a layer tighten it. -/
lemma tightens_merge (layer : Layer) {top : Layer} (h : top.Denies) :
    layer.Tightens (layer.merge top) where
  allowed := h.allowed.of_top _
  permissive := h.permissive.of_top _
  entries bucket target := by
    rw [bucket_merge]
    rcases Table.get?_merge_cases (layer.bucket bucket) (top.bucket bucket) target with
      hkept | ⟨v, hv, hget⟩
    · exact .inl hkept
    · exact .inr (hget.trans (congrArg some (h.entries bucket _ hv)))
  hooks := by
    show layer.hooks.merge top.hooks = layer.hooks
    rw [h.hooks]
    cases layer.hooks
    rfl

end Layer

/-- Denials on top of layers by name tighten each of them. -/
lemma mergeLayers_tightens {top : Table Layer} (h : ∀ entry ∈ top.entries, entry.2.Denies)
    (base : Table Layer) (name : String) :
    FieldTightens (base.get? name) ((mergeLayers base top).get? name) := by
  rw [mergeLayers]
  generalize top.entries = entries at h ⊢
  induction entries generalizing base with
  | nil => exact .refl _
  | cons entry rest ih =>
    obtain ⟨key, layer⟩ := entry
    obtain ⟨hlayer, hrest⟩ := List.forall_mem_cons.mp h
    rw [List.foldl_cons]
    refine Layer.Tightens.trans ?_ (ih _ hrest)
    rw [Table.get?_insert]
    split
    · rename_i hname
      subst hname
      exact Layer.tightens_merge _ hlayer
    · exact .refl _

lemma Node.tightens_merge (node : Node) {top : Node} (h : top.Denies) :
    node.Tightens (node.merge top) where
  layer := node.toLayer.tightens_merge h.layer
  fields := mergeLayers_tightens h.fields node.fields
  placeholderNames := mergeLayers_tightens h.placeholderNames node.placeholderNames

/-- An override made of denials tightens what is configured. -/
lemma ReadPermissions.tightens_merge (permissions : ReadPermissions) {top : ReadPermissions}
    (h : top.Denies) : permissions.Tightens (permissions.merge top) where
  allowed := h.allowed.of_top _
  maxLimit := by
    show (top.maxLimit <|> permissions.maxLimit) = permissions.maxLimit
    rw [h.maxLimit]
    rfl
  conditions := permissions.conditions.tightens_merge h.conditions
  having := permissions.having.tightens_merge h.having
  orderBy := permissions.orderBy.tightens_merge h.orderBy
  groupBy := permissions.groupBy.tightens_merge h.groupBy
  placeholders := permissions.placeholders.tightens_merge h.placeholders

namespace Compile

/-- What compiles under tighter permissions compiles to the same query if and only if nothing in
the other permissions stands in the way of its tests and orders, and it compiles to no other query.
The same holds of a request with an override made of denials and the request without it. -/
theorem tightened_compiles (registry : Registry) (r : ReadRequest) :
    (∀ permissions tight q, permissions.Tightens tight →
      (compile registry (r.under tight)).outcome.1 = .ok q →
      ((compile registry (r.under permissions)).outcome.1 = .ok q ↔
        ¬ r.Obstructed registry permissions) ∧
      ∀ q', (compile registry (r.under permissions)).outcome.1 = .ok q' → q' = q) ∧
    ∀ top q, r.overrides.permissions = some top → top.Denies →
      (compile registry r).outcome.1 = .ok q →
      ((compile registry (r.under r.config.read.permissions)).outcome.1 = .ok q ↔
        ¬ r.Obstructed registry r.config.read.permissions) ∧
      ∀ q', (compile registry (r.under r.config.read.permissions)).outcome.1 = .ok q' → q' = q := by
  have htightened : ∀ permissions tight q, permissions.Tightens tight →
      (compile registry (r.under tight)).outcome.1 = .ok q →
      ((compile registry (r.under permissions)).outcome.1 = .ok q ↔
        ¬ r.Obstructed registry permissions) ∧
      ∀ q', (compile registry (r.under permissions)).outcome.1 = .ok q' → q' = q := by
    intro permissions tight q htight hq
    refine ⟨⟨unobstructed_of_compile, fun hclear => compile_loosened htight hclear hq⟩,
      fun q' hq' => ?_⟩
    have hsame := compile_loosened htight (unobstructed_of_compile hq') hq
    exact Except.ok.inj (hq'.symm.trans hsame)
  refine ⟨htightened, fun top q htop hdenies hq => ?_⟩
  have hpermissions : r.permissions = r.config.read.permissions.merge top := by
    rw [ReadRequest.permissions, htop]
  rw [← ReadRequest.compile_under_permissions, hpermissions] at hq
  exact htightened _ _ q (r.config.read.permissions.tightens_merge hdenies) hq

/-! ## Names -/

/-- Permissions with a permissive aggregate, an entry of it for equality, and the flag of a field
below it. -/
def namesBelow (entry flag : Setting) : ReadPermissions :=
  { (default : ReadPermissions) with
    conditions := { permissiveNode with
      operators := .ofList [("eq", entry)]
      fields := .ofList [("t.name", { (default : Layer) with permissive := some flag })] } }

/-- The permissions with both of them denied. -/
def deniedNames : ReadPermissions := namesBelow .denial .denial

/-- What a client sends for a name. -/
def nameCondition : Condition := ⟨some "t.name", .and, "eq", [.str "ada"], []⟩

/-- A request for the rows with a name. -/
def namesRequest : ReadRequest where
  entityType := "person"
  config := default
  frontEnd := { (default : FrontEndOptions) with
    query := { (default : FrontEndQuery) with conditions := [nameCondition] } }
  overrides := default
  ctx := .ofCall .null .null .null .null

/-- That request after the structural checks. -/
def checkedNames : CheckedQuery := ⟨[.leaf .and "t.name" .eq [.literal (.str "ada")]], [], [], []⟩

/-- The query it starts from. -/
def namesBase : QuerySpec :=
  { QuerySpec.ofType "person" with
    select := ["t"]
    sources := [⟨"person", "t", none⟩]
    cache := ⟨true, true, true, none, none, none, none⟩ }

lemma namesBelow_tightens (entry flag : Setting) :
    (namesBelow entry flag).Tightens deniedNames := by
  have hnode : (default : Node).Tightens default :=
    ⟨.refl _, fun _ => .refl _, fun _ => .refl _⟩
  refine ⟨.refl _, rfl, ⟨⟨.refl _, .refl _, ?_, rfl⟩, ?_, fun _ => .refl _⟩, hnode, hnode, hnode,
    hnode⟩
  · rintro (_ | _ | _ | _) target
    · show Turns (List.lookup target [("eq", entry)]) (List.lookup target [("eq", .denial)])
      rw [Table.lookup_cons, Table.lookup_cons]
      split
      · exact .inr rfl
      · exact .refl _
    all_goals exact .refl _
  · intro name
    show FieldTightens (List.lookup name [("t.name", _)]) (List.lookup name [("t.name", _)])
    rw [Table.lookup_cons, Table.lookup_cons]
    split
    · exact ⟨.refl _, .inr rfl, fun _ _ => .refl _, rfl⟩
    · exact .refl _

lemma namesRequest_resolving (permissions : ReadPermissions) :
    resolving .standard (namesRequest.under permissions) = .ok (checkedNames, namesBase, []) := by
  refine resolving_eq_ok.mpr ⟨?_, rfl, rfl⟩
  have hdepth : nameCondition.argumentDepth = 2 := rfl
  have hwritten : Condition.isNested (.str "ada") = false := rfl
  have hconditions : (namesRequest.under permissions).frontEnd.query.conditions = [nameCondition] :=
    rfl
  simp only [CheckedQuery.of, hconditions, Condition.check, List.mapM_cons, hdepth]
  simp only [nameCondition, Condition.checkWithin, Condition.checkArguments, hwritten]
  rfl

/-- The request fails as its authorization does. -/
lemma namesRequest_refused {permissions : ReadPermissions} {f : Fault}
    (h : authorizing .standard (namesRequest.under permissions) checkedNames namesBase [] =
      .error f) :
    (compile .standard (namesRequest.under permissions)).outcome.1 = .error f := by
  have hrun : (compile .standard (namesRequest.under permissions)).outcome =
      compile .standard (namesRequest.under permissions) [] := rfl
  rw [hrun, compile_run, namesRequest_resolving]
  dsimp only
  rw [h]

lemma deniedNames_compile :
    ∃ q, (compile .standard (namesRequest.under deniedNames)).outcome.1 = .ok q :=
  ⟨_, compile_eq_ok.mpr ⟨_, _, _, _, namesRequest_resolving _, rfl, rfl⟩⟩

/-- The permissions with both of them allowed. -/
def allowedNames : ReadPermissions := namesBelow (.literal (.bool true)) (.literal (.bool true))

lemma allowedNames_compile :
    ∃ q, (compile .standard (namesRequest.under allowedNames)).outcome.1 = .ok q :=
  ⟨_, compile_eq_ok.mpr ⟨_, _, _, _, namesRequest_resolving _, rfl, rfl⟩⟩

/-- Denials of the field and of the entry. -/
def nameDenials : ReadPermissions :=
  { (default : ReadPermissions) with
    conditions := { (default : Node) with
      operators := .ofList [("eq", .denial)]
      fields := .ofList [("t.name", { (default : Layer) with permissive := some .denial })] } }

lemma nameDenials_denies : nameDenials.Denies := by
  have hlayer : ∀ permissive, Turns none permissive →
      ({ (default : Layer) with permissive } : Layer).Denies := by
    refine fun permissive hpermissive => ⟨.refl _, hpermissive, ?_, rfl⟩
    rintro (_ | _ | _ | _) entry hentry <;> cases hentry
  have hnode : (default : Node).Denies :=
    ⟨hlayer none (.refl _), fun _ hentry => (List.not_mem_nil hentry).elim,
      fun _ hentry => (List.not_mem_nil hentry).elim⟩
  refine ⟨.refl _, rfl, ⟨⟨.refl _, .refl _, ?_, rfl⟩, ?_, fun _ hentry =>
    (List.not_mem_nil hentry).elim⟩, hnode, hnode, hnode, hnode⟩
  · rintro (_ | _ | _ | _) entry hentry
    · rw [List.mem_singleton.mp hentry]
    all_goals cases hentry
  · intro entry hentry
    rw [List.mem_singleton.mp hentry]
    exact hlayer _ (.inr rfl)

/-- The request with these denials as an override of the permissions with both allowed. -/
def overriddenRequest : ReadRequest :=
  { namesRequest.under allowedNames with
    overrides := { (default : CallOptions) with permissions := some nameDenials } }

lemma overriddenRequest_compile : compile .standard overriddenRequest =
    compile .standard (namesRequest.under deniedNames) := by
  have hpermissions : overriddenRequest.permissions = deniedNames := rfl
  rw [← ReadRequest.compile_under_permissions, hpermissions]
  rfl

/-- Names that are allowed compile to the query that they compile to when they are denied, since
the aggregate is permissive; and so nothing stands in their way. -/
theorem allowedNames_tightened :
    allowedNames.Tightens deniedNames ∧ nameDenials.Denies ∧
    (∃ q, (compile .standard (namesRequest.under deniedNames)).outcome.1 = .ok q ∧
      (compile .standard (namesRequest.under allowedNames)).outcome.1 = .ok q ∧
      ¬ namesRequest.Obstructed .standard allowedNames) ∧
    ∃ q, (compile .standard overriddenRequest).outcome.1 = .ok q ∧
      (compile .standard (overriddenRequest.under allowedNames)).outcome.1 = .ok q := by
  have htightens : allowedNames.Tightens deniedNames := namesBelow_tightens _ _
  obtain ⟨denied, hdenied⟩ := deniedNames_compile
  obtain ⟨allowed, hallowed⟩ := allowedNames_compile
  have hoverridden : (compile .standard overriddenRequest).outcome.1 = .ok denied := by
    rw [overriddenRequest_compile, hdenied]
  refine ⟨htightens, nameDenials_denies, ⟨denied, hdenied, ?_⟩, denied, hoverridden, ?_⟩
  · obtain ⟨hiff, hunique⟩ := (tightened_compiles .standard namesRequest).1 allowedNames
      deniedNames denied htightens hdenied
    obtain rfl := hunique allowed hallowed
    exact ⟨hallowed, hiff.mp hallowed⟩
  · obtain ⟨-, hunique⟩ := (tightened_compiles .standard overriddenRequest).2 nameDenials
      denied rfl nameDenials_denies hoverridden
    obtain rfl := hunique allowed hallowed
    exact hallowed

/-- A denial may widen: names are refused below a permissive field whose aggregate denies them, and
where the flag of the field or the entry of the aggregate is no truth value; but if both are turned
into denials, the aggregate is permissive. -/
theorem denials_widen :
    ((namesBelow .denial (.literal (.bool true))).Tightens deniedNames ∧
      (namesBelow .denial (.literal (.str "yes"))).Tightens deniedNames ∧
      (namesBelow (.literal (.str "yes")) .denial).Tightens deniedNames) ∧
    (∃ q, (compile .standard (namesRequest.under deniedNames)).outcome.1 = .ok q) ∧
    (compile .standard (namesRequest.under
      (namesBelow .denial (.literal (.bool true))))).outcome.1 =
        .error (.operatorNotAllowed "t.name" "eq") ∧
    (compile .standard (namesRequest.under
      (namesBelow .denial (.literal (.str "yes"))))).outcome.1 =
        .error (.typeMismatch "permissive" "a boolean" (.str "yes")) ∧
    (compile .standard (namesRequest.under
      (namesBelow (.literal (.str "yes")) .denial))).outcome.1 =
        .error (.typeMismatch "operators.eq" "a boolean" (.str "yes")) :=
  ⟨⟨namesBelow_tightens _ _, namesBelow_tightens _ _, namesBelow_tightens _ _⟩,
    deniedNames_compile, namesRequest_refused rfl, namesRequest_refused rfl,
    namesRequest_refused rfl⟩

end Compile

end EntityGate
