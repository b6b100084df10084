/-
# Items under their chains

A relation of simplified params gets a map of chains.  What is created is listed there, everything
else stands under the text of its id, where a later item takes the place of an earlier one.  So the
params of a chain are read as the entries of the items that *stand*, and as nothing else; the same
holds of the params as a whole.

From it comes that the expansion is well formed: at every relation, at every depth, the map is one
from chain names to params that are read as entries of the chain, and every entry is an element
that follows the rules.
-/
import EntityGate.Proofs.Tables
import EntityGate.Proofs.Unfolding

namespace EntityGate

open Decision

/-! ## Entries that take the place of others -/

namespace Json

variable {k : String} {v : Json} {fields : List (String × Json)}

lemma sortedFields_concat (entries : List (String × Json)) (k : String) (v : Json) :
    sortedFields (entries ++ [(k, v)]) = insertField k v (sortedFields entries) := by
  rw [sortedFields, List.foldl_append]
  rfl

/-- A value that is put under a key takes the place of the one that was there. -/
lemma insertField_perm_eraseField (h : Increasing fields) :
    (insertField k v fields).Perm ((k, v) :: eraseField k fields) := by
  by_cases hk : k ∈ fields.map Prod.fst
  · induction fields with
    | nil => cases hk
    | cons entry rest ih =>
      obtain ⟨l, w⟩ := entry
      obtain ⟨hhead, hrest⟩ := List.pairwise_cons.mp h
      rw [insertField, eraseField, List.filter_cons]
      by_cases hsame : k = l
      · subst hsame
        have hnot : k ∉ rest.map Prod.fst := by
          intro hmem
          obtain ⟨entry, hentry, rfl⟩ := List.mem_map.mp hmem
          exact String.lt_irrefl _ (hhead entry hentry)
        rw [if_pos rfl, if_neg (by simp)]
        exact .cons _ (.of_eq (eraseField_eq_self hnot).symm)
      · have hmem : k ∈ rest.map Prod.fst := (List.mem_cons.mp hk).resolve_left hsame
        have hlt : ¬ k < l := by
          obtain ⟨entry, hentry, rfl⟩ := List.mem_map.mp hmem
          exact fun hlt => String.lt_irrefl _ (String.lt_trans hlt (hhead entry hentry))
        rw [if_neg hsame, if_neg hlt, if_pos (by simpa using Ne.symm hsame)]
        exact ((ih hrest hmem).cons (l, w)).trans (.swap (k, v) (l, w) _)
  · rw [eraseField_eq_self hk]
    exact insertField_perm hk

/-- Of entries that are put into an object, those are left that no later one under the same key
takes the place of, and of the object what no entry takes the place of. -/
lemma foldl_insertField_perm {entries fields : List (String × Json)} (h : Increasing fields) :
    (entries.foldl (fun acc (k, v) => insertField k v acc) fields).Perm
      (entries.pwFilter (fun e f => e.1 ≠ f.1) ++
        fields.filter fun e => e.1 ∉ entries.map Prod.fst) := by
  induction entries generalizing fields with
  | nil => exact .of_eq (by simp)
  | cons entry rest ih =>
    obtain ⟨k, v⟩ := entry
    have hinsert := (insertField_perm_eraseField (k := k) (v := v) h).filter
      fun e => e.1 ∉ rest.map Prod.fst
    have herase : (eraseField k fields).filter (fun e => e.1 ∉ rest.map Prod.fst) =
        fields.filter fun e => e.1 ∉ ((k, v) :: rest).map Prod.fst := by
      rw [eraseField, List.filter_filter]
      refine List.filter_congr fun e _ => ?_
      grind
    refine ((ih (increasing_insertField h)).trans (hinsert.append_left _)).trans ?_
    rw [List.filter_cons, herase]
    have hlater : (∀ e ∈ rest.pwFilter fun e f => e.1 ≠ f.1, k ≠ e.1) ↔
        k ∉ rest.map Prod.fst := by
      rw [List.forall_mem_pwFilter (R := fun e f : String × Json => e.1 ≠ f.1) (by grind) (k, v),
        List.mem_map, not_exists]
      exact forall_congr' fun e => ⟨fun h hboth => h hboth.1 hboth.2.symm,
        fun h he hsame => h ⟨he, hsame.symm⟩⟩
    by_cases hk : k ∈ rest.map Prod.fst
    · rw [if_neg (by simpa using hk), List.pwFilter_cons_of_neg (by rw [hlater]; simpa using hk)]
    · rw [if_pos (by simpa using hk), List.pwFilter_cons_of_pos (hlater.mpr hk)]
      exact List.perm_middle

lemma sortedFields_perm_pwFilter (entries : List (String × Json)) :
    (sortedFields entries).Perm (entries.pwFilter fun e f => e.1 ≠ f.1) := by
  have hall := @foldl_insertField_perm entries [] List.Pairwise.nil
  rw [List.filter_nil, List.append_nil] at hall
  exact hall

end Json

namespace Simplified

/-! ## The map of chains -/

namespace Item

/-- The key that an item stands under, if it has an id. -/
def key (item : Item) : String := item.id.elim "" idKey

/-- The entry that an item is read as: what is created has no id. -/
def entry (item : Item) : Entry :=
  ⟨if item.chain = .create then none else some (.str item.key), item.fields⟩

/-- The value under a key, where an item stands under its id. -/
def field (item : Item) : String × Json := (item.key, .obj item.fields)

/-- An item has an id unless it is created. -/
def Identified (item : Item) : Prop := item.chain = .create ∨ item.id.isSome

end Item

/-- The params of a chain that some items make up: a list of what is created, a map from ids of
anything else. -/
def paramsOf (chain : Chain) (items : List Item) : Json :=
  match chain with
  | .create => .arr (items.map fun item => .obj item.fields)
  | _ => .obj (Json.sortedFields (items.map Item.field))

/-- The items that lie under a chain. -/
def under (chain : Chain) (items : List Item) : List Item :=
  items.filter fun item => item.chain = chain

section

variable {chains after : List (String × Json)} {item : Item} {items : List Item}

lemma paramsOf_create (items : List Item) :
    paramsOf .create items = .arr (items.map fun item => .obj item.fields) := rfl

lemma paramsOf_of_ne {chain : Chain} (h : chain ≠ .create) (items : List Item) :
    paramsOf chain items = .obj (Json.sortedFields (items.map Item.field)) := by
  cases chain with
  | create => exact absurd rfl h
  | read => rfl
  | update => rfl
  | delete => rfl

/-- What is placed goes behind what stands under its chain already. -/
lemma place_eq_ok (h : place chains item item.fields = .ok after) : item.Identified ∧
    after = Json.insertField item.chain.name
      (if item.chain = .create then
        .arr (((Json.lookup item.chain.name chains).bind Json.items?).getD [] ++ [.obj item.fields])
      else .obj (Json.insertField item.key (.obj item.fields)
        (((Json.lookup item.chain.name chains).bind Json.fields?).getD []))) chains := by
  obtain ⟨chain, id, fields⟩ := item
  unfold place at h
  cases chain with
  | create =>
    cases h
    exact ⟨.inl rfl, rfl⟩
  | _ =>
    cases id with
    | none => cases h
    | some id =>
      cases h
      exact ⟨.inr rfl, rfl⟩

/-- An item is put behind those that stand under its chain; other chains are not affected. -/
lemma lookup_place {own : List Item}
    (hown : Json.lookup item.chain.name chains =
      if own = [] then none else some (paramsOf item.chain own))
    (h : place chains item item.fields = .ok after) :
    Json.lookup item.chain.name after = some (paramsOf item.chain (own ++ [item])) := by
  obtain ⟨-, rfl⟩ := place_eq_ok h
  rw [Json.lookup_insertField, if_pos rfl, hown]
  by_cases hchain : item.chain = .create
  · rw [if_pos hchain, hchain, paramsOf_create, paramsOf_create, List.map_append]
    split
    · rename_i hnil
      rw [hnil]
      rfl
    · rfl
  · rw [if_neg hchain, paramsOf_of_ne hchain, paramsOf_of_ne hchain, List.map_append,
      List.map_singleton, Item.field, Json.sortedFields_concat]
    split
    · rename_i hnil
      rw [hnil]
      rfl
    · rfl

/-- A map that items were put into has under each chain the params that its items make up. -/
theorem lookup_of_arranged (h : Arranged items chains) (chain : Chain) :
    Json.lookup chain.name chains =
      if under chain items = [] then none else some (paramsOf chain (under chain items)) := by
  -- from the end, since each item was put behind those before it
  induction items using List.reverseRecOn generalizing chains with
  | nil =>
    cases h
    rfl
  | append_singleton items item ih =>
    rw [Arranged, List.foldlM_append] at h
    obtain ⟨between, hbetween, h⟩ := bind_eq_ok.mp h
    obtain ⟨last, hlast, h⟩ := bind_eq_ok.mp h
    cases h
    rw [under, List.filter_append]
    by_cases hchain : item.chain = chain
    · subst hchain
      rw [List.filter_cons_of_pos (by simp), List.filter_nil, if_neg (by simp)]
      exact lookup_place (ih hbetween) hlast
    · have hname : chain.name ≠ item.chain.name := fun hsame => hchain (Chain.name_inj hsame).symm
      rw [List.filter_cons_of_neg (by simpa using hchain), List.filter_nil, List.append_nil]
      obtain ⟨-, rfl⟩ := place_eq_ok hlast
      rw [Json.lookup_insertField, if_neg hname]
      exact ih hbetween

/-- Items that were put into a map all have ids, unless they are created. -/
lemma identified_of_arranged (h : Arranged items chains) : ∀ item ∈ items, item.Identified := by
  induction items using List.reverseRecOn generalizing chains with
  | nil => exact List.forall_mem_nil _
  | append_singleton items last ih =>
    rw [Arranged, List.foldlM_append] at h
    obtain ⟨between, hbetween, h⟩ := bind_eq_ok.mp h
    obtain ⟨after, hlast, h⟩ := bind_eq_ok.mp h
    intro item hitem
    rcases List.mem_append.mp hitem with hmem | hmem
    · exact ih hbetween item hmem
    · rw [List.mem_singleton.mp hmem]
      exact (place_eq_ok hlast).1

/-- A map that items were put into has chains for keys, and each of them once. -/
lemma keys_of_arranged (h : Arranged items chains) : Increasing chains ∧
    ∀ request ∈ chains, ∃ chain : Chain, request.1 = chain.name := by
  refine foldlM_eq_ok_induct (p := fun chains : List (String × Json) => Increasing chains ∧
    ∀ request ∈ chains, ∃ chain : Chain, request.1 = chain.name)
    (fun before item after hbefore hplace => ?_)
    ⟨List.Pairwise.nil, List.forall_mem_nil _⟩ h
  obtain ⟨-, rfl⟩ := place_eq_ok hplace
  refine ⟨Json.increasing_insertField hbefore.1, fun request hrequest => ?_⟩
  rcases Json.mem_insertField hrequest with rfl | hmem
  · exact ⟨item.chain, rfl⟩
  · exact hbefore.2 request hmem

/-! ### The entries of a chain -/

lemma ofParams_obj {chain : Chain} (h : chain ≠ .create) (fields : List (String × Json)) :
    Entry.ofParams chain (.obj fields) = fields.mapM fun (id, v) => Entry.ofIdField id v := by
  cases chain with
  | create => exact absurd rfl h
  | read => rfl
  | update => rfl
  | delete => rfl

/-- Two items have places of their own: they lie under different chains, or they are created, or
they stand under different keys. -/
def Item.Apart (i j : Item) : Prop := i.chain ≠ j.chain ∨ i.chain = .create ∨ i.key ≠ j.key

instance : DecidableRel Item.Apart := fun i j =>
  inferInstanceAs (Decidable (i.chain ≠ j.chain ∨ i.chain = .create ∨ i.key ≠ j.key))

/-- The items that no later one takes the place of. -/
def standing (items : List Item) : List Item := items.pwFilter Item.Apart

lemma Item.Apart.split {i j k : Item} (h : i.Apart k) : i.Apart j ∨ j.Apart k := by
  unfold Apart at *
  grind

lemma standing_cons (item : Item) (rest : List Item) : standing (item :: rest) =
    if ∀ j ∈ rest, item.Apart j then item :: standing rest else standing rest := by
  rw [standing, List.pwFilter, List.foldr_cons, ← List.pwFilter]
  exact if_congr (List.forall_mem_pwFilter (R := Item.Apart) Item.Apart.split item rest) rfl rfl

/-- The items of one chain that stand are told apart by their keys. -/
lemma standing_eq_of_ne {chain : Chain} (hchain : chain ≠ .create)
    (h : ∀ item ∈ items, item.chain = chain) :
    standing items = items.pwFilter fun i j => i.field.1 ≠ j.field.1 := by
  induction items with
  | nil => rfl
  | cons item rest ih =>
    obtain ⟨hitem, hrest⟩ := List.forall_mem_cons.mp h
    have hsame : (∀ j ∈ rest.pwFilter Item.Apart, item.Apart j) ↔
        ∀ j ∈ rest.pwFilter fun i j => i.field.1 ≠ j.field.1, item.field.1 ≠ j.field.1 := by
      rw [← standing, ih hrest]
      refine forall₂_congr fun j hj => ?_
      have hj : j.chain = chain := hrest j (List.pwFilter_subset _ hj)
      simp [Item.Apart, hitem, hj, hchain, Item.field]
    rw [standing] at ih ⊢
    by_cases hapart : ∀ j ∈ rest.pwFilter Item.Apart, item.Apart j
    · rw [List.pwFilter_cons_of_pos hapart, List.pwFilter_cons_of_pos (hsame.mp hapart), ih hrest]
    · rw [List.pwFilter_cons_of_neg hapart,
        List.pwFilter_cons_of_neg fun h => hapart (hsame.mpr h), ih hrest]

lemma standing_eq_self (h : ∀ item ∈ items, item.chain = .create) : standing items = items :=
  List.pwFilter_eq_self.mpr (List.pairwise_of_forall_mem_list fun i hi _ _ => .inr (.inl (h i hi)))

/-- The params that items of one chain make up are read as the entries of those that stand, and
what is created is read in order. -/
lemma ofParams_paramsOf {chain : Chain} (h : ∀ item ∈ items, item.chain = chain) :
    ∃ entries, Entry.ofParams chain (paramsOf chain items) = .ok entries ∧
      entries.Perm ((standing items).map Item.entry) ∧
        (chain = .create → entries = items.map Item.entry) := by
  by_cases hchain : chain = .create
  · subst hchain
    refine ⟨items.map Item.entry, ?_, .of_eq (by rw [standing_eq_self h]), fun _ => rfl⟩
    rw [paramsOf_create, Entry.ofParams, List.mapM_map]
    refine mapM_eq_ok_map fun item hitem => ?_
    rw [Item.entry, if_pos (h item hitem)]
    rfl
  · let read (e : String × Json) : Entry := ⟨some (.str e.1), e.2.fields?.getD []⟩
    refine ⟨(Json.sortedFields (items.map Item.field)).map read, ?_, ?_,
      fun hcreate => absurd hcreate hchain⟩
    · rw [paramsOf_of_ne hchain, ofParams_obj hchain]
      refine mapM_eq_ok_map fun e he => ?_
      obtain ⟨item, -, rfl⟩ := List.mem_map.mp (Json.mem_sortedFields he)
      rfl
    · have hread : ∀ item ∈ standing items, read item.field = item.entry := by
        intro item hitem
        have hitem : item.chain = chain := h item (List.pwFilter_subset _ hitem)
        rw [Item.entry, if_neg (hitem ▸ hchain)]
        rfl
      have hperm := (Json.sortedFields_perm_pwFilter (items.map Item.field)).map read
      rw [List.pwFilter_map, ← standing_eq_of_ne hchain h, List.map_map] at hperm
      rw [← List.map_congr_left hread]
      exact hperm

end

/-! ## Whole params -/

/-- The elements of simplified params: those of a list, or the one object; `null` has none. -/
def inputs (params : Json) : List Json := (items? params).getD []

/-- An element of simplified params and the item that it becomes: its fields are unfolded, without
the id where it is not created, and a bare id has no fields. -/
inductive Heads (schema : Schema) (rel : Arrangement) (entityType : String) :
    Chain → Json → Item → Prop
  | created {fields expanded : List (String × Json)} :
    Unfolds schema rel entityType fields expanded →
      Heads schema rel entityType .create (.obj fields) ⟨.create, none, expanded⟩
  | identified {chain : Chain} {id : Json} {source expanded : List (String × Json)} :
    chain ≠ .create → Entry.idOf? source = some id →
      Unfolds schema rel entityType (Json.eraseField "id" source) expanded →
        Heads schema rel entityType chain (.obj source) ⟨chain, some id, expanded⟩
  | text {chain : Chain} {s : String} : chain ≠ .create →
    Heads schema rel entityType chain (.str s) ⟨chain, some (.str s), []⟩
  | number {chain : Chain} {n : Number} : chain ≠ .create →
    Heads schema rel entityType chain (.num n) ⟨chain, some (.num n), []⟩

section

variable {schema : Schema} {rel : Arrangement} {entityType : String} {chain : Chain}

lemma Heads.chain_eq {v : Json} {item : Item} (h : Heads schema rel entityType chain v item) :
    item.chain = chain := by
  cases h <;> rfl

lemma chain_of_heads {elements : List Json} {items : List Item}
    (h : List.Forall₂ (Heads schema rel entityType chain) elements items) :
    ∀ item ∈ items, item.chain = chain := by
  induction h with
  | nil => exact List.forall_mem_nil _
  | cons hhead _ ih => exact List.forall_mem_cons.mpr ⟨hhead.chain_eq, ih⟩

variable {next : List (String × Json) → Except Fault (List (String × Json))} {depth : Nat}
  (hnext : ∀ fields expanded, Json.depthFields fields < depth → next fields = .ok expanded →
    Unfolds schema rel entityType fields expanded)

include hnext in
/-- Elements that are created are listed. -/
lemma heads_of_mapM {elements listed : List Json} (hdepth : ∀ v ∈ elements, v.depth ≤ depth)
    (h : elements.mapM (fun v => do return Json.obj (← next (← created v))) = .ok listed) :
    ∃ items, List.Forall₂ (Heads schema rel entityType .create) elements items ∧
      listed = items.map fun item => Json.obj item.fields := by
  induction elements generalizing listed with
  | nil =>
    cases h
    exact ⟨[], .nil, rfl⟩
  | cons v rest ih =>
    obtain ⟨hv, hrest⟩ := List.forall_mem_cons.mp hdepth
    obtain ⟨made, hmade, others, hothers, rfl⟩ := mapM_cons_eq_ok.mp h
    obtain ⟨items, hitems, rfl⟩ := ih hrest hothers
    obtain ⟨fields, hfields, hmade⟩ := bind_eq_ok.mp hmade
    obtain ⟨expanded, hexpanded, hmade⟩ := bind_eq_ok.mp hmade
    cases hmade
    cases v with
    | obj source =>
      cases hfields
      exact ⟨⟨.create, none, expanded⟩ :: items, .cons (.created (hnext _ _ hv hexpanded)) hitems,
        rfl⟩
    | _ => cases hfields

include hnext in
/-- Elements that are not created are put under their ids. -/
lemma heads_of_foldlM (hchain : chain ≠ .create) (hempty : 0 < depth) {elements : List Json}
    (hdepth : ∀ v ∈ elements, v.depth ≤ depth) {before after : List (String × Json)}
    (h : elements.foldlM (fun byId v => do
      let (id, fields) ← identified chain v
      return Json.insertField (idKey id) (.obj (← next fields)) byId) before = .ok after) :
    ∃ items, List.Forall₂ (Heads schema rel entityType chain) elements items ∧
      after = (items.map Item.field).foldl (fun acc (k, v) => Json.insertField k v acc) before := by
  induction elements generalizing before with
  | nil =>
    cases h
    exact ⟨[], .nil, rfl⟩
  | cons v rest ih =>
    obtain ⟨hv, hrest⟩ := List.forall_mem_cons.mp hdepth
    rw [List.foldlM_cons] at h
    obtain ⟨between, hstep, h⟩ := bind_eq_ok.mp h
    obtain ⟨items, hitems, rfl⟩ := ih hrest h
    obtain ⟨⟨id, fields⟩, hidentified, hstep⟩ := bind_eq_ok.mp hstep
    obtain ⟨expanded, hexpanded, hstep⟩ := bind_eq_ok.mp hstep
    cases hstep
    refine ⟨⟨chain, some id, expanded⟩ :: items, .cons ?_ hitems, rfl⟩
    unfold identified at hidentified
    split at hidentified
    · split at hidentified
      · rename_i hid
        cases hidentified
        have hshallow := Json.depthFields_eraseField_le "id" _ |>.trans_lt hv
        exact .identified hchain hid (hnext _ _ hshallow hexpanded)
      · cases hidentified
    · cases hidentified
      cases hnext [] expanded hempty hexpanded
      exact .text hchain
    · cases hidentified
      cases hnext [] expanded hempty hexpanded
      exact .number hchain
    · cases hidentified

end

lemma depth_of_inputs {params v : Json} (h : v ∈ inputs params) : v.depth ≤ params.depth := by
  cases params with
  | arr elements => exact (Json.depth_le_depthItems h).trans (Nat.le_succ _)
  | obj fields => exact Nat.le_of_eq (congrArg Json.depth (List.mem_singleton.mp h))
  | _ => cases h

/-- Params other than `null` are expanded element by element. -/
lemma expand_eq_ok {schema : Schema} {entityType : String} {chain : Chain} {params out : Json}
    (hnull : params ≠ .null) (h : expand schema entityType chain params = .ok out) :
    let next := expandFields schema (params.depth + 1) entityType
    (if chain = .create then do
      return Json.arr (← (inputs params).mapM fun v => do
        return Json.obj (← next (← created v)))
    else do
      let byId ← (inputs params).foldlM (fun byId v => do
        let (id, fields) ← identified chain v
        return Json.insertField (idKey id) (.obj (← next fields)) byId) []
      return Json.obj byId) = .ok out := by
  cases params with
  | null => exact absurd rfl hnull
  | arr elements => exact h
  | obj fields => exact h
  | bool b => cases h
  | num n => cases h
  | str s => cases h

/-- Params that are expanded unfold, and what they are expanded to is read as the entries of the
items that stand, in order where they are created. -/
theorem expand_unfolds {schema : Schema} {rel : Arrangement}
    (hrel : ∀ {target defaultAssign : String} {elements : List Json}
      {items : List (List (String × Json) × Item)} {chains : List (String × Json)},
      ItemsUnfold schema rel target defaultAssign elements items →
        Arranged (items.map Prod.snd) chains → rel defaultAssign items chains)
    {entityType : String} {chain : Chain} {params out : Json}
    (h : expand schema entityType chain params = .ok out) :
    ∃ items, List.Forall₂ (Heads schema rel entityType chain) (inputs params) items ∧
      ∃ entries, Entry.ofParams chain out = .ok entries ∧
        entries.Perm ((standing items).map Item.entry) ∧
          (chain = .create → entries = items.map Item.entry) := by
  have hnext : ∀ fields expanded, Json.depthFields fields < params.depth + 1 →
      expandFields schema (params.depth + 1) entityType fields = .ok expanded →
        Unfolds schema rel entityType fields expanded :=
    fun _ _ => unfolds_of_expandFields hrel _ entityType
  have hdepth : ∀ v ∈ inputs params, v.depth ≤ params.depth + 1 := fun v hv =>
    (depth_of_inputs hv).trans (Nat.le_succ _)
  by_cases hnull : params = .null
  · subst hnull
    cases h
    exact ⟨[], .nil, [], by cases chain <;> rfl, .refl _, fun _ => rfl⟩
  · have hitems : ∃ items, List.Forall₂ (Heads schema rel entityType chain) (inputs params) items ∧
        out = paramsOf chain items := by
      have hloop := expand_eq_ok hnull h
      by_cases hchain : chain = .create
      · subst hchain
        obtain ⟨listed, hlisted, hloop⟩ := bind_eq_ok.mp hloop
        cases hloop
        obtain ⟨items, hitems, rfl⟩ := heads_of_mapM hnext hdepth hlisted
        exact ⟨items, hitems, rfl⟩
      · simp only [if_neg hchain] at hloop
        obtain ⟨byId, hbyId, hloop⟩ := bind_eq_ok.mp hloop
        cases hloop
        obtain ⟨items, hitems, rfl⟩ :=
          heads_of_foldlM hnext hchain (Nat.succ_pos _) hdepth hbyId
        exact ⟨items, hitems, (paramsOf_of_ne hchain items).symm⟩
    obtain ⟨items, hheads, rfl⟩ := hitems
    exact ⟨items, hheads, ofParams_paramsOf (chain_of_heads hheads)⟩

/-! ## Well-formed chains -/

/-- A map of chains is well formed for the elements of a relation: its keys are names of chains,
each of them once, what is under them is read as entries of the chain, with an id where nothing is
created, and every entry is the one of an element that follows the rules. -/
def WellFormed : Arrangement := fun defaultAssign items chains =>
  Increasing chains ∧ ∀ request ∈ chains, ∃ chain : Chain, request.1 = chain.name ∧
    ∃ entries, Entry.ofParams chain request.2 = .ok entries ∧ ∀ e ∈ entries,
      (chain ≠ .create → e.id.isSome) ∧ ∃ element ∈ items, element.2.chain = chain ∧
        element.2.Identified ∧ e = element.2.entry ∧ element.2.Follows defaultAssign element.1

section

variable {schema : Schema}
  (hassign : ∀ entityType, schema.association? entityType "assignType" = none)

include hassign in
/-- An item still follows the rules when its fields have been unfolded. -/
lemma Item.Follows.unfolds {rel : Arrangement} {item : Item} {defaultAssign target : String}
    {source expanded : List (String × Json)} (h : item.Follows defaultAssign source)
    (hunfolds : Unfolds schema rel target item.fields expanded) :
    (⟨item.chain, item.id, expanded⟩ : Item).Follows defaultAssign source :=
  { named := h.named
    created := h.created
    updated := h.updated
    read := h.read
    id := h.id
    assign := (hunfolds.lookup (hassign target)).trans h.assign
    stripped := by
      rw [hunfolds.keys]
      exact h.stripped }

include hassign in
lemma follows_of_itemsUnfold {rel : Arrangement} {target defaultAssign : String}
    {elements : List Json} {items : List (List (String × Json) × Item)}
    (h : ItemsUnfold schema rel target defaultAssign elements items) :
    ∀ element ∈ items, element.2.Follows defaultAssign element.1 := by
  induction elements generalizing items with
  | nil =>
    cases h
    exact List.forall_mem_nil _
  | cons v rest ih =>
    cases h with
    | cons _ hfollows _ hunfolds hrest =>
      exact List.forall_mem_cons.mpr ⟨hfollows.unfolds hassign hunfolds, ih hrest⟩

lemma Item.isSome_entry_id {item : Item} (h : item.chain ≠ .create) : item.entry.id.isSome := by
  rw [entry, if_neg h]
  rfl

/-- The map that items were put into is well formed if all of them follow the rules. -/
lemma wellFormed_of_arranged {defaultAssign : String}
    {items : List (List (String × Json) × Item)} {chains : List (String × Json)}
    (hfollows : ∀ element ∈ items, element.2.Follows defaultAssign element.1)
    (h : Arranged (items.map Prod.snd) chains) : WellFormed defaultAssign items chains := by
  obtain ⟨hincreasing, hnames⟩ := keys_of_arranged h
  refine ⟨hincreasing, fun request hrequest => ?_⟩
  obtain ⟨chain, hname⟩ := hnames request hrequest
  have hparams : request.2 = paramsOf chain (under chain (items.map Prod.snd)) := by
    have hfound : Json.lookup chain.name chains = some request.2 :=
      Table.lookup_eq_some_of_mem hincreasing.nodup (hname ▸ hrequest)
    rw [lookup_of_arranged h] at hfound
    split at hfound
    · cases hfound
    · exact (Option.some.inj hfound).symm
  have hunder : ∀ item ∈ under chain (items.map Prod.snd), item.chain = chain := fun item hitem =>
    of_decide_eq_true (List.mem_filter.mp hitem).2
  obtain ⟨entries, hread, hperm, -⟩ := ofParams_paramsOf hunder
  refine ⟨chain, hname, entries, hparams ▸ hread, fun e he => ?_⟩
  obtain ⟨item, hitem, rfl⟩ := List.mem_map.mp (hperm.mem_iff.mp he)
  have hmem := List.pwFilter_subset _ hitem
  have hchain := hunder item hmem
  obtain ⟨element, helement, rfl⟩ := List.mem_map.mp (List.mem_filter.mp hmem).1
  exact ⟨fun hne => Item.isSome_entry_id (hchain ▸ hne), element, helement, hchain,
    identified_of_arranged h element.2 (List.mem_map_of_mem helement), rfl,
    hfollows element helement⟩

end

/-- Simplified params expand to well-formed params with chains: the params themselves are read as
entries of their chain, each of them one of the elements, and so it goes on at every relation at
every depth. -/
theorem expand_wellFormed {schema : Schema}
    (hassign : ∀ entityType, schema.association? entityType "assignType" = none)
    {entityType : String} {chain : Chain} {params out : Json}
    (h : expand schema entityType chain params = .ok out) :
    ∃ items, List.Forall₂ (Heads schema WellFormed entityType chain) (inputs params) items ∧
      ∃ entries, Entry.ofParams chain out = .ok entries ∧ ∀ e ∈ entries,
        (chain ≠ .create → e.id.isSome) ∧ ∃ item ∈ items, e = item.entry := by
  obtain ⟨items, hheads, entries, hread, hperm, -⟩ := expand_unfolds
    (fun hitems harranged => wellFormed_of_arranged (follows_of_itemsUnfold hassign hitems)
      harranged) h
  refine ⟨items, hheads, entries, hread, fun e he => ?_⟩
  obtain ⟨item, hitem, rfl⟩ := List.mem_map.mp (hperm.mem_iff.mp he)
  have hmem := List.pwFilter_subset _ hitem
  exact ⟨fun hne => Item.isSome_entry_id (chain_of_heads hheads item hmem ▸ hne), item, hmem, rfl⟩

/-- Albums that have tracks. -/
def albums : Schema := fun entityType =>
  if entityType = "album" then [⟨"tracks", "track", true⟩] else []

lemma albums_assignType (entityType : String) :
    albums.association? entityType "assignType" = none := by
  dsimp only [albums, Schema.association?]
  split <;> rfl

theorem albums_expand_wellFormed :
    let params : Json := .arr [.obj [("id", .str "a"), ("tracks", .arr [
      .str "t", .obj [("title", .str "Intro")],
      .obj [("chainType", .str "delete"), ("id", .str "u")]])]]
    let chains : List (String × Json) := [
      ("create", .arr [.obj [("assignType", .str "addSingle"), ("title", .str "Intro")]]),
      ("delete", .obj [("u", .obj [])]),
      ("read", .obj [("t", .obj [("assignType", .str "addSingle")])])]
    let out : Json := .obj [("a", .obj [("tracks", .obj chains)])]
    expand albums "album" .update params = .ok out ∧
    ∃ items, List.Forall₂ (Heads albums WellFormed "album" .update) (inputs params) items ∧
      ∃ entries, Entry.ofParams .update out = .ok entries ∧ ∀ e ∈ entries,
        (Chain.update ≠ .create → e.id.isSome) ∧ ∃ item ∈ items, e = item.entry :=
  ⟨rfl, expand_wellFormed albums_assignType rfl⟩

/-- An element with an id and a `chainType` that is `null` has a field besides its id and its
assignment, and names no chain; it is read all the same and not updated. -/
theorem albums_expand_nullChain :
    let element : List (String × Json) := [("chainType", .null), ("id", .str "t")]
    expand albums "album" .update
        (.arr [.obj [("id", .str "a"), ("tracks", .arr [.obj element])]]) =
      .ok (.obj [("a", .obj [("tracks", .obj [
        ("read", .obj [("t", .obj [("assignType", .str "addSingle")])])])])]) ∧
    (∀ name, ¬ Names element name) ∧ Entry.idOf? element = some (.str "t") ∧
      ∃ field ∈ element, field.1 ∉ ["id", "assignType"] := by
  refine ⟨rfl, fun name hname => ?_, rfl, ("chainType", .null), List.mem_cons_self, by decide⟩
  cases hname

end Simplified

end EntityGate
