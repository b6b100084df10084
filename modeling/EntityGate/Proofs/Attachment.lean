/-
# Changes of relations as operations on sets

A collection of ids stands for the set of their texts, and its changes act on it as set operations
do.  The ids that no change takes away stay in their order, and those that are added follow them.
A relation to one entity is replaced or cleared, and taking away an entity that it does not hold
does nothing to it.  A change of an undeclared relation keeps the whole record out of the store.
-/
import EntityGate.Proofs.Upkeep
import Mathlib.Data.Finset.Dedup
import Mathlib.Data.Finset.Filter
import Mathlib.Data.Finset.Lattice.Lemmas
import Mathlib.Data.Finset.SDiff

namespace EntityGate

/-! ## Specification -/

namespace Json

/-- The ids of a collection; whatever is no list has none. -/
def ids (value : Option Json) : List Json := (value.bind items?).getD []

/-- The id of the one entity of a relation. -/
def held : Option Json → Option Json
  | some .null => none
  | value => value

/-- The keys of some ids. -/
def idKeys (ids : List Json) : Finset String := (ids.map idKey).toFinset

end Json

namespace Assign

/-- What an assignment makes of a set of keys. -/
def onKeys (a : Assign) (key : String) (keys : Finset String) : Finset String :=
  match a with
  | set | setSingle => {key}
  | add | addSingle => keys ∪ {key}
  | remove | removeSingle => keys \ {key}
  | setNull => ∅
  | null => keys

/-- What an assignment makes of an entity that may be held. -/
def onHeld (a : Assign) (target : Json) (held : Option Json) : Option Json :=
  match a with
  | set | setSingle | add | addSingle => Json.held (some target)
  | remove | removeSingle => held.filter fun id => idKey id ≠ idKey target
  | setNull => none
  | null => held

/-- Whether an assignment of some key takes another one away. -/
def takes (a : Assign) (key other : String) : Bool :=
  match a with
  | set | setSingle | setNull => true
  | remove | removeSingle => other = key
  | add | addSingle | null => false

/-- Whether it brings its own key. -/
def brings : Assign → Bool
  | set | setSingle | add | addSingle => true
  | remove | removeSingle | setNull | null => false

end Assign

namespace Change

/-- The id that a change is about. -/
def id (c : Change) : Json := c.target.getD .null

/-- Some changes attach something to a relation. -/
def Attach (changes : List Change) (relation : String) : Prop :=
  ∃ c ∈ changes, c.relation = relation ∧ c.assign.attaches = true

/-- The changes of one relation. -/
def under (relation : String) (changes : List Change) : List Change :=
  changes.filter fun c => c.relation = relation

/-- What some changes make of a set of keys, one after the other. -/
def keysAfter (changes : List Change) (keys : Finset String) : Finset String :=
  changes.foldl (fun keys c => c.assign.onKeys (idKey c.id) keys) keys

/-- What they make of an entity that may be held. -/
def heldAfter (changes : List Change) (held : Option Json) : Option Json :=
  changes.foldl (fun held c => c.assign.onHeld c.id held) held

/-- The ids of a collection after some changes. -/
structure Collected (changes : List Change) (before after : List Json) : Prop where
  distinct : (after.map idKey).Nodup
  keys : Json.idKeys after = keysAfter changes (Json.idKeys before)
  /-- What no change took away stays in its order, and what was added follows it in the order of
  the changes. -/
  order : ∃ added,
    after = before.filter (fun id => changes.all fun c => !c.assign.takes (idKey c.id) (idKey id))
      ++ added ∧
    added.Sublist ((changes.filter fun c => c.assign.brings).map Change.id)

/-- The fields of a row after some changes. -/
structure Attached (schema : Schema) (entityType : String) (changes : List Change)
    (before after : List (String × Json)) : Prop where
  many : ∀ relation a, schema.association? entityType relation = some a → a.toMany = true →
    Attach changes relation → ((Json.ids (Json.lookup relation before)).map idKey).Nodup →
    ∃ ids, Json.lookup relation after = some (.arr ids) ∧
      Collected (under relation changes) (Json.ids (Json.lookup relation before)) ids
  one : ∀ relation a, schema.association? entityType relation = some a → a.toMany = false →
    Attach changes relation → Json.lookup relation after =
      some ((heldAfter (under relation changes)
        (Json.held (Json.lookup relation before))).getD .null)
  others : ∀ field, ¬ Attach changes field → Json.lookup field after = Json.lookup field before

end Change

/-! ## One change of a collection -/

namespace Json

lemma mem_idKeys {key : String} {ids : List Json} : key ∈ idKeys ids ↔ key ∈ ids.map idKey :=
  List.mem_toFinset

lemma idKeys_append (ids more : List Json) : idKeys (ids ++ more) = idKeys ids ∪ idKeys more := by
  ext key
  simp only [mem_idKeys, Finset.mem_union, List.map_append, List.mem_append]

lemma idKeys_filter (p : String → Bool) (ids : List Json) :
    idKeys (ids.filter fun id => p (idKey id)) = (idKeys ids).filter fun key => p key = true := by
  ext key
  simp only [mem_idKeys, Finset.mem_filter, List.mem_map, List.mem_filter]
  constructor
  · rintro ⟨id, ⟨hmem, hp⟩, rfl⟩
    exact ⟨⟨id, hmem, rfl⟩, hp⟩
  · rintro ⟨⟨id, hmem, rfl⟩, hp⟩
    exact ⟨id, ⟨hmem, hp⟩, rfl⟩

end Json

namespace Assign

/-- The ids that an assignment leaves where they are. -/
def kept (a : Assign) (target : Json) (ids : List Json) : List Json :=
  ids.filter fun id => !a.takes (idKey target) (idKey id)

/-- The id that it appends, if any. -/
def arrival (a : Assign) (target : Json) (ids : List Json) : List Json :=
  if a.brings = true ∧ idKey target ∉ (a.kept target ids).map idKey then [target] else []

/-- The first id with a key is the only one. -/
lemma removeId_eq_filter {target : Json} {ids : List Json} (h : (ids.map idKey).Nodup) :
    removeId target ids = ids.filter fun id => !decide (idKey id = idKey target) := by
  induction ids with
  | nil => rfl
  | cons id rest ih =>
    obtain ⟨hid, hrest⟩ := List.nodup_cons.mp h
    rw [removeId]
    by_cases htarget : idKey id = idKey target
    · rw [if_pos htarget, List.filter_cons_of_neg (by simpa using htarget)]
      refine (List.filter_eq_self.mpr fun other hother => ?_).symm
      have hne : idKey other ≠ idKey target := by
        rw [← htarget]
        exact fun hsame => hid (hsame ▸ List.mem_map_of_mem hother)
      simpa using hne
    · rw [if_neg htarget, List.filter_cons_of_pos (by simpa using htarget), ih hrest]

lemma addId_eq (target : Json) (ids : List Json) :
    addId target ids = ids ++ if idKey target ∉ ids.map idKey then [target] else [] := by
  have hany : (ids.any fun id => idKey id = idKey target) = true ↔
      idKey target ∈ ids.map idKey := by
    simp [List.any_eq_true]
  rw [addId]
  by_cases hmem : idKey target ∈ ids.map idKey
  · rw [if_pos (hany.mpr hmem), if_neg (not_not.mpr hmem), List.append_nil]
  · rw [if_neg (mt hany.mp hmem), if_pos hmem]

/-- An assignment to a collection leaves some ids where they are, and appends at most one. -/
lemma applyMany_eq (a : Assign) (target : Json) {ids : List Json} (h : (ids.map idKey).Nodup) :
    a.applyMany ids target = a.kept target ids ++ a.arrival target ids := by
  cases a with
  | set | setSingle => simp [applyMany, arrival, kept, takes, brings]
  | add | addSingle =>
    rw [applyMany, addId_eq]
    simp [arrival, kept, takes, brings]
  | remove | removeSingle =>
    rw [applyMany, removeId_eq_filter h]
    simp [arrival, kept, takes, brings]
  | setNull | null => simp [applyMany, arrival, kept, takes, brings]

/-- The set operation, told in the same way. -/
lemma onKeys_eq (a : Assign) (key : String) (keys : Finset String) :
    a.onKeys key keys = (keys.filter fun other => (!a.takes key other) = true) ∪
      if a.brings = true then {key} else ∅ := by
  ext other
  cases a <;> simp [onKeys, takes, brings]

/-- An id that is brought and not appended is there already. -/
lemma idKeys_arrival (a : Assign) (target : Json) (ids : List Json) :
    Json.idKeys (a.kept target ids) ∪ Json.idKeys (a.arrival target ids) =
      Json.idKeys (a.kept target ids) ∪ if a.brings = true then {idKey target} else ∅ := by
  rw [arrival]
  by_cases hbrings : a.brings = true
  · by_cases hold : idKey target ∈ (a.kept target ids).map idKey
    · rw [if_neg fun h => h.2 hold, if_pos hbrings]
      exact (Finset.union_empty _).trans
        (Finset.union_eq_left.mpr (Finset.singleton_subset_iff.mpr (Json.mem_idKeys.mpr hold))).symm
    · rw [if_pos ⟨hbrings, hold⟩, if_pos hbrings]
      rfl
  · rw [if_neg fun h => hbrings h.1, if_neg hbrings]
    rfl

lemma arrival_sublist (a : Assign) (target : Json) (ids : List Json) :
    (a.arrival target ids).Sublist (if a.brings = true then [target] else []) := by
  rw [arrival]
  split
  · rename_i h
    rw [if_pos h.1]
  · exact List.nil_sublist _

end Assign

namespace Change

variable {changes : List Change} {before ids : List Json}

lemma keysAfter_concat (changes : List Change) (c : Change) (keys : Finset String) :
    keysAfter (changes ++ [c]) keys = c.assign.onKeys (idKey c.id) (keysAfter changes keys) := by
  rw [keysAfter, List.foldl_append]
  rfl

namespace Collected

lemma nil (h : (before.map idKey).Nodup) : Collected [] before before :=
  ⟨h, rfl, [], by simp, List.nil_sublist _⟩

/-- One more change of a collection. -/
lemma snoc (h : Collected changes before ids) (c : Change) :
    Collected (changes ++ [c]) before (c.assign.applyMany ids c.id) := by
  obtain ⟨added, hids, hadded⟩ := h.order
  rw [Assign.applyMany_eq c.assign c.id h.distinct]
  constructor
  case distinct =>
    have hkept : ((c.assign.kept c.id ids).map idKey).Nodup :=
      h.distinct.sublist (List.filter_sublist.map idKey)
    rw [List.map_append, Assign.arrival]
    split
    · rename_i hnew
      exact hkept.append (List.nodup_singleton _) (List.disjoint_singleton.mpr hnew.2)
    · rwa [List.map_nil, List.append_nil]
  case keys =>
    rw [keysAfter_concat, ← h.keys, Assign.onKeys_eq, Json.idKeys_append,
      ← Json.idKeys_filter fun key => !c.assign.takes (idKey c.id) key]
    exact Assign.idKeys_arrival c.assign c.id ids
  case order =>
    refine ⟨c.assign.kept c.id added ++ c.assign.arrival c.id ids, ?_, ?_⟩
    · rw [← List.append_assoc]
      congr 1
      rw [hids, Assign.kept, List.filter_append, List.filter_filter, Assign.kept]
      congr 2
      funext id
      rw [List.all_append, Bool.and_comm]
      simp
    · rw [List.filter_append, List.map_append]
      refine (List.filter_sublist.trans hadded).append ?_
      have harrival := c.assign.arrival_sublist c.id ids
      rw [List.filter_singleton]
      split at harrival
      · rename_i hbrings
        rwa [hbrings]
      · rename_i hbrings
        rwa [Bool.eq_false_iff.mpr hbrings]

/-- All changes of a collection, one after the other. -/
lemma run (changes : List Change) (h : (before.map idKey).Nodup) :
    Collected changes before
      (changes.foldl (fun ids c => c.assign.applyMany ids c.id) before) := by
  induction changes using List.reverseRecOn with
  | nil => exact nil h
  | append_singleton changes c ih =>
    rw [List.foldl_append]
    exact ih.snoc c

end Collected

/-! ## One change of a relation to one entity -/

/-- A value of a relation and the entity that it holds are the same, but for a missing value. -/
lemma getD_held (v : Json) : (Json.held (some v)).getD .null = v := by
  cases v <;> rfl

lemma held_getD {held : Option Json} (h : held ≠ some .null) :
    Json.held (some (held.getD .null)) = held := by
  rcases held with _ | v
  · rfl
  · cases v with
    | null => exact absurd rfl h
    | _ => rfl

lemma held_ne_null (value : Option Json) : Json.held value ≠ some .null := by
  rcases value with _ | v
  · exact fun h => nomatch h
  · cases v <;> exact fun h => nomatch h

/-- No assignment makes a relation hold `null`. -/
lemma onHeld_ne_null (a : Assign) (target : Json) {held : Option Json} (h : held ≠ some .null) :
    a.onHeld target held ≠ some .null := by
  cases a with
  | set | setSingle | add | addSingle => exact held_ne_null (some target)
  | remove | removeSingle =>
    intro hfilter
    exact h (Option.filter_eq_some_iff.mp hfilter).1
  | setNull => exact fun h => nomatch h
  | null => exact h

lemma applyOne_remove (target : Json) (current : Option Json) :
    Assign.remove.applyOne current target =
      ((Json.held current).filter fun id => idKey id ≠ idKey target).getD .null := by
  rcases current with _ | v
  · rfl
  · have hvalue : Assign.remove.applyOne (some v) target =
        if idKey v = idKey target then .null else v := rfl
    rw [hvalue]
    by_cases hsame : idKey v = idKey target
    · rw [if_pos hsame]
      cases v <;> simp [Json.held, Option.filter, hsame]
    · rw [if_neg hsame]
      cases v <;> simp [Json.held, Option.filter, hsame]

lemma applyOne_eq {a : Assign} (h : a.attaches = true) (target : Json) (current : Option Json) :
    a.applyOne current target = (a.onHeld target (Json.held current)).getD .null := by
  cases a with
  | set | setSingle | add | addSingle => exact (getD_held target).symm
  | remove | removeSingle => exact applyOne_remove target current
  | setNull => rfl
  | null => cases h

/-! ## Changes of a row -/

section

variable {schema : Schema} {entityType relation : String}

lemma settled_concat (changes : List Change) (c : Change) (current : Option Json) :
    settled schema entityType relation (changes ++ [c]) current =
      settled schema entityType relation [c]
        (settled schema entityType relation changes current) :=
  List.foldl_append

lemma attach_concat {changes : List Change} {c : Change} :
    Attach (changes ++ [c]) relation ↔
      Attach changes relation ∨ c.relation = relation ∧ c.assign.attaches = true := by
  simp only [Attach, List.mem_append, List.mem_singleton, or_and_right, exists_or,
    exists_eq_left]

lemma under_concat_of_eq {changes : List Change} {c : Change} (h : c.relation = relation) :
    under relation (changes ++ [c]) = under relation changes ++ [c] := by
  rw [under, List.filter_append, List.filter_singleton, decide_eq_true h]
  rfl

lemma under_concat_of_ne {changes : List Change} {c : Change} (h : c.relation ≠ relation) :
    under relation (changes ++ [c]) = under relation changes := by
  rw [under, List.filter_append, List.filter_singleton, decide_eq_false h]
  exact List.append_nil _

/-- A reading of the value of a relation on which the changes act. -/
structure Reading {β : Type} (a : Association) (read : Option Json → β) (write : β → Json)
    (step : Change → β → β) : Prop where
  newValue : ∀ c current, c.assign.attaches = true →
    c.newValue a.toMany current = write (step c (read current))
  again : ∀ c current, read (some (write (step c (read current)))) = step c (read current)
  null : ∀ c b, c.assign = .null → step c b = b

/-- What is read of a relation after some changes is what they make of what was read before; the
value is written anew as soon as something is attached. -/
lemma Reading.of_settled {β : Type} {a : Association} {read : Option Json → β} {write : β → Json}
    {step : Change → β → β} (h : Reading a read write step)
    (ha : schema.association? entityType relation = some a) (changes : List Change)
    (current : Option Json) :
    read (settled schema entityType relation changes current) =
        (under relation changes).foldl (fun b c => step c b) (read current) ∧
      (Attach changes relation → settled schema entityType relation changes current =
        some (write ((under relation changes).foldl (fun b c => step c b) (read current)))) := by
  induction changes using List.reverseRecOn with
  | nil => exact ⟨rfl, fun ⟨_, hc, _⟩ => nomatch hc⟩
  | append_singleton changes c ih =>
    rw [settled_concat, attach_concat]
    generalize settled schema entityType relation changes current = value at ih ⊢
    by_cases hrelation : c.relation = relation
    · rw [under_concat_of_eq hrelation, List.foldl_append, List.foldl_cons, List.foldl_nil, ← ih.1]
      by_cases hattaches : c.assign.attaches = true
      · have hvalue : settled schema entityType relation [c] value =
            some (write (step c (read value))) := by
          rw [Change.settled, List.foldl_cons, List.foldl_nil, if_pos ⟨hrelation, hattaches⟩, ha]
          exact congrArg some (h.newValue c value hattaches)
        rw [hvalue]
        exact ⟨h.again c value, fun _ => rfl⟩
      · have hnull : c.assign = .null := by simpa [Assign.attaches] using hattaches
        rw [settled_of_unattached (by simpa using fun _ => hattaches), h.null c _ hnull]
        refine ⟨rfl, fun hattach => ?_⟩
        rw [ih.1]
        exact ih.2 (hattach.resolve_right fun hc => hattaches hc.2)
    · rw [under_concat_of_ne hrelation,
        settled_of_unattached (by simpa using fun hc => absurd hc hrelation)]
      exact ⟨ih.1, fun hattach => ih.2 (hattach.resolve_right fun hc => hrelation hc.1)⟩

/-- A collection is read as its ids. -/
lemma reading_ids {a : Association} (hmany : a.toMany = true) :
    Reading a Json.ids .arr fun c ids => c.assign.applyMany ids c.id := by
  constructor
  case newValue =>
    intro c current _
    rw [newValue, hmany]
    rfl
  case again => exact fun _ _ => rfl
  case null =>
    intro c ids hnull
    rw [hnull]
    rfl

/-- A relation to one entity is read as the entity that it holds. -/
lemma reading_held {a : Association} (hone : a.toMany = false) :
    Reading a Json.held (·.getD .null) fun c held => c.assign.onHeld c.id held := by
  constructor
  case newValue =>
    intro c current hattaches
    rw [newValue, hone]
    exact applyOne_eq hattaches c.id current
  case again =>
    exact fun c current => held_getD (onHeld_ne_null c.assign c.id (held_ne_null current))
  case null =>
    intro c held hnull
    rw [hnull]
    rfl

/-- Changes that are applied act on every field as operations on sets. -/
lemma attached_of_applyAll {changes : List Change} {before after : List (String × Json)}
    (h : applyAll schema entityType before changes = .ok after) :
    Attached schema entityType changes before after := by
  constructor
  case many =>
    intro relation a ha hmany hattach hdistinct
    refine ⟨_, ?_, .run (under relation changes) hdistinct⟩
    rw [lookup_applyAll h]
    exact ((reading_ids hmany).of_settled ha changes _).2 hattach
  case one =>
    intro relation a ha hone hattach
    rw [lookup_applyAll h]
    exact ((reading_held hone).of_settled ha changes _).2 hattach
  case others =>
    intro field hnot
    rw [lookup_applyAll h, settled_of_unattached]
    intro c hc hrelation
    exact Bool.eq_false_iff.mpr fun hattaches => hnot ⟨c, hc, hrelation, hattaches⟩

/-- A change that attaches something is one of a declared association. -/
def Declared (schema : Schema) (entityType : String) (c : Change) : Prop :=
  c.assign.attaches = true → (schema.association? entityType c.relation).isSome = true

instance (schema : Schema) (entityType : String) (c : Change) :
    Decidable (Declared schema entityType c) :=
  inferInstanceAs (Decidable (_ → _))

/-- The text for a change of a relation that is not declared. -/
def unknown (entityType : String) (c : Change) : String :=
  "unknown association '" ++ c.relation ++ "' on '" ++ entityType ++ "'"

lemma apply_of_declared {c : Change} (h : Declared schema entityType c)
    (fields : List (String × Json)) : ∃ after, apply schema entityType fields c = .ok after := by
  rw [apply]
  split
  · exact ⟨_, rfl⟩
  · rename_i hattaches
    obtain ⟨a, ha⟩ := Option.isSome_iff_exists.mp (h (by simpa using hattaches))
    rw [ha]
    exact ⟨_, rfl⟩

lemma apply_of_undeclared {c : Change} (h : ¬ Declared schema entityType c)
    (fields : List (String × Json)) :
    apply schema entityType fields c = .error (unknown entityType c) := by
  obtain ⟨hattaches, hnone⟩ := Classical.not_imp.mp h
  rw [apply, if_neg (by simpa using hattaches), Option.not_isSome_iff_eq_none.mp hnone]
  rfl

/-- Changes of declared associations are applied. -/
lemma applyAll_of_declared {changes : List Change} (h : ∀ c ∈ changes, Declared schema entityType c)
    (before : List (String × Json)) :
    ∃ after, applyAll schema entityType before changes = .ok after := by
  induction changes generalizing before with
  | nil => exact ⟨before, rfl⟩
  | cons c rest ih =>
    obtain ⟨between, hbetween⟩ := apply_of_declared (h c List.mem_cons_self) before
    obtain ⟨after, hafter⟩ := ih (fun c' hc' => h c' (List.mem_cons_of_mem _ hc')) between
    refine ⟨after, ?_⟩
    rw [applyAll, List.foldlM_cons]
    exact Decision.bind_eq_ok.mpr ⟨between, hbetween, hafter⟩

/-- One that is not declared is named in the error. -/
lemma applyAll_of_undeclared {changes : List Change} {c : Change} (hc : c ∈ changes)
    (h : ¬ Declared schema entityType c) (before : List (String × Json)) :
    ∃ c' ∈ changes, ¬ Declared schema entityType c' ∧
      applyAll schema entityType before changes = .error (unknown entityType c') := by
  induction changes generalizing before with
  | nil => nomatch hc
  | cons first rest ih =>
    rw [applyAll, List.foldlM_cons]
    by_cases hfirst : Declared schema entityType first
    · obtain ⟨between, hbetween⟩ := apply_of_declared hfirst before
      have hrest : c ∈ rest := (List.mem_cons.mp hc).resolve_left fun hsame => h (hsame ▸ hfirst)
      obtain ⟨c', hc', hnot, herror⟩ := ih hrest between
      refine ⟨c', List.mem_cons_of_mem _ hc', hnot, ?_⟩
      rw [hbetween]
      exact herror
    · refine ⟨first, List.mem_cons_self, hfirst, ?_⟩
      rw [apply_of_undeclared hfirst]
      rfl

end

end Change

namespace Memory

/-- The calls that store a record. -/
def writes (schema : Schema) (r : EntityRecord) : List (StoreCall Memory Json) :=
  [insert schema r, update schema r]

/-- A call fails and leaves the rows and the snapshot as they are. -/
def Refuses {α : Type} (call : StoreCall Memory α) (m : Memory) : Prop :=
  ∃ text m', call m = (.error text, m') ∧ m'.tables = m.tables ∧ m'.snapshot = m.snapshot

variable {schema : Schema} {r : EntityRecord} {call : StoreCall Memory Json} {m m' : Memory}

lemma put_of_write (hcall : call ∈ writes schema r) {row : Json} (h : call m = (.ok row, m')) :
    ∃ id, rowOf schema r id = .ok row ∧ m'.tables = (m.put r.entityType id row).tables := by
  rcases List.mem_pair.mp hcall with rfl | rfl
  · obtain ⟨id, -, hput⟩ := (wrote_of_insert h).put (by decide)
    exact ⟨id, hput⟩
  · obtain ⟨id, -, hput⟩ := (wrote_of_update h).put (by decide)
    exact ⟨id, hput⟩

lemma kept_of_write (hcall : call ∈ writes schema r) {text : String}
    (h : call m = (.error text, m')) : m'.tables = m.tables ∧ m'.snapshot = m.snapshot := by
  rcases List.mem_pair.mp hcall with rfl | rfl
  · exact ⟨tables_of_insert h, snapshot_of_run (fun _ => insert_snapshot schema r) h⟩
  · exact ⟨tables_of_update h, snapshot_of_run (fun _ => update_snapshot schema r) h⟩

/-- A record of which no row can be made is not stored. -/
lemma refuses_of_rowOf (hcall : call ∈ writes schema r)
    (hrow : ∀ id row, rowOf schema r id ≠ .ok row) (m : Memory) : Refuses call m := by
  cases hrun : call m with
  | mk result m' =>
    cases result with
    | error text => exact ⟨text, m', hrun, kept_of_write hcall hrun⟩
    | ok row =>
      obtain ⟨id, hok, -⟩ := put_of_write hcall hrun
      exact absurd hok (hrow id row)

/-- How a record is stored: its changes acted on its fields, and the row lies under its id. -/
def Stored (schema : Schema) (r : EntityRecord) (row : Json) (m : Memory) : Prop :=
  ∃ id after, row = .obj after ∧ m.row? r.entityType id = some row ∧
    Change.Attached schema r.entityType r.changes (Json.insertField "id" id r.fields) after

lemma stored_of_write (hcall : call ∈ writes schema r) {row : Json} (h : call m = (.ok row, m')) :
    Stored schema r row m' := by
  obtain ⟨id, hrow, htables⟩ := put_of_write hcall h
  obtain ⟨after, hafter, hobj⟩ := Decision.bind_eq_ok.mp hrow
  cases hobj
  refine ⟨id, after, rfl, ?_, Change.attached_of_applyAll hafter⟩
  rw [row?, table_congr htables, table_put, Table.get?_insert, if_pos rfl]

end Memory

/-- Changes of declared associations are applied to the fields of any row and act on them as
operations on sets, also where a record is stored.  With a change of another relation a record is
neither inserted nor updated. -/
theorem changes_act_on_sets (schema : Schema) (r : EntityRecord) :
    ((∀ c ∈ r.changes, Change.Declared schema r.entityType c) →
      ∀ before, ∃ after, Change.applyAll schema r.entityType before r.changes = .ok after ∧
        Change.Attached schema r.entityType r.changes before after) ∧
    ∀ call ∈ Memory.writes schema r, ∀ m : Memory,
      (∀ row m', call m = (.ok row, m') → Memory.Stored schema r row m') ∧
      ((∃ c ∈ r.changes, ¬ Change.Declared schema r.entityType c) → Memory.Refuses call m) := by
  constructor
  · intro hdeclared before
    obtain ⟨after, hafter⟩ := Change.applyAll_of_declared hdeclared before
    exact ⟨after, hafter, Change.attached_of_applyAll hafter⟩
  · intro call hcall m
    constructor
    · exact fun row m' h => Memory.stored_of_write hcall h
    · rintro ⟨c, hc, hundeclared⟩
      refine Memory.refuses_of_rowOf hcall (fun id row hrow => ?_) m
      obtain ⟨after, hafter, -⟩ := Decision.bind_eq_ok.mp hrow
      obtain ⟨c', -, -, herror⟩ :=
        Change.applyAll_of_undeclared hc hundeclared (Json.insertField "id" id r.fields)
      rw [herror] at hafter
      cases hafter

/-- Albums have an artist and a collection of tracks. -/
def albumRelations : Schema := fun entityType =>
  if entityType = "album" then [⟨"artist", "artist", false⟩, ⟨"tracks", "track", true⟩] else []

/-- Two tracks of one key, one that is taken away and comes back, and an artist that is not the one
to be taken away. -/
def relinked : EntityRecord where
  entityType := "album"
  id := some (.str "a")
  fields := [("artist", .str "j"), ("tracks", .arr [.str "1", .str "2", .str "3"])]
  changes := [⟨"tracks", .add, some (.int 2)⟩, ⟨"artist", .remove, some (.str "k")⟩,
    ⟨"tracks", .removeSingle, some (.int 1)⟩, ⟨"label", .null, none⟩,
    ⟨"tracks", .addSingle, some (.int 4)⟩, ⟨"tracks", .add, some (.int 1)⟩]
  assign := none

/-- A record with a label, which is no association. -/
def relabelled : EntityRecord := { relinked with changes := [⟨"label", .set, some (.str "x")⟩] }

theorem relinked_acts_on_sets :
    (∃ after, Change.applyAll albumRelations "album" relinked.fields relinked.changes = .ok after ∧
      Change.Attached albumRelations "album" relinked.changes relinked.fields after ∧
      Json.lookup "tracks" after = some (.arr [.str "2", .str "3", .int 4, .int 1]) ∧
      Json.lookup "artist" after = some (.str "j")) ∧
    Memory.Stored albumRelations relinked
      (.obj [("artist", .str "j"), ("id", .str "a"),
        ("tracks", .arr [.str "2", .str "3", .int 4, .int 1])])
      (Memory.insert albumRelations relinked .empty).2 ∧
    Memory.Refuses (Memory.insert albumRelations relabelled) .empty := by
  obtain ⟨hdeclared, hstored⟩ := changes_act_on_sets albumRelations relinked
  obtain ⟨after, hafter, hattached⟩ := hdeclared (by decide) relinked.fields
  refine ⟨⟨after, hafter, hattached, ?_⟩, ?_, ?_⟩
  · cases hafter
    exact ⟨rfl, rfl⟩
  · exact (hstored _ List.mem_cons_self .empty).1 _ _ rfl
  · exact ((changes_act_on_sets albumRelations relabelled).2 _ List.mem_cons_self .empty).2
      ⟨_, List.mem_cons_self, by decide⟩

end EntityGate
