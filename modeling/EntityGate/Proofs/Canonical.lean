/-
# Values in canonical form

The keys of a canonical object increase, so there is one order for its entries.  A setting and a
part of a base condition are read out of canonical values and written as canonical values, and what
was written is read as what it was before.
-/
import EntityGate.Config.Query
import EntityGate.Proofs.Fields
import EntityGate.Proofs.Tables
import Mathlib.Data.List.Sort

namespace EntityGate

/-! ## Increasing keys -/

/-- The keys of some entries increase. -/
def Increasing {α : Type} (entries : List (String × α)) : Prop :=
  entries.Pairwise fun e f => e.1 < f.1

/-- An entry may come before another one. -/
def KeyOrder {α : Type} (e f : String × α) : Prop := e.1 ≤ f.1

instance {α : Type} : DecidableRel (KeyOrder (α := α)) :=
  fun e f => inferInstanceAs (Decidable (e.1 ≤ f.1))

instance {α : Type} : Std.Total (KeyOrder (α := α)) := ⟨fun e f => String.le_total e.1 f.1⟩

instance {α : Type} : IsTrans (String × α) KeyOrder := ⟨fun _ _ _ => String.le_trans⟩

section

variable {α β : Type} {entries more : List (String × α)}

lemma Increasing.nodup (h : Increasing entries) : (entries.map Prod.fst).Nodup := by
  rw [List.Nodup, List.pairwise_map]
  refine h.imp fun {e f} hlt hsame => ?_
  rw [hsame] at hlt
  exact String.lt_irrefl f.1 hlt

/-- There is one order in which the keys increase. -/
lemma Increasing.eq_of_perm (h : Increasing entries) (hmore : Increasing more)
    (hperm : entries.Perm more) : entries = more := by
  refine hperm.eq_of_pairwise (fun e f _ _ hlt hgt => ?_) h hmore
  exact absurd (String.lt_trans hlt hgt) (String.lt_irrefl e.1)

lemma Increasing.map (h : Increasing entries) (f : α → β) :
    Increasing (entries.map fun entry => (entry.1, f entry.2)) :=
  List.pairwise_map.mpr h

/-- Entries with distinct keys can be sorted. -/
lemma increasing_insertionSort (h : (entries.map Prod.fst).Nodup) :
    Increasing (entries.insertionSort KeyOrder) := by
  have hsorted := List.pairwise_insertionSort KeyOrder entries
  have hdistinct : (entries.insertionSort KeyOrder).Pairwise fun e f => e.1 ≠ f.1 := by
    have hperm := (List.perm_insertionSort KeyOrder entries).map Prod.fst
    exact List.pairwise_map.mp (hperm.nodup_iff.mpr h)
  refine (hsorted.and hdistinct).imp fun {e f} hboth => ?_
  refine String.not_le.mp fun hge => ?_
  exact hboth.2 (String.le_antisymm hboth.1 hge)

end

/-- A table with its entries in the order of their keys. -/
def Table.sorted {α : Type} (t : Table α) : Table α :=
  ⟨t.entries.insertionSort KeyOrder, (increasing_insertionSort t.nodup).nodup⟩

/-! ## Entries that are put into an object -/

namespace Json

/-- The entries of an object that is made from some entries. -/
def sortedFields (entries : List (String × Json)) : List (String × Json) :=
  entries.foldl (fun acc (k, v) => insertField k v acc) []

variable {k : String} {v : Json} {fields entries more : List (String × Json)}

lemma ofFields_eq (entries : List (String × Json)) :
    ofFields entries = .obj (sortedFields entries) := rfl

lemma mem_insertField {entry : String × Json} (h : entry ∈ insertField k v fields) :
    entry = (k, v) ∨ entry ∈ fields := by
  induction fields with
  | nil => exact .inl (List.mem_singleton.mp h)
  | cons head rest ih =>
    obtain ⟨l, w⟩ := head
    rw [insertField] at h
    split at h
    · exact (List.mem_cons.mp h).imp_right (List.mem_cons_of_mem _)
    · split at h
      · exact List.mem_cons.mp h
      · rcases List.mem_cons.mp h with rfl | hrest
        · exact .inr List.mem_cons_self
        · exact (ih hrest).imp_right (List.mem_cons_of_mem _)

lemma mem_keys_insertField {key : String} (h : key ∈ (insertField k v fields).map Prod.fst) :
    key = k ∨ key ∈ fields.map Prod.fst := by
  obtain ⟨entry, hentry, rfl⟩ := List.mem_map.mp h
  rcases mem_insertField hentry with rfl | hmem
  · exact .inl rfl
  · exact .inr (List.mem_map_of_mem hmem)

lemma increasing_insertField (h : Increasing fields) : Increasing (insertField k v fields) := by
  induction fields with
  | nil => exact List.pairwise_singleton _ _
  | cons head rest ih =>
    obtain ⟨l, w⟩ := head
    obtain ⟨hhead, hrest⟩ := List.pairwise_cons.mp h
    rw [insertField]
    split
    · rename_i hsame
      subst hsame
      exact List.pairwise_cons.mpr ⟨hhead, hrest⟩
    · rename_i hne
      split
      · rename_i hlt
        refine List.pairwise_cons.mpr ⟨fun entry hentry => ?_, h⟩
        rcases List.mem_cons.mp hentry with rfl | hentry
        · exact hlt
        · exact String.lt_trans hlt (hhead entry hentry)
      · rename_i hnot
        refine List.pairwise_cons.mpr ⟨fun entry hentry => ?_, ih hrest⟩
        rcases mem_insertField hentry with rfl | hentry
        · refine String.not_le.mp fun hle => hne ?_
          exact String.le_antisymm hle (String.not_lt.mp hnot)
        · exact hhead entry hentry

lemma insertField_perm (h : k ∉ fields.map Prod.fst) :
    (insertField k v fields).Perm ((k, v) :: fields) := by
  induction fields with
  | nil => exact .refl _
  | cons head rest ih =>
    obtain ⟨l, w⟩ := head
    rw [List.map_cons, List.mem_cons, not_or] at h
    rw [insertField, if_neg h.1]
    split
    · exact .refl _
    · exact ((ih h.2).cons (l, w)).trans (.swap (k, v) (l, w) rest)

lemma increasing_sortedFields (entries : List (String × Json)) :
    Increasing (sortedFields entries) := by
  have hfold : ∀ fields, Increasing fields →
      Increasing (entries.foldl (fun acc (k, v) => insertField k v acc) fields) := by
    induction entries with
    | nil => exact fun fields h => h
    | cons entry rest ih => exact fun fields h => ih _ (increasing_insertField h)
  exact hfold [] List.Pairwise.nil

lemma mem_sortedFields {entry : String × Json} (h : entry ∈ sortedFields entries) :
    entry ∈ entries := by
  have hfold : ∀ fields,
      entry ∈ entries.foldl (fun acc (k, v) => insertField k v acc) fields →
        entry ∈ entries ∨ entry ∈ fields := by
    clear h
    induction entries with
    | nil => exact fun fields h => .inr h
    | cons head rest ih =>
      intro fields h
      rcases ih _ h with hrest | hfields
      · exact .inl (List.mem_cons_of_mem _ hrest)
      · rcases mem_insertField hfields with rfl | hfields
        · exact .inl List.mem_cons_self
        · exact .inr hfields
  exact (hfold [] h).resolve_right fun hnil => nomatch hnil

/-- Entries with distinct keys all stay. -/
lemma sortedFields_perm (h : (entries.map Prod.fst).Nodup) :
    (sortedFields entries).Perm entries := by
  have hfold : ∀ fields, ((entries ++ fields).map Prod.fst).Nodup →
      (entries.foldl (fun acc (k, v) => insertField k v acc) fields).Perm
        (entries ++ fields) := by
    clear h
    induction entries with
    | nil => exact fun fields _ => .refl _
    | cons entry rest ih =>
      obtain ⟨k, v⟩ := entry
      intro fields h
      rw [List.cons_append, List.map_cons, List.nodup_cons] at h
      have hk : k ∉ fields.map Prod.fst := by
        intro hk
        exact h.1 (by rw [List.map_append]; exact List.mem_append_right _ hk)
      have hinsert : (rest ++ insertField k v fields).Perm ((k, v) :: (rest ++ fields)) :=
        ((insertField_perm hk).append_left rest).trans List.perm_middle
      have hnodup : ((rest ++ insertField k v fields).map Prod.fst).Nodup := by
        rw [(hinsert.map Prod.fst).nodup_iff, List.map_cons]
        exact List.nodup_cons.mpr h
      exact (ih _ hnodup).trans hinsert
  have hall := hfold [] (by rw [List.append_nil]; exact h)
  rw [List.append_nil] at hall
  exact hall

lemma sortedFields_of_increasing (h : Increasing entries) : sortedFields entries = entries :=
  (increasing_sortedFields entries).eq_of_perm h (sortedFields_perm h.nodup)

/-! ## Canonical values -/

/-- A value whose objects all have increasing keys. -/
def Canonical (v : Json) : Prop := v.canonical = v

lemma canonicalItems_eq_map (items : List Json) : canonicalItems items = items.map canonical := by
  induction items with
  | nil => rfl
  | cons v rest ih => rw [canonicalItems, ih, List.map_cons]

lemma canonicalFields_eq_map (fields : List (String × Json)) :
    canonicalFields fields = fields.map fun entry => (entry.1, entry.2.canonical) := by
  induction fields with
  | nil => rfl
  | cons entry rest ih => rw [canonicalFields, ih, List.map_cons]

lemma canonical_arr {items : List Json} (h : ∀ v ∈ items, Canonical v) :
    Canonical (.arr items) := by
  rw [Canonical, canonical, canonicalItems_eq_map, List.map_congr_left h, List.map_id']

lemma canonical_obj (h : Increasing fields) (hvalues : ∀ entry ∈ fields, Canonical entry.2) :
    Canonical (.obj fields) := by
  have hsame : canonicalFields fields = fields := by
    rw [canonicalFields_eq_map]
    refine (List.map_congr_left fun entry hentry => ?_).trans (List.map_id' fields)
    rw [hvalues entry hentry]
  rw [Canonical, canonical, hsame, ofFields_eq, sortedFields_of_increasing h]

mutual

/-- A value is brought into canonical form once and for all. -/
theorem canonical_canonical : ∀ v : Json, Canonical v.canonical
  | .null => rfl
  | .bool _ => rfl
  | .num _ => rfl
  | .str _ => rfl
  | .arr items => canonical_arr (canonical_of_mem_items items)
  | .obj fields => canonical_obj (increasing_sortedFields _)
      fun entry hentry => canonical_of_mem_fields fields entry (mem_sortedFields hentry)

theorem canonical_of_mem_items : ∀ items : List Json, ∀ v ∈ canonicalItems items, Canonical v
  | [], _, h => nomatch h
  | v :: rest, w, h => by
    rcases List.mem_cons.mp h with rfl | hrest
    · exact canonical_canonical v
    · exact canonical_of_mem_items rest w hrest

theorem canonical_of_mem_fields : ∀ fields : List (String × Json),
    ∀ entry ∈ canonicalFields fields, Canonical entry.2
  | [], _, h => nomatch h
  | (k, v) :: rest, entry, h => by
    rcases List.mem_cons.mp h with rfl | hrest
    · exact canonical_canonical v
    · exact canonical_of_mem_fields rest entry hrest

end

lemma Canonical.of_arr {items : List Json} (h : Canonical (.arr items)) :
    ∀ v ∈ items, Canonical v := by
  have hitems : canonicalItems items = items := Json.arr.inj h
  rw [← hitems]
  exact canonical_of_mem_items items

lemma Canonical.of_obj (h : Canonical (.obj fields)) :
    Increasing fields ∧ ∀ entry ∈ fields, Canonical entry.2 := by
  have hfields : sortedFields (canonicalFields fields) = fields := Json.obj.inj h
  constructor
  · rw [← hfields]
    exact increasing_sortedFields _
  · intro entry hentry
    rw [← hfields] at hentry
    exact canonical_of_mem_fields fields entry (mem_sortedFields hentry)

/-- Entries whose values are canonical make up a canonical object. -/
lemma canonical_ofFields (h : ∀ entry ∈ entries, Canonical entry.2) :
    Canonical (ofFields entries) :=
  canonical_obj (increasing_sortedFields entries)
    fun entry hentry => h entry (mem_sortedFields hentry)

lemma canonical_eq_null {v : Json} (h : v.canonical = .null) : v = .null := by
  cases v with
  | null => rfl
  | obj fields => cases (ofFields_eq _).symm.trans h
  | _ => cases h

end Json

/-! ## Settings -/

namespace Setting

open Json (Canonical)

lemma toJsonItems_eq_map (items : List Setting) : toJsonItems items = items.map toJson := by
  induction items with
  | nil => rfl
  | cons s rest ih => rw [toJsonItems, ih, List.map_cons]

lemma toJsonEntries_eq_map (entries : List (String × Setting)) :
    toJsonEntries entries = entries.map fun entry => (entry.1, entry.2.toJson) := by
  induction entries with
  | nil => rfl
  | cons entry rest ih => rw [toJsonEntries, ih, List.map_cons]

lemma ofJsonFields_eq_map (fields : List (String × Json)) :
    ofJsonFields fields = fields.map fun entry => (entry.1, ofJson entry.2) := by
  induction fields with
  | nil => rfl
  | cons entry rest ih => rw [ofJsonFields, ih, List.map_cons]

lemma literal?_eq_some {s : Setting} {v : Json} (h : s.literal? = some v) : s = literal v := by
  cases s with
  | literal w => exact congrArg literal (Option.some.inj h)
  | call _ _ => cases h
  | list _ => cases h
  | map _ => cases h

/-- A list is written the same whether it is kept as one literal or not. -/
lemma toJson_ofItems (items : List Setting) : (ofItems items).toJson = .arr (items.map toJson) := by
  have hliterals : ∀ items values, literals? items = some values → values = items.map toJson := by
    intro items
    induction items with
    | nil =>
      intro values h
      cases h
      rfl
    | cons s rest ih =>
      intro values h
      rw [literals?, List.mapM_cons] at h
      obtain ⟨v, hv, h⟩ := Option.bind_eq_some_iff.mp h
      obtain ⟨others, hothers, h⟩ := Option.bind_eq_some_iff.mp h
      cases h
      rw [literal?_eq_some hv, ih others hothers]
      rfl
  rw [ofItems]
  split
  · rename_i values hvalues
    rw [hliterals items values hvalues]
    rfl
  · rw [toJson, toJsonItems_eq_map]

/-- So is an object. -/
lemma toJson_ofEntries (entries : List (String × Setting)) :
    (ofEntries entries).toJson = .obj (entries.map fun entry => (entry.1, entry.2.toJson)) := by
  have hliterals : ∀ entries fields, literalEntries? entries = some fields →
      fields = entries.map fun entry => (entry.1, entry.2.toJson) := by
    intro entries
    induction entries with
    | nil =>
      intro fields h
      cases h
      rfl
    | cons entry rest ih =>
      obtain ⟨k, s⟩ := entry
      intro fields h
      rw [literalEntries?, List.mapM_cons] at h
      obtain ⟨field, hfield, h⟩ := Option.bind_eq_some_iff.mp h
      obtain ⟨others, hothers, h⟩ := Option.bind_eq_some_iff.mp h
      obtain ⟨v, hv, rfl⟩ := Option.map_eq_some_iff.mp hfield
      cases h
      rw [literal?_eq_some hv, ih others hothers]
      rfl
  rw [ofEntries]
  split
  · rename_i fields hfields
    rw [hliterals entries fields hfields]
    rfl
  · rw [toJson, toJsonEntries_eq_map]

lemma lookup_map_values {α β : Type} (f : α → β) (key : String) (entries : List (String × α)) :
    (entries.map fun entry => (entry.1, f entry.2)).lookup key = (entries.lookup key).map f := by
  induction entries with
  | nil => rfl
  | cons entry rest ih =>
    obtain ⟨k, v⟩ := entry
    rw [List.map_cons, Table.lookup_cons, Table.lookup_cons, ih]
    split <;> rfl

/-- A call is read out of what it is written as. -/
lemma ofJson_toJson_call (name : String) (args : List Setting) :
    ofJson (toJson (call name args)) = call name (ofJsonItems (toJsonItems args)) := by
  rw [toJson, ofJson]
  simp [Json.lookup, callKey, argsKey, argsOf, Json.textOrCompact]

mutual

/-- A setting that is written is read as what it was. -/
theorem ofJson_toJson : ∀ v : Json, ofJson (toJson (ofJson v)) = ofJson v
  | .null => rfl
  | .bool _ => rfl
  | .num _ => rfl
  | .str _ => rfl
  | .arr items => by
    have hitems := ofJsonItems_toJson items
    rw [toJsonItems_eq_map] at hitems
    rw [ofJson, toJson_ofItems, ofJson, hitems]
  | .obj fields => by
    rw [ofJson]
    cases hcall : Json.lookup callKey fields with
    | some name =>
      dsimp only
      rw [ofJson_toJson_call, args_toJson fields]
    | none =>
      dsimp only
      have hfields := ofJsonFields_toJson fields
      rw [toJsonEntries_eq_map] at hfields
      have hnone : Json.lookup callKey
          ((ofJsonFields fields).map fun entry => (entry.1, entry.2.toJson)) = none := by
        rw [ofJsonFields_eq_map, List.map_map, Json.lookup]
        exact (lookup_map_values (fun v => (ofJson v).toJson) callKey fields).trans
          (congrArg _ hcall)
      rw [toJson_ofEntries, ofJson, hnone]
      dsimp only
      rw [hfields]

theorem ofJsonItems_toJson : ∀ items : List Json,
    ofJsonItems (toJsonItems (ofJsonItems items)) = ofJsonItems items
  | [] => rfl
  | v :: rest => by
    rw [ofJsonItems, toJsonItems, ofJsonItems, ofJson_toJson v, ofJsonItems_toJson rest]

theorem ofJsonFields_toJson : ∀ fields : List (String × Json),
    ofJsonFields (toJsonEntries (ofJsonFields fields)) = ofJsonFields fields
  | [] => rfl
  | (k, v) :: rest => by
    rw [ofJsonFields, toJsonEntries, ofJsonFields, ofJson_toJson v, ofJsonFields_toJson rest]

theorem args_toJson : ∀ fields : List (String × Json),
    ofJsonItems (toJsonItems (argsOf fields)) = argsOf fields
  | [] => rfl
  | (k, v) :: rest => by
    unfold argsOf
    split
    · cases v with
      | arr items => exact ofJsonItems_toJson items
      | null => rfl
      | bool b => rfl
      | num n => rfl
      | str s => rfl
      | obj fields =>
        have halone := ofJson_toJson (.obj fields)
        show [ofJson (toJson (ofJson (.obj fields)))] = [ofJson (.obj fields)]
        rw [halone]
    · exact args_toJson rest

end

/-- A call is written with its name before its arguments. -/
lemma canonical_call {args : List Setting} (name : String)
    (h : ∀ s ∈ args, Canonical s.toJson) : Canonical (toJson (call name args)) := by
  rw [toJson]
  have hkeys : callKey < argsKey := by decide
  have hargs : Canonical (.arr (toJsonItems args)) := by
    refine Json.canonical_arr fun v hv => ?_
    rw [toJsonItems_eq_map] at hv
    obtain ⟨s, hs, rfl⟩ := List.mem_map.mp hv
    exact h s hs
  refine Json.canonical_obj ?_ ?_
  · simpa [Increasing] using hkeys
  · intro entry hentry
    rcases List.mem_cons.mp hentry with rfl | hentry
    · exact (rfl : Canonical (.str name))
    · rw [List.mem_singleton.mp hentry]
      exact hargs

mutual

/-- What is read out of a canonical value is written as one. -/
theorem canonical_toJson : ∀ v : Json, Canonical v → Canonical (ofJson v).toJson
  | .null, _ => rfl
  | .bool _, _ => rfl
  | .num _, _ => rfl
  | .str _, _ => rfl
  | .arr items, h => by
    rw [ofJson, toJson_ofItems]
    refine Json.canonical_arr fun v hv => ?_
    obtain ⟨s, hs, rfl⟩ := List.mem_map.mp hv
    exact canonical_of_mem_ofJsonItems items h.of_arr s hs
  | .obj fields, h => by
    obtain ⟨hkeys, hvalues⟩ := h.of_obj
    rw [ofJson]
    cases hcall : Json.lookup callKey fields with
    | some name => exact canonical_call _ (canonical_of_mem_argsOf fields hvalues)
    | none =>
      dsimp only
      rw [toJson_ofEntries]
      have hentries := canonical_of_mem_ofJsonFields fields hvalues
      refine Json.canonical_obj ?_ fun entry hentry => ?_
      · rw [ofJsonFields_eq_map]
        exact (hkeys.map ofJson).map toJson
      · obtain ⟨entry', hentry', rfl⟩ := List.mem_map.mp hentry
        exact hentries entry' hentry'

theorem canonical_of_mem_ofJsonItems : ∀ items : List Json, (∀ v ∈ items, Canonical v) →
    ∀ s ∈ ofJsonItems items, Canonical s.toJson
  | [], _, _, hs => nomatch hs
  | v :: rest, h, s, hs => by
    rcases List.mem_cons.mp hs with rfl | hs
    · exact canonical_toJson v (h v List.mem_cons_self)
    · exact canonical_of_mem_ofJsonItems rest (fun w hw => h w (List.mem_cons_of_mem _ hw)) s hs

theorem canonical_of_mem_ofJsonFields : ∀ fields : List (String × Json),
    (∀ entry ∈ fields, Canonical entry.2) →
    ∀ entry ∈ ofJsonFields fields, Canonical entry.2.toJson
  | [], _, _, hentry => nomatch hentry
  | (k, v) :: rest, h, entry, hentry => by
    rcases List.mem_cons.mp hentry with rfl | hentry
    · exact canonical_toJson v (h (k, v) List.mem_cons_self)
    · exact canonical_of_mem_ofJsonFields rest (fun e he => h e (List.mem_cons_of_mem _ he)) entry
        hentry

theorem canonical_of_mem_argsOf : ∀ fields : List (String × Json),
    (∀ entry ∈ fields, Canonical entry.2) → ∀ s ∈ argsOf fields, Canonical s.toJson
  | [], _, _, hs => nomatch hs
  | (k, v) :: rest, h, s, hs => by
    have hv : Canonical v := h (k, v) List.mem_cons_self
    unfold argsOf at hs
    split at hs
    · cases v with
      | arr items => exact canonical_of_mem_ofJsonItems items hv.of_arr s hs
      | null => cases hs
      | bool b => exact List.mem_singleton.mp hs ▸ rfl
      | num n => exact List.mem_singleton.mp hs ▸ rfl
      | str text => exact List.mem_singleton.mp hs ▸ rfl
      | obj fields =>
        rw [List.mem_singleton.mp hs]
        exact canonical_toJson (.obj fields) hv
    · exact canonical_of_mem_argsOf rest (fun e he => h e (List.mem_cons_of_mem _ he)) s hs

end

/-- Nothing but `null` is written as `null`. -/
lemma toJson_eq_null {v : Json} (h : (ofJson v).toJson = .null) : v = .null := by
  cases v with
  | null => rfl
  | bool b => cases h
  | num n => cases h
  | str s => cases h
  | arr items =>
    rw [ofJson, toJson_ofItems] at h
    cases h
  | obj fields =>
    rw [ofJson] at h
    split at h
    · cases h
    · rw [toJson_ofEntries] at h
      cases h

end Setting

/-! ## Parts of base conditions -/

namespace BasePart

open Json (Canonical)

/-- An object that is no operator is not written as one. -/
lemma exists_toJson_obj {fields : List (String × Json)}
    (h : Json.lookup "expr" fields = none) : ∃ written,
      (Setting.ofJson (.obj fields)).toJson = .obj written ∧
        Json.lookup "expr" written = none := by
  rw [Setting.ofJson]
  cases hcall : Json.lookup Setting.callKey fields with
  | some name => exact ⟨_, rfl, rfl⟩
  | none =>
    refine ⟨_, Setting.toJson_ofEntries _, ?_⟩
    rw [Setting.ofJsonFields_eq_map, List.map_map, Json.lookup]
    exact (Setting.lookup_map_values (fun v => (Setting.ofJson v).toJson) "expr" fields).trans
      (congrArg _ h)

lemma toJson_expression (operator : String) (arguments : List BasePart) :
    toJson (expression operator arguments) =
      .obj [("arguments", .arr (toItems arguments)), ("expr", .str operator)] := by
  rw [toJson]
  rfl

lemma ofJson_toJson_expression (operator : String) (arguments : List BasePart) :
    ofJson (toJson (expression operator arguments)) =
      expression operator (ofItems (toItems arguments)) := by
  have hlookup : Json.lookup "expr" [("arguments", .arr (toItems arguments)),
      ("expr", .str operator)] = some (.str operator) := rfl
  rw [toJson_expression, ofJson, hlookup]
  simp [argumentsOf, Json.textOrCompact]

mutual

/-- A part that is written is read as what it was. -/
theorem ofJson_toJson : ∀ v : Json, ofJson (toJson (ofJson v)) = ofJson v
  | .null => rfl
  | .bool _ => rfl
  | .num _ => rfl
  | .str _ => rfl
  | .arr items => by
    -- a list is a value, and is written as a list
    have hwritten : (Setting.ofJson (.arr items)).toJson =
        .arr ((Setting.ofJsonItems items).map Setting.toJson) := by
      rw [Setting.ofJson, Setting.toJson_ofItems]
    have hagain := Setting.ofJson_toJson (.arr items)
    rw [hwritten] at hagain
    show ofJson (Setting.ofJson (.arr items)).toJson = value (Setting.ofJson (.arr items))
    rw [hwritten]
    exact congrArg value hagain
  | .obj fields => by
    rw [ofJson]
    cases hexpr : Json.lookup "expr" fields with
    | some operator =>
      dsimp only
      rw [ofJson_toJson_expression, arguments_toJson fields]
    | none =>
      dsimp only
      obtain ⟨written, hwritten, hnone⟩ := exists_toJson_obj hexpr
      have hagain := Setting.ofJson_toJson (.obj fields)
      rw [hwritten] at hagain
      rw [toJson, hwritten, ofJson, hnone]
      exact congrArg value hagain

theorem ofItems_toItems : ∀ items : List Json,
    ofItems (toItems (ofItems items)) = ofItems items
  | [] => rfl
  | v :: rest => by
    rw [ofItems, toItems, ofItems, ofJson_toJson v, ofItems_toItems rest]

theorem arguments_toJson : ∀ fields : List (String × Json),
    ofItems (toItems (argumentsOf fields)) = argumentsOf fields
  | [] => rfl
  | (k, v) :: rest => by
    unfold argumentsOf
    split
    · cases v with
      | arr items => exact ofItems_toItems items
      | null => rfl
      | bool b => rfl
      | num n => rfl
      | str s => rfl
      | obj fields =>
        have halone := ofJson_toJson (.obj fields)
        show [ofJson (toJson (ofJson (.obj fields)))] = [ofJson (.obj fields)]
        rw [halone]
    · exact arguments_toJson rest

end

lemma toItems_eq_map (parts : List BasePart) : toItems parts = parts.map toJson := by
  induction parts with
  | nil => rfl
  | cons p rest ih => rw [toItems, ih, List.map_cons]

lemma canonical_expression {arguments : List BasePart} (operator : String)
    (h : ∀ p ∈ arguments, Canonical p.toJson) :
    Canonical (toJson (expression operator arguments)) := by
  have hitems : Canonical (.arr (toItems arguments)) := by
    refine Json.canonical_arr fun v hv => ?_
    rw [toItems_eq_map] at hv
    obtain ⟨p, hp, rfl⟩ := List.mem_map.mp hv
    exact h p hp
  rw [toJson]
  refine Json.canonical_ofFields fun entry hentry => ?_
  rcases List.mem_cons.mp hentry with rfl | hentry
  · exact (rfl : Canonical (.str operator))
  · rw [List.mem_singleton.mp hentry]
    exact hitems

mutual

/-- What is read out of a canonical value is written as one. -/
theorem canonical_toJson : ∀ v : Json, Canonical v → Canonical (ofJson v).toJson
  | .null, _ => rfl
  | .bool _, _ => rfl
  | .num _, _ => rfl
  | .str _, _ => rfl
  | .arr items, h => Setting.canonical_toJson (.arr items) h
  | .obj fields, h => by
    rw [ofJson]
    cases hexpr : Json.lookup "expr" fields with
    | some operator => exact canonical_expression _ (canonical_of_mem_argumentsOf fields h.of_obj.2)
    | none => exact Setting.canonical_toJson (.obj fields) h

theorem canonical_of_mem_ofItems : ∀ items : List Json, (∀ v ∈ items, Canonical v) →
    ∀ p ∈ ofItems items, Canonical p.toJson
  | [], _, _, hp => nomatch hp
  | v :: rest, h, p, hp => by
    rcases List.mem_cons.mp hp with rfl | hp
    · exact canonical_toJson v (h v List.mem_cons_self)
    · exact canonical_of_mem_ofItems rest (fun w hw => h w (List.mem_cons_of_mem _ hw)) p hp

theorem canonical_of_mem_argumentsOf : ∀ fields : List (String × Json),
    (∀ entry ∈ fields, Canonical entry.2) → ∀ p ∈ argumentsOf fields, Canonical p.toJson
  | [], _, _, hp => nomatch hp
  | (k, v) :: rest, h, p, hp => by
    have hv : Canonical v := h (k, v) List.mem_cons_self
    unfold argumentsOf at hp
    split at hp
    · cases v with
      | arr items => exact canonical_of_mem_ofItems items hv.of_arr p hp
      | null => cases hp
      | bool b => exact List.mem_singleton.mp hp ▸ rfl
      | num n => exact List.mem_singleton.mp hp ▸ rfl
      | str text => exact List.mem_singleton.mp hp ▸ rfl
      | obj fields =>
        rw [List.mem_singleton.mp hp]
        exact canonical_toJson (.obj fields) hv
    · exact canonical_of_mem_argumentsOf rest (fun e he => h e (List.mem_cons_of_mem _ he)) p hp

end

lemma toJson_eq_null {v : Json} (h : (ofJson v).toJson = .null) : v = .null := by
  cases v with
  | obj fields =>
    rw [ofJson] at h
    split at h
    · rw [toJson_expression] at h
      cases h
    · exact Setting.toJson_eq_null h
  | null => rfl
  | arr items => exact Setting.toJson_eq_null h
  | _ => cases h

end BasePart

end EntityGate
