/-
# Tables made from lists

A table that is made from a list of entries holds under each key the value of the last entry
with that key.  So entries whose keys differ from a name can be left away or added without a
change to what is found under that name.
-/
import EntityGate.Table
import Mathlib.Tactic.Lemma

namespace EntityGate
namespace Table

variable {α : Type}

lemma ofList_append (entries more : List (String × α)) :
    ofList (entries ++ more) = more.foldl (fun t (k, v) => t.insert k v) (ofList entries) :=
  List.foldl_append

lemma get?_foldl_insert_of_notMem {more : List (String × α)} {name : String}
    (h : name ∉ more.map Prod.fst) (t : Table α) :
    (more.foldl (fun t (k, v) => t.insert k v) t).get? name = t.get? name := by
  induction more generalizing t with
  | nil => rfl
  | cons entry more ih =>
    obtain ⟨k, v⟩ := entry
    simp only [List.map_cons, List.mem_cons, not_or] at h
    rw [List.foldl_cons, ih h.2, get?_insert, if_neg h.1]

/-- Entries under other keys do not matter to what is found under a name. -/
lemma get?_ofList_append {more : List (String × α)} {name : String}
    (h : name ∉ more.map Prod.fst) (entries : List (String × α)) :
    (ofList (entries ++ more)).get? name = (ofList entries).get? name := by
  rw [ofList_append, get?_foldl_insert_of_notMem h]

lemma mem_keys_insert {t : Table α} {k name : String} {v : α} :
    name ∈ (t.insert k v).keys ↔ name ∈ t.keys ∨ name = k := by
  rw [keys_insert]
  split
  · rename_i hk
    exact ⟨Or.inl, fun h => h.elim id fun h => h ▸ hk⟩
  · simp

lemma mem_keys_foldl_insert {entries : List (String × α)} {name : String} {t : Table α} :
    name ∈ (entries.foldl (fun t (k, v) => t.insert k v) t).keys ↔
      name ∈ t.keys ∨ name ∈ entries.map Prod.fst := by
  induction entries generalizing t with
  | nil => simp
  | cons entry entries ih =>
    obtain ⟨k, v⟩ := entry
    rw [List.foldl_cons, ih, mem_keys_insert, List.map_cons, List.mem_cons, or_assoc]

/-- The keys of a table are those of the entries it was made from. -/
lemma mem_keys_ofList {entries : List (String × α)} {name : String} :
    name ∈ (ofList entries).keys ↔ name ∈ entries.map Prod.fst := by
  rw [ofList, mem_keys_foldl_insert]
  simp [keys, empty]

/-! ## Distinct keys -/

lemma lookup_eq_none_of_notMem {entries : List (String × α)} {name : String}
    (h : name ∉ entries.map Prod.fst) : entries.lookup name = none := by
  rw [List.lookup_eq_none_iff]
  intro entry hentry
  have hne : name ≠ entry.1 := fun hsame => h (hsame ▸ List.mem_map_of_mem hentry)
  simpa using hne

/-- Among entries with distinct keys, each is found under its key. -/
lemma lookup_eq_some_of_mem {entries : List (String × α)} (h : (entries.map Prod.fst).Nodup)
    {name : String} {v : α} (hmem : (name, v) ∈ entries) : entries.lookup name = some v := by
  induction entries with
  | nil => simp at hmem
  | cons entry rest ih =>
    obtain ⟨k, u⟩ := entry
    rw [List.map_cons, List.nodup_cons] at h
    rw [lookup_cons]
    rcases List.mem_cons.mp hmem with hhead | hrest
    · cases hhead
      rw [if_pos rfl]
    · have hne : name ≠ k := by
        rintro rfl
        exact h.1 (List.mem_map.mpr ⟨(name, v), hrest, rfl⟩)
      rw [if_neg hne, ih h.2 hrest]

/-- Entries with distinct keys that are inserted come before what a table held. -/
lemma get?_foldl_insert {more : List (String × α)} (h : (more.map Prod.fst).Nodup)
    (t : Table α) (name : String) :
    (more.foldl (fun t (k, v) => t.insert k v) t).get? name =
      (more.lookup name).or (t.get? name) := by
  induction more generalizing t with
  | nil => rfl
  | cons entry rest ih =>
    obtain ⟨k, v⟩ := entry
    rw [List.map_cons, List.nodup_cons] at h
    rw [List.foldl_cons, ih h.2, get?_insert, lookup_cons]
    by_cases hname : name = k
    · subst hname
      rw [if_pos rfl, if_pos rfl, lookup_eq_none_of_notMem h.1]
      rfl
    · rw [if_neg hname, if_neg hname]

lemma get?_ofList_append_of_nodup {more : List (String × α)} (h : (more.map Prod.fst).Nodup)
    (entries : List (String × α)) (name : String) :
    (ofList (entries ++ more)).get? name =
      (more.lookup name).or ((ofList entries).get? name) := by
  rw [ofList_append, get?_foldl_insert h]

lemma merge_eq_foldl (t other : Table α) :
    t.merge other = other.entries.foldl (fun t (k, v) => t.insert k v) t := by
  rw [merge, mergeWith]
  congr 1
  funext t ⟨k, v⟩
  show t.insert k _ = t.insert k v
  cases t.get? k <;> rfl

/-- A merged table holds what the table that is merged in holds, and else what it held before. -/
lemma get?_merge (t other : Table α) (name : String) :
    (t.merge other).get? name = (other.get? name).or (t.get? name) := by
  rw [merge_eq_foldl, get?_foldl_insert other.nodup]
  rfl

/-! ## Removal -/

lemma get?_erase (t : Table α) (k name : String) :
    (t.erase k).get? name = if name = k then none else t.get? name := by
  rw [get?, get?, erase, entries_filter]
  induction t.entries with
  | nil => simp
  | cons entry rest ih =>
    obtain ⟨l, v⟩ := entry
    rw [List.filter_cons]
    by_cases hl : l = k
    · subst hl
      rw [if_neg (by simp), ih, lookup_cons]
      by_cases hname : name = l
      · rw [if_pos hname, if_pos hname]
      · rw [if_neg hname, if_neg hname, if_neg hname]
    · rw [if_pos (by simpa using hl), lookup_cons, lookup_cons, ih]
      by_cases hname : name = l
      · subst hname
        rw [if_pos rfl, if_neg hl, if_pos rfl]
      · rw [if_neg hname, if_neg hname]

/-! ## Entries -/

section

variable {key : String} {value : α}

/-- What is found under a key is an entry. -/
lemma mem_of_lookup {entries : List (String × α)} (h : entries.lookup key = some value) :
    (key, value) ∈ entries := by
  obtain ⟨before, after, rfl, -⟩ := List.lookup_eq_some_iff.mp h
  exact List.mem_append_right _ List.mem_cons_self

lemma mem_of_get? {t : Table α} (h : t.get? key = some value) : (key, value) ∈ t.entries :=
  mem_of_lookup h

lemma isSome_get? {t : Table α} : (t.get? key).isSome = true ↔ key ∈ t.keys := by
  rw [get?, List.lookup_isSome_iff, keys, List.mem_map]
  constructor
  · rintro ⟨entry, hentry, hkey⟩
    exact ⟨entry, hentry, (beq_iff_eq.mp hkey).symm⟩
  · rintro ⟨entry, hentry, rfl⟩
    exact ⟨entry, hentry, beq_self_eq_true _⟩

/-- An entry under a new key goes to the end. -/
lemma insertEntry_of_notMem {entries : List (String × α)} (h : key ∉ entries.map Prod.fst) :
    insertEntry key value entries = entries ++ [(key, value)] := by
  induction entries with
  | nil => rfl
  | cons entry rest ih =>
    obtain ⟨k, v⟩ := entry
    rw [List.map_cons, List.mem_cons, not_or] at h
    rw [insertEntry, if_neg h.1, ih h.2]
    rfl

/-- Of two values that are put under one key, the second stays. -/
lemma insert_insert (t : Table α) (key : String) (old value : α) :
    (t.insert key old).insert key value = t.insert key value := by
  refine Table.ext ?_
  rw [entries_insert, entries_insert, entries_insert]
  induction t.entries with
  | nil => simp [insertEntry]
  | cons entry rest ih =>
    obtain ⟨k, v⟩ := entry
    by_cases hk : key = k
    · simp [insertEntry, hk]
    · rw [insertEntry, if_neg hk, insertEntry, if_neg hk, insertEntry, if_neg hk, ih]

/-- An entry under a key that is there takes the place of the one that it finds. -/
lemma insertEntry_of_mem (value : α) {entries : List (String × α)}
    (h : key ∈ entries.map Prod.fst) :
    ∃ front old back, entries = front ++ (key, old) :: back ∧
      insertEntry key value entries = front ++ (key, value) :: back := by
  induction entries with
  | nil => cases h
  | cons entry rest ih =>
    obtain ⟨k, v⟩ := entry
    by_cases hk : key = k
    · subst hk
      exact ⟨[], v, rest, rfl, by simp [insertEntry]⟩
    · rw [List.map_cons, List.mem_cons] at h
      obtain ⟨front, old, back, hentries, hafter⟩ := ih (h.resolve_left hk)
      refine ⟨(k, v) :: front, old, back, by rw [hentries]; rfl, ?_⟩
      rw [insertEntry, if_neg hk, hafter]
      rfl

lemma mem_insertEntry {entries : List (String × α)} {entry : String × α}
    (h : entry ∈ insertEntry key value entries) : entry = (key, value) ∨ entry ∈ entries := by
  by_cases hkey : key ∈ entries.map Prod.fst
  · obtain ⟨front, old, back, hentries, hafter⟩ := insertEntry_of_mem value hkey
    rw [hafter] at h
    rw [hentries]
    rcases List.mem_append.mp h with hfront | hback
    · exact .inr (List.mem_append_left _ hfront)
    · rcases List.mem_cons.mp hback with rfl | hback
      · exact .inl rfl
      · exact .inr (List.mem_append_right _ (List.mem_cons_of_mem _ hback))
  · rw [insertEntry_of_notMem hkey, List.mem_append, List.mem_singleton] at h
    exact h.symm

/-- A key is taken out with the one entry under it, and the other entries keep their order. -/
lemma entries_erase {t : Table α} (hkey : key ∈ t.keys) :
    ∃ front old back, t.entries = front ++ (key, old) :: back ∧
      (t.erase key).entries = front ++ back := by
  obtain ⟨⟨key', old⟩, hentry, rfl⟩ := List.mem_map.mp hkey
  obtain ⟨front, back, hentries⟩ := List.append_of_mem hentry
  refine ⟨front, old, back, hentries, ?_⟩
  have h := t.nodup
  rw [hentries, List.map_append, List.map_cons] at h
  obtain ⟨-, hback, hdisjoint⟩ := List.nodup_append.mp h
  have hkept : ∀ entries : List (String × α), key' ∉ entries.map Prod.fst →
      entries.filter (fun entry => entry.1 ≠ key') = entries := by
    intro entries hnot
    refine List.filter_eq_self.mpr fun entry hentry => ?_
    have hne : entry.1 ≠ key' := fun hsame => hnot (hsame ▸ List.mem_map_of_mem hentry)
    exact decide_eq_true hne
  have hfront : key' ∉ front.map Prod.fst :=
    fun hmem => hdisjoint key' hmem key' List.mem_cons_self rfl
  rw [erase, entries_filter, hentries, List.filter_append, List.filter_cons_of_neg (by simp),
    hkept front hfront, hkept back (List.nodup_cons.mp hback).1]

/-- It does not matter what stood under a key that is taken out. -/
lemma erase_insert (t : Table α) (key : String) (value : α) :
    (t.insert key value).erase key = t.erase key := by
  refine Table.ext ?_
  rw [erase, erase, entries_filter, entries_filter, entries_insert]
  induction t.entries with
  | nil => simp [insertEntry]
  | cons entry rest ih =>
    obtain ⟨k, v⟩ := entry
    by_cases hk : key = k
    · simp [insertEntry, hk]
    · rw [insertEntry, if_neg hk, List.filter_cons, List.filter_cons, ih]

/-- A table that is made from entries has no others. -/
lemma mem_of_mem_ofList {entries : List (String × α)} {entry : String × α}
    (h : entry ∈ (ofList entries).entries) : entry ∈ entries := by
  have hfold : ∀ t : Table α, entry ∈ (entries.foldl (fun t (k, v) => t.insert k v) t).entries →
      entry ∈ entries ∨ entry ∈ t.entries := by
    clear h
    induction entries with
    | nil => exact fun t h => .inr h
    | cons head rest ih =>
      intro t h
      rcases ih _ h with hrest | ht
      · exact .inl (List.mem_cons_of_mem _ hrest)
      · rcases mem_insertEntry ht with rfl | ht
        · exact .inl List.mem_cons_self
        · exact .inr ht
  exact (hfold empty h).resolve_right fun hnil => nomatch hnil

end

end Table
end EntityGate
