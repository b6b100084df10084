/-
# Fields of objects

What is found under a key after entries were put into an object or taken out of it.  Nothing is
assumed about the order of the entries: a value is put before any other one under its key, so it
is the one that is found.
-/
import EntityGate.Json.Basic
import EntityGate.Table
import Mathlib.Tactic.Lemma

namespace EntityGate
namespace Json

lemma lookup_cons (key k : String) (v : Json) (rest : List (String × Json)) :
    lookup key ((k, v) :: rest) = if key = k then some v else lookup key rest :=
  Table.lookup_cons key k v rest

/-- A value is found under the key that it was put under, and other keys are not affected. -/
lemma lookup_insertField (key k : String) (v : Json) (fields : List (String × Json)) :
    lookup key (insertField k v fields) = if key = k then some v else lookup key fields := by
  induction fields with
  | nil => rw [insertField, lookup_cons]
  | cons entry rest ih =>
    obtain ⟨l, w⟩ := entry
    rw [insertField]
    by_cases hl : k = l
    · subst hl
      rw [if_pos rfl, lookup_cons, lookup_cons]
      split <;> rfl
    · rw [if_neg hl]
      split
      · rw [lookup_cons]
      · rw [lookup_cons, lookup_cons, ih]
        by_cases hkey : key = l
        · subst hkey
          rw [if_pos rfl, if_pos rfl, if_neg (Ne.symm hl)]
        · rw [if_neg hkey, if_neg hkey]

/-- Taking a key out does not affect the others. -/
lemma lookup_eraseField {key k : String} (hkey : key ≠ k) (fields : List (String × Json)) :
    lookup key (eraseField k fields) = lookup key fields := by
  induction fields with
  | nil => rfl
  | cons entry rest ih =>
    obtain ⟨l, w⟩ := entry
    rw [eraseField, List.filter_cons]
    by_cases hl : l = k
    · subst hl
      rw [if_neg (by simp), lookup_cons, if_neg hkey]
      exact ih
    · rw [if_pos (by simpa using hl), lookup_cons, lookup_cons]
      split
      · rfl
      · exact ih

lemma mem_keys_eraseField {key name : String} {fields : List (String × Json)} :
    name ∈ (eraseField key fields).map Prod.fst ↔ name ∈ fields.map Prod.fst ∧ name ≠ key := by
  simp only [eraseField, List.mem_map, List.mem_filter, decide_eq_true_eq]
  constructor
  · rintro ⟨entry, ⟨hmem, hne⟩, rfl⟩
    exact ⟨⟨entry, hmem, rfl⟩, hne⟩
  · rintro ⟨⟨entry, hmem, rfl⟩, hne⟩
    exact ⟨entry, ⟨hmem, hne⟩, rfl⟩

lemma eraseField_eq_self {key : String} {fields : List (String × Json)}
    (h : key ∉ fields.map Prod.fst) : eraseField key fields = fields := by
  refine List.filter_eq_self.mpr fun entry hentry => decide_eq_true ?_
  rintro rfl
  exact h (List.mem_map_of_mem hentry)

/-- Taking a key out undoes putting a value under it. -/
lemma eraseField_insertField (key : String) (v : Json) (fields : List (String × Json)) :
    eraseField key (insertField key v fields) = eraseField key fields := by
  induction fields with
  | nil => simp [insertField, eraseField]
  | cons entry rest ih =>
    obtain ⟨k, w⟩ := entry
    simp only [eraseField, List.filter_cons, ne_eq, decide_not] at ih ⊢
    rw [insertField]
    by_cases hk : key = k
    · simp [hk]
    · rw [if_neg hk]
      split <;> simp [List.filter_cons, ih]

/-- Of some entries that were put into an object, the last one under a key is found, and below
them what was there before. -/
lemma lookup_foldl_insertField (key : String) (entries fields : List (String × Json)) :
    lookup key (entries.foldl (fun acc (k, v) => insertField k v acc) fields) =
      ((ofFields entries).get? key).or (lookup key fields) := by
  induction entries generalizing fields with
  | nil => rfl
  | cons entry rest ih =>
    obtain ⟨k, v⟩ := entry
    have hrest : (ofFields ((k, v) :: rest)).get? key =
        lookup key (rest.foldl (fun acc (k, v) => insertField k v acc) (insertField k v [])) := rfl
    rw [hrest, List.foldl_cons, ih, ih, Option.or_assoc, lookup_insertField, lookup_insertField]
    congr 1
    split <;> rfl

/-- Where a key is not among some entries, nothing is found under it. -/
lemma get?_ofFields_of_notMem {key : String} {entries : List (String × Json)}
    (h : key ∉ entries.map Prod.fst) : (ofFields entries).get? key = none := by
  induction entries with
  | nil => rfl
  | cons entry rest ih =>
    obtain ⟨k, v⟩ := entry
    rw [List.map_cons, List.mem_cons, not_or] at h
    have hrest : (ofFields ((k, v) :: rest)).get? key =
        lookup key (rest.foldl (fun acc (k, v) => insertField k v acc) (insertField k v [])) := rfl
    rw [hrest, lookup_foldl_insertField, ih h.2, lookup_insertField, if_neg h.1]
    rfl

end Json
end EntityGate
