/-
# Tables in insertion order

A table is a list of entries with distinct keys, in the order in which the keys were first
inserted.  That the keys are distinct belongs to the table itself, so whatever makes a table has to
keep them so.  Inserting under a key that is already there replaces its value and keeps its place,
so the keys after an insertion are the old keys, followed by the new one if it is new
(`keys_insert`).  `merge` inserts the entries of one table into another.
-/

namespace EntityGate

/-- A table from texts to values, in insertion order. -/
structure Table (α : Type) where
  entries : List (String × α)
  /-- No key occurs twice. -/
  nodup : (entries.map Prod.fst).Nodup
deriving DecidableEq

namespace Table

variable {α β : Type}

/-- The table without entries. -/
def empty : Table α := ⟨[], List.nodup_nil⟩

instance : Inhabited (Table α) := ⟨empty⟩

/-- The keys in order. -/
def keys (t : Table α) : List String := t.entries.map Prod.fst

/-- The values in the order of their keys. -/
def values (t : Table α) : List α := t.entries.map Prod.snd

/-- The number of entries. -/
def size (t : Table α) : Nat := t.entries.length

/-- Whether there are no entries. -/
def isEmpty (t : Table α) : Bool := t.entries.isEmpty

/-- The value under a key. -/
def get? (t : Table α) (key : String) : Option α := t.entries.lookup key

/-- Whether a key is present. -/
def contains (t : Table α) (key : String) : Bool := (t.get? key).isSome

/-- Replace the value under a key in place, or append the entry. -/
def insertEntry (key : String) (value : α) : List (String × α) → List (String × α)
  | [] => [(key, value)]
  | (k, v) :: rest => if key = k then (k, value) :: rest else (k, v) :: insertEntry key value rest

theorem keys_insertEntry (key : String) (value : α) (entries : List (String × α)) :
    (insertEntry key value entries).map Prod.fst =
      if key ∈ entries.map Prod.fst then entries.map Prod.fst
      else entries.map Prod.fst ++ [key] := by
  induction entries with
  | nil => simp [insertEntry]
  | cons entry rest ih =>
    obtain ⟨l, v⟩ := entry
    by_cases hl : key = l
    · simp [insertEntry, hl]
    · simp only [insertEntry, hl, if_false, List.map_cons, ih, List.mem_cons, false_or]
      split <;> simp

theorem nodup_insertEntry (key : String) (value : α) {entries : List (String × α)}
    (h : (entries.map Prod.fst).Nodup) :
    ((insertEntry key value entries).map Prod.fst).Nodup := by
  rw [keys_insertEntry]
  split
  · exact h
  · rename_i hkey
    refine List.nodup_append.mpr ⟨h, by simp, ?_⟩
    intro k hk other hother hsame
    rw [List.mem_singleton] at hother
    exact hkey (hother ▸ hsame ▸ hk)

/-- Put a value under a key: in place if the key is present, else at the end. -/
def insert (t : Table α) (key : String) (value : α) : Table α :=
  ⟨insertEntry key value t.entries, nodup_insertEntry key value t.nodup⟩

/-- Keep the entries whose keys pass a test, in their order. -/
def filter (keep : String → Bool) (t : Table α) : Table α :=
  ⟨t.entries.filter fun entry => keep entry.1, (List.filter_sublist.map Prod.fst).nodup t.nodup⟩

/-- Remove a key; the others keep their order. -/
def erase (t : Table α) (key : String) : Table α := t.filter fun k => k ≠ key

/-- The table with the given entries inserted one after the other. -/
def ofList (entries : List (String × α)) : Table α :=
  entries.foldl (fun t (k, v) => t.insert k v) empty

/-- The image of every value. -/
def map (f : α → β) (t : Table α) : Table β :=
  ⟨t.entries.map fun (k, v) => (k, f v), by
    rw [List.map_map]
    exact t.nodup⟩

/-- Insert every entry of another table, combining with the value that is already there. -/
def mergeWith (combine : α → α → α) (t other : Table α) : Table α :=
  other.entries.foldl
    (fun t (k, v) => t.insert k (match t.get? k with | some u => combine u v | none => v)) t

/-- Insert every entry of another table. -/
def merge (t other : Table α) : Table α := t.mergeWith (fun _ v => v) other

/-- A table is determined by its entries. -/
@[ext] theorem ext {t u : Table α} (h : t.entries = u.entries) : t = u := by
  cases t
  cases u
  cases h
  rfl

/-- The keys of a table are distinct. -/
theorem nodup_keys (t : Table α) : t.keys.Nodup := t.nodup

@[simp] theorem entries_empty : (empty : Table α).entries = [] := rfl

@[simp] theorem entries_insert (t : Table α) (key : String) (value : α) :
    (t.insert key value).entries = insertEntry key value t.entries := rfl

@[simp] theorem entries_filter (keep : String → Bool) (t : Table α) :
    (t.filter keep).entries = t.entries.filter fun entry => keep entry.1 := rfl

@[simp] theorem entries_map (f : α → β) (t : Table α) :
    (t.map f).entries = t.entries.map fun (k, v) => (k, f v) := rfl

/-! ## The entries after an insertion -/

theorem lookup_cons (k l : String) (v : α) (rest : List (String × α)) :
    ((l, v) :: rest).lookup k = if k = l then some v else rest.lookup k := by
  rw [List.lookup_cons]
  by_cases h : k = l
  · simp [h]
  · simp [h, beq_eq_false_iff_ne.mpr h]

theorem lookup_insertEntry (key k : String) (value : α) (entries : List (String × α)) :
    (insertEntry key value entries).lookup k =
      if k = key then some value else entries.lookup k := by
  induction entries with
  | nil => simp [insertEntry, lookup_cons]
  | cons entry rest ih =>
    obtain ⟨l, v⟩ := entry
    by_cases hl : key = l
    · subst hl
      by_cases h : k = key <;> simp [insertEntry, lookup_cons, h]
    · by_cases h : k = l
      · subst h
        simp [insertEntry, hl, Ne.symm hl]
      · simp [insertEntry, lookup_cons, hl, h, ih]

theorem get?_insert (t : Table α) (key k : String) (value : α) :
    (t.insert key value).get? k = if k = key then some value else t.get? k :=
  lookup_insertEntry key k value t.entries

theorem keys_insert (t : Table α) (key : String) (value : α) :
    (t.insert key value).keys = if key ∈ t.keys then t.keys else t.keys ++ [key] :=
  keys_insertEntry key value t.entries

end Table

end EntityGate
