/-
# Looking rows up by key and by query

Rows are found by the value of a column in two ways.  A query goes over the rows and keeps each
one whose value is among those that are asked for.  A lookup by id goes over the ids, and answers
each of them with the row under its key.  The two find the same rows as long as ids are equal
exactly if their keys are, and the lookup finds them once as long as no stored id is asked for
twice.
-/
import EntityGate.Gate.Read
import EntityGate.Proofs.Keys
import Mathlib.Data.List.Nodup

namespace EntityGate

open QuerySpec (cell)

/-! ## Specification -/

namespace Memory

/-- The rows whose column holds one of some values, in their order. -/
def members (m : Memory) (entityType field : String) (values : List Json) : List Json :=
  (m.rows entityType).filter fun row => values.any (Column.same (cell row field))

/-- The key of the id that a row holds. -/
def rowKey (row : Json) : String := idKey (cell row "id")

/-- The keys of those ids that are stored, in the order of the ids and as often. -/
def askedKeys (m : Memory) (entityType : String) (ids : List Json) : List String :=
  (ids.map idKey).filter (· ∈ (m.table entityType).keys)

/-- Some ids are equal to stored ones exactly if their keys are. -/
def AskedAlike (m : Memory) (entityType : String) (ids : List Json) : Prop :=
  ∀ id ∈ ids, ∀ row ∈ m.rows entityType,
    Column.same (cell row "id") id = true ↔ rowKey row = idKey id

/-- What a lookup of some ids finds. -/
structure Looked (m : Memory) (entityType : String) (ids found : List Json) : Prop where
  /-- Every stored id is answered, in its place and as often as it is asked for. -/
  keys : found.map rowKey = m.askedKeys entityType ids
  mem : ∀ row, row ∈ found ↔ row ∈ m.rows entityType ∧ rowKey row ∈ ids.map idKey
  once : found.Nodup ↔ (m.askedKeys entityType ids).Nodup
  /-- The rows are those that the query finds, and each one is there once if it is asked for
  once. -/
  alike : m.AskedAlike entityType ids →
    (∀ row, row ∈ found ↔ row ∈ m.members entityType "id" ids) ∧
    ((m.askedKeys entityType ids).Nodup → found.Perm (m.members entityType "id" ids))

end Memory

/-! ## The query -/

namespace Text

/-- A text without a separator is what stands before the first one. -/
lemma cutFirst?_append {separator : Char} {scope : String} (h : separator ∉ scope.toList)
    (column : String) :
    cutFirst? separator (scope ++ String.singleton separator ++ column) = some (scope, column) := by
  have hall : ∀ c ∈ scope.toList, decide (c ≠ separator) = true := by
    intro c hc
    refine decide_eq_true ?_
    rintro rfl
    exact h hc
  have hchars : (scope ++ String.singleton separator ++ column).toList =
      scope.toList ++ separator :: column.toList := by
    simp
  rw [cutFirst?]
  simp only [hchars]
  rw [List.dropWhile_append_of_pos hall, List.takeWhile_append_of_pos hall,
    List.dropWhile_cons_of_neg (by simp), List.takeWhile_cons_of_neg (by simp), List.append_nil]
  simp only [String.ofList_toList]

end Text

namespace QuerySpec

variable {q : QuerySpec}

lemma keep_eq_filter {p : Json → Bool}
    (h : ∀ row, q.clauseHolds row q.conditions = .ok (p row)) (rows : List Json) :
    q.keep rows = .ok (rows.filter p) := by
  induction rows with
  | nil => rfl
  | cons row rest ih =>
    rw [keep, h row, ih, List.filter_cons]
    rfl

/-- Without keys rows stay as they are. -/
lemma sortRows_nil (rows : List Json) : sortRows [] rows = rows := by
  have hfoldl : ∀ (rest sorted : List Json),
      rest.foldl (fun sorted row => insertRow [] row sorted) sorted = rest.reverse ++ sorted := by
    intro rest
    induction rest with
    | nil => exact fun _ => rfl
    | cons row rest ih =>
      intro sorted
      have hinsert : insertRow [] row sorted = row :: sorted := by
        cases sorted <;> rfl
      rw [List.foldl_cons, hinsert, ih, List.reverse_cons, List.append_assoc]
      rfl
  rw [sortRows, hfoldl, List.append_nil, List.reverse_reverse]

end QuerySpec

namespace Gate

variable {aliasName : String} (halias : '.' ∉ aliasName.toList)
include halias

/-- The column of the query is the field. -/
lemma membersQuery_column? (entityType field : String) (values : List Json) :
    (membersQuery entityType aliasName field values).column? (aliasName ++ "." ++ field) =
      .ok field := by
  have hcut : Text.cutFirst? '.' (aliasName ++ "." ++ field) = some (aliasName, field) :=
    Text.cutFirst?_append halias field
  have hroot : (membersQuery entityType aliasName field values).rootAlias = aliasName := rfl
  simp only [QuerySpec.column?, hcut, hroot, if_pos]

/-- Its conditions say that the column holds one of the values. -/
lemma membersQuery_holds (entityType field : String) (values : List Json) (row : Json) :
    (membersQuery entityType aliasName field values).clauseHolds row
        (membersQuery entityType aliasName field values).conditions =
      .ok (values.any (Column.same (cell row field))) := by
  have hcolumn := membersQuery_column? halias entityType field values
  generalize hq : membersQuery entityType aliasName field values = q at hcolumn ⊢
  have hconditions : q.conditions =
      some (.predicate (aliasName ++ "." ++ field) .isIn [.param "ids"]) := by
    rw [← hq]
    rfl
  have hvalue : q.operandValue row (.param "ids") = .ok (.arr values) := by
    rw [← hq]
    rfl
  rw [hconditions, QuerySpec.clauseHolds, QuerySpec.holds, hcolumn, List.mapM_cons, hvalue]
  rfl

/-- The query keeps the rows whose column holds one of the values, up to its limit. -/
lemma execute_membersQuery (entityType field : String) (values : List Json) (m : Memory) :
    Memory.execute (membersQuery entityType aliasName field values) m =
      (.ok ((m.members entityType field values).take largestLimit), m) := by
  have hmatching : (membersQuery entityType aliasName field values).matching (m.rows entityType) =
      .ok (m.members entityType field values) := by
    have hkeep := QuerySpec.keep_eq_filter (membersQuery_holds halias entityType field values)
      (m.rows entityType)
    have hkeys : (membersQuery entityType aliasName field values).orderKeys = .ok [] := rfl
    rw [QuerySpec.matching, hkeep, hkeys]
    exact congrArg Except.ok (QuerySpec.sortRows_nil _)
  have hroot : (membersQuery entityType aliasName field values).rootEntity = entityType := rfl
  rw [Memory.execute, hroot, hmatching]
  rfl

end Gate

/-! ## The lookup -/

namespace Memory

variable {m : Memory} {entityType : String}

lemma rowKey_of_mem (hkeyed : m.tables.WellKeyed) {key : String} {row : Json}
    (h : (key, row) ∈ (m.table entityType).entries) : rowKey row = key := by
  obtain ⟨id, hid, rfl⟩ := hkeyed entityType key row
    (Table.lookup_eq_some_of_mem (m.table entityType).nodup h)
  rw [rowKey, cell, hid]
  rfl

/-- The keys of the rows are those they lie under. -/
lemma map_rowKey_rows (hkeyed : m.tables.WellKeyed) (entityType : String) :
    (m.rows entityType).map rowKey = (m.table entityType).keys := by
  rw [rows, Table.values, Table.keys, List.map_map]
  exact List.map_congr_left fun entry hentry => rowKey_of_mem hkeyed hentry

lemma nodup_rows (hkeyed : m.tables.WellKeyed) (entityType : String) :
    (m.rows entityType).Nodup := by
  refine List.Nodup.of_map rowKey ?_
  rw [map_rowKey_rows hkeyed]
  exact (m.table entityType).nodup_keys

lemma rowKey_inj (hkeyed : m.tables.WellKeyed) {row other : Json} (hrow : row ∈ m.rows entityType)
    (hother : other ∈ m.rows entityType) (h : rowKey row = rowKey other) : row = other := by
  refine List.inj_on_of_nodup_map ?_ hrow hother h
  rw [map_rowKey_rows hkeyed]
  exact (m.table entityType).nodup_keys

/-- The row of an entity is the stored one with its key. -/
lemma row?_eq_some (hkeyed : m.tables.WellKeyed) {id row : Json} :
    m.row? entityType id = some row ↔ row ∈ m.rows entityType ∧ rowKey row = idKey id := by
  have hrows : ∀ {row}, m.row? entityType id = some row →
      row ∈ m.rows entityType ∧ rowKey row = idKey id := by
    intro row h
    have hentry : (idKey id, row) ∈ (m.table entityType).entries := Table.mem_of_get? h
    exact ⟨List.mem_map_of_mem hentry, rowKey_of_mem hkeyed hentry⟩
  refine ⟨hrows, fun ⟨hrow, hkey⟩ => ?_⟩
  have hsome : (m.row? entityType id).isSome = true := by
    rw [isSome_row?, ← map_rowKey_rows hkeyed, ← hkey]
    exact List.mem_map_of_mem hrow
  obtain ⟨other, hother⟩ := Option.isSome_iff_exists.mp hsome
  obtain ⟨hmem, hsame⟩ := hrows hother
  rw [hother, rowKey_inj hkeyed hmem hrow (hsame.trans hkey.symm)]

lemma map_rowKey_filterMap (hkeyed : m.tables.WellKeyed) (entityType : String) (ids : List Json) :
    (ids.filterMap (m.row? entityType)).map rowKey = m.askedKeys entityType ids := by
  induction ids with
  | nil => rfl
  | cons id rest ih =>
    rw [askedKeys, List.map_cons]
    cases hrow : m.row? entityType id with
    | none =>
      have hnot : idKey id ∉ (m.table entityType).keys := by
        rw [← isSome_row?, hrow]
        exact Bool.false_ne_true
      rw [List.filterMap_cons_none hrow, List.filter_cons_of_neg (by simpa using hnot)]
      exact ih
    | some row =>
      have hmem : idKey id ∈ (m.table entityType).keys := by
        rw [← isSome_row?, hrow]
        rfl
      rw [List.filterMap_cons_some hrow, List.filter_cons_of_pos (by simpa using hmem),
        List.map_cons, ((row?_eq_some hkeyed).mp hrow).2]
      exact congrArg _ ih

/-- What is found by id in a store whose rows lie under their keys. -/
lemma looked_of_wellKeyed (hkeyed : m.tables.WellKeyed) (entityType : String) (ids : List Json) :
    Looked m entityType ids (ids.filterMap (m.row? entityType)) := by
  have hkeys := map_rowKey_filterMap hkeyed entityType ids
  have hmem : ∀ row, row ∈ ids.filterMap (m.row? entityType) ↔
      row ∈ m.rows entityType ∧ rowKey row ∈ ids.map idKey := by
    intro row
    simp only [List.mem_filterMap, row?_eq_some hkeyed, List.mem_map]
    constructor
    · rintro ⟨id, hid, hrow, hkey⟩
      exact ⟨hrow, id, hid, hkey.symm⟩
    · rintro ⟨hrow, id, hid, hkey⟩
      exact ⟨id, hid, hrow, hkey.symm⟩
  have honce : (ids.filterMap (m.row? entityType)).Nodup ↔ (m.askedKeys entityType ids).Nodup := by
    rw [← hkeys]
    refine ⟨List.Nodup.map_on fun row hrow other hother => ?_, List.Nodup.of_map rowKey⟩
    exact rowKey_inj hkeyed ((hmem row).mp hrow).1 ((hmem other).mp hother).1
  refine ⟨hkeys, hmem, honce, fun halike => ?_⟩
  have hsame : ∀ row, row ∈ ids.filterMap (m.row? entityType) ↔
      row ∈ m.members entityType "id" ids := by
    intro row
    rw [hmem, members, List.mem_filter, List.any_eq_true]
    refine and_congr_right fun hrow => ?_
    rw [List.mem_map]
    refine exists_congr fun id => and_congr_right fun hid => ?_
    rw [halike id hid row hrow, eq_comm]
  refine ⟨hsame, fun hdistinct => ?_⟩
  exact (List.perm_ext_iff_of_nodup (honce.mpr hdistinct)
    ((nodup_rows hkeyed entityType).filter _)).mpr hsame

/-- Among texts, ids are equal exactly if their keys are. -/
lemma askedAlike_of_texts {ids : List Json} (hids : ∀ id ∈ ids, ∃ s, id = .str s)
    (hrows : ∀ row ∈ m.rows entityType, ∃ s, cell row "id" = .str s) :
    m.AskedAlike entityType ids := by
  intro id hid row hrow
  obtain ⟨s, rfl⟩ := hids id hid
  obtain ⟨t, ht⟩ := hrows row hrow
  rw [rowKey, ht]
  exact decide_eq_true_iff

end Memory

namespace Gate

variable {gate : Gate Memory} {schema : Schema} {entityType : String}

/-- Nothing is found without values; else it depends on the column how rows are found. -/
lemma findIn_outcome {config : EntityConfig} (hconfig : gate.config.entity entityType = .ok config)
    (field : String) (values : List Json) (m : Memory) :
    (gate.findIn entityType field values).outcome m =
      if values.isEmpty then (.ok [], m)
      else if field = "id" then Effect.ofStore (gate.persistence.findIn entityType values) m
      else Effect.ofStore
        (gate.persistence.execute (membersQuery entityType config.aliasName field values)) m := by
  rw [Effect.outcome, findIn, hconfig]
  cases values with
  | nil => rfl
  | cons _ _ =>
    by_cases hfield : field = "id"
    · simp only [if_pos hfield]
      rfl
    · simp only [if_neg hfield]
      rfl

/-- How rows are found by the value of a column: by a query, unless the column is the id, which
the store looks up. -/
theorem find_in_answers (hstore : gate.persistence = Memory.persistence schema)
    {config : EntityConfig} (hconfig : gate.config.entity entityType = .ok config)
    (halias : '.' ∉ config.aliasName.toList) (field : String) (values : List Json) (m : Memory) :
    Memory.execute (membersQuery entityType config.aliasName field values) m =
        (.ok ((m.members entityType field values).take largestLimit), m) ∧
      (field ≠ "id" → (gate.findIn entityType field values).outcome m =
        (.ok ((m.members entityType field values).take largestLimit), m)) ∧
      (m.tables.WellKeyed → (m.members entityType field values).Nodup ∧
        ∃ found m', (gate.findIn entityType "id" values).outcome m = (.ok found, m') ∧
          m'.tables = m.tables ∧ Memory.Looked m entityType values found) := by
  have hquery := execute_membersQuery halias entityType field values m
  refine ⟨hquery, fun hfield => ?_, fun hkeyed => ⟨?_, ?_⟩⟩
  · rw [findIn_outcome hconfig, if_neg hfield, hstore]
    cases values with
    | nil =>
      have hnone : m.members entityType field [] = [] :=
        List.filter_eq_nil_iff.mpr fun _ _ => Bool.false_ne_true
      rw [hnone]
      rfl
    | cons value rest =>
      have hexecute : (Memory.persistence schema).execute = Memory.execute := rfl
      rw [if_neg (by simp), Effect.ofStore, hexecute, hquery]
  · exact (Memory.nodup_rows hkeyed entityType).filter _
  · have hlooked := Memory.looked_of_wellKeyed hkeyed entityType values
    rw [findIn_outcome hconfig, if_pos rfl]
    cases values with
    | nil => exact ⟨[], m, rfl, rfl, hlooked⟩
    | cons value rest =>
      have hfind : gate.persistence.findIn = Memory.findIn := by rw [hstore]; rfl
      refine ⟨_, (Memory.findIn entityType (value :: rest) m).2, ?_, rfl, hlooked⟩
      rw [if_neg (by simp), Effect.ofStore, hfind]
      rfl

/-- A gate to albums. -/
def collection : Gate Memory where
  config := ⟨.ofList [("album", default)]⟩
  registry := .standard
  persistence := Memory.persistence fun _ => []
  validator := fun _ _ => []
  events := []
  addedLevels := 0
  bareLevels := 0

def blue : Json := .obj [("id", .str "a"), ("name", .str "Blue")]

def hejira : Json := .obj [("id", .str "b"), ("name", .str "Hejira")]

/-- A store with two albums. -/
def twoAlbums : Memory := (Memory.seed "album" [blue, hejira] .empty).2

/-- Two albums and one that is not there, asked for in another order than they are stored. -/
theorem twoAlbums_answer :
    twoAlbums.tables.WellKeyed ∧
    (collection.findIn "album" "name" [.str "Hejira", .str "Mingus", .str "Blue"]).outcome
      twoAlbums = (.ok [blue, hejira], twoAlbums) ∧
    ((collection.findIn "album" "id" [.str "b", .str "c", .str "a"]).outcome twoAlbums).1 =
      .ok [hejira, blue] ∧
    [hejira, blue].Perm (twoAlbums.members "album" "id" [.str "b", .str "c", .str "a"]) := by
  have hstore : collection.persistence = Memory.persistence fun _ => [] := rfl
  have hconfig : collection.config.entity "album" = .ok default := rfl
  have halias : '.' ∉ (default : EntityConfig).aliasName.toList := by decide
  have hkeyed : twoAlbums.tables.WellKeyed := Memory.seed_wellKeyed Rows.wellKeyed_empty
  obtain ⟨-, hname, -⟩ := find_in_answers hstore hconfig halias "name"
    [.str "Hejira", .str "Mingus", .str "Blue"] twoAlbums
  obtain ⟨-, -, hid⟩ := find_in_answers hstore hconfig halias "id"
    [.str "b", .str "c", .str "a"] twoAlbums
  obtain ⟨-, found, m', hfound, -, hlooked⟩ := hid hkeyed
  have hresult : ((collection.findIn "album" "id" [.str "b", .str "c", .str "a"]).outcome
      twoAlbums).1 = .ok [hejira, blue] := rfl
  refine ⟨hkeyed, hname (by decide), hresult, ?_⟩
  rw [hfound] at hresult
  cases hresult
  refine (hlooked.alike ?_).2 (by decide)
  refine Memory.askedAlike_of_texts (by simp) fun row hrow => ?_
  rcases List.mem_pair.mp hrow with rfl | rfl
  · exact ⟨"a", rfl⟩
  · exact ⟨"b", rfl⟩

/-- An album that is asked for twice by its id is found twice, and by its name only once. -/
theorem twoAlbums_answer_again :
    ((collection.findIn "album" "id" [.str "a", .str "b", .str "a"]).outcome twoAlbums).1 =
      .ok [blue, hejira, blue] ∧
    ((collection.findIn "album" "name" [.str "Blue", .str "Hejira", .str "Blue"]).outcome
      twoAlbums).1 = .ok [blue, hejira] ∧
    (Memory.execute (membersQuery "album" "t" "id" [.str "a", .str "b", .str "a"]) twoAlbums).1 =
      .ok [blue, hejira] :=
  ⟨rfl, rfl, rfl⟩

end Gate

end EntityGate
