/-
# Rows in memory

What the store in memory does with a record.  The row that is stored holds the fields of the
record, each relation as the changes of the record leave it.  A write puts one row or drops one,
and all other rows stay where they are.
-/
import EntityGate.Proofs.Binding
import EntityGate.Proofs.Tables
import EntityGate.Store.Memory

namespace EntityGate

open Decision

/-! ## Changes -/

namespace Change

/-- The value of a field after some changes: those that attach something to it are applied one
after the other. -/
def settled (schema : Schema) (entityType field : String) (changes : List Change)
    (current : Option Json) : Option Json :=
  changes.foldl (fun current c =>
    if c.relation = field ∧ c.assign.attaches = true then
      some (c.newValue (((schema.association? entityType field).map Association.toMany).getD false)
        current)
    else current) current

/-- A field to which nothing is attached keeps its value. -/
lemma settled_of_unattached {schema : Schema} {entityType field : String} {changes : List Change}
    (h : ∀ c ∈ changes, c.relation = field → c.assign.attaches = false)
    (current : Option Json) : settled schema entityType field changes current = current := by
  induction changes generalizing current with
  | nil => rfl
  | cons c rest ih =>
    have hc := h c List.mem_cons_self
    rw [settled, List.foldl_cons, if_neg ?_]
    · exact ih (fun c' hc' => h c' (List.mem_cons_of_mem _ hc')) current
    · rintro ⟨hfield, hattaches⟩
      rw [hc hfield] at hattaches
      cases hattaches

lemma lookup_apply {schema : Schema} {entityType : String} {fields after : List (String × Json)}
    {c : Change} (h : apply schema entityType fields c = .ok after) (field : String) :
    Json.lookup field after = settled schema entityType field [c] (Json.lookup field fields) := by
  rw [apply] at h
  rw [settled, List.foldl_cons, List.foldl_nil]
  split at h
  · rename_i hnot
    cases h
    rw [if_neg]
    rintro ⟨-, hattaches⟩
    rw [hattaches] at hnot
    cases hnot
  · rename_i hattaches
    split at h
    · rename_i a ha
      cases h
      rw [Json.lookup_insertField]
      by_cases hfield : field = c.relation
      · subst hfield
        rw [if_pos rfl, if_pos ⟨rfl, by simpa using hattaches⟩, ha]
        rfl
      · rw [if_neg hfield, if_neg fun hboth => hfield hboth.1.symm]
    · cases h

/-- Applied changes settle every field. -/
lemma lookup_applyAll {schema : Schema} {entityType : String} {changes : List Change}
    {fields after : List (String × Json)}
    (h : applyAll schema entityType fields changes = .ok after) (field : String) :
    Json.lookup field after =
      settled schema entityType field changes (Json.lookup field fields) := by
  induction changes generalizing fields with
  | nil =>
    cases h
    rfl
  | cons c rest ih =>
    rw [applyAll, List.foldlM_cons] at h
    obtain ⟨between, hbetween, h⟩ := bind_eq_ok.mp h
    rw [ih h, lookup_apply hbetween field]
    rfl

/-- A field that is no association keeps its value, since a change that attaches something to it
would be refused. -/
lemma lookup_applyAll_of_undeclared {schema : Schema} {entityType field : String}
    {changes : List Change} {fields after : List (String × Json)}
    (hnone : schema.association? entityType field = none)
    (h : applyAll schema entityType fields changes = .ok after) :
    Json.lookup field after = Json.lookup field fields := by
  induction changes generalizing fields with
  | nil =>
    cases h
    rfl
  | cons c rest ih =>
    rw [applyAll, List.foldlM_cons] at h
    obtain ⟨between, hbetween, h⟩ := bind_eq_ok.mp h
    rw [ih h, lookup_apply hbetween field, settled_of_unattached]
    intro c' hc' hrelation
    obtain rfl := List.mem_singleton.mp hc'
    rw [apply, hrelation, hnone] at hbetween
    cases hattaches : c'.assign.attaches with
    | false => rfl
    | true =>
      rw [hattaches] at hbetween
      cases hbetween

end Change

namespace Memory

/-! ## The row of a record -/

/-- The row of a record holds its fields, each settled by the changes. -/
lemma get?_rowOf {schema : Schema} {r : EntityRecord} {id row : Json}
    (h : rowOf schema r id = .ok row) {field : String} (hfield : field ≠ "id") :
    row.get? field =
      Change.settled schema r.entityType field r.changes (Json.lookup field r.fields) := by
  obtain ⟨fields, hfields, h⟩ := bind_eq_ok.mp h
  cases h
  rw [← if_neg (t := some id) (e := Json.lookup field r.fields) hfield,
    ← Json.lookup_insertField]
  exact Change.lookup_applyAll hfields field

/-- The row of a record holds the id, which no change of a relation replaces. -/
lemma get?_rowOf_id {schema : Schema} {r : EntityRecord} {id row : Json}
    (h : rowOf schema r id = .ok row) (hchanges : ∀ c ∈ r.changes, c.relation ≠ "id") :
    row.get? "id" = some id := by
  obtain ⟨fields, hfields, h⟩ := bind_eq_ok.mp h
  cases h
  have hlookup := Change.lookup_applyAll hfields "id"
  rw [Change.settled_of_unattached fun c hc hid => absurd hid (hchanges c hc),
    Json.lookup_insertField, if_pos rfl] at hlookup
  exact hlookup

/-- Whatever id a record is stored under, its row holds the id. -/
def KeepsId (schema : Schema) (r : EntityRecord) : Prop :=
  ∀ id row, rowOf schema r id = .ok row → row.get? "id" = some id

lemma keepsId_of_changes {schema : Schema} {r : EntityRecord}
    (h : ∀ c ∈ r.changes, c.relation ≠ "id") : KeepsId schema r :=
  fun _ _ hrow => get?_rowOf_id hrow h

lemma keepsId_of_undeclared {schema : Schema} {r : EntityRecord}
    (h : schema.association? r.entityType "id" = none) : KeepsId schema r := by
  intro id row hrow
  obtain ⟨fields, hfields, hrow⟩ := bind_eq_ok.mp hrow
  cases hrow
  exact (Change.lookup_applyAll_of_undeclared h hfields).trans
    ((Json.lookup_insertField "id" "id" id r.fields).trans (if_pos rfl))

end Memory

/-! ## Rows under keys -/

namespace Rows

/-- The row of a type under the text of an id. -/
def at? (rows : Rows) (entityType key : String) : Option Json :=
  ((rows.get? entityType).getD .empty).get? key

lemma at?_insert (rows : Rows) (entityType : String) (table : Table Json)
    (entityType' key : String) : at? (rows.insert entityType table) entityType' key =
      if entityType' = entityType then table.get? key else rows.at? entityType' key := by
  rw [at?, Table.get?_insert]
  split <;> rfl

/-- A row that is put under a key is found there, and all other rows are found where they were. -/
lemma at?_put (rows : Rows) (entityType k : String) (row : Json) (entityType' key : String) :
    at? (rows.insert entityType (((rows.get? entityType).getD .empty).insert k row)) entityType'
        key =
      if entityType' = entityType ∧ key = k then some row else rows.at? entityType' key := by
  rw [at?_insert]
  by_cases htype : entityType' = entityType
  · subst htype
    rw [if_pos rfl, Table.get?_insert]
    simp only [true_and]
    rfl
  · rw [if_neg htype, if_neg fun h => htype h.1]

lemma at?_drop (rows : Rows) (entityType k : String) (entityType' key : String) :
    at? (rows.insert entityType (((rows.get? entityType).getD .empty).erase k)) entityType' key =
      if entityType' = entityType ∧ key = k then none else rows.at? entityType' key := by
  rw [at?_insert]
  by_cases htype : entityType' = entityType
  · subst htype
    rw [if_pos rfl, Table.get?_erase]
    simp only [true_and]
    rfl
  · rw [if_neg htype, if_neg fun h => htype h.1]

end Rows

namespace Memory

lemma row?_eq (m : Memory) (entityType : String) (id : Json) :
    m.row? entityType id = m.tables.at? entityType (idKey id) := rfl

lemma isSome_row? {m : Memory} {entityType : String} {id : Json} :
    (m.row? entityType id).isSome = true ↔ idKey id ∈ (m.table entityType).keys :=
  Table.isSome_get?

/-- Opening a transaction leaves the rows alone, also when it fails. -/
lemma begin_tables (m : Memory) : (begin m).2.tables = m.tables := by
  unfold begin
  split <;> rfl

lemma tables_of_begin {m m' : Memory} (h : begin m = (.ok (), m')) : m'.tables = m.tables := by
  have htables := begin_tables m
  rw [h] at htables
  exact htables

/-- So does closing it. -/
lemma tables_of_commit {m m' : Memory} (h : commit m = (.ok (), m')) : m'.tables = m.tables := by
  rw [commit] at h
  split at h
  · cases h
    rfl
  · cases h

/-! ## Writes -/

/-- How a record was written: the id it got, and the one row that was put or dropped. -/
inductive Wrote (schema : Schema) (r : EntityRecord) (m : Memory) (row : Json) (m' : Memory) :
    Chain → Prop where
  | insert (id : Json) (hid : ∀ i, r.id = some i → i = id) (hrow : rowOf schema r id = .ok row)
      (hnew : m.row? r.entityType id = none)
      (htables : m'.tables = (m.put r.entityType id row).tables) :
      Wrote schema r m row m' .create
  | update (id : Json) (hid : r.id = some id) (hrow : rowOf schema r id = .ok row)
      (hold : (m.row? r.entityType id).isSome = true)
      (htables : m'.tables = (m.put r.entityType id row).tables) :
      Wrote schema r m row m' .update
  | remove (id : Json) (hid : r.id = some id) (hrow : row = r.toRow)
      (htables : m'.tables = (m.drop r.entityType id).tables) :
      Wrote schema r m row m' .delete

/-- A record that is kept gets an id, and its row is put under it. -/
lemma Wrote.put {schema : Schema} {r : EntityRecord} {m m' : Memory} {row : Json} {chain : Chain}
    (h : Wrote schema r m row m' chain) (hkept : chain ≠ .delete) :
    ∃ id, (∀ i, r.id = some i → i = id) ∧ rowOf schema r id = .ok row ∧
      m'.tables = (m.put r.entityType id row).tables := by
  cases h with
  | insert id hid hrow hnew htables => exact ⟨id, hid, hrow, htables⟩
  | update id hid hrow hold htables =>
    refine ⟨id, fun i hi => ?_, hrow, htables⟩
    rw [hid] at hi
    exact (Option.some.inj hi).symm
  | remove => exact absurd rfl hkept

/-- A write changes what lies under the id of its record, and nothing else. -/
lemma Wrote.at? {schema : Schema} {r : EntityRecord} {m m' : Memory} {row : Json} {chain : Chain}
    (h : Wrote schema r m row m' chain) (hkeeps : KeepsId schema r) :
    ∃ id, row.get? "id" = some id ∧ ∀ entityType key, m'.tables.at? entityType key =
      if entityType = r.entityType ∧ key = idKey id then
        if chain = .delete then none else some row
      else m.tables.at? entityType key := by
  cases h with
  | insert id hid hrow hnew htables =>
    refine ⟨id, hkeeps id row hrow, fun entityType key => ?_⟩
    rw [htables, Memory.put, table, Rows.at?_put]
    rfl
  | update id hid hrow hold htables =>
    refine ⟨id, hkeeps id row hrow, fun entityType key => ?_⟩
    rw [htables, Memory.put, table, Rows.at?_put]
    rfl
  | remove id hid hrow htables =>
    refine ⟨id, ?_, fun entityType key => ?_⟩
    · rw [hrow]
      exact EntityRecord.get?_toRow_id hid
    · rw [htables, drop, table, Rows.at?_drop]
      rfl

lemma newId_tables (m : Memory) (id : Option Json) : (m.newId id).2.tables = m.tables := by
  cases id <;> rfl

lemma wrote_of_insert {schema : Schema} {r : EntityRecord} {m m' : Memory} {row : Json}
    (h : insert schema r m = (.ok row, m')) : Wrote schema r m row m' .create := by
  have htables : ((m.logged ("insert:" ++ r.entityType)).newId r.id).2.tables = m.tables :=
    newId_tables _ r.id
  have hid : ∀ i, r.id = some i → i = ((m.logged ("insert:" ++ r.entityType)).newId r.id).1 := by
    intro i hi
    rw [hi]
    rfl
  rw [Memory.insert] at h
  dsimp only at h
  generalize (m.logged ("insert:" ++ r.entityType)).newId r.id = numbered at h htables hid
  obtain ⟨id, m₁⟩ := numbered
  dsimp only at h htables hid
  split at h
  · cases h
  · rename_i row' hrow
    split at h
    · cases h
    · rename_i hnew
      cases h
      refine .insert id hid hrow ?_ ?_
      · rw [row?_eq, ← htables, ← row?_eq]
        simpa using hnew
      · rw [put, put, table, htables]
        rfl

lemma wrote_of_update {schema : Schema} {r : EntityRecord} {m m' : Memory} {row : Json}
    (h : update schema r m = (.ok row, m')) : Wrote schema r m row m' .update := by
  rw [Memory.update] at h
  split at h
  · cases h
  · rename_i id hid
    split at h
    · cases h
    · rename_i row' hrow
      split at h
      · rename_i hold
        cases h
        exact .update id hid hrow hold rfl
      · cases h

lemma wrote_of_remove {schema : Schema} {r : EntityRecord} {m m' : Memory}
    (h : remove r m = (.ok (), m')) : Wrote schema r m r.toRow m' .delete := by
  rw [Memory.remove] at h
  split at h
  · cases h
  · rename_i id hid
    split at h
    · cases h
      exact .remove id hid rfl rfl
    · cases h

/-! ### Failed writes -/

lemma tables_of_insert {schema : Schema} {r : EntityRecord} {m m' : Memory} {text : String}
    (h : insert schema r m = (.error text, m')) : m'.tables = m.tables := by
  have htables := newId_tables (m.logged ("insert:" ++ r.entityType)) r.id
  rw [Memory.insert] at h
  dsimp only at h
  split at h
  · cases h
    exact htables
  · split at h
    · cases h
      exact htables
    · cases h

lemma tables_of_update {schema : Schema} {r : EntityRecord} {m m' : Memory} {text : String}
    (h : update schema r m = (.error text, m')) : m'.tables = m.tables := by
  rw [Memory.update] at h
  split at h
  · cases h
    rfl
  · split at h
    · cases h
      rfl
    · split at h
      · cases h
      · cases h
        rfl

lemma tables_of_remove {r : EntityRecord} {m m' : Memory} {text : String}
    (h : remove r m = (.error text, m')) : m'.tables = m.tables := by
  rw [Memory.remove] at h
  split at h
  · cases h
    rfl
  · split at h
    · cases h
    · cases h
      rfl

end Memory

namespace Gate

variable {gate : Gate Memory} {schema : Schema}

/-- What the store does when a gate to it writes a record. -/
lemma wrote_of_writeRecord (hstore : gate.persistence = Memory.persistence schema) {chain : Chain}
    (hread : chain ≠ .read) {r : EntityRecord} {m m' : Memory} {row : Json}
    (h : gate.writeRecord chain r m = (.ok row, m')) : Memory.Wrote schema r m row m' chain := by
  cases chain with
  | create =>
    rw [writeRecord, hstore] at h
    exact Memory.wrote_of_insert h
  | read => exact absurd rfl hread
  | update =>
    rw [writeRecord, hstore] at h
    exact Memory.wrote_of_update h
  | delete =>
    rw [writeRecord, hstore, Effect.run_bind] at h
    cases hremove : (Memory.persistence schema).remove r m with
    | mk result m₁ =>
      rw [hremove] at h
      cases result with
      | ok _ =>
        cases h
        exact Memory.wrote_of_remove hremove
      | error text => cases h

/-- A write that fails leaves the rows alone. -/
lemma tables_of_writeRecord (hstore : gate.persistence = Memory.persistence schema) {chain : Chain}
    {r : EntityRecord} {m m' : Memory} {text : String}
    (h : gate.writeRecord chain r m = (.error text, m')) : m'.tables = m.tables := by
  cases chain with
  | create =>
    rw [writeRecord, hstore] at h
    exact Memory.tables_of_insert h
  | read => cases h
  | update =>
    rw [writeRecord, hstore] at h
    exact Memory.tables_of_update h
  | delete =>
    rw [writeRecord, hstore, Effect.run_bind] at h
    cases hremove : (Memory.persistence schema).remove r m with
    | mk result m₁ =>
      rw [hremove] at h
      cases result with
      | ok _ => cases h
      | error text' =>
        cases h
        exact Memory.tables_of_remove hremove

/-- What it comes to that a record is persisted: without listeners, it is written as it is, and
the row is remembered. -/
theorem persist_ok (hstore : gate.persistence = Memory.persistence schema)
    (hbus : gate.events = []) {action : Action} (hread : action.chain ≠ .read)
    {r result : EntityRecord} {cache cache' : CallCache} {m m' : Memory}
    (h : (gate.persist action r).run cache m = (.ok (result, cache'), m')) :
    ∃ row, Memory.Wrote schema r.sent m row m' action.chain ∧ result = r.sent.received row ∧
      cache' = remember action.chain result row cache := by
  rw [persist_run hbus] at h
  split at h
  · rename_i row m₁ hrow
    cases h
    exact ⟨row, wrote_of_writeRecord hstore hread hrow, rfl, rfl⟩
  · cases h

/-- A record that cannot be persisted leaves the rows alone. -/
lemma persist_error (hstore : gate.persistence = Memory.persistence schema)
    (hbus : gate.events = []) {action : Action} {r : EntityRecord} {f : Fault} {cache : CallCache}
    {m m' : Memory} (h : (gate.persist action r).run cache m = (.error f, m')) :
    m'.tables = m.tables := by
  rw [persist_run hbus] at h
  split at h
  · cases h
  · rename_i hwrite
    cases h
    exact tables_of_writeRecord hstore hwrite

end Gate

end EntityGate
