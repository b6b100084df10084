/-
# The upkeep of the rows in memory

What the store in memory keeps over any history of calls, those that fail included.  In every table
each key occurs once, and its row is an object whose id has the key as its text; the rows that a
rollback would bring back are no different.  A call that answers does to the rows and their order
what it is there for, and one that fails does nothing to them.
-/
import EntityGate.Proofs.Keys
import Mathlib.Data.List.Induction

namespace EntityGate

open Gate (StateKept)

/-! ## Calls -/

namespace Memory

/-- A call that may change the rows or the snapshot. -/
inductive Op where
  | seed (entityType : String) (rows : List Json)
  | insert (r : EntityRecord)
  | update (r : EntityRecord)
  | remove (r : EntityRecord)
  | begin
  | commit
  | rollback

/-- Make a call, and return the row of an entity that is inserted or updated. -/
def Op.run (schema : Schema) : Op → StoreCall Memory (Option Json)
  | seed entityType rows => (fun _ => none) <$> Memory.seed entityType rows
  | insert r => some <$> Memory.insert schema r
  | update r => some <$> Memory.update schema r
  | remove r => (fun _ => none) <$> Memory.remove r
  | begin => (fun _ => none) <$> Memory.begin
  | commit => (fun _ => none) <$> Memory.commit
  | rollback => (fun _ => none) <$> Memory.rollback

/-- The store after some calls, whether they answer or fail, from one without rows on. -/
def after (schema : Schema) (ids : Nat → String) (ops : List Op) : Memory :=
  ops.foldl (fun m op => (op.run schema m).2) (supplied ids)

/-- Two stores that may differ in the rows of one type. -/
structure Elsewhere (entityType : String) (m m' : Memory) : Prop where
  others : ∀ other, other ≠ entityType → m'.table other = m.table other
  snapshot : m'.snapshot = m.snapshot

/-- What a call that answers does to the rows and to the snapshot. -/
inductive Answered (schema : Schema) (m m' : Memory) : Op → Option Json → Prop where
  | seed (entityType : String) (rows : List Json) (helsewhere : Elsewhere entityType m m') :
      Answered schema m m' (.seed entityType rows) none
  /-- A row is appended under a key that was not there. -/
  | insert (r : EntityRecord) (id row : Json) (hid : ∀ i, r.id = some i → i = id)
      (hrow : rowOf schema r id = .ok row) (hnew : idKey id ∉ (m.table r.entityType).keys)
      (htable : (m'.table r.entityType).entries =
        (m.table r.entityType).entries ++ [(idKey id, row)])
      (helsewhere : Elsewhere r.entityType m m') :
      Answered schema m m' (.insert r) (some row)
  /-- A row is put in the place of the one with its key. -/
  | update (r : EntityRecord) (id row : Json) (hid : r.id = some id)
      (hrow : rowOf schema r id = .ok row) (front back : List (String × Json)) (old : Json)
      (hbefore : (m.table r.entityType).entries = front ++ (idKey id, old) :: back)
      (htable : (m'.table r.entityType).entries = front ++ (idKey id, row) :: back)
      (helsewhere : Elsewhere r.entityType m m') :
      Answered schema m m' (.update r) (some row)
  /-- A row is taken from between the others. -/
  | remove (r : EntityRecord) (id : Json) (hid : r.id = some id)
      (front back : List (String × Json)) (old : Json)
      (hbefore : (m.table r.entityType).entries = front ++ (idKey id, old) :: back)
      (htable : (m'.table r.entityType).entries = front ++ back)
      (helsewhere : Elsewhere r.entityType m m') :
      Answered schema m m' (.remove r) none
  | begin (hclosed : m.snapshot = none) (htables : m'.tables = m.tables)
      (hsnapshot : m'.snapshot = some m.tables) : Answered schema m m' .begin none
  | commit (rows : Rows) (hopen : m.snapshot = some rows) (htables : m'.tables = m.tables)
      (hsnapshot : m'.snapshot = none) : Answered schema m m' .commit none
  | rollback (rows : Rows) (hopen : m.snapshot = some rows) (htables : m'.tables = rows)
      (hsnapshot : m'.snapshot = none) : Answered schema m m' .rollback none

/-! ## What one call does -/

section

variable {schema : Schema} {m m' : Memory}

lemma run_map {α β : Type} (f : α → β) (call : StoreCall Memory α) (m : Memory) :
    (f <$> call) m = match call m with
      | (.ok a, m') => (.ok (f a), m')
      | (.error text, m') => (.error text, m') := by
  rw [map_eq_pure_bind, Effect.run_bind]
  rcases call m with ⟨_ | _, m'⟩ <;> rfl

lemma run_map_ok {α β : Type} {f : α → β} {call : StoreCall Memory α} {result : β}
    (h : (f <$> call) m = (.ok result, m')) : ∃ a, call m = (.ok a, m') ∧ f a = result := by
  rw [run_map] at h
  split at h
  · rename_i a m₁ hcall
    cases h
    exact ⟨a, hcall, rfl⟩
  · cases h

lemma run_map_error {α β : Type} {f : α → β} {call : StoreCall Memory α} {text : String}
    (h : (f <$> call) m = (.error text, m')) : call m = (.error text, m') := by
  rw [run_map] at h
  split at h
  · cases h
  · rename_i text' m₁ hcall
    cases h
    exact hcall

lemma run_map_snd {α β : Type} (f : α → β) (call : StoreCall Memory α) (m : Memory) :
    ((f <$> call) m).2 = (call m).2 := by
  rw [run_map]
  rcases call m with ⟨_ | _, m'⟩ <;> rfl

lemma snapshot_of_run {α : Type} {call : StoreCall Memory α} {result : Except String α}
    (hkept : ∀ snapshot, StateKept (fun m => m.snapshot = snapshot) call)
    (h : call m = (result, m')) : m'.snapshot = m.snapshot := by
  have hrun := hkept m.snapshot m rfl
  rw [h] at hrun
  exact hrun

/-! ### Rows that are put and dropped -/

lemma table_put (m : Memory) (entityType : String) (id row : Json) :
    (m.put entityType id row).table entityType =
      (m.table entityType).insert (idKey id) row := by
  rw [table, put, Table.get?_insert, if_pos rfl]
  rfl

lemma table_drop (m : Memory) (entityType : String) (id : Json) :
    (m.drop entityType id).table entityType = (m.table entityType).erase (idKey id) := by
  rw [table, drop, Table.get?_insert, if_pos rfl]
  rfl

/-- A store whose rows are those of another one where a row was put is like that one elsewhere. -/
lemma elsewhere_put {entityType : String} {id row : Json}
    (htables : m'.tables = (m.put entityType id row).tables)
    (hsnapshot : m'.snapshot = m.snapshot) :
    Elsewhere entityType m m' := by
  refine ⟨fun other hother => ?_, hsnapshot⟩
  rw [table, htables, put, Table.get?_insert, if_neg hother]
  rfl

lemma elsewhere_drop {entityType : String} {id : Json}
    (htables : m'.tables = (m.drop entityType id).tables) (hsnapshot : m'.snapshot = m.snapshot) :
    Elsewhere entityType m m' := by
  refine ⟨fun other hother => ?_, hsnapshot⟩
  rw [table, htables, drop, Table.get?_insert, if_neg hother]
  rfl

lemma table_congr (h : m'.tables = m.tables) (entityType : String) :
    m'.table entityType = m.table entityType := by
  rw [table, table, h]

lemma Elsewhere.refl (entityType : String) (m : Memory) : Elsewhere entityType m m :=
  ⟨fun _ _ => rfl, rfl⟩

lemma Elsewhere.trans {entityType : String} {m₁ m₂ m₃ : Memory}
    (h : Elsewhere entityType m₁ m₂) (h' : Elsewhere entityType m₂ m₃) :
    Elsewhere entityType m₁ m₃ :=
  ⟨fun other hother => (h'.others other hother).trans (h.others other hother),
    h'.snapshot.trans h.snapshot⟩

lemma seed_elsewhere (entityType : String) (rows : List Json) (m : Memory) :
    Elsewhere entityType m (seed entityType rows m).2 := by
  induction rows generalizing m with
  | nil => exact .refl entityType m
  | cons row rest ih =>
    cases row with
    | obj fields =>
      have hnumbered : Elsewhere entityType m (m.newId (Json.lookup "id" fields)).2 :=
        ⟨fun other _ => table_congr (newId_tables m _) other, newId_snapshot m _⟩
      exact (hnumbered.trans (elsewhere_put rfl rfl)).trans (ih _)
    | null => exact .refl entityType m
    | bool _ => exact .refl entityType m
    | num _ => exact .refl entityType m
    | str _ => exact .refl entityType m
    | arr _ => exact .refl entityType m

/-! ### Answers -/

lemma insert_answered {r : EntityRecord} {row : Json}
    (h : Memory.insert schema r m = (.ok row, m')) :
    Answered schema m m' (.insert r) (some row) := by
  have hsnapshot := snapshot_of_run (fun _ => insert_snapshot schema r) h
  cases wrote_of_insert h with
  | insert id hid hrow hnew htables =>
    have habsent : idKey id ∉ (m.table r.entityType).keys := by
      rw [← isSome_row?, hnew]
      exact Bool.false_ne_true
    refine .insert r id row hid hrow habsent ?_ (elsewhere_put htables hsnapshot)
    rw [table_congr htables, table_put]
    exact Table.insertEntry_of_notMem habsent

lemma update_answered {r : EntityRecord} {row : Json}
    (h : Memory.update schema r m = (.ok row, m')) :
    Answered schema m m' (.update r) (some row) := by
  have hsnapshot := snapshot_of_run (fun _ => update_snapshot schema r) h
  cases wrote_of_update h with
  | update id hid hrow hold htables =>
    obtain ⟨front, old, back, hbefore, hafter⟩ :=
      Table.insertEntry_of_mem row (isSome_row?.mp hold)
    refine .update r id row hid hrow front back old hbefore ?_ (elsewhere_put htables hsnapshot)
    rw [table_congr htables, table_put]
    exact hafter

/-- A row that is removed was there. -/
lemma remove_answered {r : EntityRecord}
    (h : Memory.remove r m = (.ok (), m')) : Answered schema m m' (.remove r) none := by
  have hsnapshot := snapshot_of_run (fun _ => remove_snapshot r) h
  rw [Memory.remove] at h
  split at h
  · cases h
  · rename_i id hid
    split at h
    · rename_i hold
      cases h
      obtain ⟨front, old, back, hbefore, hafter⟩ :=
        Table.entries_erase (isSome_row?.mp hold)
      refine .remove r id hid front back old hbefore ?_ (elsewhere_drop rfl hsnapshot)
      rw [table_drop]
      exact hafter
    · cases h

/-- A call that answers does what it is there for. -/
lemma answered_of_run {op : Op} {result : Option Json}
    (h : op.run schema m = (.ok result, m')) : Answered schema m m' op result := by
  cases op with
  | seed entityType rows =>
    obtain ⟨_, hcall, rfl⟩ := run_map_ok h
    have helsewhere := seed_elsewhere entityType rows m
    rw [hcall] at helsewhere
    exact .seed entityType rows helsewhere
  | insert r =>
    obtain ⟨row, hcall, rfl⟩ := run_map_ok h
    exact insert_answered hcall
  | update r =>
    obtain ⟨row, hcall, rfl⟩ := run_map_ok h
    exact update_answered hcall
  | remove r =>
    obtain ⟨_, hcall, rfl⟩ := run_map_ok h
    exact remove_answered hcall
  | begin =>
    obtain ⟨_, hcall, rfl⟩ := run_map_ok h
    rw [Memory.begin] at hcall
    split at hcall
    · cases hcall
    · rename_i hclosed
      cases hcall
      exact .begin hclosed rfl rfl
  | commit =>
    obtain ⟨_, hcall, rfl⟩ := run_map_ok h
    rw [Memory.commit] at hcall
    split at hcall
    · rename_i rows hopen
      cases hcall
      exact .commit rows hopen rfl rfl
    · cases hcall
  | rollback =>
    obtain ⟨_, hcall, rfl⟩ := run_map_ok h
    rw [Memory.rollback] at hcall
    split at hcall
    · rename_i rows hopen
      cases hcall
      exact .rollback rows hopen rfl rfl
    · cases hcall

/-- A call that fails leaves everything as it was, but for rows that were seeded before one that is
no object. -/
lemma unchanged_of_run {op : Op} {text : String} (h : op.run schema m = (.error text, m'))
    (hseed : ∀ entityType rows, op ≠ .seed entityType rows) :
    m'.tables = m.tables ∧ m'.snapshot = m.snapshot := by
  cases op with
  | seed entityType rows => exact absurd rfl (hseed entityType rows)
  | insert r =>
    have hcall := run_map_error h
    exact ⟨tables_of_insert hcall, snapshot_of_run (fun _ => insert_snapshot schema r) hcall⟩
  | update r =>
    have hcall := run_map_error h
    exact ⟨tables_of_update hcall, snapshot_of_run (fun _ => update_snapshot schema r) hcall⟩
  | remove r =>
    have hcall := run_map_error h
    exact ⟨tables_of_remove hcall, snapshot_of_run (fun _ => remove_snapshot r) hcall⟩
  | begin =>
    have hcall := run_map_error h
    rw [Memory.begin] at hcall
    split at hcall
    · cases hcall
      exact ⟨rfl, rfl⟩
    · cases hcall
  | commit =>
    have hcall := run_map_error h
    rw [Memory.commit] at hcall
    split at hcall
    · cases hcall
    · cases hcall
      exact ⟨rfl, rfl⟩
  | rollback =>
    have hcall := run_map_error h
    rw [Memory.rollback] at hcall
    split at hcall
    · cases hcall
    · cases hcall
      exact ⟨rfl, rfl⟩

end

/-! ## What every call keeps -/

section

variable {schema : Schema} {ids : Nat → String}

/-- A call leaves the rows under their ids, whether it answers or fails. -/
lemma run_keyed (hid : ∀ entityType, schema.association? entityType "id" = none) (op : Op) :
    StateKept Keyed (op.run schema) := by
  intro m hm
  cases op with
  | seed entityType rows =>
    rw [Op.run, run_map_snd]
    have hsnapshot := (seed_elsewhere entityType rows m).snapshot
    exact ⟨seed_wellKeyed hm.tables, hsnapshot ▸ hm.snapshot⟩
  | insert r =>
    rw [Op.run, run_map_snd]
    exact insert_keyed (hid r.entityType) m hm
  | update r =>
    rw [Op.run, run_map_snd]
    exact update_keyed (hid r.entityType) m hm
  | remove r =>
    rw [Op.run, run_map_snd]
    exact remove_keyed (hid r.entityType) m hm
  | begin =>
    rw [Op.run, run_map_snd]
    exact begin_keyed m hm
  | commit =>
    rw [Op.run, run_map_snd]
    exact commit_keyed m hm
  | rollback =>
    rw [Op.run, run_map_snd]
    exact rollback_keyed m hm

lemma after_snoc (ops : List Op) (op : Op) :
    after schema ids (ops ++ [op]) = (op.run schema (after schema ids ops)).2 := by
  rw [after, List.foldl_append]
  rfl

/-- In a store that was empty, rows lie under their ids after any calls. -/
lemma after_keyed (hid : ∀ entityType, schema.association? entityType "id" = none)
    (ops : List Op) : Keyed (after schema ids ops) := by
  induction ops using List.reverseRecOn with
  | nil => exact keyed_supplied ids
  | append_singleton ops op ih =>
    rw [after_snoc]
    exact run_keyed hid op _ ih

/-! ## What a rollback brings back -/

/-- A transaction was opened over some rows, and no later call closed it. -/
def Begun (schema : Schema) (ids : Nat → String) (ops : List Op) (rows : Rows) : Prop :=
  ∃ earlier later, ops = earlier ++ .begin :: later ∧
    (after schema ids earlier).snapshot = none ∧ (after schema ids earlier).tables = rows ∧
    ∀ op ∈ later, op ≠ .commit ∧ op ≠ .rollback

lemma Begun.snoc {ops : List Op} {rows : Rows} (h : Begun schema ids ops rows) {op : Op}
    (hcommit : op ≠ .commit) (hrollback : op ≠ .rollback) :
    Begun schema ids (ops ++ [op]) rows := by
  obtain ⟨earlier, later, rfl, hclosed, htables, hlater⟩ := h
  refine ⟨earlier, later ++ [op], by simp, hclosed, htables, fun other hother => ?_⟩
  rcases List.mem_append.mp hother with hother | hother
  · exact hlater other hother
  · obtain rfl := List.mem_singleton.mp hother
    exact ⟨hcommit, hrollback⟩

/-- What a call does to the snapshot. -/
lemma run_snapshot (op : Op) (m : Memory) : (op.run schema m).2.snapshot =
    match op with
    | .begin => some (m.snapshot.getD m.tables)
    | .commit => none
    | .rollback => none
    | _ => m.snapshot := by
  cases op with
  | seed entityType rows =>
    rw [Op.run, run_map_snd]
    exact (seed_elsewhere entityType rows m).snapshot
  | insert r =>
    rw [Op.run, run_map_snd]
    exact insert_snapshot schema r m rfl
  | update r =>
    rw [Op.run, run_map_snd]
    exact update_snapshot schema r m rfl
  | remove r =>
    rw [Op.run, run_map_snd]
    exact remove_snapshot r m rfl
  | begin =>
    rw [Op.run, run_map_snd, Memory.begin]
    cases hopen : m.snapshot with
    | none => rfl
    | some rows => exact hopen
  | commit =>
    rw [Op.run, run_map_snd, Memory.commit]
    cases hopen : m.snapshot with
    | none => exact hopen
    | some rows => rfl
  | rollback =>
    rw [Op.run, run_map_snd, Memory.rollback]
    cases hopen : m.snapshot with
    | none => exact hopen
    | some rows => rfl

/-- The rows that are saved are those at the beginning of the open transaction. -/
lemma snapshot_after {ops : List Op} {rows : Rows} :
    (after schema ids ops).snapshot = some rows ↔ Begun schema ids ops rows := by
  constructor
  · intro h
    induction ops using List.reverseRecOn with
    | nil => cases h
    | append_singleton ops op ih =>
      rw [after_snoc, run_snapshot] at h
      cases op with
      | begin =>
        cases hopen : (after schema ids ops).snapshot with
        | none =>
          rw [hopen] at h
          cases h
          exact ⟨ops, [], rfl, hopen, rfl, fun _ hop => nomatch hop⟩
        | some saved =>
          -- it fails, since a transaction is open
          rw [hopen] at h ih
          exact (ih h).snoc (fun h => nomatch h) fun h => nomatch h
      | commit => cases h
      | rollback => cases h
      | _ => exact (ih h).snoc (fun h => nomatch h) fun h => nomatch h
  · rintro ⟨earlier, later, rfl, hclosed, htables, hlater⟩
    induction later using List.reverseRecOn with
    | nil =>
      rw [after_snoc, run_snapshot, hclosed, htables]
      rfl
    | append_singleton later op ih =>
      have hopen := ih fun op hop => hlater op (List.mem_append_left _ hop)
      obtain ⟨hcommit, hrollback⟩ := hlater op (List.mem_append_right _ List.mem_cons_self)
      rw [← List.cons_append, ← List.append_assoc, after_snoc, run_snapshot, hopen]
      cases op with
      | commit => exact absurd rfl hcommit
      | rollback => exact absurd rfl hrollback
      | _ => rfl

end

/-! ## Histories -/

/-- What holds of the store after some calls, whatever the next one is. -/
structure Upheld (schema : Schema) (ids : Nat → String) (ops : List Op) : Prop where
  /-- Each key occurs once among the rows of a type, and each type once. -/
  distinct : (after schema ids ops).tables.keys.Nodup ∧
    ∀ entityType, ((after schema ids ops).table entityType).keys.Nodup
  /-- Every row is an object under the text of its id, those included that a rollback would bring
  back, unless an association is named like the id. -/
  keyed : (∀ entityType, schema.association? entityType "id" = none) → Keyed (after schema ids ops)
  /-- A call that answers does to the rows what it is there for. -/
  answered : ∀ (op : Op) result m', op.run schema (after schema ids ops) = (.ok result, m') →
    Answered schema (after schema ids ops) m' op result
  /-- A call that fails does nothing to the rows and their order, nor to the snapshot. -/
  failed : ∀ (op : Op) text m', (∀ entityType rows, op ≠ .seed entityType rows) →
    op.run schema (after schema ids ops) = (.error text, m') →
    m'.tables = (after schema ids ops).tables ∧ m'.snapshot = (after schema ids ops).snapshot
  /-- A rollback answers exactly if a transaction is open, and brings the rows from its beginning
  back. -/
  restored : ∀ rows, Begun schema ids ops rows ↔
    ∃ m', Op.rollback.run schema (after schema ids ops) = (.ok none, m') ∧ m'.tables = rows

/-- The store in memory upholds its rows over every history of calls, whatever ids it supplies. -/
theorem store_upheld (schema : Schema) (ids : Nat → String) (ops : List Op) :
    Upheld schema ids ops := by
  constructor
  case distinct => exact ⟨Table.nodup_keys _, fun _ => Table.nodup_keys _⟩
  case keyed => exact fun hid => after_keyed hid ops
  case answered => exact fun op result m' hrun => answered_of_run hrun
  case failed => exact fun op text m' hseed hrun => unchanged_of_run hrun hseed
  case restored =>
    intro rows
    rw [← snapshot_after]
    constructor
    · intro hopen
      have hrun := run_map (fun _ => (none : Option Json)) Memory.rollback (after schema ids ops)
      rw [rollback_run hopen] at hrun
      exact ⟨_, hrun, rfl⟩
    · rintro ⟨m', hrun, rfl⟩
      cases answered_of_run hrun with
      | rollback saved hopen htables _ => exact htables ▸ hopen

/-- Albums belong to an artist. -/
def discography : Schema := fun entityType =>
  if entityType = "album" then [⟨"artist", "artist", false⟩] else []

/-- Ids that have the same text, a change that is refused, and a row that is updated and removed
inside of a transaction. -/
def editing : List Op :=
  [.seed "album" [.obj [("id", .int 7)], .obj [("id", .str "8")]], .begin,
    .insert ⟨"album", some (.str "7"), [], [], none⟩,
    .insert ⟨"album", some (.str "9"), [], [⟨"label", .set, none⟩], none⟩,
    .insert ⟨"album", some (.int 9), [], [⟨"artist", .set, some (.str "a")⟩], none⟩,
    .update ⟨"album", some (.str "7"), [("id", .null), ("year", .int 1971)], [], none⟩,
    .remove ⟨"album", some (.int 8), [], [], none⟩]

/-- A row takes the place of another one whose id has the same text, a rollback brings the two rows
back, and without it they are not there any more. -/
theorem editing_upheld :
    (∀ entityType, discography.association? entityType "id" = none) ∧
      Upheld discography countedId editing ∧
      Keyed (after discography countedId editing) ∧
      (after discography countedId editing).rows "album" =
        [.obj [("id", .str "7"), ("year", .int 1971)],
          .obj [("artist", .str "a"), ("id", .int 9)]] ∧
      (after discography countedId (editing ++ [.rollback])).rows "album" =
        [.obj [("id", .int 7)], .obj [("id", .str "8")]] := by
  have hid : ∀ entityType, discography.association? entityType "id" = none := by
    intro entityType
    rw [Schema.association?, discography]
    split <;> rfl
  have hupheld := store_upheld discography countedId editing
  exact ⟨hid, hupheld, hupheld.keyed hid, rfl, rfl⟩

end Memory

end EntityGate
