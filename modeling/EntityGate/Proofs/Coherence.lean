/-
# The cache of a call and the rows in the store

While a mutation runs over a store in memory, every row in the cache of the call is the row that
the store holds under the same key: what the mutation writes goes into the cache as well, and what
it removes is taken out.  So an entry that loads its entity starts from the row that is stored at
that moment.  What becomes of the row from there on is told by the chronicle: a row that no noted
write has touched since some moment is still the one that it was.
-/
import EntityGate.Proofs.Chronicle
import EntityGate.Proofs.Rollback
import EntityGate.Proofs.Rows

namespace EntityGate

open Mutating (Triple)

/-! ## Rows under their ids -/

/-- Every row lies under the text of its id.  The rows cannot carry this with them as a table does
its keys: an association that is called like the id lets a write put another value in its place. -/
def Rows.WellKeyed (rows : Rows) : Prop :=
  ∀ entityType key row, rows.at? entityType key = some row →
    ∃ id, row.get? "id" = some id ∧ idKey id = key

lemma Rows.wellKeyed_empty : Rows.WellKeyed .empty :=
  fun _ _ _ h => nomatch h

namespace Memory

lemma put_wellKeyed {m : Memory} (h : m.tables.WellKeyed) {row id : Json}
    (hid : row.get? "id" = some id) (entityType : String) :
    (m.put entityType id row).tables.WellKeyed := by
  intro entityType' key row' hrow
  rw [put, table, Rows.at?_put] at hrow
  split at hrow
  · rename_i hkey
    cases hrow
    exact ⟨id, hid, hkey.2.symm⟩
  · exact h entityType' key row' hrow

/-- Rows that are seeded lie under their ids. -/
theorem seed_wellKeyed {entityType : String} {rows : List Json} {m : Memory}
    (h : m.tables.WellKeyed) : (seed entityType rows m).2.tables.WellKeyed := by
  induction rows generalizing m with
  | nil => exact h
  | cons row rest ih =>
    cases row with
    | obj fields =>
      have hnumbered : (m.newId (Json.lookup "id" fields)).2.tables.WellKeyed := by
        rw [newId_tables]
        exact h
      refine ih (put_wellKeyed hnumbered ?_ entityType)
      exact (Json.lookup_insertField "id" "id" _ fields).trans (if_pos rfl)
    | null => exact h
    | bool _ => exact h
    | num _ => exact h
    | str _ => exact h
    | arr _ => exact h

end Memory

/-! ## The cache -/

namespace CallCache

lemma row?_eq (cache : CallCache) (entityType : String) (id : Json) :
    cache.row? entityType id = Rows.at? cache.tables entityType (idKey id) := rfl

lemma at?_store {row id : Json} (hid : row.get? "id" = some id) (cache : CallCache)
    (entityType entityType' key : String) :
    Rows.at? (cache.store entityType row).tables entityType' key =
      if entityType' = entityType ∧ key = idKey id then some row
      else Rows.at? cache.tables entityType' key := by
  rw [store, hid]
  exact Rows.at?_put cache.tables entityType (idKey id) row entityType' key

lemma at?_forget (cache : CallCache) (entityType : String) (id : Json)
    (entityType' key : String) :
    Rows.at? (cache.forget entityType id).tables entityType' key =
      if entityType' = entityType ∧ key = idKey id then none
      else Rows.at? cache.tables entityType' key := by
  have hdrop := Rows.at?_drop cache.tables entityType (idKey id) entityType' key
  rw [forget]
  cases htable : cache.tables.get? entityType with
  | some rows =>
    rw [htable] at hdrop
    exact hdrop
  | none =>
    dsimp only
    by_cases hkey : entityType' = entityType ∧ key = idKey id
    · rw [if_pos hkey, Rows.at?, hkey.1, htable]
      rfl
    · rw [if_neg hkey]

end CallCache

/-- What the cache keeps of a record that was written is what a store does. -/
lemma Gate.at?_remember {r : EntityRecord} {row id : Json} (hid : r.id = some id)
    (hrow : row.get? "id" = some id) (chain : Chain) (cache : CallCache)
    (entityType key : String) :
    Rows.at? (remember chain r row cache).tables entityType key =
      if entityType = r.entityType ∧ key = idKey id then
        if chain = .delete then none else some row
      else Rows.at? cache.tables entityType key := by
  rw [remember, hid]
  dsimp only
  split
  · exact cache.at?_forget r.entityType id entityType key
  · exact cache.at?_store hrow r.entityType entityType key

/-- The rows in a cache are those in the store, where every row lies under its id. -/
structure Coherent (cache : CallCache) (rows : Rows) : Prop where
  keyed : rows.WellKeyed
  current : ∀ entityType key row, Rows.at? cache.tables entityType key = some row →
    rows.at? entityType key = some row

namespace Coherent

variable {cache : CallCache} {rows : Rows}

lemma ofEmpty (h : rows.WellKeyed) : Coherent .empty rows :=
  ⟨h, fun _ _ _ hrow => nomatch hrow⟩

/-- A row that is stored may be put into the cache. -/
lemma store (h : Coherent cache rows) {entityType key : String} {row : Json}
    (hrow : rows.at? entityType key = some row) : Coherent (cache.store entityType row) rows := by
  obtain ⟨id, hid, rfl⟩ := h.keyed entityType key row hrow
  refine ⟨h.keyed, fun entityType' key row' hcached => ?_⟩
  rw [cache.at?_store hid] at hcached
  split at hcached
  · rename_i hkey
    cases hcached
    rw [hkey.1, hkey.2]
    exact hrow
  · exact h.current entityType' key row' hcached

lemma storeAll {entityType : String} {found : List Json}
    (hfound : ∀ row ∈ found, ∃ key, rows.at? entityType key = some row) (h : Coherent cache rows) :
    Coherent (found.foldl (fun cache row => cache.store entityType row) cache) rows := by
  induction found generalizing cache with
  | nil => exact h
  | cons row rest ih =>
    obtain ⟨⟨key, hrow⟩, hrest⟩ := List.forall_mem_cons.mp hfound
    exact ih hrest (h.store hrow)

/-- A write is remembered as it is stored. -/
lemma wrote {schema : Schema} {r : EntityRecord} {m m' : Memory} {row : Json} {chain : Chain}
    (h : Coherent cache m.tables) (hwrote : Memory.Wrote schema r m row m' chain)
    (hkeeps : Memory.KeepsId schema r) :
    Coherent (Gate.remember chain (r.received row) row cache) m'.tables := by
  obtain ⟨id, hid, hafter⟩ := hwrote.at? hkeeps
  constructor
  · intro entityType key row' hrow
    rw [hafter] at hrow
    split at hrow
    · rename_i hkey
      split at hrow
      · cases hrow
      · cases hrow
        exact ⟨id, hid, hkey.2.symm⟩
    · exact h.keyed entityType key row' hrow
  · intro entityType key row' hcached
    rw [Gate.at?_remember (EntityRecord.received_id hid) hid,
      EntityRecord.received_entityType] at hcached
    rw [hafter]
    split at hcached
    · rename_i hkey
      rw [if_pos hkey]
      exact hcached
    · rename_i hkey
      rw [if_neg hkey]
      exact h.current entityType key row' hcached

end Coherent

/-! ## Lookups -/

namespace Gate

variable {gate : Gate Memory} {schema : Schema} {inv : CallCache → Memory → Prop}
  {fail : Fault → Memory → Prop}

lemma findIn_run (hstore : gate.persistence = Memory.persistence schema) (entityType : String)
    (ids : List Json) (m : Memory) : gate.persistence.findIn entityType ids m =
      (.ok (ids.filterMap (m.row? entityType)),
        m.logged ("find_in:" ++ entityType ++ ":" ++ toString ids.length)) := by
  rw [hstore]
  rfl

/-- Rows are looked up where they are stored, so an assertion about the cache and the store that
stays when a stored row is put into the cache is kept by lookups.  Without listeners, nothing else
happens between the writes of a mutation. -/
lemma keepsLookups_of_store (hstore : gate.persistence = Memory.persistence schema)
    (hbus : gate.events = [])
    (hlogged : ∀ cache m line, inv cache m → inv cache (m.logged line))
    (hcached : ∀ cache m entityType key row, inv cache m →
      m.tables.at? entityType key = some row → inv (cache.store entityType row) m)
    (hfail : ∀ f cache m, inv cache m → fail f m) : gate.KeepsLookups inv fail where
  load entityType id := by
    refine .bind (m := fun _ => inv) (.getCache fun _ _ hs => hs) fun cache => ?_
    split
    · exact .keep _
    · refine .bind (m := fun rows cache m => inv cache m ∧
          ∀ row ∈ rows, (m.tables.at? entityType (idKey id)) = some row) ?_ fun rows => ?_
      · refine .ofEffect fun cache => .ofStore fun m hm => ?_
        rw [findIn_run hstore]
        refine ⟨hlogged cache m _ hm, fun row hrow => ?_⟩
        obtain ⟨i, hi, hfound⟩ := List.mem_filterMap.mp hrow
        obtain rfl := List.mem_singleton.mp hi
        exact hfound
      · split
        · refine .bind (m := fun _ => inv) (.modifyCache fun cache m hm => ?_) fun _ => .keep _
          exact hcached cache m entityType _ _ hm.1 (hm.2 _ List.mem_cons_self)
        · exact .throw fun cache m hm => hfail _ cache m hm.1
  fetch entityType ids := by
    refine .bind (m := fun _ => inv) (.getCache fun _ _ hs => hs) fun cache => ?_
    split
    · exact .keep _
    · refine .bind (m := fun rows cache m => inv cache m ∧
          ∀ row ∈ rows, ∃ key, m.tables.at? entityType key = some row) ?_ fun rows => ?_
      · refine .ofEffect fun cache => .ofStore fun m hm => ?_
        rw [findIn_run hstore]
        refine ⟨hlogged cache m _ hm, fun row hrow => ?_⟩
        obtain ⟨i, -, hfound⟩ := List.mem_filterMap.mp hrow
        exact ⟨idKey i, hfound⟩
      · refine .modifyCache fun cache m hm => ?_
        obtain ⟨hm, hrows⟩ := hm
        induction rows generalizing cache with
        | nil => exact hm
        | cons row rest ih =>
          obtain ⟨key, hrow⟩ := hrows row List.mem_cons_self
          exact ih _ (hcached cache m entityType key row hm hrow)
            fun row hrow => hrows row (List.mem_cons_of_mem _ hrow)
  publish event _ entityType payload := by
    rw [publish_nil hbus]
    exact .keep payload
  fault := hfail

/-- An entity is loaded as it is stored. -/
lemma load_current (hstore : gate.persistence = Memory.persistence schema) (rows : Rows)
    (entityType : String) (id : Json) :
    Triple (fun cache m => Coherent cache m.tables ∧ m.tables = rows) (gate.load entityType id)
      (fun row _ _ => rows.at? entityType (idKey id) = some row) fun _ _ => True := by
  refine .bind (m := fun kept _ m => Coherent kept m.tables ∧ m.tables = rows)
    (.getCache fun _ _ hs => hs) fun kept => ?_
  split
  · rename_i row hcached
    refine .pure fun _ m hm => ?_
    rw [← hm.2]
    exact hm.1.current entityType (idKey id) row hcached
  · refine .bind (m := fun found _ _ => ∀ row ∈ found, rows.at? entityType (idKey id) = some row)
      ?_ fun found => ?_
    · refine .ofEffect fun cache => .ofStore fun m hm => ?_
      rw [findIn_run hstore]
      intro row hrow
      obtain ⟨i, hi, hfound⟩ := List.mem_filterMap.mp hrow
      obtain rfl := List.mem_singleton.mp hi
      rw [← hm.2]
      exact hfound
    · split
      · rename_i row rest
        exact .bind (m := fun _ _ _ => rows.at? entityType (idKey id) = some row)
          (.modifyCache fun _ _ hfound => hfound row List.mem_cons_self)
          fun _ => .pure fun _ _ hrow => hrow
      · exact .throw fun _ _ _ => trivial

end Gate

/-- A record holds what a row does. -/
structure EntityRecord.Shows (r : EntityRecord) (row : Json) : Prop where
  sameId : r.id = row.get? "id"
  fields : ∀ field, field ≠ "id" → Json.lookup field r.fields = row.get? field

/-- An entity that is loaded shows its row. -/
lemma EntityRecord.shows_ofRow {row i : Json} (hid : row.get? "id" = some i)
    (entityType : String) (id : Json) :
    let r := ofRow entityType row
    Shows { r.withFields r.fields with id := some (r.id.getD id) } row := by
  have hfields : ∀ field, Json.lookup field (row.fields?.getD []) = row.get? field := by
    intro field
    cases row <;> rfl
  constructor
  · have hof : (ofRow entityType row).id = some i := (hfields "id").trans hid
    rw [hid]
    dsimp only
    rw [hof]
    rfl
  · intro field hfield
    exact (Json.lookup_eraseField hfield _).trans (hfields field)

namespace Gate

variable {gate : Gate Memory} {schema : Schema}

/-- Rows lie under their ids, and unless an entry creates its entity, its record shows one of
them. -/
def StartsFrom (rows : Rows) (action : Action) (e : Entry) (start : EntityRecord) : Prop :=
  rows.WellKeyed ∧ (action.chain ≠ .create → ∃ id row, e.id = some id ∧
    rows.at? action.entityType (idKey id) = some row ∧ start.Shows row)

/-- An entry starts from what is stored. -/
lemma startRecord_current (hstore : gate.persistence = Memory.persistence schema) (rows : Rows)
    (action : Action) (e : Entry) :
    Triple (fun cache m => Coherent cache m.tables ∧ m.tables = rows) (gate.startRecord action e)
      (fun start _ _ => StartsFrom rows action e start) fun _ _ => True := by
  have hstart : rows.WellKeyed → Triple (fun cache m => Coherent cache m.tables ∧ m.tables = rows)
      (gate.startRecord action e) (fun start _ _ => StartsFrom rows action e start)
      fun _ _ => True := by
    intro hkeyed
    unfold startRecord
    split
    · rename_i hcreate
      exact .pure fun _ _ _ => ⟨hkeyed, fun h => absurd hcreate h⟩
    · split
      · exact .throw fun _ _ _ => trivial
      · rename_i id hid
        refine (load_current hstore rows action.entityType id).bind fun row => ?_
        refine .pure fun _ _ hrow => ⟨hkeyed, fun _ => ⟨id, row, hid, hrow, ?_⟩⟩
        obtain ⟨i, hi, -⟩ := hkeyed _ _ row hrow
        exact EntityRecord.shows_ofRow hi action.entityType id
  exact (Triple.of_fact hstart).weaken (fun _ _ hm => ⟨hm.2 ▸ hm.1.keyed, hm⟩)
    (fun _ _ _ h => h) fun _ _ h => h

/-! ## Writes -/

/-- What it comes to that a record which was made for an entry is persisted: its row is put under
the id that it gets, or dropped from there, all other rows stay, and the cache follows. -/
lemma persist_rows (hstore : gate.persistence = Memory.persistence schema)
    (hbus : gate.events = []) {action : Action} (hread : action.chain ≠ .read) {e : Entry}
    {start bound ready result : EntityRecord} (hmakes : gate.Makes action e start bound ready)
    {cache cache' : CallCache} {m m' : Memory}
    (hrun : (gate.persist action ready).run cache m = (.ok (result, cache'), m')) :
    ∃ id row, result.id = some id ∧ (∀ entityType key, m'.tables.at? entityType key =
        if entityType = action.entityType ∧ key = idKey id then
          if action.chain = .delete then none else some row
        else m.tables.at? entityType key) ∧
      (Coherent cache m.tables → Coherent cache' m'.tables) := by
  obtain ⟨row, hwrote, rfl, rfl⟩ := persist_ok hstore hbus hread hrun
  have hkeeps : Memory.KeepsId schema ready.sent :=
    Memory.keepsId_of_changes fun c hc => hmakes.relation_ne_id hc
  obtain ⟨id, hid, hafter⟩ := hwrote.at? hkeeps
  rw [EntityRecord.sent_entityType, hmakes.readyType] at hafter
  exact ⟨id, row, EntityRecord.received_id hid, hafter, fun h => h.wrote hwrote hkeeps⟩

/-- Batches keep the cache and the store in agreement, and a batch that fails leaves every row
under its id. -/
theorem chronicle_coherent (hstore : gate.persistence = Memory.persistence schema)
    (hbus : gate.events = []) (levels : Nat) (config : EntityConfig) (b : Batch) :
    Triple (fun cache w => Coherent cache w.state.tables) (gate.chronicle levels config b)
      (fun _ cache w => Coherent cache w.state.tables) fun _ w => w.state.tables.WellKeyed := by
  have hlookups : gate.chronicled.KeepsLookups (fun cache w => Coherent cache w.state.tables)
      fun _ w => w.state.tables.WellKeyed :=
    chronicled_keepsLookups fun _ => keepsLookups_of_store hstore hbus (fun _ _ _ hw => hw)
      (fun _ _ _ _ _ hw hrow => hw.store hrow) fun _ _ _ hw => hw.keyed
  refine hlookups.runBatchWith (fun levels frontEnd action e hread hrun => ?_) levels config b
  refine handleEntry_keeps hlookups hrun (fun ready reached f cache after hw hpersist => ?_) ?_
  · show after.tables.WellKeyed
    rw [persist_error hstore hbus hpersist]
    exact hw.keyed
  · intro begun start bound ready reached result cache cache' after hmakes hw hpersist
    obtain ⟨_, _, -, -, hcoherent⟩ := persist_rows hstore hbus hread hmakes hpersist
    exact hcoherent hw

/-- A batch that is run and flushed leaves every row under its id, also when it fails. -/
lemma runAndFlush_wellKeyed (hstore : gate.persistence = Memory.persistence schema)
    (hbus : gate.events = []) (config : EntityConfig) (b : Batch) (flush : Bool) :
    Effect.Triple (fun m => m.tables.WellKeyed) (gate.runAndFlush config b flush)
      (fun _ m => m.tables.WellKeyed) fun _ m => m.tables.WellKeyed := by
  refine Effect.Triple.bind (m := fun _ m => m.tables.WellKeyed) ?_ fun records => ?_
  · intro m hm
    obtain ⟨result, w, s, hchronicle, hbatch, hstate⟩ :=
      (gate.chronicle_alike (b.levels + gate.addedLevels) config b).withoutCache.run_eq
        (s := ⟨m, []⟩) rfl
    obtain rfl : w.state = s := hstate
    have hdone := (chronicle_coherent hstore hbus (b.levels + gate.addedLevels) config
      b).withoutCache ⟨m, []⟩ (.ofEmpty hm)
    rw [hchronicle] at hdone
    rw [hbatch]
    cases result with
    | ok _ => exact hdone.elim fun _ hw => hw.keyed
    | error f => exact hdone
  · dsimp only
    split
    · refine Effect.Triple.bind (m := fun _ m => m.tables.WellKeyed) (.ofStore fun m hm => ?_)
        fun _ => .pure fun _ hm => hm
      rw [hstore]
      exact hm
    · exact .pure fun _ hm => hm

/-- A call that leaves the snapshot alone keeps all that is said about it. -/
lemma kept_of_snapshot {α : Type} {call : StoreCall Memory α}
    (h : ∀ snapshot, StateKept (fun m => m.snapshot = snapshot) call) (I : Option Rows → Prop) :
    StateKept (fun m => I m.snapshot) call := by
  intro m hm
  have hsame : (call m).2.snapshot = m.snapshot := h m.snapshot m rfl
  show I (call m).2.snapshot
  rw [hsame]
  exact hm

lemma keepsState_snapshot (hstore : gate.persistence = Memory.persistence schema)
    (hbus : gate.events = []) (I : Option Rows → Prop) :
    gate.KeepsState fun m => I m.snapshot where
  findIn entityType ids := by
    rw [hstore]
    exact kept_of_snapshot (fun _ => Memory.findIn_snapshot entityType ids) I
  insert r := by
    rw [hstore]
    exact kept_of_snapshot (fun _ => Memory.insert_snapshot schema r) I
  update r := by
    rw [hstore]
    exact kept_of_snapshot (fun _ => Memory.update_snapshot schema r) I
  remove r := by
    rw [hstore]
    exact kept_of_snapshot (fun _ => Memory.remove_snapshot r) I
  listener l hl := by
    rw [hbus] at hl
    cases hl

lemma runAndFlush_snapshot (hstore : gate.persistence = Memory.persistence schema)
    (hbus : gate.events = []) (I : Option Rows → Prop) (config : EntityConfig) (b : Batch)
    (flush : Bool) : Effect.Triple (fun m => I m.snapshot) (gate.runAndFlush config b flush)
      (fun _ m => I m.snapshot) fun _ m => I m.snapshot := by
  refine (keepsState_snapshot hstore hbus I).runAndFlush (fun m hm => ?_) config b flush
  rw [hstore]
  exact hm

end Gate

/-! ## Stores at rest -/

/-- No transaction is open, and every row lies under its id. -/
def Memory.AtRest (m : Memory) : Prop := m.tables.WellKeyed ∧ m.snapshot = none

namespace Gate

variable {gate : Gate Memory} {schema : Schema}

lemma perform_atRest (hstore : gate.persistence = Memory.persistence schema)
    (hbus : gate.events = []) (p : Plan) :
    Effect.Triple Memory.AtRest (gate.perform p) (fun _ => Memory.AtRest)
      fun _ => Memory.AtRest := by
  have hrun := runAndFlush_wellKeyed hstore hbus p.config p.batch p.flush
  rw [perform]
  split
  · -- while the transaction is open, the snapshot holds rows that lie under their ids
    have hsnapshot := runAndFlush_snapshot hstore hbus (fun snapshot =>
      ∃ rows, snapshot = some rows ∧ rows.WellKeyed) p.config p.batch p.flush
    refine inTransaction_triple ?_ (hrun.and hsnapshot) ?_ ?_
    · intro m hm
      have hbegin : gate.persistence.begin m =
          (.ok (), { m with snapshot := some m.tables }.logged "begin") := by
        rw [hstore]
        exact Memory.begin_run hm.2
      rw [hbegin]
      exact ⟨hm.1, m.tables, rfl, hm.1⟩
    · rintro records m ⟨hkeyed, rows, hopen, -⟩
      have hcommit : gate.persistence.commit m =
          (.ok (), { m with snapshot := none }.logged "commit") := by
        rw [hstore]
        show Memory.commit m = _
        rw [Memory.commit, hopen]
      rw [hcommit]
      exact ⟨hkeyed, rfl⟩
    · rintro f m ⟨-, rows, hopen, hkeyed⟩
      have hrollback : gate.persistence.rollback m =
          (.ok (), { m with tables := rows, snapshot := none }.logged "rollback") := by
        rw [hstore]
        exact Memory.rollback_run hopen
      rw [hrollback]
      exact ⟨hkeyed, rfl⟩
  · exact hrun.and (runAndFlush_snapshot hstore hbus (fun snapshot => snapshot = none) p.config
      p.batch p.flush)

/-- A mutation of a store at rest leaves a store at rest, whether it succeeds or fails. -/
theorem mutate_atRest (gate : Gate Memory) (schema : Schema) (entityType : String)
    (chain : Chain) (params : Json) (overrides : CallOptions) (frontEnd : FrontEndOptions)
    (hstore : gate.persistence = Memory.persistence schema) (hbus : gate.events = []) :
    StateKept Memory.AtRest (gate.mutate entityType chain params overrides frontEnd) := by
  refine .of_triple ?_
  rw [mutate_eq]
  refine Effect.Triple.bind (m := fun _ => Memory.AtRest)
    (.ofExcept (fun _ _ _ hm => hm) fun _ _ _ hm => hm) fun p => ?_
  refine (perform_atRest hstore hbus p).bind fun records => ?_
  rw [toArray_nil hbus]
  exact .pure fun _ hm => hm

end Gate

end EntityGate
