/-
# A mutation that fails before its commit leaves no trace

The store in memory takes a snapshot of its rows when a transaction is opened, and none of its
lookups, writes and flushes touches the snapshot.  So at any point of a batch a rollback brings
back the rows from before, whatever was written and wherever the batch failed.  Calls may fail
for reasons that lie outside of the store: a world around it may disturb them, before they reach
the store or after.
-/
import EntityGate.Proofs.Course
import EntityGate.Proofs.Simulation
import EntityGate.Store.Memory

namespace EntityGate

open Gate (StateKept)
open Rehearsal (Call)

namespace Memory

variable {snapshot : Option Rows}

/-! ## The snapshot -/

lemma newId_snapshot (m : Memory) (id : Option Json) : (m.newId id).2.snapshot = m.snapshot := by
  cases id <;> rfl

lemma findIn_snapshot (entityType : String) (ids : List Json) :
    StateKept (fun m => m.snapshot = snapshot) (findIn entityType ids) :=
  fun _ hm => hm

lemma insert_snapshot (schema : Schema) (r : EntityRecord) :
    StateKept (fun m => m.snapshot = snapshot) (insert schema r) := by
  rintro m rfl
  have hid := newId_snapshot (m.logged ("insert:" ++ r.entityType)) r.id
  unfold insert
  dsimp only
  split
  · exact hid
  · split
    · exact hid
    · exact hid

lemma update_snapshot (schema : Schema) (r : EntityRecord) :
    StateKept (fun m => m.snapshot = snapshot) (update schema r) := by
  rintro m rfl
  unfold update
  dsimp only
  split
  · rfl
  · split
    · rfl
    · split <;> rfl

lemma remove_snapshot (r : EntityRecord) :
    StateKept (fun m => m.snapshot = snapshot) (remove r) := by
  rintro m rfl
  unfold remove
  dsimp only
  split
  · rfl
  · split <;> rfl

lemma flush_snapshot (schema : Schema) :
    StateKept (fun m => m.snapshot = snapshot) (persistence schema).flush :=
  fun _ hm => hm

/-- Without an open transaction, one is opened with a snapshot of all rows. -/
lemma begin_run {m : Memory} (h : m.snapshot = none) :
    begin m = (.ok (), { m with snapshot := some m.tables }.logged "begin") := by
  unfold begin
  rw [h]

/-- A commit keeps the rows and closes the transaction. -/
lemma commit_run {m : Memory} {tables : Rows} (h : m.snapshot = some tables) :
    commit m = (.ok (), { m with snapshot := none }.logged "commit") := by
  unfold commit
  rw [h]

/-- A rollback brings back the rows of the snapshot and closes the transaction. -/
lemma rollback_run {m : Memory} {tables : Rows} (h : m.snapshot = some tables) :
    rollback m = (.ok (), { m with tables := tables, snapshot := none }.logged "rollback") := by
  unfold rollback
  rw [h]

end Memory

/-! ## Disturbed calls -/

/-- How a call is made to fail: before it reaches the store, or after it has done its work. -/
inductive Disturbance where
  | before (text : String)
  | after (text : String)

/-- The store in memory and the world around it. -/
structure Surrounded (ω : Type) where
  store : Memory
  world : ω

namespace Surrounded

variable {ω α : Type}

/-- A call of the store that the world leaves alone. -/
def below (call : StoreCall Memory α) : StoreCall (Surrounded ω) α := fun s =>
  let (result, store) := call s.store
  (result, { s with store })

/-- A call of the store that the world is asked about first. -/
def disturb (inject : Call → ω → Option Disturbance × ω) (c : Call) (call : StoreCall Memory α) :
    StoreCall (Surrounded ω) α := fun s =>
  let (disturbance, world) := inject c s.world
  let s := { s with world }
  match disturbance with
  | none => below call s
  | some (.before text) => (.error text, s)
  | some (.after text) => (.error text, (below call s).2)

/-- The store in memory, whose lookups, writes and flushes the world may disturb. -/
def persistence (inject : Call → ω → Option Disturbance × ω) (schema : Schema) :
    Persistence (Surrounded ω) where
  execute := fun q => below (Memory.execute q)
  executePaginated := fun q _ returnCount => below (Memory.executePaginated q returnCount)
  findIn := fun entityType ids =>
    disturb inject (.findIn entityType ids) (Memory.findIn entityType ids)
  insert := fun r => disturb inject (.insert r) (Memory.insert schema r)
  update := fun r => disturb inject (.update r) (Memory.update schema r)
  remove := fun r => disturb inject (.remove r) (Memory.remove r)
  schema := schema
  begin := below Memory.begin
  commit := below Memory.commit
  rollback := below Memory.rollback
  flush := disturb inject .flush (Memory.persistence schema).flush

/-- A disturbed call keeps what the call keeps. -/
lemma disturb_kept {I : Memory → Prop} {inject : Call → ω → Option Disturbance × ω} {c : Call}
    {call : StoreCall Memory α} (h : StateKept I call) :
    StateKept (fun s => I s.store) (disturb inject c call) := by
  intro s hs
  have hcall := h s.store hs
  unfold disturb
  dsimp only
  split
  · exact hcall
  · exact hs
  · exact hcall

/-- A listener that opens and closes no transaction of the store.  It may read and change the
world. -/
def LeavesTransaction (l : Subscription (Surrounded ω)) : Prop :=
  ∀ snapshot event entityType payload,
    StateKept (fun s => s.store.snapshot = snapshot) (l.listener event entityType payload)

end Surrounded

namespace Gate

open Surrounded

variable {σ ω : Type}

/-- The fault that ends a mutation before its commit: the one that left it without a plan, or
the one that its batch ended in once the transaction was open. -/
inductive Cause (gate : Gate σ) (plan : Except Fault Plan) (s : σ) (f : Fault) : Prop where
  | unplanned (h : plan = .error f)
  | ran (p : Plan) (hplan : plan = .ok p) (hopened : (gate.persistence.begin s).1 = .ok ())
      (hfailed : (gate.runAndFlush p.config p.batch p.flush
        (gate.persistence.begin s).2).1 = .error f)

/-- A commit stands in the journal. -/
def Reached (w : Journaled σ) : Prop := ∃ answered, .called .commit answered ∈ w.journal

/-- A plan that was begun in a state failed with some fault, and what it did was undone. -/
structure Undone (gate : Gate (Surrounded ω)) (p : Plan) (s : Surrounded ω) (f : Fault)
    (w : Journaled (Surrounded ω)) : Prop where
  tables : w.state.store.tables = s.store.tables
  snapshot : w.state.store.snapshot = none
  opened : (gate.persistence.begin s).1 = .ok ()
  failed : (gate.runAndFlush p.config p.batch p.flush (gate.persistence.begin s).2).1 = .error f

/-- What the listeners around the return do leaves the commit in the journal. -/
lemma toArray_reached {gate : Gate σ} (entityType : String) (rows : List Json) :
    Effect.Triple Reached (gate.journaled.toArray entityType rows) (fun _ => Reached)
      fun _ => Reached := by
  intro w hw
  obtain ⟨answered, hmem⟩ := hw
  refine (journaled_toArray entityType rows).weaken (fun _ h => h) ?_ ?_ w
    (Journaled.Grown.refl rfl)
  · rintro _ w' ⟨more, hjournal, -⟩
    exact ⟨answered, hjournal ▸ List.mem_append_left _ hmem⟩
  · rintro _ w' ⟨shown, last, hjournal, -, -⟩
    exact ⟨answered, hjournal ▸ List.mem_append_left _ (List.mem_append_left _ hmem)⟩

/-! ## While a batch is under way -/

section

variable {gate : Gate (Surrounded ω)} {inject : Call → ω → Option Disturbance × ω}
  {schema : Schema} (hstore : gate.persistence = Surrounded.persistence inject schema)
  (hlisteners : ∀ l ∈ gate.events, LeavesTransaction l)
include hstore hlisteners

lemma surrounded_keeps (snapshot : Option Rows) :
    gate.KeepsState fun s => s.store.snapshot = snapshot where
  findIn entityType ids := by
    rw [hstore]
    exact disturb_kept (Memory.findIn_snapshot entityType ids)
  insert r := by
    rw [hstore]
    exact disturb_kept (Memory.insert_snapshot schema r)
  update r := by
    rw [hstore]
    exact disturb_kept (Memory.update_snapshot schema r)
  remove r := by
    rw [hstore]
    exact disturb_kept (Memory.remove_snapshot r)
  listener l hl event _ entityType payload := hlisteners l hl snapshot event entityType payload

/-- A batch that is run and flushed leaves the snapshot alone. -/
lemma surrounded_runAndFlush (snapshot : Option Rows) (p : Plan) :
    StateKept (fun s => s.store.snapshot = snapshot)
      (gate.runAndFlush p.config p.batch p.flush) := by
  have hflush : StateKept (fun s => s.store.snapshot = snapshot) gate.persistence.flush := by
    rw [hstore]
    exact disturb_kept (Memory.flush_snapshot schema)
  exact .of_triple ((surrounded_keeps hstore hlisteners snapshot).runAndFlush hflush p.config
    p.batch p.flush)

/-! ## From the opening to the end -/

/-- Once the transaction is open, a batch that fails leaves the rows from before in the
snapshot.  Its fault is the one it has without a journal. -/
lemma surrounded_failing (p : Plan) {s opened : Surrounded ω}
    (hopened : opened.store.snapshot = some s.store.tables) :
    Effect.Triple (fun w => w.state = opened)
      (gate.journaled.runAndFlush p.config p.batch p.flush) (fun _ _ => True) fun f w =>
        w.state.store.snapshot = some s.store.tables ∧
          (gate.runAndFlush p.config p.batch p.flush opened).1 = .error f := by
  intro w hw
  have hkept := surrounded_runAndFlush hstore hlisteners (some s.store.tables) p opened hopened
  obtain ⟨result, w', s', hrun, hplain, hstate⟩ :=
    ((journaled_alike gate).runAndFlush p.config p.batch p.flush).run_eq hw
  obtain rfl : w'.state = s' := hstate
  rw [hplain] at hkept
  rw [hrun]
  cases result with
  | ok records => trivial
  | error f => exact ⟨hkept, by rw [hplain]⟩

/-- A plan with a transaction reaches its commit, or it is undone and ends in the fault of its
batch. -/
lemma surrounded_perform {p : Plan} (htransaction : p.transaction = true) {s : Surrounded ω}
    (hclosed : s.store.snapshot = none) :
    Effect.Triple (fun w => w = .opening s) (gate.journaled.perform p) (fun _ => Reached)
      fun f w => Reached w ∨ gate.Undone p s f w := by
  have hbegin : gate.persistence.begin s = (.ok (), { s with
      store := { s.store with snapshot := some s.store.tables }.logged "begin" }) := by
    rw [hstore]
    have hrun : (Surrounded.persistence inject schema).begin s = below Memory.begin s := rfl
    rw [hrun, below, Memory.begin_run hclosed]
  have hopened : (gate.persistence.begin s).2.store.snapshot = some s.store.tables := by
    rw [hbegin]
    rfl
  rw [perform, if_pos htransaction]
  refine inTransaction_triple ?_ (surrounded_failing hstore hlisteners p hopened) ?_ ?_
  · -- the opening does not fail, since no transaction is open
    rintro w rfl
    have hrun : gate.journaled.persistence.begin (.opening s) =
        Journaled.noting (.called .begin) gate.persistence.begin (.opening s) := rfl
    rw [hrun, Journaled.noting_run]
    have hstate : (Journaled.opening s).state = s := rfl
    rw [hstate, hbegin]
  · -- the commit is noted whether it answers or not
    rintro records w -
    have hrun : gate.journaled.persistence.commit w =
        Journaled.noting (.called .commit) gate.persistence.commit w := rfl
    rw [hrun, Journaled.noting_run]
    cases gate.persistence.commit w.state with
    | mk result s' =>
      cases result with
      | ok _ => exact ⟨true, by simp⟩
      | error text => exact .inl ⟨false, by simp⟩
  · -- the snapshot is still the one of the opening
    rintro f w ⟨hsnapshot, hfailed⟩
    have hrun : gate.journaled.persistence.rollback w =
        Journaled.noting (.called .rollback) gate.persistence.rollback w := rfl
    have hrollback : gate.persistence.rollback w.state = below Memory.rollback w.state := by
      rw [hstore]
      rfl
    rw [hrun, Journaled.noting_run, hrollback, below, Memory.rollback_run hsnapshot]
    exact .inr ⟨rfl, rfl, by rw [hbegin], hfailed⟩

lemma surrounded_carryOut {p : Plan} (htransaction : p.transaction = true) {s : Surrounded ω}
    (hclosed : s.store.snapshot = none) (entityType : String) :
    Effect.Triple (fun w => w = .opening s) (gate.journaled.carryOut entityType p)
      (fun _ => Reached) fun f w => Reached w ∨ gate.Undone p s f w := by
  refine (surrounded_perform hstore hlisteners htransaction hclosed).bind fun records => ?_
  have hshow : Effect.Triple Reached
      (gate.journaled.toArray entityType (records.map EntityRecord.toRow) >>= fun _ =>
        pure records) (fun _ => Reached) fun _ => Reached :=
    (toArray_reached entityType _).bind fun _ => .pure fun _ hw => hw
  exact hshow.weaken (fun _ hw => hw) (fun _ _ hw => hw) fun _ _ hw => .inl hw

end

/-- A mutation in a transaction that fails before its commit is reached leaves no trace in the
store: the rows are those from before, in the same order, no transaction is open, and the fault
is the one that the batch ended in. -/
theorem failed_leaves_no_trace (gate : Gate (Surrounded ω))
    (inject : Call → ω → Option Disturbance × ω) (schema : Schema) (entityType : String)
    (chain : Chain) (params : Json) (overrides : CallOptions) (frontEnd : FrontEndOptions)
    (s s' : Surrounded ω) (f : Fault)
    (hstore : gate.persistence = Surrounded.persistence inject schema)
    (hlisteners : ∀ l ∈ gate.events, LeavesTransaction l)
    (htransaction : ∀ p, gate.plan entityType chain params overrides frontEnd = .ok p →
      p.transaction = true)
    (hclosed : s.store.snapshot = none)
    (h : (gate.mutate entityType chain params overrides frontEnd).outcome s = (.error f, s'))
    (hcommit : ∀ answered, .called .commit answered ∉
      ((gate.journaled.mutate entityType chain params overrides frontEnd).outcome
        (.opening s)).2.journal) :
    s'.store.tables = s.store.tables ∧ s'.store.snapshot = none ∧
      gate.Cause (gate.plan entityType chain params overrides frontEnd) s f := by
  rw [Effect.outcome] at h hcommit
  obtain ⟨result, w, t, hrun, hplain, hstate⟩ :=
    ((journaled_alike gate).mutate entityType chain params overrides frontEnd).run_eq
      (kept_opening s)
  rw [hplain] at h
  cases h
  obtain rfl : w.state = s' := hstate
  rw [hrun] at hcommit
  rw [mutate_run, journaled_plan] at hrun
  cases hplan : gate.plan entityType chain params overrides frontEnd with
  | error fault =>
    -- nothing was begun
    rw [hplan] at hrun
    cases hrun
    exact ⟨rfl, hclosed, .unplanned rfl⟩
  | ok p =>
    rw [hplan] at hrun
    have hcarried := surrounded_carryOut hstore hlisteners (htransaction p hplan) hclosed
      entityType
    rcases hcarried.of_error rfl hrun with ⟨answered, hmem⟩ | hundone
    · exact absurd hmem (hcommit answered)
    · exact ⟨hundone.tables, hundone.snapshot, .ran p rfl hundone.opened hundone.failed⟩

/-! ## Songs -/

/-- A world that counts the rows that were written, and lets the second insertion fail after it
has written its row. -/
def secondFails (c : Call) (written : Nat) : Option Disturbance × Nat :=
  match c with
  | .insert _ => (if written = 1 then some (.after "disk full") else none, written)
  | _ => (none, written)

/-- The listener that counts the rows. -/
def countsRows : Subscription (Surrounded Nat) where
  event := some .afterPersist
  listener := fun _ _ payload s => (.ok payload, { s with world := s.world + 1 })

/-- A gate to songs, every field of which may be set. -/
def songs : Gate (Surrounded Nat) where
  config := ⟨.ofList [("song", { (default : EntityConfig) with
    create := { (default : MutationRules) with
      permissions := { (default : Node) with permissive := some (.literal (.bool true)) } } })]⟩
  registry := .standard
  persistence := Surrounded.persistence secondFails fun _ => []
  validator := fun _ _ => []
  events := [countsRows]
  addedLevels := 0
  bareLevels := 0

/-- A store with one song. -/
def oneSong : Surrounded Nat := ⟨Memory.empty.put "song" (.str "a") (.obj [("id", .str "a")]), 0⟩

/-- Two more songs. -/
def twoSongs : Json := .arr [.obj [("title", .str "b")], .obj [("title", .str "c")]]

/-- What becomes of the store when they are created. -/
def createdSongs : Surrounded Nat :=
  ((songs.mutate "song" .create twoSongs default default).outcome oneSong).2

set_option maxRecDepth 4000 in
/-- Both songs are inserted, and the fault of the second insertion brings back the only one. -/
theorem createdSongs_leave_no_trace :
    createdSongs.store.calls = ["begin", "insert:song", "insert:song", "rollback"] ∧
      createdSongs.store.tables = oneSong.store.tables ∧ createdSongs.store.snapshot = none ∧
      songs.Cause (songs.plan "song" .create twoSongs default default) oneSong
        (.execution "disk full") := by
  have hlisteners : ∀ l ∈ songs.events, LeavesTransaction l := by
    intro l hl
    obtain rfl := List.mem_singleton.mp hl
    exact fun _ _ _ _ _ hs => hs
  have htransaction : ∀ p, songs.plan "song" .create twoSongs default default = .ok p →
      p.transaction = true := by
    intro p hp
    cases hp
    rfl
  have hjournal : ((songs.journaled.mutate "song" .create twoSongs default default).outcome
      (.opening oneSong)).2.journal = [.called .begin true,
        .called (.insert ⟨"song", none, [("title", .str "b")], [], none⟩) true,
        .heard .afterPersist "song" true,
        .called (.insert ⟨"song", none, [("title", .str "c")], [], none⟩) false,
        .called .rollback true] := rfl
  refine ⟨rfl, failed_leaves_no_trace songs secondFails (fun _ => []) "song" .create twoSongs
    default default oneSong createdSongs (.execution "disk full") rfl hlisteners htransaction rfl
    rfl fun answered => ?_⟩
  rw [hjournal]
  simp

end Gate

end EntityGate
