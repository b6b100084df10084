/-
# Whether an outcome agrees with what became of the transaction

A mutation is accountable if its outcome can be relied on: what was committed is also returned,
a commit that fails is followed by a rollback, and a fault leaves no transaction open.  The
course of a mutation says exactly when this is so.  There are two ways to break it.  A commit
that fails ends the mutation without a rollback, and a listener around the return that fails
does so after the commit.  Whenever neither of these happens, the mutation is accountable.
-/
import EntityGate.Proofs.Course
import EntityGate.Store.Memory

namespace EntityGate

/-- An outcome agrees with what its journal tells of the transaction. -/
structure Accountable {α : Type} (result : Except Fault α) (journal : List Happening) :
    Prop where
  /-- What was committed is returned. -/
  committed : .called .commit true ∈ journal → ∃ a, result = .ok a
  /-- A commit that failed is followed by a rollback. -/
  uncommitted : .called .commit false ∈ journal → ∃ answered, .called .rollback answered ∈ journal
  /-- A fault leaves no transaction open. -/
  closed : (∃ f, result = .error f) → .called .begin true ∈ journal →
    .called .commit true ∈ journal ∨ ∃ answered, .called .rollback answered ∈ journal

namespace Course

variable {α : Type} {result : Except Fault α} {journal : List Happening}

/-- The end of a transaction does not happen while a batch is under way. -/
lemma end_notMem {inner : List Happening} (h : ∀ h ∈ inner, h.Inner) (answered : Bool) :
    .called .commit answered ∉ inner ∧ .called .rollback answered ∉ inner :=
  ⟨fun hmem => h _ hmem, fun hmem => h _ hmem⟩

/-- No event around the return happens while a batch is under way. -/
lemma closing_notMem {inner : List Happening} (h : ∀ h ∈ inner, h.Inner) {event : Event}
    (hevent : event ∈ Event.closing) (entityType : String) (answered : Bool) :
    .heard event entityType answered ∉ inner := by
  intro hmem
  have hunder : event ∈ Event.underway := h _ hmem
  cases event <;> revert hevent hunder <;> decide

/-- Listeners that were shown the rows and answered are neither the end of a transaction nor
listeners that failed. -/
lemma shown_notMem {shown : List Happening} (h : ∀ h ∈ shown, h.Shown true) :
    (∀ c answered, .called c answered ∉ shown) ∧
      ∀ event entityType, .heard event entityType false ∉ shown := by
  constructor
  · intro c answered hmem
    obtain ⟨_, -, _, heq⟩ := h _ hmem
    cases heq
  · intro event entityType hmem
    obtain ⟨_, -, _, heq⟩ := h _ hmem
    cases heq

/-- A mutation in a transaction is accountable exactly if no commit fails and no listener around
the return does. -/
theorem accountable_iff (h : Course result journal) :
    Accountable result journal ↔ .called .commit false ∉ journal ∧
      ∀ event ∈ Event.closing, ∀ entityType, .heard event entityType false ∉ journal := by
  cases h with
  | unopened f =>
    refine ⟨fun _ => ⟨by simp, by simp⟩, fun _ => ⟨by simp, by simp, ?_⟩⟩
    intro _ hbegin
    simp at hbegin
  | rolledBack f inner answered hinner =>
    have hrollback : Happening.called .rollback answered ∈
        Happening.called .begin true :: inner ++ [.called .rollback answered] := by simp
    refine ⟨fun _ => ⟨?_, fun event hevent entityType => ?_⟩, fun _ => ⟨fun hcommit => ?_,
      fun _ => ⟨answered, hrollback⟩, fun _ _ => .inr ⟨answered, hrollback⟩⟩⟩
    · simp [end_notMem hinner]
    · simp [closing_notMem hinner hevent]
    · simp [end_notMem hinner] at hcommit
  | uncommitted f inner hinner =>
    refine ⟨fun h => ?_, fun h => ?_⟩
    · -- no rollback follows the commit
      obtain ⟨answered, hmem⟩ := h.uncommitted (by simp)
      simp [end_notMem hinner] at hmem
    · exact absurd (by simp) h.1
  | withheld f inner shown last hinner hshown hlast =>
    obtain ⟨event, hevent, entityType, rfl⟩ := hlast
    refine ⟨fun h => ?_, fun h => ?_⟩
    · -- what was committed is not returned
      obtain ⟨a, ha⟩ := h.committed (by simp)
      cases ha
    · exact absurd (by simp) (h.2 event hevent entityType)
  | returned a inner shown hinner hshown =>
    refine ⟨fun _ => ⟨?_, fun event hevent entityType => ?_⟩, fun _ => ⟨fun _ => ⟨a, rfl⟩, ?_, ?_⟩⟩
    · simp [end_notMem hinner, (shown_notMem hshown).1]
    · simp [closing_notMem hinner hevent, (shown_notMem hshown).2]
    · intro hcommit
      simp [end_notMem hinner, (shown_notMem hshown).1] at hcommit
    · rintro ⟨f, hf⟩
      cases hf

end Course

namespace Gate

variable {σ : Type}

/-- A mutation that is planned with a transaction is accountable exactly if its commit does not
fail and no listener around its return does. -/
theorem mutate_accountable_iff (gate : Gate σ) (entityType : String) (chain : Chain) (params : Json)
    (overrides : CallOptions) (frontEnd : FrontEndOptions) (s : σ)
    (result : Except Fault (List EntityRecord)) (w : Journaled σ)
    (htransaction : ∀ p, gate.plan entityType chain params overrides frontEnd = .ok p →
      p.transaction = true)
    (h : (gate.journaled.mutate entityType chain params overrides frontEnd).outcome
      (.opening s) = (result, w)) :
    Accountable result w.journal ↔ .called .commit false ∉ w.journal ∧
      ∀ event ∈ Event.closing, ∀ about, .heard event about false ∉ w.journal := by
  rw [Effect.outcome, mutate_run, journaled_plan] at h
  split at h
  · rename_i p hplan
    refine Course.accountable_iff ?_
    cases result with
    | ok records => exact (journaled_carryOut (htransaction p hplan) entityType).of_ok rfl h
    | error f => exact (journaled_carryOut (htransaction p hplan) entityType).of_error rfl h
  · -- nothing has happened
    cases h
    exact ⟨fun _ => ⟨by simp [Journaled.opening], by simp [Journaled.opening]⟩,
      fun _ => ⟨by simp [Journaled.opening], by simp [Journaled.opening],
        by simp [Journaled.opening]⟩⟩

/-! ## Albums -/

/-- A gate to albums with any store and any listeners; every field may be set. -/
def albums (store : Persistence Memory) (listeners : EventBus Memory) : Gate Memory where
  config := ⟨.ofList [("album", { (default : EntityConfig) with
    create := { (default : MutationRules) with
      permissions := { (default : Node) with permissive := some (.literal (.bool true)) } } })]⟩
  registry := .standard
  persistence := store
  validator := fun _ _ => []
  events := listeners
  addedLevels := 2
  bareLevels := 2

/-- The store in memory, without associations. -/
def plainStore : Persistence Memory := Memory.persistence fun _ => []

/-- The store in memory, with a commit that fails. -/
def failingCommit : Persistence Memory :=
  { plainStore with commit := fun m => (.error "disk full", m) }

/-- A listener that fails when it is shown the final rows. -/
def failingReturn : Subscription Memory where
  event := some .afterToArray
  listener := fun _ _ _ => throw (.execution "nope")

/-- An album with a title. -/
def titled : Json := .obj [("title", .str "one")]

/-- The record that is inserted for it. -/
def titledRecord : EntityRecord := ⟨"album", none, [("title", .str "one")], [], none⟩

/-- The row that is stored for it. -/
def titledRow : Json := .obj [("id", Json.str (Memory.countedId 0)), ("title", .str "one")]

/-- Create the album in an empty store. -/
def createTitled (store : Persistence Memory) (listeners : EventBus Memory) :
    Except Fault (List EntityRecord) × Journaled Memory :=
  ((albums store listeners).journaled.mutate "album" .create titled default default).outcome
    (.opening .empty)

set_option maxRecDepth 4000 in
/-- If nothing fails, the creation is accountable. -/
theorem createTitled_accountable :
    (createTitled plainStore []).2.journal = [.called .begin true,
      .called (.insert titledRecord) true, .called .flush true, .called .commit true] ∧
    Accountable (createTitled plainStore []).1 (createTitled plainStore []).2.journal := by
  have hjournal : (createTitled plainStore []).2.journal = [.called .begin true,
      .called (.insert titledRecord) true, .called .flush true, .called .commit true] := rfl
  have htransaction : ∀ p, (albums plainStore []).plan "album" .create titled default default =
      .ok p → p.transaction = true := by
    intro p hp
    cases hp
    rfl
  refine ⟨hjournal, (mutate_accountable_iff (albums plainStore []) "album" .create titled default
    default .empty (createTitled plainStore []).1 (createTitled plainStore []).2 htransaction
    rfl).mpr ?_⟩
  rw [hjournal]
  simp

set_option maxRecDepth 4000 in
/-- Two creations that are not accountable.  The commit of the first one fails, and its
transaction stays open, with the row in it.  A listener of the second one fails at its return:
the row is committed, and the caller gets the fault. -/
theorem createTitled_unaccountable :
    ((createTitled failingCommit []).1 = .error (.execution "disk full") ∧
      (createTitled failingCommit []).2.state.rows "album" = [titledRow] ∧
      (createTitled failingCommit []).2.state.snapshot = some .empty ∧
      ¬Accountable (createTitled failingCommit []).1 (createTitled failingCommit []).2.journal) ∧
    ((createTitled plainStore [failingReturn]).1 = .error (.execution "nope") ∧
      (createTitled plainStore [failingReturn]).2.state.rows "album" = [titledRow] ∧
      (createTitled plainStore [failingReturn]).2.state.snapshot = none ∧
      ¬Accountable (createTitled plainStore [failingReturn]).1
        (createTitled plainStore [failingReturn]).2.journal) := by
  refine ⟨⟨rfl, rfl, rfl, fun h => ?_⟩, ⟨rfl, rfl, rfl, fun h => ?_⟩⟩
  · -- there is no rollback
    have hjournal : (createTitled failingCommit []).2.journal = [.called .begin true,
        .called (.insert titledRecord) true, .called .flush true, .called .commit false] := rfl
    rw [hjournal] at h
    obtain ⟨_, hmem⟩ := h.uncommitted (by simp)
    simp at hmem
  · -- there is a commit and no result
    have hjournal : (createTitled plainStore [failingReturn]).2.journal = [.called .begin true,
        .called (.insert titledRecord) true, .called .flush true, .called .commit true,
        .heard .afterToArray "album" false] := rfl
    rw [hjournal] at h
    obtain ⟨a, ha⟩ := h.committed (by simp)
    cases ha

end Gate

end EntityGate
