/-
# The course of a mutation

The journal of a mutation that runs in a transaction has one of five forms.  The transaction may
not be opened.  If it is, there follow happenings of the batch that is under way: lookups and
writes, at the end a flush, and the listeners of the events in between.  If something of this
fails, the transaction is rolled back and nothing more happens.  Otherwise it is committed.  If
the commit fails, nothing more happens either; if not, the listeners around the return are shown
the rows, until one of them fails or all have answered.
-/
import EntityGate.Proofs.Journal
import EntityGate.Proofs.Steps

namespace EntityGate

namespace Happening

/-- What happens while a batch is under way: everything but the opening and the end of a
transaction and the events around the return. -/
def Inner : Happening → Prop
  | called .begin _ | called .commit _ | called .rollback _ => False
  | called _ _ => True
  | heard event _ _ => event ∈ Event.underway

/-- A listener around the return was shown the rows, and answered or failed. -/
def Shown (answered : Bool) (h : Happening) : Prop :=
  ∃ event ∈ Event.closing, ∃ entityType, h = heard event entityType answered

end Happening

/-- How a mutation in a transaction goes: what comes out of it, and its journal. -/
inductive Course {α : Type} : Except Fault α → List Happening → Prop where
  /-- The transaction is not opened. -/
  | unopened (f : Fault) : Course (.error f) [.called .begin false]
  /-- The batch fails, and the transaction is rolled back. -/
  | rolledBack (f : Fault) (inner : List Happening) (answered : Bool)
      (hinner : ∀ h ∈ inner, h.Inner) :
      Course (.error f) (.called .begin true :: inner ++ [.called .rollback answered])
  /-- The commit fails. -/
  | uncommitted (f : Fault) (inner : List Happening) (hinner : ∀ h ∈ inner, h.Inner) :
      Course (.error f) (.called .begin true :: inner ++ [.called .commit false])
  /-- The transaction is committed, and then a listener fails. -/
  | withheld (f : Fault) (inner shown : List Happening) (last : Happening)
      (hinner : ∀ h ∈ inner, h.Inner) (hshown : ∀ h ∈ shown, h.Shown true)
      (hlast : last.Shown false) :
      Course (.error f) (.called .begin true :: inner ++ .called .commit true :: shown ++ [last])
  /-- The transaction is committed, and all listeners answer. -/
  | returned (a : α) (inner shown : List Happening) (hinner : ∀ h ∈ inner, h.Inner)
      (hshown : ∀ h ∈ shown, h.Shown true) :
      Course (.ok a) (.called .begin true :: inner ++ .called .commit true :: shown)

namespace Journaled

variable {σ α ε : Type}

/-- The journal is what it was before, and after that happenings of some kind. -/
def Grown (before : List Happening) (P : Happening → Prop) (w : Journaled σ) : Prop :=
  ∃ more, w.journal = before ++ more ∧ ∀ h ∈ more, P h

lemma Grown.refl {before : List Happening} {P : Happening → Prop} {w : Journaled σ}
    (h : w.journal = before) : w.Grown before P :=
  ⟨[], by simpa using h, by simp⟩

lemma Grown.snoc {before : List Happening} {P : Happening → Prop} {w : Journaled σ}
    (h : w.Grown before P) {s : σ} {last : Happening} (hlast : P last) :
    (⟨s, w.journal ++ [last]⟩ : Journaled σ).Grown before P := by
  obtain ⟨more, hmore, hP⟩ := h
  refine ⟨more ++ [last], ?_, ?_⟩
  · rw [hmore, List.append_assoc]
  · intro h hmem
    rcases List.mem_append.mp hmem with hmem | hmem
    · exact hP h hmem
    · rw [List.mem_singleton.mp hmem]
      exact hlast

lemma noting_kept {before : List Happening} {P : Happening → Prop} {note : Bool → Happening}
    (hnote : ∀ answered, P (note answered)) (run : ExceptT ε (StateM σ) α) :
    Gate.StateKept (Grown before P) (noting note run) := by
  intro w hw
  rw [noting_run]
  cases run w.state with
  | mk result s => cases result <;> exact hw.snoc (hnote _)

end Journaled

namespace Gate

open Journaled

variable {σ : Type} {gate : Gate σ} {before : List Happening}

/-! ## While a batch is under way -/

lemma journaled_keeps (before : List Happening) :
    gate.journaled.KeepsState (Grown before Happening.Inner) where
  findIn _ _ := noting_kept (fun _ => trivial) _
  insert _ := noting_kept (fun _ => trivial) _
  update _ := noting_kept (fun _ => trivial) _
  remove _ := noting_kept (fun _ => trivial) _
  listener l hl event hevent entityType payload := by
    obtain ⟨own, -, rfl⟩ := List.mem_map.mp hl
    exact noting_kept (fun _ => hevent) _

/-- A batch that is run and flushed notes happenings under way only. -/
lemma journaled_runAndFlush (before : List Happening) (config : EntityConfig) (b : Batch)
    (flush : Bool) :
    Effect.Triple (Grown before Happening.Inner) (gate.journaled.runAndFlush config b flush)
      (fun _ => Grown before Happening.Inner) fun _ => Grown before Happening.Inner :=
  (journaled_keeps before).runAndFlush (noting_kept (fun _ => trivial) _) config b flush

/-! ## Around the return -/

/-- After `before` the listeners around the return were shown the rows, and the last of them
failed. -/
def FailedShowing (before : List Happening) (w : Journaled σ) : Prop :=
  ∃ shown last, w.journal = before ++ shown ++ [last] ∧ (∀ h ∈ shown, h.Shown true) ∧
    last.Shown false

lemma journaled_publish {event : Event} (hevent : event ∈ Event.closing) (entityType : String)
    (payload : Json) :
    Effect.Triple (Grown before (Happening.Shown true))
      (gate.journaled.publish event entityType payload)
      (fun _ => Grown before (Happening.Shown true)) fun _ => FailedShowing before := by
  refine .foldlM (I := fun _ => Grown before (Happening.Shown true)) (fun payload l hl => ?_)
    payload
  obtain ⟨own, -, rfl⟩ := List.mem_map.mp (List.mem_filter.mp hl).1
  intro w hw
  have hrun : (subscription own).listener event entityType payload w =
      noting (.heard event entityType) (own.listener event entityType payload) w := rfl
  rw [hrun, noting_run]
  cases own.listener event entityType payload w.state with
  | mk result s =>
    cases result with
    | ok answer => exact hw.snoc ⟨event, hevent, entityType, rfl⟩
    | error f =>
      obtain ⟨shown, hjournal, hshown⟩ := hw
      exact ⟨shown, .heard event entityType false, by rw [hjournal], hshown,
        event, hevent, entityType, rfl⟩

lemma journaled_toArray (entityType : String) (rows : List Json) :
    Effect.Triple (Grown before (Happening.Shown true)) (gate.journaled.toArray entityType rows)
      (fun _ => Grown before (Happening.Shown true)) fun _ => FailedShowing before :=
  (journaled_publish (by decide) entityType _).bind fun _ =>
    (journaled_publish (by decide) entityType _).bind fun _ => .pure fun _ hw => hw

/-! ## The whole course -/

/-- The journal of a transaction that has been committed and not gone on. -/
def Committed (w : Journaled σ) : Prop :=
  ∃ inner, (∀ h ∈ inner, h.Inner) ∧
    w.journal = .called .begin true :: inner ++ [.called .commit true]

lemma journaled_perform {p : Plan} (htransaction : p.transaction = true) :
    Effect.Triple (fun w => w.journal = []) (gate.journaled.perform p) (fun _ => Committed)
      fun f w => Course (.error f : Except Fault (List EntityRecord)) w.journal := by
  rw [perform, if_pos htransaction]
  refine inTransaction_triple (fun w hw => ?_) (journaled_runAndFlush [.called .begin true] _ _ _)
    (fun records w hw => ?_) fun f w hw => ?_
  · have hrun : gate.journaled.persistence.begin w =
        noting (.called .begin) gate.persistence.begin w := rfl
    rw [hrun, noting_run, hw]
    cases gate.persistence.begin w.state with
    | mk result s =>
      cases result with
      | ok _ => exact .refl rfl
      | error text => exact .unopened _
  · obtain ⟨inner, hjournal, hinner⟩ := hw
    have hrun : gate.journaled.persistence.commit w =
        noting (.called .commit) gate.persistence.commit w := rfl
    rw [hrun, noting_run, hjournal]
    cases gate.persistence.commit w.state with
    | mk result s =>
      cases result with
      | ok _ => exact ⟨inner, hinner, rfl⟩
      | error text => exact .uncommitted _ inner hinner
  · obtain ⟨inner, hjournal, hinner⟩ := hw
    have hrun : gate.journaled.persistence.rollback w =
        noting (.called .rollback) gate.persistence.rollback w := rfl
    rw [hrun, noting_run, hjournal]
    cases gate.persistence.rollback w.state with
    | mk result s =>
      cases result with
      | ok _ => exact .rolledBack f inner true hinner
      | error text => exact .rolledBack f inner false hinner

/-- A plan with a transaction goes one of the five courses. -/
theorem journaled_carryOut {p : Plan} (htransaction : p.transaction = true) (entityType : String) :
    Effect.Triple (fun w => w.journal = []) (gate.journaled.carryOut entityType p)
      (fun records w => Course (.ok records) w.journal)
      fun f w => Course (.error f : Except Fault (List EntityRecord)) w.journal := by
  refine (journaled_perform htransaction).bind fun records => ?_
  intro w hw
  obtain ⟨inner, hinner, hjournal⟩ := hw
  -- what is shown comes after the journal of the transaction, so that is the `before` here
  have hshow : Effect.Triple (Grown w.journal (Happening.Shown true))
      (gate.journaled.toArray entityType (records.map EntityRecord.toRow) >>= fun _ =>
        pure records)
      (fun returned w' => returned = records ∧ w'.Grown w.journal (Happening.Shown true))
      fun _ => FailedShowing w.journal :=
    (journaled_toArray entityType _).bind fun _ => .pure fun _ hw => ⟨rfl, hw⟩
  refine hshow.weaken (fun _ h => h) ?_ ?_ w (.refl rfl)
  · rintro _ w' ⟨rfl, shown, hshown, hall⟩
    rw [hshown, hjournal, List.append_assoc]
    exact .returned _ inner shown hinner hall
  · rintro f w' ⟨shown, last, hshown, hall, hlast⟩
    rw [hshown, hjournal, List.append_assoc _ [Happening.called .commit true]]
    exact .withheld f inner shown last hinner hall hlast

end Gate

end EntityGate
