/-
# The journal of a request

A gate can be made to keep a journal of what its collaborators are asked for: each call of the
store and each listener that gets an event, with whether it answered or failed.  Nothing else is
changed.  The calls themselves, what they return and what they do to the state are those of the
gate, so what is said about the journal of every gate is said about every store and all
listeners.
-/
import EntityGate.Proofs.Plan
import EntityGate.Rehearsal.Stage

namespace EntityGate

open Rehearsal (Call)

/-- Something that a collaborator of a gate was asked for, and whether it answered. -/
inductive Happening where
  /-- A call of the store. -/
  | called (c : Call) (answered : Bool)
  /-- An event that was passed to a listener. -/
  | heard (event : Event) (entityType : String) (answered : Bool)

/-- The record that a happening asks the store to write, and by which chain. -/
def Happening.write? : Happening → Option (Chain × EntityRecord)
  | called (.insert r) _ => some (.create, r)
  | called (.update r) _ => some (.update, r)
  | called (.remove r) _ => some (.delete, r)
  | _ => none

/-- A state with a journal of what happened so far. -/
structure Journaled (σ : Type) where
  state : σ
  journal : List Happening

namespace Journaled

variable {σ α ε : Type}

/-- The beginning of a journal. -/
def opening (s : σ) : Journaled σ := ⟨s, []⟩

/-- Run something on the state, and note in the journal whether it answered. -/
def noting (note : Bool → Happening) (run : ExceptT ε (StateM σ) α) :
    ExceptT ε (StateM (Journaled σ)) α := fun w =>
  match run w.state with
  | (.ok a, s) => (.ok a, ⟨s, w.journal ++ [note true]⟩)
  | (.error e, s) => (.error e, ⟨s, w.journal ++ [note false]⟩)

/-- What is noted of a computation is one more happening, and tells whether it answered. -/
lemma noting_run (note : Bool → Happening) (run : ExceptT ε (StateM σ) α) (w : Journaled σ) :
    noting note run w = match run w.state with
      | (.ok a, s) => (.ok a, ⟨s, w.journal ++ [note true]⟩)
      | (.error e, s) => (.error e, ⟨s, w.journal ++ [note false]⟩) := rfl

lemma noting_state (note : Bool → Happening) (run : ExceptT ε (StateM σ) α) (w : Journaled σ) :
    (noting note run w).2.state = (run w.state).2 := by
  rw [noting_run]
  cases run w.state with
  | mk result s => cases result <;> rfl

/-- The store with a journal. -/
def persistence (p : Persistence σ) : Persistence (Journaled σ) where
  execute := fun q => noting (.called (.execute q)) (p.execute q)
  executePaginated := fun q fetchJoin returnCount =>
    noting (.called (.executePaginated q fetchJoin returnCount))
      (p.executePaginated q fetchJoin returnCount)
  findIn := fun entityType ids =>
    noting (.called (.findIn entityType ids)) (p.findIn entityType ids)
  insert := fun r => noting (.called (.insert r)) (p.insert r)
  update := fun r => noting (.called (.update r)) (p.update r)
  remove := fun r => noting (.called (.remove r)) (p.remove r)
  schema := p.schema
  begin := noting (.called .begin) p.begin
  commit := noting (.called .commit) p.commit
  rollback := noting (.called .rollback) p.rollback
  flush := noting (.called .flush) p.flush

/-- A listener with a journal. -/
def subscription (s : Subscription σ) : Subscription (Journaled σ) where
  event := s.event
  listener := fun event entityType payload =>
    noting (.heard event entityType) (s.listener event entityType payload)

end Journaled

/-- The gate with a journal. -/
def Gate.journaled {σ : Type} (gate : Gate σ) : Gate (Journaled σ) where
  config := gate.config
  registry := gate.registry
  persistence := Journaled.persistence gate.persistence
  validator := gate.validator
  events := gate.events.map Journaled.subscription
  addedLevels := gate.addedLevels
  bareLevels := gate.bareLevels

namespace Gate

variable {σ : Type} (gate : Gate σ)

/-- What is decided without the store is decided alike with a journal. -/
@[simp] lemma journaled_plan : gate.journaled.plan = gate.plan := rfl

end Gate

end EntityGate
