/-
# Rows keep to their ids

Every row of a store in memory lies under the text of its id, from the first row that is seeded on.
No write and no end of a transaction changes that, unless an association is named like the id: then
a change of that relation could put another value in the place of the id.
-/
import EntityGate.Proofs.Coherence

namespace EntityGate

open Gate (StateKept)

/-! ## Calls of the store -/

namespace Memory

/-- Every row lies under its id, and so does every row that a rollback would bring back. -/
structure Keyed (m : Memory) : Prop where
  tables : m.tables.WellKeyed
  snapshot : ∀ tables, m.snapshot = some tables → tables.WellKeyed

lemma keyed_supplied (ids : Nat → String) : Keyed (supplied ids) :=
  ⟨Rows.wellKeyed_empty, fun _ h => nomatch h⟩

/-- A call that leaves the snapshot alone keeps the rows of a store under their ids if it does so
when it answers, and changes none of them when it does not. -/
lemma keyed_of_call {α : Type} {call : StoreCall Memory α}
    (hsnapshot : ∀ snapshot, StateKept (fun m => m.snapshot = snapshot) call)
    (hok : ∀ {m a m'}, call m = (.ok a, m') → m.tables.WellKeyed → m'.tables.WellKeyed)
    (herror : ∀ {m text m'}, call m = (.error text, m') → m'.tables = m.tables) :
    StateKept Keyed call := by
  intro m hm
  have hsame : (call m).2.snapshot = m.snapshot := hsnapshot m.snapshot m rfl
  cases hrun : call m with
  | mk result m' =>
    rw [hrun] at hsame
    cases result with
    | ok a => exact ⟨hok hrun hm.tables, hsame ▸ hm.snapshot⟩
    | error text => exact ⟨herror hrun ▸ hm.tables, hsame ▸ hm.snapshot⟩

section

variable {schema : Schema} {r : EntityRecord}
  (hid : schema.association? r.entityType "id" = none)
include hid

lemma Wrote.wellKeyed {m m' : Memory} {row : Json} {chain : Chain}
    (h : Wrote schema r m row m' chain) (hm : m.tables.WellKeyed) : m'.tables.WellKeyed :=
  ((Coherent.ofEmpty hm).wrote h (keepsId_of_undeclared hid)).keyed

lemma insert_keyed : StateKept Keyed (insert schema r) :=
  keyed_of_call (fun _ => insert_snapshot schema r)
    (fun hrun => (wrote_of_insert hrun).wellKeyed hid) tables_of_insert

lemma update_keyed : StateKept Keyed (update schema r) :=
  keyed_of_call (fun _ => update_snapshot schema r)
    (fun hrun => (wrote_of_update hrun).wellKeyed hid) tables_of_update

lemma remove_keyed : StateKept Keyed (remove r) :=
  keyed_of_call (fun _ => remove_snapshot r)
    (fun hrun => (wrote_of_remove hrun).wellKeyed hid) tables_of_remove

end

lemma begin_keyed : StateKept Keyed begin := by
  intro m hm
  unfold begin
  split
  · exact hm
  · -- the snapshot is a copy of the rows
    refine ⟨hm.tables, fun tables htables => ?_⟩
    cases htables
    exact hm.tables

lemma commit_keyed : StateKept Keyed commit := by
  intro m hm
  unfold commit
  split
  · exact ⟨hm.tables, fun _ h => nomatch h⟩
  · exact hm

lemma rollback_keyed : StateKept Keyed rollback := by
  intro m hm
  unfold rollback
  split
  · rename_i tables htables
    exact ⟨hm.snapshot tables htables, fun _ h => nomatch h⟩
  · exact hm

end Memory

namespace Gate

/-! ## Mutations -/

section

variable {σ : Type} {gate : Gate σ} {I : σ → Prop}

/-- A mutation keeps what the calls of its store and its listeners keep. -/
theorem KeepsState.mutate (h : gate.KeepsState I) (hbegin : StateKept I gate.persistence.begin)
    (hcommit : StateKept I gate.persistence.commit)
    (hrollback : StateKept I gate.persistence.rollback)
    (hflush : StateKept I gate.persistence.flush)
    (hlistener : ∀ l ∈ gate.events, ∀ event ∈ Event.closing, ∀ entityType payload,
      StateKept I (l.listener event entityType payload)) (entityType : String) (chain : Chain)
    (params : Json) (overrides : CallOptions) (frontEnd : FrontEndOptions) :
    StateKept I (gate.mutate entityType chain params overrides frontEnd) := by
  intro s hs
  rw [mutate_run]
  cases gate.plan entityType chain params overrides frontEnd with
  | error f => exact hs
  | ok p =>
    have hrun := h.runAndFlush hflush p.config p.batch p.flush
    have hperform : Effect.Triple I (gate.perform p) (fun _ => I) fun _ => I := by
      unfold perform
      split
      · exact inTransaction_keeps (fun _ hs => hs) (fun _ _ hs => hs) hbegin hrun
          (fun _ => hcommit) hrollback
      · exact hrun
    exact StateKept.of_triple (hperform.bind fun records =>
      (toArray_keeps hlistener entityType _).bind fun _ => .pure fun _ hs => hs) s hs

end

open Surrounded

/-- Without an association that is named like the id, mutations leave every row under its id,
whatever comes out of them, as long as the listeners do. -/
theorem mutate_keyed {ω : Type} (gate : Gate (Surrounded ω))
    (inject : Rehearsal.Call → ω → Option Disturbance × ω) (schema : Schema)
    (hstore : gate.persistence = Surrounded.persistence inject schema)
    (hid : ∀ entityType, schema.association? entityType "id" = none)
    (hlisteners : ∀ l ∈ gate.events, ∀ event entityType payload,
      StateKept (fun s => s.store.Keyed) (l.listener event entityType payload))
    (entityType : String) (chain : Chain) (params : Json) (overrides : CallOptions)
    (frontEnd : FrontEndOptions) :
    StateKept (fun s => s.store.Keyed)
      (gate.mutate entityType chain params overrides frontEnd) := by
  have hkeeps : gate.KeepsState fun s => s.store.Keyed := by
    refine ⟨fun entityType ids => ?_, fun r => ?_, fun r => ?_, fun r => ?_,
      fun l hl event _ => hlisteners l hl event⟩
    all_goals rw [hstore]
    · exact disturb_kept fun _ hm => ⟨hm.tables, hm.snapshot⟩
    · exact disturb_kept (Memory.insert_keyed (hid r.entityType))
    · exact disturb_kept (Memory.update_keyed (hid r.entityType))
    · exact disturb_kept (Memory.remove_keyed (hid r.entityType))
  refine hkeeps.mutate ?_ ?_ ?_ ?_ (fun l hl event _ => hlisteners l hl event) entityType chain
    params overrides frontEnd
  all_goals rw [hstore]
  · exact fun s => Memory.begin_keyed s.store
  · exact fun s => Memory.commit_keyed s.store
  · exact fun s => Memory.rollback_keyed s.store
  · exact disturb_kept fun _ hm => ⟨hm.tables, hm.snapshot⟩

end Gate

end EntityGate
