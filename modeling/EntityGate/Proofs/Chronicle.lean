/-
# The chronicle of a mutation

A mutation handles entries, and while it handles one it may handle others that are nested in it.
To say what is true of every entry, however deep it is nested, a mutation is run over a state with
a chronicle: whenever the record of an entry has been written, it is noted how that came about,
from the state in which the handling began to the state after the write.  The chronicle is only
written and never read by the run, so the run is that of the mutation itself.
-/
import EntityGate.Proofs.Binding
import EntityGate.Proofs.Simulation

namespace EntityGate

/-- An entity that was written. -/
structure Written where
  entityType : String
  id : Option Json

/-- How the entry of a mutation was handled. -/
structure Handling (σ : Type) where
  action : Action
  entry : Entry
  /-- The state when the handling began. -/
  begun : σ
  /-- The record with the members of the entry taken in. -/
  bound : EntityRecord
  /-- The record after the hooks of its action, as it is handed to the store. -/
  ready : EntityRecord
  /-- The state when the record was about to be written. -/
  reached : σ
  /-- What was written for the entries nested in this one. -/
  nested : List Written
  /-- The record as it was stored. -/
  result : EntityRecord
  /-- The state after the write. -/
  after : σ

/-- The entity that was written when an entry was handled. -/
def Handling.written {σ : Type} (h : Handling σ) : Written := ⟨h.action.entityType, h.result.id⟩

/-- A state with the chronicle of what was handled so far. -/
structure Chronicled (σ : Type) where
  state : σ
  handlings : List (Handling σ)

namespace Chronicled

variable {σ α ε : Type}

/-- What was written since the chronicle had some length. -/
def writtenSince (w : Chronicled σ) (n : Nat) : List Written :=
  (w.handlings.drop n).map Handling.written

/-- Run something on the state below the chronicle. -/
def below (run : ExceptT ε (StateM σ) α) : ExceptT ε (StateM (Chronicled σ)) α := fun w =>
  let (result, state) := run w.state
  (result, { w with state })

/-- The store below a chronicle. -/
def persistence (p : Persistence σ) : Persistence (Chronicled σ) where
  execute := fun q => below (p.execute q)
  executePaginated := fun q fetchJoin returnCount =>
    below (p.executePaginated q fetchJoin returnCount)
  findIn := fun entityType ids => below (p.findIn entityType ids)
  insert := fun r => below (p.insert r)
  update := fun r => below (p.update r)
  remove := fun r => below (p.remove r)
  schema := p.schema
  begin := below p.begin
  commit := below p.commit
  rollback := below p.rollback
  flush := below p.flush

/-- A listener below a chronicle. -/
def subscription (s : Subscription σ) : Subscription (Chronicled σ) where
  event := s.event
  listener := fun event entityType payload => below (s.listener event entityType payload)

/-- The state with its chronicle, at some point of a mutation. -/
def now : Mutating (Chronicled σ) (Chronicled σ) := .ofEffect fun w => (.ok w, w)

/-- Note a handling in the chronicle. -/
def note (h : Chronicled σ → Handling σ) : Mutating (Chronicled σ) Unit :=
  .ofEffect fun w => (.ok (), { w with handlings := w.handlings ++ [h w] })

end Chronicled

namespace Gate

open Mutating (ofDecision)

variable {σ : Type} (gate : Gate σ)

/-- The gate below a chronicle. -/
def chronicled : Gate (Chronicled σ) where
  config := gate.config
  registry := gate.registry
  persistence := Chronicled.persistence gate.persistence
  validator := gate.validator
  events := gate.events.map Chronicled.subscription
  addedLevels := gate.addedLevels
  bareLevels := gate.bareLevels

/-- Bind an entry, write its record, and note in the chronicle how it came about. -/
def handleEntry (run : String → Chain → Entry → Mutating (Chronicled σ) EntityRecord)
    (action : Action) (e : Entry) : Mutating (Chronicled σ) EntityRecord := do
  let begun ← Chronicled.now
  let r ← gate.chronicled.startRecord action e
  let bound ← e.members.foldlM (fun r (field, v) =>
    gate.chronicled.bindMember run action r field v) r
  let ready ← ofDecision (bound.prepared gate.registry gate.validator action)
  let reached ← Chronicled.now
  let result ← gate.chronicled.persist action ready
  Chronicled.note fun w => ⟨action, e, begun.state, bound, ready, reached.state,
    reached.writtenSince begun.handlings.length, result, w.state⟩
  return result

/-- Run a batch with a chronicle. -/
def chronicle (levels : Nat) (config : EntityConfig) (b : Batch) :
    Mutating (Chronicled σ) (List EntityRecord) :=
  gate.chronicled.runBatchWith gate.handleEntry levels config b

/-- How the entries of a plan are handled from a state on, once its transaction is open. -/
def openHandlings (p : Plan) (s : σ) : List (Handling σ) :=
  ((gate.chronicle (p.batch.levels + gate.addedLevels) p.config p.batch).withoutCache
    ⟨s, []⟩).2.handlings

/-- How the entries of a plan are handled: none is, if its transaction is not opened. -/
def planHandlings (p : Plan) (s : σ) : List (Handling σ) :=
  if p.transaction then
    match gate.persistence.begin s with
    | (.ok _, s) => gate.openHandlings p s
    | (.error _, _) => []
  else gate.openHandlings p s

/-- How the entries of a mutation are handled, in the order in which their records are written.
Without a plan, none is. -/
def handlings (entityType : String) (chain : Chain) (params : Json) (overrides : CallOptions)
    (frontEnd : FrontEndOptions) (s : σ) : List (Handling σ) :=
  match gate.plan entityType chain params overrides frontEnd with
  | .error _ => []
  | .ok p => gate.planHandlings p s

/-! ## The run below the chronicle -/

/-- The state without the chronicle. -/
def Under (w : Chronicled σ) (s : σ) : Prop := w.state = s

/-- The state without the chronicle, which holds some handlings. -/
def Below (handlings : List (Handling σ)) (w : Chronicled σ) (s : σ) : Prop := w = ⟨s, handlings⟩

/-- A gate below a chronicle works like the gate without it, in each sense in which computations
below a chronicle do. -/
theorem chronicled_alike {R : Chronicled σ → σ → Prop}
    (hR : ∀ {ε α : Type} (run : ExceptT ε (StateM σ) α),
      EntityGate.Alike R (Chronicled.below run) run) : gate.chronicled.Alike R gate :=
  lifted_alike Chronicled.below hR gate

lemma alike_under : gate.chronicled.Alike Under gate :=
  gate.chronicled_alike fun _ _ _ hws => hws ▸ ⟨rfl, rfl⟩

/-- The steps of a mutation leave the chronicle alone. -/
lemma alike_below (handlings : List (Handling σ)) :
    gate.chronicled.Alike (Below handlings) gate :=
  gate.chronicled_alike fun _ _ _ hws => hws ▸ ⟨rfl, rfl⟩

variable {gate}

/-- Looking at the state and noting a handling leave the state under the chronicle alone. -/
lemma now_alike {α : Type} {next : Chronicled σ → Mutating (Chronicled σ) α} {p : Mutating σ α}
    (h : ∀ w, Mutating.Alike Under (next w) p) :
    Mutating.Alike Under (Chronicled.now >>= next) p :=
  fun cache w s hws => h w cache w s hws

lemma note_alike {h : Chronicled σ → Handling σ} {α : Type} {a : α} :
    Mutating.Alike Under (do Chronicled.note h; return a) (pure a : Mutating σ α) :=
  fun _ _ _ hws => ⟨rfl, hws⟩

/-- An entry is handled as it is bound. -/
lemma handleEntry_alike {run : String → Chain → Entry → Mutating (Chronicled σ) EntityRecord}
    {run' : String → Chain → Entry → Mutating σ EntityRecord}
    (hrun : ∀ target chain e, Mutating.Alike Under (run target chain e) (run' target chain e))
    (action : Action) (e : Entry) :
    Mutating.Alike Under (gate.handleEntry run action e) (gate.bindEntry run' action e) := by
  have h := gate.alike_under
  refine now_alike fun begun => ?_
  refine (h.startRecord action e).bind fun r => ?_
  refine Mutating.Alike.bind ?_ fun bound => ?_
  · exact .foldlM (fun r member => h.bindMember hrun action r member.1 member.2) e.members r
  refine (Mutating.Alike.ofDecision _).bind fun ready => ?_
  refine now_alike fun reached => ?_
  have hlast : gate.persist action ready = (gate.persist action ready >>= fun r => pure r) :=
    (bind_pure _).symm
  rw [hlast]
  exact (h.persist action ready).bind fun result => note_alike

/-- A batch that is run with a chronicle returns and does what it returns and does without. -/
theorem chronicle_alike (levels : Nat) : ∀ config b,
    Mutating.Alike Under (gate.chronicle levels config b) (gate.runBatch levels config b) := by
  have h := gate.alike_under
  induction levels with
  | zero =>
    intro config b
    exact .throw _
  | succ levels ih =>
    intro config b
    rw [chronicle, runBatchWith_succ, runBatch_succ]
    exact (h.openBatch config b).bind fun action =>
      .mapM (handleEntry_alike (h.runEntry ih b.frontEnd) action) b.entries

end Gate

/-! ## Assertions with a chronicle -/

namespace Mutating

variable {σ α : Type}

lemma Triple.now {pre : CallCache → Chronicled σ → Prop} {fail : Fault → Chronicled σ → Prop}
    {post : Chronicled σ → CallCache → Chronicled σ → Prop}
    (h : ∀ cache w, pre cache w → post w cache w) : Triple pre Chronicled.now post fail := h

/-- A part that leaves the chronicle alone runs as it does without. -/
lemma Alike.run_below {p' : Mutating (Chronicled σ) α} {p : Mutating σ α} {w : Chronicled σ}
    (h : Alike (Gate.Below w.handlings) p' p) (cache : CallCache) :
    p'.run cache w = ((p.run cache w.state).1, ⟨(p.run cache w.state).2, w.handlings⟩) :=
  run_image (f := fun s => (⟨s, w.handlings⟩ : Chronicled σ)) h cache w.state

end Mutating

namespace Gate

open Mutating (Triple)

variable {σ : Type} {gate : Gate σ} {inv : CallCache → Chronicled σ → Prop}
  {fail : Fault → Chronicled σ → Prop}

/-- Lookups and listeners keep with a chronicle what they keep without, whatever it holds. -/
lemma chronicled_keepsLookups (h : ∀ handlings, gate.KeepsLookups
    (fun cache s => inv cache ⟨s, handlings⟩) fun f s => fail f ⟨s, handlings⟩) :
    gate.chronicled.KeepsLookups inv fail :=
  keepsLookups_of_images (fun w => ⟨w.handlings, w.state, rfl⟩) gate.alike_below h

/-- An assertion about the chronicle alone is kept by all lookups. -/
lemma keepsLookups_of_handlings (gate : Gate σ) (I : List (Handling σ) → Prop) :
    gate.chronicled.KeepsLookups (fun _ w => I w.handlings) fun _ w => I w.handlings := by
  refine chronicled_keepsLookups fun handlings => Keeps.lookups (KeepsState.keeps ?_)
  exact ⟨fun _ _ _ h => h, fun _ _ h => h, fun _ _ h => h, fun _ _ h => h,
    fun _ _ _ _ _ _ _ h => h⟩

/-- How an assertion is kept while an entry is handled.  `since` tells what goes on to hold of the
states from the beginning of the handling to the write, and `Start` of the record that it starts
from.  When the record is written, a handling is noted about which these things are known; when
the write fails, none is. -/
theorem handleEntry_triple (since : Chronicled σ → Chronicled σ → Prop)
    (Start : Chronicled σ → EntityRecord → Prop) {action : Action} {e : Entry}
    {run : String → Chain → Entry → Mutating (Chronicled σ) EntityRecord}
    (hstart : ∀ begun, Triple (fun cache w => inv cache w ∧ w = begun)
      (gate.chronicled.startRecord action e)
      (fun r cache w => Start begun r ∧ inv cache w ∧ since begun w) fail)
    (hlookups : ∀ begun,
      gate.chronicled.KeepsLookups (fun cache w => inv cache w ∧ since begun w) fail)
    (hrun : ∀ begun target chain e, Triple (fun cache w => inv cache w ∧ since begun w)
      (run target chain e) (fun _ cache w => inv cache w ∧ since begun w) fail)
    (hstop : ∀ ready reached f cache after, inv cache reached →
      (gate.persist action ready).run cache reached.state = (.error f, after) →
      fail f ⟨after, reached.handlings⟩)
    (hnote : ∀ begun start bound ready reached result cache cache' after,
      Start begun start → gate.Makes action e start bound ready →
      inv cache reached → since begun reached →
      (gate.persist action ready).run cache reached.state = (.ok (result, cache'), after) →
      inv cache' ⟨after, reached.handlings ++ [⟨action, e, begun.state, bound, ready,
        reached.state, reached.writtenSince begun.handlings.length, result, after⟩]⟩) :
    Triple inv (gate.handleEntry run action e) (fun _ => inv) fail := by
  refine .bind (m := fun begun cache w => inv cache w ∧ w = begun)
    (.now fun _ _ hw => ⟨hw, rfl⟩) fun begun => ?_
  refine .bind ((startRecord_returns e).and (hstart begun)) fun start => ?_
  refine .of_fact fun ⟨htype, hnone⟩ => .of_fact fun hstarted => ?_
  refine .bind ((bindMembers_returns e start).and
    ((hlookups begun).bindMembers (hrun begun) action e.members start)) fun bound => ?_
  refine .of_fact fun hbound => ?_
  refine .bind (m := fun ready cache w => bound.prepared gate.registry gate.validator action =
      .ok ready ∧ inv cache w ∧ since begun w) (.ofDecision (fun _ _ _ hready hw => ⟨hready, hw⟩)
      fun f cache w _ hw => (hlookups begun).fault f cache w hw) fun ready => ?_
  refine .of_fact fun hready => ?_
  refine .bind (m := fun reached cache w => w = reached ∧ inv cache w ∧ since begun w)
    (.now fun _ _ hw => ⟨rfl, hw⟩) fun reached => ?_
  -- the record is persisted and noted at once, from the state that was reached
  rintro cache w ⟨rfl, hw, hsince⟩
  have hpersist := ((gate.alike_below w.handlings).persist action ready).run_below cache
  rw [StateT.run_bind, Effect.run_bind, hpersist]
  cases hrun : (gate.persist action ready).run cache w.state with
  | mk result after =>
    cases result with
    | error f => exact hstop ready w f cache after hw hrun
    | ok returned =>
      exact hnote begun start bound ready w returned.1 cache returned.2 after hstarted
        ⟨htype, hnone, hbound, hready⟩ hw hsince hrun

/-- An assertion that goes without a look back is kept while an entry is handled if the handling
that is noted keeps it. -/
lemma handleEntry_keeps (h : gate.chronicled.KeepsLookups inv fail) {action : Action} {e : Entry}
    {run : String → Chain → Entry → Mutating (Chronicled σ) EntityRecord}
    (hrun : ∀ target chain e, Triple inv (run target chain e) (fun _ => inv) fail)
    (hstop : ∀ ready reached f cache after, inv cache reached →
      (gate.persist action ready).run cache reached.state = (.error f, after) →
      fail f ⟨after, reached.handlings⟩)
    (hnote : ∀ (begun : Chronicled σ) start bound ready reached result cache cache' after,
      gate.Makes action e start bound ready → inv cache reached →
      (gate.persist action ready).run cache reached.state = (.ok (result, cache'), after) →
      inv cache' ⟨after, reached.handlings ++ [⟨action, e, begun.state, bound, ready,
        reached.state, reached.writtenSince begun.handlings.length, result, after⟩]⟩) :
    Triple inv (gate.handleEntry run action e) (fun _ => inv) fail := by
  refine handleEntry_triple (fun _ _ => True) (fun _ _ => True) (fun begun => ?_)
    (fun begun => ?_) (fun begun target chain e => ?_) hstop ?_
  · exact (h.startRecord action e).weaken (fun _ _ hw => hw.1)
      (fun _ _ _ hw => ⟨trivial, hw, trivial⟩) fun _ _ hw => hw
  · simpa only [and_true] using h
  · simpa only [and_true] using hrun target chain e
  · intro begun start bound ready reached result cache cache' after _ hmakes hw _ hpersist
    exact hnote begun start bound ready reached result cache cache' after hmakes hw hpersist

/-- What batches keep of their handlings holds of all handlings of a mutation. -/
theorem forall_handlings {J : CallCache → Chronicled σ → Prop} {P : Handling σ → Prop}
    (hrun : ∀ levels config b, Triple (fun cache w => J cache w ∧ ∀ h ∈ w.handlings, P h)
      (gate.chronicle levels config b) (fun _ cache w => J cache w ∧ ∀ h ∈ w.handlings, P h)
      fun _ w => ∀ h ∈ w.handlings, P h) {s : σ} (hstart : J .empty ⟨s, []⟩)
    (hbegin : ∀ s', gate.persistence.begin s = (.ok (), s') → J .empty ⟨s', []⟩)
    (entityType : String) (chain : Chain) (params : Json) (overrides : CallOptions)
    (frontEnd : FrontEndOptions) :
    ∀ h ∈ gate.handlings entityType chain params overrides frontEnd s, P h := by
  have hopen : ∀ p s, J .empty ⟨s, []⟩ → ∀ h ∈ gate.openHandlings p s, P h := by
    intro p s hs
    have hdone := (hrun (p.batch.levels + gate.addedLevels) p.config p.batch).withoutCache
      ⟨s, []⟩ ⟨hs, by simp⟩
    rw [openHandlings]
    split at hdone
    · rename_i hend
      rw [hend]
      exact hdone.elim fun _ h => h.2
    · rename_i hend
      rw [hend]
      exact hdone
  rw [handlings]
  cases gate.plan entityType chain params overrides frontEnd with
  | error f => simp
  | ok p =>
    dsimp only
    rw [planHandlings]
    split
    · split
      · rename_i s' hopened
        exact hopen p s' (hbegin s' hopened)
      · simp
    · exact hopen p s hstart

end Gate

end EntityGate
