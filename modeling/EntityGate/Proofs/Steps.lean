/-
# What the steps of a mutation keep

Whatever a batch asks for, it is run by four kinds of steps: an entity is loaded, the entities of
a type are fetched, an event is passed to its listeners, and a record is persisted.  Between the
steps there are decisions only.  So an assertion about the cache and the state that each of these
steps keeps is kept by every batch, however deep its chain requests are.

Most assertions are about the state alone.  For these it is enough to look at the calls of the
store and at the listeners.
-/
import EntityGate.Proofs.Chains
import EntityGate.Proofs.Plan

namespace EntityGate

namespace Event

/-- The events of a mutation that is under way. -/
def underway : List Event :=
  [beforeSetField, beforeProcessAssociationParams, beforePersist, afterPersist]

/-- The events around the return of a request. -/
def closing : List Event := [beforeToArray, afterToArray]

end Event

namespace Gate

open Mutating

variable {σ : Type} {gate : Gate σ}

/-- Lookups keep `inv`, and where they or a decision fail, `fail` holds. -/
structure KeepsFinds (gate : Gate σ) (inv : CallCache → σ → Prop) (fail : Fault → σ → Prop) :
    Prop where
  load : ∀ entityType id, Triple inv (gate.load entityType id) (fun _ => inv) fail
  fetch : ∀ entityType ids, Triple inv (gate.fetch entityType ids) (fun _ => inv) fail
  fault : ∀ f cache s, inv cache s → fail f s

/-- Lookups and listeners keep `inv`, and where they or a decision fail, `fail` holds. -/
structure KeepsLookups (gate : Gate σ) (inv : CallCache → σ → Prop) (fail : Fault → σ → Prop) :
    Prop where
  load : ∀ entityType id, Triple inv (gate.load entityType id) (fun _ => inv) fail
  fetch : ∀ entityType ids, Triple inv (gate.fetch entityType ids) (fun _ => inv) fail
  publish : ∀ event ∈ Event.underway, ∀ entityType payload,
    Triple inv (ofEffect (gate.publish event entityType payload)) (fun _ => inv) fail
  fault : ∀ f cache s, inv cache s → fail f s

/-- The steps of a mutation keep `inv`, and where they or a decision fail, `fail` holds. -/
structure Keeps (gate : Gate σ) (inv : CallCache → σ → Prop) (fail : Fault → σ → Prop) :
    Prop where
  load : ∀ entityType id, Triple inv (gate.load entityType id) (fun _ => inv) fail
  fetch : ∀ entityType ids, Triple inv (gate.fetch entityType ids) (fun _ => inv) fail
  publish : ∀ event ∈ Event.underway, ∀ entityType payload,
    Triple inv (ofEffect (gate.publish event entityType payload)) (fun _ => inv) fail
  persist : ∀ action r, Triple inv (gate.persist action r) (fun _ => inv) fail
  fault : ∀ f cache s, inv cache s → fail f s

/-- Run a batch as `runBatch` does, each of its entries in the way of `entry`. -/
def runBatchWith (gate : Gate σ) (entry : (String → Chain → Entry → Mutating σ EntityRecord) →
    Action → Entry → Mutating σ EntityRecord) :
    Nat → EntityConfig → Batch → Mutating σ (List EntityRecord)
  | 0, _, _ => throw .nestedTooDeeply
  | levels + 1, config, b => do
    let rules ← Mutating.ofDecision (config.mutationRules b.chain)
    let action := Action.ofBatch rules b
    Mutating.ofDecision (action.checkAllowed gate.registry)
    Mutating.ofDecision (action.checkSize gate.registry (b.batchMax rules) b.entries.length)
    let wanted ← Mutating.ofDecision (Resolve.findBool? gate.registry action.ctx
      "prePopulateEntities" (b.layers rules "prePopulateEntities"))
    if wanted.getD true then gate.prefetch b
    b.entries.mapM (entry (gate.runEntry (gate.runBatchWith entry levels) b.frontEnd) action)

lemma runBatchWith_bindEntry (levels : Nat) :
    gate.runBatchWith gate.bindEntry levels = gate.runBatch levels := by
  induction levels with
  | zero => rfl
  | succ levels ih =>
    funext config b
    rw [runBatchWith, ih]
    rfl

lemma runBatchWith_succ (entry : (String → Chain → Entry → Mutating σ EntityRecord) → Action →
      Entry → Mutating σ EntityRecord) (levels : Nat) (config : EntityConfig) (b : Batch) :
    gate.runBatchWith entry (levels + 1) config b = (do
      let action ← gate.openBatch config b
      b.entries.mapM
        (entry (gate.runEntry (gate.runBatchWith entry levels) b.frontEnd) action)) := by
  rw [openBatch_bind, runBatchWith]

/-- Open a batch, and look up in advance what it refers to by `prefetch`. -/
def openBatchWith (gate : Gate σ) (prefetch : Batch → Mutating σ Unit) (config : EntityConfig)
    (b : Batch) : Mutating σ Action := do
  let rules ← Mutating.ofDecision (config.mutationRules b.chain)
  let action := Action.ofBatch rules b
  Mutating.ofDecision (action.checkAllowed gate.registry)
  Mutating.ofDecision (action.checkSize gate.registry (b.batchMax rules) b.entries.length)
  let wanted ← Mutating.ofDecision (Resolve.findBool? gate.registry action.ctx
    "prePopulateEntities" (b.layers rules "prePopulateEntities"))
  if wanted.getD true then prefetch b
  return action

lemma openBatch_eq : gate.openBatch = gate.openBatchWith gate.prefetch := rfl

/-- What holds after a batch was opened, from what holds after its lookups in advance; it holds
before if these are not wanted. -/
lemma openBatchWith_of_prefetch {prefetch : Batch → Mutating σ Unit}
    {pre post : CallCache → σ → Prop} {fail : Fault → σ → Prop} {config : EntityConfig} {b : Batch}
    (hfault : ∀ f cache s, pre cache s → fail f s)
    (hprefetch : Triple pre (prefetch b) (fun _ => post) fail)
    (hskip : ∀ rules wanted, config.mutationRules b.chain = .ok rules →
      Resolve.findBool? gate.registry (Action.ofBatch rules b).ctx "prePopulateEntities"
        (b.layers rules "prePopulateEntities") = .ok wanted → wanted.getD true = false →
      ∀ cache s, pre cache s → post cache s) :
    Triple pre (gate.openBatchWith prefetch config b) (fun action cache s =>
      (∃ rules, config.mutationRules b.chain = .ok rules ∧ action = Action.ofBatch rules b ∧
        action.checkAllowed gate.registry = .ok ()) ∧ post cache s) fail := by
  refine (Triple.decided hfault).bind fun rules => .of_fact fun hrules => ?_
  refine (Triple.decided hfault).bind fun _ => .of_fact fun hallowed => ?_
  refine (Triple.decided hfault).bind fun _ => .of_fact fun _ => ?_
  refine (Triple.decided hfault).bind fun wanted => .of_fact fun hwanted => ?_
  dsimp only
  split
  · exact hprefetch.bind fun _ => .pure fun _ _ hs => ⟨⟨rules, hrules, rfl, hallowed⟩, hs⟩
  · rename_i hoff
    refine .pure fun cache s hs => ⟨⟨rules, hrules, rfl, hallowed⟩, ?_⟩
    exact hskip rules wanted hrules hwanted (by simpa using hoff) cache s hs

namespace KeepsFinds

variable {inv : CallCache → σ → Prop} {fail : Fault → σ → Prop} (h : gate.KeepsFinds inv fail)
include h

lemma throw {α : Type} (f : Fault) :
    Triple inv (MonadExcept.throw f : Mutating σ α) (fun _ => inv) fail :=
  .throw (h.fault f)

lemma ofDecision {α : Type} (d : Except Fault α) :
    Triple inv (Mutating.ofDecision d) (fun _ => inv) fail :=
  (Triple.decided h.fault).weaken (fun _ _ hs => hs) (fun _ _ _ hs => hs.2) fun _ _ hs => hs

lemma prefetch (b : Batch) : Triple inv (gate.prefetch b) (fun _ => inv) fail := by
  unfold Gate.prefetch
  split
  · exact h.throw _
  · exact .forM fun entry _ => h.fetch entry.1 entry.2

/-- A batch that is opened has an action that follows from the rules of its chain and is allowed. -/
lemma openBatch (config : EntityConfig) (b : Batch) :
    Triple inv (gate.openBatch config b) (fun action cache s =>
      (∃ rules, config.mutationRules b.chain = .ok rules ∧ action = Action.ofBatch rules b ∧
        action.checkAllowed gate.registry = .ok ()) ∧ inv cache s) fail :=
  openBatchWith_of_prefetch h.fault (h.prefetch b) fun _ _ _ _ _ _ _ hs => hs

lemma startRecord (action : Action) (e : Entry) :
    Triple inv (gate.startRecord action e) (fun _ => inv) fail := by
  unfold Gate.startRecord
  split
  · exact .keep _
  · split
    · exact h.throw _
    · exact (h.load _ _).bind fun row => .keep _

lemma mono {fail' : Fault → σ → Prop} (hfail : ∀ f s, fail f s → fail' f s) :
    gate.KeepsFinds inv fail' where
  load entityType id := (h.load entityType id).weaken (fun _ _ hs => hs) (fun _ _ _ hs => hs) hfail
  fetch entityType ids :=
    (h.fetch entityType ids).weaken (fun _ _ hs => hs) (fun _ _ _ hs => hs) hfail
  fault f cache s hs := hfail f s (h.fault f cache s hs)

end KeepsFinds

namespace KeepsLookups

variable {inv : CallCache → σ → Prop} {fail : Fault → σ → Prop}

section

variable (h : gate.KeepsLookups inv fail)
include h

lemma finds : gate.KeepsFinds inv fail where
  load := h.load
  fetch := h.fetch
  fault := h.fault

lemma startRecord (action : Action) (e : Entry) :
    Triple inv (gate.startRecord action e) (fun _ => inv) fail := h.finds.startRecord action e

lemma bindValue (action : Action) (r : EntityRecord) (field : String) (v : Json) :
    Triple inv (gate.bindValue action r field v) (fun _ => inv) fail := by
  refine (h.finds.ofDecision _).bind fun _ => ?_
  refine (h.publish _ (by decide) _ _).bind fun payload => ?_
  dsimp only
  split
  · exact .keep _
  · exact (h.finds.ofDecision _).bind fun w => .keep _

section

variable {run : String → Chain → Entry → Mutating σ EntityRecord}
  (hrun : ∀ target chain e, Triple inv (run target chain e) (fun _ => inv) fail)
include hrun

lemma bindRelation (action : Action) (a : Association) (r : EntityRecord) (v : Json) :
    Triple inv (gate.bindRelation run action a r v) (fun _ => inv) fail := by
  rw [bindRelation_eq]
  refine (bindRelationWith_triple (I := fun _ _ => inv) (P := fun _ => True) (fun _ _ => h.fault)
    (fun _ _ c _ _ => hrun c.association.target c.chain c.entry)
    ((h.publish _ (by decide) _ _).weaken (fun _ _ hs => hs) (fun _ _ _ hs => ⟨trivial, hs⟩)
      fun _ _ hs => hs) fun _ _ hs _ => hs).weaken (fun _ _ hs => hs) ?_ fun _ _ hs => hs
  exact fun _ _ _ ⟨_, _, _, _, hs⟩ => hs

lemma bindMember (action : Action) (r : EntityRecord) (field : String) (v : Json) :
    Triple inv (gate.bindMember run action r field v) (fun _ => inv) fail := by
  unfold Gate.bindMember
  split
  · exact h.bindRelation hrun action _ r v
  · split
    · exact .keep r
    · exact h.bindValue action r field v

lemma bindMembers (action : Action) (members : List (String × Json)) (r : EntityRecord) :
    Triple inv (members.foldlM (fun r (field, v) => gate.bindMember run action r field v) r)
      (fun _ => inv) fail :=
  .foldlM (I := fun _ => inv) (fun r member _ => h.bindMember hrun action r member.1 member.2) r

end

lemma runEntry {next : EntityConfig → Batch → Mutating σ (List EntityRecord)}
    (hnext : ∀ config b, Triple inv (next config b) (fun _ => inv) fail)
    (frontEnd : FrontEndOptions) (target : String) (chain : Chain) (e : Entry) :
    Triple inv (gate.runEntry next frontEnd target chain e) (fun _ => inv) fail := by
  refine (h.finds.ofDecision _).bind fun config => ?_
  dsimp only
  split
  · refine (h.finds.ofDecision _).bind fun _ => ?_
    split
    · exact h.finds.throw _
    · exact (h.load _ _).bind fun row => .keep _
  · refine (hnext config _).bind fun records => ?_
    split
    · exact .keep _
    · exact h.finds.throw _

/-- What lookups keep and each entry keeps if the entries nested in it do, every batch keeps.  An
entry whose action reads is never bound. -/
theorem runBatchWith {entry : (String → Chain → Entry → Mutating σ EntityRecord) → Action →
      Entry → Mutating σ EntityRecord}
    (hentry : ∀ levels frontEnd action e, action.chain ≠ .read →
      (∀ target chain e, Triple inv
        (gate.runEntry (gate.runBatchWith entry levels) frontEnd target chain e) (fun _ => inv)
        fail) →
      Triple inv (entry (gate.runEntry (gate.runBatchWith entry levels) frontEnd) action e)
        (fun _ => inv) fail) (levels : Nat) :
    ∀ config b, Triple inv (gate.runBatchWith entry levels config b) (fun _ => inv) fail := by
  induction levels with
  | zero =>
    intro config b
    exact h.finds.throw _
  | succ levels ih =>
    intro config b
    rw [runBatchWith_succ]
    refine (h.finds.openBatch config b).bind fun action => .of_fact ?_
    rintro ⟨rules, hrules, rfl, -⟩
    have hread := EntityConfig.chain_ne_read hrules
    -- the rule for `mapM` counts the records too, which does not matter here
    exact (Triple.mapM fun e _ => hentry levels b.frontEnd (Action.ofBatch rules b) e hread
      (h.runEntry ih b.frontEnd)).weaken (fun _ _ hs => hs) (fun _ _ _ hs => hs.2)
      fun _ _ hs => hs

end

end KeepsLookups

namespace Keeps

variable {inv : CallCache → σ → Prop} {fail : Fault → σ → Prop} (h : gate.Keeps inv fail)
include h

lemma lookups : gate.KeepsLookups inv fail where
  load := h.load
  fetch := h.fetch
  publish := h.publish
  fault := h.fault

lemma bindEntry {run : String → Chain → Entry → Mutating σ EntityRecord}
    (hrun : ∀ target chain e, Triple inv (run target chain e) (fun _ => inv) fail)
    (action : Action) (e : Entry) :
    Triple inv (gate.bindEntry run action e) (fun _ => inv) fail := by
  refine (h.lookups.startRecord action e).bind fun r => ?_
  refine (h.lookups.bindMembers hrun action e.members r).bind fun r => ?_
  exact (h.lookups.finds.ofDecision _).bind fun r => h.persist action r

/-- What the steps of a mutation keep, every batch keeps. -/
theorem runBatch (levels : Nat) (config : EntityConfig) (b : Batch) :
    Triple inv (gate.runBatch levels config b) (fun _ => inv) fail := by
  rw [← runBatchWith_bindEntry]
  exact h.lookups.runBatchWith (fun _ _ action e _ hrun => h.bindEntry hrun action e) levels
    config b

end Keeps

/-! ## Assertions about the state -/

/-- A computation keeps an assertion about the state, whatever comes out of it. -/
def StateKept {ε α : Type} (I : σ → Prop) (run : ExceptT ε (StateM σ) α) : Prop :=
  ∀ s, I s → I (run s).2

/-- The store and the listeners of a mutation that is under way keep an assertion about the
state. -/
structure KeepsState (gate : Gate σ) (I : σ → Prop) : Prop where
  findIn : ∀ entityType ids, StateKept I (gate.persistence.findIn entityType ids)
  insert : ∀ r, StateKept I (gate.persistence.insert r)
  update : ∀ r, StateKept I (gate.persistence.update r)
  remove : ∀ r, StateKept I (gate.persistence.remove r)
  listener : ∀ l ∈ gate.events, ∀ event ∈ Event.underway, ∀ entityType payload,
    StateKept I (l.listener event entityType payload)

lemma StateKept.effect {α : Type} {I : σ → Prop} {e : Effect σ α} (h : StateKept I e) :
    Effect.Triple I e (fun _ => I) fun _ => I := by
  intro s hs
  have hrun := h s hs
  cases hes : e s with
  | mk result s' =>
    rw [hes] at hrun
    cases result <;> exact hrun

/-- What an effect establishes in either case, it keeps. -/
lemma StateKept.of_triple {α : Type} {I : σ → Prop} {e : Effect σ α}
    (h : Effect.Triple I e (fun _ => I) fun _ => I) : StateKept I e := by
  intro s hs
  have hrun := h s hs
  cases hes : e s with
  | mk result s' =>
    rw [hes] at hrun
    cases result <;> exact hrun

lemma StateKept.store {α : Type} {I : σ → Prop} {call : StoreCall σ α} (h : StateKept I call) :
    Effect.Triple I (Effect.ofStore call) (fun _ => I) fun _ => I := by
  refine .ofStore fun s hs => ?_
  have hrun := h s hs
  cases hcall : call s with
  | mk result s' =>
    rw [hcall] at hrun
    cases result <;> exact hrun

/-- A transaction keeps what holds inside as long as its opening and its ends do. -/
lemma inTransaction_keeps {α : Type} {e : Effect σ α} {pre fail : σ → Prop} {post : α → σ → Prop}
    (hpre : ∀ s, pre s → fail s) (hpost : ∀ a s, post a s → fail s)
    (hbegin : StateKept pre gate.persistence.begin) (he : Effect.Triple pre e post fun _ => fail)
    (hcommit : ∀ a, StateKept (post a) gate.persistence.commit)
    (hrollback : StateKept fail gate.persistence.rollback) :
    Effect.Triple pre (gate.inTransaction e) post fun _ => fail := by
  refine inTransaction_triple (fun s hs => ?_) he (fun a s hs => ?_) fun _ s hs => hrollback s hs
  · have hopened := hbegin s hs
    cases hrun : gate.persistence.begin s with
    | mk result s' =>
      rw [hrun] at hopened
      cases result with
      | ok _ => exact hopened
      | error text => exact hpre s' hopened
  · have hclosed := hcommit a s hs
    cases hrun : gate.persistence.commit s with
    | mk result s' =>
      rw [hrun] at hclosed
      cases result with
      | ok _ => exact hclosed
      | error text => exact hpost a s' hclosed

/-- Lookups keep what the store keeps when it looks something up. -/
lemma keepsFinds_of_findIn {I : σ → Prop}
    (hfindIn : ∀ entityType ids, StateKept I (gate.persistence.findIn entityType ids)) :
    gate.KeepsFinds (fun _ => I) fun _ => I where
  load entityType id := by
    refine .bind (m := fun _ _ => I) (.getCache fun _ _ hs => hs) fun cache => ?_
    split
    · exact .keep _
    · refine .bind (m := fun _ _ => I)
        (.ofEffect fun _ => (hfindIn entityType [id]).store) fun rows => ?_
      split
      · exact .bind (m := fun _ _ => I) (.modifyCache fun _ _ hs => hs) fun _ => .keep _
      · exact .throw fun _ _ hs => hs
  fetch entityType ids := by
    refine .bind (m := fun _ _ => I) (.getCache fun _ _ hs => hs) fun cache => ?_
    split
    · exact .keep _
    · exact .bind (m := fun _ _ => I)
        (.ofEffect fun _ => (hfindIn entityType _).store) fun rows => .modifyCache fun _ _ hs => hs
  fault _ _ _ hs := hs

/-- An event keeps what its listeners keep. -/
lemma publish_keeps {I : σ → Prop} {event : Event}
    (hlistener : ∀ l ∈ gate.events, ∀ entityType payload,
      StateKept I (l.listener event entityType payload)) (entityType : String) (payload : Json) :
    Effect.Triple I (gate.publish event entityType payload) (fun _ => I) fun _ => I := by
  refine .foldlM (I := fun _ => I) (fun payload l hl => ?_) payload
  exact (hlistener l (List.mem_filter.mp hl).1 entityType payload).effect

/-- The events around the return keep what their listeners keep. -/
lemma toArray_keeps {I : σ → Prop}
    (hlistener : ∀ l ∈ gate.events, ∀ event ∈ Event.closing, ∀ entityType payload,
      StateKept I (l.listener event entityType payload)) (entityType : String)
    (rows : List Json) :
    Effect.Triple I (gate.toArray entityType rows) (fun _ => I) fun _ => I := by
  have hpublish : ∀ event ∈ Event.closing, ∀ payload,
      Effect.Triple I (gate.publish event entityType payload) (fun _ => I) fun _ => I :=
    fun event hevent => publish_keeps (fun l hl => hlistener l hl event hevent) entityType
  exact (hpublish _ (by decide) _).bind fun _ =>
    (hpublish _ (by decide) _).bind fun _ => .pure fun _ hs => hs

/-- Writing a record keeps what the store call of its chain keeps. -/
lemma writeRecord_kept {I : σ → Prop} {chain : Chain} {r : EntityRecord}
    (hinsert : chain = .create → StateKept I (gate.persistence.insert r))
    (hupdate : chain = .update → StateKept I (gate.persistence.update r))
    (hremove : chain = .delete → StateKept I (gate.persistence.remove r)) :
    StateKept I (gate.writeRecord chain r) := by
  intro s hs
  cases chain with
  | create => exact hinsert rfl s hs
  | update => exact hupdate rfl s hs
  | read => exact hs
  | delete =>
    have hremoved := hremove rfl s hs
    rw [Gate.writeRecord, Effect.run_bind]
    cases hrun : gate.persistence.remove r s with
    | mk result s' =>
      rw [hrun] at hremoved
      cases result <;> exact hremoved

/-- Persisting a record keeps what its two events and its write keep; the listeners of the first one
may replace its fields. -/
lemma persist_keeps {I : σ → Prop} {action : Action} {r : EntityRecord}
    (hbefore : ∀ payload, Effect.Triple I
      (gate.publish .beforePersist action.entityType payload) (fun _ => I) fun _ => I)
    (hafter : ∀ payload, Effect.Triple I
      (gate.publish .afterPersist action.entityType payload) (fun _ => I) fun _ => I)
    (hwrite : ∀ fields, StateKept I (gate.writeRecord action.chain { r with fields })) :
    Triple (fun _ => I) (gate.persist action r) (fun _ _ => I) fun _ => I := by
  refine .bind (m := fun _ _ => I) (.ofEffect fun _ => hbefore _) fun payload => ?_
  refine .bind (m := fun _ _ => I) (.ofEffect fun _ => StateKept.store ?_) fun row => ?_
  · split
    · exact hwrite _
    · exact hwrite r.fields
  refine .bind (m := fun _ _ => I) (.modifyCache fun _ _ hs => hs) fun _ => ?_
  exact .bind (m := fun _ _ => I) (.ofEffect fun _ => hafter _) fun _ => .keep _

namespace KeepsState

variable {I : σ → Prop} (h : gate.KeepsState I)
include h

lemma publish {event : Event} (hevent : event ∈ Event.underway) (entityType : String)
    (payload : Json) :
    Effect.Triple I (gate.publish event entityType payload) (fun _ => I) fun _ => I :=
  publish_keeps (fun l hl entityType payload => h.listener l hl event hevent entityType payload)
    entityType payload

lemma writeRecord (chain : Chain) (r : EntityRecord) :
    StateKept I (gate.writeRecord chain r) :=
  writeRecord_kept (fun _ => h.insert r) (fun _ => h.update r) fun _ => h.remove r

/-- The steps of a mutation keep what its store and its listeners keep. -/
theorem keeps : gate.Keeps (fun _ => I) fun _ => I where
  load := (keepsFinds_of_findIn h.findIn).load
  fetch := (keepsFinds_of_findIn h.findIn).fetch
  publish event hevent entityType payload := .ofEffect fun _ => h.publish hevent entityType payload
  persist action r := persist_keeps (fun payload => h.publish (by decide) _ payload)
    (fun payload => h.publish (by decide) _ payload) fun _ => h.writeRecord _ _
  fault _ _ _ hs := hs

/-- A batch that is run and flushed keeps what the store, its flush and the listeners keep. -/
theorem runAndFlush (hflush : StateKept I gate.persistence.flush) (config : EntityConfig)
    (b : Batch) (flush : Bool) :
    Effect.Triple I (gate.runAndFlush config b flush) (fun _ => I) fun _ => I := by
  have hrun := (h.keeps.runBatch (b.levels + gate.addedLevels) config b).withoutCache
  refine Effect.Triple.bind (hrun.weaken (fun _ hs => hs) (fun _ _ hs => hs.elim fun _ hI => hI)
    fun _ _ hs => hs) fun records => ?_
  dsimp only
  split
  · exact Effect.Triple.bind hflush.store fun _ => .pure fun _ hs => hs
  · exact .pure fun _ hs => hs

end KeepsState

end Gate

end EntityGate
