/-
# Gates that run abreast

Two gates run abreast if their steps do: an entity is loaded at both with the same row, an event
is published at both with the same payload, and a record is persisted at both with the same
result.  Where the row comes from is left open, so the two caches may hold different rows.  The
batches may be run under different rules too, as long as the actions that come out of them decide
alike.

If every batch is opened abreast, by actions that decide alike, then all its entries are bound and
written abreast, and so are those of its chain requests, level by level.
-/
import EntityGate.Proofs.Pairing
import EntityGate.Proofs.Steps

namespace EntityGate

open Mutating (ofEffect ofDecision Paired)

/-! ## Actions that decide alike -/

/-- Two actions that decide alike about whatever they are asked. -/
structure Action.Agrees (registry : Registry) (action action' : Action) : Prop where
  entityType : action.entityType = action'.entityType
  chain : action.chain = action'.chain
  node : action.node = action'.node
  checkField : ∀ field, action.checkField registry field = action'.checkField registry field
  relationAllows : ∀ bucket relation target, action.relationAllows registry bucket relation target =
    action'.relationAllows registry bucket relation target
  onField : ∀ field layer v, action.node.field? field = some layer →
    layer.hooks.onField registry (action.fieldContext field) field v =
      layer.hooks.onField registry (action'.fieldContext field) field v
  prepared : ∀ validator (r : EntityRecord),
    r.prepared registry validator action = r.prepared registry validator action'

namespace Action.Agrees

lemma refl (registry : Registry) (action : Action) : action.Agrees registry action :=
  ⟨rfl, rfl, rfl, fun _ => rfl, fun _ _ _ => rfl, fun _ _ _ _ => rfl, fun _ _ => rfl⟩

variable {registry : Registry} {action action' : Action} (h : action.Agrees registry action')
include h

lemma checkAssign (relation : String) (assign : Assign) :
    action.checkAssign registry relation assign = action'.checkAssign registry relation assign := by
  rw [Action.checkAssign, h.relationAllows]
  rfl

lemma openChain (relation name : String) (params : Json) :
    action.openChain registry relation name params =
      action'.openChain registry relation name params := by
  unfold Action.openChain Action.checkChain
  simp only [h.relationAllows]

lemma openEntry (a : Association) (chain : Chain) (e : Entry) :
    action.openEntry registry a chain e = action'.openEntry registry a chain e := by
  unfold Action.openEntry
  simp only [h.checkAssign]

end Action.Agrees

namespace Gate

variable {σ τ : Type}

/-- Two gates whose steps go side by side; what relates their caches and states is `R`, and `fail`
is what relates their states when they end in a fault.  The records that are persisted are those of
chains in `W`. -/
structure Abreast (W : Chain → Prop) (R : CallCache → CallCache → σ → τ → Prop)
    (fail : σ → τ → Prop) (gate : Gate σ) (gate' : Gate τ) : Prop where
  registry : gate.registry = gate'.registry
  validator : gate.validator = gate'.validator
  schema : gate.persistence.schema = gate'.persistence.schema
  fault : ∀ cache cache' s t, R cache cache' s t → fail s t
  load : ∀ entityType id, Paired R fail Eq (gate.load entityType id) (gate'.load entityType id)
  publish : ∀ event ∈ Event.underway, ∀ entityType payload,
    Paired R fail Eq (ofEffect (gate.publish event entityType payload))
      (ofEffect (gate'.publish event entityType payload))
  persist : ∀ {action action' : Action} r, W action.chain →
    action.entityType = action'.entityType → action.chain = action'.chain →
    Paired R fail Eq (gate.persist action r) (gate'.persist action' r)

namespace Abreast

variable {W : Chain → Prop} {R : CallCache → CallCache → σ → τ → Prop} {fail : σ → τ → Prop}
  {gate : Gate σ} {gate' : Gate τ} (h : gate.Abreast W R fail gate')
include h

/-- A decision that both gates take. -/
lemma decide {α : Type} {d d' : Except Fault α} (heq : d = d') :
    Paired R fail Eq (ofDecision d : Mutating σ α) (ofDecision d' : Mutating τ α) :=
  .ofDecision (.of_eq heq) h.fault

lemma throw {α β : Type} {Q : α → β → Prop} (f : Fault) :
    Paired R fail Q (MonadExcept.throw f : Mutating σ α) (MonadExcept.throw f : Mutating τ β) :=
  .throw h.fault f

/-! ## Entries -/

section

variable {action action' : Action} (hactions : action.Agrees gate.registry action')
include hactions

lemma startRecord (e : Entry) :
    Paired R fail Eq (gate.startRecord action e) (gate'.startRecord action' e) := by
  unfold Gate.startRecord
  rw [← hactions.chain, ← hactions.entityType]
  split
  · exact .pure rfl
  · split
    · exact h.throw _
    · exact (h.load _ _).andThen fun row => .pure rfl

lemma bindValue (r : EntityRecord) (field : String) (v : Json) :
    Paired R fail Eq (gate.bindValue action r field v) (gate'.bindValue action' r field v) := by
  unfold Gate.bindValue
  rw [← h.registry, ← hactions.entityType, ← hactions.node]
  refine (h.decide (hactions.checkField field)).andThen fun _ => ?_
  refine (h.publish _ (by decide) _ _).andThen fun payload => ?_
  dsimp only
  split
  · exact .pure rfl
  · rename_i layer hlayer
    exact (h.decide (hactions.onField field layer _ hlayer)).andThen fun w => .pure rfl

section

variable {run : ChainEntry → Mutating σ EntityRecord} {run' : ChainEntry → Mutating τ EntityRecord}
  (hrun : ∀ c, Paired R fail Eq (run c) (run' c))
include hrun

lemma bindRelationWith (a : Association) (r : EntityRecord) (v : Json) :
    Paired R fail Eq (gate.bindRelationWith run action a r v)
      (gate'.bindRelationWith run' action' a r v) := by
  unfold Gate.bindRelationWith Gate.attachRequest Gate.attachEntry
  rw [← h.registry, ← hactions.entityType]
  refine (h.publish _ (by decide) _ _).andThen fun payload => ?_
  dsimp only
  split
  · exact (h.decide (hactions.checkAssign _ _)).andThen fun _ => .pure rfl
  · refine (h.decide rfl).andThen fun requests => .foldlM (fun r request => ?_) requests r
    refine (h.decide (hactions.openChain _ _ _)).andThen fun opened => ?_
    refine .foldlM (fun r e => ?_) opened.2 r
    refine (h.decide (hactions.openEntry _ _ _)).andThen fun entry => ?_
    exact (hrun _).andThen fun child => .pure rfl

lemma bindMemberWith (r : EntityRecord) (field : String) (v : Json) :
    Paired R fail Eq (gate.bindMemberWith run action r field v)
      (gate'.bindMemberWith run' action' r field v) := by
  unfold Gate.bindMemberWith
  rw [← h.schema, ← hactions.entityType, ← hactions.chain]
  split
  · exact h.bindRelationWith hactions hrun _ r v
  · split
    · exact .pure rfl
    · exact h.bindValue hactions r field v

end

lemma bindEntry {run : String → Chain → Entry → Mutating σ EntityRecord}
    {run' : String → Chain → Entry → Mutating τ EntityRecord}
    (hrun : ∀ target chain e, Paired R fail Eq (run target chain e) (run' target chain e))
    (hwrites : W action.chain) (e : Entry) :
    Paired R fail Eq (gate.bindEntry run action e) (gate'.bindEntry run' action' e) := by
  unfold Gate.bindEntry
  rw [← h.registry, ← h.validator, bindMember_eq, bindMember_eq]
  refine (h.startRecord hactions e).andThen fun r => ?_
  refine Paired.andThen ?_ fun r => ?_
  · exact .foldlM (fun r member => h.bindMemberWith hactions
      (fun c => hrun c.association.target c.chain c.entry) r member.1 member.2) e.members r
  · exact (h.decide (hactions.prepared _ r)).andThen fun r =>
      h.persist r hwrites hactions.entityType hactions.chain

end

/-! ## Batches -/

section

variable {C : EntityConfig → EntityConfig → Prop}
  {B : EntityConfig → Batch → EntityConfig → Batch → Prop}
  (hconfig : ∀ target,
    Decision.Pairs C (gate.config.entity target) (gate'.config.entity target))
  (hread : ∀ {config config'}, C config config' → ∀ b,
    config.checkReadChain gate.registry b = config'.checkReadChain gate.registry b)
  (hnested : ∀ {config config'}, C config config' → ∀ target chain e frontEnd,
    B config (.nested target chain e frontEnd) config' (.nested target chain e frontEnd))
include hconfig hread hnested

lemma runEntry {next : EntityConfig → Batch → Mutating σ (List EntityRecord)}
    {next' : EntityConfig → Batch → Mutating τ (List EntityRecord)}
    (hnext : ∀ {config b config' b'}, B config b config' b' →
      Paired R fail Eq (next config b) (next' config' b'))
    (frontEnd : FrontEndOptions) (target : String) (chain : Chain) (e : Entry) :
    Paired R fail Eq (gate.runEntry next frontEnd target chain e)
      (gate'.runEntry next' frontEnd target chain e) := by
  unfold Gate.runEntry
  rw [← h.registry]
  refine Paired.bind (.ofDecision (hconfig target) h.fault) fun config config' hC => ?_
  dsimp only
  split
  · refine (h.decide (hread hC _)).andThen fun _ => ?_
    split
    · exact h.throw _
    · exact (h.load _ _).andThen fun row => .pure rfl
  · refine (hnext (hnested hC target chain e frontEnd)).andThen fun records => ?_
    split
    · exact .pure rfl
    · exact h.throw _

/-- Batches that are opened abreast run abreast. -/
theorem runBatch
    (hopen : ∀ {config b config' b'}, B config b config' b' →
      b.entries = b'.entries ∧ b.frontEnd = b'.frontEnd ∧
      Paired R fail (fun action action' => action.Agrees gate.registry action' ∧ W action.chain)
        (gate.openBatch config b) (gate'.openBatch config' b')) (levels : Nat) :
    ∀ {config b config' b'}, B config b config' b' →
      Paired R fail Eq (gate.runBatch levels config b) (gate'.runBatch levels config' b') := by
  induction levels with
  | zero => exact fun _ => h.throw _
  | succ levels ih =>
    intro config b config' b' hB
    obtain ⟨hentries, hfrontEnd, hopened⟩ := hopen hB
    -- one level is used up for the entries, whose chain requests run at the levels below
    rw [runBatch_succ, runBatch_succ, ← hentries, ← hfrontEnd]
    refine hopened.bind fun action action' hactions => .mapM (fun e => ?_) b.entries
    exact h.bindEntry hactions.1 (h.runEntry hconfig hread hnested ih b.frontEnd) hactions.2 e

end

end Abreast

/-! ## Transactions -/

/-- Transactions go side by side, from what relates their openings, the effects inside and their
ends. -/
lemma inTransaction_paired {α β : Type} {gate : Gate σ} {gate' : Gate τ} {e : Effect σ α}
    {e' : Effect τ β} {pre opened failed fail : σ → τ → Prop} {ran post : α → β → σ → τ → Prop}
    (hbegin : Effect.Paired pre gate.persistence.begin gate'.persistence.begin
      (fun _ _ => opened) fail)
    (he : Effect.Paired opened e e' ran failed)
    (hcommit : ∀ a b, Effect.Paired (ran a b) gate.persistence.commit gate'.persistence.commit
      (fun _ _ => post a b) fail)
    (hrollback : ∀ s t, failed s t →
      fail (gate.persistence.rollback s).2 (gate'.persistence.rollback t).2) :
    Effect.Paired pre (gate.inTransaction e) (gate'.inTransaction e') post fail := by
  -- what the end does depends on the outcome inside, so the rule for binding does not apply
  intro s t hst
  rw [inTransaction_run, inTransaction_run]
  rcases hbegin.outcomes hst with
    ⟨_, _, s₁, t₁, hs, ht, hopened⟩ | ⟨text, s₁, t₁, hs, ht, hfail⟩ <;> rw [hs, ht]
  · rcases he.outcomes hopened with
      ⟨a, b, s₂, t₂, hs, ht, hran⟩ | ⟨f, s₂, t₂, hs, ht, hfailed⟩ <;> dsimp only <;> rw [hs, ht]
    · rcases (hcommit a b).outcomes hran with
        ⟨_, _, s₃, t₃, hs, ht, hpost⟩ | ⟨text, s₃, t₃, hs, ht, hfail⟩ <;> dsimp only <;> rw [hs, ht]
      · exact .returned hpost
      · exact .failed _ hfail
    · exact .failed f (hrollback s₂ t₂ hfailed)
  · exact .failed _ hfail

end Gate

end EntityGate
