/-
# The plan of a mutation

A mutation falls into a plan and what is done about it.  The plan is made without the store: the
configuration of the type, the batch that the params describe, verified as a whole, and whether
the batch runs in a transaction and is flushed.  Then the batch is run, and what it returns is
shown to the listeners around the return.
-/
import EntityGate.Gate.Mutate
import EntityGate.Proofs.Decision
import EntityGate.Proofs.Triple

namespace EntityGate

open Decision

namespace Effect

variable {σ α β : Type}

lemma ofExcept_ok (a : α) : (Effect.ofExcept (.ok a) : Effect σ α) = pure a := rfl

/-- Decisions that are taken one after the other are one decision. -/
lemma ofExcept_bind (d : Except Fault α) (next : α → Except Fault β) :
    (Effect.ofExcept (d >>= next) : Effect σ β) =
      Effect.ofExcept d >>= fun a => Effect.ofExcept (next a) := by
  cases d <;> rfl

end Effect

/-- There are no rules for reading. -/
lemma EntityConfig.chain_ne_read {config : EntityConfig} {chain : Chain} {rules : MutationRules}
    (h : config.mutationRules chain = .ok rules) : chain ≠ .read := by
  rintro rfl
  cases h

/-- What is decided about a mutation before it runs. -/
structure Plan where
  config : EntityConfig
  batch : Batch
  /-- Whether the batch runs in a transaction. -/
  transaction : Bool
  /-- Whether the batch is flushed at its end. -/
  flush : Bool

namespace Gate

variable {σ : Type} (gate : Gate σ)

/-- The plan of a mutation. -/
def plan (entityType : String) (chain : Chain) (params : Json) (overrides : CallOptions)
    (frontEnd : FrontEndOptions) : Except Fault Plan := do
  let config ← gate.config.entity entityType
  let b ← gate.batchOf entityType chain params overrides frontEnd
  let _ ← config.mutationRules chain
  gate.rules.verify b.levels config b
  let (transaction, flush) ← gate.transactionSettings config b
  return ⟨config, b, transaction, flush⟩

/-- Run a plan. -/
def perform (p : Plan) : Effect σ (List EntityRecord) :=
  if p.transaction then gate.inTransaction (gate.runAndFlush p.config p.batch p.flush)
  else gate.runAndFlush p.config p.batch p.flush

/-- A mutation makes its plan, runs it, and shows what it returns to the listeners. -/
theorem mutate_eq (entityType : String) (chain : Chain) (params : Json)
    (overrides : CallOptions) (frontEnd : FrontEndOptions) :
    gate.mutate entityType chain params overrides frontEnd = (do
      let p ← Effect.ofExcept (gate.plan entityType chain params overrides frontEnd)
      let records ← gate.perform p
      let _ ← gate.toArray entityType (records.map EntityRecord.toRow)
      return records) := by
  simp only [mutate, plan, Effect.ofExcept_bind, bind_assoc, Effect.ofExcept_ok, pure_eq_ok,
    pure_bind, perform]
  refine bind_congr fun config => bind_congr fun b => bind_congr fun _ => bind_congr fun _ =>
    bind_congr fun settings => ?_
  split <;> rfl

/-- What a plan leads to: it is run, and the listeners are shown what it returns. -/
def carryOut (entityType : String) (p : Plan) : Effect σ (List EntityRecord) := do
  let records ← gate.perform p
  let _ ← gate.toArray entityType (records.map EntityRecord.toRow)
  return records

/-- A mutation without a plan leaves the state alone. -/
lemma mutate_run (entityType : String) (chain : Chain) (params : Json)
    (overrides : CallOptions) (frontEnd : FrontEndOptions) (s : σ) :
    gate.mutate entityType chain params overrides frontEnd s =
      match gate.plan entityType chain params overrides frontEnd with
      | .ok p => gate.carryOut entityType p s
      | .error f => (.error f, s) := by
  rw [mutate_eq, Effect.run_bind]
  cases gate.plan entityType chain params overrides frontEnd <;> rfl

variable {gate}

/-- The batch of a mutation is one of its type and its chain. -/
lemma batchOf_kind {entityType : String} {chain : Chain} {params : Json}
    {overrides : CallOptions} {frontEnd : FrontEndOptions} {b : Batch}
    (h : gate.batchOf entityType chain params overrides frontEnd = .ok b) :
    b.entityType = entityType ∧ b.chain = chain := by
  unfold batchOf at h
  dsimp only at h
  -- the params are taken as they are or in simplified form
  split at h
  all_goals
    obtain ⟨params, -, h⟩ := bind_eq_ok.mp h
    obtain ⟨entries, -, h⟩ := bind_eq_ok.mp h
    cases h
    exact ⟨rfl, rfl⟩

/-- The plan of a mutation holds the configuration of its type and the batch of its params. -/
lemma plan_parts {entityType : String} {chain : Chain} {params : Json} {overrides : CallOptions}
    {frontEnd : FrontEndOptions} {p : Plan}
    (h : gate.plan entityType chain params overrides frontEnd = .ok p) :
    gate.config.entity entityType = .ok p.config ∧
      gate.batchOf entityType chain params overrides frontEnd = .ok p.batch := by
  simp only [plan, bind_eq_ok] at h
  obtain ⟨config, hconfig, b, hbatch, rules, -, ⟨⟩, -, settings, -, h⟩ := h
  cases h
  exact ⟨hconfig, hbatch⟩

/-- The plan of a mutation holds a batch of its chain, which is no read, and the batch has
passed verification. -/
theorem plan_eq_ok {entityType : String} {chain : Chain} {params : Json}
    {overrides : CallOptions} {frontEnd : FrontEndOptions} {p : Plan}
    (h : gate.plan entityType chain params overrides frontEnd = .ok p) :
    p.batch.chain = chain ∧ chain ≠ .read ∧
      gate.rules.verify p.batch.levels p.config p.batch = .ok () := by
  have hbatch := (plan_parts h).2
  simp only [plan, bind_eq_ok] at h
  obtain ⟨config, -, b, -, rules, hrules, ⟨⟩, hverify, settings, -, h⟩ := h
  cases h
  exact ⟨(batchOf_kind hbatch).2, EntityConfig.chain_ne_read hrules, hverify⟩

/-! ## Transactions -/

/-- What a transaction comes to, step by step. -/
lemma inTransaction_run {α : Type} (e : Effect σ α) (s : σ) :
    gate.inTransaction e s = match gate.persistence.begin s with
      | (.error text, s) => (.error (.execution text), s)
      | (.ok _, s) => match e s with
        | (.error f, s) => (.error f, (gate.persistence.rollback s).2)
        | (.ok a, s) => match gate.persistence.commit s with
          | (.error text, s) => (.error (.execution text), s)
          | (.ok _, s) => (.ok a, s) := by
  rw [inTransaction, Effect.run_bind, Effect.ofStore]
  cases gate.persistence.begin s with
  | mk opened s₁ =>
    cases opened with
    | error text => rfl
    | ok _ =>
      dsimp only
      cases e s₁ with
      | mk result s₂ =>
        cases result with
        | error f => rfl
        | ok a =>
          dsimp only
          rw [Effect.run_bind, Effect.ofStore]
          cases gate.persistence.commit s₂ with
          | mk closed s₃ => cases closed <;> rfl

/-- What holds of a transaction, from what holds of its opening, of the effect inside and of its
end. -/
lemma inTransaction_triple {α : Type} {e : Effect σ α} {pre opened : σ → Prop}
    {ran post : α → σ → Prop} {failed fail : Fault → σ → Prop}
    (hbegin : ∀ s, pre s → match gate.persistence.begin s with
      | (.ok _, s') => opened s'
      | (.error text, s') => fail (.execution text) s')
    (he : Effect.Triple opened e ran failed)
    (hcommit : ∀ a s, ran a s → match gate.persistence.commit s with
      | (.ok _, s') => post a s'
      | (.error text, s') => fail (.execution text) s')
    (hrollback : ∀ f s, failed f s → fail f (gate.persistence.rollback s).2) :
    Effect.Triple pre (gate.inTransaction e) post fail := by
  intro s hs
  have h₁ := hbegin s hs
  rw [inTransaction_run]
  cases hopen : gate.persistence.begin s with
  | mk opened s₁ =>
    rw [hopen] at h₁
    cases opened with
    | error text => exact h₁
    | ok _ =>
      have h₂ := he s₁ h₁
      dsimp only
      cases hrun : e s₁ with
      | mk result s₂ =>
        rw [hrun] at h₂
        cases result with
        | error f => exact hrollback f s₂ h₂
        | ok a =>
          have h₃ := hcommit a s₂ h₂
          dsimp only
          cases hclose : gate.persistence.commit s₂ with
          | mk closed s₃ =>
            rw [hclose] at h₃
            cases closed with
            | error text => exact h₃
            | ok _ => exact h₃

end Gate

end EntityGate
