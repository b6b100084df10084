/-
# Verification

Before a mutation touches the store, the whole batch is walked with all chain requests in it,
and every check that does not depend on the store is asked.  The walk goes down one level of
chain requests at a time.
-/
import EntityGate.Gate.Basic
import EntityGate.Mutation.Checks

namespace EntityGate

namespace Rules

variable (rules : Rules)

/-- Verify the value of a relation; `next` verifies the batches it leads to. -/
def verifyRelation (next : EntityConfig → Batch → Except Fault Unit) (action : Action)
    (frontEnd : FrontEndOptions) (a : Association) (v : Json) : Except Fault Unit := do
  if v.isNull then action.checkAssign rules.registry a.name .setNull
  else
    let target ← rules.config.entity a.target
    (← chainRequests a.name v).forM fun (name, params) => do
      let (chain, entries) ← action.openChain rules.registry a.name name params
      entries.forM fun e => do
        let (_, e) ← action.openEntry rules.registry a chain e
        next target (.nested a.target chain e frontEnd)

/-- Verify a member of an entry: a chain request if its field is a relation, else a value. -/
def verifyMember (next : EntityConfig → Batch → Except Fault Unit) (action : Action)
    (frontEnd : FrontEndOptions) (field : String) (v : Json) : Except Fault Unit :=
  match rules.schema.association? action.entityType field with
  | some a => rules.verifyRelation next action frontEnd a v
  | none =>
    if action.chain = .delete then .ok () else action.checkField rules.registry field

/-- Verify an entry. -/
def verifyEntry (next : EntityConfig → Batch → Except Fault Unit) (action : Action)
    (frontEnd : FrontEndOptions) (e : Entry) : Except Fault Unit := do
  if action.chain ≠ .create ∧ e.id.isNone then
    throw (.invalidParams (.unidentified action.chain.name action.entityType))
  else e.members.forM fun (field, v) => rules.verifyMember next action frontEnd field v

/-- Verify a batch that reads. -/
def verifyRead (config : EntityConfig) (b : Batch) : Except Fault Unit := do
  if b.entries.any fun e => e.id.isNone then
    throw (.invalidParams (.unidentified Chain.read.name b.entityType))
  else config.checkReadChain rules.registry b

/-- Verify a batch down to some number of levels. -/
def verify : Nat → EntityConfig → Batch → Except Fault Unit
  | 0, _, _ => .error .nestedTooDeeply
  | levels + 1, config, b => do
    if b.chain = .read then rules.verifyRead config b
    else
      let mutationRules ← config.mutationRules b.chain
      let action := Action.ofBatch mutationRules b
      action.checkAllowed rules.registry
      action.checkSize rules.registry (b.batchMax mutationRules) b.entries.length
      b.entries.forM (rules.verifyEntry (verify levels) action b.frontEnd)

end Rules

end EntityGate
