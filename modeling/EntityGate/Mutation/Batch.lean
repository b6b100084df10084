/-
# Batches and actions

A batch is a mutation of some entities of one type: what happens to them, the params that
settings see, the entries, and the options of the call.  A chain request on a relation leads to
nested batches of one entry, which run without a transaction, a flush or a limit of their own.
An action is a batch seen by its checks: the permissions it is asked against and the context in
which settings are resolved.
-/
import EntityGate.Config.Document
import EntityGate.Mutation.Entry
import EntityGate.Query.FrontEnd

namespace EntityGate

/-- A mutation of some entities of one type. -/
structure Batch where
  entityType : String
  chain : Chain
  /-- The params that settings see. -/
  params : Json
  entries : List Entry
  overrides : CallOptions
  frontEnd : FrontEndOptions

/-- What the checks of a batch are asked against. -/
structure Action where
  entityType : String
  chain : Chain
  /-- The configured permissions with those of the call on top. -/
  node : Node
  ctx : Context

namespace Batch

/-- The options of every nested batch. -/
def nestedOverrides : CallOptions :=
  ((CallOptions.withOption default "transaction" (.literal (.bool false))).withOption
    "flush" (.literal (.bool false))).withOption "batchMax" (.literal .null)

/-- The batch of an entry that a chain request leads to. -/
def nested (entityType : String) (chain : Chain) (entry : Entry) (frontEnd : FrontEndOptions) :
    Batch :=
  ⟨entityType, chain, .obj entry.fields, [entry], nestedOverrides, frontEnd⟩

/-- The number of levels of chain requests in a batch, or more: each level takes up nesting of
the fields, but for a bare id, which stands for one more level. -/
def levels (b : Batch) : Nat :=
  (b.entries.map fun e => Json.depthFields e.fields).foldl max 0 + 3

/-- The layers of a setting: the options of the call, then those of the configuration. -/
def layers (b : Batch) (rules : MutationRules) (key : String) : List Setting? :=
  [b.overrides.get? key, rules.options.get? key]

/-- The setting of the greatest size: that of the call wins also when it is `null`, which lifts
the limit. -/
def batchMax (b : Batch) (rules : MutationRules) : Setting? :=
  b.overrides.get? "batchMax" <|> rules.options.get? "batchMax"

end Batch

namespace Action

/-- The action of a batch under the rules of its mutation. -/
def ofBatch (rules : MutationRules) (b : Batch) : Action where
  entityType := b.entityType
  chain := b.chain
  node := match b.overrides.mutationPermissions with
    | some top => rules.permissions.merge top
    | none => rules.permissions
  ctx := .ofCall b.params (.writeTable Setting.toJson rules.options) b.overrides.toJson
    b.frontEnd.toJson

/-- The context of the checks of a field. -/
def fieldContext (action : Action) (field : String) : Context :=
  action.ctx.withExtra "field" (.str field)

end Action

/-- The rules of a chain, which has to be a mutation. -/
def EntityConfig.mutationRules (config : EntityConfig) (chain : Chain) :
    Except Fault MutationRules :=
  match config.mutation? chain.name with
  | some rules => .ok rules
  | none => .error (.invalidParams (.notAMutation chain.name))

end EntityGate
