/-
# Permission layers

A permission question is asked of two layers: an aggregate node, and the field layer below it
if the configuration has one.  Both layers have an `allowed` and a `permissive` flag, four
buckets that answer for named targets, and hooks on values.  `merge` puts an override layer on
top: what it sets wins, and what it leaves open stays.
-/
import EntityGate.Setting.Resolve
import EntityGate.Table

namespace EntityGate

/-- The rules that the values of an entity are validated by. -/
structure Validation where
  /-- The fields to validate; all fields with rules if there are none. -/
  fields : List String
  /-- The rules of each field, separated by bars. -/
  rules : Table String
  /-- Messages that replace the standard ones, by `field.rule`. -/
  messages : Table String
  /-- Names that stand for fields in messages. -/
  customAttributes : Table String

instance : Inhabited Validation := ⟨⟨[], .empty, .empty, .empty⟩⟩

/-- What is done to values on their way in. -/
structure Hooks where
  /-- Refuses the value when it evaluates to `false`. -/
  closure : Setting?
  /-- Replaces the value. -/
  mutate : Setting?
  /-- The value that a field must hold. -/
  enforce : Setting?
  /-- The value that a field is set to. -/
  setTo : Setting?
  /-- The rules for the values of an entity. -/
  validate : Option Validation

instance : Inhabited Hooks := ⟨⟨none, none, none, none, none⟩⟩

/-- A group of targets that permissions name. -/
inductive Bucket where
  | operators
  | directions
  | assign
  | chain
deriving DecidableEq, Repr

/-- The name of a bucket. -/
def Bucket.name : Bucket → String
  | operators => "operators"
  | directions => "directions"
  | assign => "assign"
  | chain => "chain"

/-- One layer of permissions. -/
structure Layer where
  allowed : Setting?
  permissive : Setting?
  operators : Table Setting
  directions : Table Setting
  assign : Table Setting
  chain : Table Setting
  hooks : Hooks

instance : Inhabited Layer := ⟨⟨none, none, .empty, .empty, .empty, .empty, default⟩⟩

/-- An aggregate layer with the layers of single fields and placeholders below it. -/
structure Node extends Layer where
  fields : Table Layer
  placeholderNames : Table Layer

instance : Inhabited Node := ⟨⟨default, .empty, .empty⟩⟩

namespace Hooks

/-- Hooks with others on top. -/
def merge (base top : Hooks) : Hooks where
  closure := top.closure <|> base.closure
  mutate := top.mutate <|> base.mutate
  enforce := top.enforce <|> base.enforce
  setTo := top.setTo <|> base.setTo
  validate := top.validate <|> base.validate

end Hooks

namespace Layer

/-- The entries of a bucket. -/
def bucket (layer : Layer) : Bucket → Table Setting
  | .operators => layer.operators
  | .directions => layer.directions
  | .assign => layer.assign
  | .chain => layer.chain

/-- A layer with another one on top. -/
def merge (base top : Layer) : Layer where
  allowed := top.allowed <|> base.allowed
  permissive := top.permissive <|> base.permissive
  operators := base.operators.merge top.operators
  directions := base.directions.merge top.directions
  assign := base.assign.merge top.assign
  chain := base.chain.merge top.chain
  hooks := base.hooks.merge top.hooks

@[simp] theorem bucket_merge (base top : Layer) (b : Bucket) :
    (base.merge top).bucket b = (base.bucket b).merge (top.bucket b) := by
  cases b <;> rfl

end Layer

/-- Layers by name with others on top: a name that only the top has starts from the empty
layer. -/
def mergeLayers (base top : Table Layer) : Table Layer :=
  top.entries.foldl
    (fun t (name, layer) => t.insert name (((t.get? name).getD default).merge layer)) base

namespace Node

/-- A node with another one on top, down to its fields and placeholders. -/
def merge (base top : Node) : Node where
  toLayer := base.toLayer.merge top.toLayer
  fields := mergeLayers base.fields top.fields
  placeholderNames := mergeLayers base.placeholderNames top.placeholderNames

/-- The layer of a field, if the configuration has one. -/
def field? (node : Node) (name : String) : Option Layer := node.fields.get? name

end Node

end EntityGate
