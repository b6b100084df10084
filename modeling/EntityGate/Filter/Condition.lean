/-
# Front-end conditions

A condition as it is received: any text may stand for the operator, and nothing has been
checked.  `check` is the structural pass over a whole list of conditions.  It accepts an
operator of the closed set with nested conditions or with a qualified field and the right number
of arguments; an argument that is an object with an `operator` entry is a condition itself.
What it accepts is a list of `Checked` conditions.
-/
import EntityGate.Filter.Operator

namespace EntityGate

/-- A filter condition as received. -/
structure Condition where
  field : Option String
  connective : Connective
  operator : String
  arguments : List Json
  conditions : List Condition

namespace Condition

/-- The names of the parts of a condition, in order of declaration. -/
def partNames : List String := ["field", "type", "operator", "arguments", "conditions"]

/-- The condition made of the parts of a record and nested conditions already read. -/
def ofRecord? (r : Record) (conditions : List Condition) : Option Condition := do
  let field ← r.optional "field" Shape.text
  let connective ← r.withDefault "type" (Shape.choice Connective.ofName?) .and
  let operator ← r.required "operator" Shape.text
  let arguments ← r.withDefault "arguments" (Shape.list Shape.any) []
  return ⟨field, connective, operator, arguments, conditions⟩

mutual
/-- The condition that a value describes. -/
def ofJson? : Json → Option Condition
  | .obj fields => do
    let conditions ← nestedIn? fields
    let r ← Record.ofJson? partNames (.obj fields)
    ofRecord? r conditions
  | .arr items => do
    let conditions ← nestedAt? 4 items
    let r ← Record.ofJson? partNames (.arr items)
    ofRecord? r conditions
  | _ => none

/-- The conditions that some values describe. -/
def ofItems? : List Json → Option (List Condition)
  | [] => some []
  | v :: rest => do
    let c ← ofJson? v
    let cs ← ofItems? rest
    return c :: cs

/-- The nested conditions among the entries of an object. -/
def nestedIn? : List (String × Json) → Option (List Condition)
  | [] => some []
  | (k, v) :: rest =>
    if k = "conditions" then
      match v with
      | .arr items => ofItems? items
      | _ => none
    else nestedIn? rest

/-- The nested conditions at a position of a list of parts. -/
def nestedAt? : Nat → List Json → Option (List Condition)
  | _, [] => some []
  | 0, v :: _ =>
    match v with
    | .arr items => ofItems? items
    | _ => none
  | n + 1, _ :: rest => nestedAt? n rest
end

mutual
/-- The value that describes a condition. -/
def toJson : Condition → Json
  | ⟨field, connective, operator, arguments, conditions⟩ =>
    .ofFields (Json.writeOption "field" .str field ++
      [("type", .str connective.name), ("operator", .str operator)] ++
      Json.writeItems "arguments" id arguments ++
      Json.writeItems "conditions" id (toJsonItems conditions))

/-- The values that describe some conditions. -/
def toJsonItems : List Condition → List Json
  | [] => []
  | c :: rest => toJson c :: toJsonItems rest
end

end Condition

mutual
/-- A condition that passed the structural pass. -/
inductive Checked where
  /-- A test of a field. -/
  | leaf (connective : Connective) (field : String) (operator : Operator)
      (arguments : List CheckedArgument)
  /-- A combination of nested conditions. -/
  | group (connective : Connective) (operator : Operator) (conditions : List Checked)

/-- An argument of a test. -/
inductive CheckedArgument where
  | literal (value : Json)
  | nested (condition : Checked)
end

namespace Checked

/-- How a condition is joined to those before it. -/
def connective : Checked → Connective
  | leaf c .. => c
  | group c .. => c

mutual
/-- The number of tests in a condition, those inside arguments included. -/
def leafCount : Checked → Nat
  | leaf _ _ _ arguments => 1 + leafCountArguments arguments
  | group _ _ conditions => leafCountItems conditions

/-- The number of tests in some conditions. -/
def leafCountItems : List Checked → Nat
  | [] => 0
  | c :: rest => leafCount c + leafCountItems rest

/-- The number of tests in some arguments. -/
def leafCountArguments : List CheckedArgument → Nat
  | [] => 0
  | .literal _ :: rest => leafCountArguments rest
  | .nested c :: rest => leafCount c + leafCountArguments rest
end

end Checked

namespace Condition

/-- Whether an argument is written like a condition. -/
def isNested : Json → Bool
  | .obj fields => (Json.lookup "operator" fields).isSome
  | _ => false

/-- The depth of the values inside a condition, which bounds how deep conditions inside its
arguments are nested. -/
def argumentDepth (c : Condition) : Nat := Json.depth (toJson c)

mutual
/-- The structural check of one condition; `fuel` exceeds the depth of the condition. -/
def checkWithin : Nat → Condition → Except Fault Checked
  | 0, _ => .error (.invalidParams .nestedCondition)
  | fuel + 1, c => do
    let operator ← Operator.ofName c.operator
    if operator.isCombinator then
      if c.conditions.isEmpty then
        throw (.invalidArguments operator.name "at least 1 nested condition" 0)
      else
        return .group c.connective operator (← checkItems fuel c.conditions)
    else
      let field := c.field.getD ""
      Field.verify field
      if operator.takes c.arguments.length then
        return .leaf c.connective field operator (← checkArguments fuel c.arguments)
      else
        throw (.invalidArguments operator.name operator.arity c.arguments.length)

/-- The structural check of some conditions, in order. -/
def checkItems : Nat → List Condition → Except Fault (List Checked)
  | _, [] => .ok []
  | fuel, c :: rest => do
    let checked ← checkWithin fuel c
    let others ← checkItems fuel rest
    return checked :: others

/-- The structural check of some arguments, in order. -/
def checkArguments : Nat → List Json → Except Fault (List CheckedArgument)
  | _, [] => .ok []
  | fuel, v :: rest => do
    let argument ←
      if isNested v then
        match ofJson? v with
        | none => throw (.invalidParams .nestedCondition)
        | some c => do pure (.nested (← checkWithin fuel c))
      else pure (.literal v)
    let others ← checkArguments fuel rest
    return argument :: others
end

/-- The structural check of a list of conditions. -/
def check (conditions : List Condition) : Except Fault (List Checked) :=
  conditions.mapM fun c => checkWithin (c.argumentDepth + 1) c

end Condition

end EntityGate
