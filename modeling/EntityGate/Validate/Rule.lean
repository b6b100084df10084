/-
# Validation rules

The rules of a field are separated by bars; each is a name with an argument after a colon.  A
rule judges only values of the types it understands and lets all others pass.  A validator gets
the values of an entity and its rules, and answers with the messages of the rules that fail.
-/
import EntityGate.Number.Literal
import EntityGate.Permission.Basic
import EntityGate.Validate.Date

namespace EntityGate

/-- A judge of the values of an entity: the messages of what is wrong with them. -/
abbrev Validator : Type := List (String × Json) → Validation → List String

/-- A rule for one value. -/
inductive Rule where
  | required
  | positive
  | email
  | atLeast (bound : Float)
  | atMost (bound : Float)
  | between (low high : Float)
  | oneOf (allowed : List String)
  | date (format : String)

namespace Rule

/-- A float in a message. -/
def floatText (x : Float) : String := Number.messageLayout.write x

/-- The argument of a rule as a float. -/
def numberArgument (name : String) (argument : Option String) : Except String Float :=
  match argument.bind Number.floatOfText? with
  | some x => .ok x
  | none => .error ("Rule '" ++ name ++ "' needs a numeric argument")

/-- The rule with a name and an argument. -/
def ofName (name : String) (argument : Option String) : Except String Rule :=
  match name with
  | "required" => .ok required
  | "positive" => .ok positive
  | "email" => .ok email
  | "min" => do return atLeast (← numberArgument name argument)
  | "max" => do return atMost (← numberArgument name argument)
  | "between" =>
    match argument.bind (Text.cutFirst? ',') with
    | none => .error "Rule 'between' needs two arguments"
    | some (low, high) => do
      return between (← numberArgument name (some (Text.trim low)))
        (← numberArgument name (some (Text.trim high)))
  | "in" =>
    .ok (oneOf (((Text.split ',' (argument.getD "")).map Text.trim).filter fun s => s ≠ ""))
  | "date" => .ok (date (argument.getD "%Y-%m-%d"))
  | other => .error ("Unknown validation rule '" ++ other ++ "'")

/-- The name and the rule that a text describes. -/
def parse (text : String) : Except String (String × Rule) := do
  let (name, argument) := match Text.cutFirst? ':' text with
    | some (name, argument) => (Text.trim name, some (Text.trim argument))
    | none => (Text.trim text, none)
  return (name, ← ofName name argument)

/-- The size of a value that bounds are about, and its unit. -/
def measure? : Json → Option (Float × String)
  | .num n => some (n.toFloat, "")
  | .str s => some (Float.ofNat s.length, " characters")
  | .arr items => some (Float.ofNat items.length, " items")
  | _ => none

/-- The text that a choice is compared by. -/
def choiceText? : Json → Option String
  | .str s => some s
  | .num n => some n.text
  | .bool b => some (if b then "true" else "false")
  | _ => none

/-- A character of the local part of an email address. -/
def isLocalChar (c : Char) : Bool := c.isAlphanum || "._%+-".toList.contains c

/-- A character of the domain of an email address. -/
def isDomainChar (c : Char) : Bool := c.isAlphanum || c = '.' || c = '-'

/-- Whether a text has the form of an email address. -/
def isEmail (s : String) : Bool :=
  match Text.splitChars '@' s.toList with
  | [user, domain] =>
    let reversed := domain.reverse
    let top := reversed.takeWhile Char.isAlpha
    !user.isEmpty && user.all isLocalChar && 2 ≤ top.length &&
      (match reversed.dropWhile Char.isAlpha with
        | '.' :: rest => !rest.isEmpty && rest.all isDomainChar
        | _ => false)
  | _ => false

/-- The message of a rule that a value breaks; `label` stands for the field. -/
def problem? (rule : Rule) (label : String) (v : Json) : Option String :=
  match rule with
  | required => if v.isNull then some ("The " ++ label ++ " field is required.") else none
  | positive =>
    match v with
    | .num n =>
      if n.toFloat ≤ 0 then
        some ("The " ++ label ++ " must be positive (got " ++ floatText n.toFloat ++ ").")
      else none
    | _ => none
  | email =>
    match v with
    | .str s =>
      if isEmail s then none else some ("The " ++ label ++ " must be a valid email address.")
    | _ => none
  | atLeast bound => do
    let (size, unit) ← measure? v
    if size < bound then
      some ("The " ++ label ++ " must be at least " ++ floatText bound ++ unit ++ ".")
    else none
  | atMost bound => do
    let (size, unit) ← measure? v
    if bound < size then
      some ("The " ++ label ++ " may not be greater than " ++ floatText bound ++ unit ++ ".")
    else none
  | between low high => do
    let (size, unit) ← measure? v
    if size < low ∨ high < size then
      some ("The " ++ label ++ " must be between " ++ floatText low ++ " and " ++
        floatText high ++ unit ++ ".")
    else none
  | oneOf allowed => do
    let text ← choiceText? v
    if allowed.contains text then none
    else some ("The selected " ++ label ++ " is invalid (allowed: " ++
      ", ".intercalate allowed ++ ").")
  | date format =>
    match v with
    | .str s =>
      if Date.isIn format s then none
      else some ("The " ++ label ++ " does not match the format " ++ format ++ ".")
    | _ => none

end Rule

namespace Validation

/-- The message of one rule of a field, if the rule is broken or cannot be read. -/
def ruleProblem? (validation : Validation) (values : List (String × Json)) (field rule : String) :
    Option String :=
  let label := (validation.customAttributes.get? field).getD field
  match Rule.parse rule with
  | .error text => some (text ++ " (" ++ field ++ ")")
  | .ok (name, rule) =>
    (rule.problem? label ((Json.lookup field values).getD .null)).map fun text =>
      match validation.messages.get? (field ++ "." ++ name) with
      | some custom => Text.replace ":attribute" label custom
      | none => text

/-- The standard validator: every rule of every field, in order. -/
def standard : Validator := fun values validation =>
  validation.rules.entries.flatMap fun (field, rules) =>
    ((Text.split '|' rules).filter fun rule => Text.trim rule ≠ "").filterMap
      (validation.ruleProblem? values field)

end Validation

end EntityGate
