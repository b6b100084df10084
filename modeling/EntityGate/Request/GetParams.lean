/-
# Front-end options in query pairs

Front-end options can be written as flat pairs of texts.  A condition is one pair for each of
its arguments, under a key that holds the connective, the clause, the operator and the field,
with dashes for dots and an optional number at the end that tells equal keys apart.  Orders,
groups, placeholders and options have keys of their own; all other keys are ignored.
-/
import EntityGate.Query.FrontEnd
import EntityGate.Request.Form

namespace EntityGate.GetParams

/-- The key of a condition. -/
structure ConditionKey where
  connective : Connective
  /-- Whether the condition belongs to the `having` clause. -/
  having : Bool
  operator : String
  field : String

/-- The value that a text stands for: a number or a truth value if it reads as one, else the
text itself. -/
def scalar (raw : String) : Json :=
  match Json.read? raw with
  | some (.num n) => .num n
  | some (.bool b) => .bool b
  | _ => .str raw

/-- A field with its dashes turned into dots. -/
def fieldOf (encoded : List Char) : String :=
  String.ofList (encoded.map fun c => if c = '-' then '.' else c)

/-- A text without the underscore and the digits it ends in, as long as something is left. -/
def dropNumber (cs : List Char) : List Char :=
  let reversed := cs.reverse
  match reversed.takeWhile Text.isDecimalDigit, reversed.dropWhile Text.isDecimalDigit with
  | _ :: _, '_' :: c :: rest => (c :: rest).reverse
  | _, _ => cs

/-- What follows a word at the start of a text. -/
def after? (word : String) (cs : List Char) : Option (List Char) :=
  if word.toList.isPrefixOf cs then some (cs.drop word.length) else none

/-- The parts of the key of a condition. -/
def conditionKey? (key : List Char) : Option ConditionKey := do
  let (connective, cs) ←
    ((after? "and_" key).map fun cs => (Connective.and, cs)) <|>
    ((after? "or_" key).map fun cs => (Connective.or, cs))
  let (having, cs) ←
    ((after? "where_" cs).map fun cs => (false, cs)) <|>
    ((after? "having_" cs).map fun cs => (true, cs))
  let operator := cs.takeWhile Char.isAlpha
  match cs.dropWhile Char.isAlpha with
  | '_' :: encoded =>
    let field := dropNumber encoded
    if operator.isEmpty || field.isEmpty || field.contains '\n' then none
    else return ⟨connective, having, String.ofList operator, fieldOf field⟩
  | _ => none

/-- A key without the brackets that mark a repeated one. -/
def plainKey (key : String) : List Char :=
  match key.toList.reverse with
  | ']' :: '[' :: rest => rest.reverse
  | _ => key.toList

/-- What has been collected from the pairs. -/
structure Collected where
  /-- The conditions by key, with the values given under it. -/
  conditions : Table (ConditionKey × List String)
  orderBy : Table String
  groupBy : List String
  placeholders : Table FrontEndPlaceholder
  options : List (String × Json)

instance : Inhabited Collected := ⟨⟨.empty, .empty, [], .empty, []⟩⟩

/-- The name and the type in the rest of a placeholder key. -/
def placeholderKey (rest : List Char) : String × Option String :=
  match Text.cutFirst? '_' (String.ofList rest) with
  | some (name, paramType) => (name, some paramType)
  | none => (String.ofList rest, none)

/-- Take in one pair. -/
def collect (c : Collected) (pair : String × String) : Collected :=
  let key := plainKey pair.1
  let raw := pair.2
  match conditionKey? key with
  | some parts =>
    let name := String.ofList key
    let (parts, values) := (c.conditions.get? name).getD (parts, [])
    { c with conditions := c.conditions.insert name (parts, values ++ [raw]) }
  | none =>
    match after? "orderBy_" key with
    | some field => { c with orderBy := c.orderBy.insert (fieldOf field) raw }
    | none =>
      if key = "groupBy".toList then { c with groupBy := c.groupBy ++ [fieldOf raw.toList] }
      else match after? "placeholder_" key with
        | some rest =>
          let (name, paramType) := placeholderKey rest
          { c with placeholders := c.placeholders.insert name ⟨scalar raw, paramType⟩ }
        | none =>
          match after? "option_" key with
          | some name =>
            { c with options := Json.insertField (String.ofList name) (scalar raw) c.options }
          | none => c

/-- The condition that the values under a key make up. -/
def condition (key : String) (parts : ConditionKey) (values : List String) :
    Except Fault Condition := do
  let operator ← Operator.ofName parts.operator
  match operator with
  | .andX | .orX =>
    match (Json.read? (values.headD "[]")).bind (Shape.list Condition.ofJson?) with
    | some conditions => return ⟨none, parts.connective, operator.name, [], conditions⟩
    | none => throw (.invalidParams (.conditionsExpected key))
  | .isNull | .isNotNull => return ⟨some parts.field, parts.connective, operator.name, [], []⟩
  | _ => return ⟨some parts.field, parts.connective, operator.name, values.map scalar, []⟩

/-- The options among the pairs. -/
def options (fields : List (String × Json)) : Except Fault RequestOptions :=
  if fields.isEmpty then .ok default
  else match RequestOptions.ofJson? (.obj fields) with
    | some o => .ok o
    | none => .error (.invalidParams .invalidOption)

/-- The front-end options that some pairs stand for. -/
def decode (pairs : List (String × String)) : Except Fault FrontEndOptions := do
  let c := pairs.foldl collect default
  let conditions ← c.conditions.entries.mapM fun (key, parts, values) => do
    return (parts.having, ← condition key parts values)
  let options ← options c.options
  return {
    query := {
      conditions := (conditions.filter fun p => !p.1).map Prod.snd
      having := (conditions.filter fun p => p.1).map Prod.snd
      orderBy := c.orderBy
      groupBy := c.groupBy
      placeholders := c.placeholders }
    options := { options with useGetParams := some true } }

end EntityGate.GetParams
