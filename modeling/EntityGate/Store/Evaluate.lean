/-
# Queries on rows

How a query specification is run on a list of rows.  A row is kept if the conditions hold of it;
the kept rows are brought into the asked order, rows that are tied staying in theirs; and of
those the page is cut out.  Joins, groups, trusted text as a condition and nested expressions as
operands are refused.
-/
import EntityGate.Query.Spec
import EntityGate.Store.Predicate

namespace EntityGate

namespace QuerySpec

/-! ## Conditions -/

/-- The column that a field names: the field after its alias, which has to be that of the first
source. -/
def column? (q : QuerySpec) (field : String) : Except String String :=
  match Text.cutFirst? '.' field with
  | none => .ok field
  | some (scope, column) =>
    if scope = q.rootAlias then .ok column else .error ("unknown alias '" ++ scope ++ "'")

/-- The value of a column, `null` where a row lacks it. -/
def cell (row : Json) (column : String) : Json := (row.get? column).getD .null

/-- The value of a parameter that has to be there. -/
def boundValue (q : QuerySpec) (name : String) : Except String Json :=
  match q.parameter? name with
  | some v => .ok v
  | none => .error ("unbound parameter '" ++ name ++ "'")

/-- The value that trusted text stands for: a parameter after a colon, a column, or the text
itself. -/
def textValue (q : QuerySpec) (row : Json) (text : String) : Except String Json :=
  match text.toList with
  | ':' :: name => q.boundValue (String.ofList name)
  | _ =>
    if Field.isQualified text then do return cell row (← q.column? text)
    else .ok (.str text)

/-- The value of an operand. -/
def operandValue (q : QuerySpec) (row : Json) : Operand → Except String Json
  | .param name => q.boundValue name
  | .fragment text => q.textValue row text
  | .expr _ => .error "nested expressions as operands are not supported"

mutual
/-- Whether an expression holds of a row; what follows the deciding item is not evaluated. -/
def holds (q : QuerySpec) (row : Json) : Expr → Except String Bool
  | .fragment text => .error ("raw fragment '" ++ text ++ "' is not supported")
  | .and items => holdsAll q row items
  | .or items => holdsSome q row items
  | .predicate field op arguments => do
    let column ← q.column? field
    let values ← arguments.mapM (q.operandValue row)
    Column.test op (cell row column) values

/-- Whether all expressions hold. -/
def holdsAll (q : QuerySpec) (row : Json) : List Expr → Except String Bool
  | [] => .ok true
  | e :: rest => do
    if ← holds q row e then holdsAll q row rest else return false

/-- Whether some expression holds. -/
def holdsSome (q : QuerySpec) (row : Json) : List Expr → Except String Bool
  | [] => .ok false
  | e :: rest => do
    if ← holds q row e then return true else holdsSome q row rest
end

/-- Whether a clause holds of a row; an absent clause does. -/
def clauseHolds (q : QuerySpec) (row : Json) : Option Expr → Except String Bool
  | none => .ok true
  | some e => q.holds row e

/-- The rows of which the conditions hold, in their order. -/
def keep (q : QuerySpec) : List Json → Except String (List Json)
  | [] => .ok []
  | row :: rest => do
    let kept ← q.clauseHolds row q.conditions
    let others ← q.keep rest
    return if kept then row :: others else others

/-! ## Order -/

/-- How two rows stand to each other by one column; values that are not comparable are tied. -/
def columnOrdering (key : String × Direction) (a b : Json) : Ordering :=
  let o := (Column.compare? (cell a key.1) (cell b key.1)).getD .eq
  match key.2 with
  | .asc => o
  | .desc => o.swap

/-- How two rows stand to each other: by the first column that tells them apart. -/
def rowOrdering (keys : List (String × Direction)) (a b : Json) : Ordering :=
  match keys with
  | [] => .eq
  | key :: rest =>
    match columnOrdering key a b with
    | .eq => rowOrdering rest a b
    | o => o

/-- Put a row into rows that stand in reverse order: before the first that is not after it. -/
def insertRow (keys : List (String × Direction)) (row : Json) : List Json → List Json
  | [] => [row]
  | last :: rest =>
    if rowOrdering keys row last = .lt then last :: insertRow keys row rest
    else row :: last :: rest

/-- The rows in order, tied rows as they were. -/
def sortRows (keys : List (String × Direction)) (rows : List Json) : List Json :=
  (rows.foldl (fun sorted row => insertRow keys row sorted) []).reverse

/-- The columns that rows are ordered by. -/
def orderKeys (q : QuerySpec) : Except String (List (String × Direction)) :=
  q.orderBy.mapM fun o => do return (← q.column? o.field, o.direction)

/-! ## Pages -/

/-- The type of entity whose rows a query is about. -/
def rootEntity (q : QuerySpec) : String :=
  match q.sources with
  | [] => q.entityType
  | source :: _ => source.entity

/-- All rows that a query asks for, in order. -/
def matching (q : QuerySpec) (rows : List Json) : Except String (List Json) := do
  if !q.joins.isEmpty then throw "joins are not supported by the in-memory backend"
  else if !q.groupBy.isEmpty || q.having.isSome then
    throw "grouping is not supported by the in-memory backend"
  else
    let kept ← q.keep rows
    return sortRows (← q.orderKeys) kept

/-- The rows of the page. -/
def window (q : QuerySpec) (rows : List Json) : List Json :=
  (rows.drop (q.offset - 1)).take q.limit

end QuerySpec

end EntityGate
