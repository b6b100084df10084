/-
# Predicates on column values

What the operators of filters say about the value of a column.  Numbers are compared as floats,
texts by their bytes, and `null` comes before everything; values of other kinds are not
comparable.  `like` matches a text against a pattern in which a percent sign stands for any
text and an underscore for one character; letters are compared without regard to case.
-/
import EntityGate.Filter.Operator
import EntityGate.Text.Case

namespace EntityGate

namespace Column

/-! ## Patterns -/

/-- Whether each end of a list, from the whole list down, holds `true` somewhere. -/
def somewhere (ends : List Bool) : List Bool :=
  ends.foldr (fun b later => (b || later.headD false) :: later) []

/-- Whether the ends of a text match one character of a pattern and what follows it; `ends` says
which ends match what follows.  Everything is folded already. -/
def matchStep (c : Char) (s : List Char) (ends : List Bool) : List Bool :=
  if c = '%' then somewhere ends
  else if c = '_' then ends.drop 1 ++ [false]
  else List.zipWith (fun d rest => d = c && rest) s (ends.drop 1) ++ [false]

/-- Whether the ends of a text, from the whole text down to the empty one, match a pattern.  Going
from the end of the pattern to its beginning, each end is looked at once for each character. -/
def matchEnds (s : List Char) : List Char → List Bool
  | [] => s.map (fun _ => false) ++ [true]
  | c :: pattern => matchStep c s (matchEnds s pattern)

/-- Whether a pattern matches a whole text. -/
def patternMatches (pattern s : List Char) : Bool :=
  (matchEnds (s.map Text.foldChar) (pattern.map Text.foldChar)).headD false

/-- Whether a value is a text that a pattern matches. -/
def like : Json → Json → Bool
  | .str s, .str pattern => patternMatches pattern.toList s.toList
  | _, _ => false

/-! ## Comparisons -/

/-- Equality of values, numbers being equal as floats. -/
def same : Json → Json → Bool
  | .num m, .num n => m.order = n.order
  | v, w => v == w

/-- How two values stand to each other, if they are comparable. -/
def compare? : Json → Json → Option Ordering
  | .num m, .num n => some (compare m.order n.order)
  | .str s, .str t => some (compare s t)
  | .bool a, .bool b => some (compare a.toNat b.toNat)
  | .null, .null => some .eq
  | .null, _ => some .lt
  | _, .null => some .gt
  | _, _ => none

/-- Whether two values are comparable and stand to each other in a certain way. -/
def compares (test : Ordering → Bool) (v w : Json) : Bool :=
  match compare? v w with
  | some o => test o
  | none => false

/-- The values that a membership test is about: the items of the only argument if it is a list,
else the arguments. -/
def members : List Json → List Json
  | [.arr items] => items
  | arguments => arguments

/-- Whether a value is among the members. -/
def isMember (v : Json) (arguments : List Json) : Bool := (members arguments).any (same v)

/-- What an operator says about the value of a column; a missing argument is `null`. -/
def test (op : Operator) (v : Json) (arguments : List Json) : Except String Bool :=
  let first := arguments.headD .null
  match op with
  | .eq => .ok (same v first)
  | .neq => .ok (!same v first)
  | .lt => .ok (compares Ordering.isLT v first)
  | .lte => .ok (compares Ordering.isLE v first)
  | .gt => .ok (compares Ordering.isGT v first)
  | .gte => .ok (compares Ordering.isGE v first)
  | .isIn => .ok (isMember v arguments)
  | .notIn => .ok (!isMember v arguments)
  | .isNull => .ok v.isNull
  | .isNotNull => .ok (!v.isNull)
  | .like => .ok (like v first)
  | .notLike => .ok (!like v first)
  | .between =>
    .ok (compares Ordering.isGE v first && compares Ordering.isLE v (arguments[1]?.getD .null))
  | .andX | .orX => .error ("'" ++ op.name ++ "' cannot be used as a predicate")

end Column

end EntityGate
