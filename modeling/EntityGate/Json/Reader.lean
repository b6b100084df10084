/-
# Reading values

A text is read into a value whose objects hold their entries as they were written, in order and
with repetitions; whoever wants the canonical value asks for `Json.canonical`.  Lists and
objects may be nested 127 deep.  A `Dialect` chooses how number literals are valued and whether
a character may be written as two surrogate escapes.
-/
import EntityGate.Number.Literal

namespace EntityGate.Json

/-- What may differ between two notations for the same values. -/
structure Dialect where
  /-- The number that a literal stands for. -/
  number : Number.Literal → Option Number
  /-- Whether a pair of surrogate escapes stands for one character. -/
  surrogates : Bool

/-- Plain JSON. -/
def Dialect.plain : Dialect := ⟨Number.Literal.value?, true⟩

/-- The JSON subset of YAML. -/
def Dialect.yaml : Dialect := ⟨Number.Literal.nearest?, false⟩

/-- The blanks between tokens. -/
def isSpace (c : Char) : Bool := c = ' ' || c = '\n' || c = '\t' || c = '\r'

/-- A text without the blanks it starts with. -/
def skipSpace (cs : List Char) : List Char := cs.dropWhile isSpace

/-- The value of a hexadecimal digit. -/
def hexDigit? (c : Char) : Option Nat :=
  if '0' ≤ c ∧ c ≤ '9' then some (c.toNat - '0'.toNat)
  else if 'a' ≤ c ∧ c ≤ 'f' then some (c.toNat - 'a'.toNat + 10)
  else if 'A' ≤ c ∧ c ≤ 'F' then some (c.toNat - 'A'.toNat + 10)
  else none

/-- The value of four hexadecimal digits. -/
def hexWord? (a b c d : Char) : Option Nat := do
  return 4096 * (← hexDigit? a) + 256 * (← hexDigit? b) + 16 * (← hexDigit? c) +
    (← hexDigit? d)

/-- The character that a backslash and one letter stand for. -/
def escaped? : Char → Option Char
  | '"' => some '"'
  | '\\' => some '\\'
  | '/' => some '/'
  | 'b' => some '\x08'
  | 'f' => some '\x0c'
  | 'n' => some '\n'
  | 'r' => some '\r'
  | 't' => some '\t'
  | _ => none

/-- The characters up to the closing quote, and what follows it. -/
def stringBody (surrogates : Bool) : List Char → Option (List Char × List Char)
  | [] => none
  | '"' :: rest => some ([], rest)
  | '\\' :: 'u' :: a :: b :: c :: d :: rest => do
    let high ← hexWord? a b c d
    if 0xD800 ≤ high ∧ high < 0xDC00 then
      match rest with
      | '\\' :: 'u' :: a :: b :: c :: d :: rest =>
        let low ← hexWord? a b c d
        if surrogates ∧ 0xDC00 ≤ low ∧ low < 0xE000 then
          let (cs, rest) ← stringBody surrogates rest
          return (Char.ofNat (0x10000 + 0x400 * (high - 0xD800) + (low - 0xDC00)) :: cs, rest)
        else none
      | _ => none
    else if 0xDC00 ≤ high ∧ high < 0xE000 then none
    else
      let (cs, rest) ← stringBody surrogates rest
      return (Char.ofNat high :: cs, rest)
  | '\\' :: c :: rest => do
    let e ← escaped? c
    let (cs, rest) ← stringBody surrogates rest
    return (e :: cs, rest)
  | c :: rest => do
    if c.toNat < 0x20 then none
    else
      let (cs, rest) ← stringBody surrogates rest
      return (c :: cs, rest)

/-- What is left of a text after a word it starts with. -/
def after? (word : String) (cs : List Char) : Option (List Char) :=
  if word.toList.isPrefixOf cs then some (cs.drop word.length) else none

mutual
/-- The value at the start of a text, and what follows it.  `depth` is how many more levels may
be opened; `fuel` exceeds the number of characters. -/
def readValue (d : Dialect) : Nat → Nat → List Char → Option (Json × List Char)
  | 0, _, _ => none
  | fuel + 1, depth, cs =>
    match skipSpace cs with
    | '"' :: rest =>
      (stringBody d.surrogates rest).map fun (cs, rest) => (str (String.ofList cs), rest)
    | '[' :: rest =>
      if depth = 0 then none
      else match skipSpace rest with
        | ']' :: rest => some (arr [], rest)
        | rest => (readItems d fuel (depth - 1) rest).map fun (vs, rest) => (arr vs, rest)
    | '\x7b' :: rest =>
      if depth = 0 then none
      else match skipSpace rest with
        | '\x7d' :: rest => some (obj [], rest)
        | rest => (readFields d fuel (depth - 1) rest).map fun (fs, rest) => (obj fs, rest)
    | 'n' :: rest => (after? "ull" rest).map fun rest => (null, rest)
    | 't' :: rest => (after? "rue" rest).map fun rest => (bool true, rest)
    | 'f' :: rest => (after? "alse" rest).map fun rest => (bool false, rest)
    | cs => do
      let (literal, rest) ← Number.Literal.read? cs
      let n ← d.number literal
      return (num n, rest)

/-- The items of a list that is not empty, up to the closing bracket. -/
def readItems (d : Dialect) : Nat → Nat → List Char → Option (List Json × List Char)
  | 0, _, _ => none
  | fuel + 1, depth, cs => do
    let (v, rest) ← readValue d fuel depth cs
    match skipSpace rest with
    | ']' :: rest => return ([v], rest)
    | ',' :: rest =>
      let (vs, rest) ← readItems d fuel depth rest
      return (v :: vs, rest)
    | _ => none

/-- The entries of an object that is not empty, up to the closing brace. -/
def readFields (d : Dialect) :
    Nat → Nat → List Char → Option (List (String × Json) × List Char)
  | 0, _, _ => none
  | fuel + 1, depth, cs =>
    match skipSpace cs with
    | '"' :: rest => do
      let (key, rest) ← stringBody d.surrogates rest
      match skipSpace rest with
      | ':' :: rest =>
        let (v, rest) ← readValue d fuel depth rest
        match skipSpace rest with
        | '\x7d' :: rest => return ([(String.ofList key, v)], rest)
        | ',' :: rest =>
          let (fs, rest) ← readFields d fuel depth rest
          return ((String.ofList key, v) :: fs, rest)
        | _ => none
      | _ => none
    | _ => none
end

/-- The value of a text in a dialect: one value with nothing but blanks around it. -/
def readIn? (d : Dialect) (s : String) : Option Json :=
  let cs := s.toList
  match readValue d (2 * cs.length + 2) 127 cs with
  | some (v, rest) => if (skipSpace rest).isEmpty then some v else none
  | none => none

/-- The value of a JSON text, with objects as they were written. -/
def read? (s : String) : Option Json := readIn? Dialect.plain s

end EntityGate.Json
