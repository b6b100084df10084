/-
# Number literals

A literal is read into its parts and then given a value.  An integer that fits into 64 bits is
that integer; minus zero and everything else is a float.  The float is found from the first
digits of the literal, as many as fit into a 64-bit word, scaled once by a power of ten: the
scaling rounds, so a long literal need not yield the nearest float.  A literal too large for a
float has no value.
-/
import EntityGate.Text.CharClass
import EntityGate.Json.Basic

namespace EntityGate.Number

/-- The parts of a number literal. -/
structure Literal where
  negative : Bool
  /-- The digits before the point. -/
  whole : List Char
  /-- The digits after the point, if there is one. -/
  fraction : Option (List Char)
  /-- The exponent, if there is one. -/
  exponent : Option Int

/-- The leading digits of a text and what follows them, if there is at least one. -/
def digits? (cs : List Char) : Option (List Char × List Char) :=
  match cs.takeWhile Char.isDigit with
  | [] => none
  | ds => some (ds, cs.dropWhile Char.isDigit)

/-- The value of some digits. -/
def natOfDigits (ds : List Char) : Nat :=
  ds.foldl (fun n c => 10 * n + (c.toNat - '0'.toNat)) 0

/-- The digits before the point: a zero stands alone. -/
def Literal.whole? (cs : List Char) : Option (List Char × List Char) :=
  (digits? cs).filter fun (ds, _) => ds.head? ≠ some '0' || ds.length = 1

/-- The fraction, if a point comes next: it has at least one digit. -/
def Literal.fraction? : List Char → Option (Option (List Char) × List Char)
  | '.' :: rest => (digits? rest).map fun (ds, rest) => (some ds, rest)
  | cs => some (none, cs)

/-- The exponent, if its letter comes next: it has at least one digit. -/
def Literal.exponent? : List Char → Option (Option Int × List Char)
  | c :: rest =>
    if c = 'e' ∨ c = 'E' then
      match rest with
      | '+' :: rest => (digits? rest).map fun (ds, rest) => (some (natOfDigits ds), rest)
      | '-' :: rest => (digits? rest).map fun (ds, rest) => (some (-(natOfDigits ds : Int)), rest)
      | rest => (digits? rest).map fun (ds, rest) => (some (natOfDigits ds), rest)
    else some (none, c :: rest)
  | [] => some (none, [])

/-- The literal at the start of a text, and what follows it. -/
def Literal.read? (cs : List Char) : Option (Literal × List Char) := do
  let (negative, cs) := match cs with
    | '-' :: rest => (true, rest)
    | cs => (false, cs)
  let (whole, cs) ← Literal.whole? cs
  let (fraction, cs) ← Literal.fraction? cs
  let (exponent, cs) ← Literal.exponent? cs
  return (⟨negative, whole, fraction, exponent⟩, cs)

/-- Append digits to a number for as long as the result fits into a 64-bit word; the digits
that are left over come second. -/
def appendFitting (n : Nat) : List Char → Nat × List Char
  | [] => (n, [])
  | d :: ds =>
    let next := 10 * n + (d.toNat - '0'.toNat)
    if next < Nat.pow 2 64 then appendFitting next ds else (n, d :: ds)

/-- The power of ten as a float, for exponents up to 308. -/
def powerOfTen (e : Nat) : Float := Float.ofScientific 1 false e

/-- Multiply a float by a power of ten, in one step where the power is itself a float and in
steps of `10 ^ -308` below; `none` where the result is too large. -/
def scaleByTen : Nat → Float → Int → Option Float
  | 0, x, _ => some x
  | fuel + 1, x, e =>
    if e.natAbs ≤ 308 then
      if 0 ≤ e then
        let y := x * powerOfTen e.natAbs
        if y.isInf then none else some y
      else some (x / powerOfTen e.natAbs)
    else if rank x = 0 then some x
    else if 0 ≤ e then none
    else scaleByTen fuel (x / powerOfTen 308) (e + 308)

/-- The value of a literal, if it is not too large. -/
def Literal.value? (l : Literal) : Option Number :=
  let (n, excess) := appendFitting 0 l.whole
  if l.fraction.isNone ∧ l.exponent.isNone ∧ excess.isEmpty ∧
      (!l.negative ∨ (0 < n ∧ n ≤ Nat.pow 2 63)) then
    some (.int (if l.negative then -(n : Int) else n))
  else
    let (n, places) := match l.fraction with
      | none => (n, 0)
      | some ds => let (n, rest) := appendFitting n ds; (n, ds.length - rest.length)
    let e := (excess.length : Int) - places + l.exponent.getD 0
    (scaleByTen 4 (Float.ofNat n) e).map fun x => .float (if l.negative then -x else x)

/-- The float nearest to `digits * 10 ^ exponent`; infinite where the number is too large. -/
def nearestFloat (digits : Nat) (exponent : Int) : Float :=
  let point := (Nat.toDigits 10 digits).length + exponent
  if digits = 0 ∨ point < -330 then 0
  else if 310 < point then 1 / 0
  else Float.ofScientific digits (exponent < 0) exponent.natAbs

/-- The number nearest to a literal: an integer where it fits into 64 bits, minus zero being
zero, and the nearest float where there is a fraction or an exponent.  Integers beyond 64 bits
and magnitudes beyond the floats have no value. -/
def Literal.nearest? (l : Literal) : Option Number :=
  let n := natOfDigits l.whole
  match l.fraction, l.exponent with
  | none, none =>
    if l.negative then if n ≤ Nat.pow 2 63 then some (.int (-(n : Int))) else none
    else if n < Nat.pow 2 64 then some (.int n) else none
  | _, _ =>
    let ds := l.whole ++ l.fraction.getD []
    let e := l.exponent.getD 0 - ((l.fraction.getD []).length : Int)
    let x := nearestFloat (natOfDigits ds) e
    if x.isInf then none else some (.float (if l.negative then -x else x))

/-- The float that a number in a rule stands for: digits with at most one point and at least
one digit, a sign and an exponent if need be, or one of the words for infinity and for no
number. -/
def floatOfText? (text : String) : Option Float := do
  let (negative, cs) := match text.toList with
    | '-' :: rest => (true, rest)
    | '+' :: rest => (false, rest)
    | cs => (false, cs)
  let word := String.ofList (cs.map Char.toLower)
  let x ←
    if word = "inf" ∨ word = "infinity" then some (1 / 0)
    else if word = "nan" then some (0 / 0)
    else do
      let whole := cs.takeWhile Char.isDigit
      let rest := cs.dropWhile Char.isDigit
      let (fraction, rest) := match rest with
        | '.' :: rest => (rest.takeWhile Char.isDigit, rest.dropWhile Char.isDigit)
        | rest => ([], rest)
      let (exponent, rest) ← Literal.exponent? rest
      let digits := whole ++ fraction
      if digits.isEmpty || !rest.isEmpty then none
      else some (nearestFloat (natOfDigits digits) (exponent.getD 0 - fraction.length))
  return if negative then -x else x

end EntityGate.Number
