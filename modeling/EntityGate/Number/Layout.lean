/-
# How numbers are written

A float is written from its shortest digits.  Inside values it always shows a fraction, and
very large or small magnitudes use an exponent; inside messages it is written plainly, without
a fraction where there is none and without an exponent.  Of two equally near shortest decimals,
values take the even one and messages the one farther from zero.
-/
import EntityGate.Number.Shortest

namespace EntityGate.Number

/-- The decisions that a way of writing floats makes. -/
structure Layout where
  /-- Which of two equally near shortest decimals is written. -/
  tie : Tie
  /-- The decimal exponents that are written out; the others are written with `e`. -/
  positional : Int → Bool
  /-- Whether an integral float is written with a fraction `.0`. -/
  fraction : Bool
  /-- What is written for a float that is not finite, by sign. -/
  nonFinite : Bool → Bool → String

/-- In values: written out from `0.00001` up to below `10 ^ 16`, always with a fraction, and
`null` for what is not finite. -/
def valueLayout : Layout :=
  ⟨.even, fun e => -5 ≤ e && e < 16, true, fun _ _ => "null"⟩

/-- In messages: always written out, integral floats without a fraction. -/
def messageLayout : Layout :=
  ⟨.up, fun _ => true, false, fun nan negative =>
    if nan then "NaN" else if negative then "-inf" else "inf"⟩

/-- The digits of a natural number. -/
def digitChars (n : Nat) : List Char := Nat.toDigits 10 n

/-- A decimal written out with `point` digits before the decimal point. -/
def positionalChars (fraction : Bool) (digits : List Char) (point : Int) : List Char :=
  if point ≤ 0 then
    '0' :: '.' :: (List.replicate (-point).toNat '0' ++ digits)
  else if digits.length ≤ point.toNat then
    digits ++ List.replicate (point.toNat - digits.length) '0' ++
      (if fraction then ['.', '0'] else [])
  else digits.take point.toNat ++ '.' :: digits.drop point.toNat

/-- A decimal written with one digit before the point and a signed exponent. -/
def exponentialChars (digits : List Char) (exponent : Int) : List Char :=
  let mantissa := match digits with
    | [] => []
    | [d] => [d]
    | d :: rest => d :: '.' :: rest
  mantissa ++ 'e' :: (if exponent < 0 then '-' else '+') :: digitChars exponent.natAbs

/-- The text of a float in a layout. -/
def Layout.write (layout : Layout) (x : Float) : String :=
  if x.isNaN then layout.nonFinite true false
  else if x.isInf then layout.nonFinite false (signBit x)
  else
    let magnitude :=
      if magnitudeBits x = 0 then if layout.fraction then ['0', '.', '0'] else ['0']
      else
        let d := shortest layout.tie x
        let digits := digitChars d.digits
        let point := digits.length + d.exponent
        if layout.positional (point - 1) then positionalChars layout.fraction digits point
        else exponentialChars digits (point - 1)
    String.ofList (if signBit x then '-' :: magnitude else magnitude)

end EntityGate.Number
