/-
# The finite 64-bit floats, read off their bits

A finite float is a sign and a dyadic `mantissa * 2 ^ exponent`.  The order of floats is the
order of their ranks, integers read off the bits: the two zeros share rank zero, and a float
that is not a NaN lies below another exactly when its rank does.  Rounding to the nearest
integer is done on the dyadic, a half going away from zero.
-/

namespace EntityGate.Number

/-- The bits of a float without the sign. -/
def magnitudeBits (x : Float) : Nat := x.toBits.toNat % Nat.pow 2 63

/-- Whether the sign bit is set. -/
def signBit (x : Float) : Bool := Nat.pow 2 63 ≤ x.toBits.toNat

/-- The place of a float in the order of floats. -/
def rank (x : Float) : Int :=
  if signBit x then -(magnitudeBits x : Int) else magnitudeBits x

/-- The mantissa and the exponent of the magnitude of a finite float: it is
`mantissa * 2 ^ exponent`. -/
def dyadic (x : Float) : Nat × Int :=
  let biased : Nat := magnitudeBits x / Nat.pow 2 52
  let fraction : Nat := magnitudeBits x % Nat.pow 2 52
  if biased = 0 then (fraction, -1074) else (Nat.pow 2 52 + fraction, (biased : Int) - 1075)

/-- The magnitude of a finite float rounded to the nearest integer, a half going up. -/
def roundedMagnitude (x : Float) : Nat :=
  match dyadic x with
  | (m, .ofNat e) => m * Nat.pow 2 e
  | (m, .negSucc e) => (m + Nat.pow 2 e) / Nat.pow 2 (e + 1)

/-- A finite float rounded to the nearest integer, a half going away from zero; the sign of a
zero result is that of the argument. -/
def roundAway (x : Float) : Float :=
  let r := Float.ofNat (roundedMagnitude x)
  if signBit x then -r else r

/-- A power of a float by repeated squaring, as `bits` halvings of the exponent allow. -/
def powerBySquaring (base : Float) (n : Nat) : Float :=
  go n base n 1
where
  /-- One factor per binary digit of the exponent, lowest first. -/
  go : Nat → Float → Nat → Float → Float
    | 0, _, _, acc => acc
    | fuel + 1, square, n, acc =>
      let acc := if n % 2 = 1 then acc * square else acc
      if n / 2 = 0 then acc else go fuel (square * square) (n / 2) acc

end EntityGate.Number
