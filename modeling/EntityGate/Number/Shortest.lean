/-
# The shortest decimal that reads back as a float

Every finite float is the nearest one to a whole interval of reals.  Its shortest decimal is
the number with the fewest significant digits inside that interval, and of those with equally
few the one nearest to the float; when two are equally near, a rule decides (`Tie`).  The search
works in exact integer arithmetic: for one, two, ... seventeen digits it tries the two neighbours
of the value on the grid of decimals with that many digits.  Whatever is written about a float
(`Layout`) is written from these digits.
-/
import EntityGate.Number.Binary64

namespace EntityGate.Number

/-- The decimal `digits * 10 ^ exponent`. -/
structure Decimal where
  digits : Nat
  exponent : Int
deriving DecidableEq, Repr

/-- Which of two equally near decimals is taken. -/
inductive Tie where
  /-- The one whose last digit is even. -/
  | even
  /-- The one farther from zero. -/
  | up
deriving DecidableEq, Repr

/-- Whether the lower of two equally near decimals is taken, by its digits. -/
def Tie.takesLower : Tie → Nat → Bool
  | even, digits => digits % 2 = 0
  | up, _ => false

/-- The number of decimal digits of a natural number; zero has one. -/
def digitCount (n : Nat) : Nat := (Nat.toDigits 10 n).length

/-- The `k` with `10 ^ (k - 1) ≤ num / den < 10 ^ k`, for a positive fraction. -/
def decimalPoint (num den : Nat) : Int :=
  if den ≤ num then digitCount (num / den)
  else 1 - (digitCount ((den + num - 1) / num - 1) : Int)

/-- A decimal without the zeros its digits end in. -/
def Decimal.trimZeros (d : Decimal) : Decimal :=
  go (digitCount d.digits) d
where
  /-- One zero is dropped per step, as often as there may be zeros. -/
  go : Nat → Decimal → Decimal
    | 0, d => d
    | fuel + 1, d =>
      if d.digits ≠ 0 ∧ d.digits % 10 = 0 then go fuel ⟨d.digits / 10, d.exponent + 1⟩ else d

/-- The interval of reals that round to a float, with the float itself, as numerators over one
denominator: the ends belong to it exactly when the mantissa is even. -/
structure Rounding where
  value : Nat
  low : Nat
  high : Nat
  denominator : Nat
  closed : Bool

/-- The rounding interval of a finite nonzero float. -/
def Rounding.ofFloat (x : Float) : Rounding :=
  let (m, e) := dyadic x
  let narrow := magnitudeBits x % Nat.pow 2 52 = 0 ∧ 1 < magnitudeBits x / Nat.pow 2 52
  let low := 4 * m - (if narrow then 1 else 2)
  match e - 2 with
  | .ofNat k => ⟨4 * m * Nat.pow 2 k, low * Nat.pow 2 k, (4 * m + 2) * Nat.pow 2 k, 1, m % 2 = 0⟩
  | .negSucc k => ⟨4 * m, low, 4 * m + 2, Nat.pow 2 (k + 1), m % 2 = 0⟩

/-- Whether `digits * unit` lies in the interval, everything scaled by `scale`. -/
def Rounding.holds (r : Rounding) (scale unit digits : Nat) : Bool :=
  let p := digits * unit
  if r.closed then r.low * scale ≤ p ∧ p ≤ r.high * scale
  else r.low * scale < p ∧ p < r.high * scale

/-- The nearer of the two neighbours of the value on the grid `10 ^ exponent` that lies in the
interval, if one does. -/
def Rounding.onGrid? (r : Rounding) (tie : Tie) (exponent : Int) : Option Decimal :=
  let (scale, unit) := match exponent with
    | .ofNat k => (1, r.denominator * Nat.pow 10 k)
    | .negSucc k => (Nat.pow 10 (k + 1), r.denominator)
  let v := r.value * scale
  let below := v / unit
  let above := below + 1
  let nearest := if 2 * (v - below * unit) < unit ∨
      (2 * (v - below * unit) = unit ∧ tie.takesLower below) then [below, above] else [above, below]
  (nearest.find? fun d => r.holds scale unit d).map fun d => ⟨d, exponent⟩

/-- The shortest decimal of the magnitude of a finite nonzero float. -/
def shortest (tie : Tie) (x : Float) : Decimal :=
  let r := Rounding.ofFloat x
  let point := decimalPoint r.value r.denominator
  let found := (List.range 17).findSome? fun n => r.onGrid? tie (point - (n + 1 : Nat))
  (found.getD ⟨0, 0⟩).trimZeros

end EntityGate.Number
