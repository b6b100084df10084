/-
# The float of an integer

The float that an integer is compared by has 53 binary digits.  Its rank is read off the integer:
the digits are counted, and the first 53 of them rounded, a half to the even one.  The proof goes
from the digits that are shifted out of a mantissa, over the bits that a float is packed into, to
the rank.
-/
import EntityGate.Json.Basic
import Mathlib

namespace EntityGate.Number

open Float.Model Float.Model.UnpackedFloat

/-! ## Rounding -/

/-- A quotient rounded to the nearest integer, a half going to the even one. -/
def halfEven (n s : Nat) : Nat :=
  if 2 * (n % s) < s then n / s
  else if 2 * (n % s) = s then n / s + n / s % 2
  else n / s + 1

lemma halfEven_bounds (n s : Nat) : n / s ≤ halfEven n s ∧ halfEven n s ≤ n / s + 1 := by
  unfold halfEven
  split
  · omega
  · split <;> omega

/-- Rounding depends on the ratio only. -/
lemma halfEven_mul {c : Nat} (hc : 0 < c) (n s : Nat) :
    halfEven (n * c) (s * c) = halfEven n s := by
  have hlt : 2 * (n % s * c) < s * c ↔ 2 * (n % s) < s := by
    rw [← Nat.mul_assoc, Nat.mul_lt_mul_right hc]
  have heq : 2 * (n % s * c) = s * c ↔ 2 * (n % s) = s := by
    rw [← Nat.mul_assoc, Nat.mul_left_inj hc.ne']
  simp only [halfEven, Nat.mul_mod_mul_right, Nat.mul_div_mul_right _ _ hc, hlt, heq]

/-- A quotient that is exact is not rounded. -/
lemma halfEven_of_dvd {n s : Nat} (hs : 0 < s) (h : s ∣ n) : halfEven n s = n / s := by
  rw [halfEven, Nat.mod_eq_zero_of_dvd h, if_pos (by omega)]

/-! ## Digits shifted out -/

/-- A mantissa with what its rounding needs to know of `k` digits that were shifted out. -/
def shifted (n k : Nat) : ExtendedMantissa where
  mantissa := n / 2 ^ k
  roundBit := 2 ^ k ≤ 2 * (n % 2 ^ k)
  stickyBit := 2 * (n % 2 ^ k) ≠ 0 ∧ 2 * (n % 2 ^ k) ≠ 2 ^ k

lemma shiftRightOne_shifted (n k : Nat) : (shifted n k).shiftRightOne = shifted n (k + 1) := by
  have hpow : 2 ^ (k + 1) = 2 * 2 ^ k := by rw [Nat.pow_succ, Nat.mul_comm]
  have hmod : n % 2 ^ (k + 1) = n % 2 ^ k + 2 ^ k * (n / 2 ^ k % 2) := by
    rw [Nat.pow_succ, Nat.mod_mul]
  have hlt : n % 2 ^ k < 2 ^ k := Nat.mod_lt _ (Nat.two_pow_pos k)
  simp only [shifted, ExtendedMantissa.shiftRightOne, ExtendedMantissa.mk.injEq]
  refine ⟨?_, ?_, ?_⟩
  · rw [Nat.div_div_eq_div_mul, Nat.pow_succ]
  · rw [Bool.eq_iff_iff, bne_iff_ne, decide_eq_true_eq, hmod, hpow]
    rcases Nat.mod_two_eq_zero_or_one (n / 2 ^ k) with h | h <;> rw [h] <;> omega
  · rw [Bool.eq_iff_iff, Bool.or_eq_true, decide_eq_true_eq, decide_eq_true_eq, decide_eq_true_eq,
      hmod, hpow]
    rcases Nat.mod_two_eq_zero_or_one (n / 2 ^ k) with h | h <;> rw [h] <;> omega

lemma shift_exact (n k : Nat) :
    ExtendedMantissa.ofMantissaAndAccuracy n .exact >>> k = shifted n k := by
  induction k with
  | zero =>
    simp [HShiftRight.hShiftRight, Nat.repeat, shifted, Nat.mod_one,
      ExtendedMantissa.ofMantissaAndAccuracy]
  | succ k ih =>
    rw [← shiftRightOne_shifted, ← ih]
    rfl

lemma roundedMantissa_eq (m : Nat) (round sticky : Bool) :
    (ExtendedMantissa.mk m round sticky).roundedMantissa =
      if round then if sticky then m + 1 else m + m % 2 else m := by
  cases round <;> cases sticky <;> rfl

lemma roundedMantissa_shifted (n k : Nat) :
    (shifted n k).roundedMantissa = halfEven n (2 ^ k) := by
  have hpos : 0 < 2 ^ k := Nat.two_pow_pos k
  simp only [shifted, roundedMantissa_eq, halfEven, decide_eq_true_eq]
  split
  · split <;> split <;> (try split) <;> omega
  · split
    · rfl
    · omega

/-! ## Rounding a mantissa -/

/-- The quotient of a number by the place of its first of 53 digits, rounded. -/
lemma halfEven_normal {n : Nat} (h : 52 ≤ n.log2) :
    2 ^ 52 ≤ halfEven n (2 ^ (n.log2 - 52)) ∧ halfEven n (2 ^ (n.log2 - 52)) ≤ 2 ^ 53 := by
  have hne : n ≠ 0 := by
    rintro rfl
    simp at h
  have hlow : 2 ^ 52 * 2 ^ (n.log2 - 52) ≤ n := by
    rw [← Nat.pow_add, Nat.add_sub_cancel' h]
    exact Nat.log2_self_le hne
  have hhigh : n < 2 ^ 53 * 2 ^ (n.log2 - 52) := by
    rw [← Nat.pow_add, show 53 + (n.log2 - 52) = n.log2 + 1 by omega]
    exact Nat.lt_log2_self
  have hpos := Nat.two_pow_pos (n.log2 - 52)
  have hquotient := (Nat.le_div_iff_mul_le hpos).mpr hlow
  have hless := (Nat.div_lt_iff_lt_mul hpos).mpr hhigh
  have hbounds := halfEven_bounds n (2 ^ (n.log2 - 52))
  omega

lemma targetExponent_eq {n : Nat} {e : Int} (h : -1074 ≤ e + n.log2 - 52) :
    Format.binary64.targetExponent (totalExponent n e) = e + n.log2 - 52 := by
  have hmin : Format.binary64.minExponent = -1074 := by decide
  have hbits : (Format.binary64.mantissaBits : Int) = 53 := by decide
  rw [Format.targetExponent, totalExponent, hmin, hbits]
  omega

lemma shiftToTargetExponent_eq {n : Nat} {e : Int} (hn : 52 ≤ n.log2)
    (he : -1074 ≤ e + n.log2 - 52) :
    shiftToTargetExponent .binary64 n e .exact = (shifted n (n.log2 - 52), e + n.log2 - 52) := by
  have hamount : (e + n.log2 - 52 - e).toNat = n.log2 - 52 := by omega
  rw [shiftToTargetExponent, targetExponent_eq he, shiftToExponent, hamount, shift_exact]
  simp only [Prod.mk.injEq, true_and]
  omega

/-- A float that has all 53 digits of its mantissa, with its rank. -/
def IsNormal (sign : Sign) (place : Nat) (u : UnpackedFloat) : Prop :=
  ∃ m e hm, u = .finite sign m e hm ∧ 2 ^ 52 ≤ m ∧ m < 2 ^ 53 ∧ -1074 ≤ e ∧ e ≤ 971 ∧
    (place : Int) = (e + 1074) * 2 ^ 52 + m

lemma log2_eq {m : Nat} (hlow : 2 ^ 52 ≤ m) (hhigh : m < 2 ^ 53) : m.log2 = 52 := by
  have hle := (Nat.le_log2 (by omega)).mpr hlow
  have hlt := (Nat.log2_lt (by omega)).mpr hhigh
  omega

lemma isNormal_of_mantissa {sign : Sign} {place : Nat} {s : ExtendedMantissa × Int}
    (hlow : 2 ^ 52 ≤ s.1.mantissa) (hhigh : s.1.mantissa < 2 ^ 53) (hemin : -1074 ≤ s.2)
    (hemax : s.2 ≤ 971) (hplace : (place : Int) = (s.2 + 1074) * 2 ^ 52 + s.1.mantissa) :
    IsNormal sign place (if h : s.1.mantissa = 0 then .zero sign
      else .finite sign s.1.mantissa s.2 (Nat.pos_of_ne_zero h)) := by
  rw [dif_neg (by omega)]
  exact ⟨_, _, _, rfl, hlow, hhigh, hemin, hemax, hplace⟩

/-- A mantissa is rounded to 53 digits; a carry goes into the exponent. -/
lemma roundWithAccuracy_normal {n : Nat} {e : Int} (sign : Sign) (hn : 52 ≤ n.log2)
    (hlow : -1074 ≤ e + n.log2 - 52) (hhigh : e + n.log2 - 52 ≤ 970) {place : Nat}
    (hplace : (place : Int) =
      (e + n.log2 + 1022) * 2 ^ 52 + halfEven n (2 ^ (n.log2 - 52))) :
    IsNormal sign place (roundWithAccuracy .binary64 sign n e .exact) := by
  obtain ⟨hmin, hmax⟩ := halfEven_normal hn
  obtain ⟨m, hm⟩ : ∃ m, halfEven n (2 ^ (n.log2 - 52)) = m := ⟨_, rfl⟩
  rw [hm] at hmin hmax hplace
  rw [roundWithAccuracy, shiftToTargetExponent_eq hn hlow]
  simp only [roundedMantissa_shifted, hm]
  rcases Nat.lt_or_eq_of_le hmax with hlt | rfl
  · have hlog := log2_eq hmin hlt
    have hsecond := shiftToTargetExponent_eq (n := m) (e := e + n.log2 - 52) hlog.ge (by omega)
    have hmantissa : (shifted m (m.log2 - 52)).mantissa = m := by
      rw [hlog]
      exact Nat.div_one m
    apply isNormal_of_mantissa <;> rw [hsecond] <;> simp only [hmantissa] <;> omega
  · have hlog : (2 ^ 53).log2 = 53 := Nat.log2_two_pow
    have hsecond := shiftToTargetExponent_eq (n := 2 ^ 53) (e := e + n.log2 - 52)
      (by omega) (by omega)
    have hmantissa : (shifted (2 ^ 53) ((2 ^ 53).log2 - 52)).mantissa = 2 ^ 52 := by
      rw [hlog]
      rfl
    apply isNormal_of_mantissa <;> rw [hsecond] <;> simp only [hmantissa] <;> omega

/-! ## Packing -/

lemma toNat_packComponents (sign : Sign) (exponent : BitVec 11) (mantissa : BitVec 52) :
    (packComponents .binary64 sign exponent mantissa).toNat =
      sign.toBitVec.toNat * 2 ^ 63 + (exponent.toNat * 2 ^ 52 + mantissa.toNat) := by
  rw [packComponents, BitVec.toNat_append, BitVec.toNat_append,
    ← Nat.shiftLeft_add_eq_or_of_lt mantissa.isLt, ← Nat.shiftLeft_add_eq_or_of_lt exponent.isLt,
    Nat.shiftLeft_eq, Nat.shiftLeft_eq]
  omega

/-- The bits of a float are those of its sign and of its rank. -/
lemma pack_normal {sign : Sign} {place : Nat} {u : UnpackedFloat} (h : IsNormal sign place u) :
    (UnpackedFloat.pack .binary64 u).toNat = sign.toBitVec.toNat * 2 ^ 63 + place ∧
      place < 2 ^ 63 := by
  obtain ⟨m, e, hm, rfl, hlow, hhigh, hemin, hemax, hplace⟩ := h
  have hbiased : (e + Format.binary64.exponentBias +
      Format.binary64.mantissaBitsWithoutImplicit).toNat = (e + 1075).toNat := by
    show (e + (1023 : Nat) + (52 : Nat)).toNat = _
    omega
  have hbits : Format.binary64.mantissaBits = 53 := by decide
  rw [UnpackedFloat.pack]
  simp only [hbiased, hbits, log2_eq hlow hhigh]
  rw [if_neg (by omega), if_pos trivial, toNat_packComponents, BitVec.toNat_ofNat,
    BitVec.toNat_ofNat]
  omega

lemma unpackSign_packComponents (sign : Sign) (exponent : BitVec 11) (mantissa : BitVec 52) :
    unpackSign (packComponents .binary64 sign exponent mantissa) = sign.toBitVec := by
  have hmantissa := mantissa.isLt
  have hexponent := exponent.isLt
  apply BitVec.eq_of_toNat_eq
  have hsign : sign.toBitVec.toNat < 2 := sign.toBitVec.isLt
  simp only [unpackSign, BitVec.toNat_cast, BitVec.extractLsb_toNat, Nat.shiftRight_eq_div_pow]
  rw [toNat_packComponents]
  omega

/-- A float is unpacked into what it was packed from. -/
lemma unpack_pack_normal {sign : Sign} {place : Nat} {u : UnpackedFloat}
    (h : IsNormal sign place u) :
    UnpackedFloat.unpack .binary64 (UnpackedFloat.pack .binary64 u) = u := by
  obtain ⟨m, e, hm, rfl, hlow, hhigh, hemin, hemax, hplace⟩ := h
  have hbiased : (e + Format.binary64.exponentBias +
      Format.binary64.mantissaBitsWithoutImplicit).toNat = (e + 1075).toNat := by
    show (e + (1023 : Nat) + (52 : Nat)).toNat = _
    omega
  have hbits : Format.binary64.mantissaBits = 53 := by decide
  have hsign : Sign.ofBitVec sign.toBitVec = sign := by cases sign <;> rfl
  have hexponent : (BitVec.ofNat 11 (e + 1075).toNat).toNat = (e + 1075).toNat := by
    rw [BitVec.toNat_ofNat]
    omega
  have hones : BitVec.ofNat 11 (e + 1075).toNat ≠ -1#11 := fun h => by
    have := congrArg BitVec.toNat h
    rw [hexponent] at this
    simp at this
    omega
  have hzero : BitVec.ofNat 11 (e + 1075).toNat ≠ 0#11 := fun h => by
    have := congrArg BitVec.toNat h
    rw [hexponent] at this
    simp at this
    omega
  have hmantissa : (1#1 ++ BitVec.ofNat 52 m).toNat = m := by
    rw [BitVec.toNat_append, ← Nat.shiftLeft_add_eq_or_of_lt (BitVec.ofNat 52 m).isLt,
      BitVec.toNat_ofNat, Nat.shiftLeft_eq]
    show 1 * 2 ^ 52 + m % 2 ^ 52 = m
    omega
  rw [UnpackedFloat.pack]
  simp only [hbiased, hbits, log2_eq hlow hhigh]
  rw [if_neg (by omega), if_pos trivial, UnpackedFloat.unpack]
  simp only [unpackMantissa_packComponents, unpackExponent_packComponents,
    unpackSign_packComponents, hsign, hexponent, hmantissa]
  rw [if_neg hones, if_neg hzero]
  simp only [UnpackedFloat.finite.injEq, true_and]
  show ((e + 1075).toNat : Int) - ((1023 : Nat) + (52 : Nat)) = e
  omega

/-! ## The float of a natural number -/

/-- The rank of the float of a natural number: its digits are counted, and the first 53 of them
rounded. -/
def place (n : Nat) : Nat :=
  if n = 0 then 0 else (n.log2 + 1022) * 2 ^ 52 + halfEven (n * 2 ^ 52) (2 ^ n.log2)

lemma log2_mul_two_pow {n : Nat} (hn : n ≠ 0) (k : Nat) : (n * 2 ^ k).log2 = n.log2 + k := by
  have hpos := Nat.two_pow_pos k
  rw [Nat.log2_eq_iff (Nat.mul_ne_zero hn hpos.ne'), Nat.pow_add,
    show n.log2 + k + 1 = (n.log2 + 1) + k by omega, Nat.pow_add]
  exact ⟨Nat.mul_le_mul_right _ (Nat.log2_self_le hn),
    Nat.mul_lt_mul_of_pos_right Nat.lt_log2_self hpos⟩

/-- However many zeros are put behind a number, its first 53 digits are rounded alike. -/
lemma halfEven_scaled {n k : Nat} (hk : 52 ≤ n.log2 + k) :
    halfEven (n * 2 ^ k) (2 ^ (n.log2 + k - 52)) = halfEven (n * 2 ^ 52) (2 ^ n.log2) := by
  rcases Nat.le_total k 52 with hle | hle
  · rw [← halfEven_mul (Nat.two_pow_pos (52 - k)) (n * 2 ^ k), Nat.mul_assoc, ← Nat.pow_add,
      ← Nat.pow_add]
    congr 3 <;> omega
  · rw [← halfEven_mul (Nat.two_pow_pos (k - 52)) (n * 2 ^ 52), Nat.mul_assoc, ← Nat.pow_add,
      ← Nat.pow_add]
    congr 3 <;> omega

lemma place_bounds {n : Nat} (hn : n ≠ 0) :
    (n.log2 + 1023) * 2 ^ 52 ≤ place n ∧ place n ≤ (n.log2 + 1024) * 2 ^ 52 := by
  have hlog := log2_mul_two_pow hn 52
  have hbounds := halfEven_normal (n := n * 2 ^ 52) (by omega)
  rw [hlog, Nat.add_sub_cancel] at hbounds
  rw [place, if_neg hn]
  constructor
  · calc (n.log2 + 1023) * 2 ^ 52
      _ = (n.log2 + 1022) * 2 ^ 52 + 2 ^ 52 := Nat.succ_mul ..
      _ ≤ _ := Nat.add_le_add_left hbounds.1 _
  · calc (n.log2 + 1022) * 2 ^ 52 + halfEven (n * 2 ^ 52) (2 ^ n.log2)
      _ ≤ (n.log2 + 1022) * 2 ^ 52 + 2 * 2 ^ 52 := Nat.add_le_add_left hbounds.2 _
      _ = (n.log2 + 1024) * 2 ^ 52 := (Nat.add_mul ..).symm

/-- Zeros behind a number are made up for by the exponent. -/
lemma roundWithAccuracy_scaled {n k : Nat} (hn : n ≠ 0) (hk : 52 ≤ n.log2 + k)
    (hlarge : n.log2 ≤ 64) :
    IsNormal .positive (place n)
      (roundWithAccuracy .binary64 .positive (n * 2 ^ k) (-k) .exact) := by
  have hlog := log2_mul_two_pow hn k
  refine roundWithAccuracy_normal .positive (by omega) (by omega) (by omega) ?_
  rw [place, if_neg hn, hlog, halfEven_scaled hk]
  omega

lemma ofNat_normal {n : Nat} (hn : n ≠ 0) (h : n < 2 ^ 53) :
    IsNormal .positive (place n) (UnpackedFloat.ofNat .binary64 n) := by
  have hlog := (Nat.log2_lt hn).mpr h
  have hcompare : compare (n : Int) 0 = .gt := by
    rw [Int.compare_eq_gt]
    omega
  have hamount : (0 - (0 + (n.log2 : Int) - 52)).toNat = 52 - n.log2 := by omega
  have hexponent : (0 : Int) - (52 - n.log2 : Nat) = -(52 - n.log2 : Nat) := by omega
  rw [UnpackedFloat.ofNat, UnpackedFloat.ofInt, UnpackedFloat.normalize, hcompare]
  show IsNormal .positive (place n) (UnpackedFloat.round .binary64 .positive n 0)
  rw [UnpackedFloat.round, targetExponent_eq (by omega), decreaseExponent, hamount]
  simp only [Nat.shiftLeft_eq, hexponent]
  exact roundWithAccuracy_scaled hn (by omega) (by omega)

/-- A float times one is that float. -/
lemma mul_one_normal {place : Nat} {u : UnpackedFloat} (h : IsNormal .positive place u)
    (hplace : place < 2046 * 2 ^ 52) :
    IsNormal .positive place
      (UnpackedFloat.mul .binary64 u (.finite .positive (2 ^ 52) (-52) (by decide))) := by
  obtain ⟨m, e, hm, rfl, hlow, hhigh, hemin, hemax, heq⟩ := h
  have hlog : (m * 2 ^ 52).log2 = 104 := by
    rw [log2_mul_two_pow (by omega), log2_eq hlow hhigh]
  have hround : halfEven (m * 2 ^ 52) (2 ^ 52) = m := by
    rw [halfEven_of_dvd (by decide) (Nat.dvd_mul_left _ _), Nat.mul_div_cancel _ (by decide)]
  refine roundWithAccuracy_normal (n := m * 2 ^ 52) (e := e + -52) (.positive * .positive)
    (by omega) (by omega) (by omega) ?_
  rw [hlog, hround]
  omega

/-- Below `2 ^ 53` a number is taken as a word, and multiplied by one. -/
lemma toModel_ofNat_small {n : Nat} (h : n < 2 ^ 53) :
    (Float.ofNat n).toModel = Float.Model.pack (UnpackedFloat.mul .binary64
      (UnpackedFloat.unpack .binary64
        (UnpackedFloat.pack .binary64 (UnpackedFloat.ofNat .binary64 n)))
      (.finite .positive (2 ^ 52) (-52) (by decide))) := by
  have hn : n.toUInt64.toNat = n := by
    rw [Nat.toUInt64_eq]
    exact UInt64.toNat_ofNat_of_lt' (h.trans (by decide))
  have hone : UnpackedFloat.unpack .binary64 (0x3FF0000000000000 : UInt64).toBitVec =
      .finite .positive (2 ^ 52) (-52) (by decide) := rfl
  show (Float.ofScientific n false 0).toModel = _
  rw [Float.ofScientific, dif_pos ⟨h, by decide⟩]
  show Float.Model.pack (UnpackedFloat.mul .binary64
    (UnpackedFloat.unpack .binary64
      (UnpackedFloat.pack .binary64 (UnpackedFloat.ofNat .binary64 n.toUInt64.toNat)))
    (UnpackedFloat.unpack .binary64 (0x3FF0000000000000 : UInt64).toBitVec)) = _
  rw [hn, hone]

/-- From `2 ^ 53` on a number is rounded from itself with 53 zeros behind it. -/
lemma toModel_ofNat_large {n : Nat} (h : 2 ^ 53 ≤ n) :
    (Float.ofNat n).toModel = Float.Model.pack
      (roundWithAccuracy .binary64 .positive (n * 2 ^ 53) (-(53 : Nat)) .exact) := by
  have hne : n ≠ 0 := by omega
  have hexponent : (0 : Int) ≤ 2 ^ Format.binary64.exponentBits := by decide
  show (Float.ofScientific n false 0).toModel = _
  rw [Float.ofScientific, dif_neg (by omega)]
  show Float.Model.ofScientific n 0 = _
  rw [Float.Model.ofScientific, UnpackedFloat.ofScientific, dif_neg hne, if_neg (by decide),
    if_neg (by omega), if_pos (by omega)]
  show Float.Model.pack
    (roundWithAccuracy .binary64 .positive (n <<< 53 * 1) (-53 + 0) .exact) = _
  rw [Nat.mul_one, Nat.shiftLeft_eq]
  rfl

lemma toModel_ofNat {n : Nat} (hn : n ≠ 0) (h : n < 2 ^ 64) :
    ∃ u, IsNormal .positive (place n) u ∧ (Float.ofNat n).toModel = Float.Model.pack u := by
  have hlog := (Nat.log2_lt hn).mpr h
  have hplace := place_bounds hn
  rcases Nat.lt_or_ge n (2 ^ 53) with hlt | hge
  · have hnormal := ofNat_normal hn hlt
    refine ⟨_, mul_one_normal hnormal (by omega), ?_⟩
    rw [toModel_ofNat_small hlt, unpack_pack_normal hnormal]
  · exact ⟨_, roundWithAccuracy_scaled hn (by omega) (by omega), toModel_ofNat_large hge⟩

/-! ## Ranks -/

lemma rank_of_pack {x : Float} {sign : Sign} {place : Nat} {u : UnpackedFloat}
    (h : IsNormal sign place u) (hx : x.toModel = Float.Model.pack u) :
    rank x = sign.apply place := by
  obtain ⟨hbits, hlt⟩ := pack_normal h
  have hx' : x.toBits.toNat = sign.toBitVec.toNat * 2 ^ 63 + place := by
    rw [← hbits, Float.toBits, hx]
    rfl
  have hpow : Nat.pow 2 63 = 2 ^ 63 := rfl
  cases sign with
  | positive =>
    have hsign : Sign.positive.toBitVec.toNat = 0 := rfl
    rw [hsign] at hx'
    rw [rank, signBit, decide_eq_false (by omega), magnitudeBits, hx', hpow,
      Nat.mod_eq_of_lt (by omega)]
    simp [Sign.apply]
  | negative =>
    have hsign : Sign.negative.toBitVec.toNat = 1 := rfl
    rw [hsign] at hx'
    rw [rank, signBit, decide_eq_true (by omega), magnitudeBits, hx', hpow]
    simp only [if_true, Sign.apply]
    omega

lemma IsNormal.neg {place : Nat} {u : UnpackedFloat} (h : IsNormal .positive place u) :
    IsNormal .negative place u.neg := by
  obtain ⟨m, e, hm, rfl, hrest⟩ := h
  exact ⟨m, e, hm, rfl, hrest⟩

lemma order_ofNat {n : Nat} (h : n < 2 ^ 64) : order (.int n) = place n := by
  rcases Nat.eq_zero_or_pos n with rfl | hpos
  · decide
  · obtain ⟨u, hu, hx⟩ := toModel_ofNat hpos.ne' h
    exact rank_of_pack hu hx

lemma order_negSucc {n : Nat} (h : n + 1 < 2 ^ 64) :
    order (.int (.negSucc n)) = -(place (n + 1) : Int) := by
  obtain ⟨u, hu, hx⟩ := toModel_ofNat n.succ_ne_zero h
  refine rank_of_pack hu.neg ?_
  show Float.Model.pack (Float.ofNat (n + 1)).toModel.unpack.neg = _
  rw [hx]
  show Float.Model.pack (UnpackedFloat.unpack .binary64 (UnpackedFloat.pack .binary64 u)).neg = _
  rw [unpack_pack_normal hu]

end EntityGate.Number
