/-
# Integers as columns compare them

Integers are compared by their floats, which have 53 binary digits.  An integer with more of them
stands for the nearest that has no more, of two equally near ones for the one whose last digit is
even, so that neighbours with more than 53 digits may be taken for each other.  An order is never
turned round by that, and nothing is lost up to `2 ^ 53`.
-/
import EntityGate.Proofs.Meaning
import EntityGate.Proofs.Reading
import EntityGate.Proofs.Rounding

namespace EntityGate

namespace Number

/-! ## The nearest of 53 digits -/

/-- How far apart the numbers of 53 significant binary digits lie at a number. -/
def spacing (n : Nat) : Nat := 2 ^ (n.log2 - 52)

/-- The nearest number of 53 significant binary digits, of two the one whose last digit is
even. -/
def nearestNat (n : Nat) : Nat := halfEven n (spacing n) * spacing n

/-- An integer with its magnitude mapped. -/
def signed (f : Nat → Nat) : Int → Int
  | .ofNat n => f n
  | .negSucc n => -(f (n + 1) : Int)

/-- The nearest integer of 53 significant binary digits. -/
def nearest : Int → Int := signed nearestNat

/-- A number has no more than 53 significant binary digits. -/
def Short (n : Nat) : Prop := 2 ^ n.log2 ∣ n * 2 ^ 52

lemma halfEven_mono {n n' : Nat} (s : Nat) (h : n ≤ n') : halfEven n s ≤ halfEven n' s := by
  rcases Nat.lt_or_ge (n / s) (n' / s) with hlt | hge
  · exact (halfEven_bounds n s).2.trans (Nat.le_trans hlt (halfEven_bounds n' s).1)
  · have hquotient : n' / s = n / s := Nat.le_antisymm hge (Nat.div_le_div_right h)
    have hn := Nat.div_add_mod n s
    have hn' := Nat.div_add_mod n' s
    have hmod : n % s ≤ n' % s := by
      rw [hquotient] at hn'
      omega
    unfold halfEven
    rw [hquotient]
    split <;> split <;> (try split) <;> (try split) <;> omega

lemma short_of_log2_le {n : Nat} (h : n.log2 ≤ 52) : Short n :=
  Dvd.dvd.mul_left (Nat.pow_dvd_pow 2 h) n

/-- Up to `2 ^ 53` every number is short. -/
lemma short_of_le {n : Nat} (h : n ≤ 2 ^ 53) : Short n := by
  rcases Nat.lt_or_eq_of_le h with hlt | rfl
  · rcases Nat.eq_zero_or_pos n with rfl | hpos
    · exact ⟨0, rfl⟩
    · have hlog := (Nat.log2_lt hpos.ne').mpr hlt
      exact short_of_log2_le (by omega)
  · rw [Short, Nat.log2_two_pow]
    exact Nat.dvd_mul_right _ _

/-- A short number is its own float. -/
lemma place_of_short {n : Nat} (hn : n ≠ 0) (h : Short n) :
    place n = (n.log2 + 1022) * 2 ^ 52 + n * 2 ^ 52 / 2 ^ n.log2 := by
  rw [place, if_neg hn, halfEven_of_dvd (Nat.two_pow_pos _) h]

lemma place_lt_of_short {n : Nat} (hn : n ≠ 0) (h : Short n) :
    place n < (n.log2 + 1024) * 2 ^ 52 := by
  have hquotient : n * 2 ^ 52 / 2 ^ n.log2 < 2 * 2 ^ 52 := by
    rw [Nat.div_lt_iff_lt_mul (Nat.two_pow_pos _)]
    calc n * 2 ^ 52
      _ < 2 ^ (n.log2 + 1) * 2 ^ 52 := Nat.mul_lt_mul_of_pos_right Nat.lt_log2_self (by decide)
      _ = 2 * 2 ^ 52 * 2 ^ n.log2 := by
        rw [Nat.pow_succ, Nat.mul_comm _ 2, Nat.mul_assoc, Nat.mul_assoc, Nat.mul_comm (2 ^ 52)]
  calc place n
    _ = (n.log2 + 1022) * 2 ^ 52 + n * 2 ^ 52 / 2 ^ n.log2 := place_of_short hn h
    _ < (n.log2 + 1022) * 2 ^ 52 + 2 * 2 ^ 52 := Nat.add_lt_add_left hquotient _
    _ = (n.log2 + 1024) * 2 ^ 52 := (Nat.add_mul ..).symm

/-- The floats of short numbers are in the order of these. -/
lemma place_lt_place {n n' : Nat} (hs : Short n) (hs' : Short n') (h : n < n') :
    place n < place n' := by
  have hn' : n' ≠ 0 := by omega
  rcases Nat.eq_zero_or_pos n with rfl | hpos
  · have hplace := place_bounds hn'
    show 0 < place n'
    omega
  have hlog : n.log2 ≤ n'.log2 := (Nat.le_log2 hn').mpr ((Nat.log2_self_le hpos.ne').trans h.le)
  rcases Nat.lt_or_eq_of_le hlog with hlt | heq
  · calc place n
      _ < (n.log2 + 1024) * 2 ^ 52 := place_lt_of_short hpos.ne' hs
      _ ≤ (n'.log2 + 1023) * 2 ^ 52 := Nat.mul_le_mul_right _ (by omega)
      _ ≤ place n' := (place_bounds hn').1
  · rw [place_of_short hpos.ne' hs, place_of_short hn' hs', heq]
    have hdiv : n * 2 ^ 52 / 2 ^ n'.log2 < n' * 2 ^ 52 / 2 ^ n'.log2 :=
      Nat.div_lt_div_of_lt_of_dvd hs' (Nat.mul_lt_mul_of_pos_right h (by decide))
    exact Nat.add_lt_add_left hdiv _

/-- The floats of any numbers are not against the order of these. -/
lemma place_mono {n n' : Nat} (h : n ≤ n') : place n ≤ place n' := by
  rcases Nat.eq_zero_or_pos n with rfl | hpos
  · exact Nat.zero_le _
  have hn' : n' ≠ 0 := by omega
  have hlog : n.log2 ≤ n'.log2 := (Nat.le_log2 hn').mpr ((Nat.log2_self_le hpos.ne').trans h)
  rcases Nat.lt_or_eq_of_le hlog with hlt | heq
  · calc place n
      _ ≤ (n.log2 + 1024) * 2 ^ 52 := (place_bounds hpos.ne').2
      _ ≤ (n'.log2 + 1023) * 2 ^ 52 := Nat.mul_le_mul_right _ (by omega)
      _ ≤ place n' := (place_bounds hn').1
  · rw [place, place, if_neg hpos.ne', if_neg hn', heq]
    exact Nat.add_le_add_left (halfEven_mono _ (Nat.mul_le_mul_right _ h)) _

/-! ## Rounding to the nearest -/

/-- What a number of more than 53 digits is rounded to, by the first 53 of them. -/
lemma nearestNat_cases {n : Nat} (h : 52 ≤ n.log2) :
    ∃ m, nearestNat n = m * 2 ^ (n.log2 - 52) ∧ place n = (n.log2 + 1022) * 2 ^ 52 + m ∧
      2 ^ 52 ≤ m ∧ m ≤ 2 ^ 53 := by
  have hn : n ≠ 0 := by
    rintro rfl
    simp at h
  obtain ⟨hlow, hhigh⟩ := halfEven_normal h
  refine ⟨_, rfl, ?_, hlow, hhigh⟩
  have hscaled := halfEven_scaled (n := n) (k := 0) h
  rw [Nat.add_zero, Nat.pow_zero, Nat.mul_one] at hscaled
  rw [place, if_neg hn, ← hscaled]
  rfl

/-- A number of 53 digits with zeros behind them, or the next power of two. -/
lemma short_mul {m : Nat} (hlow : 2 ^ 52 ≤ m) (hhigh : m ≤ 2 ^ 53) (k : Nat) :
    Short (m * 2 ^ k) ∧ place (m * 2 ^ k) = (k + 1074) * 2 ^ 52 + m := by
  have hm : m ≠ 0 := by omega
  have hne : m * 2 ^ k ≠ 0 := Nat.mul_ne_zero hm (Nat.two_pow_pos k).ne'
  rcases Nat.lt_or_eq_of_le hhigh with hlt | rfl
  · have hlog : (m * 2 ^ k).log2 = 52 + k := by rw [log2_mul_two_pow hm, log2_eq hlow hlt]
    have hdigits : m * 2 ^ k * 2 ^ 52 = m * 2 ^ (52 + k) := by
      rw [Nat.mul_assoc, ← Nat.pow_add, Nat.add_comm]
    have hshort : Short (m * 2 ^ k) := by
      rw [Short, hlog, hdigits]
      exact Nat.dvd_mul_left _ _
    refine ⟨hshort, ?_⟩
    rw [place_of_short hne hshort, hlog, hdigits, Nat.mul_div_cancel _ (Nat.two_pow_pos _),
      show 52 + k + 1022 = k + 1074 by omega]
  · have hlog : (2 ^ 53 * 2 ^ k).log2 = 53 + k := by rw [← Nat.pow_add, Nat.log2_two_pow]
    have hdigits : 2 ^ 53 * 2 ^ k * 2 ^ 52 = 2 ^ 52 * 2 ^ (53 + k) := by
      rw [← Nat.pow_add, Nat.mul_comm]
    have hshort : Short (2 ^ 53 * 2 ^ k) := by
      rw [Short, hlog, hdigits]
      exact Nat.dvd_mul_left _ _
    refine ⟨hshort, ?_⟩
    rw [place_of_short hne hshort, hlog, hdigits, Nat.mul_div_cancel _ (Nat.two_pow_pos _),
      show 53 + k + 1022 = k + 1074 + 1 by omega, Nat.succ_mul, Nat.add_assoc]
    rfl

/-- A number is rounded to a short one with the same float. -/
lemma nearestNat_spec (n : Nat) : Short (nearestNat n) ∧ place (nearestNat n) = place n := by
  rcases Nat.le_total n.log2 52 with hlog | hlog
  · have hself : nearestNat n = n := by
      rw [nearestNat, spacing, Nat.sub_eq_zero_of_le hlog, Nat.pow_zero,
        halfEven_of_dvd Nat.one_pos (Nat.one_dvd n), Nat.div_one, Nat.mul_one]
    rw [hself]
    exact ⟨short_of_log2_le hlog, rfl⟩
  · obtain ⟨m, hm, hplace, hlow, hhigh⟩ := nearestNat_cases hlog
    obtain ⟨hshort, hrounded⟩ := short_mul hlow hhigh (n.log2 - 52)
    rw [hm, hplace, hrounded]
    refine ⟨hshort, ?_⟩
    omega

/-- Numbers have the order of their floats after rounding. -/
lemma nearestNat_lt_iff {n n' : Nat} : nearestNat n < nearestNat n' ↔ place n < place n' := by
  obtain ⟨hshort, hplace⟩ := nearestNat_spec n
  obtain ⟨hshort', hplace'⟩ := nearestNat_spec n'
  rw [← hplace, ← hplace']
  refine ⟨place_lt_place hshort hshort', fun hlt => ?_⟩
  by_contra hle
  exact absurd hlt (Nat.not_lt.mpr (place_mono (Nat.not_lt.mp hle)))

lemma nearestNat_mono {n n' : Nat} (h : n ≤ n') : nearestNat n ≤ nearestNat n' := by
  by_contra hlt
  exact absurd (nearestNat_lt_iff.mp (Nat.not_le.mp hlt)) (Nat.not_lt.mpr (place_mono h))

/-- A number is rounded to itself if it is short. -/
lemma nearestNat_of_short {n : Nat} (h : Short n) : nearestNat n = n := by
  obtain ⟨hshort, hplace⟩ := nearestNat_spec n
  rcases Nat.lt_trichotomy (nearestNat n) n with hlt | heq | hgt
  · exact absurd hplace (place_lt_place hshort h hlt).ne
  · exact heq
  · exact absurd hplace (place_lt_place h hshort hgt).ne'

/-! ## Integers of either sign -/

/-- Of functions that order numbers alike, and zero first, the integers are ordered alike. -/
lemma signed_lt_iff {f g : Nat → Nat} (h : ∀ n n', f n < f n' ↔ g n < g n') (hf : f 0 = 0)
    (hg : g 0 = 0) (a b : Int) : signed f a < signed f b ↔ signed g a < signed g b := by
  have hpos : ∀ n, 0 < f n ↔ 0 < g n := fun n => by
    have := h 0 n
    rwa [hf, hg] at this
  cases a with
  | ofNat n =>
    cases b with
    | ofNat n' =>
      have := h n n'
      simp only [signed]
      omega
    | negSucc n' =>
      simp only [signed]
      omega
  | negSucc n =>
    cases b with
    | ofNat n' =>
      have := hpos (n + 1)
      have := hpos n'
      simp only [signed]
      omega
    | negSucc n' =>
      have := h (n' + 1) (n + 1)
      simp only [signed]
      omega

lemma signed_mono {f : Nat → Nat} (h : ∀ n n', n ≤ n' → f n ≤ f n') {a b : Int} (hab : a ≤ b) :
    signed f a ≤ signed f b := by
  cases a with
  | ofNat n =>
    cases b with
    | ofNat n' =>
      have := h n n' (Int.ofNat_le.mp hab)
      simp only [signed]
      omega
    | negSucc n' =>
      exact absurd hab (Int.not_le.mpr ((Int.negSucc_lt_zero n').trans_le (Int.natCast_nonneg n)))
  | negSucc n =>
    cases b with
    | ofNat n' =>
      simp only [signed]
      omega
    | negSucc n' =>
      have := h (n' + 1) (n + 1) (by omega)
      simp only [signed]
      omega

/-- The order of an integer is the rank of the float of its magnitude, with its sign. -/
lemma order_int {n : Int} (h : FitsWord n) : order (.int n) = signed place n := by
  obtain ⟨hlow, hhigh⟩ := fitsWord_iff.mp h
  cases n with
  | ofNat n => exact order_ofNat (Int.ofNat_lt.mp hhigh)
  | negSucc n => exact order_negSucc (by omega)

/-- Integers stand to each other by their floats as what they are rounded to does. -/
lemma compare_order {a b : Int} (ha : FitsWord a) (hb : FitsWord b) :
    compare (order (.int a)) (order (.int b)) = compare (nearest a) (nearest b) := by
  have hlt := signed_lt_iff (f := place) (fun n n' => nearestNat_lt_iff.symm) rfl rfl
  rw [order_int ha, order_int hb, Int.compare_eq_ite_lt, Int.compare_eq_ite_lt, nearest,
    if_congr (hlt a b) rfl (if_congr (hlt b a) rfl rfl)]

lemma nearest_mono {a b : Int} (h : a ≤ b) : nearest a ≤ nearest b :=
  signed_mono (fun _ _ => nearestNat_mono) h

/-- Up to `2 ^ 53` on either side nothing is rounded. -/
lemma nearest_of_natAbs_le {n : Int} (h : n.natAbs ≤ 2 ^ 53) : nearest n = n := by
  cases n with
  | ofNat n => exact congrArg Int.ofNat (nearestNat_of_short (short_of_le h))
  | negSucc n =>
    have hself : nearestNat (n + 1) = n + 1 := nearestNat_of_short (short_of_le h)
    show -(nearestNat (n + 1) : Int) = _
    rw [hself]
    rfl

end Number

/-! ## Tests of integers -/

open Column
open Number (FitsWord nearest compare_order nearest_mono nearest_of_natAbs_le)

/-- What conditions on columns that hold integers of some kind say, and how rows are ordered by
these, if each integer counts as what `value` makes of it. -/
structure IntegersCountAs (D : Int → Prop) (value : Int → Int) : Prop where
  equal : ∀ a b, D a → D b →
    test .eq (.int a) [.int b] = .ok (decide (value a = value b)) ∧
    test .neq (.int a) [.int b] = .ok (decide (value a ≠ value b))
  before : ∀ a b, D a → D b →
    test .lt (.int a) [.int b] = .ok (decide (value a < value b)) ∧
    test .lte (.int a) [.int b] = .ok (decide (value a ≤ value b))
  after : ∀ a b, D a → D b →
    test .gt (.int a) [.int b] = .ok (decide (value b < value a)) ∧
    test .gte (.int a) [.int b] = .ok (decide (value b ≤ value a))
  between : ∀ a b c, D a → D b → D c →
    test .between (.int a) [.int b, .int c] =
      .ok (decide (value b ≤ value a ∧ value a ≤ value c))
  /-- Members are given one by one, or as the only argument. -/
  member : ∀ (a : Int) (bs : List Int), D a → (∀ b ∈ bs, D b) →
    ∀ arguments ∈ [bs.map Json.int, [.arr (bs.map Json.int)]],
      test .isIn (.int a) arguments = .ok (decide (∃ b ∈ bs, value a = value b)) ∧
      test .notIn (.int a) arguments = .ok (decide (∀ b ∈ bs, value a ≠ value b))
  ordered : ∀ row other column a b, D a → D b →
    QuerySpec.cell row column = .int a → QuerySpec.cell other column = .int b →
    QuerySpec.columnOrdering (column, .asc) row other = compare (value a) (value b) ∧
    QuerySpec.columnOrdering (column, .desc) row other = compare (value b) (value a)
  /-- A query for the rows with one integer in a column. -/
  kept : ∀ (q : QuerySpec) field column operand b rows (held : Json → Int), D b →
    q.conditions = some (.predicate field .eq [operand]) → q.column? field = .ok column →
    (∀ row ∈ rows, q.operandValue row operand = .ok (.int b) ∧
      QuerySpec.cell row column = .int (held row) ∧ D (held row)) →
    q.keep rows = .ok (rows.filter fun row => value (held row) = value b)

namespace IntegersCountAs

variable {D D' : Int → Prop} {value value' : Int → Int}

lemma mono (h : IntegersCountAs D value) (hD : ∀ a, D' a → D a) : IntegersCountAs D' value where
  equal a b ha hb := h.equal a b (hD a ha) (hD b hb)
  before a b ha hb := h.before a b (hD a ha) (hD b hb)
  after a b ha hb := h.after a b (hD a ha) (hD b hb)
  between a b c ha hb hc := h.between a b c (hD a ha) (hD b hb) (hD c hc)
  member a bs ha hbs := h.member a bs (hD a ha) fun b hb => hD b (hbs b hb)
  ordered row other column a b ha hb := h.ordered row other column a b (hD a ha) (hD b hb)
  kept q field column operand b rows held hb hconditions hcolumn hrows :=
    h.kept q field column operand b rows held (hD b hb) hconditions hcolumn fun row hrow =>
      ⟨(hrows row hrow).1, (hrows row hrow).2.1, hD _ (hrows row hrow).2.2⟩

/-- Only the order counts. -/
lemma congr (h : IntegersCountAs D value)
    (hle : ∀ a b, D a → D b → (value a ≤ value b ↔ value' a ≤ value' b)) :
    IntegersCountAs D value' := by
  have heq : ∀ a b, D a → D b → (value a = value b ↔ value' a = value' b) := by
    intro a b ha hb
    rw [Int.le_antisymm_iff, Int.le_antisymm_iff, hle a b ha hb, hle b a hb ha]
  have hlt : ∀ a b, D a → D b → (value a < value b ↔ value' a < value' b) := by
    intro a b ha hb
    rw [← Int.not_le, ← Int.not_le, hle b a hb ha]
  have hcompare : ∀ a b, D a → D b →
      compare (value a) (value b) = compare (value' a) (value' b) := by
    intro a b ha hb
    rw [Int.compare_eq_ite_lt, Int.compare_eq_ite_lt,
      if_congr (hlt a b ha hb) rfl (if_congr (hlt b a hb ha) rfl rfl)]
  refine ⟨?equal, ?before, ?after, ?between, ?member, ?ordered, ?kept⟩
  case equal =>
    intro a b ha hb
    rw [(h.equal a b ha hb).1, (h.equal a b ha hb).2]
    exact ⟨congrArg Except.ok (decide_eq_decide.mpr (heq a b ha hb)),
      congrArg Except.ok (decide_eq_decide.mpr (not_congr (heq a b ha hb)))⟩
  case before =>
    intro a b ha hb
    rw [(h.before a b ha hb).1, (h.before a b ha hb).2]
    exact ⟨congrArg Except.ok (decide_eq_decide.mpr (hlt a b ha hb)),
      congrArg Except.ok (decide_eq_decide.mpr (hle a b ha hb))⟩
  case after =>
    intro a b ha hb
    rw [(h.after a b ha hb).1, (h.after a b ha hb).2]
    exact ⟨congrArg Except.ok (decide_eq_decide.mpr (hlt b a hb ha)),
      congrArg Except.ok (decide_eq_decide.mpr (hle b a hb ha))⟩
  case between =>
    intro a b c ha hb hc
    rw [h.between a b c ha hb hc]
    exact congrArg Except.ok
      (decide_eq_decide.mpr (and_congr (hle b a hb ha) (hle a c ha hc)))
  case member =>
    intro a bs ha hbs arguments harguments
    obtain ⟨hin, hnotIn⟩ := h.member a bs ha hbs arguments harguments
    rw [hin, hnotIn]
    exact ⟨congrArg Except.ok (decide_eq_decide.mpr
        (exists_congr fun b => and_congr_right fun hb => heq a b ha (hbs b hb))),
      congrArg Except.ok (decide_eq_decide.mpr
        (forall₂_congr fun b hb => not_congr (heq a b ha (hbs b hb))))⟩
  case ordered =>
    intro row other column a b ha hb hrow hother
    rw [← hcompare a b ha hb, ← hcompare b a hb ha]
    exact h.ordered row other column a b ha hb hrow hother
  case kept =>
    intro q field column operand b rows held hb hconditions hcolumn hrows
    rw [h.kept q field column operand b rows held hb hconditions hcolumn hrows]
    exact congrArg Except.ok (List.filter_congr fun row hrow =>
      decide_eq_decide.mpr (heq _ b (hrows row hrow).2.2 hb))

end IntegersCountAs

section Tests

variable {a b : Int}

lemma compares_int (ha : FitsWord a) (hb : FitsWord b) (t : Ordering → Bool) :
    compares t (.int a) (.int b) = t (compare (nearest a) (nearest b)) := by
  rw [← compare_order ha hb]
  rfl

lemma same_int (ha : FitsWord a) (hb : FitsWord b) :
    same (.int a) (.int b) = decide (nearest a = nearest b) := by
  have htied : Number.order (.int a) = Number.order (.int b) ↔ nearest a = nearest b := by
    rw [← Int.compare_eq_eq, compare_order ha hb, Int.compare_eq_eq]
  exact decide_eq_decide.mpr htied

lemma isLT_compare (a b : Int) : (compare a b).isLT = decide (a < b) := by
  rw [Bool.eq_iff_iff, decide_eq_true_eq, ← Int.compare_eq_lt]
  cases compare a b <;> decide

lemma isGT_compare (a b : Int) : (compare a b).isGT = decide (b < a) := by
  rw [Bool.eq_iff_iff, decide_eq_true_eq, ← Int.compare_eq_gt]
  cases compare a b <;> decide

lemma isLE_compare (a b : Int) : (compare a b).isLE = decide (a ≤ b) := by
  rw [Bool.eq_iff_iff, decide_eq_true_eq, Int.isLE_compare]

lemma isGE_compare (a b : Int) : (compare a b).isGE = decide (b ≤ a) := by
  rw [Bool.eq_iff_iff, decide_eq_true_eq, Int.isGE_compare]

lemma any_same_int {bs : List Int} (ha : FitsWord a) (hbs : ∀ b ∈ bs, FitsWord b) :
    (bs.map Json.int).any (same (.int a)) = decide (∃ b ∈ bs, nearest a = nearest b) := by
  rw [Bool.eq_iff_iff, List.any_map, List.any_eq_true, decide_eq_true_eq]
  refine exists_congr fun b => and_congr_right fun hb => ?_
  rw [Function.comp_apply, same_int ha (hbs b hb), decide_eq_true_eq]

lemma members_ints (bs : List Int) : members (bs.map Json.int) = bs.map Json.int := by
  match bs with
  | [] => rfl
  | [_] => rfl
  | _ :: _ :: _ => rfl

end Tests

/-- Of rows that hold integers, a query for one of these keeps those whose integer passes. -/
lemma keep_equal {q : QuerySpec} {field column : String} {operand : Operand} {b : Int}
    {held : Json → Int} (hb : FitsWord b)
    (hconditions : q.conditions = some (.predicate field .eq [operand]))
    (hcolumn : q.column? field = .ok column) (rows : List Json)
    (hrows : ∀ row ∈ rows, q.operandValue row operand = .ok (.int b) ∧
      QuerySpec.cell row column = .int (held row) ∧ FitsWord (held row)) :
    q.keep rows = .ok (rows.filter fun row => nearest (held row) = nearest b) := by
  induction rows with
  | nil => rfl
  | cons row rest ih =>
    obtain ⟨hoperand, hcell, hheld⟩ := hrows row List.mem_cons_self
    have hholds : q.clauseHolds row q.conditions =
        .ok (decide (nearest (held row) = nearest b)) := by
      rw [hconditions, ← same_int hheld hb, ← hcell]
      simp only [QuerySpec.clauseHolds, QuerySpec.holds, hcolumn, List.mapM_cons, List.mapM_nil,
        hoperand]
      rfl
    rw [QuerySpec.keep, hholds, ih fun row' hrow' => hrows row' (List.mem_cons_of_mem _ hrow'),
      List.filter_cons]
    rfl

/-- All integers of a word are compared as the nearest integers of 53 binary digits. -/
lemma integers_count_as_nearest : IntegersCountAs FitsWord nearest := by
  refine ⟨?equal, ?before, ?after, ?between, ?member, ?ordered, ?kept⟩
  case equal =>
    intro a b ha hb
    have hsame := same_int ha hb
    refine ⟨congrArg Except.ok hsame, congrArg Except.ok ?_⟩
    show (!same (.int a) (.int b)) = _
    rw [hsame, decide_not]
  case before =>
    intro a b ha hb
    exact ⟨congrArg Except.ok ((compares_int ha hb _).trans (isLT_compare _ _)),
      congrArg Except.ok ((compares_int ha hb _).trans (isLE_compare _ _))⟩
  case after =>
    intro a b ha hb
    exact ⟨congrArg Except.ok ((compares_int ha hb _).trans (isGT_compare _ _)),
      congrArg Except.ok ((compares_int ha hb _).trans (isGE_compare _ _))⟩
  case between =>
    intro a b c ha hb hc
    show Except.ok (compares Ordering.isGE (.int a) (.int b) &&
      compares Ordering.isLE (.int a) (.int c)) = _
    rw [compares_int ha hb, compares_int ha hc, isGE_compare, isLE_compare, Bool.decide_and]
  case member =>
    intro a bs ha hbs arguments harguments
    have hmembers : members arguments = bs.map Json.int := by
      rcases List.mem_pair.mp harguments with rfl | rfl
      · exact members_ints bs
      · rfl
    have hmember : isMember (.int a) arguments = decide (∃ b ∈ bs, nearest a = nearest b) := by
      rw [isMember, hmembers, any_same_int ha hbs]
    refine ⟨congrArg Except.ok hmember, congrArg Except.ok ?_⟩
    rw [hmember, ← decide_not]
    simp only [not_exists, not_and, ne_eq]
  case ordered =>
    intro row other column a b ha hb hrow hother
    have horder : (compare? (QuerySpec.cell row column) (QuerySpec.cell other column)).getD .eq =
        compare (nearest a) (nearest b) := by
      rw [hrow, hother, ← compare_order ha hb]
      rfl
    refine ⟨horder, ?_⟩
    rw [← Int.compare_swap]
    exact congrArg Ordering.swap horder
  case kept =>
    intro q field column operand b rows held hb hconditions hcolumn hrows
    exact keep_equal hb hconditions hcolumn rows hrows

/-- Integers of some kind are compared as the nearest integers of 53 binary digits.  So they are
compared exactly if and only if no two of them have the same nearest one, as is the case up to
`2 ^ 53`. -/
theorem integers_exact_iff (D : Int → Prop) (hD : ∀ a, D a → FitsWord a) :
    IntegersCountAs D nearest ∧
      (IntegersCountAs D id ↔ ∀ a b, D a → D b → nearest a = nearest b → a = b) ∧
      ((∀ a, D a → a.natAbs ≤ 2 ^ 53) → IntegersCountAs D id) := by
  have hnearest : IntegersCountAs D nearest := integers_count_as_nearest.mono hD
  refine ⟨hnearest, ⟨fun hexact a b ha hb hsame => ?_, fun hapart => ?_⟩, fun hsmall => ?_⟩
  · have htests := (hexact.equal a b ha hb).1.symm.trans (hnearest.equal a b ha hb).1
    exact (decide_eq_decide.mp (Except.ok.inj htests)).mpr hsame
  · refine hnearest.congr fun a b ha hb => ⟨fun h => ?_, nearest_mono⟩
    -- integers that are turned round have the same nearest one, so they are the same
    rcases Int.le_total a b with hle | hge
    · exact hle
    · exact Int.le_of_eq (hapart a b ha hb (Int.le_antisymm h (nearest_mono hge)))
  · refine hnearest.congr fun a b ha hb => ?_
    rw [nearest_of_natAbs_le (hsmall a ha), nearest_of_natAbs_le (hsmall b hb)]
    rfl

/-- The last two owners up to `2 ^ 53` are told apart. -/
theorem owners_told_apart :
    IntegersCountAs (fun a => a = 9007199254740991 ∨ a = 9007199254740992) id := by
  refine (integers_exact_iff _ ?_).2.1.mpr ?_
  · rintro a (rfl | rfl) <;> decide
  · rintro a b (rfl | rfl) (rfl | rfl) <;> decide

/-- Two owners with neighbouring ids beyond `2 ^ 53` are taken for each other. -/
theorem integers_not_exact : ¬ IntegersCountAs FitsWord id := by
  intro h
  have hequal := (h.equal 9007199254740993 9007199254740992 (by decide) (by decide)).1
  exact absurd hequal (by decide)

end EntityGate
