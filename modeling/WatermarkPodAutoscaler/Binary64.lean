import Mathlib.Algebra.Order.Floor
import Mathlib.Data.Rat.Floor
import Mathlib.Tactic.FieldSimp
import Mathlib.Tactic.Linarith

/-!
# Binary64 rounding

Go's `float64` is IEEE 754 binary64. Each arithmetic operation, and each conversion of an
integer, rounds the exact result to the nearest binary64 number, a tie going to the one whose
last significant bit is even. A binary64 number is `±m · 2^e` with an integer `m < 2^53` and
`e ≥ -1074`: its 53 significant bits end at the exponent `ulpExponent`, `⌊log₂ |q|⌋ - 52` for a
normal number and `-1074` for a subnormal one.

`roundNearest` rounds the magnitude to a multiple of `2^(ulpExponent |q|)` and restores the sign;
the top of the exponent range, where a result becomes infinite, is left to `Float64.round`. The
definitions work on numerators and denominators, so that `decide` evaluates them. The model needs
three facts of them: rounding is monotone, it keeps every value it produces, and it keeps every
integer of at most 53 bits and every power of two in range.
-/

namespace Wpa

/-- `x · 2^k`, on the numerator and the denominator. -/
def mulPow2 (x : ℚ) (k : ℤ) : ℚ :=
  if 0 ≤ k then mkRat (x.num * (2 ^ k.toNat : ℕ)) x.den else mkRat x.num (x.den * 2 ^ (-k).toNat)

theorem two_zpow_eq_div (k : ℤ) : (2 : ℚ) ^ k = 2 ^ k.toNat / 2 ^ (-k).toNat := by
  rcases le_total 0 k with nonneg | nonpos
  · rw [Int.toNat_of_nonpos (neg_nonpos.mpr nonneg), pow_zero, div_one, ← zpow_natCast,
      Int.toNat_of_nonneg nonneg]
  · rw [Int.toNat_of_nonpos nonpos, pow_zero, one_div, ← zpow_natCast,
      Int.toNat_of_nonneg (neg_nonneg.mpr nonpos), zpow_neg, inv_inv]

@[simp] theorem mulPow2_eq (x : ℚ) (k : ℤ) : mulPow2 x k = x * 2 ^ k := by
  have den : (x.den : ℚ) ≠ 0 := by exact_mod_cast x.den_nz
  rw [mulPow2, two_zpow_eq_div]
  split_ifs with nonneg
  · rw [Int.toNat_of_nonpos (by omega : -k ≤ 0), Rat.mkRat_eq_div]
    push_cast
    conv_rhs => rw [← Rat.num_div_den x]
    field_simp
  · rw [Int.toNat_of_nonpos (by omega : k ≤ 0), Rat.mkRat_eq_div]
    push_cast
    conv_rhs => rw [← Rat.num_div_den x]
    field_simp

/-- `Nat.log2 n`, halving at most `fuel` times: structural recursion, which `decide` evaluates. -/
def log2Fuel : ℕ → ℕ → ℕ
  | 0, _ => 0
  | fuel + 1, n => if n < 2 then 0 else log2Fuel fuel (n / 2) + 1

theorem log2Fuel_eq {fuel n : ℕ} (enough : n ≤ fuel) : log2Fuel fuel n = n.log2 := by
  induction fuel generalizing n with
  | zero => simp [log2Fuel, Nat.le_zero.mp enough]
  | succ fuel ih =>
      rw [log2Fuel, Nat.log2]
      split_ifs with small large large
      · omega
      · rfl
      · rw [ih (by omega)]
      · omega

/-- `⌊log₂ |q|⌋` for `q ≠ 0`. The bit lengths of the numerator and the denominator place it at
their difference or one below, and one comparison tells which. -/
def floorLog2 (q : ℚ) : ℤ :=
  let estimate : ℤ := (log2Fuel q.num.natAbs q.num.natAbs : ℤ) - log2Fuel q.den q.den
  if q.den * 2 ^ estimate.toNat ≤ q.num.natAbs * 2 ^ (-estimate).toNat then estimate
  else estimate - 1

theorem abs_eq_natAbs_div_den (q : ℚ) : |q| = (q.num.natAbs : ℚ) / q.den := by
  conv_lhs => rw [← Rat.num_div_den q]
  rw [abs_div, Nat.cast_natAbs, Int.cast_abs, Nat.abs_cast]

/-- The comparison of `floorLog2`, read on rationals. -/
theorem two_zpow_le_iff (q : ℚ) (k : ℤ) :
    q.den * 2 ^ k.toNat ≤ q.num.natAbs * 2 ^ (-k).toNat ↔ (2 : ℚ) ^ k ≤ |q| := by
  rw [two_zpow_eq_div, abs_eq_natAbs_div_den,
    div_le_div_iff₀ (by positivity) (by exact_mod_cast q.den_pos), ← Nat.cast_le (α := ℚ)]
  push_cast
  constructor <;> intro h <;> linarith

theorem floorLog2_spec {q : ℚ} (nonzero : q ≠ 0) :
    2 ^ floorLog2 q ≤ |q| ∧ |q| < 2 ^ (floorLog2 q + 1) := by
  have numPos : q.num.natAbs ≠ 0 := by simpa using nonzero
  have numLower := Nat.log2_self_le numPos
  have numUpper := @Nat.lt_log2_self q.num.natAbs
  have denLower := Nat.log2_self_le q.den_nz
  have denUpper := @Nat.lt_log2_self q.den
  set a := q.num.natAbs.log2
  set b := q.den.log2
  have magnitude := abs_eq_natAbs_div_den q
  have den : (0 : ℚ) < q.den := by exact_mod_cast q.den_pos
  -- `|q| = n / d` lies strictly between `2^(a - b - 1)` and `2^(a - b + 1)`.
  have below : (2 : ℚ) ^ ((a : ℤ) - b - 1) < |q| := by
    rw [magnitude, lt_div_iff₀ den, zpow_sub₀ two_ne_zero, zpow_sub₀ two_ne_zero, zpow_natCast,
      zpow_natCast, zpow_one, div_div, div_mul_eq_mul_div, div_lt_iff₀ (by positivity)]
    have : (2 : ℚ) ^ a ≤ q.num.natAbs := by exact_mod_cast numLower
    have : (q.den : ℚ) < 2 ^ (b + 1) := by exact_mod_cast denUpper
    rw [pow_succ] at this
    nlinarith [pow_pos (two_pos : (0 : ℚ) < 2) a]
  have above : |q| < 2 ^ ((a : ℤ) - b + 1) := by
    rw [magnitude, div_lt_iff₀ den, zpow_add₀ two_ne_zero, zpow_sub₀ two_ne_zero, zpow_natCast,
      zpow_natCast, zpow_one, div_mul_eq_mul_div, div_mul_eq_mul_div, lt_div_iff₀ (by positivity)]
    have : (q.num.natAbs : ℚ) < 2 ^ (a + 1) := by exact_mod_cast numUpper
    have : (2 : ℚ) ^ b ≤ q.den := by exact_mod_cast denLower
    rw [pow_succ] at *
    nlinarith [pow_pos (two_pos : (0 : ℚ) < 2) b, pow_pos (two_pos : (0 : ℚ) < 2) a]
  unfold floorLog2
  simp only [log2Fuel_eq le_rfl, two_zpow_le_iff]
  split_ifs with reached
  · exact ⟨reached, above⟩
  · exact ⟨below.le, by simpa using not_le.mp reached⟩

/-- `⌊log₂ |q|⌋` is the exponent of the power of two below `|q|`. -/
theorem floorLog2_eq_of_bounds {q : ℚ} {j : ℤ} (lower : 2 ^ j ≤ |q|) (upper : |q| < 2 ^ (j + 1)) :
    floorLog2 q = j := by
  have nonzero : q ≠ 0 := fun zero => by
    rw [zero, abs_zero] at lower
    exact absurd lower (not_le.mpr (zpow_pos two_pos j))
  obtain ⟨lower', upper'⟩ := floorLog2_spec nonzero
  have : floorLog2 q < j + 1 := (zpow_lt_zpow_iff_right₀ one_lt_two).mp (lower'.trans_lt upper)
  have : j < floorLog2 q + 1 := (zpow_lt_zpow_iff_right₀ one_lt_two).mp (lower.trans_lt upper')
  omega

theorem floorLog2_le_of_le {a b : ℚ} (nonzero : a ≠ 0) (le : |a| ≤ |b|) :
    floorLog2 a ≤ floorLog2 b := by
  have nonzero' : b ≠ 0 := abs_pos.mp ((abs_pos.mpr nonzero).trans_le le)
  have : floorLog2 a < floorLog2 b + 1 := (zpow_lt_zpow_iff_right₀ one_lt_two).mp
    ((floorLog2_spec nonzero).1.trans_lt (le.trans_lt (floorLog2_spec nonzero').2))
  omega

theorem floorLog2_lt_of_lt {q : ℚ} {j : ℤ} (nonzero : q ≠ 0) (upper : |q| < 2 ^ j) :
    floorLog2 q < j :=
  (zpow_lt_zpow_iff_right₀ one_lt_two).mp ((floorLog2_spec nonzero).1.trans_lt upper)

/-- Rounding to an integer, to nearest with ties to even, on the numerator and the denominator. -/
def roundHalfEven (x : ℚ) : ℤ :=
  let below := x.num / x.den
  let remainder := x.num % x.den
  if 2 * remainder < x.den ∨ 2 * remainder = x.den ∧ below % 2 = 0 then below else below + 1

/-- `roundHalfEven` as the floor, raised by one past the midpoint and at an odd midpoint. -/
theorem roundHalfEven_eq (x : ℚ) :
    roundHalfEven x = if 2 * (x - ⌊x⌋) < 1 ∨ 2 * (x - ⌊x⌋) = 1 ∧ ⌊x⌋ % 2 = 0 then ⌊x⌋
      else ⌊x⌋ + 1 := by
  have den : (0 : ℚ) < x.den := by exact_mod_cast x.den_pos
  have fraction : x - ⌊x⌋ = ((x.num % x.den : ℤ) : ℚ) / x.den := by
    rw [Rat.floor_def, eq_div_iff den.ne', sub_mul, Rat.mul_den_eq_num, Int.emod_def]
    push_cast
    ring
  have twice : ∀ r : ℤ, (2 * ((r : ℚ) / x.den) < 1 ↔ 2 * r < x.den) ∧
      (2 * ((r : ℚ) / x.den) = 1 ↔ 2 * r = x.den) := fun r => by
    rw [mul_div_assoc', div_lt_one den, div_eq_one_iff_eq den.ne']
    exact ⟨by exact_mod_cast Iff.rfl, by exact_mod_cast Iff.rfl⟩
  simp only [fraction, twice]
  simp only [roundHalfEven, Rat.floor_def]

@[simp] theorem roundHalfEven_intCast (n : ℤ) : roundHalfEven n = n := by
  simp [roundHalfEven]

theorem roundHalfEven_mono {x y : ℚ} (le : x ≤ y) : roundHalfEven x ≤ roundHalfEven y := by
  have floors : ⌊x⌋ ≤ ⌊y⌋ := Int.floor_mono le
  rw [roundHalfEven_eq, roundHalfEven_eq]
  rcases floors.lt_or_eq with lt | same
  · split_ifs <;> omega
  · -- One integer part: the rounding follows the fractional parts, which are in order.
    have fractions : x - ⌊x⌋ ≤ y - ⌊y⌋ := by rw [same]; linarith
    rw [← same] at fractions ⊢
    by_cases roundsY : 2 * (y - ⌊x⌋) < 1 ∨ 2 * (y - ⌊x⌋) = 1 ∧ ⌊x⌋ % 2 = 0
    · have roundsX : 2 * (x - ⌊x⌋) < 1 ∨ 2 * (x - ⌊x⌋) = 1 ∧ ⌊x⌋ % 2 = 0 := by
        rcases roundsY with half | ⟨half, even⟩
        · exact .inl (by linarith)
        · rcases fractions.lt_or_eq with lt | eq
          · exact .inl (by linarith)
          · exact .inr ⟨by linarith, even⟩
      rw [if_pos roundsX, if_pos roundsY]
    · rw [if_neg roundsY]
      split_ifs <;> omega

/-- Rounding to a multiple of `2^k`, to nearest with ties to even. -/
def roundAt (k : ℤ) (a : ℚ) : ℚ := mulPow2 (roundHalfEven (mulPow2 a (-k))) k

theorem roundAt_eq (k : ℤ) (a : ℚ) : roundAt k a = roundHalfEven (a * 2 ^ (-k)) * 2 ^ k := by
  simp [roundAt]

theorem roundAt_mono (k : ℤ) {a b : ℚ} (le : a ≤ b) : roundAt k a ≤ roundAt k b := by
  rw [roundAt_eq, roundAt_eq]
  refine mul_le_mul_of_nonneg_right ?_ (zpow_pos two_pos k).le
  exact_mod_cast roundHalfEven_mono (mul_le_mul_of_nonneg_right le (zpow_pos two_pos _).le)

/-- A multiple of `2^k` is kept. -/
theorem roundAt_intCast_mul (k n : ℤ) : roundAt k (n * 2 ^ k) = n * 2 ^ k := by
  rw [roundAt_eq, mul_assoc, ← zpow_add₀ two_ne_zero, add_neg_cancel, zpow_zero, mul_one,
    roundHalfEven_intCast]

/-- A power of two not below `2^k` is a multiple of it. -/
theorem roundAt_zpow {k j : ℤ} (le : k ≤ j) : roundAt k (2 ^ j) = 2 ^ j := by
  have multiple : (2 : ℚ) ^ j = ((2 ^ (j - k).toNat : ℤ) : ℚ) * 2 ^ k := by
    push_cast
    rw [← zpow_natCast, Int.toNat_of_nonneg (by omega), ← zpow_add₀ two_ne_zero, sub_add_cancel]
  rw [multiple, roundAt_intCast_mul]

theorem roundAt_nonneg (k : ℤ) {a : ℚ} (nonneg : 0 ≤ a) : 0 ≤ roundAt k a := by
  simpa using roundAt_mono k nonneg |>.trans_eq' (by simpa using (roundAt_intCast_mul k 0).symm)

theorem roundAt_le_zpow {k j : ℤ} {a : ℚ} (le : k ≤ j) (below : a ≤ 2 ^ j) :
    roundAt k a ≤ 2 ^ j :=
  (roundAt_mono k below).trans_eq (roundAt_zpow le)

theorem zpow_le_roundAt {k j : ℤ} {a : ℚ} (le : k ≤ j) (above : 2 ^ j ≤ a) :
    2 ^ j ≤ roundAt k a :=
  (roundAt_zpow le).symm.trans_le (roundAt_mono k above)

theorem floorLog2_abs (q : ℚ) : floorLog2 |q| = floorLog2 q := by
  rcases eq_or_ne q 0 with zero | nonzero
  · rw [zero, abs_zero]
  · obtain ⟨lower, upper⟩ := floorLog2_spec nonzero
    exact floorLog2_eq_of_bounds (by rwa [abs_abs]) (by rwa [abs_abs])

/-- The exponent of the last of the 53 significant bits of a binary64 number near `q`, never
below the subnormal spacing `2^-1074`. -/
def ulpExponent (q : ℚ) : ℤ := max (floorLog2 q - 52) (-1074)

theorem le_ulpExponent (q : ℚ) : -1074 ≤ ulpExponent q := le_max_right _ _

theorem floorLog2_sub_le_ulpExponent (q : ℚ) : floorLog2 q - 52 ≤ ulpExponent q :=
  le_max_left _ _

theorem ulpExponent_of_gt {q : ℚ} (above : -1074 < ulpExponent q) :
    ulpExponent q = floorLog2 q - 52 := by
  unfold ulpExponent at *
  rw [max_def] at *
  split_ifs at * <;> omega

theorem ulpExponent_abs (q : ℚ) : ulpExponent |q| = ulpExponent q := by
  rw [ulpExponent, ulpExponent, floorLog2_abs]

theorem ulpExponent_mono {a b : ℚ} (nonzero : a ≠ 0) (le : |a| ≤ |b|) :
    ulpExponent a ≤ ulpExponent b :=
  max_le_max (by linarith [floorLog2_le_of_le nonzero le]) le_rfl

/-- Rounding of a magnitude `a ≥ 0`: to a multiple of `2^(ulpExponent a)`. -/
def roundMagnitude (a : ℚ) : ℚ := roundAt (ulpExponent a) a

/-- Binary64 rounding, to nearest with ties to even, with no top to the exponent range: the
magnitude rounded at the exponent of its last significant bit, with the sign of `q`. -/
def roundNearest (q : ℚ) : ℚ :=
  let rounded := roundMagnitude (mkRat q.num.natAbs q.den)
  if q < 0 then -rounded else rounded

theorem roundNearest_eq (q : ℚ) :
    roundNearest q = if q < 0 then -roundMagnitude |q| else roundMagnitude |q| := by
  rw [roundNearest, Rat.mkRat_eq_div, Int.cast_natCast, ← abs_eq_natAbs_div_den]

theorem roundMagnitude_zero : roundMagnitude 0 = 0 := by
  simpa using roundAt_intCast_mul (ulpExponent 0) 0

theorem roundMagnitude_nonneg {a : ℚ} (nonneg : 0 ≤ a) : 0 ≤ roundMagnitude a :=
  roundAt_nonneg _ nonneg

theorem roundNearest_of_nonneg {q : ℚ} (nonneg : 0 ≤ q) : roundNearest q = roundMagnitude q := by
  rw [roundNearest_eq, if_neg (not_lt.mpr nonneg), abs_of_nonneg nonneg]

/-- Rounding keeps the sign apart: it commutes with negation. -/
theorem roundNearest_neg (q : ℚ) : roundNearest (-q) = -roundNearest q := by
  rw [roundNearest_eq, roundNearest_eq, abs_neg]
  rcases lt_trichotomy q 0 with negative | zero | positive
  · rw [if_neg (by linarith), if_pos negative, neg_neg]
  · simp [zero, roundMagnitude_zero]
  · rw [if_pos (by linarith), if_neg (by linarith)]

theorem roundNearest_nonneg {q : ℚ} (nonneg : 0 ≤ q) : 0 ≤ roundNearest q :=
  (roundNearest_of_nonneg nonneg).symm ▸ roundMagnitude_nonneg nonneg

theorem roundNearest_nonpos {q : ℚ} (nonpos : q ≤ 0) : roundNearest q ≤ 0 := by
  simpa [roundNearest_neg] using roundNearest_nonneg (neg_nonneg.mpr nonpos)

/-- A magnitude `m · 2^j` whose last bit is not below the rounding exponent is kept. -/
theorem roundMagnitude_of_mul_zpow {a : ℚ} (m j : ℤ) (exact : ulpExponent a ≤ j)
    (multiple : a = m * 2 ^ j) : roundMagnitude a = a := by
  have shifted : a = ((m * 2 ^ (j - ulpExponent a).toNat : ℤ) : ℚ) * 2 ^ ulpExponent a := by
    push_cast
    rw [← zpow_natCast, Int.toNat_of_nonneg (by omega), mul_assoc, ← zpow_add₀ two_ne_zero,
      sub_add_cancel, multiple]
  have kept := roundAt_intCast_mul (ulpExponent a) (m * 2 ^ (j - ulpExponent a).toNat)
  rwa [← shifted] at kept

theorem roundMagnitude_mono {a b : ℚ} (nonneg : 0 ≤ a) (le : a ≤ b) :
    roundMagnitude a ≤ roundMagnitude b := by
  rcases nonneg.eq_or_lt with zero | positive
  · rw [← zero, roundMagnitude_zero]
    exact roundMagnitude_nonneg (zero ▸ le)
  have positive' := positive.trans_le le
  have exponents := ulpExponent_mono (b := b) positive.ne'
    (by rwa [abs_of_pos positive, abs_of_pos positive'])
  rcases exponents.lt_or_eq with higher | same
  · -- `b` is in a higher binade than `a`: the power of two between them separates the roundings.
    have top := ulpExponent_of_gt ((le_ulpExponent a).trans_lt higher)
    have binades : floorLog2 a < floorLog2 b := by
      linarith [floorLog2_sub_le_ulpExponent a]
    have aBelow : a ≤ 2 ^ floorLog2 b := by
      have := (floorLog2_spec positive.ne').2
      rw [abs_of_pos positive] at this
      exact this.le.trans (zpow_le_zpow_right₀ one_le_two (by omega))
    have bAbove : 2 ^ floorLog2 b ≤ b := by
      simpa [abs_of_pos positive'] using (floorLog2_spec positive'.ne').1
    calc roundMagnitude a ≤ 2 ^ floorLog2 b := roundAt_le_zpow (by omega) aBelow
      _ ≤ roundMagnitude b := zpow_le_roundAt (by omega) bAbove
  · rw [roundMagnitude, roundMagnitude, same]
    exact roundAt_mono _ le

/-- Rounding keeps what it produces. A rounded magnitude is a multiple of the exponent it was
rounded at; only when it reached the next power of two is its own exponent higher, and a power
of two is a multiple of that one too. -/
theorem roundMagnitude_idem {a : ℚ} (nonneg : 0 ≤ a) :
    roundMagnitude (roundMagnitude a) = roundMagnitude a := by
  rcases (roundMagnitude_nonneg nonneg).eq_or_lt with zero | positive
  · rw [← zero, roundMagnitude_zero]
  set rounded := roundMagnitude a with definition
  by_cases exponents : ulpExponent rounded ≤ ulpExponent a
  · exact roundMagnitude_of_mul_zpow _ _ exponents (roundAt_eq ..)
  push_neg at exponents
  have aPositive : 0 < a := by
    refine nonneg.lt_of_ne fun zero => ?_
    rw [← zero, roundMagnitude_zero] at definition
    exact positive.ne' definition
  have top := ulpExponent_of_gt ((le_ulpExponent a).trans_lt exponents)
  have roundedLower := (floorLog2_spec positive.ne').1
  have aUpper := (floorLog2_spec aPositive.ne').2
  rw [abs_of_pos positive] at roundedLower
  rw [abs_of_pos aPositive] at aUpper
  -- Rounding went past `2^(ulpExponent a)` only by reaching the next power of two.
  have reach : ulpExponent a ≤ floorLog2 a + 1 := by
    by_contra far
    have atMost : rounded ≤ 2 ^ ulpExponent a := roundAt_le_zpow le_rfl
      (aUpper.le.trans (zpow_le_zpow_right₀ one_le_two (by omega)))
    have := (zpow_le_zpow_iff_right₀ one_lt_two).mp (roundedLower.trans atMost)
    omega
  have atMost : rounded ≤ 2 ^ (floorLog2 a + 1) := roundAt_le_zpow reach aUpper.le
  have := (zpow_le_zpow_iff_right₀ one_lt_two).mp (roundedLower.trans atMost)
  have := floorLog2_sub_le_ulpExponent a
  have power : rounded = 1 * 2 ^ floorLog2 rounded := by
    rw [one_mul]
    exact le_antisymm (atMost.trans_eq (by congr 1; omega)) roundedLower
  exact roundMagnitude_of_mul_zpow 1 _ (by omega) power

theorem roundNearest_mono {a b : ℚ} (le : a ≤ b) : roundNearest a ≤ roundNearest b := by
  rcases le_total 0 a with aNonneg | aNonpos
  · rw [roundNearest_of_nonneg aNonneg, roundNearest_of_nonneg (aNonneg.trans le)]
    exact roundMagnitude_mono aNonneg le
  rcases le_total 0 b with bNonneg | bNonpos
  · exact (roundNearest_nonpos aNonpos).trans (roundNearest_nonneg bNonneg)
  · rw [← neg_neg a, ← neg_neg b, roundNearest_neg, roundNearest_neg (-b),
      roundNearest_of_nonneg (neg_nonneg.mpr aNonpos), roundNearest_of_nonneg (neg_nonneg.mpr bNonpos)]
    exact neg_le_neg (roundMagnitude_mono (neg_nonneg.mpr bNonpos) (neg_le_neg le))

/-- Rounding keeps every binary64 value. -/
theorem roundNearest_idem (q : ℚ) : roundNearest (roundNearest q) = roundNearest q := by
  rcases le_total 0 q with nonneg | nonpos
  · rw [roundNearest_of_nonneg nonneg, roundNearest_of_nonneg (roundMagnitude_nonneg nonneg),
      roundMagnitude_idem nonneg]
  · have nonneg := neg_nonneg.mpr nonpos
    rw [← neg_neg q, roundNearest_neg, roundNearest_neg, roundNearest_of_nonneg nonneg,
      roundNearest_of_nonneg (roundMagnitude_nonneg nonneg), roundMagnitude_idem nonneg]

/-- A value `±m · 2^j` whose last bit is not below its rounding exponent is a binary64 value. -/
theorem roundNearest_of_mul_zpow {q : ℚ} (m j : ℤ) (exact : ulpExponent q ≤ j)
    (multiple : |q| = m * 2 ^ j) : roundNearest q = q := by
  have kept := roundMagnitude_of_mul_zpow m j (by rwa [ulpExponent_abs]) multiple
  rw [roundNearest_eq, kept]
  split_ifs with negative
  · rw [abs_of_neg negative, neg_neg]
  · rw [abs_of_nonneg (not_lt.mp negative)]

/-- Every integer of at most 53 bits is a binary64 value. -/
theorem roundNearest_intCast {n : ℤ} (small : n.natAbs < 2 ^ 53) : roundNearest n = n := by
  rcases eq_or_ne n 0 with zero | nonzero
  · simpa [zero] using roundNearest_of_mul_zpow (q := 0) 0 (ulpExponent 0) le_rfl (by simp)
  have below : floorLog2 (n : ℚ) < 53 := floorLog2_lt_of_lt (by exact_mod_cast nonzero) (by
    rw [← Int.cast_abs, Int.abs_eq_natAbs]
    exact_mod_cast small)
  refine roundNearest_of_mul_zpow n.natAbs 0 ?_ ?_
  · unfold ulpExponent
    omega
  · rw [zpow_zero, mul_one, ← Int.cast_abs, Int.abs_eq_natAbs, Int.cast_natCast]

/-- Every power of two not below the subnormal spacing is a binary64 value. -/
theorem roundNearest_zpow {j : ℤ} (normal : -1074 ≤ j) : roundNearest (2 ^ j) = 2 ^ j := by
  have exponent : floorLog2 ((2 : ℚ) ^ j) = j := floorLog2_eq_of_bounds
    (by rw [abs_of_pos (zpow_pos two_pos j)])
    (by rw [abs_of_pos (zpow_pos two_pos j)]; exact zpow_lt_zpow_right₀ one_lt_two (by omega))
  refine roundNearest_of_mul_zpow 1 j ?_ (by rw [abs_of_pos (zpow_pos two_pos j), Int.cast_one,
    one_mul])
  unfold ulpExponent
  omega

@[simp] theorem roundNearest_one : roundNearest 1 = 1 := by
  simpa using roundNearest_intCast (n := 1) (by decide)

/-- Rounding keeps a bound by a power of two in range. -/
theorem abs_roundNearest_le {q : ℚ} {j : ℤ} (normal : -1074 ≤ j) (bounded : |q| ≤ 2 ^ j) :
    |roundNearest q| ≤ 2 ^ j := by
  have top := roundNearest_zpow normal
  have upper := (roundNearest_mono (le_of_abs_le bounded)).trans_eq top
  have lower := roundNearest_mono (neg_le_of_abs_le bounded)
  rw [roundNearest_neg, top] at lower
  exact abs_le.mpr ⟨lower, upper⟩

/-- Rounding to an integer moves a value by at most a half. -/
theorem abs_roundHalfEven_sub_le (x : ℚ) : |(roundHalfEven x : ℚ) - x| ≤ 1 / 2 := by
  have lower := Int.floor_le x
  have upper := Int.lt_floor_add_one x
  rw [roundHalfEven_eq, abs_le]
  split_ifs with down
  · rcases down with half | ⟨half, -⟩ <;> constructor <;> linarith
  · push_neg at down
    push_cast
    constructor <;> linarith [down.1]

/-- Rounding to a multiple of `2^k` moves a value by at most `2^(k-1)`. -/
theorem abs_roundAt_sub_le (k : ℤ) (a : ℚ) : |roundAt k a - a| ≤ 2 ^ (k - 1) := by
  have pos : (0 : ℚ) < 2 ^ k := zpow_pos two_pos k
  have shifted : roundAt k a - a = (roundHalfEven (a * 2 ^ (-k)) - a * 2 ^ (-k)) * 2 ^ k := by
    rw [roundAt_eq, sub_mul, mul_assoc a, ← zpow_add₀ two_ne_zero, neg_add_cancel, zpow_zero,
      mul_one]
  calc |roundAt k a - a| = |(roundHalfEven (a * 2 ^ (-k)) : ℚ) - a * 2 ^ (-k)| * 2 ^ k := by
        rw [shifted, abs_mul, abs_of_pos pos]
    _ ≤ 1 / 2 * 2 ^ k := mul_le_mul_of_nonneg_right (abs_roundHalfEven_sub_le _) pos.le
    _ = 2 ^ (k - 1) := by rw [zpow_sub₀ two_ne_zero, zpow_one]; ring

/-- Above the subnormal range, rounding moves a value by at most `2^-53` of its magnitude. -/
theorem abs_roundNearest_sub_le {q : ℚ} (normal : 2 ^ (-1022 : ℤ) ≤ |q|) :
    |roundNearest q - q| ≤ |q| / 2 ^ 53 := by
  have nonzero : q ≠ 0 := fun zero => by
    rw [zero, abs_zero] at normal
    exact absurd normal (not_le.mpr (zpow_pos two_pos _))
  have exponent : -1022 ≤ floorLog2 q := by
    by_contra below
    exact absurd normal (not_le.mpr ((floorLog2_spec nonzero).2.trans_le
      (zpow_le_zpow_right₀ one_le_two (by omega))))
  have ulp : ulpExponent |q| = floorLog2 q - 52 := by
    rw [ulpExponent_abs, ulpExponent]
    omega
  have magnitude : |roundMagnitude (abs q) - abs q| ≤ |q| / 2 ^ 53 := by
    rw [roundMagnitude, ulp]
    refine (abs_roundAt_sub_le _ _).trans ?_
    rw [le_div_iff₀ (by norm_num), (by ring : floorLog2 q - 52 - 1 = floorLog2 q - 53)]
    calc (2 : ℚ) ^ (floorLog2 q - 53) * 2 ^ 53 = 2 ^ floorLog2 q := by
          rw [zpow_sub₀ two_ne_zero]; norm_num
      _ ≤ |q| := (floorLog2_spec nonzero).1
  rw [roundNearest_eq]
  split_ifs with negative
  · have flipped : -roundMagnitude |q| - q = -(roundMagnitude |q| - |q|) := by
      rw [abs_of_neg negative]; ring
    rwa [flipped, abs_neg]
  · have kept : roundMagnitude |q| - q = roundMagnitude |q| - |q| := by
      rw [abs_of_nonneg (not_lt.mp negative)]
    rwa [kept]

/-- From a half up, rounding stays within `2^-53` of the value on either side. -/
theorem roundNearest_bounds {q : ℚ} (atLeastHalf : 1 / 2 ≤ q) :
    q - q / 2 ^ 53 ≤ roundNearest q ∧ roundNearest q ≤ q + q / 2 ^ 53 := by
  have normal : 2 ^ (-1022 : ℤ) ≤ |q| := by
    rw [abs_of_pos (by linarith)]
    refine le_trans ?_ atLeastHalf
    rw [one_div, ← zpow_neg_one]
    exact zpow_le_zpow_right₀ one_le_two (by norm_num)
  have := abs_le.mp (abs_roundNearest_sub_le normal)
  rw [abs_of_pos (by linarith)] at this
  constructor <;> linarith [this.1, this.2]

end Wpa
