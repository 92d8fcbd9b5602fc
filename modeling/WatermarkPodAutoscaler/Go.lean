import WatermarkPodAutoscaler.Binary64
import Mathlib.Order.Basic
import Mathlib.Tactic.NormNum

/-!
# Go machine values

The controller computes with Go's `int32`, `int64`, `float64`, `time.Time` and
`time.Duration`. This file gives each a Lean counterpart; times and durations are integers of
nanoseconds.

`int32` and `int64` are integers that carry their range, so that no out-of-range value can be
built. The controller never adds two `int32` values: its replica counts come from float64
computations converted back with `int32(x)`. The one integer addition that can overflow is the
`int64` sum of metric samples, which wraps.

A `float64` is a binary64 number, with the infinities and NaN that IEEE arithmetic produces as
constructors of their own, since a division by a zero ready-pod count reaches the watermark
evaluator. A finite value is the rational it denotes, and every operation rounds its exact result
to nearest, ties to even (`Binary64`). Each operation is rounded on its own, as `amd64` executes
them; the platforms on which Go fuses `x*y + z` into one rounding are not modelled.

Go leaves the conversion of NaN, an infinity or an out-of-range float64 to an integer type
implementation-dependent. A `Platform` supplies that value; on `amd64` the conversion
instructions return the most negative integer of the target type.
-/

namespace Wpa

/-- A Go `int32`. -/
@[ext]
structure Int32 where
  val : ℤ
  min_le : -2147483648 ≤ val
  lt_max : val < 2147483648
  deriving DecidableEq

/-- A Go `int64`. -/
@[ext]
structure Int64 where
  val : ℤ
  min_le : -9223372036854775808 ≤ val
  lt_max : val < 9223372036854775808
  deriving DecidableEq

/-- The integers an `int32` can hold. -/
def InInt32 (value : ℤ) : Prop := -2147483648 ≤ value ∧ value < 2147483648

instance (value : ℤ) : Decidable (InInt32 value) := inferInstanceAs (Decidable (_ ∧ _))

/-- The integers an `int64` can hold. -/
def InInt64 (value : ℤ) : Prop := -9223372036854775808 ≤ value ∧ value < 9223372036854775808

instance (value : ℤ) : Decidable (InInt64 value) := inferInstanceAs (Decidable (_ ∧ _))

namespace Int32

instance : LinearOrder Int32 := LinearOrder.lift' Int32.val fun _ _ => Int32.ext

/-- The `int32` holding an integer known to be in range. -/
def ofInt (value : ℤ) (inRange : InInt32 value) : Int32 := ⟨value, inRange.1, inRange.2⟩

instance : Zero Int32 := ⟨ofInt 0 (by decide)⟩

instance : One Int32 := ⟨ofInt 1 (by decide)⟩

@[simp] theorem le_iff_val {a b : Int32} : a ≤ b ↔ a.val ≤ b.val := Iff.rfl

@[simp] theorem lt_iff_val {a b : Int32} : a < b ↔ a.val < b.val := Iff.rfl

theorem eq_iff_val {a b : Int32} : a = b ↔ a.val = b.val := Int32.ext_iff

@[simp] theorem val_ofInt (value : ℤ) (inRange : InInt32 value) :
    (ofInt value inRange).val = value := rfl

@[simp] theorem val_zero : (0 : Int32).val = 0 := rfl

@[simp] theorem val_one : (1 : Int32).val = 1 := rfl

@[simp] theorem val_max (a b : Int32) : (max a b).val = max a.val b.val := by
  simp only [max_def, le_iff_val]
  split <;> rfl

@[simp] theorem val_min (a b : Int32) : (min a b).val = min a.val b.val := by
  simp only [min_def, le_iff_val]
  split <;> rfl

theorem inInt32 (a : Int32) : InInt32 a.val := ⟨a.min_le, a.lt_max⟩

/-- Go's `int32(n)` for an integer `n` of a wider type: the low 32 bits, read as signed. -/
def wrap (value : ℤ) : Int32 :=
  ⟨value.bmod 4294967296, Int.le_bmod (by decide), Int.bmod_lt (by decide)⟩

theorem wrap_of_inInt32 {value : ℤ} (inRange : InInt32 value) : (wrap value).val = value := by
  obtain ⟨lower, upper⟩ := inRange
  show value.bmod 4294967296 = value
  rw [Int.bmod_def]
  split <;> omega

end Int32

namespace Int64

/-- Go's wrapping `int64` arithmetic: the integer reduced into the `int64` range. -/
def wrap (value : ℤ) : Int64 :=
  ⟨value.bmod 18446744073709551616, Int.le_bmod (by decide), Int.bmod_lt (by decide)⟩

/-- `a + b` on `int64`, which wraps on overflow. -/
def add (a b : Int64) : Int64 := wrap (a.val + b.val)

instance : Zero Int64 := ⟨⟨0, by decide, by decide⟩⟩

@[simp] theorem val_zero : (0 : Int64).val = 0 := rfl

@[simp] theorem val_wrap (value : ℤ) : (wrap value).val = value.bmod 18446744073709551616 := rfl

theorem wrap_of_inInt64 {value : ℤ} (inRange : InInt64 value) : (wrap value).val = value := by
  obtain ⟨lower, upper⟩ := inRange
  rw [val_wrap, Int.bmod_def]
  split <;> omega

theorem wrap_val (a : Int64) : wrap a.val = a := Int64.ext (wrap_of_inInt64 ⟨a.min_le, a.lt_max⟩)

/-- `for _, v := range values { sum += v }`: the wrapping sum from zero. -/
def sum (values : List Int64) : Int64 := values.foldl add 0

/-- The loop's wrapping sum is the exact sum reduced once into range. -/
theorem sum_eq_wrap (values : List Int64) : sum values = wrap (values.map Int64.val).sum := by
  suffices step : ∀ (start : Int64) (values : List Int64),
      values.foldl add start = wrap (start.val + (values.map Int64.val).sum) by
    simpa [sum] using step 0 values
  intro start values
  induction values generalizing start with
  | nil => simpa using (wrap_val start).symm
  | cons value rest ih =>
      rw [List.foldl_cons, ih]
      ext
      simp only [add, val_wrap, List.map_cons, List.sum_cons, Int.bmod_add_bmod_congr]
      ring_nf

end Int64

/- Batteries keeps rational multiplication and inversion irreducible, which stops `decide` on
any computation of the model. The model multiplies, adds and divides rationals through `mkRat`
instead, which evaluates; each operation equals the field operation. -/

/-- `a * b` on rationals. -/
def ratMul (a b : ℚ) : ℚ := mkRat (a.num * b.num) (a.den * b.den)

/-- `a + b` on rationals. -/
def ratAdd (a b : ℚ) : ℚ := mkRat (a.num * b.den + b.num * a.den) (a.den * b.den)

/-- `a⁻¹` on rationals, with `0⁻¹ = 0`. -/
def ratInv (a : ℚ) : ℚ := mkRat (a.den * a.num.sign) a.num.natAbs

/-- `a / b` on rationals, with `a / 0 = 0`. -/
def ratDiv (a b : ℚ) : ℚ := ratMul a (ratInv b)

@[simp] theorem ratMul_eq (a b : ℚ) : ratMul a b = a * b := by
  rw [ratMul, Rat.mul_def, Rat.normalize_eq_mkRat]

@[simp] theorem ratAdd_eq (a b : ℚ) : ratAdd a b = a + b := by
  rw [ratAdd, Rat.add_def, Rat.normalize_eq_mkRat]

@[simp] theorem ratInv_eq (a : ℚ) : ratInv a = a⁻¹ := by
  rw [ratInv, Rat.mkRat_eq_div, Rat.inv_def', Rat.divInt_eq_div, Nat.cast_natAbs]
  rcases lt_trichotomy a.num 0 with negative | zero | positive
  · rw [Int.sign_eq_neg_one_of_neg negative, abs_of_neg negative]
    push_cast
    rw [mul_neg_one, neg_div, div_neg, neg_neg]
  · simp [zero]
  · rw [Int.sign_eq_one_of_pos positive, abs_of_pos positive]
    push_cast
    rw [mul_one]

@[simp] theorem ratDiv_eq (a b : ℚ) : ratDiv a b = a / b := by
  rw [ratDiv, ratInv_eq, ratMul_eq, div_eq_mul_inv]

/-- A Go `float64`: a binary64 number, an infinity or NaN. A finite value is the rational it
denotes; every operation below rounds its exact result with `Float64.round`, so the finite values
the controller computes are binary64 numbers. The sign of a zero is not kept: the controller
divides by no zero but `+0`. -/
inductive Float64 where
  | finite (value : ℚ)
  /-- An infinity; `negative` tells `-Inf` from `+Inf`. -/
  | inf (negative : Bool)
  | nan
  deriving DecidableEq

namespace Float64

/-- IEEE 754 rounding of an exact result, to nearest with ties to even: the binary64 number, or
the infinity of the result's sign once the rounded magnitude reaches `2^1024`. -/
def round (q : ℚ) : Float64 :=
  let value := roundNearest q
  if floorLog2 value < 1024 then finite value else inf (decide (q < 0))

/-- `float64(n)` for an integer `n`. -/
def ofInt (value : ℤ) : Float64 := round value

/-- IEEE addition. -/
def add : Float64 → Float64 → Float64
  | finite a, finite b => round (ratAdd a b)
  | finite _, inf negative | inf negative, finite _ => inf negative
  | inf negative, inf negative' => if negative = negative' then inf negative else nan
  | _, _ => nan

/-- IEEE subtraction. -/
def sub : Float64 → Float64 → Float64
  | finite a, finite b => round (ratAdd a (-b))
  | finite _, inf negative => inf !negative
  | inf negative, finite _ => inf negative
  | inf negative, inf negative' => if negative = negative' then nan else inf negative
  | _, _ => nan

/-- IEEE multiplication. -/
def mul : Float64 → Float64 → Float64
  | finite a, finite b => round (ratMul a b)
  | finite a, inf negative | inf negative, finite a =>
      if a = 0 then nan else inf (negative != decide (a < 0))
  | inf negative, inf negative' => inf (negative != negative')
  | _, _ => nan

/-- IEEE division; a zero divisor is `+0`. -/
def div : Float64 → Float64 → Float64
  | finite a, finite b =>
      if b = 0 then (if a = 0 then nan else inf (decide (a < 0))) else round (ratDiv a b)
  | finite _, inf _ => finite 0
  | inf negative, finite b => inf (negative != decide (b < 0))
  | _, _ => nan

/-- IEEE `a < b`: false whenever NaN is involved. -/
def lt : Float64 → Float64 → Bool
  | finite a, finite b => decide (a < b)
  | inf true, finite _ | inf true, inf false | finite _, inf false => true
  | _, _ => false

/-- `math.Ceil`, exact on a binary64 number. -/
def ceil : Float64 → Float64
  | finite a => finite ⌈a⌉
  | x => x

/-- `math.Floor`, exact on a binary64 number. -/
def floor : Float64 → Float64
  | finite a => finite ⌊a⌋
  | x => x

/-- `math.Max`: NaN when either is NaN, and otherwise `+Inf` when either is `+Inf`. -/
def max : Float64 → Float64 → Float64
  | nan, _ | _, nan => nan
  | inf false, _ | _, inf false => inf false
  | inf true, x | x, inf true => x
  | finite a, finite b => finite (Max.max a b)

/-- A result of at most `2^1023` in magnitude is finite, the binary64 number nearest it. -/
theorem round_of_abs_le {q : ℚ} (bounded : |q| ≤ 2 ^ 1023) : round q = finite (roundNearest q) := by
  rw [← zpow_natCast, Nat.cast_ofNat] at bounded
  have rounded := abs_roundNearest_le (by omega) bounded
  rw [round, if_pos]
  rcases eq_or_ne (roundNearest q) 0 with zero | nonzero
  · rw [zero]
    decide
  · exact floorLog2_lt_of_lt nonzero
      (rounded.trans_lt (zpow_lt_zpow_right₀ one_lt_two (by omega)))

theorem round_of_abs_le_zpow {q : ℚ} {j : ℤ} (bounded : |q| ≤ 2 ^ j) (small : j ≤ 1023) :
    round q = finite (roundNearest q) := by
  refine round_of_abs_le (bounded.trans ?_)
  rw [← zpow_natCast]
  exact zpow_le_zpow_right₀ one_le_two (by exact_mod_cast small)

/-- A finite rounding is the nearest binary64 number. -/
theorem eq_roundNearest_of_round {q value : ℚ} (finite : round q = .finite value) :
    value = roundNearest q := by
  simp only [round] at finite
  split_ifs at finite
  exact (Float64.finite.inj finite).symm

/-- Every integer of at most 53 bits converts exactly. -/
theorem ofInt_of_natAbs_lt {value : ℤ} (small : value.natAbs < 2 ^ 53) :
    ofInt value = finite value := by
  have bounded : |(value : ℚ)| ≤ 2 ^ 1023 := by
    rw [← Int.cast_abs, Int.abs_eq_natAbs, Int.cast_natCast]
    calc (value.natAbs : ℚ) ≤ (2 ^ 53 : ℕ) := Nat.cast_le.mpr small.le
      _ = (2 : ℚ) ^ 53 := by rw [Nat.cast_pow, Nat.cast_ofNat]
      _ ≤ 2 ^ 1023 := pow_le_pow_right₀ one_le_two (by norm_num)
  rw [ofInt, round_of_abs_le bounded, roundNearest_intCast small]

/-- An int64 converts to a finite float64 of magnitude at most `2^63`. -/
theorem ofInt_int64 (value : Int64) :
    ofInt value.val = finite (roundNearest value.val) ∧
      |roundNearest (value.val : ℚ)| ≤ 2 ^ (63 : ℤ) := by
  have bounded : |(value.val : ℚ)| ≤ 2 ^ (63 : ℤ) := by
    have : |value.val| ≤ 2 ^ 63 := abs_le.mpr ⟨by have := value.min_le; omega,
      by have := value.lt_max; omega⟩
    rw [← Int.cast_abs, show (63 : ℤ) = ((63 : ℕ) : ℤ) from rfl, zpow_natCast]
    exact_mod_cast this
  exact ⟨round_of_abs_le_zpow bounded (by norm_num), abs_roundNearest_le (by norm_num) bounded⟩

/-- An int32 converts exactly. -/
theorem ofInt_int32 (value : Int32) : ofInt value.val = finite value.val :=
  ofInt_of_natAbs_lt (by have := value.min_le; have := value.lt_max; omega)

@[simp] theorem add_finite (a b : ℚ) : add (finite a) (finite b) = round (a + b) := by
  simp [add]

@[simp] theorem sub_finite (a b : ℚ) : sub (finite a) (finite b) = round (a - b) := by
  simp [sub, sub_eq_add_neg]

@[simp] theorem mul_finite (a b : ℚ) : mul (finite a) (finite b) = round (a * b) := by
  simp [mul]

@[simp] theorem div_finite_of_ne {b : ℚ} (a : ℚ) (nonzero : b ≠ 0) :
    div (finite a) (finite b) = round (a / b) := by
  simp [div, nonzero]

@[simp] theorem lt_finite (a b : ℚ) : lt (finite a) (finite b) = decide (a < b) := rfl

@[simp] theorem ceil_finite (a : ℚ) : ceil (finite a) = finite ⌈a⌉ := rfl

@[simp] theorem floor_finite (a : ℚ) : floor (finite a) = finite ⌊a⌋ := rfl

@[simp] theorem max_finite (a b : ℚ) : max (finite a) (finite b) = finite (Max.max a b) := rfl

/-- A finite `float64(n)*u/d` over a nonzero `d` comes from a finite `u`, with the product and the
quotient each rounded once. -/
theorem eq_of_scaled_div {n : ℤ} {u : Float64} {divisor value : ℚ} (nonzero : divisor ≠ 0)
    (quotient : ((finite n).mul u).div (finite divisor) = finite value) :
    ∃ usage, u = finite usage ∧ value = roundNearest (roundNearest (n * usage) / divisor) := by
  cases u with
  | finite usage =>
      refine ⟨usage, rfl, ?_⟩
      simp only [mul_finite, round] at quotient
      split_ifs at quotient
      · rw [div_finite_of_ne _ nonzero] at quotient
        exact eq_roundNearest_of_round quotient
      · simp [div] at quotient
  | inf =>
      simp only [mul] at quotient
      split_ifs at quotient <;> simp [div] at quotient
  | nan => simp [mul, div] at quotient

end Float64

/-- Truncation toward zero, as Go's float-to-integer conversions do. -/
def truncate (value : ℚ) : ℤ := if 0 ≤ value then ⌊value⌋ else ⌈value⌉

@[simp] theorem truncate_intCast (value : ℤ) : truncate value = value := by
  unfold truncate
  split <;> simp

theorem floor_le_truncate (value : ℚ) : ⌊value⌋ ≤ truncate value := by
  unfold truncate
  split_ifs
  · exact le_rfl
  · exact Int.floor_le_ceil value

theorem truncate_le_ceil (value : ℚ) : truncate value ≤ ⌈value⌉ := by
  unfold truncate
  split_ifs
  · exact Int.floor_le_ceil value
  · exact le_rfl

theorem le_truncate_of_le {bound : ℤ} {value : ℚ} (le : (bound : ℚ) ≤ value) :
    bound ≤ truncate value :=
  (Int.le_floor.mpr le).trans (floor_le_truncate value)

theorem truncate_le_of_le {bound : ℤ} {value : ℚ} (le : value ≤ bound) :
    truncate value ≤ bound :=
  (truncate_le_ceil value).trans (Int.ceil_le.mpr le)

/-- A float64 that `int32(x)` converts within range: finite, with its truncation an int32. -/
def Float64.InInt32 : Float64 → Prop
  | .finite value => Wpa.InInt32 (truncate value)
  | _ => False

instance : DecidablePred Float64.InInt32
  | .finite value => inferInstanceAs (Decidable (InInt32 (truncate value)))
  | .inf _ | .nan => isFalse id

/-- What a float64-to-integer conversion yields where Go leaves it implementation-dependent. -/
structure Platform where
  /-- `int32(x)` for NaN, an infinity, or `x` whose truncation is outside the int32 range. -/
  int32OutOfRange : Float64 → Int32
  /-- `int64(x)` in the same cases for int64. -/
  int64OutOfRange : Float64 → Int64

namespace Platform

/-- Go's `int32(x)` for a float64 `x`. -/
def toInt32 (platform : Platform) : Float64 → Int32
  | .finite value =>
      if inRange : InInt32 (truncate value) then Int32.ofInt _ inRange
      else platform.int32OutOfRange (.finite value)
  | x => platform.int32OutOfRange x

/-- Go's `int64(x)` for a float64 `x`. -/
def toInt64 (platform : Platform) : Float64 → Int64
  | .finite value =>
      if inRange : InInt64 (truncate value) then ⟨_, inRange.1, inRange.2⟩
      else platform.int64OutOfRange (.finite value)
  | x => platform.int64OutOfRange x

/-- `CVTTSD2SL` and `CVTTSD2SQ` return the "integer indefinite" value, the most negative
integer, for every conversion they cannot represent. -/
def amd64 : Platform where
  int32OutOfRange _ := Int32.ofInt (-2147483648) (by decide)
  int64OutOfRange _ := ⟨-9223372036854775808, by decide, by decide⟩

theorem toInt32_of_inInt32 (platform : Platform) {value : ℤ} (inRange : InInt32 value) :
    (platform.toInt32 (.finite value)).val = value := by
  simp [toInt32, inRange]

/-- A float64 within the int32 range converts to its truncation. -/
theorem toInt32_of_float_inInt32 (platform : Platform) {x : Float64} (inRange : x.InInt32) :
    ∃ value, x = .finite value ∧ (platform.toInt32 x).val = truncate value := by
  cases x with
  | finite value => exact ⟨value, rfl, by simp [toInt32, inRange.1, inRange.2, InInt32]⟩
  | inf => exact inRange.elim
  | nan => exact inRange.elim

/-- `int32(math.Ceil(x))` within range: `x` is finite and converts to its ceiling. -/
theorem toInt32_ceil (platform : Platform) {x : Float64} (inRange : x.ceil.InInt32) :
    ∃ value, x = .finite value ∧ (platform.toInt32 x.ceil).val = ⌈value⌉ := by
  cases x with
  | finite value =>
      exact ⟨value, rfl, toInt32_of_inInt32 platform (by simpa [Float64.InInt32] using inRange)⟩
  | inf => exact inRange.elim
  | nan => exact inRange.elim

/-- `int32(math.Floor(x))` within range: `x` is finite and converts to its floor. -/
theorem toInt32_floor (platform : Platform) {x : Float64} (inRange : x.floor.InInt32) :
    ∃ value, x = .finite value ∧ (platform.toInt32 x.floor).val = ⌊value⌋ := by
  cases x with
  | finite value =>
      exact ⟨value, rfl, toInt32_of_inInt32 platform (by simpa [Float64.InInt32] using inRange)⟩
  | inf => exact inRange.elim
  | nan => exact inRange.elim

/-- On `amd64`, `int32(x)` of an integral float64 is the integer when it is an int32, and the
most negative int32 otherwise. -/
theorem amd64_toInt32_intCast (value : ℤ) :
    (amd64.toInt32 (.finite value)).val = if InInt32 value then value else -2147483648 := by
  simp only [toInt32, truncate_intCast]
  split_ifs <;> rfl

/-- On `amd64`, `int32(math.Floor(x))` is not positive for a float64 `x` that is not positive or
not finite. -/
theorem amd64_toInt32_floor_nonpos {x : Float64} (nonpos : ∀ value, x = .finite value → value ≤ 0) :
    (amd64.toInt32 x.floor).val ≤ 0 := by
  cases x with
  | finite value =>
      have floorNonpos := Int.floor_nonpos (nonpos value rfl)
      rw [Float64.floor_finite, amd64_toInt32_intCast]
      split_ifs <;> omega
  | inf => exact (by decide : (-2147483648 : ℤ) ≤ 0)
  | nan => exact (by decide : (-2147483648 : ℤ) ≤ 0)

end Platform

/-- `time.Second`: times and durations are integers of nanoseconds, a time counted from Go's
zero time. -/
def second : ℤ := 1000000000

/-- `t.Sub(u)`: the duration from `u` to `t`, saturated to the range of `time.Duration`. -/
def timeSub (t u : ℤ) : Int64 :=
  ⟨Max.max (-9223372036854775808) (Min.min (t - u) 9223372036854775807), by omega, by omega⟩

/-- `d.Seconds()`: the whole seconds and the nanoseconds left over, each converted, the
nanoseconds divided by `1e9`, and the two added. -/
def durationSeconds (d : Int64) : Float64 :=
  (Float64.ofInt (d.val.tdiv second)).add
    ((Float64.ofInt (d.val.tmod second)).div (Float64.ofInt 1000000000))

/-- A time as the API server keeps a `metav1.Time`: RFC 3339 text, in whole seconds, the fraction
dropped. -/
def wholeSeconds (t : ℤ) : ℤ := t / second * second

theorem wholeSeconds_le (t : ℤ) : wholeSeconds t ≤ t := by
  simp only [wholeSeconds, second]
  omega

theorem wholeSeconds_mono {s t : ℤ} (le : s ≤ t) : wholeSeconds s ≤ wholeSeconds t := by
  simp only [wholeSeconds, second]
  omega

@[simp] theorem wholeSeconds_wholeSeconds (t : ℤ) : wholeSeconds (wholeSeconds t) = wholeSeconds t := by
  simp only [wholeSeconds, second]
  omega

/-- A whole-second time not after `t` is not after `t`'s whole seconds. -/
theorem le_wholeSeconds {s t : ℤ} (whole : wholeSeconds s = s) (le : s ≤ t) :
    s ≤ wholeSeconds t :=
  whole ▸ wholeSeconds_mono le

end Wpa
