import WatermarkPodAutoscaler.Conditions

/-!
# Normalizing the desired replica count

`convertDesiredReplicasWithRules` clamps a proposal from below and from above. The lower bound
comes from a first-match switch: `1` when `MinReplicas` is zero, the scale-down limit (raised to
`MinReplicas`) when the proposal falls below it, and `MinReplicas` otherwise. A proposal under
the lower bound returns it at once; otherwise the upper bound is the scale-up limit (lowered to
`MaxReplicas`) when the proposal exceeds it, and `MaxReplicas` otherwise.

The two limits are float64 computations converted back with `int32(x)`. Within the int32 range
they lie strictly on either side of the current count; outside it the conversion is the
platform's, and the clamping argument no longer holds.
-/

namespace Wpa

/-- `math.Max(1, math.Floor(factor/100*float64(N)))`: the step a rate limit allows from `N`
replicas, at least one. -/
def limitStep (factor : ℚ) (currentReplicas : Int32) : Float64 :=
  Float64.max (.finite 1)
    (((Float64.round factor).div (.finite 100)).mul (.ofInt currentReplicas.val)).floor

/-- The float64 that `calculateScaleUpLimit` converts: `float64(N)` plus the step of
`ScaleUpLimitFactor`, each operation rounded to binary64 as Go computes it. -/
def scaleUpLimitValue (wpa : WatermarkPodAutoscaler) (currentReplicas : Int32) : Float64 :=
  (Float64.ofInt currentReplicas.val).add (limitStep wpa.spec.scaleUpLimitFactor currentReplicas)

/-- The float64 that `calculateScaleDownLimit` converts: `float64(N)` minus the step of
`ScaleDownLimitFactor`, each operation rounded to binary64 as Go computes it. -/
def scaleDownLimitValue (wpa : WatermarkPodAutoscaler) (currentReplicas : Int32) : Float64 :=
  (Float64.ofInt currentReplicas.val).sub (limitStep wpa.spec.scaleDownLimitFactor currentReplicas)

/-- The most replicas one step may scale up to: the limit value through the platform's
`int32(x)`. -/
def calculateScaleUpLimit (platform : Platform) (wpa : WatermarkPodAutoscaler)
    (currentReplicas : Int32) : Int32 :=
  platform.toInt32 (scaleUpLimitValue wpa currentReplicas)

/-- The fewest replicas one step may scale down to: the limit value through the platform's
`int32(x)`. -/
def calculateScaleDownLimit (platform : Platform) (wpa : WatermarkPodAutoscaler)
    (currentReplicas : Int32) : Int32 :=
  platform.toInt32 (scaleDownLimitValue wpa currentReplicas)

/-- The three results of `convertDesiredReplicasWithRules`. -/
structure Normalization where
  replicas : Int32
  condition : String
  reason : String
  deriving DecidableEq

/-- The switch of `convertDesiredReplicasWithRules`: the minimum allowed replicas with the
limiting condition and reason it records, and the gauge it sets. -/
def minimumAllowed (wpa : WatermarkPodAutoscaler)
    (scaleDownLimit desiredReplicas wpaMinReplicas : Int32) : Normalization × List GaugeOp :=
  let downscaleCapping := wpa.promLabels ++ [(reasonPromLabel, downscaleCappingPromLabel)]
  if wpaMinReplicas = 0 then (⟨1, "", ""⟩, [])
  else if desiredReplicas < scaleDownLimit then
    (⟨max scaleDownLimit wpaMinReplicas, "ScaleDownLimit",
      "the desired replica count is decreasing faster than the maximum scale rate"⟩,
      [.set .restrictedScaling downscaleCapping (.finite 1)])
  else
    (⟨wpaMinReplicas, "TooFewReplicas",
      "the desired replica count is below the minimum replica count"⟩,
      [.set .restrictedScaling downscaleCapping (.finite 0)])

/-- The upscale test of `convertDesiredReplicasWithRules`: the maximum allowed replicas with the
limiting condition and reason, and the gauge it sets. The label map still holds the downscale
reason when the upscale branch is not taken. -/
def maximumAllowed (wpa : WatermarkPodAutoscaler)
    (scaleUpLimit desiredReplicas wpaMaxReplicas : Int32) : Normalization × GaugeOp :=
  if desiredReplicas > scaleUpLimit then
    (⟨min scaleUpLimit wpaMaxReplicas, "ScaleUpLimit",
      "the desired replica count is increasing faster than the maximum scale rate"⟩,
      .set .restrictedScaling (wpa.promLabels ++ [(reasonPromLabel, upscaleCappingPromLabel)])
        (.finite 1))
  else
    (⟨wpaMaxReplicas, "TooManyReplicas",
      "the desired replica count is above the maximum replica count"⟩,
      .set .restrictedScaling (wpa.promLabels ++ [(reasonPromLabel, downscaleCappingPromLabel)])
        (.finite 0))

/-- Clamps the desired count into the range the scale-down and scale-up limits and the bounds
allow, with the reason and message of the bound that applied. -/
def convertDesiredReplicasWithRules (platform : Platform) (wpa : WatermarkPodAutoscaler)
    (currentReplicas desiredReplicas wpaMinReplicas wpaMaxReplicas : Int32) :
    Normalization × List GaugeOp :=
  let lower := minimumAllowed wpa (calculateScaleDownLimit platform wpa currentReplicas)
    desiredReplicas wpaMinReplicas
  if desiredReplicas < lower.1.replicas then lower
  else
    let upper := maximumAllowed wpa (calculateScaleUpLimit platform wpa currentReplicas)
      desiredReplicas wpaMaxReplicas
    if desiredReplicas > upper.1.replicas then (upper.1, lower.2 ++ [upper.2])
    else (⟨desiredReplicas, "DesiredWithinRange", "the desired count is within the acceptable range"⟩,
      lower.2 ++ [upper.2])

/-- `normalizeDesiredReplicas`: the normalized count, the object with its `ScalingLimited`
condition set, and the gauges set on the way. An unset `MinReplicas` counts as zero. -/
def normalizeDesiredReplicas (platform : Platform) (now : ℤ) (wpa : WatermarkPodAutoscaler)
    (currentReplicas prenormalizedDesiredReplicas : Int32) :
    Int32 × WatermarkPodAutoscaler × List GaugeOp :=
  let normalization := convertDesiredReplicasWithRules platform wpa currentReplicas
    prenormalizedDesiredReplicas (wpa.spec.minReplicas.getD 0) wpa.spec.maxReplicas
  let limited := if normalization.1.replicas = prenormalizedDesiredReplicas then conditionFalse
    else conditionTrue
  (normalization.1.replicas,
    setCondition now wpa scalingLimited limited normalization.1.condition normalization.1.reason,
    normalization.2)

theorem normalizeDesiredReplicas_replicas (platform : Platform) (now : ℤ)
    (wpa : WatermarkPodAutoscaler) (currentReplicas prenormalizedDesiredReplicas : Int32) :
    (normalizeDesiredReplicas platform now wpa currentReplicas prenormalizedDesiredReplicas).1 =
      (convertDesiredReplicasWithRules platform wpa currentReplicas prenormalizedDesiredReplicas
        (wpa.spec.minReplicas.getD 0) wpa.spec.maxReplicas).1.replicas := rfl

theorem normalizeDesiredReplicas_conditionsOnly (platform : Platform) (now : ℤ)
    (wpa : WatermarkPodAutoscaler) (currentReplicas prenormalizedDesiredReplicas : Int32) :
    ConditionsOnly wpa
      (normalizeDesiredReplicas platform now wpa currentReplicas prenormalizedDesiredReplicas).2.1 :=
  setCondition_conditionsOnly ..

/-- A finite step is at least one: `math.Max` returns its first argument or a larger one. -/
theorem one_le_limitStep {factor : ℚ} {currentReplicas : Int32} {step : ℚ}
    (finite : limitStep factor currentReplicas = .finite step) : 1 ≤ step := by
  unfold limitStep at finite
  generalize (((Float64.round factor).div (.finite 100)).mul _).floor = floored at finite
  cases floored with
  | finite value => cases finite; exact le_max_left _ _
  | inf negative => cases negative <;> cases finite; exact le_rfl
  | nan => cases finite

/-- A finite limit lies at least one step from the current count, on its side: the step is at
least one, and `N ± 1` is a float64, so rounding keeps the sum or difference beyond it. -/
theorem limitValue_bounds (wpa : WatermarkPodAutoscaler) (currentReplicas : Int32) :
    (∀ value, scaleUpLimitValue wpa currentReplicas = .finite value →
      (currentReplicas.val : ℚ) + 1 ≤ value) ∧
    (∀ value, scaleDownLimitValue wpa currentReplicas = .finite value →
      value ≤ (currentReplicas.val : ℚ) - 1) := by
  have exact (offset : ℤ) (small : offset.natAbs ≤ 1) :
      roundNearest ((currentReplicas.val : ℚ) + offset) = currentReplicas.val + offset := by
    have := currentReplicas.min_le
    have := currentReplicas.lt_max
    exact_mod_cast roundNearest_intCast (n := currentReplicas.val + offset) (by omega)
  unfold scaleUpLimitValue scaleDownLimitValue
  rw [Float64.ofInt_int32]
  constructor <;> intro value finite <;>
    cases stepped : limitStep _ currentReplicas <;> rw [stepped] at finite <;>
    simp only [Float64.add, Float64.sub, reduceCtorEq] at finite
  · have atLeast := one_le_limitStep stepped
    rw [Float64.eq_roundNearest_of_round finite]
    simpa using (exact 1 (by decide)).symm.trans_le
      (roundNearest_mono (by push_cast; linarith))
  · have atLeast := one_le_limitStep stepped
    rw [Float64.eq_roundNearest_of_round finite]
    simpa [sub_eq_add_neg] using (roundNearest_mono (by push_cast; linarith)).trans_eq
      (exact (-1) (by decide))

/-- Where the scale-up limit converts within range, it is above the current count. -/
theorem lt_calculateScaleUpLimit (platform : Platform) (wpa : WatermarkPodAutoscaler)
    (currentReplicas : Int32) (inRange : (scaleUpLimitValue wpa currentReplicas).InInt32) :
    currentReplicas < calculateScaleUpLimit platform wpa currentReplicas := by
  obtain ⟨value, finite, converted⟩ := platform.toInt32_of_float_inInt32 inRange
  rw [Int32.lt_iff_val, calculateScaleUpLimit, converted, Int.lt_iff_add_one_le]
  exact le_truncate_of_le (by exact_mod_cast (limitValue_bounds wpa currentReplicas).1 value finite)

/-- Where the scale-down limit converts within range, it is below the current count. -/
theorem calculateScaleDownLimit_lt (platform : Platform) (wpa : WatermarkPodAutoscaler)
    (currentReplicas : Int32) (inRange : (scaleDownLimitValue wpa currentReplicas).InInt32) :
    calculateScaleDownLimit platform wpa currentReplicas < currentReplicas := by
  obtain ⟨value, finite, converted⟩ := platform.toInt32_of_float_inInt32 inRange
  rw [Int32.lt_iff_val, calculateScaleDownLimit, converted, Int.lt_iff_add_one_le,
    ← le_sub_iff_add_le]
  exact truncate_le_of_le (by exact_mod_cast (limitValue_bounds wpa currentReplicas).2 value finite)

theorem minimumAllowed_replicas (wpa : WatermarkPodAutoscaler)
    (scaleDownLimit desiredReplicas wpaMinReplicas : Int32) :
    (minimumAllowed wpa scaleDownLimit desiredReplicas wpaMinReplicas).1.replicas =
      if wpaMinReplicas = 0 then 1
      else if desiredReplicas < scaleDownLimit then max scaleDownLimit wpaMinReplicas
      else wpaMinReplicas := by
  unfold minimumAllowed
  split_ifs <;> rfl

theorem maximumAllowed_replicas (wpa : WatermarkPodAutoscaler)
    (scaleUpLimit desiredReplicas wpaMaxReplicas : Int32) :
    (maximumAllowed wpa scaleUpLimit desiredReplicas wpaMaxReplicas).1.replicas =
      if desiredReplicas > scaleUpLimit then min scaleUpLimit wpaMaxReplicas
      else wpaMaxReplicas := by
  unfold maximumAllowed
  split_ifs <;> rfl

/-- The count `convertDesiredReplicasWithRules` returns, as the two bounds it tests in turn. -/
theorem convertDesiredReplicasWithRules_replicas (platform : Platform)
    (wpa : WatermarkPodAutoscaler)
    (currentReplicas desiredReplicas wpaMinReplicas wpaMaxReplicas : Int32) :
    (convertDesiredReplicasWithRules platform wpa currentReplicas desiredReplicas wpaMinReplicas
        wpaMaxReplicas).1.replicas =
      let scaleDownLimit := calculateScaleDownLimit platform wpa currentReplicas
      let scaleUpLimit := calculateScaleUpLimit platform wpa currentReplicas
      let lower := if wpaMinReplicas = 0 then 1
        else if desiredReplicas < scaleDownLimit then max scaleDownLimit wpaMinReplicas
        else wpaMinReplicas
      let upper := if desiredReplicas > scaleUpLimit then min scaleUpLimit wpaMaxReplicas
        else wpaMaxReplicas
      if desiredReplicas < lower then lower
      else if desiredReplicas > upper then upper
      else desiredReplicas := by
  dsimp only [convertDesiredReplicasWithRules]
  rw [← minimumAllowed_replicas wpa, ← maximumAllowed_replicas wpa]
  split_ifs <;> rfl

/-- The normalized count reads the object's spec only. -/
theorem convertDesiredReplicasWithRules_replicas_congr {wpa wpa' : WatermarkPodAutoscaler}
    (sameSpec : wpa'.spec = wpa.spec) (platform : Platform)
    (currentReplicas desiredReplicas wpaMinReplicas wpaMaxReplicas : Int32) :
    (convertDesiredReplicasWithRules platform wpa' currentReplicas desiredReplicas wpaMinReplicas
        wpaMaxReplicas).1.replicas =
      (convertDesiredReplicasWithRules platform wpa currentReplicas desiredReplicas wpaMinReplicas
        wpaMaxReplicas).1.replicas := by
  simp only [convertDesiredReplicasWithRules_replicas, calculateScaleUpLimit,
    calculateScaleDownLimit, scaleUpLimitValue, scaleDownLimitValue, sameSpec]

/-- The clamp of the proposal, whenever the two limits lie strictly on either side of the current
count: the early return of the lower bound never skips an upper bound below it. -/
theorem convertDesiredReplicasWithRules_clamp (platform : Platform)
    (wpa : WatermarkPodAutoscaler)
    (currentReplicas desiredReplicas wpaMinReplicas wpaMaxReplicas : Int32)
    (minLeCurrent : max wpaMinReplicas 1 ≤ currentReplicas)
    (currentLeMax : currentReplicas ≤ wpaMaxReplicas)
    (downBelow : calculateScaleDownLimit platform wpa currentReplicas < currentReplicas)
    (upAbove : currentReplicas < calculateScaleUpLimit platform wpa currentReplicas) :
    (convertDesiredReplicasWithRules platform wpa currentReplicas desiredReplicas wpaMinReplicas
        wpaMaxReplicas).1.replicas =
      min (max desiredReplicas
          (if wpaMinReplicas = 0 then 1
            else max wpaMinReplicas (calculateScaleDownLimit platform wpa currentReplicas)))
        (min wpaMaxReplicas (calculateScaleUpLimit platform wpa currentReplicas)) := by
  rw [convertDesiredReplicasWithRules_replicas, Int32.eq_iff_val]
  simp only [Int32.le_iff_val, Int32.lt_iff_val, Int32.eq_iff_val, gt_iff_lt, apply_ite Int32.val,
    Int32.val_max, Int32.val_min, Int32.val_one, Int32.val_zero] at *
  split_ifs <;> omega

/-- Under the same conditions the normalized count lies between the two bounds of the clamp,
which are in order. -/
theorem convertDesiredReplicasWithRules_mem_bounds (platform : Platform)
    (wpa : WatermarkPodAutoscaler)
    (currentReplicas desiredReplicas wpaMinReplicas wpaMaxReplicas : Int32)
    (minLeCurrent : max wpaMinReplicas 1 ≤ currentReplicas)
    (currentLeMax : currentReplicas ≤ wpaMaxReplicas)
    (downBelow : calculateScaleDownLimit platform wpa currentReplicas < currentReplicas)
    (upAbove : currentReplicas < calculateScaleUpLimit platform wpa currentReplicas) :
    (if wpaMinReplicas = 0 then 1
        else max wpaMinReplicas (calculateScaleDownLimit platform wpa currentReplicas)) ≤
      (convertDesiredReplicasWithRules platform wpa currentReplicas desiredReplicas wpaMinReplicas
        wpaMaxReplicas).1.replicas ∧
    (convertDesiredReplicasWithRules platform wpa currentReplicas desiredReplicas wpaMinReplicas
        wpaMaxReplicas).1.replicas ≤
      min wpaMaxReplicas (calculateScaleUpLimit platform wpa currentReplicas) := by
  rw [convertDesiredReplicasWithRules_clamp platform wpa currentReplicas desiredReplicas
    wpaMinReplicas wpaMaxReplicas minLeCurrent currentLeMax downBelow upAbove]
  simp only [Int32.le_iff_val, Int32.lt_iff_val, Int32.val_max, Int32.val_min,
    Int32.val_one] at *
  split_ifs <;> simp only [Int32.val_max, Int32.val_one] <;> omega

/-- Both limits straddle the current count when they are in the int32 range. -/
theorem limits_straddle (platform : Platform) (wpa : WatermarkPodAutoscaler)
    (currentReplicas : Int32) (upInRange : (scaleUpLimitValue wpa currentReplicas).InInt32)
    (downInRange : (scaleDownLimitValue wpa currentReplicas).InInt32) :
    calculateScaleDownLimit platform wpa currentReplicas < currentReplicas ∧
      currentReplicas < calculateScaleUpLimit platform wpa currentReplicas :=
  ⟨calculateScaleDownLimit_lt platform wpa currentReplicas downInRange,
    lt_calculateScaleUpLimit platform wpa currentReplicas upInRange⟩

/-- Within the int32 range of both limits, a proposal at or below the current count is
normalized at or below it, and one at or above it at or above it. -/
theorem convertDesiredReplicasWithRules_keeps_direction (platform : Platform)
    (wpa : WatermarkPodAutoscaler)
    (currentReplicas desiredReplicas wpaMinReplicas wpaMaxReplicas : Int32)
    (minLeCurrent : max wpaMinReplicas 1 ≤ currentReplicas)
    (currentLeMax : currentReplicas ≤ wpaMaxReplicas)
    (upInRange : (scaleUpLimitValue wpa currentReplicas).InInt32)
    (downInRange : (scaleDownLimitValue wpa currentReplicas).InInt32) :
    (desiredReplicas ≤ currentReplicas →
      (convertDesiredReplicasWithRules platform wpa currentReplicas desiredReplicas wpaMinReplicas
        wpaMaxReplicas).1.replicas ≤ currentReplicas) ∧
    (currentReplicas ≤ desiredReplicas →
      currentReplicas ≤ (convertDesiredReplicasWithRules platform wpa currentReplicas
        desiredReplicas wpaMinReplicas wpaMaxReplicas).1.replicas) := by
  obtain ⟨downBelow, upAbove⟩ := limits_straddle platform wpa currentReplicas upInRange downInRange
  rw [convertDesiredReplicasWithRules_clamp platform wpa currentReplicas desiredReplicas
    wpaMinReplicas wpaMaxReplicas minLeCurrent currentLeMax downBelow upAbove]
  simp only [Int32.le_iff_val, Int32.lt_iff_val, Int32.val_max, Int32.val_min,
    Int32.val_one] at *
  split_ifs <;> simp only [Int32.val_max, Int32.val_one] <;> omega

/-- Within the int32 range of both limits, the normalizer is the clamp of the proposal to
`[lo, hi]`, with `lo` the switch's lower bound and `hi` the upper one. -/
theorem convertDesiredReplicasWithRules_eq_clamp (platform : Platform)
    (wpa : WatermarkPodAutoscaler)
    (currentReplicas desiredReplicas wpaMinReplicas wpaMaxReplicas : Int32)
    (minLeCurrent : max wpaMinReplicas 1 ≤ currentReplicas)
    (currentLeMax : currentReplicas ≤ wpaMaxReplicas)
    (upInRange : (scaleUpLimitValue wpa currentReplicas).InInt32)
    (downInRange : (scaleDownLimitValue wpa currentReplicas).InInt32) :
    (convertDesiredReplicasWithRules platform wpa currentReplicas desiredReplicas wpaMinReplicas
        wpaMaxReplicas).1.replicas =
      min (max desiredReplicas
          (if wpaMinReplicas = 0 then 1
            else max wpaMinReplicas (calculateScaleDownLimit platform wpa currentReplicas)))
        (min wpaMaxReplicas (calculateScaleUpLimit platform wpa currentReplicas)) :=
  have straddle := limits_straddle platform wpa currentReplicas upInRange downInRange
  convertDesiredReplicasWithRules_clamp platform wpa currentReplicas desiredReplicas
    wpaMinReplicas wpaMaxReplicas minLeCurrent currentLeMax straddle.1 straddle.2

/-- Ten replicas asked to go to `30`, with `MinReplicas = 2` and `MaxReplicas = 20`: the scale-up
limit `15` wins. -/
theorem convertDesiredReplicasWithRules_eq_clamp_ten :
    max (⟨2, by decide, by decide⟩ : Int32) 1 ≤ ⟨10, by decide, by decide⟩ ∧
      (⟨10, by decide, by decide⟩ : Int32) ≤ ⟨20, by decide, by decide⟩ ∧
      (scaleUpLimitValue exampleWpa ⟨10, by decide, by decide⟩).InInt32 ∧
      (scaleDownLimitValue exampleWpa ⟨10, by decide, by decide⟩).InInt32 ∧
      (convertDesiredReplicasWithRules .amd64 exampleWpa ⟨10, by decide, by decide⟩
          ⟨30, by decide, by decide⟩ ⟨2, by decide, by decide⟩ ⟨20, by decide, by decide⟩).1.replicas =
        min (max ⟨30, by decide, by decide⟩
            (if (⟨2, by decide, by decide⟩ : Int32) = 0 then 1
              else max ⟨2, by decide, by decide⟩
                (calculateScaleDownLimit .amd64 exampleWpa ⟨10, by decide, by decide⟩)))
          (min ⟨20, by decide, by decide⟩
            (calculateScaleUpLimit .amd64 exampleWpa ⟨10, by decide, by decide⟩)) :=
  ⟨by decide, by decide, by decide, by decide,
    convertDesiredReplicasWithRules_eq_clamp .amd64 exampleWpa _ _ _ _ (by decide) (by decide)
      (by decide) (by decide)⟩

end Wpa
