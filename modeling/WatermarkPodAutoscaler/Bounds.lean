import WatermarkPodAutoscaler.Decision

/-!
# Bounds on the written counts

A decided count lies in `[max(1, MinReplicas), MaxReplicas]` and within the rate limits of the
step, provided the float64 limits of `calculateScaleUpLimit` and `calculateScaleDownLimit` fit in
an int32. Outside that range Go's `int32(x)` is implementation-dependent; on `amd64` it yields the
most negative int32, and a scale-up factor large enough to mean "unlimited" makes the normalizer
write that value. The lower rate limit is also given up by design when `MinReplicas` is zero:
the normalizer's switch then returns `1` as its lower bound before it looks at the scale-down
limit.
-/

namespace Wpa

section

variable {platform : Platform} {wpa : WatermarkPodAutoscaler} {scale : Scale} {replicas : Int32}

/-- A decided count lies in `[max(1, MinReplicas), MaxReplicas]`. -/
theorem Decided.within_range (decided : Decided platform wpa scale replicas)
    (currentNonneg : 0 ≤ scale.statusReplicas) (minNonneg : 0 ≤ wpa.spec.minReplicas.getD 0)
    (minLeMax : wpa.spec.minReplicas.getD 0 ≤ wpa.spec.maxReplicas)
    (maxPos : 1 ≤ wpa.spec.maxReplicas)
    (upInRange : (scaleUpLimitValue wpa scale.statusReplicas).InInt32)
    (downInRange : (scaleDownLimitValue wpa scale.statusReplicas).InInt32) :
    max 1 (wpa.spec.minReplicas.getD 0) ≤ replicas ∧ replicas ≤ wpa.spec.maxReplicas := by
  obtain ⟨-, forced | ⟨unforced, desiredReplicas, -, rfl⟩⟩ := decided
  · exact forcedReplicas_bounds forced currentNonneg minNonneg minLeMax maxPos
  · obtain ⟨minLeCurrent, currentLeMax⟩ := (forcedReplicas_eq_none_iff currentNonneg).1 unforced
    have straddle := limits_straddle platform wpa _ upInRange downInRange
    have bounds := convertDesiredReplicasWithRules_mem_bounds platform wpa _ desiredReplicas _ _
      minLeCurrent currentLeMax straddle.1 straddle.2
    split_ifs at bounds <;>
      simp only [Int32.le_iff_val, Int32.lt_iff_val, Int32.val_max, Int32.val_min, Int32.val_one,
        Int32.eq_iff_val, Int32.val_zero, max_le_iff, le_min_iff] at * <;> omega

/-- A decided count for a target inside its replica range lies within the rate limits of the
step; the lower one only when `MinReplicas` is set and not zero. -/
theorem Decided.within_rate_limits (decided : Decided platform wpa scale replicas)
    (minLeCurrent : max (wpa.spec.minReplicas.getD 0) 1 ≤ scale.statusReplicas)
    (currentLeMax : scale.statusReplicas ≤ wpa.spec.maxReplicas)
    (upInRange : (scaleUpLimitValue wpa scale.statusReplicas).InInt32)
    (downInRange : (scaleDownLimitValue wpa scale.statusReplicas).InInt32) :
    replicas ≤ calculateScaleUpLimit platform wpa scale.statusReplicas ∧
      (wpa.spec.minReplicas.getD 0 ≠ 0 →
        calculateScaleDownLimit platform wpa scale.statusReplicas ≤ replicas) := by
  have currentNonneg : 0 ≤ scale.statusReplicas := le_trans (by simp) minLeCurrent
  have unforced := (forcedReplicas_eq_none_iff currentNonneg).2 ⟨minLeCurrent, currentLeMax⟩
  obtain ⟨-, forced | ⟨-, desiredReplicas, -, rfl⟩⟩ := decided
  · exact absurd (unforced.symm.trans forced) (by simp)
  · have straddle := limits_straddle platform wpa _ upInRange downInRange
    have bounds := convertDesiredReplicasWithRules_mem_bounds platform wpa _ desiredReplicas _ _
      minLeCurrent currentLeMax straddle.1 straddle.2
    split_ifs at bounds <;>
      simp only [Int32.le_iff_val, Int32.val_max, Int32.val_min, Int32.val_one, Int32.eq_iff_val,
        Int32.val_zero, max_le_iff, le_min_iff, ne_eq] at * <;> omega

end

/-- Ten running, ready pods of the example deployment. -/
def examplePods : List Pod :=
  (List.range 10).map fun index =>
    ⟨"pod-" ++ toString index, "default", podRunning, some 0, [⟨podReady, conditionTrue, 0⟩]⟩

/-- A replica calculator whose metrics server reports `usage` milli-units for each example pod,
at time `5`. -/
def exampleCalculator (usage : Int64) : ReplicaCalculator where
  metricsClient :=
    ⟨fun _ _ _ => .ok (⟨examplePods.map fun pod => (pod.name, usage), by
        rw [List.map_map]
        exact (by decide : (examplePods.map Pod.name).Nodup)⟩, 5),
      fun _ _ _ => .ok ([], 5)⟩
  podLister _ _ := .ok examplePods
  parseLabels _ := none
  labelSelectorAsSelector _ := none

/-- An API server whose scale subresource reports `replicas` in spec and status, and whose
updates all succeed, at clock `100`. -/
def exampleCluster (replicas : Int32) : Cluster where
  restMappings _ := .ok [⟨⟨"apps", "deployments"⟩, "apps/v1"⟩]
  getScale _ := .ok ⟨replicas, replicas, "app=example"⟩
  updateScale := none
  updateStatus := none
  updateObject := none
  handleFinalizer := .ok false
  now := 100

/-- Defaulting and validation that accept the object as it is. -/
def exampleDefaulting : Defaulting := ⟨fun _ => true, id, fun _ => none⟩

/-- The example deployment's scale is found through its `apps/v1` mapping. -/
theorem lookupScale_exampleCluster (replicas : Int32) :
    lookupScale (exampleCluster replicas) exampleWpa.spec.scaleTargetRef =
      .ok (⟨replicas, replicas, "app=example"⟩, ⟨"apps", "deployments"⟩) := rfl

/-- Every scale write in `result`, and every rescale it records, lies in
`[max(1, MinReplicas), MaxReplicas]` of `wpa`. -/
def WritesWithinRange (wpa : WatermarkPodAutoscaler)
    (result : WatermarkPodAutoscaler × List Effect) : Prop :=
  DecidesWrites (fun replicas => max 1 (wpa.spec.minReplicas.getD 0) ≤ replicas ∧
    replicas ≤ wpa.spec.maxReplicas) wpa result

/-- Every scale write of a reconciliation, and every rescale it records, lies in
`[max(1, MinReplicas), MaxReplicas]`, for a target whose scale reports no negative count and whose
float64 limits fit in an int32. -/
theorem Reconcile_writes_within_replica_range (platform : Platform)
    (replicaCalc : ReplicaCalculatorItf) (defaulting : Defaulting) (cluster : Cluster)
    (wpaInstance : WatermarkPodAutoscaler)
    (minNonneg : 0 ≤ wpaInstance.spec.minReplicas.getD 0)
    (minLeMax : wpaInstance.spec.minReplicas.getD 0 ≤ wpaInstance.spec.maxReplicas)
    (maxPos : 1 ≤ wpaInstance.spec.maxReplicas)
    (scaleInRange : ∀ currentScale targetGR,
      lookupScale cluster wpaInstance.spec.scaleTargetRef = .ok (currentScale, targetGR) →
        0 ≤ currentScale.statusReplicas ∧
          (scaleUpLimitValue wpaInstance currentScale.statusReplicas).InInt32 ∧
          (scaleDownLimitValue wpaInstance currentScale.statusReplicas).InInt32) :
    WritesWithinRange wpaInstance (Reconcile platform replicaCalc defaulting cluster wpaInstance).2 :=
  (Reconcile_decidesWrites platform replicaCalc defaulting cluster wpaInstance).mono
    (fun _ ⟨currentScale, targetGR, found, decided⟩ =>
      have ⟨currentNonneg, upInRange, downInRange⟩ := scaleInRange currentScale targetGR found
      decided.within_range currentNonneg minNonneg minLeMax maxPos upInRange downInRange)
    rfl

/-- The example deployment at ten replicas with CPU usage `9` against the watermarks `[5, 8]`. -/
theorem Reconcile_writes_within_replica_range_example :
    0 ≤ exampleWpa.spec.minReplicas.getD 0 ∧
      exampleWpa.spec.minReplicas.getD 0 ≤ exampleWpa.spec.maxReplicas ∧
      1 ≤ exampleWpa.spec.maxReplicas ∧
      (∀ currentScale targetGR, lookupScale (exampleCluster ⟨10, by decide, by decide⟩)
          exampleWpa.spec.scaleTargetRef = .ok (currentScale, targetGR) →
        0 ≤ currentScale.statusReplicas ∧
          (scaleUpLimitValue exampleWpa currentScale.statusReplicas).InInt32 ∧
          (scaleDownLimitValue exampleWpa currentScale.statusReplicas).InInt32) ∧
      WritesWithinRange exampleWpa
        (Reconcile .amd64 ((exampleCalculator ⟨9000, by decide, by decide⟩).toItf .amd64)
          exampleDefaulting (exampleCluster ⟨10, by decide, by decide⟩) exampleWpa).2 := by
  have scaleInRange : ∀ currentScale targetGR, lookupScale (exampleCluster ⟨10, by decide, by decide⟩)
      exampleWpa.spec.scaleTargetRef = .ok (currentScale, targetGR) →
        0 ≤ currentScale.statusReplicas ∧
          (scaleUpLimitValue exampleWpa currentScale.statusReplicas).InInt32 ∧
          (scaleDownLimitValue exampleWpa currentScale.statusReplicas).InInt32 := by
    intro currentScale targetGR found
    rw [lookupScale_exampleCluster] at found
    cases found
    decide
  exact ⟨by decide, by decide, by decide, scaleInRange,
    Reconcile_writes_within_replica_range _ _ _ _ _ (by decide) (by decide) (by decide)
      scaleInRange⟩

set_option maxRecDepth 2000 in
/-- The range fails in three ways outside the conditions above. With a scale-up factor of
`10^12`, meant as "unlimited", the scale-up limit leaves the int32 range; on `amd64` it converts
to the most negative int32, which the reconciliation writes. A scale reporting `-5` replicas, with
`MinReplicas` unset, clamps a proposal of `1` to the scale-up limit `-4`. A negative
`MinReplicas` lets a reconciliation with no metric write `0`. -/
theorem Reconcile_writes_outside_replica_range :
    let hugeFactor := { exampleWpa with
      spec := { exampleWpa.spec with scaleUpLimitFactor := 1000000000000 } }
    let unsetMinimum := { exampleWpa with spec := { exampleWpa.spec with minReplicas := none } }
    let negativeMinimum := { exampleWpa with
      spec := { exampleWpa.spec with minReplicas := some ⟨-3, by decide, by decide⟩, metrics := [] } }
    (0 ≤ hugeFactor.spec.scaleUpLimitFactor ∧ 0 ≤ hugeFactor.spec.scaleDownLimitFactor ∧
      hugeFactor.spec.minReplicas.getD 0 ≤ hugeFactor.spec.maxReplicas ∧
      1 ≤ hugeFactor.spec.maxReplicas ∧
      ¬WritesWithinRange hugeFactor
        (Reconcile .amd64 ((exampleCalculator ⟨9000, by decide, by decide⟩).toItf .amd64)
          exampleDefaulting (exampleCluster ⟨10, by decide, by decide⟩) hugeFactor).2) ∧
    (unsetMinimum.spec.minReplicas.getD 0 ≤ unsetMinimum.spec.maxReplicas ∧
      ¬WritesWithinRange unsetMinimum
        (Reconcile .amd64 ((exampleCalculator ⟨1000, by decide, by decide⟩).toItf .amd64)
          exampleDefaulting (exampleCluster ⟨-5, by decide, by decide⟩) unsetMinimum).2) ∧
    (negativeMinimum.spec.minReplicas.getD 0 ≤ negativeMinimum.spec.maxReplicas ∧
      ¬WritesWithinRange negativeMinimum
        (Reconcile .amd64 ((exampleCalculator ⟨9000, by decide, by decide⟩).toItf .amd64)
          exampleDefaulting (exampleCluster ⟨1, by decide, by decide⟩) negativeMinimum).2) := by
  refine ⟨⟨by decide, by decide, by decide, by decide, fun writes => ?_⟩,
    ⟨by decide, fun writes => ?_⟩, ⟨by decide, fun writes => ?_⟩⟩
  · exact absurd (writes.1 ⟨"apps", "deployments"⟩ ⟨-2147483648, by decide, by decide⟩ (by decide))
      (by decide)
  · exact absurd (writes.1 ⟨"apps", "deployments"⟩ ⟨-4, by decide, by decide⟩ (by decide))
      (by decide)
  · exact absurd (writes.1 ⟨"apps", "deployments"⟩ 0 (by decide)) (by decide)

/-- Every scale write of a reconciliation whose target is inside its replica range, and every
rescale it records, is at most the scale-up limit that `calculateScaleUpLimit` computes, and at
least the scale-down limit of `calculateScaleDownLimit` when `MinReplicas` is not zero; for
float64 limits that convert within the int32 range. -/
theorem Reconcile_writes_within_rate_limits (platform : Platform)
    (replicaCalc : ReplicaCalculatorItf) (defaulting : Defaulting) (cluster : Cluster)
    (wpaInstance : WatermarkPodAutoscaler) {currentScale : Scale} {targetGR : GroupResource}
    (found : lookupScale cluster wpaInstance.spec.scaleTargetRef = .ok (currentScale, targetGR))
    (minLeCurrent : max (wpaInstance.spec.minReplicas.getD 0) 1 ≤ currentScale.statusReplicas)
    (currentLeMax : currentScale.statusReplicas ≤ wpaInstance.spec.maxReplicas)
    (upInRange : (scaleUpLimitValue wpaInstance currentScale.statusReplicas).InInt32)
    (downInRange : (scaleDownLimitValue wpaInstance currentScale.statusReplicas).InInt32) :
    DecidesWrites (fun replicas =>
        replicas ≤ calculateScaleUpLimit platform wpaInstance currentScale.statusReplicas ∧
          (wpaInstance.spec.minReplicas.getD 0 ≠ 0 →
            calculateScaleDownLimit platform wpaInstance currentScale.statusReplicas ≤ replicas))
      wpaInstance (Reconcile platform replicaCalc defaulting cluster wpaInstance).2 :=
  (Reconcile_decidesWrites platform replicaCalc defaulting cluster wpaInstance).mono
    (fun _ ⟨currentScale', targetGR', found', decided⟩ => by
      cases found.symm.trans found'
      exact decided.within_rate_limits minLeCurrent currentLeMax upInRange downInRange)
    rfl

/-- The example deployment at ten replicas, for the rate limits. -/
theorem Reconcile_writes_within_rate_limits_example :
    lookupScale (exampleCluster ⟨10, by decide, by decide⟩) exampleWpa.spec.scaleTargetRef =
        .ok (⟨⟨10, by decide, by decide⟩, ⟨10, by decide, by decide⟩, "app=example"⟩,
          ⟨"apps", "deployments"⟩) ∧
      max (exampleWpa.spec.minReplicas.getD 0) 1 ≤ ⟨10, by decide, by decide⟩ ∧
      (⟨10, by decide, by decide⟩ : Int32) ≤ exampleWpa.spec.maxReplicas ∧
      (scaleUpLimitValue exampleWpa ⟨10, by decide, by decide⟩).InInt32 ∧
      (scaleDownLimitValue exampleWpa ⟨10, by decide, by decide⟩).InInt32 ∧
      DecidesWrites (fun replicas =>
          replicas ≤ calculateScaleUpLimit .amd64 exampleWpa ⟨10, by decide, by decide⟩ ∧
            (exampleWpa.spec.minReplicas.getD 0 ≠ 0 →
              calculateScaleDownLimit .amd64 exampleWpa ⟨10, by decide, by decide⟩ ≤ replicas))
        exampleWpa (Reconcile .amd64 ((exampleCalculator ⟨9000, by decide, by decide⟩).toItf .amd64)
          exampleDefaulting (exampleCluster ⟨10, by decide, by decide⟩) exampleWpa).2 :=
  ⟨lookupScale_exampleCluster _, by decide, by decide, by decide, by decide,
    @Reconcile_writes_within_rate_limits .amd64 _ _ _ exampleWpa
      ⟨⟨10, by decide, by decide⟩, ⟨10, by decide, by decide⟩, "app=example"⟩ _
      (lookupScale_exampleCluster _) (by decide) (by decide) (by decide) (by decide)⟩

set_option maxRecDepth 2000 in
/-- The bounds `N - max(1, ⌊fDown·N/100⌋)` and `N + max(1, ⌊fUp·N/100⌋)` fail in two ways. With
`MinReplicas = 0`, ten replicas and a scale-down factor of `10`, a CPU usage of `1` against the
watermarks `[5, 8]` proposes `2`, and the reconciliation writes `2`, below `10 - 1 = 9`: the
switch returns `1` as its lower bound before it looks at the scale-down limit. With twenty
replicas, `MaxReplicas = 100` and the scale-up factor `14.999999999999998`, a CPU usage of `20`
writes `23`, above `20 + ⌊fUp·20/100⌋ = 22`: float64 rounds `fUp/100·20` up to `3`. -/
theorem Reconcile_writes_below_scaleDownLimit_of_zero_minReplicas :
    let wpa := { exampleWpa with
      spec := { exampleWpa.spec with minReplicas := some 0, scaleDownLimitFactor := 10 } }
    let fastUp := { exampleWpa with
      spec := { exampleWpa.spec with
        maxReplicas := (⟨100, by decide, by decide⟩ : Int32)
        scaleUpLimitFactor := mkRat 14999999999999998 1000000000000000 } }
    (max (wpa.spec.minReplicas.getD 0) 1 ≤ ⟨10, by decide, by decide⟩ ∧
      (⟨10, by decide, by decide⟩ : Int32) ≤ wpa.spec.maxReplicas ∧
      10 - max 1 ⌊wpa.spec.scaleDownLimitFactor * 10 / 100⌋ = 9 ∧
      Effect.updateScale ⟨"apps", "deployments"⟩ ⟨2, by decide, by decide⟩ ∈
        (Reconcile .amd64 ((exampleCalculator ⟨1000, by decide, by decide⟩).toItf .amd64)
          exampleDefaulting (exampleCluster ⟨10, by decide, by decide⟩) wpa).2.2) ∧
    (max (fastUp.spec.minReplicas.getD 0) 1 ≤ ⟨20, by decide, by decide⟩ ∧
      (⟨20, by decide, by decide⟩ : Int32) ≤ fastUp.spec.maxReplicas ∧
      20 + max 1 ⌊fastUp.spec.scaleUpLimitFactor * 20 / 100⌋ = 22 ∧
      Effect.updateScale ⟨"apps", "deployments"⟩ ⟨23, by decide, by decide⟩ ∈
        (Reconcile .amd64 ((exampleCalculator ⟨20000, by decide, by decide⟩).toItf .amd64)
          exampleDefaulting (exampleCluster ⟨20, by decide, by decide⟩) fastUp).2.2) := by
  refine ⟨⟨by decide, by decide, ?_, by decide⟩, ⟨by decide, by decide, ?_, by decide⟩⟩
  · norm_num [exampleWpa]
  · norm_num [exampleWpa, Rat.mkRat_eq_div]

end Wpa
