import WatermarkPodAutoscaler.Api
import Mathlib.Data.Finset.Card

/-!
# The replica calculator

`GetExternalMetricReplicas` and `GetResourceReplicas` turn metric readings into a proposed
replica count. Both sum the readings, divide the sum by the number of ready pods under the
`average` algorithm, and hand the quotient to `getReplicaCount`, which compares it with the
tolerance-widened watermarks. The two differ in the pods they count: the external path counts
ready pods of the target's selector across all namespaces (`getReadyPodsCount`) and scales from
that count, while the resource path filters the pods of the WPA's namespace through
`groupPods`, drops the readings of ignored pods, and scales from the scale's status replicas.

The metrics client and the pod lister are collaborators: a `ReplicaCalculator` gives their
replies. So do the label parsers of the API library, through the error they report. Listing with
the nil selector that a failed `labels.Parse` leaves behind dereferences it, so the external
path panics there.

Each pod goes to the one group `classifyPod` gives it, so on a list of distinct names the sets of
names partition the listed pods. A pod missing from the metric map is `missing` only when it is
neither `Failed` nor `Pending`: those are ignored first. Pod phases, the `Ready` condition and the
`cpu` resource are the constants of `corev1`.
-/

namespace Wpa

/-- `metricsclient.MetricsClient`, by its replies. -/
structure MetricsClient where
  getResourceMetric :
    (resource podNamespace : String) → Option LabelSelector → Except String (PodMetricsInfo × ℤ)
  getExternalMetric :
    (metricName podNamespace : String) → Option LabelSelector → Except String (List Int64 × ℤ)

/-- `ReplicaCalculator`, with its collaborators given by their replies. -/
structure ReplicaCalculator where
  metricsClient : MetricsClient
  /-- `podLister.Pods(namespace).List(selector)`; the namespace `""` is `metav1.NamespaceAll`. -/
  podLister : (podNamespace selector : String) → Except String (List Pod)
  /-- The error of `labels.Parse(selector)`, if it fails. -/
  parseLabels : String → Option String
  /-- The error of `metav1.LabelSelectorAsSelector(selector)`, if it fails. -/
  labelSelectorAsSelector : Option LabelSelector → Option String

def podFailed : String := "Failed"

def podPending : String := "Pending"

def podRunning : String := "Running"

def podReady : String := "Ready"

def resourceCPU : String := "cpu"

/-- `getPodCondition`: the first condition of the type. The index it also returns is read by no
caller. -/
def getPodCondition (conditions : List PodCondition) (conditionType : String) :
    Option PodCondition :=
  conditions.find? fun condition => condition.type = conditionType

/-- `time.Duration(wpa.Spec.ReadinessDelaySeconds) * time.Second`. -/
def readinessDelay (wpa : WatermarkPodAutoscaler) : ℤ :=
  wpa.spec.readinessDelaySeconds.val * second

/-- Where the loop of `groupPods` puts a pod. -/
inductive PodGroup where
  | ready | ignored | missing
  deriving DecidableEq

/-- One iteration of the loop of `groupPods`. -/
def classifyPod (metrics : PodMetricsInfo) (resource : String)
    (delayOfInitialReadinessStatus : ℤ) (pod : Pod) : PodGroup :=
  if pod.phase = podFailed then .ignored
  else if pod.phase = podPending then .ignored
  else if !metrics.contains pod.name then .missing
  else if resource = resourceCPU then
    match getPodCondition pod.conditions podReady, pod.startTime with
    | some condition, some startTime =>
        if condition.status = conditionFalse ∧
            condition.lastTransitionTime < startTime + delayOfInitialReadinessStatus then .ignored
        else .ready
    | _, _ => .ignored
  else .ready

/-- The names of the pods the loop of `groupPods` puts in one group. -/
def podsIn (group : PodGroup) (podList : List Pod) (metrics : PodMetricsInfo) (resource : String)
    (delayOfInitialReadinessStatus : ℤ) : Finset String :=
  ((podList.filter fun pod =>
    classifyPod metrics resource delayOfInitialReadinessStatus pod = group).map Pod.name).toFinset

/-- `groupPods`: the ready and the ignored pod names. -/
def groupPods (podList : List Pod) (metrics : PodMetricsInfo) (resource : String)
    (delayOfInitialReadinessStatus : ℤ) : Finset String × Finset String :=
  (podsIn .ready podList metrics resource delayOfInitialReadinessStatus,
    podsIn .ignored podList metrics resource delayOfInitialReadinessStatus)

/-- `removeMetricsForPods`: delete the readings of the given pods. -/
def removeMetricsForPods (metrics : PodMetricsInfo) (pods : Finset String) : PodMetricsInfo :=
  ⟨metrics.entries.filter fun entry => entry.1 ∉ pods,
    (List.Sublist.map _ (List.filter_sublist _)).nodup metrics.keys_nodup⟩

section

variable {podList : List Pod} {metrics : PodMetricsInfo} {resource : String}
  {delayOfInitialReadinessStatus : ℤ}

theorem mem_podsIn {group : PodGroup} {name : String} :
    name ∈ podsIn group podList metrics resource delayOfInitialReadinessStatus ↔
      ∃ pod ∈ podList,
        classifyPod metrics resource delayOfInitialReadinessStatus pod = group ∧ pod.name = name := by
  simp [podsIn, and_assoc]

/-- On distinct names, a listed pod's name lies in the group of its class and in no other. -/
theorem mem_podsIn_iff_classifyPod (distinct : (podList.map Pod.name).Nodup) {pod : Pod}
    (listed : pod ∈ podList) (group : PodGroup) :
    pod.name ∈ podsIn group podList metrics resource delayOfInitialReadinessStatus ↔
      classifyPod metrics resource delayOfInitialReadinessStatus pod = group := by
  rw [mem_podsIn]
  constructor
  · rintro ⟨other, otherListed, classified, sameName⟩
    rwa [List.inj_on_of_nodup_map distinct otherListed listed sameName] at classified
  · exact fun classified => ⟨pod, listed, classified, rfl⟩

theorem classifyPod_of_failed_or_pending {pod : Pod}
    (stopped : pod.phase = podFailed ∨ pod.phase = podPending) :
    classifyPod metrics resource delayOfInitialReadinessStatus pod = .ignored := by
  unfold classifyPod
  rcases stopped with failed | pending
  · rw [if_pos failed]
  · by_cases failed : pod.phase = podFailed
    · rw [if_pos failed]
    · rw [if_neg failed, if_pos pending]

/-- A pod is `missing` exactly when it is neither `Failed` nor `Pending` and has no sample. -/
theorem classifyPod_eq_missing {pod : Pod} :
    classifyPod metrics resource delayOfInitialReadinessStatus pod = .missing ↔
      pod.phase ≠ podFailed ∧ pod.phase ≠ podPending ∧ metrics.contains pod.name = false := by
  unfold classifyPod
  split_ifs <;> simp_all
  split <;> (try split_ifs) <;> simp

/-- A ready pod has a sample. -/
theorem contains_of_classifyPod_ready {pod : Pod}
    (ready : classifyPod metrics resource delayOfInitialReadinessStatus pod = .ready) :
    metrics.contains pod.name = true := by
  unfold classifyPod at ready
  split_ifs at ready with _ _ missing
  · simpa using missing
  · simpa using missing

theorem PodMetricsInfo.contains_iff_mem_keys {name : String} :
    metrics.contains name = true ↔ name ∈ metrics.keys := by
  simp [PodMetricsInfo.contains, PodMetricsInfo.keys]

theorem mem_keys_removeMetricsForPods {pods : Finset String} {name : String} :
    name ∈ (removeMetricsForPods metrics pods).keys ↔ name ∈ metrics.keys ∧ name ∉ pods := by
  simp only [removeMetricsForPods, PodMetricsInfo.keys, List.mem_map, List.mem_filter,
    decide_eq_true_eq]
  constructor
  · rintro ⟨entry, ⟨held, outside⟩, rfl⟩
    exact ⟨⟨entry, held, rfl⟩, outside⟩
  · rintro ⟨⟨entry, held, rfl⟩, outside⟩
    exact ⟨entry, ⟨held, outside⟩, rfl⟩

section Distinct

variable (distinct : (podList.map Pod.name).Nodup)
include distinct

/-- On distinct names, no pod is both ready and ignored. -/
theorem podsIn_ready_disjoint_ignored :
    Disjoint (podsIn .ready podList metrics resource delayOfInitialReadinessStatus)
      (podsIn .ignored podList metrics resource delayOfInitialReadinessStatus) := by
  refine Finset.disjoint_left.mpr fun name ready ignored => ?_
  obtain ⟨pod, listed, classified, rfl⟩ := mem_podsIn.mp ready
  exact absurd (classified.symm.trans ((mem_podsIn_iff_classifyPod distinct listed .ignored).mp
    ignored)) nofun

/-- On distinct names, once the ignored pods' samples are removed, the samples that name listed
pods are those of the ready pods. -/
theorem remaining_samples_iff_ready (name : String) :
    name ∈ (removeMetricsForPods metrics
        (podsIn .ignored podList metrics resource delayOfInitialReadinessStatus)).keys ∧
        (∃ pod ∈ podList, pod.name = name) ↔
      name ∈ podsIn .ready podList metrics resource delayOfInitialReadinessStatus := by
  rw [mem_keys_removeMetricsForPods]
  constructor
  · rintro ⟨⟨sampled, notIgnored⟩, pod, listed, rfl⟩
    rw [mem_podsIn_iff_classifyPod distinct listed] at notIgnored ⊢
    cases classified : classifyPod metrics resource delayOfInitialReadinessStatus pod
    · rfl
    · exact absurd classified notIgnored
    · exact absurd (classifyPod_eq_missing.mp classified).2.2
        (by simpa using PodMetricsInfo.contains_iff_mem_keys.mpr sampled)
  · intro ready
    obtain ⟨pod, listed, classified, rfl⟩ := mem_podsIn.mp ready
    exact ⟨⟨PodMetricsInfo.contains_iff_mem_keys.mp (contains_of_classifyPod_ready classified),
      Finset.disjoint_left.mp (podsIn_ready_disjoint_ignored distinct) ready⟩, pod, listed, rfl⟩

end Distinct

/-- On a pod list of distinct names, `groupPods` returns disjoint ready and ignored sets; every
listed pod lies in exactly one of the ready set, the ignored set and the missing pods (neither
`Failed` nor `Pending`, and without a sample); every `Failed` or `Pending` pod is ignored; every
ready pod has a sample; and once the ignored pods' samples are removed, the remaining samples that
name listed pods are exactly those of the ready pods. -/
theorem groupPods_partitions_pods (podList : List Pod) (metrics : PodMetricsInfo)
    (resource : String) (delayOfInitialReadinessStatus : ℤ)
    (distinct : (podList.map Pod.name).Nodup) :
    Disjoint (groupPods podList metrics resource delayOfInitialReadinessStatus).1
      (groupPods podList metrics resource delayOfInitialReadinessStatus).2 ∧
    (∀ pod ∈ podList,
      (pod.name ∈ (groupPods podList metrics resource delayOfInitialReadinessStatus).1 ∧
        pod.name ∉ (groupPods podList metrics resource delayOfInitialReadinessStatus).2 ∧
        ¬(pod.phase ≠ podFailed ∧ pod.phase ≠ podPending ∧ metrics.contains pod.name = false)) ∨
      (pod.name ∉ (groupPods podList metrics resource delayOfInitialReadinessStatus).1 ∧
        pod.name ∈ (groupPods podList metrics resource delayOfInitialReadinessStatus).2 ∧
        ¬(pod.phase ≠ podFailed ∧ pod.phase ≠ podPending ∧ metrics.contains pod.name = false)) ∨
      (pod.name ∉ (groupPods podList metrics resource delayOfInitialReadinessStatus).1 ∧
        pod.name ∉ (groupPods podList metrics resource delayOfInitialReadinessStatus).2 ∧
        (pod.phase ≠ podFailed ∧ pod.phase ≠ podPending ∧ metrics.contains pod.name = false))) ∧
    (∀ pod ∈ podList, pod.phase = podFailed ∨ pod.phase = podPending →
      pod.name ∈ (groupPods podList metrics resource delayOfInitialReadinessStatus).2) ∧
    (∀ name ∈ (groupPods podList metrics resource delayOfInitialReadinessStatus).1,
      name ∈ metrics.keys) ∧
    ∀ name, name ∈ (removeMetricsForPods metrics
        (groupPods podList metrics resource delayOfInitialReadinessStatus).2).keys ∧
        (∃ pod ∈ podList, pod.name = name) ↔
      name ∈ (groupPods podList metrics resource delayOfInitialReadinessStatus).1 := by
  have inGroup := @mem_podsIn_iff_classifyPod podList metrics resource
    delayOfInitialReadinessStatus distinct
  refine ⟨podsIn_ready_disjoint_ignored distinct, fun pod listed => ?_,
    fun pod listed stopped => ?_, fun name ready => ?_, remaining_samples_iff_ready distinct⟩
  · -- Exactly one group, by the pod's class.
    rw [← @classifyPod_eq_missing metrics resource delayOfInitialReadinessStatus pod]
    simp only [groupPods, inGroup listed]
    cases classifyPod metrics resource delayOfInitialReadinessStatus pod <;> simp
  · exact (inGroup listed .ignored).mpr (classifyPod_of_failed_or_pending stopped)
  · obtain ⟨pod, -, classified, rfl⟩ := mem_podsIn.mp ready
    exact PodMetricsInfo.contains_iff_mem_keys.mp (contains_of_classifyPod_ready classified)

end

/-- A pending pod without a sample is ignored, and absent from the metric map too: it lies in two
of the ready set, the ignored set and the pods absent from the map. -/
theorem groupPods_ignores_unsampled_pending_pod :
    "pending" ∈ (groupPods [⟨"pending", "default", podPending, none, []⟩] ⟨[], List.nodup_nil⟩
        resourceCPU 0).2 ∧
      "pending" ∉ (⟨[], List.nodup_nil⟩ : PodMetricsInfo).keys := by
  decide

/-- A ready pod with a sample, a pending pod and a running pod without one, and a sample of a pod
the lister does not return. -/
def mixedPods : List Pod :=
  [⟨"ready", "default", podRunning, some 0, [⟨podReady, conditionTrue, 0⟩]⟩,
    ⟨"pending", "default", podPending, none, []⟩,
    ⟨"unsampled", "default", podRunning, some 0, [⟨podReady, conditionTrue, 0⟩]⟩]

/-- Samples of the ready pod and of a pod outside the list. -/
def mixedMetrics : PodMetricsInfo :=
  ⟨[("ready", ⟨100, by decide, by decide⟩), ("other", ⟨100, by decide, by decide⟩)], by decide⟩

/-- The ready pod is the only listed pod whose sample survives the removal. -/
theorem groupPods_partitions_mixed_pods :
    (mixedPods.map Pod.name).Nodup ∧
      ∀ name, name ∈ (removeMetricsForPods mixedMetrics
          (groupPods mixedPods mixedMetrics resourceCPU 0).2).keys ∧
          (∃ pod ∈ mixedPods, pod.name = name) ↔
        name ∈ (groupPods mixedPods mixedMetrics resourceCPU 0).1 :=
  ⟨by decide, (groupPods_partitions_pods mixedPods mixedMetrics resourceCPU 0 (by decide)).2.2.2.2⟩

/-- Whether `getReadyPodsCount` tolerates a pod as ready. -/
def toleratedAsReady (readinessDelay : ℤ) (pod : Pod) : Bool :=
  match getPodCondition pod.conditions podReady, pod.startTime with
  | some condition, some startTime =>
      pod.phase = podRunning ∧ condition.status = conditionTrue ∨
        pod.phase = podPending ∧ condition.lastTransitionTime - startTime < readinessDelay
  | _, _ => false

/-- The number of pods of the selector that count as ready; an error when the lister fails,
returns no pod, or returns none that counts as ready. -/
def ReplicaCalculator.getReadyPodsCount (calculator : ReplicaCalculator)
    (podNamespace selector : String) (readinessDelay : ℤ) : Except String Int32 :=
  match calculator.podLister podNamespace selector with
  | .error err => .error ("unable to get pods while calculating replica count: " ++ err)
  | .ok [] => .error "no pods returned by selector while calculating replica count"
  | .ok podList =>
      let toleratedAsReadyPodCount := (podList.filter (toleratedAsReady readinessDelay)).length
      if toleratedAsReadyPodCount = 0 then
        .error ("among the " ++ toString podList.length ++
          " pods, none is ready. Skipping recommendation")
      else .ok (Int32.wrap toleratedAsReadyPodCount)

/-- `adjustedHM`: `float64(H) + Tolerance·float64(H)`, the high watermark widened by the
tolerance. -/
def adjustedHighMark (wpa : WatermarkPodAutoscaler) (highMark : Int64) : Float64 :=
  (Float64.ofInt highMark.val).add
    ((Float64.round wpa.spec.tolerance).mul (Float64.ofInt highMark.val))

/-- `adjustedLM`: `float64(L) - Tolerance·float64(L)`, the low watermark narrowed by the
tolerance. -/
def adjustedLowMark (wpa : WatermarkPodAutoscaler) (lowMark : Int64) : Float64 :=
  (Float64.ofInt lowMark.val).sub
    ((Float64.round wpa.spec.tolerance).mul (Float64.ofInt lowMark.val))

/-- `getReplicaCount`: the proposal and the utilization, and the gauges it sets. The downscale
branch's `int32(math.Max(float64(replicaCount), 1))` is the larger of the int32 and one, since
an int32 converts to float64 exactly. -/
def getReplicaCount (platform : Platform) (currentReplicas : Int32) (wpa : WatermarkPodAutoscaler)
    (name : String) (adjustedUsage : Float64) (lowMark highMark : Int64) :
    (Int32 × Int64) × List GaugeOp :=
  let utilization := platform.toInt64 adjustedUsage
  let labelsWithReason := wpa.promLabels ++ [(reasonPromLabel, "within_bounds")]
  let labelsWithMetricName := wpa.promLabels ++ [(metricNamePromLabel, name)]
  let gauges (restricted : ℚ) :=
    [GaugeOp.set .restrictedScaling labelsWithReason (.finite restricted),
      GaugeOp.set .value labelsWithMetricName adjustedUsage]
  let scaled := (Float64.ofInt currentReplicas.val).mul adjustedUsage
  if Float64.lt (adjustedHighMark wpa highMark) adjustedUsage then
    ((platform.toInt32 (scaled.div (.ofInt highMark.val)).ceil, utilization), gauges 0)
  else if Float64.lt adjustedUsage (adjustedLowMark wpa lowMark) then
    ((max (platform.toInt32 (scaled.div (.ofInt lowMark.val)).floor) 1, utilization), gauges 0)
  else ((currentReplicas, utilization), gauges 1)

section

variable {wpa : WatermarkPodAutoscaler} {mark : Int64}
  (toleranceNonneg : 0 ≤ wpa.spec.tolerance) (toleranceLe : wpa.spec.tolerance ≤ 1)
  (markNonneg : 0 ≤ mark.val)
include toleranceNonneg toleranceLe markNonneg

/-- With the tolerance in `[0, 1]`, `Tolerance·float64(m)` for a watermark `m` not below zero is
finite, not below zero and not above `float64(m)`, which is at most `2^63`. -/
theorem tolerance_mul_mark :
    ∃ slack, (Float64.round wpa.spec.tolerance).mul (Float64.ofInt mark.val) = .finite slack ∧
      0 ≤ slack ∧ slack ≤ roundNearest (mark.val : ℚ) ∧ |roundNearest (mark.val : ℚ)| ≤ 2 ^ (63 : ℤ) := by
  obtain ⟨converted, bounded⟩ := Float64.ofInt_int64 mark
  have tolerance : |wpa.spec.tolerance| ≤ 2 ^ (0 : ℤ) := by
    rwa [abs_of_nonneg toleranceNonneg, zpow_zero]
  have toleranceNonneg' := roundNearest_nonneg toleranceNonneg
  have toleranceLe' : roundNearest wpa.spec.tolerance ≤ 1 :=
    roundNearest_one ▸ roundNearest_mono toleranceLe
  have markNonneg' : 0 ≤ roundNearest (mark.val : ℚ) := roundNearest_nonneg (by exact_mod_cast markNonneg)
  have productLe : roundNearest wpa.spec.tolerance * roundNearest (mark.val : ℚ) ≤
      roundNearest (mark.val : ℚ) :=
    mul_le_of_le_one_left markNonneg' toleranceLe'
  have productBound : |roundNearest wpa.spec.tolerance * roundNearest (mark.val : ℚ)| ≤
      2 ^ (63 : ℤ) := by
    rw [abs_of_nonneg (mul_nonneg toleranceNonneg' markNonneg')]
    exact productLe.trans (le_of_abs_le bounded)
  refine ⟨_, ?_, roundNearest_nonneg (mul_nonneg toleranceNonneg' markNonneg'), ?_, bounded⟩
  · rw [converted, Float64.round_of_abs_le_zpow tolerance (by norm_num), Float64.mul_finite,
      Float64.round_of_abs_le_zpow productBound (by norm_num)]
  · simpa [roundNearest_idem] using roundNearest_mono productLe

/-- With the tolerance in `[0, 1]`, a watermark not below zero widens to a finite float64 not
below the converted watermark. -/
theorem adjustedHighMark_finite :
    ∃ high, adjustedHighMark wpa mark = .finite high ∧ roundNearest (mark.val : ℚ) ≤ high := by
  obtain ⟨slack, product, slackNonneg, slackLe, bounded⟩ :=
    tolerance_mul_mark toleranceNonneg toleranceLe markNonneg
  have sum : |roundNearest (mark.val : ℚ) + slack| ≤ 2 ^ (64 : ℤ) := by
    rw [abs_of_nonneg (by linarith)]
    linarith [le_of_abs_le bounded, (by norm_num : (2 : ℚ) ^ (64 : ℤ) = 2 * 2 ^ (63 : ℤ))]
  refine ⟨roundNearest (roundNearest (mark.val : ℚ) + slack), ?_, ?_⟩
  · rw [adjustedHighMark, product, (Float64.ofInt_int64 mark).1, Float64.add_finite,
      Float64.round_of_abs_le_zpow sum (by norm_num)]
  · exact (roundNearest_idem _).symm.trans_le
      (roundNearest_mono (le_add_of_nonneg_right slackNonneg))

/-- With the tolerance in `[0, 1]`, a watermark not below zero narrows to a finite float64 between
zero and the converted watermark: the slack rounds to at most the converted watermark. -/
theorem adjustedLowMark_finite :
    ∃ low, adjustedLowMark wpa mark = .finite low ∧ 0 ≤ low ∧
      low ≤ roundNearest (mark.val : ℚ) := by
  obtain ⟨slack, product, slackNonneg, slackLe, bounded⟩ :=
    tolerance_mul_mark toleranceNonneg toleranceLe markNonneg
  have difference : |roundNearest (mark.val : ℚ) - slack| ≤ 2 ^ (63 : ℤ) := by
    rw [abs_of_nonneg (by linarith)]
    linarith [le_of_abs_le bounded]
  refine ⟨roundNearest (roundNearest (mark.val : ℚ) - slack), ?_, roundNearest_nonneg (by linarith),
    ?_⟩
  · rw [adjustedLowMark, product, (Float64.ofInt_int64 mark).1, Float64.sub_finite,
      Float64.round_of_abs_le_zpow difference (by norm_num)]
  · exact (roundNearest_mono (sub_le_self _ slackNonneg)).trans_eq (roundNearest_idem _)

end

/-- A watermark of at least one converts to a float64 of at least one. -/
theorem one_le_roundNearest_mark {mark : Int64} (markPos : 0 < mark.val) :
    1 ≤ roundNearest (mark.val : ℚ) :=
  roundNearest_one ▸ roundNearest_mono (by exact_mod_cast markPos)

/-- On `amd64`, a usage below zero, finite or `-Inf`, proposes one replica from every count not
below zero, for a tolerance in `[0, 1]`, a high watermark not below zero and a positive low
watermark: the usage is below the band, the scaled quotient is not positive, or NaN for `-Inf`
over no replicas, and `math.Max` lifts every such conversion to one. -/
theorem getReplicaCount_amd64_of_neg {currentReplicas : Int32} {wpa : WatermarkPodAutoscaler}
    {name : String} {adjustedUsage : Float64} {lowMark highMark : Int64}
    (negative : adjustedUsage = .inf true ∨ ∃ usage, adjustedUsage = .finite usage ∧ usage < 0 ∧
      |usage| ≤ 2 ^ (63 : ℤ))
    (currentNonneg : 0 ≤ currentReplicas.val) (lowPos : 0 < lowMark.val)
    (highNonneg : 0 ≤ highMark.val) (toleranceNonneg : 0 ≤ wpa.spec.tolerance)
    (toleranceLe : wpa.spec.tolerance ≤ 1) :
    (getReplicaCount .amd64 currentReplicas wpa name adjustedUsage lowMark highMark).1.1 = 1 := by
  obtain ⟨high, highEq, highLe⟩ := adjustedHighMark_finite toleranceNonneg toleranceLe highNonneg
  obtain ⟨low, lowEq, lowNonneg, -⟩ := adjustedLowMark_finite toleranceNonneg toleranceLe lowPos.le
  have highNonneg' := (roundNearest_nonneg (by exact_mod_cast highNonneg)).trans highLe
  obtain ⟨lowConverted, -⟩ := Float64.ofInt_int64 lowMark
  have markPos := zero_lt_one.trans_le (one_le_roundNearest_mark lowPos)
  -- Below the band, the quotient is not positive, and `math.Max` lifts its conversion to one.
  suffices quotient : ∀ value,
      ((Float64.ofInt currentReplicas.val).mul adjustedUsage).div (.ofInt lowMark.val) =
        .finite value → value ≤ 0 by
    have below : Float64.lt adjustedUsage (.finite low) = true ∧
        Float64.lt (.finite high) adjustedUsage = false := by
      rcases negative with rfl | ⟨usage, rfl, negative, -⟩
      · exact ⟨rfl, rfl⟩
      · simp only [Float64.lt_finite, decide_eq_true_eq, decide_eq_false_iff_not, not_lt]
        exact ⟨negative.trans_le lowNonneg, negative.le.trans highNonneg'⟩
    have lifted := Platform.amd64_toInt32_floor_nonpos quotient
    simp only [getReplicaCount, highEq, lowEq, below, Bool.false_eq_true, ↓reduceIte,
      Int32.eq_iff_val, Int32.val_max, Int32.val_one]
    omega
  intro value divided
  rw [Float64.ofInt_int32, lowConverted] at divided
  obtain ⟨usage, rfl, rfl⟩ := Float64.eq_of_scaled_div markPos.ne' divided
  have negative : usage < 0 := by
    rcases negative with absurd | ⟨usage', equal, negative, -⟩
    · cases absurd
    · rwa [Float64.finite.inj equal]
  exact roundNearest_nonpos (div_nonpos_of_nonpos_of_nonneg (roundNearest_nonpos
    (mul_nonpos_of_nonneg_of_nonpos (by exact_mod_cast currentNonneg) negative.le)) markPos.le)

/-- As Go compares them, the usage is neither above `adjustedHM` nor below `adjustedLM`:
`getReplicaCount` keeps the count. -/
def InBand (wpa : WatermarkPodAutoscaler) (adjustedUsage : Float64) (lowMark highMark : Int64) :
    Prop :=
  Float64.lt (adjustedHighMark wpa highMark) adjustedUsage = false ∧
    Float64.lt adjustedUsage (adjustedLowMark wpa lowMark) = false

instance (wpa : WatermarkPodAutoscaler) (adjustedUsage : Float64) (lowMark highMark : Int64) :
    Decidable (InBand wpa adjustedUsage lowMark highMark) :=
  inferInstanceAs (Decidable (_ ∧ _))

/-- The usage is above `adjustedHM`, and `math.Ceil` of the upscale quotient converts within the
int32 range. -/
def AboveBand (currentReplicas : Int32) (wpa : WatermarkPodAutoscaler) (adjustedUsage : Float64)
    (highMark : Int64) : Prop :=
  Float64.lt (adjustedHighMark wpa highMark) adjustedUsage = true ∧
    (((Float64.ofInt currentReplicas.val).mul adjustedUsage).div (.ofInt highMark.val)).ceil.InInt32

instance (currentReplicas : Int32) (wpa : WatermarkPodAutoscaler) (adjustedUsage : Float64)
    (highMark : Int64) : Decidable (AboveBand currentReplicas wpa adjustedUsage highMark) :=
  inferInstanceAs (Decidable (_ ∧ _))

/-- The usage is below `adjustedLM`, and `math.Floor` of the downscale quotient converts within
the int32 range. -/
def BelowBand (currentReplicas : Int32) (wpa : WatermarkPodAutoscaler) (adjustedUsage : Float64)
    (lowMark : Int64) : Prop :=
  Float64.lt adjustedUsage (adjustedLowMark wpa lowMark) = true ∧
    (((Float64.ofInt currentReplicas.val).mul adjustedUsage).div (.ofInt lowMark.val)).floor.InInt32

instance (currentReplicas : Int32) (wpa : WatermarkPodAutoscaler) (adjustedUsage : Float64)
    (lowMark : Int64) : Decidable (BelowBand currentReplicas wpa adjustedUsage lowMark) :=
  inferInstanceAs (Decidable (_ ∧ _))

section Verdicts

variable {platform : Platform} {currentReplicas : Int32} {wpa : WatermarkPodAutoscaler}
  {name : String} {adjustedUsage : Float64} {lowMark highMark : Int64}

theorem getReplicaCount_of_inBand (band : InBand wpa adjustedUsage lowMark highMark) :
    (getReplicaCount platform currentReplicas wpa name adjustedUsage lowMark highMark).1.1 =
      currentReplicas := by
  simp [getReplicaCount, band.1, band.2]

variable (toleranceNonneg : 0 ≤ wpa.spec.tolerance) (toleranceLe : wpa.spec.tolerance ≤ 1)
  (currentPos : 0 < currentReplicas.val)
include toleranceNonneg toleranceLe currentPos

/-- Above the band, the proposal is not below a positive count: each of the two roundings of
`N·u/H` loses at most `2^-53` of it, which cannot bring `N·u/H ≥ N` down to `N - 1`. -/
theorem le_getReplicaCount_of_aboveBand (highPos : 0 < highMark.val)
    (above : AboveBand currentReplicas wpa adjustedUsage highMark) :
    currentReplicas ≤
      (getReplicaCount platform currentReplicas wpa name adjustedUsage lowMark highMark).1.1 := by
  obtain ⟨high, highEq, highLe⟩ := adjustedHighMark_finite toleranceNonneg toleranceLe highPos.le
  obtain ⟨quotient, quotientEq, converted⟩ := platform.toInt32_ceil above.2
  have markOne := one_le_roundNearest_mark highPos
  rw [Float64.ofInt_int32, (Float64.ofInt_int64 highMark).1] at quotientEq
  obtain ⟨usage, rfl, rfl⟩ := Float64.eq_of_scaled_div (by linarith) quotientEq
  have usageGt : high < usage := by simpa [highEq] using above.1
  simp only [getReplicaCount, above.1, ↓reduceIte, Int32.le_iff_val]
  rw [converted, Int.le_ceil_iff]
  have countOne : (1 : ℚ) ≤ currentReplicas.val := by exact_mod_cast currentPos
  have countLt : (currentReplicas.val : ℚ) < 2 ^ 31 := by exact_mod_cast currentReplicas.lt_max
  set n : ℚ := ((currentReplicas.val : ℤ) : ℚ)
  set mark := roundNearest (highMark.val : ℚ)
  have product := (roundNearest_bounds (by nlinarith : 1 / 2 ≤ n * mark)).1.trans
    (roundNearest_mono (mul_le_mul_of_nonneg_left (highLe.trans usageGt.le) (by linarith)))
  have ratio : n - n / 2 ^ 53 ≤ roundNearest (n * usage) / mark := by
    rw [le_div_iff₀ (by linarith)]
    linarith [(by ring : (n - n / 2 ^ 53) * mark = n * mark - n * mark / 2 ^ 53)]
  have divided := (roundNearest_bounds (by linarith : 1 / 2 ≤ n - n / 2 ^ 53)).1.trans
    (roundNearest_mono ratio)
  linarith

/-- Below the band, the proposal is not above a positive count, with `0 < L ≤ H`: each of the two
roundings of `N·u/L` adds at most `2^-53` of it, which cannot lift `N·u/L < N` to `N + 1`. -/
theorem getReplicaCount_le_of_belowBand (lowPos : 0 < lowMark.val)
    (ordered : lowMark.val ≤ highMark.val)
    (below : BelowBand currentReplicas wpa adjustedUsage lowMark) :
    (getReplicaCount platform currentReplicas wpa name adjustedUsage lowMark highMark).1.1 ≤
      currentReplicas := by
  obtain ⟨high, highEq, highLe⟩ :=
    adjustedHighMark_finite toleranceNonneg toleranceLe (lowPos.le.trans ordered)
  obtain ⟨low, lowEq, -, lowLe⟩ := adjustedLowMark_finite toleranceNonneg toleranceLe lowPos.le
  obtain ⟨quotient, quotientEq, converted⟩ := platform.toInt32_floor below.2
  have markOne := one_le_roundNearest_mark lowPos
  rw [Float64.ofInt_int32, (Float64.ofInt_int64 lowMark).1] at quotientEq
  obtain ⟨usage, rfl, rfl⟩ := Float64.eq_of_scaled_div (by linarith) quotientEq
  have usageLt : usage < low := by simpa [lowEq] using below.1
  have notAbove : Float64.lt (adjustedHighMark wpa highMark) (.finite usage) = false := by
    rw [highEq, Float64.lt_finite, decide_eq_false_iff_not, not_lt]
    exact usageLt.le.trans (lowLe.trans ((roundNearest_mono (by exact_mod_cast ordered)).trans highLe))
  simp only [getReplicaCount, notAbove, below.1, Bool.false_eq_true, ↓reduceIte, Int32.le_iff_val,
    Int32.val_max, Int32.val_one]
  rw [converted, max_le_iff, ← Int.lt_add_one_iff, Int.floor_lt]
  refine ⟨?_, currentPos⟩
  have countOne : (1 : ℚ) ≤ currentReplicas.val := by exact_mod_cast currentPos
  have countLt : (currentReplicas.val : ℚ) < 2 ^ 31 := by exact_mod_cast currentReplicas.lt_max
  set n : ℚ := ((currentReplicas.val : ℤ) : ℚ)
  set mark := roundNearest (lowMark.val : ℚ)
  have product := (roundNearest_mono (mul_le_mul_of_nonneg_left (usageLt.le.trans lowLe)
    (by linarith))).trans (roundNearest_bounds (by nlinarith : 1 / 2 ≤ n * mark)).2
  have ratio : roundNearest (n * usage) / mark ≤ n + n / 2 ^ 53 := by
    rw [div_le_iff₀ (by linarith)]
    linarith [(by ring : (n + n / 2 ^ 53) * mark = n * mark + n * mark / 2 ^ 53)]
  have divided := (roundNearest_mono ratio).trans
    (roundNearest_bounds (by linarith : 1 / 2 ≤ n + n / 2 ^ 53)).2
  push_cast
  linarith

end Verdicts

/-- The gauges the metric-fetch error paths delete: `restrictedScaling` for each reason, and the
`value` series of the metric under the WPA name. -/
def fetchErrorDeletes (wpa : WatermarkPodAutoscaler) (metricName : String) : List GaugeOp :=
  [.delete .restrictedScaling (wpa.promLabels ++ [(reasonPromLabel, upscaleCappingPromLabel)]),
    .delete .restrictedScaling (wpa.promLabels ++ [(reasonPromLabel, downscaleCappingPromLabel)]),
    .delete .restrictedScaling (wpa.promLabels ++ [(reasonPromLabel, "within_bounds")]),
    .delete .value [(wpaNamePromLabel, wpa.name), (metricNamePromLabel, metricName)]]

/-- `averaged`: the ready count as a float64 under the `average` algorithm, `1.0` otherwise. -/
def averaged (wpa : WatermarkPodAutoscaler) (readyCount : ℤ) : Float64 :=
  if wpa.spec.algorithm = "average" then Float64.ofInt readyCount else .finite 1

/-- The example object with no tolerance. -/
def strictWpa : WatermarkPodAutoscaler :=
  { exampleWpa with spec := { exampleWpa.spec with tolerance := 0 } }

/-- A downscale reversed at an unchanged load. Under `average` with every pod ready, seventeen
replicas carry `U = 4836616165038103` milli-units between `L = 604577020629763` and `H = 2·L`,
with no tolerance. The exact quotient `U/L` is `8 - 1/L`, whose floor is seven, but float64
rounds `17·(U/17)/L` to `8`: the proposal is eight. At eight replicas the same load gives the
usage `U/8`, still below `L`, and the proposal is seven. -/
theorem getReplicaCount_average_reverses_at_unchanged_load :
    strictWpa.spec.algorithm = "average" ∧ 0 ≤ strictWpa.spec.tolerance ∧
      strictWpa.spec.tolerance ≤ 1 ∧
      2 * 604577020629763 * (1 - strictWpa.spec.tolerance) ≤ 1209154041259526 ∧
      2 * 604577020629763 ≤ 1209154041259526 * (1 + strictWpa.spec.tolerance) ∧
      ⌊(4836616165038103 : ℚ) / 604577020629763⌋ = 7 ∧
      (getReplicaCount .amd64 ⟨17, by decide, by decide⟩ strictWpa "cpu"
          ((Float64.ofInt 4836616165038103).div (averaged strictWpa 17))
          ⟨604577020629763, by decide, by decide⟩ ⟨1209154041259526, by decide, by decide⟩).1.1 =
        ⟨8, by decide, by decide⟩ ∧
      (getReplicaCount .amd64 ⟨8, by decide, by decide⟩ strictWpa "cpu"
          ((Float64.ofInt 4836616165038103).div (averaged strictWpa 8))
          ⟨604577020629763, by decide, by decide⟩ ⟨1209154041259526, by decide, by decide⟩).1.1 =
        ⟨7, by decide, by decide⟩ := by
  refine ⟨rfl, le_rfl, zero_le_one, by norm_num [strictWpa], by norm_num [strictWpa], ?_, by decide,
    by decide⟩
  rw [Int.floor_eq_iff]
  norm_num

/-- `getReplicaCount` applied to a source's watermarks; a nil watermark is dereferenced. -/
def proposeFor (platform : Platform) (currentReplicas : Int32) (wpa : WatermarkPodAutoscaler)
    (name : String) (adjustedUsage : Float64) (lowMark highMark : Option Int64)
    (timestamp : ℤ) : Outcome (Except String ReplicaCalculation) × List GaugeOp :=
  match lowMark, highMark with
  | some lowMark, some highMark =>
      let calculated :=
        getReplicaCount platform currentReplicas wpa name adjustedUsage lowMark highMark
      (.returned (.ok ⟨calculated.1.1, calculated.1.2, timestamp⟩), calculated.2)
  | _, _ => (.panicked, [])

/-- What a calculator reads for a spec before it calls `getReplicaCount`, or how it ends before
that. -/
inductive Reading where
  /-- The metric name and watermarks of the source, the adjusted usage, the count the proposal
  scales from, and the metric timestamp. -/
  | measured (name : String) (lowMark highMark : Option Int64) (adjustedUsage : Float64)
      (base : Int32) (timestamp : ℤ)
  /-- An error before `getReplicaCount`, with the gauges updated on the way. -/
  | failed (err : String) (gauges : List GaugeOp)
  /-- A panic before `getReplicaCount`. -/
  | panicked
  deriving DecidableEq

/-- The calculation that ends a reading: `getReplicaCount` on a measurement. -/
def Reading.propose (platform : Platform) (wpa : WatermarkPodAutoscaler) :
    Reading → Outcome (Except String ReplicaCalculation) × List GaugeOp
  | .measured name lowMark highMark adjustedUsage base timestamp =>
      proposeFor platform base wpa name adjustedUsage lowMark highMark timestamp
  | .failed err gauges => (.returned (.error err), gauges)
  | .panicked => (.panicked, [])

/-- A calculation that succeeds is `getReplicaCount` on a measurement with both watermarks,
stamped with the measurement's timestamp. -/
theorem Reading.propose_ok {platform : Platform} {wpa : WatermarkPodAutoscaler} {reading : Reading}
    {calculation : ReplicaCalculation}
    (succeeded : (reading.propose platform wpa).1 = .returned (.ok calculation)) :
    ∃ name lowMark highMark adjustedUsage base timestamp,
      reading = .measured name (some lowMark) (some highMark) adjustedUsage base timestamp ∧
        calculation.replicaCount =
          (getReplicaCount platform base wpa name adjustedUsage lowMark highMark).1.1 ∧
        calculation.timestamp = timestamp := by
  rcases reading with ⟨name, _ | lowMark, _ | highMark, adjustedUsage, base, timestamp⟩ | _ | _ <;>
    simp only [Reading.propose, proposeFor, reduceCtorEq, Outcome.returned.injEq,
      Except.ok.injEq] at succeeded
  exact ⟨_, _, _, _, _, _, rfl, by rw [← succeeded], by rw [← succeeded]⟩

/-- `GetExternalMetricReplicas` up to `getReplicaCount`. -/
def ReplicaCalculator.externalReading (calculator : ReplicaCalculator) (target : Scale)
    (metric : MetricSpec) (wpa : WatermarkPodAutoscaler) : Reading :=
  if (calculator.parseLabels target.statusSelector).isSome then .panicked else
  match calculator.getReadyPodsCount "" target.statusSelector (readinessDelay wpa) with
  | .error err =>
      .failed ("unable to get the number of ready pods across all namespaces for " ++
        target.statusSelector ++ ": " ++ err) []
  | .ok currentReadyReplicas =>
      match metric.external with
      | none => .panicked
      | some external =>
          match calculator.labelSelectorAsSelector external.metricSelector with
          | some err => .failed err []
          | none =>
              match calculator.metricsClient.getExternalMetric external.metricName wpa.metaNamespace
                  external.metricSelector with
              | .error err =>
                  .failed ("unable to get external metric " ++ wpa.metaNamespace ++
                    "/" ++ external.metricName ++ "/" ++
                    renderLabelSelector external.metricSelector ++ ": " ++ err)
                    (fetchErrorDeletes wpa external.metricName)
              | .ok (metrics, timestamp) =>
                  .measured external.metricName external.lowWatermark external.highWatermark
                    ((Float64.ofInt (Int64.sum metrics).val).div
                      (averaged wpa currentReadyReplicas.val))
                    currentReadyReplicas timestamp

/-- The external-metric calculator: the reading, then `getReplicaCount` from the count of ready
pods across all namespaces. -/
def ReplicaCalculator.getExternalMetricReplicas (calculator : ReplicaCalculator) (platform : Platform)
    (target : Scale) (metric : MetricSpec) (wpa : WatermarkPodAutoscaler) :
    Outcome (Except String ReplicaCalculation) × List GaugeOp :=
  (calculator.externalReading target metric wpa).propose platform wpa

/-- An external metric whose samples add up past the int64 range wraps its sum below zero, and
on `amd64` it then proposes one replica, from every ready count not below zero, for a positive
low watermark, a high watermark not below zero and a tolerance in `[0, 1)`: a metric beyond the
range asks for the strongest scale-down. -/
theorem ReplicaCalculator.getExternalMetricReplicas_of_wrapped_sum
    {calculator : ReplicaCalculator} {target : Scale} {metric : MetricSpec}
    {wpa : WatermarkPodAutoscaler} {external : ExternalMetricSource} {readyCount : Int32}
    {metrics : List Int64} {timestamp : ℤ} {lowMark highMark : Int64}
    (parsed : calculator.parseLabels target.statusSelector = none)
    (ready : calculator.getReadyPodsCount "" target.statusSelector (readinessDelay wpa) =
      .ok readyCount)
    (readyNonneg : 0 ≤ readyCount.val) (source : metric.external = some external)
    (selected : calculator.labelSelectorAsSelector external.metricSelector = none)
    (fetched : calculator.metricsClient.getExternalMetric external.metricName wpa.metaNamespace
      external.metricSelector = .ok (metrics, timestamp))
    (wraps : 2 ^ 63 ≤ (metrics.map Int64.val).sum ∧ (metrics.map Int64.val).sum < 2 ^ 64)
    (low : external.lowWatermark = some lowMark) (high : external.highWatermark = some highMark)
    (lowPos : 0 < lowMark.val) (highNonneg : 0 ≤ highMark.val)
    (toleranceNonneg : 0 ≤ wpa.spec.tolerance) (toleranceLt : wpa.spec.tolerance < 1) :
    ∃ utilization, (calculator.getExternalMetricReplicas .amd64 target metric wpa).1 =
      .returned (.ok ⟨1, utilization, timestamp⟩) := by
  have negative : (Int64.sum metrics).val < 0 := by
    rw [Int64.sum_eq_wrap, Int64.val_wrap, Int.bmod_def]
    split <;> omega
  simp only [getExternalMetricReplicas, externalReading, parsed, ready, source, selected, fetched,
    low, high, Option.isSome_none, Bool.false_eq_true, ↓reduceIte, Reading.propose, proposeFor,
    Outcome.returned.injEq, Except.ok.injEq, ReplicaCalculation.mk.injEq, and_true]
  refine ⟨_, ?_, rfl⟩
  obtain ⟨converted, bounded⟩ := Float64.ofInt_int64 (Int64.sum metrics)
  have sumNeg : roundNearest ((Int64.sum metrics).val : ℚ) ≤ -1 := by
    have := roundNearest_mono (by exact_mod_cast (by omega : (Int64.sum metrics).val ≤ -1) :
      ((Int64.sum metrics).val : ℚ) ≤ -1)
    rwa [roundNearest_neg, roundNearest_one] at this
  -- Divided by a count in `[1, 2^31)`, the sum stays finite, negative and at most `2^63`.
  have divided : ∀ count : ℤ, 1 ≤ count → count < 2 ^ 31 →
      ∃ usage, (Float64.finite (roundNearest ((Int64.sum metrics).val : ℚ))).div
        (.finite count) = .finite usage ∧ usage < 0 ∧ |usage| ≤ 2 ^ (63 : ℤ) := by
    intro count countPos countLt
    have countCast : (1 : ℚ) ≤ count := by exact_mod_cast countPos
    have quotient : |roundNearest ((Int64.sum metrics).val : ℚ) / count| ≤ 2 ^ (63 : ℤ) := by
      rw [abs_div, abs_of_pos (show (0 : ℚ) < count by linarith)]
      exact (div_le_self (abs_nonneg _) countCast).trans bounded
    have below : roundNearest ((Int64.sum metrics).val : ℚ) / count ≤ -2 ^ (-31 : ℤ) := by
      rw [div_le_iff₀ (by linarith)]
      have : (count : ℚ) ≤ 2 ^ 31 := by exact_mod_cast countLt.le
      have : (2 : ℚ) ^ (-31 : ℤ) * 2 ^ 31 = 1 := by norm_num
      nlinarith [zpow_pos (two_pos : (0 : ℚ) < 2) (-31)]
    have negative := (roundNearest_mono below).trans_eq (by
      rw [roundNearest_neg, roundNearest_zpow (by norm_num)])
    refine ⟨_, by rw [Float64.div_finite_of_ne _ (by positivity),
      Float64.round_of_abs_le_zpow quotient (by norm_num)], ?_,
      abs_roundNearest_le (by norm_num) quotient⟩
    linarith [zpow_pos (two_pos : (0 : ℚ) < 2) (-31)]
  refine getReplicaCount_amd64_of_neg ?_ readyNonneg lowPos highNonneg toleranceNonneg
    toleranceLt.le
  rw [converted, averaged]
  split_ifs
  · rw [Float64.ofInt_int32]
    rcases readyNonneg.eq_or_lt with zero | positive
    · -- `average` over no ready pods divides by zero.
      left
      rw [← zero]
      simp [Float64.div, (by linarith : roundNearest ((Int64.sum metrics).val : ℚ) < 0),
        (by linarith : roundNearest ((Int64.sum metrics).val : ℚ) ≠ 0)]
    · exact .inr (divided _ positive readyCount.lt_max)
  · exact .inr (by simpa using divided 1 le_rfl (by norm_num))

/-- An external metric with both watermarks set: a queue length kept between `500` and `1000`. -/
def queueLengthMetric : MetricSpec :=
  ⟨externalMetricSourceType,
    some ⟨"queue_length", none, some ⟨1000, by decide, by decide⟩, some ⟨500, by decide, by decide⟩⟩,
    none⟩

/-- A calculator with one ready pod, whose external metrics server reports two samples of `2^62`
at time `5`. -/
def overflowingCalculator : ReplicaCalculator where
  metricsClient :=
    ⟨fun _ _ _ => .error "no resource metrics",
      fun _ _ _ => .ok ([⟨2 ^ 62, by decide, by decide⟩, ⟨2 ^ 62, by decide, by decide⟩], 5)⟩
  podLister _ _ := .ok [⟨"pod-0", "default", podRunning, some 0, [⟨podReady, conditionTrue, 0⟩]⟩]
  parseLabels _ := none
  labelSelectorAsSelector _ := none

/-- Two samples of `2^62` add up to `2^63`, which wraps to the most negative int64: one replica. -/
theorem ReplicaCalculator.getExternalMetricReplicas_of_wrapped_sum_queue :
    ∃ utilization, (overflowingCalculator.getExternalMetricReplicas .amd64 exampleScale
      queueLengthMetric exampleWpa).1 = .returned (.ok ⟨1, utilization, 5⟩) :=
  getExternalMetricReplicas_of_wrapped_sum rfl rfl (by decide) rfl rfl rfl (by decide) rfl rfl
    (by decide) (by decide)
    (by norm_num [exampleWpa]) (by norm_num [exampleWpa])

/-- The part of `GetResourceReplicas` between the metric fetch and `getReplicaCount`: the
adjusted usage it passes on, or the error it returns. -/
def ReplicaCalculator.resourceUsage (calculator : ReplicaCalculator) (target : Scale)
    (resource : ResourceMetricSource) (wpa : WatermarkPodAutoscaler) (metrics : PodMetricsInfo) :
    Except String Float64 :=
  match calculator.parseLabels target.statusSelector with
  | some err => .error ("could not parse the labels of the target: " ++ err)
  | none =>
      match calculator.podLister wpa.metaNamespace target.statusSelector with
      | .error err => .error ("unable to get pods while calculating replica count: " ++ err)
      | .ok [] => .error "no pods returned by selector while calculating replica count"
      | .ok podList =>
          let (readyPods, ignoredPods) :=
            groupPods podList metrics resource.name (readinessDelay wpa)
          let remaining := removeMetricsForPods metrics ignoredPods
          if remaining.entries = [] then .error "did not receive metrics for any ready pods"
          else .ok ((Float64.ofInt (Int64.sum (remaining.entries.map Prod.snd)).val).div
            (averaged wpa readyPods.card))

/-- `GetResourceReplicas` up to `getReplicaCount`, which scales from the status replicas. -/
def ReplicaCalculator.resourceReading (calculator : ReplicaCalculator) (target : Scale)
    (metric : MetricSpec) (wpa : WatermarkPodAutoscaler) : Reading :=
  match metric.resource with
  | none => .panicked
  | some resource =>
      match calculator.labelSelectorAsSelector resource.metricSelector with
      | some err => .failed err []
      | none =>
          match calculator.metricsClient.getResourceMetric resource.name wpa.metaNamespace
              resource.metricSelector with
          | .error err =>
              .failed ("unable to get resource metric " ++ wpa.metaNamespace ++
                "/" ++ resource.name ++ "/" ++ renderLabelSelector resource.metricSelector ++ ": " ++
                err) (fetchErrorDeletes wpa resource.name)
          | .ok (metrics, timestamp) =>
              match calculator.resourceUsage target resource wpa metrics with
              | .error err => .failed err []
              | .ok adjustedUsage =>
                  .measured resource.name resource.lowWatermark resource.highWatermark adjustedUsage
                    target.statusReplicas timestamp

/-- The resource-metric calculator: the reading, then `getReplicaCount` from the target's status
replicas. -/
def ReplicaCalculator.getResourceReplicas (calculator : ReplicaCalculator) (platform : Platform)
    (target : Scale) (metric : MetricSpec) (wpa : WatermarkPodAutoscaler) :
    Outcome (Except String ReplicaCalculation) × List GaugeOp :=
  (calculator.resourceReading target metric wpa).propose platform wpa

/-- A target with one pending pod, and a metrics server that reports a sample for another pod
only: no pod is ready, the sample survives the removal of the ignored pod's, and the average
divides by the empty ready set. On `amd64` the infinite usage becomes the most negative int32
and int64, and the calculation succeeds with them. -/
theorem getResourceReplicas_of_no_ready_pod :
    let pending : Pod := ⟨"pending", "default", podPending, none, []⟩
    let sample : PodMetricsInfo := ⟨[("other", ⟨100, by decide, by decide⟩)], by decide⟩
    let resource : ResourceMetricSource := ⟨resourceCPU, some ⟨[]⟩,
      some ⟨8000, by decide, by decide⟩, some ⟨5000, by decide, by decide⟩⟩
    let calculator : ReplicaCalculator :=
      ⟨⟨fun _ _ _ => .ok (sample, 5), fun _ _ _ => .ok ([], 5)⟩, fun _ _ => .ok [pending],
        fun _ => none, fun _ => none⟩
    (groupPods [pending] sample resourceCPU (readinessDelay exampleWpa)).1 = ∅ ∧
      calculator.resourceUsage exampleScale resource exampleWpa sample = .ok (.inf false) ∧
      (calculator.getResourceReplicas .amd64 exampleScale
          ⟨resourceMetricSourceType, none, some resource⟩ exampleWpa).1 =
        .returned (.ok ⟨⟨-2147483648, by decide, by decide⟩,
          ⟨-9223372036854775808, by decide, by decide⟩, 5⟩) := by
  decide

/-- `ReplicaCalculatorItf`: what each method returns, or that it panics, and the gauges it sets. -/
structure ReplicaCalculatorItf where
  getExternalMetricReplicas : Scale → MetricSpec → WatermarkPodAutoscaler →
    Outcome (Except String ReplicaCalculation) × List GaugeOp
  getResourceReplicas : Scale → MetricSpec → WatermarkPodAutoscaler →
    Outcome (Except String ReplicaCalculation) × List GaugeOp

/-- The `ReplicaCalculator` behind the interface. -/
def ReplicaCalculator.toItf (calculator : ReplicaCalculator) (platform : Platform) :
    ReplicaCalculatorItf :=
  ⟨calculator.getExternalMetricReplicas platform, calculator.getResourceReplicas platform⟩

/-- A calculator that reads neither the object's status nor its dry-run flag. -/
def ReplicaCalculatorItf.Oblivious (replicaCalc : ReplicaCalculatorItf) : Prop :=
  ∀ (wpa : WatermarkPodAutoscaler) (status : WatermarkPodAutoscalerStatus) (dryRun : Bool)
    (scale : Scale) (metricSpec : MetricSpec),
    replicaCalc.getExternalMetricReplicas scale metricSpec
        { wpa with spec := { wpa.spec with dryRun := dryRun }, status := status } =
      replicaCalc.getExternalMetricReplicas scale metricSpec wpa ∧
    replicaCalc.getResourceReplicas scale metricSpec
        { wpa with spec := { wpa.spec with dryRun := dryRun }, status := status } =
      replicaCalc.getResourceReplicas scale metricSpec wpa

/-- The controller's calculator is oblivious: it reads the object's name, namespace and the
spec fields other than `DryRun`. -/
theorem ReplicaCalculator.toItf_oblivious (calculator : ReplicaCalculator) (platform : Platform) :
    (calculator.toItf platform).Oblivious :=
  fun _ _ _ _ _ => ⟨rfl, rfl⟩

end Wpa
