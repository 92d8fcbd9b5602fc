import WatermarkPodAutoscaler.Decision
import WatermarkPodAutoscaler.Aggregation
import WatermarkPodAutoscaler.Bounds
import WatermarkPodAutoscaler.Lockstep

/-!
# The direction of a metric-driven decision

Each spec that `computeReplicasForMetrics` evaluates proposes `getReplicaCount` on what the
calculator reads for it: an adjusted usage, the two watermarks, and the count it scales from.
That count is the target's status replicas for a `Resource` spec, but the number of ready pods
that `getReadyPodsCount` finds across all namespaces for an `External` one. When every reading
scales from the current count `N`, Go's float64 verdicts of `getReplicaCount` (`InBand`,
`AboveBand`, `BelowBand`) bound each proposal against `N`, the running maximum carries the bound
to the loop's result (`computeReplicasForMetrics_le`, `le_computeReplicasForMetrics`), and the
normalizer keeps the direction (`convertDesiredReplicasWithRules_keeps_direction`). The upscale
verdict needs `math.Ceil(N·u/H)` to convert within the int32 range; on `amd64` a usage far above
the band breaks it and the reconciliation lowers the target. A rescale whose count equals `N`
passes the gate only on an object with no `LastScaleTime`.
-/

namespace Wpa

/-- What the controller's calculator reads for a spec that the loop hands to it: the external
reading for an `External` spec, the resource reading for a `Resource` one, and nothing for a spec
the loop skips or one of another type. -/
def ReplicaCalculator.readingFor (calculator : ReplicaCalculator) (scale : Scale)
    (wpa : WatermarkPodAutoscaler) (metricSpec : MetricSpec) : Option Reading :=
  if metricSpec.external.isNone ∧ metricSpec.resource.isNone then none
  else if metricSpec.type = externalMetricSourceType then
    some (calculator.externalReading scale metricSpec wpa)
  else if metricSpec.type = resourceMetricSourceType then
    some (calculator.resourceReading scale metricSpec wpa)
  else none

/-- Every reading with both watermarks that the calculator takes for a spec of the object
satisfies `holds` on its low and high watermarks, adjusted usage and base count. -/
def ReplicaCalculator.EveryMeasured (calculator : ReplicaCalculator) (scale : Scale)
    (wpa : WatermarkPodAutoscaler) (holds : Int64 → Int64 → Float64 → Int32 → Prop) : Prop :=
  ∀ metricSpec ∈ wpa.spec.metrics, ∀ name lowMark highMark adjustedUsage base timestamp,
    calculator.readingFor scale wpa metricSpec =
      some (.measured name (some lowMark) (some highMark) adjustedUsage base timestamp) →
    holds lowMark highMark adjustedUsage base

/-- Some reading with both watermarks that the calculator takes for a spec of the object
satisfies `holds`. -/
def ReplicaCalculator.SomeMeasured (calculator : ReplicaCalculator) (scale : Scale)
    (wpa : WatermarkPodAutoscaler) (holds : Int64 → Int64 → Float64 → Int32 → Prop) : Prop :=
  ∃ metricSpec ∈ wpa.spec.metrics, ∃ name lowMark highMark adjustedUsage base timestamp,
    calculator.readingFor scale wpa metricSpec =
      some (.measured name (some lowMark) (some highMark) adjustedUsage base timestamp) ∧
    holds lowMark highMark adjustedUsage base

theorem evaluateSource_ok {now : ℤ} {wpa : WatermarkPodAutoscaler}
    {failure conditionMessage errorPrefix name : String} {selector : LabelSelector}
    {lowMark highMark : Int64} {status : Int64 → MetricStatus}
    {calculation : Outcome (Except String ReplicaCalculation) × List GaugeOp} {proposal : Proposal}
    (evaluated : (evaluateSource now wpa failure conditionMessage errorPrefix name selector
      lowMark highMark status calculation).1 = .returned (.ok (some proposal))) :
    ∃ replicaCalculation, calculation.1 = .returned (.ok replicaCalculation) ∧
      proposal.replicas = replicaCalculation.replicaCount ∧
      proposal.timestamp = replicaCalculation.timestamp := by
  unfold evaluateSource at evaluated
  split at evaluated <;> simp only [reduceCtorEq, Outcome.returned.injEq, Except.ok.injEq,
    Option.some.injEq] at evaluated
  exact ⟨_, ‹_›, by rw [← evaluated], by rw [← evaluated]⟩

section

variable {now : ℤ} {scale : Scale} {wpa : WatermarkPodAutoscaler} {metricSpec : MetricSpec}

/-- Only a skipped spec evaluates to no proposal. -/
theorem evaluateMetric_skipped {replicaCalc : ReplicaCalculatorItf}
    (evaluated : (evaluateMetric replicaCalc now scale wpa metricSpec).1 = .returned (.ok none)) :
    metricSpec.external.isNone ∧ metricSpec.resource.isNone := by
  unfold evaluateMetric evaluateSource missingWatermark at evaluated
  split_ifs at evaluated with skipped
  · exact skipped
  all_goals (repeat' split at evaluated) <;> simp at evaluated

/-- A proposal of the controller's calculator is `getReplicaCount` on the reading it takes for
the spec, with both watermarks, and carries the reading's timestamp. -/
theorem evaluateMetric_toItf_measured {calculator : ReplicaCalculator} {platform : Platform}
    {proposal : Proposal}
    (evaluated : (evaluateMetric (calculator.toItf platform) now scale wpa metricSpec).1 =
      .returned (.ok (some proposal))) :
    ∃ name lowMark highMark adjustedUsage base timestamp,
      calculator.readingFor scale wpa metricSpec =
        some (.measured name (some lowMark) (some highMark) adjustedUsage base timestamp) ∧
      proposal.replicas =
        (getReplicaCount platform base wpa name adjustedUsage lowMark highMark).1.1 ∧
      proposal.timestamp = timestamp := by
  have measured {reading : Reading} (read : calculator.readingFor scale wpa metricSpec = some reading)
      {replicaCalculation : ReplicaCalculation}
      (proposed : (reading.propose platform wpa).1 = .returned (.ok replicaCalculation))
      (replicas : proposal.replicas = replicaCalculation.replicaCount)
      (stamped : proposal.timestamp = replicaCalculation.timestamp) :
      ∃ name lowMark highMark adjustedUsage base timestamp,
        calculator.readingFor scale wpa metricSpec =
          some (.measured name (some lowMark) (some highMark) adjustedUsage base timestamp) ∧
        proposal.replicas =
          (getReplicaCount platform base wpa name adjustedUsage lowMark highMark).1.1 ∧
        proposal.timestamp = timestamp := by
    obtain ⟨name, lowMark, highMark, adjustedUsage, base, timestamp, rfl, count, time⟩ :=
      Reading.propose_ok proposed
    exact ⟨name, lowMark, highMark, adjustedUsage, base, timestamp, read, replicas.trans count,
      stamped.trans time⟩
  unfold evaluateMetric at evaluated
  split_ifs at evaluated with skipped external resource
  · simp at evaluated
  · repeat' split at evaluated
    all_goals first
      | simp [missingWatermark] at evaluated
      | obtain ⟨_, proposed, replicas, stamped⟩ := evaluateSource_ok evaluated
        exact measured (by rw [ReplicaCalculator.readingFor, if_neg skipped, if_pos external])
          proposed replicas stamped
  · repeat' split at evaluated
    all_goals first
      | simp [missingWatermark] at evaluated
      | obtain ⟨_, proposed, replicas, stamped⟩ := evaluateSource_ok evaluated
        exact measured (by rw [ReplicaCalculator.readingFor, if_neg skipped, if_neg external,
          if_pos resource]) proposed replicas stamped
  · simp at evaluated

theorem ReplicaCalculator.readingFor_not_skipped {calculator : ReplicaCalculator} {reading : Reading}
    (read : calculator.readingFor scale wpa metricSpec = some reading) :
    ¬(metricSpec.external.isNone ∧ metricSpec.resource.isNone) := by
  intro skipped
  simp [ReplicaCalculator.readingFor, skipped] at read

/-- When `computeReplicasForMetrics` returns a count, every spec it does not skip proposed. -/
theorem evaluateMetric_proposes {replicaCalc : ReplicaCalculatorItf} {result : MetricsAccumulator}
    (computed : (computeReplicasForMetrics replicaCalc now wpa scale).1 = .returned (.ok result))
    (member : metricSpec ∈ wpa.spec.metrics)
    (notSkipped : ¬(metricSpec.external.isNone ∧ metricSpec.resource.isNone)) :
    ∃ proposal, (evaluateMetric replicaCalc now scale wpa metricSpec).1 =
      .returned (.ok (some proposal)) := by
  obtain ⟨_ | proposal, evaluated⟩ := computeReplicasForMetrics_continues computed metricSpec member
  · exact absurd (evaluateMetric_skipped evaluated) notSkipped
  · exact ⟨proposal, evaluated⟩

end

/-- Every reading with both watermarks scales from `currentReplicas`, with `0 < L ≤ H`. -/
def ReplicaCalculator.ScalesFrom (calculator : ReplicaCalculator) (scale : Scale)
    (wpa : WatermarkPodAutoscaler) (currentReplicas : Int32) : Prop :=
  calculator.EveryMeasured scale wpa fun lowMark highMark _ base =>
    base = currentReplicas ∧ 0 < lowMark.val ∧ lowMark.val ≤ highMark.val

section

variable {calculator : ReplicaCalculator} {platform : Platform} {now : ℤ} {scale : Scale}
  {wpa : WatermarkPodAutoscaler} {currentReplicas : Int32} {result : MetricsAccumulator}
  (scalesFrom : calculator.ScalesFrom scale wpa currentReplicas)
  (computed : (computeReplicasForMetrics (calculator.toItf platform) now wpa scale).1 =
    .returned (.ok result))

include scalesFrom computed

/-- When every reading lies in its band, `computeReplicasForMetrics` returns the current count,
provided some spec is not skipped. -/
theorem computeReplicasForMetrics_eq_of_inBand (currentPos : 0 < currentReplicas)
    (inBand : calculator.EveryMeasured scale wpa fun lowMark highMark adjustedUsage _ =>
      InBand wpa adjustedUsage lowMark highMark)
    (someSource : ∃ metricSpec ∈ wpa.spec.metrics,
      metricSpec.external.isSome ∨ metricSpec.resource.isSome) :
    result.replicas = currentReplicas := by
  have proposesCurrent : ∀ metricSpec ∈ wpa.spec.metrics, ∀ proposal,
      (evaluateMetric (calculator.toItf platform) now scale wpa metricSpec).1 =
        .returned (.ok (some proposal)) → proposal.replicas = currentReplicas := by
    intro metricSpec member proposal evaluated
    obtain ⟨name, lowMark, highMark, adjustedUsage, base, timestamp, read, replicas, -⟩ :=
      evaluateMetric_toItf_measured evaluated
    rw [replicas, getReplicaCount_of_inBand (inBand metricSpec member _ _ _ _ _ _ read),
      (scalesFrom metricSpec member _ _ _ _ _ _ read).1]
  obtain ⟨metricSpec, member, source⟩ := someSource
  obtain ⟨proposal, evaluated⟩ := evaluateMetric_proposes computed member (by
    rw [Option.isNone_iff_eq_none, Option.isNone_iff_eq_none]
    rintro ⟨external, resource⟩
    simp [external, resource] at source)
  have current := proposesCurrent metricSpec member proposal evaluated
  refine le_antisymm (computeReplicasForMetrics_le currentReplicas currentPos.le
    (fun metricSpec member proposal evaluated =>
      (proposesCurrent metricSpec member proposal evaluated).le) computed) ?_
  exact current ▸ le_computeReplicasForMetrics member evaluated (current ▸ currentPos) computed

variable (toleranceNonneg : 0 ≤ wpa.spec.tolerance) (toleranceLe : wpa.spec.tolerance ≤ 1)
include toleranceNonneg toleranceLe

/-- When some reading lies above its band, `computeReplicasForMetrics` returns at least the
current count. -/
theorem le_computeReplicasForMetrics_of_aboveBand (currentPos : 0 < currentReplicas)
    (above : calculator.SomeMeasured scale wpa fun _ highMark adjustedUsage base =>
      AboveBand base wpa adjustedUsage highMark) :
    currentReplicas ≤ result.replicas := by
  obtain ⟨metricSpec, member, name, lowMark, highMark, adjustedUsage, base, timestamp, read,
    exceeds⟩ := above
  obtain ⟨proposal, evaluated⟩ :=
    evaluateMetric_proposes computed member (ReplicaCalculator.readingFor_not_skipped read)
  obtain ⟨name', lowMark', highMark', adjustedUsage', base', timestamp', read', replicas, -⟩ :=
    evaluateMetric_toItf_measured evaluated
  rw [read, Option.some.injEq, Reading.measured.injEq, Option.some.injEq,
    Option.some.injEq] at read'
  obtain ⟨rfl, rfl, rfl, rfl, rfl, rfl⟩ := read'
  obtain ⟨rfl, lowPos, ordered⟩ := scalesFrom metricSpec member _ _ _ _ _ _ read
  have raises : base ≤ proposal.replicas := replicas ▸
    le_getReplicaCount_of_aboveBand toleranceNonneg toleranceLe currentPos (by omega) exceeds
  exact raises.trans
    (le_computeReplicasForMetrics member evaluated (currentPos.trans_le raises) computed)

/-- When every reading lies below its band, `computeReplicasForMetrics` returns at most the
current count. -/
theorem computeReplicasForMetrics_le_of_belowBand (currentPos : 0 < currentReplicas)
    (below : calculator.EveryMeasured scale wpa fun lowMark _ adjustedUsage base =>
      BelowBand base wpa adjustedUsage lowMark) :
    result.replicas ≤ currentReplicas := by
  refine computeReplicasForMetrics_le currentReplicas currentPos.le ?_ computed
  intro metricSpec member proposal evaluated
  obtain ⟨name, lowMark, highMark, adjustedUsage, base, timestamp, read, replicas, -⟩ :=
    evaluateMetric_toItf_measured evaluated
  obtain ⟨rfl, lowPos, ordered⟩ := scalesFrom metricSpec member _ _ _ _ _ _ read
  exact replicas ▸ getReplicaCount_le_of_belowBand toleranceNonneg toleranceLe currentPos lowPos
    ordered (below metricSpec member _ _ _ _ _ _ read)

end

/-- `finishReconcile` behind the cooldown gate writes, and records on a rescale, the desired
count, and a count equal to the current one only on an object with no `LastScaleTime`. Where
the desired count is the current one, the object records it unless the gate passed, the scale
write failed and the run is live. -/
theorem finishReconcile_gated (cluster : Cluster)
    (wpaStatusOriginal : WatermarkPodAutoscalerStatus) (targetGR : GroupResource)
    (currentReplicas desiredReplicas : Int32) (metricStatuses : List MetricStatus)
    (gated : WatermarkPodAutoscaler) (timestamp : ℤ) (effects : List Effect)
    (reports : ∀ effect ∈ effects, effect.isReport) :
    DecidesWrites (fun replicas => replicas = desiredReplicas ∧
        (replicas = currentReplicas → gated.status.lastScaleTime = none)) gated
      (finishReconcile cluster wpaStatusOriginal targetGR currentReplicas
        (shouldScale cluster.now gated currentReplicas desiredReplicas timestamp).1
        desiredReplicas metricStatuses
        (shouldScale cluster.now gated currentReplicas desiredReplicas timestamp).2.1 effects).2 ∧
    (desiredReplicas = currentReplicas →
      cluster.updateScale = none ∨ gated.spec.dryRun = true ∨ gated.status.lastScaleTime.isSome →
      (finishReconcile cluster wpaStatusOriginal targetGR currentReplicas
        (shouldScale cluster.now gated currentReplicas desiredReplicas timestamp).1
        desiredReplicas metricStatuses
        (shouldScale cluster.now gated currentReplicas desiredReplicas timestamp).2.1
        effects).2.1.status.desiredReplicas = currentReplicas) := by
  have gateOnly := shouldScale_conditionsOnly cluster.now gated currentReplicas desiredReplicas
    timestamp
  refine ⟨(finishReconcile_decidesWrites _ _ _ _ _ _ _ _ _ reports).mono ?_
    gateOnly.lastScaleTime_eq, fun steady applied => ?_⟩
  · rintro replicas ⟨rescaled, written⟩
    refine ⟨written, fun same => ?_⟩
    rw [← written, same, shouldScale_same_count] at rescaled
    exact Option.isNone_iff_eq_none.mp rescaled
  · rw [finishReconcile_desiredReplicas _ _ _ _ _ _ _ _ _ ?_]
    · split_ifs <;> first | exact steady | rfl
    · rcases applied with scaled | dryRun | stamped
      · exact .inr (.inl scaled)
      · exact .inr (.inr (gateOnly.spec_eq ▸ dryRun))
      · left
        rw [steady, shouldScale_same_count]
        simpa [Option.isSome_iff_exists, Option.isNone_iff_eq_none] using stamped

/-- The count the metric-driven branch decides from the loop's result: the proposal, or `0` when
it is not positive, through the normalizer. -/
def normalizedProposal (platform : Platform) (wpa : WatermarkPodAutoscaler)
    (currentReplicas : Int32) (result : MetricsAccumulator) : Int32 :=
  (convertDesiredReplicasWithRules platform wpa currentReplicas
    (if decide (result.replicas > 0) then result.replicas else 0) (wpa.spec.minReplicas.getD 0)
    wpa.spec.maxReplicas).1.replicas

/-- Once the loop returns `result`, the metric-driven branch writes, and records on a rescale, the
normalized proposal, and a count equal to the current one only on an object with no
`LastScaleTime`; a proposal normalized to the current count is recorded as desired unless the
gate passed, the scale write failed and the run is live. -/
theorem metricDriven_of_computed (platform : Platform) (replicaCalc : ReplicaCalculatorItf)
    (cluster : Cluster) (wpaStatusOriginal : WatermarkPodAutoscalerStatus)
    (targetGR : GroupResource) (currentScale : Scale) (wpa : WatermarkPodAutoscaler)
    {result : MetricsAccumulator}
    (computed : (computeReplicasForMetrics replicaCalc cluster.now wpa currentScale).1 =
      .returned (.ok result)) :
    DecidesWrites (fun replicas =>
        replicas = normalizedProposal platform wpa currentScale.statusReplicas result ∧
          (replicas = currentScale.statusReplicas → wpa.status.lastScaleTime = none)) wpa
      (metricDriven platform replicaCalc cluster wpaStatusOriginal targetGR currentScale wpa).2 ∧
    (normalizedProposal platform wpa currentScale.statusReplicas result =
        currentScale.statusReplicas →
      cluster.updateScale = none ∨ wpa.spec.dryRun = true ∨ wpa.status.lastScaleTime.isSome →
      (metricDriven platform replicaCalc cluster wpaStatusOriginal targetGR currentScale
        wpa).2.1.status.desiredReplicas = currentScale.statusReplicas) := by
  have reports := computeReplicasForMetrics_reportsOnly replicaCalc cluster.now wpa currentScale
  have normalizedOnly := reports.1.trans (normalizeDesiredReplicas_conditionsOnly platform
    cluster.now _ currentScale.statusReplicas
    (if decide (result.replicas > 0) then result.replicas else 0))
  have normalized : (normalizeDesiredReplicas platform cluster.now
      (computeReplicasForMetrics replicaCalc cluster.now wpa currentScale).2.1
      currentScale.statusReplicas (if decide (result.replicas > 0) then result.replicas else 0)).1 =
      normalizedProposal platform wpa currentScale.statusReplicas result := by
    rw [normalizeDesiredReplicas_replicas, convertDesiredReplicasWithRules_replicas_congr
      reports.1.spec_eq, reports.1.spec_eq, normalizedProposal]
  have effects : ∀ gauges gauges' : List GaugeOp, ∀ effect ∈
      (computeReplicasForMetrics replicaCalc cluster.now wpa currentScale).2.2 ++
        gauges.map Effect.gauge ++ gauges'.map Effect.gauge, effect.isReport := by
    simpa [or_imp, forall_and] using reports.2
  simp only [metricDriven, computed]
  refine ⟨(finishReconcile_gated _ _ _ _ _ _ _ _ _ (effects _ _)).1.mono ?_
    normalizedOnly.lastScaleTime_eq, fun steady applied =>
      (finishReconcile_gated _ _ _ _ _ _ _ _ _ (effects _ _)).2 (normalized.trans steady) ?_⟩
  · rintro replicas ⟨written, stampFree⟩
    exact ⟨written.trans normalized, fun same => normalizedOnly.lastScaleTime_eq ▸ stampFree same⟩
  · rwa [normalizedOnly.spec_eq, normalizedOnly.lastScaleTime_eq]

/-- A reconciliation that reaches the metric-driven branch, on a calculator whose readings all
scale from the current count `N` with `0 < L ≤ H`, with a tolerance in `[0, 1]`, and whose loop
returns a count, decides in the direction of Go's verdicts: no count but `N` when every reading
is in its band and some spec is evaluated (and `N` is recorded as desired unless a live rescale
to `N` failed on an object with no `LastScaleTime`), none below `N` when some reading is above
its band, and none above `N` when every reading is below its band. -/
theorem reconcileWPA_follows_watermarks (platform : Platform) (calculator : ReplicaCalculator)
    (cluster : Cluster) (wpa : WatermarkPodAutoscaler) {currentScale : Scale}
    {targetGR : GroupResource}
    (found : lookupScale cluster wpa.spec.scaleTargetRef = .ok (currentScale, targetGR))
    (enabled : currentScale.specReplicas ≠ 0)
    (minLeCurrent : max (wpa.spec.minReplicas.getD 0) 1 ≤ currentScale.statusReplicas)
    (currentLeMax : currentScale.statusReplicas ≤ wpa.spec.maxReplicas)
    (upInRange : (scaleUpLimitValue wpa currentScale.statusReplicas).InInt32)
    (downInRange : (scaleDownLimitValue wpa currentScale.statusReplicas).InInt32)
    (toleranceNonneg : 0 ≤ wpa.spec.tolerance) (toleranceLe : wpa.spec.tolerance ≤ 1)
    (scalesFrom : calculator.ScalesFrom currentScale wpa currentScale.statusReplicas)
    {result : MetricsAccumulator}
    (computed : (computeReplicasForMetrics (calculator.toItf platform) cluster.now wpa
      currentScale).1 = .returned (.ok result)) :
    ((∃ metricSpec ∈ wpa.spec.metrics, metricSpec.external.isSome ∨ metricSpec.resource.isSome) →
      calculator.EveryMeasured currentScale wpa (fun lowMark highMark adjustedUsage _ =>
        InBand wpa adjustedUsage lowMark highMark) →
      DecidesWrites (· = currentScale.statusReplicas) wpa
          (reconcileWPA platform (calculator.toItf platform) cluster wpa).2 ∧
        (cluster.updateScale = none ∨ wpa.spec.dryRun = true ∨ wpa.status.lastScaleTime.isSome →
          (reconcileWPA platform (calculator.toItf platform) cluster
            wpa).2.1.status.desiredReplicas = currentScale.statusReplicas)) ∧
    (calculator.SomeMeasured currentScale wpa (fun _ highMark adjustedUsage base =>
        AboveBand base wpa adjustedUsage highMark) →
      DecidesWrites (currentScale.statusReplicas ≤ ·) wpa
        (reconcileWPA platform (calculator.toItf platform) cluster wpa).2) ∧
    (calculator.EveryMeasured currentScale wpa (fun lowMark _ adjustedUsage base =>
        BelowBand base wpa adjustedUsage lowMark) →
      DecidesWrites (· ≤ currentScale.statusReplicas) wpa
        (reconcileWPA platform (calculator.toItf platform) cluster wpa).2) := by
  have currentPos : 0 < currentScale.statusReplicas :=
    lt_of_lt_of_le (by decide) (le_trans (le_max_right _ _) minLeCurrent)
  have notForced := (forcedReplicas_eq_none_iff currentPos.le).mpr ⟨minLeCurrent, currentLeMax⟩
  have conditioned := setCondition_conditionsOnly cluster.now wpa ableToScale conditionTrue
    "SucceededGetScale" "the WPA controller was able to get the target's current scale"
  obtain ⟨writes, records⟩ := metricDriven_of_computed platform (calculator.toItf platform) cluster
    wpa.status targetGR currentScale _ ((computeReplicasForMetrics_agree ConditionsOnly.lockstep
      cluster.now (calculator.toItf_oblivious platform) currentScale conditioned).result.symm.trans
      computed)
  have sameProposal : normalizedProposal platform (setCondition cluster.now wpa ableToScale
      conditionTrue "SucceededGetScale" "the WPA controller was able to get the target's current scale")
      currentScale.statusReplicas result =
      normalizedProposal platform wpa currentScale.statusReplicas result := by
    rw [normalizedProposal, normalizedProposal,
      convertDesiredReplicasWithRules_replicas_congr conditioned.spec_eq, conditioned.spec_eq]
  have direction := convertDesiredReplicasWithRules_keeps_direction platform wpa
    currentScale.statusReplicas (if decide (result.replicas > 0) then result.replicas else 0)
    _ _ minLeCurrent currentLeMax upInRange downInRange
  rw [← normalizedProposal, ← sameProposal] at direction
  simp only [reconcileWPA, found, reconcileScale, enabled, setCondition_spec, notForced,
    ↓reduceIte]
  refine ⟨fun someSource inBand => ?_, fun above => ?_, fun below => ?_⟩
  · have current := computeReplicasForMetrics_eq_of_inBand scalesFrom computed currentPos inBand
      someSource
    have steady := le_antisymm (direction.1 (by simp [current, currentPos]))
      (direction.2 (by simp [current, currentPos]))
    exact ⟨writes.mono (fun _ decided => decided.1.trans steady) conditioned.lastScaleTime_eq,
      fun applied => records steady (by rwa [conditioned.spec_eq, conditioned.lastScaleTime_eq])⟩
  · have raised := le_computeReplicasForMetrics_of_aboveBand scalesFrom computed toleranceNonneg
      toleranceLe currentPos above
    exact writes.mono (fun _ decided => decided.1 ▸ direction.2
      (by simp [currentPos.trans_le raised, raised])) conditioned.lastScaleTime_eq
  · have lowered := computeReplicasForMetrics_le_of_belowBand scalesFrom computed toleranceNonneg
      toleranceLe currentPos below
    exact writes.mono (fun _ decided => decided.1 ▸ direction.1
      (by split_ifs <;> simp [lowered, currentPos.le])) conditioned.lastScaleTime_eq

/-- The example object at ten replicas, every pod at `7000` milli-CPU, inside the band
`[4500, 8800]`: no count but ten is written or recorded as a rescale. -/
theorem reconcileWPA_follows_watermarks_in_band :
    DecidesWrites (· = ⟨10, by decide, by decide⟩) exampleWpa
      (reconcileWPA .amd64 ((exampleCalculator ⟨7000, by decide, by decide⟩).toItf .amd64)
        (exampleCluster ⟨10, by decide, by decide⟩) exampleWpa).2 := by
  obtain ⟨result, computed⟩ : ∃ result, (computeReplicasForMetrics
      ((exampleCalculator ⟨7000, by decide, by decide⟩).toItf .amd64) 100 exampleWpa
      exampleScale).1 = .returned (.ok result) := by exact ⟨_, rfl⟩
  refine ((reconcileWPA_follows_watermarks .amd64 _ (exampleCluster ⟨10, by decide, by decide⟩)
    exampleWpa (lookupScale_exampleCluster _) (by decide) (by decide) (by decide) (by decide)
    (by decide) (by decide) (by decide) ?_ computed).1 ⟨_, List.mem_cons_self _ _, by decide⟩
    ?_).1
  all_goals
    intro metricSpec member name lowMark highMark adjustedUsage base timestamp measured
    simp only [exampleWpa, List.mem_singleton] at member
    subst member
    cases measured
    decide

/-- The example object scaled on an `External` queue metric with the same watermarks. -/
def exampleExternalWpa : WatermarkPodAutoscaler :=
  { exampleWpa with
    spec := { exampleWpa.spec with
      metrics := [⟨externalMetricSourceType, some ⟨"queue", some ⟨[]⟩,
        some ⟨8000, by decide, by decide⟩, some ⟨5000, by decide, by decide⟩⟩, none⟩] } }

/-- A calculator that finds five ready pods across all namespaces and reads `35000` from the
queue metric. -/
def fivePodCalculator : ReplicaCalculator where
  metricsClient := ⟨fun _ _ _ => .ok (⟨[], by decide⟩, 5),
    fun _ _ _ => .ok ([⟨35000, by decide, by decide⟩], 5)⟩
  podLister _ _ := .ok (examplePods.take 5)
  parseLabels _ := none
  labelSelectorAsSelector _ := none

/-- The example object with a tolerance of `0.815`. -/
def tolerantWpa : WatermarkPodAutoscaler :=
  { exampleWpa with spec := { exampleWpa.spec with tolerance := mkRat 163 200 } }

set_option maxRecDepth 2000 in
/-- A usage in the band `[L·(1 - t), H·(1 + t)]` still moves the count. An external metric scales
from the ready pods the calculator counts, not from the target's replicas: with ten replicas and
five ready pods, an average of `7000` lies in the band `[5000·(1 - 0.1), 8000·(1 + 0.1)]`, also as
Go compares it, the proposal is five, and the normalizer's scale-down limit writes eight and
records it. And Go compares in float64: with the tolerance `0.815`, ten pods at `925` milli-CPU
sit on the band's lower edge `5000·(1 - 0.815) = 925`, but `adjustedLM`, `5000 - 0.815·5000` in
float64, rounds to just above `925`. The usage counts as below the band, the proposal is one,
and the scale-down limit writes eight and records it. -/
theorem reconcileWPA_scales_in_band :
    (lookupScale (exampleCluster ⟨10, by decide, by decide⟩)
        exampleExternalWpa.spec.scaleTargetRef = .ok (exampleScale, ⟨"apps", "deployments"⟩) ∧
      fivePodCalculator.readingFor exampleScale exampleExternalWpa
          ⟨externalMetricSourceType, some ⟨"queue", some ⟨[]⟩,
            some ⟨8000, by decide, by decide⟩, some ⟨5000, by decide, by decide⟩⟩, none⟩ =
        some (.measured "queue" (some ⟨5000, by decide, by decide⟩)
          (some ⟨8000, by decide, by decide⟩) (.finite 7000) ⟨5, by decide, by decide⟩ 5) ∧
      (5000 : ℚ) * (1 - exampleExternalWpa.spec.tolerance) ≤ 7000 ∧
      (7000 : ℚ) ≤ 8000 * (1 + exampleExternalWpa.spec.tolerance) ∧
      fivePodCalculator.EveryMeasured exampleScale exampleExternalWpa
        (fun lowMark highMark adjustedUsage _ => InBand exampleExternalWpa adjustedUsage lowMark
          highMark) ∧
      (∃ result, (computeReplicasForMetrics (fivePodCalculator.toItf .amd64) 100
        exampleExternalWpa exampleScale).1 = .returned (.ok result)) ∧
      Effect.updateScale ⟨"apps", "deployments"⟩ ⟨8, by decide, by decide⟩ ∈
        (reconcileWPA .amd64 (fivePodCalculator.toItf .amd64)
          (exampleCluster ⟨10, by decide, by decide⟩) exampleExternalWpa).2.2 ∧
      (reconcileWPA .amd64 (fivePodCalculator.toItf .amd64)
          (exampleCluster ⟨10, by decide, by decide⟩)
          exampleExternalWpa).2.1.status.desiredReplicas = ⟨8, by decide, by decide⟩) ∧
    ((exampleCalculator ⟨925, by decide, by decide⟩).readingFor exampleScale tolerantWpa
          ⟨resourceMetricSourceType, none, some ⟨"cpu", some ⟨[]⟩,
            some ⟨8000, by decide, by decide⟩, some ⟨5000, by decide, by decide⟩⟩⟩ =
        some (.measured "cpu" (some ⟨5000, by decide, by decide⟩)
          (some ⟨8000, by decide, by decide⟩) (.finite 925) ⟨10, by decide, by decide⟩ 5) ∧
      (5000 : ℚ) * (1 - tolerantWpa.spec.tolerance) ≤ 925 ∧
      (925 : ℚ) ≤ 8000 * (1 + tolerantWpa.spec.tolerance) ∧
      Effect.updateScale ⟨"apps", "deployments"⟩ ⟨8, by decide, by decide⟩ ∈
        (reconcileWPA .amd64 ((exampleCalculator ⟨925, by decide, by decide⟩).toItf .amd64)
          (exampleCluster ⟨10, by decide, by decide⟩) tolerantWpa).2.2 ∧
      (reconcileWPA .amd64 ((exampleCalculator ⟨925, by decide, by decide⟩).toItf .amd64)
          (exampleCluster ⟨10, by decide, by decide⟩)
          tolerantWpa).2.1.status.desiredReplicas = ⟨8, by decide, by decide⟩) := by
  refine ⟨⟨rfl, by decide, by norm_num [exampleExternalWpa, exampleWpa, Rat.mkRat_eq_div],
    by norm_num [exampleExternalWpa, exampleWpa, Rat.mkRat_eq_div], ?_, ⟨_, rfl⟩, by decide,
    by decide⟩, by decide, by norm_num [tolerantWpa, exampleWpa, Rat.mkRat_eq_div],
    by norm_num [tolerantWpa, exampleWpa, Rat.mkRat_eq_div], by decide, by decide⟩
  intro metricSpec member name lowMark highMark adjustedUsage base timestamp measured
  simp only [exampleExternalWpa, List.mem_singleton] at member
  subst member
  cases measured
  decide

set_option maxRecDepth 2000 in
/-- Every pod of the example object at `10^13` milli-CPU, at ten replicas: the reading is far
above the band, the upscale quotient `⌈10·10^13/8000⌉` leaves the int32 range, the proposal is
the most negative int32, and the reconciliation scales the target down to eight. -/
theorem reconcileWPA_scales_down_on_spike :
    (exampleCalculator ⟨10000000000000, by decide, by decide⟩).readingFor exampleScale exampleWpa
        ⟨resourceMetricSourceType, none, some ⟨"cpu", some ⟨[]⟩,
          some ⟨8000, by decide, by decide⟩, some ⟨5000, by decide, by decide⟩⟩⟩ =
      some (.measured "cpu" (some ⟨5000, by decide, by decide⟩)
        (some ⟨8000, by decide, by decide⟩) (.finite 10000000000000) ⟨10, by decide, by decide⟩
        5) ∧
      (8000 : ℤ) * (1 + exampleWpa.spec.tolerance) < 10000000000000 ∧
      (getReplicaCount .amd64 ⟨10, by decide, by decide⟩ exampleWpa "cpu" (.finite 10000000000000)
        ⟨5000, by decide, by decide⟩ ⟨8000, by decide, by decide⟩).1.1.val = -2147483648 ∧
      Effect.updateScale ⟨"apps", "deployments"⟩ ⟨8, by decide, by decide⟩ ∈
        (reconcileWPA .amd64
          ((exampleCalculator ⟨10000000000000, by decide, by decide⟩).toItf .amd64)
          (exampleCluster ⟨10, by decide, by decide⟩) exampleWpa).2.2 := by
  exact ⟨by decide, by norm_num [exampleWpa, Rat.mkRat_eq_div], by decide, by decide⟩

/-- A forced count differs from the current one. -/
theorem forcedReplicas_ne {spec : WatermarkPodAutoscalerSpec} {currentReplicas replicas : Int32}
    (forced : forcedReplicas spec currentReplicas = some replicas) : replicas ≠ currentReplicas := by
  unfold forcedReplicas at forced
  split_ifs at forced with above below zero
  · cases forced
    exact ne_of_lt above
  · rw [forced] at below
    exact ne_of_gt (by simpa using below)
  · cases forced
    rw [zero]
    decide

/-- On an object with a `LastScaleTime`, the metric-driven branch rescales only to a count other
than the current one. -/
theorem metricDriven_rescales_only_on_change (platform : Platform)
    (replicaCalc : ReplicaCalculatorItf) (cluster : Cluster)
    (wpaStatusOriginal : WatermarkPodAutoscalerStatus) (targetGR : GroupResource)
    (currentScale : Scale) {wpa : WatermarkPodAutoscaler}
    (stamped : wpa.status.lastScaleTime.isSome) :
    DecidesWrites (· ≠ currentScale.statusReplicas) wpa
      (metricDriven platform replicaCalc cluster wpaStatusOriginal targetGR currentScale wpa).2 := by
  have reports := computeReplicasForMetrics_reportsOnly replicaCalc cluster.now wpa currentScale
  cases computed : (computeReplicasForMetrics replicaCalc cluster.now wpa currentScale).1 with
  | panicked =>
      simp only [metricDriven, computed]
      exact reports.decidesWrites
  | returned outcome =>
      cases outcome with
      | error err =>
          have noWrite : ∀ groupResource replicas, Effect.updateScale groupResource replicas ∉
              (computeReplicasForMetrics replicaCalc cluster.now wpa currentScale).2.2 :=
            fun _ _ written => by simpa using reports.2 _ written
          simp only [metricDriven, computed]
          split <;> exact ⟨by simp [noWrite], by simp [setCurrentReplicasInStatus,
            reports.1.lastScaleTime_eq]⟩
      | ok result =>
          exact (metricDriven_of_computed platform replicaCalc cluster wpaStatusOriginal targetGR
            currentScale wpa computed).1.mono
            (fun _ decided same => by simp [decided.2 same] at stamped) rfl

/-- On an object with a `LastScaleTime`, a reconciliation that finds the scale rescales only to a
count other than the current one. -/
theorem reconcileWPA_rescales_only_on_change (platform : Platform)
    (replicaCalc : ReplicaCalculatorItf) (cluster : Cluster) {wpa : WatermarkPodAutoscaler}
    {currentScale : Scale} {targetGR : GroupResource}
    (found : lookupScale cluster wpa.spec.scaleTargetRef = .ok (currentScale, targetGR))
    (stamped : wpa.status.lastScaleTime.isSome) :
    DecidesWrites (· ≠ currentScale.statusReplicas) wpa
      (reconcileWPA platform replicaCalc cluster wpa).2 := by
  simp only [reconcileWPA, found, reconcileScale]
  split_ifs with disabled
  · exact (finishReconcile_decidesWrites _ _ _ _ _ _ _ _ _ (by simp)).mono
      (fun _ rescaled => absurd rescaled.1 Bool.false_ne_true) (by simp)
  · split
    · rename_i forced
      exact (finishReconcile_decidesWrites _ _ _ _ _ _ _ _ _ (by simp)).mono
        (fun _ decided => decided.2 ▸ forcedReplicas_ne (by simpa using forced)) (by simp)
    · exact (metricDriven_rescales_only_on_change _ _ _ _ _ _ (by simpa using stamped)).mono
        (fun _ => id) (by simp)

set_option maxRecDepth 2000 in
/-- An object that never scaled, at ten replicas with every pod inside the band: the decided
count is ten, yet the gate passes, and the reconciliation writes ten to the scale, emits
`SuccessfulRescale` and stamps `LastScaleTime`. -/
theorem reconcileWPA_rescales_to_current_count :
    exampleWpa.status.lastScaleTime = none ∧
      Effect.updateScale ⟨"apps", "deployments"⟩ ⟨10, by decide, by decide⟩ ∈
        (reconcileWPA .amd64 ((exampleCalculator ⟨7000, by decide, by decide⟩).toItf .amd64)
          (exampleCluster ⟨10, by decide, by decide⟩) exampleWpa).2.2 ∧
      Effect.event eventTypeNormal "SuccessfulRescale" ∈
        (reconcileWPA .amd64 ((exampleCalculator ⟨7000, by decide, by decide⟩).toItf .amd64)
          (exampleCluster ⟨10, by decide, by decide⟩) exampleWpa).2.2 ∧
      (reconcileWPA .amd64 ((exampleCalculator ⟨7000, by decide, by decide⟩).toItf .amd64)
          (exampleCluster ⟨10, by decide, by decide⟩) exampleWpa).2.1.status.lastScaleTime =
        some 100 := by
  decide

end Wpa
