import WatermarkPodAutoscaler.Reconcile

/-!
# The gauge updates of a reconciliation

`Emitted wpa` lists the gauge updates a reconciliation of `wpa` can make, with the label maps and
values the source gives them: a gauge under the object's labels (`replicaMin`, `replicaMax`,
`replicaProposal`, `replicaEffective`), a gauge under the object's labels and a metric name (the
watermarks, `value`), a countdown under the transition labels, `restrictedScaling` under a
reason, and the deletes of the fetch-error paths. The upscale capping reason is only ever set to
`1`: `convertDesiredReplicasWithRules` resets the map's reason only in its upscale branch, and its
other branch sets the downscale capping to `0` again.

The catalogue is proved once, of every reconciliation, along the call chain
(`Reconcile_emitted`). What a reconciliation can do to the registry then follows by cases on the
constructors: its labels name the object and its target only (`Emitted.namesOnly`), and a series
with the upscale capping reason is only ever set to `1` (`Emitted.upscaleCapping_one`).
-/

namespace Wpa

/-- The object labels among `labels`, those `identity` gives a value, hold that value: an update
with such labels names the object and the target `identity` labels, and no other. -/
def NamesOnly (identity labels : PromLabels) : Prop :=
  ∀ label ∈ labels, label.1 ∈ identity.map Prod.fst → label ∈ identity

section

variable {identity : PromLabels}

@[simp] theorem namesOnly_nil : NamesOnly identity [] := nofun

@[simp] theorem namesOnly_self : NamesOnly identity identity := fun _ listed _ => listed

theorem namesOnly_cons (label : String × String) (labels : PromLabels) :
    NamesOnly identity (label :: labels) ↔
      (label.1 ∈ identity.map Prod.fst → label ∈ identity) ∧ NamesOnly identity labels :=
  List.forall_mem_cons

theorem namesOnly_append (labels labels' : PromLabels) :
    NamesOnly identity (labels ++ labels') ↔ NamesOnly identity labels ∧ NamesOnly identity labels' :=
  List.forall_mem_append

end

/-- What labels naming a WPA say of its name, its namespace and its target. -/
theorem NamesOnly.value_eq {wpa : WatermarkPodAutoscaler} {labels : PromLabels}
    (names : NamesOnly wpa.promLabels labels) {key value : String} (listed : (key, value) ∈ labels) :
    (key = wpaNamePromLabel → value = wpa.name) ∧
      (key = resourceNamespacePromLabel → value = wpa.metaNamespace) ∧
      (key = resourceNamePromLabel → value = wpa.spec.scaleTargetRef.name) := by
  have named := names _ listed
  refine ⟨?_, ?_, ?_⟩ <;> rintro rfl <;>
    simpa [WatermarkPodAutoscaler.promLabels, wpaNamePromLabel, resourceNamespacePromLabel,
      resourceNamePromLabel, resourceKindPromLabel] using named

/-- The label map of a gauge update. -/
def GaugeOp.labels : GaugeOp → PromLabels
  | .set _ labels _ => labels
  | .delete _ labels => labels

@[simp] theorem GaugeOp.labels_set (gauge : Gauge) (labels : PromLabels) (value : Float64) :
    (GaugeOp.set gauge labels value).labels = labels := rfl

@[simp] theorem GaugeOp.labels_delete (gauge : Gauge) (labels : PromLabels) :
    (GaugeOp.delete gauge labels).labels = labels := rfl

/-- The gauge updates a reconciliation of `wpa` can make. -/
inductive Emitted (wpa : WatermarkPodAutoscaler) : GaugeOp → Prop
  /-- A gauge under the object's labels. -/
  | object (gauge : Gauge) (value : Float64) : Emitted wpa (.set gauge wpa.promLabels value)
  /-- A gauge under the object's labels and a metric name. -/
  | metric (gauge : Gauge) (metricName : String) (value : Float64) :
      Emitted wpa (.set gauge (wpa.promLabels ++ [(metricNamePromLabel, metricName)]) value)
  /-- A countdown under the transition labels. -/
  | countdown (transition : String) (value : Float64) :
      Emitted wpa (.set .transitionCountdown (transitionLabels wpa transition) value)
  /-- `restrictedScaling` under a reason; the upscale capping only ever at `1`. -/
  | restricted (reason : String) (value : Float64)
      (capping : reason = upscaleCappingPromLabel → value = .finite 1) :
      Emitted wpa (.set .restrictedScaling (wpa.promLabels ++ [(reasonPromLabel, reason)]) value)
  /-- The delete of a gauge under the object's labels. -/
  | deleteObject (gauge : Gauge) : Emitted wpa (.delete gauge wpa.promLabels)
  /-- The delete of `restrictedScaling` under a reason. -/
  | deleteRestricted (reason : String) :
      Emitted wpa (.delete .restrictedScaling (wpa.promLabels ++ [(reasonPromLabel, reason)]))
  /-- The delete of `value` under the WPA name and the metric name alone. -/
  | deleteValue (metricName : String) :
      Emitted wpa
        (.delete .value [(wpaNamePromLabel, wpa.name), (metricNamePromLabel, metricName)])

attribute [simp] Emitted.object Emitted.metric Emitted.countdown Emitted.deleteObject
  Emitted.deleteRestricted Emitted.deleteValue

section

variable {wpa : WatermarkPodAutoscaler}

@[simp] theorem Emitted.downscaleCapping (value : Float64) :
    Emitted wpa (.set .restrictedScaling
      (wpa.promLabels ++ [(reasonPromLabel, downscaleCappingPromLabel)]) value) :=
  .restricted _ value (absurd · (by decide))

@[simp] theorem Emitted.withinBounds (value : Float64) :
    Emitted wpa (.set .restrictedScaling (wpa.promLabels ++ [(reasonPromLabel, "within_bounds")])
      value) :=
  .restricted _ value (absurd · (by decide))

@[simp] theorem Emitted.upscaleCapping :
    Emitted wpa (.set .restrictedScaling
      (wpa.promLabels ++ [(reasonPromLabel, upscaleCappingPromLabel)]) (.finite 1)) :=
  .restricted _ _ fun _ => rfl

/-- Every update names the object and its target only. -/
theorem Emitted.namesOnly {op : GaugeOp} (emitted : Emitted wpa op) :
    NamesOnly wpa.promLabels op.labels := by
  cases emitted <;>
    simp [namesOnly_append, namesOnly_cons, transitionLabels, WatermarkPodAutoscaler.promLabels,
      reasonPromLabel, metricNamePromLabel, transitionPromLabel, wpaNamePromLabel,
      resourceNamespacePromLabel, resourceNamePromLabel, resourceKindPromLabel]

/-- A series with the upscale capping reason is only ever set to `1`. -/
theorem Emitted.upscaleCapping_one {gauge : Gauge} {labels : PromLabels} {value : Float64}
    (emitted : Emitted wpa (.set gauge labels value))
    (capped : (reasonPromLabel, upscaleCappingPromLabel) ∈ labels) : value = .finite 1 := by
  cases emitted with
  | restricted reason value capping =>
      simp only [List.mem_append, List.mem_singleton, Prod.mk.injEq, true_and] at capped
      rcases capped with listed | rfl
      · simp [WatermarkPodAutoscaler.promLabels, reasonPromLabel, wpaNamePromLabel,
          resourceNamespacePromLabel, resourceNamePromLabel, resourceKindPromLabel] at listed
      · exact capping rfl
  | _ =>
      simp [transitionLabels, WatermarkPodAutoscaler.promLabels, reasonPromLabel,
        metricNamePromLabel, transitionPromLabel, wpaNamePromLabel, resourceNamespacePromLabel,
        resourceNamePromLabel, resourceKindPromLabel] at capped

/-- A change of conditions keeps what a reconciliation of the object can update. -/
theorem Emitted.of_conditionsOnly {after : WatermarkPodAutoscaler} (changed : ConditionsOnly wpa after)
    {op : GaugeOp} (emitted : Emitted after op) : Emitted wpa op := by
  rw [changed] at emitted
  cases emitted with
  | object gauge value => exact .object gauge value
  | metric gauge metricName value => exact .metric gauge metricName value
  | countdown transition value => exact .countdown transition value
  | restricted reason value capping => exact .restricted reason value capping
  | deleteObject gauge => exact .deleteObject gauge
  | deleteRestricted reason => exact .deleteRestricted reason
  | deleteValue metricName => exact .deleteValue metricName

end

/-- Every gauge update among the effects is one `allowed` admits. -/
def GaugesOnly (allowed : GaugeOp → Prop) (effects : List Effect) : Prop :=
  ∀ op, Effect.gauge op ∈ effects → allowed op

section

variable {allowed : GaugeOp → Prop} {effects effects' : List Effect}

@[simp] theorem gaugesOnly_nil : GaugesOnly allowed [] := nofun

@[simp] theorem gaugesOnly_append :
    GaugesOnly allowed (effects ++ effects') ↔
      GaugesOnly allowed effects ∧ GaugesOnly allowed effects' := by
  simp only [GaugesOnly, List.mem_append, or_imp, forall_and]

@[simp] theorem gaugesOnly_cons (effect : Effect) :
    GaugesOnly allowed (effect :: effects) ↔
      (∀ op, effect = .gauge op → allowed op) ∧ GaugesOnly allowed effects := by
  simp only [GaugesOnly, List.mem_cons, or_imp, forall_and, eq_comm]

@[simp] theorem gaugesOnly_map_gauge (ops : List GaugeOp) :
    GaugesOnly allowed (ops.map Effect.gauge) ↔ ∀ op ∈ ops, allowed op := by
  simp [GaugesOnly]

end

theorem GaugesOnly.of_conditionsOnly {wpa after : WatermarkPodAutoscaler} {effects : List Effect}
    (changed : ConditionsOnly wpa after) (emitted : GaugesOnly (Emitted after) effects) :
    GaugesOnly (Emitted wpa) effects :=
  fun op listed => (emitted op listed).of_conditionsOnly changed

/-- A calculator makes only the gauge updates of a reconciliation of the object it computes for. -/
def ReplicaCalculatorItf.Emits (replicaCalc : ReplicaCalculatorItf) : Prop :=
  ∀ (scale : Scale) (metricSpec : MetricSpec) (wpa : WatermarkPodAutoscaler),
    (∀ op ∈ (replicaCalc.getExternalMetricReplicas scale metricSpec wpa).2, Emitted wpa op) ∧
    ∀ op ∈ (replicaCalc.getResourceReplicas scale metricSpec wpa).2, Emitted wpa op

theorem getReplicaCount_emitted (platform : Platform) (currentReplicas : Int32)
    (wpa : WatermarkPodAutoscaler) (name : String) (adjustedUsage : Float64)
    (lowMark highMark : Int64) :
    ∀ op ∈ (getReplicaCount platform currentReplicas wpa name adjustedUsage lowMark highMark).2,
      Emitted wpa op := by
  unfold getReplicaCount
  split_ifs <;> simp

theorem fetchErrorDeletes_emitted (wpa : WatermarkPodAutoscaler) (metricName : String) :
    ∀ op ∈ fetchErrorDeletes wpa metricName, Emitted wpa op := by
  simp [fetchErrorDeletes]

/-- A reading's failure makes only the object's gauge updates. -/
def Reading.Emits (wpa : WatermarkPodAutoscaler) (reading : Reading) : Prop :=
  ∀ err gauges, reading = .failed err gauges → ∀ op ∈ gauges, Emitted wpa op

theorem Reading.propose_emitted {platform : Platform} {wpa : WatermarkPodAutoscaler}
    {reading : Reading} (emits : reading.Emits wpa) :
    ∀ op ∈ (reading.propose platform wpa).2, Emitted wpa op := by
  rcases reading with ⟨name, _ | lowMark, _ | highMark, adjustedUsage, base, timestamp⟩ | ⟨err, gauges⟩ | _
  all_goals simp only [Reading.propose, proposeFor, List.not_mem_nil, false_implies, implies_true]
  · exact getReplicaCount_emitted _ _ _ _ _ _ _
  · exact emits err gauges rfl

theorem ReplicaCalculator.externalReading_emits (calculator : ReplicaCalculator) (target : Scale)
    (metric : MetricSpec) (wpa : WatermarkPodAutoscaler) :
    (calculator.externalReading target metric wpa).Emits wpa := by
  intro err gauges failed
  unfold externalReading at failed
  repeat' split at failed
  all_goals simp only [reduceCtorEq, Reading.failed.injEq] at failed
  all_goals obtain ⟨-, rfl⟩ := failed
  · simp
  · simp
  · exact fetchErrorDeletes_emitted _ _

theorem ReplicaCalculator.resourceReading_emits (calculator : ReplicaCalculator) (target : Scale)
    (metric : MetricSpec) (wpa : WatermarkPodAutoscaler) :
    (calculator.resourceReading target metric wpa).Emits wpa := by
  intro err gauges failed
  unfold resourceReading at failed
  repeat' split at failed
  all_goals simp only [reduceCtorEq, Reading.failed.injEq] at failed
  all_goals obtain ⟨-, rfl⟩ := failed
  · simp
  · exact fetchErrorDeletes_emitted _ _
  · simp

theorem ReplicaCalculator.toItf_emits (calculator : ReplicaCalculator) (platform : Platform) :
    (calculator.toItf platform).Emits := fun _ _ _ =>
  ⟨Reading.propose_emitted (calculator.externalReading_emits _ _ _),
    Reading.propose_emitted (calculator.resourceReading_emits _ _ _)⟩

section

variable {replicaCalc : ReplicaCalculatorItf} (emits : replicaCalc.Emits)

theorem evaluateSource_emitted (now : ℤ) (wpa : WatermarkPodAutoscaler)
    (failure conditionMessage errorPrefix name : String) (selector : LabelSelector)
    (lowMark highMark : Int64) (status : Int64 → MetricStatus)
    (calculation : Outcome (Except String ReplicaCalculation) × List GaugeOp)
    (calculated : ∀ op ∈ calculation.2, Emitted wpa op) :
    GaugesOnly (Emitted wpa) (evaluateSource now wpa failure conditionMessage
      errorPrefix name selector lowMark highMark status calculation).2.2 := by
  unfold evaluateSource watermarkGauges
  split <;> simpa using calculated

include emits

theorem evaluateMetric_emitted (now : ℤ) (scale : Scale) (wpa : WatermarkPodAutoscaler)
    (metricSpec : MetricSpec) :
    GaugesOnly (Emitted wpa) (evaluateMetric replicaCalc now scale wpa metricSpec).2.2 := by
  unfold evaluateMetric missingWatermark
  split_ifs <;> (repeat' split) <;>
    first
      | exact gaugesOnly_nil
      | simp
      | exact evaluateSource_emitted _ _ _ _ _ _ _ _ _ _ _ (emits _ _ _).1
      | exact evaluateSource_emitted _ _ _ _ _ _ _ _ _ _ _ (emits _ _ _).2

theorem metricsLoop_emitted (now : ℤ) (scale : Scale) :
    ∀ (metricSpecs : List MetricSpec) (wpa : WatermarkPodAutoscaler) (index : ℕ)
      (accumulator : MetricsAccumulator),
      GaugesOnly (Emitted wpa)
        (metricsLoop replicaCalc now scale wpa index metricSpecs accumulator).2.2
  | [], _, _, _ => gaugesOnly_nil
  | metricSpec :: rest, wpa, index, accumulator => by
      have first := evaluateMetric_emitted emits now scale wpa metricSpec
      have later := fun next => GaugesOnly.of_conditionsOnly
        (evaluateMetric_reportsOnly replicaCalc now scale wpa metricSpec).1
        (metricsLoop_emitted now scale rest _ (index + 1) next)
      simp only [metricsLoop]
      split
      · exact gaugesOnly_append.mpr ⟨first, later _⟩
      · exact gaugesOnly_append.mpr ⟨first, later _⟩
      · exact first
      · exact first

theorem computeReplicasForMetrics_emitted (now : ℤ) (wpa : WatermarkPodAutoscaler)
    (scale : Scale) :
    GaugesOnly (Emitted wpa) (computeReplicasForMetrics replicaCalc now wpa scale).2.2 := by
  have loop := metricsLoop_emitted emits now scale wpa.spec.metrics wpa 0
    ⟨0, "", List.replicate wpa.spec.metrics.length MetricStatus.zero, 0⟩
  unfold computeReplicasForMetrics
  dsimp only
  split <;> simpa using loop

end

theorem minimumAllowed_emitted (wpa : WatermarkPodAutoscaler)
    (scaleDownLimit desiredReplicas wpaMinReplicas : Int32) :
    ∀ op ∈ (minimumAllowed wpa scaleDownLimit desiredReplicas wpaMinReplicas).2, Emitted wpa op := by
  unfold minimumAllowed
  split_ifs <;> simp

theorem maximumAllowed_emitted (wpa : WatermarkPodAutoscaler)
    (scaleUpLimit desiredReplicas wpaMaxReplicas : Int32) :
    Emitted wpa (maximumAllowed wpa scaleUpLimit desiredReplicas wpaMaxReplicas).2 := by
  unfold maximumAllowed
  split_ifs <;> simp

theorem convertDesiredReplicasWithRules_emitted (platform : Platform)
    (wpa : WatermarkPodAutoscaler)
    (currentReplicas desiredReplicas wpaMinReplicas wpaMaxReplicas : Int32) :
    ∀ op ∈ (convertDesiredReplicasWithRules platform wpa currentReplicas desiredReplicas
      wpaMinReplicas wpaMaxReplicas).2, Emitted wpa op := by
  have lower := minimumAllowed_emitted wpa (calculateScaleDownLimit platform wpa currentReplicas)
    desiredReplicas wpaMinReplicas
  have upper := maximumAllowed_emitted wpa (calculateScaleUpLimit platform wpa currentReplicas)
    desiredReplicas wpaMaxReplicas
  have both := List.forall_mem_append.mpr ⟨lower, List.forall_mem_singleton.mpr upper⟩
  unfold convertDesiredReplicasWithRules
  dsimp only
  split_ifs
  · exact lower
  · exact both
  · exact both

theorem normalizeDesiredReplicas_emitted (platform : Platform) (now : ℤ)
    (wpa : WatermarkPodAutoscaler) (currentReplicas prenormalizedDesiredReplicas : Int32) :
    ∀ op ∈ (normalizeDesiredReplicas platform now wpa currentReplicas
      prenormalizedDesiredReplicas).2.2, Emitted wpa op :=
  convertDesiredReplicasWithRules_emitted _ _ _ _ _ _

theorem shouldScale_emitted (now : ℤ) (wpa : WatermarkPodAutoscaler)
    (currentReplicas desiredReplicas : Int32) (timestamp : ℤ) :
    ∀ op ∈ (shouldScale now wpa currentReplicas desiredReplicas timestamp).2.2, Emitted wpa op := by
  unfold shouldScale
  split <;> simp [countdownGauge]

theorem updateStatusIfNeeded_gaugesOnly (allowed : GaugeOp → Prop) (cluster : Cluster)
    (wpaStatus : WatermarkPodAutoscalerStatus) (wpa : WatermarkPodAutoscaler) :
    GaugesOnly allowed (updateStatusIfNeeded cluster wpaStatus wpa).2 := by
  unfold updateStatusIfNeeded
  split <;> simp

@[simp] theorem setStatus_promLabels (now : ℤ) (wpa : WatermarkPodAutoscaler)
    (currentReplicas desiredReplicas : Int32) (metricStatuses : List MetricStatus)
    (rescale : Bool) :
    (setStatus now wpa currentReplicas desiredReplicas metricStatuses rescale).promLabels =
      wpa.promLabels := rfl

@[simp] theorem setCondition_promLabels (now : ℤ) (wpa : WatermarkPodAutoscaler)
    (conditionType status reason message : String) :
    (setCondition now wpa conditionType status reason message).promLabels = wpa.promLabels := rfl

theorem finishReconcile_emitted (cluster : Cluster)
    (wpaStatusOriginal : WatermarkPodAutoscalerStatus) (targetGR : GroupResource)
    (currentReplicas : Int32) (rescale : Bool) (desiredReplicas : Int32)
    (metricStatuses : List MetricStatus) {before : WatermarkPodAutoscaler}
    (wpa : WatermarkPodAutoscaler) (changed : ConditionsOnly before wpa) {effects : List Effect}
    (prior : GaugesOnly (Emitted before) effects) :
    GaugesOnly (Emitted before) (finishReconcile cluster wpaStatusOriginal targetGR
      currentReplicas rescale desiredReplicas metricStatuses wpa effects).2.2 := by
  have published := changed.promLabels_eq
  unfold finishReconcile completeReconcile setCurrentReplicasInStatus
  cases rescale
  · simp [prior, published, updateStatusIfNeeded_gaugesOnly]
  · simp only [↓reduceIte]
    split_ifs
    · simp [prior, updateStatusIfNeeded_gaugesOnly]
    · split
      · split <;> simp [prior, updateStatusIfNeeded_gaugesOnly]
      · simp [prior, published, updateStatusIfNeeded_gaugesOnly]

section

variable {replicaCalc : ReplicaCalculatorItf} (emits : replicaCalc.Emits)

include emits

theorem metricDriven_emitted (platform : Platform) (cluster : Cluster)
    (wpaStatusOriginal : WatermarkPodAutoscalerStatus) (targetGR : GroupResource)
    (currentScale : Scale) (wpa : WatermarkPodAutoscaler) :
    GaugesOnly (Emitted wpa) (metricDriven platform replicaCalc cluster wpaStatusOriginal
      targetGR currentScale wpa).2.2 := by
  have computed := computeReplicasForMetrics_emitted emits cluster.now wpa currentScale
  have reports := computeReplicasForMetrics_reportsOnly replicaCalc cluster.now wpa currentScale
  unfold metricDriven
  dsimp only
  split
  · exact computed
  · split <;> simp [computed, updateStatusIfNeeded_gaugesOnly]
  · -- The pipeline's updates, then the decision's, all of objects with the same labels.
    refine finishReconcile_emitted _ _ _ _ _ _ _ _
      ((reports.1.trans (normalizeDesiredReplicas_conditionsOnly ..)).trans
        (shouldScale_conditionsOnly ..)) ?_
    simp only [gaugesOnly_append, gaugesOnly_map_gauge]
    exact ⟨⟨computed, fun op listed =>
        (normalizeDesiredReplicas_emitted _ _ _ _ _ op listed).of_conditionsOnly reports.1⟩,
      fun op listed => (shouldScale_emitted _ _ _ _ _ op listed).of_conditionsOnly
        (reports.1.trans (normalizeDesiredReplicas_conditionsOnly ..))⟩

theorem reconcileScale_emitted (platform : Platform) (cluster : Cluster)
    (targetGR : GroupResource) (currentScale : Scale) (wpa : WatermarkPodAutoscaler) :
    GaugesOnly (Emitted wpa)
      (reconcileScale platform replicaCalc cluster targetGR currentScale wpa).2.2 := by
  have found := setCondition_conditionsOnly cluster.now wpa ableToScale conditionTrue
    "SucceededGetScale" "the WPA controller was able to get the target's current scale"
  unfold reconcileScale
  dsimp only
  split_ifs
  · exact finishReconcile_emitted _ _ _ _ _ _ _ _
      (found.trans (setCondition_conditionsOnly ..)) gaugesOnly_nil
  · split
    · exact finishReconcile_emitted _ _ _ _ _ _ _ _ found gaugesOnly_nil
    · exact GaugesOnly.of_conditionsOnly found (metricDriven_emitted emits _ _ _ _ _ _)

theorem reconcileWPA_emitted (platform : Platform) (cluster : Cluster)
    (wpa : WatermarkPodAutoscaler) :
    GaugesOnly (Emitted wpa) (reconcileWPA platform replicaCalc cluster wpa).2.2 := by
  unfold reconcileWPA
  split
  · exact gaugesOnly_nil
  · exact reconcileScale_emitted emits _ _ _ _ _

end

/-- A reconciliation makes only the gauge updates of the catalogue, for the object it
reconciles. -/
theorem Reconcile_emitted (platform : Platform) (calculator : ReplicaCalculator)
    (defaulting : Defaulting) (cluster : Cluster) (wpaInstance : WatermarkPodAutoscaler) :
    GaugesOnly (Emitted wpaInstance)
      (Reconcile platform (calculator.toItf platform) defaulting cluster wpaInstance).2.2 := by
  have reconciled := GaugesOnly.of_conditionsOnly
    (withDryRunCondition_conditionsOnly cluster.now wpaInstance)
    (reconcileWPA_emitted (calculator.toItf_emits platform) platform cluster
      (withDryRunCondition cluster.now wpaInstance))
  unfold Reconcile
  split
  · exact gaugesOnly_nil
  · exact gaugesOnly_nil
  · split_ifs
    · split <;> simp
    · split
      · dsimp only
        split <;> simp [updateStatusIfNeeded_gaugesOnly]
      · dsimp only
        split <;> simp [reconciled]

end Wpa
