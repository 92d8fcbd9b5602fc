import WatermarkPodAutoscaler.Run
import WatermarkPodAutoscaler.StatusCalls

/-!
# Condition types along runs

A reconciliation changes the object's conditions only through `setCondition` and `setStatus`:
the metric pipeline's `ScalingActive`, the normalizer's `ScalingLimited`, the gate's back-off,
the outcome of the scale write, and `Reconcile`'s `DryRun`, `FailedSpecCheck` and
`FailedProcessWPA`, each at the reconciliation's clock and of one of the four types the
controller sets (`controllerConditionTypes`). `ByCalls` says that of an object, and `CallsOnly`
of the object a step leaves and of every status it writes; a property every such call keeps holds
along every run (`runObject_holds`). Those calls keep the condition types distinct
(`statusCalls_distinct`), so along every run from an object whose condition types are distinct,
the object the server holds and every status written keep them distinct.
-/

namespace Wpa

/-- The clock a call reads. -/
def StatusCall.now : StatusCall → ℤ
  | .setCondition now .. => now
  | .setStatus now .. => now

/-- The condition types the controller sets: `AbleToScale`, `ScalingActive`, `ScalingLimited`
and `DryRun`. -/
def controllerConditionTypes : List String :=
  [ableToScale, scalingActive, scalingLimited, dryRunCondition]

/-- A call the controller makes: a `setCondition` sets one of the controller's types. -/
def StatusCall.Controlled : StatusCall → Prop
  | .setCondition _ conditionType .. => conditionType ∈ controllerConditionTypes
  | .setStatus .. => True

/-- `after` is `before` after a sequence of the controller's `setCondition` and `setStatus` calls,
all at the clock `now`. -/
def ByCalls (now : ℤ) (before after : WatermarkPodAutoscaler) : Prop :=
  ∃ calls : List StatusCall, (∀ call ∈ calls, call.now = now ∧ call.Controlled) ∧
    after = calls.foldl StatusCall.apply before

namespace ByCalls

variable {now : ℤ} {before middle after : WatermarkPodAutoscaler}

@[refl] theorem refl (wpa : WatermarkPodAutoscaler) : ByCalls now wpa wpa :=
  ⟨[], fun _ absent => absurd absent (List.not_mem_nil _), rfl⟩

@[trans] theorem trans (first : ByCalls now before middle) (second : ByCalls now middle after) :
    ByCalls now before after := by
  obtain ⟨calls, clock, rfl⟩ := first
  obtain ⟨calls', clock', rfl⟩ := second
  exact ⟨calls ++ calls', List.forall_mem_append.mpr ⟨clock, clock'⟩, (List.foldl_append ..).symm⟩

theorem setCondition {conditionType : String} (controlled : conditionType ∈ controllerConditionTypes)
    (now : ℤ) (wpa : WatermarkPodAutoscaler) (status reason message : String) :
    ByCalls now wpa (Wpa.setCondition now wpa conditionType status reason message) :=
  ⟨[.setCondition now conditionType status reason message],
    List.forall_mem_singleton.mpr ⟨rfl, controlled⟩, rfl⟩

theorem setStatus (now : ℤ) (wpa : WatermarkPodAutoscaler) (currentReplicas desiredReplicas : Int32)
    (metricStatuses : List MetricStatus) (rescale : Bool) :
    ByCalls now wpa (Wpa.setStatus now wpa currentReplicas desiredReplicas metricStatuses rescale) :=
  ⟨[.setStatus now currentReplicas desiredReplicas metricStatuses rescale],
    List.forall_mem_singleton.mpr ⟨rfl, trivial⟩, rfl⟩

theorem setCurrentReplicasInStatus (now : ℤ) (wpa : WatermarkPodAutoscaler)
    (currentReplicas : Int32) :
    ByCalls now wpa (Wpa.setCurrentReplicasInStatus now wpa currentReplicas) :=
  setStatus ..

theorem distinct (reached : ByCalls now before after) (distinct : DistinctConditions before) :
    DistinctConditions after := by
  obtain ⟨calls, -, rfl⟩ := reached
  exact statusCalls_distinct calls distinct

/-- A property that every call of the controller at the clock keeps holds after the calls. -/
theorem holds_of_keeps (holds : WatermarkPodAutoscaler → Prop)
    (keeps : ∀ (call : StatusCall) (wpa : WatermarkPodAutoscaler), call.now = now → call.Controlled →
      holds wpa → holds (call.apply wpa))
    (reached : ByCalls now before after) (start : holds before) : holds after := by
  obtain ⟨calls, controlled, rfl⟩ := reached
  induction calls generalizing before with
  | nil => exact start
  | cons call calls ih =>
      rw [List.forall_mem_cons] at controlled
      exact ih (keeps call before controlled.1.1 controlled.1.2 start) controlled.2

end ByCalls

/-- What a step does to the conditions: the object it leaves, and every status it writes, is the
object it was given after `setCondition` and `setStatus` calls. -/
def CallsOnly (now : ℤ) (wpa : WatermarkPodAutoscaler)
    (result : WatermarkPodAutoscaler × List Effect) : Prop :=
  ByCalls now wpa result.1 ∧
    ∀ status, Effect.updateStatus status ∈ result.2 →
      ∃ written, ByCalls now wpa written ∧ written.status = status

namespace CallsOnly

variable {now : ℤ} {wpa middle after : WatermarkPodAutoscaler} {effects effects' : List Effect}

theorem of_noStatus (reached : ByCalls now wpa after)
    (noStatus : ∀ status, Effect.updateStatus status ∉ effects) : CallsOnly now wpa (after, effects) :=
  ⟨reached, fun status written => absurd written (noStatus status)⟩

theorem of_reports (reached : ByCalls now wpa after)
    (reports : ∀ effect ∈ effects, effect.isReport) : CallsOnly now wpa (after, effects) :=
  of_noStatus reached fun _ written => by simpa using reports _ written

/-- A step from an object the calls reach. -/
theorem of_byCalls (reached : ByCalls now wpa middle)
    {result : WatermarkPodAutoscaler × List Effect} (step : CallsOnly now middle result) :
    CallsOnly now wpa result := by
  refine ⟨reached.trans step.1, fun status written => ?_⟩
  obtain ⟨object, reachedObject, rfl⟩ := step.2 status written
  exact ⟨object, reached.trans reachedObject, rfl⟩

/-- A step from the object another step leaves. -/
theorem append (first : CallsOnly now wpa (middle, effects))
    (second : CallsOnly now middle (after, effects')) :
    CallsOnly now wpa (after, effects ++ effects') := by
  refine ⟨first.1.trans second.1, fun status written => ?_⟩
  rcases List.mem_append.mp written with early | late
  · exact first.2 status early
  · exact (of_byCalls first.1 second).2 status late

/-- Calls after a step. -/
theorem then_byCalls (step : CallsOnly now wpa (middle, effects))
    (reached : ByCalls now middle after) : CallsOnly now wpa (after, effects) :=
  ⟨step.1.trans reached, step.2⟩

/-- Calls after a step, with effects that write no status. -/
theorem then_calls (step : CallsOnly now wpa (middle, effects))
    (reached : ByCalls now middle after) (noStatus : ∀ status, Effect.updateStatus status ∉ effects') :
    CallsOnly now wpa (after, effects ++ effects') :=
  step.append (of_noStatus reached noStatus)

/-- A property of statuses that every call of the controller at the clock keeps holds of the
object a step leaves and of every status it writes. -/
theorem holds_of_keeps (holds : WatermarkPodAutoscalerStatus → Prop)
    (keeps : ∀ (call : StatusCall) (wpa : WatermarkPodAutoscaler), call.now = now →
      call.Controlled → holds wpa.status → holds (call.apply wpa).status)
    {result : WatermarkPodAutoscaler × List Effect} (step : CallsOnly now wpa result)
    (start : holds wpa.status) :
    holds result.1.status ∧ ∀ status, Effect.updateStatus status ∈ result.2 → holds status := by
  have lifted := fun {after : WatermarkPodAutoscaler} (reached : ByCalls now wpa after) =>
    reached.holds_of_keeps (fun wpa => holds wpa.status) keeps start
  refine ⟨lifted step.1, fun status written => ?_⟩
  obtain ⟨object, reached, rfl⟩ := step.2 status written
  exact lifted reached

/-- The object a step leaves, and every status it writes, keep distinct condition types. -/
theorem distinct {result : WatermarkPodAutoscaler × List Effect} (step : CallsOnly now wpa result)
    (distinct : DistinctConditions wpa) :
    DistinctConditions result.1 ∧ ∀ status, Effect.updateStatus status ∈ result.2 →
      (status.conditions.map Condition.type).Nodup := by
  refine ⟨step.1.distinct distinct, fun status written => ?_⟩
  obtain ⟨object, reached, rfl⟩ := step.2 status written
  exact reached.distinct distinct

end CallsOnly

theorem evaluateSource_byCalls (now : ℤ) (wpa : WatermarkPodAutoscaler)
    (failure conditionMessage errorPrefix name : String) (selector : LabelSelector)
    (lowMark highMark : Int64) (status : Int64 → MetricStatus)
    (calculation : Outcome (Except String ReplicaCalculation) × List GaugeOp) :
    ByCalls now wpa (evaluateSource now wpa failure conditionMessage errorPrefix name selector
      lowMark highMark status calculation).2.1 := by
  unfold evaluateSource
  split
  · rfl
  · exact .setCondition (by decide) ..
  · rfl

theorem evaluateMetric_byCalls (replicaCalc : ReplicaCalculatorItf) (now : ℤ) (scale : Scale)
    (wpa : WatermarkPodAutoscaler) (metricSpec : MetricSpec) :
    ByCalls now wpa (evaluateMetric replicaCalc now scale wpa metricSpec).2.1 := by
  unfold evaluateMetric missingWatermark
  split_ifs <;> (repeat' split) <;>
    first | exact .refl wpa | exact .setCondition (by decide) .. | exact evaluateSource_byCalls ..

theorem metricsLoop_byCalls (replicaCalc : ReplicaCalculatorItf) (now : ℤ) (scale : Scale) :
    ∀ (metricSpecs : List MetricSpec) (wpa : WatermarkPodAutoscaler) (index : ℕ)
      (accumulator : MetricsAccumulator),
      ByCalls now wpa (metricsLoop replicaCalc now scale wpa index metricSpecs accumulator).2.1
  | [], wpa, _, _ => .refl wpa
  | metricSpec :: rest, wpa, index, accumulator => by
      have first := evaluateMetric_byCalls replicaCalc now scale wpa metricSpec
      simp only [metricsLoop]
      split
      · exact first.trans (metricsLoop_byCalls replicaCalc now scale rest _ _ _)
      · exact first.trans (metricsLoop_byCalls replicaCalc now scale rest _ _ _)
      · exact first
      · exact first

theorem computeReplicasForMetrics_callsOnly (replicaCalc : ReplicaCalculatorItf) (now : ℤ)
    (wpa : WatermarkPodAutoscaler) (scale : Scale) :
    CallsOnly now wpa (computeReplicasForMetrics replicaCalc now wpa scale).2 := by
  have loop := metricsLoop_byCalls replicaCalc now scale wpa.spec.metrics wpa 0
    ⟨0, "", List.replicate wpa.spec.metrics.length MetricStatus.zero, 0⟩
  refine .of_reports ?_ (computeReplicasForMetrics_reportsOnly replicaCalc now wpa scale).2
  unfold computeReplicasForMetrics
  dsimp only
  split
  · exact loop.trans (.setCondition (by decide) ..)
  · exact loop

theorem normalizeDesiredReplicas_byCalls (platform : Platform) (now : ℤ)
    (wpa : WatermarkPodAutoscaler) (currentReplicas prenormalizedDesiredReplicas : Int32) :
    ByCalls now wpa
      (normalizeDesiredReplicas platform now wpa currentReplicas prenormalizedDesiredReplicas).2.1 :=
  .setCondition (by decide) ..

theorem shouldScale_byCalls (now : ℤ) (wpa : WatermarkPodAutoscaler)
    (currentReplicas desiredReplicas : Int32) (timestamp : ℤ) :
    ByCalls now wpa (shouldScale now wpa currentReplicas desiredReplicas timestamp).2.1 := by
  unfold shouldScale
  split
  · rfl
  · dsimp only
    split_ifs <;>
      first | exact .refl wpa | exact .setCondition (by decide) .. |
        exact (ByCalls.setCondition (by decide) ..).trans (.setCondition (by decide) ..)

section

variable (cluster : Cluster) (wpaStatusOriginal : WatermarkPodAutoscalerStatus)

/-- A status write sends the status of the object it is given. -/
theorem updateStatusIfNeeded_callsOnly {now : ℤ} {before written : WatermarkPodAutoscaler}
    {effects : List Effect} (prior : CallsOnly now before (written, effects)) :
    CallsOnly now before
      (written, effects ++ (updateStatusIfNeeded cluster wpaStatusOriginal written).2) := by
  refine prior.append ⟨.refl written, fun status sent => ?_⟩
  unfold updateStatusIfNeeded at sent
  split at sent
  · cases sent
  · exact ⟨written, .refl written, (by simpa using sent : status = _).symm⟩

theorem completeReconcile_callsOnly (currentReplicas desiredReplicas : Int32)
    (metricStatuses : List MetricStatus) (rescale : Bool) {before wpa : WatermarkPodAutoscaler}
    {effects : List Effect} (prior : CallsOnly cluster.now before (wpa, effects)) :
    CallsOnly cluster.now before (completeReconcile cluster wpaStatusOriginal currentReplicas desiredReplicas
      metricStatuses rescale wpa effects).2 :=
  updateStatusIfNeeded_callsOnly cluster wpaStatusOriginal (prior.then_calls (.setStatus ..) (by simp))

theorem finishReconcile_callsOnly (targetGR : GroupResource) (currentReplicas : Int32)
    (rescale : Bool) (desiredReplicas : Int32) (metricStatuses : List MetricStatus)
    {before wpa : WatermarkPodAutoscaler} {effects : List Effect}
    (prior : CallsOnly cluster.now before (wpa, effects)) :
    CallsOnly cluster.now before (finishReconcile cluster wpaStatusOriginal targetGR currentReplicas rescale
      desiredReplicas metricStatuses wpa effects).2 := by
  have ready := prior.then_byCalls (@ByCalls.setCondition ableToScale (by decide) cluster.now wpa
    conditionTrue "ReadyForScale" "the last scaling time was sufficiently old as to warrant a new scale")
  unfold finishReconcile
  cases rescale
  · exact completeReconcile_callsOnly cluster wpaStatusOriginal _ _ _ _
      (prior.then_calls (.refl wpa) (by simp))
  · simp only [↓reduceIte]
    split_ifs
    · exact updateStatusIfNeeded_callsOnly cluster wpaStatusOriginal (ready.then_byCalls (.setStatus ..))
    · split
      · -- The scale write fails: `FailedUpdateScale`, then the status write.
        split
        · exact (updateStatusIfNeeded_callsOnly cluster wpaStatusOriginal
            ((ready.then_calls ((ByCalls.setCondition (by decide) ..).trans
              (.setCurrentReplicasInStatus ..)) (by simp)).then_calls (.refl _) (by simp))).then_calls
            (.setCondition (by decide) ..) (by simp)
        · exact updateStatusIfNeeded_callsOnly cluster wpaStatusOriginal
            ((ready.then_calls ((ByCalls.setCondition (by decide) ..).trans
              (.setCurrentReplicasInStatus ..)) (by simp)).then_calls (.refl _) (by simp))
      · exact completeReconcile_callsOnly cluster wpaStatusOriginal _ _ _ _
          ((ready.then_calls (.setCondition (by decide) ..) (by simp)).then_calls (.refl _) (by simp))

theorem metricDriven_callsOnly (platform : Platform) (replicaCalc : ReplicaCalculatorItf)
    (targetGR : GroupResource) (currentScale : Scale) (wpa : WatermarkPodAutoscaler) :
    CallsOnly cluster.now wpa (metricDriven platform replicaCalc cluster wpaStatusOriginal targetGR currentScale
      wpa).2 := by
  have computed := computeReplicasForMetrics_callsOnly replicaCalc cluster.now wpa currentScale
  unfold metricDriven
  dsimp only
  split
  · exact computed
  · -- The pipeline fails: the count, then the status write.
    split
    · exact (updateStatusIfNeeded_callsOnly cluster wpaStatusOriginal
        (computed.then_byCalls (.setCurrentReplicasInStatus ..))).then_calls (.setCondition (by decide) ..)
          (by simp)
    · exact (updateStatusIfNeeded_callsOnly cluster wpaStatusOriginal
        (computed.then_byCalls (.setCurrentReplicasInStatus ..))).then_calls (.refl _) (by simp)
  · exact finishReconcile_callsOnly cluster wpaStatusOriginal _ _ _ _ _
      ((computed.then_calls (normalizeDesiredReplicas_byCalls ..) (by simp)).then_calls
        (shouldScale_byCalls ..) (by simp))

theorem reconcileScale_callsOnly (platform : Platform) (replicaCalc : ReplicaCalculatorItf)
    (targetGR : GroupResource) (currentScale : Scale) (wpa : WatermarkPodAutoscaler) :
    CallsOnly cluster.now wpa (reconcileScale platform replicaCalc cluster targetGR currentScale wpa).2 := by
  have found := @ByCalls.setCondition ableToScale (by decide) cluster.now wpa conditionTrue
    "SucceededGetScale" "the WPA controller was able to get the target's current scale"
  unfold reconcileScale
  dsimp only
  split_ifs
  · exact finishReconcile_callsOnly cluster wpa.status _ _ _ _ _
      (.of_noStatus (found.trans (.setCondition (by decide) ..)) (by simp))
  · split
    · exact finishReconcile_callsOnly cluster wpa.status _ _ _ _ _ (.of_noStatus found (by simp))
    · exact .of_byCalls found (metricDriven_callsOnly ..)

end

theorem reconcileWPA_callsOnly (platform : Platform) (replicaCalc : ReplicaCalculatorItf)
    (cluster : Cluster) (wpa : WatermarkPodAutoscaler) :
    CallsOnly cluster.now wpa (reconcileWPA platform replicaCalc cluster wpa).2 := by
  unfold reconcileWPA
  split
  · exact .of_noStatus (.refl wpa) (by simp)
  · exact reconcileScale_callsOnly ..

theorem withDryRunCondition_byCalls (now : ℤ) (wpaInstance : WatermarkPodAutoscaler) :
    ByCalls now wpaInstance (withDryRunCondition now wpaInstance) := by
  unfold withDryRunCondition
  split <;> exact .setCondition (by decide) ..

/-- `Reconcile` changes the conditions of the object it read only through `setCondition` and
`setStatus`, in memory and in every status it writes. -/
theorem Reconcile_callsOnly (platform : Platform) (replicaCalc : ReplicaCalculatorItf)
    (defaulting : Defaulting) (cluster : Cluster) (wpaInstance : WatermarkPodAutoscaler) :
    CallsOnly cluster.now wpaInstance (Reconcile platform replicaCalc defaulting cluster wpaInstance).2 := by
  unfold Reconcile
  split
  · exact .of_noStatus (.refl wpaInstance) (by simp)
  · exact .of_noStatus (.refl wpaInstance) (by simp)
  · split_ifs
    · split <;> exact .of_noStatus (.refl wpaInstance) (by simp)
    · split
      · -- An invalid spec: `FailedSpecCheck`, then the status write.
        dsimp only
        split
        · exact (updateStatusIfNeeded_callsOnly cluster wpaInstance.status
            (.of_noStatus (.setCondition (by decide) ..) (by simp))).then_calls (.refl _) (by simp)
        · exact updateStatusIfNeeded_callsOnly cluster wpaInstance.status
            (.of_noStatus (.setCondition (by decide) ..) (by simp))
      · dsimp only
        have reconciled := CallsOnly.of_byCalls (withDryRunCondition_byCalls cluster.now wpaInstance)
          (reconcileWPA_callsOnly platform replicaCalc cluster
            (withDryRunCondition cluster.now wpaInstance))
        split
        · exact reconciled.then_calls (.setCondition (by decide) ..) (by simp)
        · exact reconciled

/-- The server keeps distinct condition types when the object it held and every status written
have them. -/
theorem persistedObject_distinct {cluster : Cluster} {wpa : WatermarkPodAutoscaler}
    {effects : List Effect} (distinct : DistinctConditions wpa)
    (written : ∀ status, Effect.updateStatus status ∈ effects →
      (status.conditions.map Condition.type).Nodup) :
    DistinctConditions (persistedObject cluster wpa effects) :=
  persistedObject_status_holds (fun status => (status.conditions.map Condition.type).Nodup)
    cluster wpa effects distinct fun status sent => by
      simpa only [WatermarkPodAutoscalerStatus.stored_types] using written status sent

section

variable (platform : Platform) (defaulting : Defaulting)

/-- A reconciliation of an object with distinct condition types leaves them distinct in memory,
in every status it writes, and in the object the server keeps. -/
theorem reconcileStep_distinct {wpa : WatermarkPodAutoscaler} (observation : Observation)
    (distinct : DistinctConditions wpa) :
    DistinctConditions (Reconcile platform (observation.calculator.toItf platform) defaulting
        observation.cluster wpa).2.1 ∧
      (∀ status, Effect.updateStatus status ∈ (reconcileStep platform defaulting wpa observation).2 →
        (status.conditions.map Condition.type).Nodup) ∧
      DistinctConditions (reconcileStep platform defaulting wpa observation).1 := by
  have step := (Reconcile_callsOnly platform (observation.calculator.toItf platform) defaulting
    observation.cluster wpa).distinct distinct
  exact ⟨step.1, step.2, persistedObject_distinct distinct step.2⟩

/-- A property of statuses that every call of the controller keeps, at any clock, and that the
server's storing keeps, holds of the object the server holds along every run. -/
theorem runObject_holds (holds : WatermarkPodAutoscalerStatus → Prop)
    (keeps : ∀ (call : StatusCall) (wpa : WatermarkPodAutoscaler), call.Controlled →
      holds wpa.status → holds (call.apply wpa).status)
    (storing : ∀ status, holds status → holds status.stored)
    {wpa : WatermarkPodAutoscaler} (start : holds wpa.status) (observations : List Observation) :
    holds (runObject platform defaulting wpa observations).status := by
  induction observations generalizing wpa with
  | nil => exact start
  | cons observation observations ih =>
      have step := (Reconcile_callsOnly platform (observation.calculator.toItf platform) defaulting
        observation.cluster wpa).holds_of_keeps holds (fun call wpa _ => keeps call wpa) start
      exact ih (persistedObject_status_holds holds _ _ _ start
        fun status sent => storing status (step.2 status sent))

/-- Along every run from an object whose condition types are distinct, the object the server
holds keeps them distinct, and so does every reconciliation of it: in memory and in every status
it writes. -/
theorem runObject_keeps_distinct_conditions {wpa : WatermarkPodAutoscaler}
    (distinct : DistinctConditions wpa) (observations : List Observation) :
    DistinctConditions (runObject platform defaulting wpa observations) ∧
      ∀ observation : Observation,
        DistinctConditions (Reconcile platform (observation.calculator.toItf platform) defaulting
            observation.cluster (runObject platform defaulting wpa observations)).2.1 ∧
          ∀ status, Effect.updateStatus status ∈
              (reconcileStep platform defaulting (runObject platform defaulting wpa observations)
                observation).2 →
            (status.conditions.map Condition.type).Nodup := by
  have held : DistinctConditions (runObject platform defaulting wpa observations) := by
    induction observations generalizing wpa with
    | nil => exact distinct
    | cons observation observations ih =>
        exact ih (reconcileStep_distinct platform defaulting observation distinct).2.2
  exact ⟨held, fun observation =>
    (reconcileStep_distinct platform defaulting observation held).imp_right And.left⟩

end

/-- From the object holding `AbleToScale` and `ScalingActive`, after a reconciliation that scales
the target, the condition types stay distinct. -/
theorem runObject_keeps_distinct_conditions_after_scaling :
    DistinctConditions twoConditionWpa ∧
      DistinctConditions (runObject .amd64 exampleDefaulting twoConditionWpa [scaledObservation]) ∧
        ∀ observation : Observation,
          DistinctConditions (Reconcile .amd64 (observation.calculator.toItf .amd64)
              exampleDefaulting observation.cluster
              (runObject .amd64 exampleDefaulting twoConditionWpa [scaledObservation])).2.1 ∧
            ∀ status, Effect.updateStatus status ∈
                (reconcileStep .amd64 exampleDefaulting
                  (runObject .amd64 exampleDefaulting twoConditionWpa [scaledObservation])
                  observation).2 →
              (status.conditions.map Condition.type).Nodup :=
  ⟨by decide, runObject_keeps_distinct_conditions .amd64 exampleDefaulting (by decide) _⟩

end Wpa
