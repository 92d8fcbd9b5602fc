import WatermarkPodAutoscaler.Bounds

/-!
# What a reconciliation persists

A reconciliation changes the object in memory and sends its status to the API server through
`updateStatusIfNeeded`, which diffs against a snapshot that `reconcileWPA` takes after
`Reconcile` has set the `DryRun` condition. `persistedStatus` replays the status writes of a
reconciliation on the status the server held, every write succeeding. The server stores each
status as `metav1.Time` marshals it, RFC 3339 in whole seconds: `LastScaleTime` and every
condition's `LastTransitionTime` lose their fraction of a second (`stored`).

Two changes never reach the server. When `reconcileWPA` fails before its first write, the
`DryRun` condition and the `FailedProcessWPA` condition that `Reconcile` sets afterwards stay in
memory (`Reconcile_persists_nothing_of_lookup_error`). And a reconciliation whose final status
equals the snapshot writes nothing, although the snapshot already holds the `DryRun` condition
that the server's status may lack.

A reconciliation that finds the scale and then fails, in the metric computation or in the scale
update, records the failure through `setCurrentReplicasInStatus`, which rebuilds the status from
the object's own desired count and metric statuses. Before the failure the pipeline changes only
the object's conditions, so the status written is the snapshot with the target's count and new
conditions: the last scale time, the desired count and the metric statuses are kept.
-/

namespace Wpa

/-- A condition as the API server stores it: its transition time in whole seconds. -/
def Condition.stored (condition : Condition) : Condition :=
  { condition with lastTransitionTime := wholeSeconds condition.lastTransitionTime }

@[simp] theorem Condition.stored_type (condition : Condition) :
    condition.stored.type = condition.type := rfl

/-- A status as the API server stores it: its times in whole seconds. -/
def WatermarkPodAutoscalerStatus.stored (status : WatermarkPodAutoscalerStatus) :
    WatermarkPodAutoscalerStatus :=
  { status with
    lastScaleTime := status.lastScaleTime.map wholeSeconds
    conditions := status.conditions.map Condition.stored }

/-- A status in the form the API server stores. -/
def WatermarkPodAutoscalerStatus.Stored (status : WatermarkPodAutoscalerStatus) : Prop :=
  status.stored = status

instance (status : WatermarkPodAutoscalerStatus) : Decidable status.Stored :=
  inferInstanceAs (Decidable (_ = _))

namespace WatermarkPodAutoscalerStatus

variable (status : WatermarkPodAutoscalerStatus)

@[simp] theorem stored_currentReplicas : status.stored.currentReplicas = status.currentReplicas :=
  rfl

@[simp] theorem stored_desiredReplicas : status.stored.desiredReplicas = status.desiredReplicas :=
  rfl

@[simp] theorem stored_currentMetrics : status.stored.currentMetrics = status.currentMetrics := rfl

@[simp] theorem stored_lastScaleTime :
    status.stored.lastScaleTime = status.lastScaleTime.map wholeSeconds := rfl

@[simp] theorem stored_conditions :
    status.stored.conditions = status.conditions.map Condition.stored := rfl

theorem stored_types :
    status.stored.conditions.map Condition.type = status.conditions.map Condition.type := by
  rw [stored_conditions, List.map_map]
  rfl

theorem stored_stored : status.stored.Stored := by
  have time : wholeSeconds ∘ wholeSeconds = wholeSeconds := funext wholeSeconds_wholeSeconds
  have condition : Condition.stored ∘ Condition.stored = Condition.stored :=
    funext fun _ => by simp [Condition.stored]
  simp only [Stored, stored, Option.map_map, List.map_map, time, condition]

/-- In the stored form, a last scale time is a whole number of seconds. -/
theorem Stored.lastScaleTime_map {status : WatermarkPodAutoscalerStatus} (stored : status.Stored) :
    status.lastScaleTime.map wholeSeconds = status.lastScaleTime :=
  congrArg lastScaleTime stored

theorem Stored.lastScaleTime_whole {status : WatermarkPodAutoscalerStatus} (stored : status.Stored)
    {t : ℤ} (recorded : status.lastScaleTime = some t) : wholeSeconds t = t := by
  have kept := stored.lastScaleTime_map
  rw [recorded] at kept
  exact Option.some.inj kept

end WatermarkPodAutoscalerStatus

/-- The status the API server holds after `effects`, from `prior`, every status write
succeeding: the last status written, as the server stores it. -/
def persistedStatus (prior : WatermarkPodAutoscalerStatus) :
    List Effect → WatermarkPodAutoscalerStatus
  | [] => prior
  | .updateStatus status :: effects => persistedStatus status.stored effects
  | _ :: effects => persistedStatus prior effects

theorem persistedStatus_append (prior : WatermarkPodAutoscalerStatus)
    (effects effects' : List Effect) :
    persistedStatus prior (effects ++ effects') =
      persistedStatus (persistedStatus prior effects) effects' := by
  induction effects generalizing prior with
  | nil => rfl
  | cons effect effects ih => cases effect <;> exact ih _

/-- Effects that only report leave the server's status as it was. -/
theorem persistedStatus_of_reports {prior : WatermarkPodAutoscalerStatus} {effects : List Effect}
    (reports : ∀ effect ∈ effects, effect.isReport) : persistedStatus prior effects = prior := by
  induction effects with
  | nil => rfl
  | cons effect effects ih =>
      have reported := reports effect (List.mem_cons_self _ _)
      cases effect <;> simp_all [persistedStatus]

/-- `updateStatusIfNeeded` persists the object's status unless it equals the snapshot. -/
theorem persistedStatus_updateStatusIfNeeded (cluster : Cluster)
    (wpaStatus : WatermarkPodAutoscalerStatus) (wpa : WatermarkPodAutoscaler)
    (prior : WatermarkPodAutoscalerStatus) :
    persistedStatus prior (updateStatusIfNeeded cluster wpaStatus wpa).2 =
      if wpaStatus = wpa.status then prior else wpa.status.stored := by
  unfold updateStatusIfNeeded
  split_ifs <;> rfl

/-- When the lookup of the scale fails, `Reconcile` writes no status: the server keeps the status
it had, while the object in memory carries the `DryRun` condition and `FailedProcessWPA`. -/
theorem Reconcile_persists_nothing_of_lookup_error (platform : Platform)
    (replicaCalc : ReplicaCalculatorItf) (defaulting : Defaulting) (cluster : Cluster)
    (wpaInstance : WatermarkPodAutoscaler) (finalized : cluster.handleFinalizer = .ok false)
    (defaulted : defaulting.isDefaultWatermarkPodAutoscaler wpaInstance = true)
    (valid : defaulting.checkWPAValidity wpaInstance = none) {err : String}
    (failed : lookupScale cluster wpaInstance.spec.scaleTargetRef = .error (some err)) :
    persistedStatus wpaInstance.status
        (Reconcile platform replicaCalc defaulting cluster wpaInstance).2.2 = wpaInstance.status ∧
      (Reconcile platform replicaCalc defaulting cluster wpaInstance).2.1 =
        setCondition cluster.now (withDryRunCondition cluster.now wpaInstance) ableToScale
          conditionFalse "FailedProcessWPA" "Error happened while processing the WPA" := by
  have sameSpec := (withDryRunCondition_conditionsOnly cluster.now wpaInstance).spec_eq
  simp only [Reconcile, finalized, defaulted, valid, reconcileWPA, sameSpec, failed, Bool.not_true,
    Bool.false_eq_true, ↓reduceIte]
  exact ⟨persistedStatus_of_reports (by simp), trivial⟩

/-- Every status that `effects` writes is `prior` with the count `currentReplicas` and other
conditions. -/
def WritesCountAndConditions (prior : WatermarkPodAutoscalerStatus) (currentReplicas : Int32)
    (effects : List Effect) : Prop :=
  ∀ status, Effect.updateStatus status ∈ effects →
    status = { prior with currentReplicas := currentReplicas, conditions := status.conditions }

namespace WritesCountAndConditions

variable {prior : WatermarkPodAutoscalerStatus} {currentReplicas : Int32}
  {effects effects' : List Effect}

theorem of_reports (reports : ∀ effect ∈ effects, effect.isReport) :
    WritesCountAndConditions prior currentReplicas effects :=
  fun _ written => by simpa using reports _ written

theorem append (first : WritesCountAndConditions prior currentReplicas effects)
    (second : WritesCountAndConditions prior currentReplicas effects') :
    WritesCountAndConditions prior currentReplicas (effects ++ effects') := by
  intro status written
  rcases List.mem_append.mp written with inFirst | inSecond
  exacts [first status inFirst, second status inSecond]

end WritesCountAndConditions

/-- On an object whose conditions alone changed since the snapshot, `setCurrentReplicasInStatus`
builds the snapshot with the target's count and the new conditions. -/
theorem setCurrentReplicasInStatus_of_conditionsOnly {wpa after : WatermarkPodAutoscaler}
    (changed : ConditionsOnly wpa after) (now : ℤ) (currentReplicas : Int32) :
    (setCurrentReplicasInStatus now after currentReplicas).status =
      { wpa.status with
        currentReplicas := currentReplicas
        conditions := after.status.conditions } := by
  rw [changed]
  rfl

section

variable (cluster : Cluster) (wpaStatusOriginal : WatermarkPodAutoscalerStatus)
  {wpa after : WatermarkPodAutoscaler}

theorem updateStatusIfNeeded_writesCountAndConditions (changed : ConditionsOnly wpa after)
    (currentReplicas : Int32) :
    WritesCountAndConditions wpa.status currentReplicas (updateStatusIfNeeded cluster
      wpaStatusOriginal (setCurrentReplicasInStatus cluster.now after currentReplicas)).2 := by
  intro status written
  obtain ⟨-, rfl⟩ := (updateStatus_mem_updateStatusIfNeeded ..).mp written
  rw [setCurrentReplicasInStatus_of_conditionsOnly changed]

/-- A `finishReconcile` that sends a scale update the cluster rejects writes the snapshot with
the target's count and new conditions. -/
theorem finishReconcile_writesCountAndConditions (targetGR : GroupResource)
    (currentReplicas : Int32) (rescale : Bool) (desiredReplicas : Int32)
    (metricStatuses : List MetricStatus) (changed : ConditionsOnly wpa after) {effects : List Effect}
    (reports : ∀ effect ∈ effects, effect.isReport) (rejected : cluster.updateScale ≠ none)
    (sent : ∃ replicas, Effect.updateScale targetGR replicas ∈
      (finishReconcile cluster wpaStatusOriginal targetGR currentReplicas rescale desiredReplicas
        metricStatuses after effects).2.2) :
    WritesCountAndConditions wpa.status currentReplicas
      (finishReconcile cluster wpaStatusOriginal targetGR currentReplicas rescale desiredReplicas
        metricStatuses after effects).2.2 := by
  have noWrite : ∀ groupResource replicas, Effect.updateScale groupResource replicas ∉ effects :=
    fun _ _ written => by simpa using reports _ written
  obtain ⟨replicas, sent⟩ := sent
  obtain ⟨err, scaleError⟩ := Option.ne_none_iff_exists'.mp rejected
  cases rescale
  · simp [finishReconcile, completeReconcile, noWrite] at sent
  · by_cases dryRun : after.spec.dryRun
    · simp [finishReconcile, dryRun, noWrite] at sent
    · simp only [finishReconcile, setCondition_spec, dryRun, scaleError, Bool.false_eq_true,
        ↓reduceIte]
      split <;>
        [refine .append (.append (.append (.append (.of_reports reports) ?_) ?_) ?_) ?_;
          refine .append (.append (.append (.of_reports reports) ?_) ?_) ?_] <;>
        first
          | (intro _ written; simp at written; done)
          | exact updateStatusIfNeeded_writesCountAndConditions _ _
              ((changed.trans (setCondition_conditionsOnly ..)).trans
                (setCondition_conditionsOnly ..)) _

/-- A metric-driven branch whose metric computation fails writes the snapshot with the target's
count and new conditions. -/
theorem metricDriven_writesCountAndConditions_of_error (platform : Platform)
    (replicaCalc : ReplicaCalculatorItf) (targetGR : GroupResource) (currentScale : Scale)
    (changed : ConditionsOnly wpa after) {err : String}
    (failed : (computeReplicasForMetrics replicaCalc cluster.now after currentScale).1 =
      .returned (.error err)) :
    WritesCountAndConditions wpa.status currentScale.statusReplicas
      (metricDriven platform replicaCalc cluster wpaStatusOriginal targetGR currentScale
        after).2.2 := by
  have computed := computeReplicasForMetrics_reportsOnly replicaCalc cluster.now after currentScale
  simp only [metricDriven, failed]
  split <;> exact .append (.append (.of_reports computed.2)
    (updateStatusIfNeeded_writesCountAndConditions _ _ (changed.trans computed.1) _))
    fun _ written => by simp at written

/-- A metric-driven branch that sends a scale update the cluster rejects writes the snapshot with
the target's count and new conditions. -/
theorem metricDriven_writesCountAndConditions_of_rejected (platform : Platform)
    (replicaCalc : ReplicaCalculatorItf) (targetGR : GroupResource) (currentScale : Scale)
    (changed : ConditionsOnly wpa after) (rejected : cluster.updateScale ≠ none)
    (sent : ∃ replicas, Effect.updateScale targetGR replicas ∈
      (metricDriven platform replicaCalc cluster wpaStatusOriginal targetGR currentScale
        after).2.2) :
    WritesCountAndConditions wpa.status currentScale.statusReplicas
      (metricDriven platform replicaCalc cluster wpaStatusOriginal targetGR currentScale
        after).2.2 := by
  have computed := computeReplicasForMetrics_reportsOnly replicaCalc cluster.now after currentScale
  cases outcome : (computeReplicasForMetrics replicaCalc cluster.now after currentScale).1 with
  | panicked =>
      simp only [metricDriven, outcome]
      exact .of_reports computed.2
  | returned calculation =>
      cases calculation with
      | error err =>
          exact metricDriven_writesCountAndConditions_of_error _ _ _ _ _ _ changed outcome
      | ok result =>
          simp only [metricDriven, outcome] at sent ⊢
          exact finishReconcile_writesCountAndConditions _ _ _ _ _ _ _
            (changed.trans ((computed.1.trans (normalizeDesiredReplicas_conditionsOnly ..)).trans
              (shouldScale_conditionsOnly ..)))
            (by simpa [or_imp, forall_and] using computed.2) rejected sent

end

/-- A reconciliation that finds the target's scale and then fails, because the metric computation
returns an error or the cluster rejects the scale update it sends, writes only the status it read
with the target's count and new conditions: the last scale time, the desired count and the metric
statuses are kept. A reconciliation whose lookup of the target fails writes no status. -/
theorem reconcileWPA_failure_keeps_status (platform : Platform)
    (replicaCalc : ReplicaCalculatorItf) (cluster : Cluster) (wpa : WatermarkPodAutoscaler) :
    (∀ currentScale targetGR,
      lookupScale cluster wpa.spec.scaleTargetRef = .ok (currentScale, targetGR) →
      (currentScale.specReplicas ≠ 0 ∧
          forcedReplicas wpa.spec currentScale.statusReplicas = none ∧
          ∃ err, (computeReplicasForMetrics replicaCalc cluster.now
            (setCondition cluster.now wpa ableToScale conditionTrue "SucceededGetScale"
              "the WPA controller was able to get the target's current scale") currentScale).1 =
            .returned (.error err)) ∨
        (cluster.updateScale ≠ none ∧ ∃ replicas, Effect.updateScale targetGR replicas ∈
          (reconcileWPA platform replicaCalc cluster wpa).2.2) →
      WritesCountAndConditions wpa.status currentScale.statusReplicas
        (reconcileWPA platform replicaCalc cluster wpa).2.2) ∧
    (∀ err, lookupScale cluster wpa.spec.scaleTargetRef = .error err →
      ∀ status, Effect.updateStatus status ∉ (reconcileWPA platform replicaCalc cluster wpa).2.2) := by
  refine ⟨fun currentScale targetGR found failure => ?_,
    fun _ failed _ => by simp [reconcileWPA, failed]⟩
  have conditioned := setCondition_conditionsOnly cluster.now wpa ableToScale conditionTrue
    "SucceededGetScale" "the WPA controller was able to get the target's current scale"
  simp only [reconcileWPA, found, reconcileScale] at failure ⊢
  rcases failure with ⟨enabled, notForced, err, failed⟩ | ⟨rejected, sent⟩
  · simp only [enabled, setCondition_spec, notForced, ↓reduceIte]
    exact metricDriven_writesCountAndConditions_of_error _ _ _ _ _ _ conditioned failed
  · split_ifs at sent ⊢
    · exact finishReconcile_writesCountAndConditions _ _ _ _ _ _ _
        (conditioned.trans (setCondition_conditionsOnly ..)) (by simp) rejected sent
    · cases forced : forcedReplicas wpa.spec currentScale.statusReplicas <;>
        simp only [setCondition_spec, forced] at sent ⊢
      · exact metricDriven_writesCountAndConditions_of_rejected _ _ _ _ _ _ conditioned rejected
          sent
      · exact finishReconcile_writesCountAndConditions _ _ _ _ _ _ _ conditioned (by simp)
          rejected sent

/-- An API server that rejects every scale update. -/
def rejectingCluster : Cluster :=
  { exampleCluster ⟨10, by decide, by decide⟩ with
    updateScale := some "the object has been modified" }

set_option maxRecDepth 2000 in
/-- The example object, which never scaled, rescales to ten on a cluster that rejects the update:
the status it writes is the one it read, with the target's count and new conditions. -/
theorem reconcileWPA_failure_keeps_status_on_rejected_update :
    Effect.updateStatus (reconcileWPA .amd64
        ((exampleCalculator ⟨7000, by decide, by decide⟩).toItf .amd64) rejectingCluster
        exampleWpa).2.1.status ∈
      (reconcileWPA .amd64 ((exampleCalculator ⟨7000, by decide, by decide⟩).toItf .amd64)
        rejectingCluster exampleWpa).2.2 ∧
    WritesCountAndConditions exampleWpa.status ⟨10, by decide, by decide⟩
      (reconcileWPA .amd64 ((exampleCalculator ⟨7000, by decide, by decide⟩).toItf .amd64)
        rejectingCluster exampleWpa).2.2 :=
  ⟨by decide, (reconcileWPA_failure_keeps_status .amd64 _ rejectingCluster exampleWpa).1 _ _ rfl
    (.inr ⟨by decide, ⟨10, by decide, by decide⟩, by decide⟩)⟩

/-- A cluster whose REST mapper knows no mapping for the target's kind. -/
def unmappedCluster : Cluster :=
  { exampleCluster ⟨10, by decide, by decide⟩ with
    restMappings := fun _ => .error "no matches for kind" }

/-- The example object after a reconciliation of a disabled target that wrote its status: the
conditions `reconcileWPA` sets for it, at time `50`, but no `DryRun` condition. -/
def settledDisabledWpa : WatermarkPodAutoscaler :=
  { exampleWpa with
    status := ⟨0, 0, [], none,
      [⟨ableToScale, conditionTrue, 50, "SucceededGetScale",
          "the WPA controller was able to get the target's current scale"⟩,
        ⟨scalingActive, conditionFalse, 50, "ScalingDisabled",
          "scaling is disabled since the replica count of the target is zero"⟩]⟩ }

/-- Every status write succeeds, yet conditions set in memory never reach the server. An unknown
kind makes `reconcileWPA` fail before any write: the `DryRun` and `FailedProcessWPA` conditions
stay in memory. A disabled target whose status already holds what `reconcileWPA` sets leaves a
final status equal to the snapshot, which carries the new `DryRun` condition: nothing is
written, and the server's status never gets it. -/
theorem Reconcile_keeps_conditions_in_memory :
    unmappedCluster.updateStatus = none ∧
      persistedStatus exampleWpa.status
          (Reconcile .amd64 ((exampleCalculator ⟨7000, by decide, by decide⟩).toItf .amd64)
            exampleDefaulting unmappedCluster exampleWpa).2.2 = exampleWpa.status ∧
      (Reconcile .amd64 ((exampleCalculator ⟨7000, by decide, by decide⟩).toItf .amd64)
          exampleDefaulting unmappedCluster exampleWpa).2.1.status.conditions =
        [⟨dryRunCondition, conditionFalse, 100, "DryRun mode disabled",
            "Scaling changes can be applied"⟩,
          ⟨ableToScale, conditionFalse, 100, "FailedProcessWPA",
            "Error happened while processing the WPA"⟩] ∧
      (exampleCluster 0).updateStatus = none ∧
      persistedStatus settledDisabledWpa.status
          (Reconcile .amd64 ((exampleCalculator ⟨7000, by decide, by decide⟩).toItf .amd64)
            exampleDefaulting (exampleCluster 0) settledDisabledWpa).2.2 =
        settledDisabledWpa.status ∧
      (Reconcile .amd64 ((exampleCalculator ⟨7000, by decide, by decide⟩).toItf .amd64)
          exampleDefaulting (exampleCluster 0) settledDisabledWpa).2.1.status =
        { settledDisabledWpa.status with
          conditions := settledDisabledWpa.status.conditions ++
            [⟨dryRunCondition, conditionFalse, 100, "DryRun mode disabled",
              "Scaling changes can be applied"⟩] } := by
  decide

end Wpa
