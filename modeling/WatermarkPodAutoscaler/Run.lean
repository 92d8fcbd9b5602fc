import WatermarkPodAutoscaler.Direction
import WatermarkPodAutoscaler.Persistence

/-!
# Runs of reconciliations and the forbidden windows

Each reconciliation reads the object the API server holds, and the server keeps what the writes
that succeed persist: a status write replaces the status, and the object update that persists
defaults replaces the rest, the server keeping its status (the status subresource). `runObject`
folds reconciliations over a list of observations, one per reconciliation: the cluster it sees,
with its clock, the target's scale and the writes that fail, and the calculator with the metrics
it reads.

The server stores a status as `metav1.Time` marshals it, in whole seconds, and keeps its status
across an object update; along a run from an object it holds, every status it holds is in that
stored form (`runObject_stored`).

The cooldown gate reads `LastScaleTime` from the object it is given, and measures the forbidden
windows from it against the timestamp of the metric that drove the decision. A reconciliation
that writes the scale stamps its clock in the status it writes next, and the server records it
in whole seconds. When that status write succeeds, every later metric-driven scale write of the
run lies outside both windows measured from that clock in whole seconds
(`runObject_respects_forbidden_windows`), which may be up to a second before the write. When it
fails, the server keeps the older stamp, and the next reconciliation may raise the count again at
once (`runObject_rescales_within_forbidden_window`).
-/

namespace Wpa

/-- Every metric the client returns is timestamped no later than `now`. -/
def MetricsClient.Timely (client : MetricsClient) (now : ℤ) : Prop :=
  (∀ resource podNamespace selector metrics timestamp,
    client.getResourceMetric resource podNamespace selector = .ok (metrics, timestamp) →
      timestamp ≤ now) ∧
  (∀ metricName podNamespace selector values timestamp,
    client.getExternalMetric metricName podNamespace selector = .ok (values, timestamp) →
      timestamp ≤ now)

section

variable {calculator : ReplicaCalculator} {bound : ℤ} (timely : calculator.metricsClient.Timely bound)

include timely

end

/-- A count outside the forbidden windows that `wpa` records, from `currentReplicas`, at the clock
`now`: above it only once the upscale window since the last scale time has closed, below it only
once the downscale window has. -/
def OutsideWindows (wpa : WatermarkPodAutoscaler) (currentReplicas : Int32) (now : ℤ)
    (replicas : Int32) : Prop :=
  ∀ lastScaleTime, wpa.status.lastScaleTime = some lastScaleTime →
    (currentReplicas < replicas →
      lastScaleTime + forbiddenWindow wpa.spec.upscaleForbiddenWindowSeconds ≤ now) ∧
    (replicas < currentReplicas →
      lastScaleTime + forbiddenWindow wpa.spec.downscaleForbiddenWindowSeconds ≤ now)

/-- The windows read only the spec and the last scale time. -/
theorem OutsideWindows.of_conditionsOnly {wpa wpa' : WatermarkPodAutoscaler}
    {currentReplicas : Int32} {now : ℤ} {replicas : Int32} (changed : ConditionsOnly wpa wpa')
    (outside : OutsideWindows wpa' currentReplicas now replicas) :
    OutsideWindows wpa currentReplicas now replicas := by
  rwa [OutsideWindows, changed.spec_eq, changed.lastScaleTime_eq] at outside

section

variable (platform : Platform) (calculator : ReplicaCalculator) (cluster : Cluster)
  (timely : calculator.metricsClient.Timely cluster.now)

include timely

variable {currentScale : Scale} {targetGR : GroupResource}

end

/-- How a reconciliation's effects treat `LastScaleTime`, from the object `wpa` it was given:
every status it writes keeps the object's last scale time or stamps the clock, and a scale write
that succeeds is stamped, in whole seconds, in the status the server keeps, from any status the
server held with the object's last scale time, every status write succeeding. -/
structure StampsClock (cluster : Cluster) (wpa : WatermarkPodAutoscaler) (effects : List Effect) :
    Prop where
  keeps : ∀ status, Effect.updateStatus status ∈ effects →
    status.lastScaleTime = wpa.status.lastScaleTime ∨ status.lastScaleTime = some cluster.now
  stamps : ∀ groupResource replicas, Effect.updateScale groupResource replicas ∈ effects →
    cluster.updateScale = none → ∀ prior : WatermarkPodAutoscalerStatus,
      prior.lastScaleTime = wpa.status.lastScaleTime →
      (persistedStatus prior effects).lastScaleTime.map wholeSeconds =
        some (wholeSeconds cluster.now)

namespace StampsClock

variable {cluster : Cluster} {wpa : WatermarkPodAutoscaler} {effects effects' : List Effect}

/-- Effects that only report write no status and no scale. -/
theorem of_reports (reports : ∀ effect ∈ effects, effect.isReport) :
    StampsClock cluster wpa effects :=
  ⟨fun _ written => by simpa using reports _ written,
    fun _ _ written => by simpa using reports _ written⟩

/-- Reports before the effects change nothing the predicate reads. -/
theorem reports_append (reports : ∀ effect ∈ effects, effect.isReport)
    (stamping : StampsClock cluster wpa effects') : StampsClock cluster wpa (effects ++ effects') :=
  ⟨fun status written => by
      rw [List.mem_append] at written
      exact written.elim (fun written => by simpa using reports _ written) (stamping.keeps status),
    fun groupResource replicas written scaled prior sameStamp => by
      rw [List.mem_append] at written
      rw [persistedStatus_append, persistedStatus_of_reports reports]
      exact written.elim (fun written => by simpa using reports _ written)
        fun written => stamping.stamps groupResource replicas written scaled prior sameStamp⟩

/-- Nor do reports after them. -/
theorem append_reports (stamping : StampsClock cluster wpa effects)
    (reports : ∀ effect ∈ effects', effect.isReport) :
    StampsClock cluster wpa (effects ++ effects') :=
  ⟨fun status written => by
      rw [List.mem_append] at written
      exact written.elim (stamping.keeps status) (fun written => by simpa using reports _ written),
    fun groupResource replicas written scaled prior sameStamp => by
      rw [List.mem_append] at written
      rw [persistedStatus_append, persistedStatus_of_reports reports]
      exact written.elim (fun written => stamping.stamps _ _ written scaled prior sameStamp)
        fun written => by simpa using reports _ written⟩

/-- The predicate reads the object's last scale time only. -/
theorem congr {wpa' : WatermarkPodAutoscaler}
    (sameStamp : wpa'.status.lastScaleTime = wpa.status.lastScaleTime)
    (stamping : StampsClock cluster wpa' effects) : StampsClock cluster wpa effects := by
  obtain ⟨keeps, stamps⟩ := stamping
  rw [sameStamp] at keeps stamps
  exact ⟨keeps, stamps⟩

/-- A status write keeps the object's last scale time or stamps the clock when the status
written does. -/
theorem updateStatusIfNeeded (wpaStatus : WatermarkPodAutoscalerStatus)
    (written : WatermarkPodAutoscaler)
    (stamp : written.status.lastScaleTime = wpa.status.lastScaleTime ∨
      written.status.lastScaleTime = some cluster.now) :
    StampsClock cluster wpa (Wpa.updateStatusIfNeeded cluster wpaStatus written).2 := by
  unfold Wpa.updateStatusIfNeeded
  split
  · exact of_reports (by simp)
  · exact ⟨by simpa using stamp, by simp⟩

end StampsClock

/-- `finishReconcile` writes statuses that keep the object's last scale time or stamp the clock,
and stamps the clock in the status it writes after a scale write that succeeds. -/
theorem finishReconcile_stampsClock (cluster : Cluster)
    (wpaStatusOriginal : WatermarkPodAutoscalerStatus) (targetGR : GroupResource)
    (currentReplicas : Int32) (rescale : Bool) (desiredReplicas : Int32)
    (metricStatuses : List MetricStatus) (wpa : WatermarkPodAutoscaler) (effects : List Effect)
    (reports : ∀ effect ∈ effects, effect.isReport)
    (sameStamp : wpaStatusOriginal.lastScaleTime = wpa.status.lastScaleTime) :
    StampsClock cluster wpa (finishReconcile cluster wpaStatusOriginal targetGR currentReplicas
      rescale desiredReplicas metricStatuses wpa effects).2.2 := by
  have noStatus : ∀ status, Effect.updateStatus status ∉ effects :=
    fun _ written => by simpa using reports _ written
  have noScale : ∀ groupResource replicas, Effect.updateScale groupResource replicas ∉ effects :=
    fun _ _ written => by simpa using reports _ written
  refine ⟨fun status written => ?_, fun _ _ written scaled prior priorStamp => ?_⟩
  · cases rescale <;> by_cases dryRun : wpa.spec.dryRun <;>
      cases scaleError : cluster.updateScale <;>
      simp [finishReconcile, completeReconcile, dryRun, scaleError, noStatus] at written
    all_goals first
      | obtain ⟨-, rfl⟩ := written
        simp
      | split at written <;> simp [noStatus] at written <;> obtain ⟨-, rfl⟩ := written <;>
          simp [setCurrentReplicasInStatus]
  · cases rescale <;> by_cases dryRun : wpa.spec.dryRun <;>
      simp [finishReconcile, completeReconcile, dryRun, scaled, noScale, persistedStatus_append,
        persistedStatus_of_reports reports, persistedStatus,
        persistedStatus_updateStatusIfNeeded] at written ⊢
    split_ifs with unchanged
    · rw [priorStamp, ← sameStamp, unchanged, setStatus_lastScaleTime, if_pos rfl]
      exact ⟨_, rfl, rfl⟩
    · simp

/-- The metric-driven branch, whose snapshot records the object's last scale time. -/
theorem metricDriven_stampsClock (platform : Platform) (replicaCalc : ReplicaCalculatorItf)
    (cluster : Cluster) (wpaStatusOriginal : WatermarkPodAutoscalerStatus)
    (targetGR : GroupResource) (currentScale : Scale) (wpa : WatermarkPodAutoscaler)
    (sameStamp : wpaStatusOriginal.lastScaleTime = wpa.status.lastScaleTime) :
    StampsClock cluster wpa
      (metricDriven platform replicaCalc cluster wpaStatusOriginal targetGR currentScale wpa).2.2 := by
  have reports := computeReplicasForMetrics_reportsOnly replicaCalc cluster.now wpa currentScale
  unfold metricDriven
  dsimp only
  split
  · exact StampsClock.of_reports reports.2
  · split <;> refine ((StampsClock.reports_append reports.2
      (StampsClock.updateStatusIfNeeded _ _ (.inl ?_))).append_reports (by simp)) <;>
      simp [setCurrentReplicasInStatus, reports.1.lastScaleTime_eq]
  · refine StampsClock.congr ?_ (finishReconcile_stampsClock _ _ _ _ _ _ _ _ _
      (by simpa [or_imp, forall_and] using reports.2) (sameStamp.trans (Eq.symm ?_))) <;>
    exact ((reports.1.trans (normalizeDesiredReplicas_conditionsOnly ..)).trans
      (shouldScale_conditionsOnly ..)).lastScaleTime_eq

/-- A reconciliation that found the scale. -/
theorem reconcileScale_stampsClock (platform : Platform) (replicaCalc : ReplicaCalculatorItf)
    (cluster : Cluster) (targetGR : GroupResource) (currentScale : Scale)
    (wpa : WatermarkPodAutoscaler) :
    StampsClock cluster wpa
      (reconcileScale platform replicaCalc cluster targetGR currentScale wpa).2.2 := by
  unfold reconcileScale
  dsimp only
  split_ifs
  · exact .congr (by rfl) (finishReconcile_stampsClock _ _ _ _ _ _ _ _ _ (by simp) (by rfl))
  · split
    · exact .congr (by rfl) (finishReconcile_stampsClock _ _ _ _ _ _ _ _ _ (by simp) (by rfl))
    · exact .congr (by rfl) (metricDriven_stampsClock _ _ _ _ _ _ _ (by rfl))

/-- Every status a reconciliation writes keeps the object's last scale time or stamps the clock,
and a scale write that succeeds is stamped in the status written after it. -/
theorem Reconcile_stampsClock (platform : Platform) (replicaCalc : ReplicaCalculatorItf)
    (defaulting : Defaulting) (cluster : Cluster) (wpaInstance : WatermarkPodAutoscaler) :
    StampsClock cluster wpaInstance
      (Reconcile platform replicaCalc defaulting cluster wpaInstance).2.2 := by
  have reconciled : StampsClock cluster wpaInstance
      (reconcileWPA platform replicaCalc cluster (withDryRunCondition cluster.now wpaInstance)).2.2 := by
    refine .congr (withDryRunCondition_conditionsOnly cluster.now wpaInstance).lastScaleTime_eq ?_
    unfold reconcileWPA
    split
    · exact StampsClock.of_reports (by simp)
    · exact reconcileScale_stampsClock ..
  unfold Reconcile
  split
  · exact StampsClock.of_reports (by simp)
  · exact StampsClock.of_reports (by simp)
  · split_ifs
    · split <;> exact ⟨by simp, by simp⟩
    · split
      · dsimp only
        split
        · exact (StampsClock.reports_append (by simp)
            (.updateStatusIfNeeded _ _ (.inl (by rfl)))).append_reports (by simp)
        · exact StampsClock.reports_append (by simp) (.updateStatusIfNeeded _ _ (.inl (by rfl)))
      · dsimp only
        split
        · exact reconciled.append_reports (by simp)
        · exact reconciled

/-- The object the API server holds after `effects`, from `wpa`: a status write that succeeds
replaces the status with the one written, as the server stores it, and an object update that
succeeds replaces the rest, the server keeping its status. -/
def persistedObject (cluster : Cluster) (wpa : WatermarkPodAutoscaler) :
    List Effect → WatermarkPodAutoscaler
  | [] => wpa
  | .updateStatus status :: effects =>
      persistedObject cluster
        (if cluster.updateStatus = none then { wpa with status := status.stored } else wpa)
        effects
  | .updateObject object :: effects =>
      persistedObject cluster
        (if cluster.updateObject = none then { object with status := wpa.status } else wpa) effects
  | _ :: effects => persistedObject cluster wpa effects

/-- A property of statuses that holds of the object's status and of every status written, as the
server stores it, holds of the status of the object the server keeps. -/
theorem persistedObject_status_holds (holds : WatermarkPodAutoscalerStatus → Prop)
    (cluster : Cluster) (wpa : WatermarkPodAutoscaler) (effects : List Effect)
    (start : holds wpa.status)
    (written : ∀ status, Effect.updateStatus status ∈ effects → holds status.stored) :
    holds (persistedObject cluster wpa effects).status := by
  induction effects generalizing wpa with
  | nil => exact start
  | cons effect effects ih =>
      have later := fun status member => written status (List.mem_cons_of_mem _ member)
      cases effect with
      | updateStatus status =>
          refine ih _ ?_ later
          split
          · exact written status (List.mem_cons_self _ _)
          · exact start
      | updateObject object => exact ih _ (by split <;> exact start) later
      | event => exact ih _ start later
      | gauge => exact ih _ start later
      | updateScale => exact ih _ start later

/-- A property of the last scale time that holds of the object and of every status written, in
whole seconds, holds of the object the server keeps. -/
theorem persistedObject_lastScaleTime (holds : Option ℤ → Prop) (cluster : Cluster)
    (wpa : WatermarkPodAutoscaler) (effects : List Effect) (start : holds wpa.status.lastScaleTime)
    (written : ∀ status, Effect.updateStatus status ∈ effects →
      holds (status.lastScaleTime.map wholeSeconds)) :
    holds (persistedObject cluster wpa effects).status.lastScaleTime :=
  persistedObject_status_holds (fun status => holds status.lastScaleTime) cluster wpa effects start
    written

/-- What one reconciliation of a run sees: the API server, with its clock, the target's scale and
the writes that fail, and the calculator with the metrics it reads. -/
structure Observation where
  cluster : Cluster
  calculator : ReplicaCalculator

/-- One reconciliation of the object the server holds: the object the server holds afterwards,
and the effects. -/
def reconcileStep (platform : Platform) (defaulting : Defaulting) (wpa : WatermarkPodAutoscaler)
    (observation : Observation) : WatermarkPodAutoscaler × List Effect :=
  let effects := (Reconcile platform (observation.calculator.toItf platform) defaulting
    observation.cluster wpa).2.2
  (persistedObject observation.cluster wpa effects, effects)

/-- The object the server holds after a run of reconciliations, one per observation. -/
def runObject (platform : Platform) (defaulting : Defaulting) (wpa : WatermarkPodAutoscaler)
    (observations : List Observation) : WatermarkPodAutoscaler :=
  observations.foldl (fun wpa observation => (reconcileStep platform defaulting wpa observation).1)
    wpa

section

variable (platform : Platform) (defaulting : Defaulting)

theorem runObject_append (wpa : WatermarkPodAutoscaler) (before after : List Observation) :
    runObject platform defaulting wpa (before ++ after) =
      runObject platform defaulting (runObject platform defaulting wpa before) after :=
  List.foldl_append ..

/-- The server keeps its status in stored form: from an object it holds, a reconciliation leaves
one. -/
theorem reconcileStep_stored {wpa : WatermarkPodAutoscaler} (observation : Observation)
    (stored : wpa.status.Stored) : (reconcileStep platform defaulting wpa observation).1.status.Stored :=
  persistedObject_status_holds WatermarkPodAutoscalerStatus.Stored _ _ _ stored
    fun status _ => status.stored_stored

theorem runObject_stored {wpa : WatermarkPodAutoscaler} (observations : List Observation)
    (stored : wpa.status.Stored) : (runObject platform defaulting wpa observations).status.Stored := by
  induction observations generalizing wpa with
  | nil => exact stored
  | cons observation observations ih =>
      exact ih (reconcileStep_stored platform defaulting observation stored)

/-- A reconciliation whose clock is not before a whole second `since` keeps the server's last
scale time at or after `since`. -/
theorem reconcileStep_lastScaleTime_ge {since : ℤ} {wpa : WatermarkPodAutoscaler}
    {observation : Observation} (whole : wholeSeconds since = since)
    (recent : ∃ t, wpa.status.lastScaleTime = some t ∧ since ≤ t)
    (clock : since ≤ observation.cluster.now) :
    ∃ t, (reconcileStep platform defaulting wpa observation).1.status.lastScaleTime = some t ∧
      since ≤ t := by
  refine persistedObject_lastScaleTime (fun lastScaleTime => ∃ t, lastScaleTime = some t ∧ since ≤ t)
    _ _ _ recent fun status written => ?_
  rcases (Reconcile_stampsClock ..).keeps status written with kept | stamped
  · obtain ⟨t, recorded, le⟩ := recent
    exact ⟨wholeSeconds t, by rw [kept, recorded]; rfl, le_wholeSeconds whole le⟩
  · exact ⟨_, by rw [stamped]; rfl, le_wholeSeconds whole clock⟩

/-- A run whose clock is never before a whole second `since` keeps the server's last scale time
at or after `since`. -/
theorem runObject_lastScaleTime_ge {since : ℤ} (wpa : WatermarkPodAutoscaler)
    (observations : List Observation) (whole : wholeSeconds since = since)
    (recent : ∃ t, wpa.status.lastScaleTime = some t ∧ since ≤ t)
    (clock : ∀ observation ∈ observations, since ≤ observation.cluster.now) :
    ∃ t, (runObject platform defaulting wpa observations).status.lastScaleTime = some t ∧
      since ≤ t := by
  induction observations generalizing wpa with
  | nil => exact recent
  | cons observation observations ih =>
      exact ih _ (reconcileStep_lastScaleTime_ge platform defaulting whole recent
        (clock observation (List.mem_cons_self _ _)))
        fun observation member => clock observation (List.mem_cons_of_mem _ member)

/-- A run whose clock is never after `bound`, from an object whose last scale time is not after
`bound`, keeps the server's last scale time not after `bound`. -/
theorem runObject_lastScaleTime_le {bound : ℤ} (wpa : WatermarkPodAutoscaler)
    (observations : List Observation)
    (settled : ∀ t, wpa.status.lastScaleTime = some t → t ≤ bound)
    (clock : ∀ observation ∈ observations, observation.cluster.now ≤ bound) :
    ∀ t, (runObject platform defaulting wpa observations).status.lastScaleTime = some t →
      t ≤ bound := by
  induction observations generalizing wpa with
  | nil => exact settled
  | cons observation observations ih =>
      refine ih _ ?_ fun observation member => clock observation (List.mem_cons_of_mem _ member)
      refine persistedObject_lastScaleTime (fun lastScaleTime => ∀ t, lastScaleTime = some t → t ≤ bound)
        _ _ _ settled fun status written t recorded => ?_
      obtain ⟨t', recorded', rfl⟩ := Option.map_eq_some'.mp recorded
      refine (wholeSeconds_le t').trans ?_
      rcases (Reconcile_stampsClock ..).keeps status written with kept | stamped
      · exact settled t' (kept ▸ recorded')
      · exact Option.some.inj (stamped.symm.trans recorded') ▸
          clock observation (List.mem_cons_self _ _)

/-- Along a run whose clock never goes back, from an object the server holds whose last scale
time is not ahead of the run's clock, the server's last scale time never moves back: once set,
it stays set, at or after every earlier value. -/
theorem runObject_lastScaleTime_monotone (wpa : WatermarkPodAutoscaler)
    (before after : List Observation) (stored : wpa.status.Stored)
    (clock : (before ++ after).Pairwise fun earlier later =>
      earlier.cluster.now ≤ later.cluster.now)
    (settled : ∀ t, wpa.status.lastScaleTime = some t →
      ∀ observation ∈ before ++ after, t ≤ observation.cluster.now) :
    ∀ t, (runObject platform defaulting wpa before).status.lastScaleTime = some t →
      ∃ t', (runObject platform defaulting wpa (before ++ after)).status.lastScaleTime = some t' ∧
        t ≤ t' := by
  intro t recorded
  rw [List.pairwise_append] at clock
  rw [runObject_append]
  refine runObject_lastScaleTime_ge platform defaulting _ after
    ((runObject_stored platform defaulting before stored).lastScaleTime_whole recorded)
    ⟨t, recorded, le_refl t⟩
    fun later member => runObject_lastScaleTime_le platform defaulting wpa before ?_ ?_ t recorded
  · exact fun t' held => settled t' held later (List.mem_append_right _ member)
  · exact fun earlier earlierMember => clock.2.2 earlier earlierMember later member

end

/-- The example calculator, its metrics server reporting at time `timestamp`. -/
def exampleCalculatorAt (usage : Int64) (timestamp : ℤ) : ReplicaCalculator :=
  { exampleCalculator usage with
    metricsClient :=
      ⟨fun resource podNamespace selector =>
        ((exampleCalculator usage).metricsClient.getResourceMetric resource podNamespace
          selector).map fun fetched => (fetched.1, timestamp),
        fun _ _ _ => .ok ([], timestamp)⟩ }

/-- Metrics reported at `timestamp` are not ahead of a clock at `timestamp`. -/
theorem exampleCalculatorAt_timely (usage : Int64) (timestamp : ℤ) :
    (exampleCalculatorAt usage timestamp).metricsClient.Timely timestamp :=
  ⟨fun _ _ _ _ _ fetched => by
      simp only [exampleCalculatorAt, exampleCalculator, Except.map, Except.ok.injEq,
        Prod.mk.injEq] at fetched
      exact fetched.2.symm.le,
    fun _ _ _ _ _ fetched => by
      simp only [exampleCalculatorAt, Except.ok.injEq, Prod.mk.injEq] at fetched
      exact fetched.2.symm.le⟩

/-- The example metrics, reported at `5`, are not ahead of any later clock. -/
theorem exampleCalculator_timely (usage : Int64) {now : ℤ} (late : 5 ≤ now) :
    (exampleCalculator usage).metricsClient.Timely now :=
  ⟨fun _ _ _ _ _ fetched => by
      simp only [exampleCalculator, Except.ok.injEq, Prod.mk.injEq] at fetched
      exact fetched.2 ▸ late,
    fun _ _ _ _ _ fetched => by
      simp only [exampleCalculator, Except.ok.injEq, Prod.mk.injEq] at fetched
      exact fetched.2 ▸ late⟩

/-- A reconciliation of the example target at ten replicas, at clock `100`, with a usage of `9`
per pod. -/
def scaledObservation : Observation :=
  ⟨exampleCluster ⟨10, by decide, by decide⟩, exampleCalculator ⟨9000, by decide, by decide⟩⟩

/-- A reconciliation of the target at twelve replicas a minute and a second later, with metrics
of that time. -/
def minuteLaterObservation : Observation :=
  ⟨{ exampleCluster ⟨12, by decide, by decide⟩ with now := 100 + 61 * second },
    exampleCalculatorAt ⟨9000, by decide, by decide⟩ (100 + 61 * second)⟩

/-- The example object, never scaled, is reconciled at clock `100` and a minute and a second
later: its last scale time moves forward. -/
theorem runObject_lastScaleTime_monotone_a_minute_later :
    exampleWpa.status.Stored ∧ ([scaledObservation] ++ [minuteLaterObservation]).Pairwise
        (fun earlier later => earlier.cluster.now ≤ later.cluster.now) ∧
      (∀ t, exampleWpa.status.lastScaleTime = some t →
        ∀ observation ∈ [scaledObservation] ++ [minuteLaterObservation],
          t ≤ observation.cluster.now) ∧
      ∀ t, (runObject .amd64 exampleDefaulting exampleWpa
          [scaledObservation]).status.lastScaleTime = some t →
        ∃ t', (runObject .amd64 exampleDefaulting exampleWpa
            ([scaledObservation] ++ [minuteLaterObservation])).status.lastScaleTime = some t' ∧
          t ≤ t' :=
  ⟨by decide, by decide, nofun,
    runObject_lastScaleTime_monotone .amd64 exampleDefaulting exampleWpa _ _ (by decide) (by decide)
      nofun⟩

/-- The example object, its last scale recorded ten minutes before the clock's origin. -/
def staleWpa : WatermarkPodAutoscaler :=
  { exampleWpa with status := { exampleWpa.status with lastScaleTime := some (-(600 * second)) } }

/-- `scaledObservation` with a status write that conflicts. -/
def conflictedObservation : Observation :=
  ⟨{ exampleCluster ⟨10, by decide, by decide⟩ with
      updateStatus := some "the object has been modified" },
    exampleCalculator ⟨9000, by decide, by decide⟩⟩

/-- A reconciliation of the target at twelve replicas a hundred nanoseconds after
`conflictedObservation`. -/
def hastyObservation : Observation :=
  ⟨{ exampleCluster ⟨12, by decide, by decide⟩ with now := 200 },
    exampleCalculator ⟨9000, by decide, by decide⟩⟩

/-- A reconciliation of the target at twelve replicas exactly a minute after the clock's origin,
with metrics of that time. -/
def windowEdgeObservation : Observation :=
  ⟨{ exampleCluster ⟨12, by decide, by decide⟩ with now := 60 * second },
    exampleCalculatorAt ⟨9000, by decide, by decide⟩ (60 * second)⟩

set_option maxRecDepth 2000 in
/-- A window starts from the last scale time the server records, which is not the clock of the
scale write. A scale write whose status write fails records none: from an object last scaled ten
minutes ago, a reconciliation raises the target from ten to twelve replicas, the status write
that would record it conflicts, and the next reconciliation, a hundred nanoseconds later, raises
it to fourteen. And the server records the clock in whole seconds: the example object, raised to
twelve at `100` ns with both writes succeeding, is raised again to fourteen at sixty seconds, a
hundred nanoseconds before a minute has passed since the first write. -/
theorem runObject_rescales_within_forbidden_window :
    (conflictedObservation.cluster.updateScale = none ∧
      Effect.updateScale ⟨"apps", "deployments"⟩ ⟨12, by decide, by decide⟩ ∈
        (reconcileStep .amd64 exampleDefaulting staleWpa conflictedObservation).2 ∧
      conflictedObservation.cluster.now ≤ hastyObservation.cluster.now ∧
      conflictedObservation.calculator.metricsClient.Timely conflictedObservation.cluster.now ∧
      hastyObservation.calculator.metricsClient.Timely hastyObservation.cluster.now ∧
      lookupScale hastyObservation.cluster
          (runObject .amd64 exampleDefaulting staleWpa [conflictedObservation]).spec.scaleTargetRef =
        .ok (⟨⟨12, by decide, by decide⟩, ⟨12, by decide, by decide⟩, "app=example"⟩,
          ⟨"apps", "deployments"⟩) ∧
      forcedReplicas (runObject .amd64 exampleDefaulting staleWpa [conflictedObservation]).spec
        ⟨12, by decide, by decide⟩ = none ∧
      Effect.updateScale ⟨"apps", "deployments"⟩ ⟨14, by decide, by decide⟩ ∈
        (reconcileStep .amd64 exampleDefaulting
          (runObject .amd64 exampleDefaulting staleWpa [conflictedObservation])
          hastyObservation).2 ∧
      hastyObservation.cluster.now < conflictedObservation.cluster.now + forbiddenWindow
        (runObject .amd64 exampleDefaulting staleWpa
          [conflictedObservation]).spec.upscaleForbiddenWindowSeconds) ∧
    (scaledObservation.cluster.updateScale = none ∧
      scaledObservation.cluster.updateStatus = none ∧
      Effect.updateScale ⟨"apps", "deployments"⟩ ⟨12, by decide, by decide⟩ ∈
        (reconcileStep .amd64 exampleDefaulting exampleWpa scaledObservation).2 ∧
      scaledObservation.cluster.now ≤ windowEdgeObservation.cluster.now ∧
      scaledObservation.calculator.metricsClient.Timely scaledObservation.cluster.now ∧
      windowEdgeObservation.calculator.metricsClient.Timely windowEdgeObservation.cluster.now ∧
      lookupScale windowEdgeObservation.cluster
          (runObject .amd64 exampleDefaulting exampleWpa [scaledObservation]).spec.scaleTargetRef =
        .ok (⟨⟨12, by decide, by decide⟩, ⟨12, by decide, by decide⟩, "app=example"⟩,
          ⟨"apps", "deployments"⟩) ∧
      forcedReplicas (runObject .amd64 exampleDefaulting exampleWpa [scaledObservation]).spec
        ⟨12, by decide, by decide⟩ = none ∧
      Effect.updateScale ⟨"apps", "deployments"⟩ ⟨14, by decide, by decide⟩ ∈
        (reconcileStep .amd64 exampleDefaulting
          (runObject .amd64 exampleDefaulting exampleWpa [scaledObservation])
          windowEdgeObservation).2 ∧
      windowEdgeObservation.cluster.now < scaledObservation.cluster.now + forbiddenWindow
        (runObject .amd64 exampleDefaulting exampleWpa
          [scaledObservation]).spec.upscaleForbiddenWindowSeconds) :=
  ⟨⟨rfl, by decide, by decide, exampleCalculator_timely _ (by decide),
    exampleCalculator_timely _ (by decide), by decide, by decide, by decide, by decide⟩,
    ⟨rfl, rfl, by decide, by decide, exampleCalculator_timely _ (by decide),
      exampleCalculatorAt_timely _ _, by decide, by decide, by decide, by decide⟩⟩

end Wpa
