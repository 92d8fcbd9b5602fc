import WatermarkPodAutoscaler.Writes
import WatermarkPodAutoscaler.DryRun

/-!
# What a run writes

`runEffects` is the trace of a run: the effects of each reconciliation, of the object the server
holds after the ones before. A property of objects that every reconciliation keeps, where every
reconciliation of such an object has effects of some kind, gives effects of that kind along the
whole run (`runEffects_holds`). The server changes an object's spec only through the update that
persists its defaults, so where defaulting keeps `DryRun`, an object in dry-run mode stays in it,
and no reconciliation of the run writes the target's scale (`runEffects_dryRun_never_scales`).

The server's `LastScaleTime` moves only with a status written by `setStatus` on a rescale: in
dry-run mode, or after a scale write the cluster accepted. A failed scale write records the
replica count only, so it starts no forbidden window
(`reconcileStep_moves_lastScaleTime_only_on_rescale`).
-/

namespace Wpa

section

variable (platform : Platform) (defaulting : Defaulting)

/-- The effects of a run of reconciliations, one per observation, each of the object the server
holds after the ones before. -/
def runEffects : WatermarkPodAutoscaler → List Observation → List Effect
  | _, [] => []
  | wpa, observation :: observations =>
      (reconcileStep platform defaulting wpa observation).2 ++
        runEffects (reconcileStep platform defaulting wpa observation).1 observations

/-- A property of objects that every reconciliation keeps, and that makes every effect of a
reconciliation allowed, makes every effect of a run allowed. -/
theorem runEffects_holds (holds : WatermarkPodAutoscaler → Prop) (allowed : Effect → Prop)
    (keeps : ∀ wpa observation, holds wpa → holds (reconcileStep platform defaulting wpa observation).1)
    (steps : ∀ wpa observation, holds wpa →
      ∀ effect ∈ (reconcileStep platform defaulting wpa observation).2, allowed effect)
    {wpa : WatermarkPodAutoscaler} (start : holds wpa) (observations : List Observation) :
    ∀ effect ∈ runEffects platform defaulting wpa observations, allowed effect := by
  induction observations generalizing wpa with
  | nil => exact fun _ absent => absurd absent (List.not_mem_nil _)
  | cons observation observations ih =>
      exact List.forall_mem_append.mpr
        ⟨steps wpa observation start, ih (keeps wpa observation start)⟩

end

/-- A property of specs that holds of the object's spec and of the spec of every object update
holds of the spec of the object the server keeps. -/
theorem persistedObject_spec_holds (holds : WatermarkPodAutoscalerSpec → Prop) (cluster : Cluster)
    (wpa : WatermarkPodAutoscaler) (effects : List Effect) (start : holds wpa.spec)
    (updated : ∀ object, Effect.updateObject object ∈ effects → holds object.spec) :
    holds (persistedObject cluster wpa effects).spec := by
  induction effects generalizing wpa with
  | nil => exact start
  | cons effect effects ih =>
      have later := fun object member => updated object (List.mem_cons_of_mem _ member)
      cases effect with
      | updateObject object =>
          refine ih _ ?_ later
          split
          · exact updated object (List.mem_cons_self _ _)
          · exact start
      | updateStatus => exact ih _ (by split <;> exact start) later
      | event => exact ih _ start later
      | gauge => exact ih _ start later
      | updateScale => exact ih _ start later

section

variable (platform : Platform) (defaulting : Defaulting)

/-- The server keeps an object in dry-run mode where defaulting keeps `DryRun`. -/
theorem reconcileStep_keeps_dryRun
    (keepsDryRun : ∀ object,
      (defaulting.defaultWatermarkPodAutoscaler object).spec.dryRun = object.spec.dryRun)
    {wpa : WatermarkPodAutoscaler} (dryRun : wpa.spec.dryRun = true) (observation : Observation) :
    (reconcileStep platform defaulting wpa observation).1.spec.dryRun = true :=
  persistedObject_spec_holds (fun spec => spec.dryRun = true) _ _ _ dryRun fun object updated => by
    obtain ⟨-, rfl⟩ := updateObject_mem_Reconcile updated
    exact (keepsDryRun wpa).trans dryRun

/-- Where defaulting keeps `DryRun`, no reconciliation of a run from an object in dry-run mode
writes the target's scale, whatever the metrics, scales, clocks and write failures. -/
theorem runEffects_dryRun_never_scales
    (keepsDryRun : ∀ object,
      (defaulting.defaultWatermarkPodAutoscaler object).spec.dryRun = object.spec.dryRun)
    {wpa : WatermarkPodAutoscaler} (dryRun : wpa.spec.dryRun = true)
    (observations : List Observation) (groupResource : GroupResource) (replicas : Int32) :
    Effect.updateScale groupResource replicas ∉ runEffects platform defaulting wpa observations :=
  fun written => runEffects_holds platform defaulting (fun wpa => wpa.spec.dryRun = true)
    (fun effect => effect ≠ .updateScale groupResource replicas)
    (fun _ observation live => reconcileStep_keeps_dryRun platform defaulting keepsDryRun live
      observation)
    (fun _ observation live _ member same =>
      Reconcile_writes_no_scale platform _ defaulting observation.cluster live groupResource
        replicas (same ▸ member))
    dryRun observations _ written rfl

end

theorem runEffects_dryRun_never_scales_example :
    (rescaledWpa true).spec.dryRun = true ∧
      (∀ object, (exampleDefaulting.defaultWatermarkPodAutoscaler object).spec.dryRun =
        object.spec.dryRun) ∧
      ∀ groupResource replicas, Effect.updateScale groupResource replicas ∉
        runEffects .amd64 exampleDefaulting (rescaledWpa true) [scaledObservation, scaledObservation]
  :=
  ⟨rfl, fun _ => rfl, runEffects_dryRun_never_scales .amd64 exampleDefaulting (fun _ => rfl) rfl _⟩

/-- Every status the effects write keeps the last scale time of `wpa`, unless `wpa` is in dry-run
mode, or the cluster accepts scale writes and the effects hold one. -/
def MovesOnRescale (cluster : Cluster) (wpa : WatermarkPodAutoscaler) (effects : List Effect) :
    Prop :=
  ∀ status, Effect.updateStatus status ∈ effects →
    status.lastScaleTime ≠ wpa.status.lastScaleTime →
      wpa.spec.dryRun = true ∨
        cluster.updateScale = none ∧
          ∃ targetGR replicas, Effect.updateScale targetGR replicas ∈ effects

namespace MovesOnRescale

variable {cluster : Cluster} {wpa : WatermarkPodAutoscaler} {effects effects' : List Effect}

/-- Effects whose status writes all keep the last scale time. -/
theorem of_keeps (keeps : ∀ status, Effect.updateStatus status ∈ effects →
    status.lastScaleTime = wpa.status.lastScaleTime) : MovesOnRescale cluster wpa effects :=
  fun status written moved => absurd (keeps status written) moved

theorem of_reports (reports : ∀ effect ∈ effects, effect.isReport) :
    MovesOnRescale cluster wpa effects :=
  of_keeps fun _ written => by simpa using reports _ written

theorem append (first : MovesOnRescale cluster wpa effects)
    (second : MovesOnRescale cluster wpa effects') :
    MovesOnRescale cluster wpa (effects ++ effects') := by
  intro status written moved
  rcases List.mem_append.mp written with early | late
  · exact (first status early moved).imp_right fun ⟨accepted, targetGR, replicas, scaled⟩ =>
      ⟨accepted, targetGR, replicas, List.mem_append_left _ scaled⟩
  · exact (second status late moved).imp_right fun ⟨accepted, targetGR, replicas, scaled⟩ =>
      ⟨accepted, targetGR, replicas, List.mem_append_right _ scaled⟩

/-- The predicate reads the object's spec and last scale time only. -/
theorem congr {wpa' : WatermarkPodAutoscaler} (changed : ConditionsOnly wpa wpa')
    (moves : MovesOnRescale cluster wpa' effects) : MovesOnRescale cluster wpa effects := by
  intro status written moved
  rw [← changed.spec_eq]
  exact moves status written (changed.lastScaleTime_eq ▸ moved)

/-- A status write keeps the last scale time when the status written does. -/
theorem updateStatusIfNeeded (wpaStatus : WatermarkPodAutoscalerStatus)
    (written : WatermarkPodAutoscaler)
    (sameStamp : written.status.lastScaleTime = wpa.status.lastScaleTime) :
    MovesOnRescale cluster wpa (Wpa.updateStatusIfNeeded cluster wpaStatus written).2 := by
  refine of_keeps fun status sent => ?_
  unfold Wpa.updateStatusIfNeeded at sent
  split at sent
  · cases sent
  · obtain rfl : status = written.status := by simpa using sent
    exact sameStamp

end MovesOnRescale

/-- `finishReconcile` moves the last scale time only through `setStatus` on a rescale: in dry-run
mode, or after the scale write it makes, when the cluster accepts it. -/
theorem finishReconcile_movesOnRescale (cluster : Cluster)
    (wpaStatusOriginal : WatermarkPodAutoscalerStatus) (targetGR : GroupResource)
    (currentReplicas : Int32) (rescale : Bool) (desiredReplicas : Int32)
    (metricStatuses : List MetricStatus) (wpa : WatermarkPodAutoscaler) (effects : List Effect)
    (reports : ∀ effect ∈ effects, effect.isReport) :
    MovesOnRescale cluster wpa (finishReconcile cluster wpaStatusOriginal targetGR currentReplicas
      rescale desiredReplicas metricStatuses wpa effects).2.2 := by
  have noStatus : ∀ status, Effect.updateStatus status ∉ effects :=
    fun _ written => by simpa using reports _ written
  intro status written moved
  by_cases dryRun : wpa.spec.dryRun
  · exact .inl dryRun
  refine .inr ?_
  cases rescale
  · -- No rescale: the status written keeps the last scale time.
    simp only [finishReconcile, completeReconcile, Bool.false_eq_true, ↓reduceIte,
      List.mem_append, noStatus, List.mem_singleton, reduceCtorEq, or_false, false_or,
      updateStatus_mem_updateStatusIfNeeded] at written
    obtain ⟨-, rfl⟩ := written
    simp at moved
  · cases accepted : cluster.updateScale with
    | none =>
        exact ⟨rfl, targetGR, desiredReplicas, by
          simp [finishReconcile, completeReconcile, dryRun, accepted]⟩
    | some err =>
        -- The scale write fails: the status records the count only.
        simp only [finishReconcile, ↓reduceIte, setCondition_spec, dryRun, accepted,
          Bool.false_eq_true] at written
        split at written <;> simp [noStatus] at written <;> obtain ⟨-, rfl⟩ := written <;>
          simp [setCurrentReplicasInStatus] at moved


/-- The metric-driven branch, whose snapshot holds the object's last scale time. -/
theorem metricDriven_movesOnRescale (platform : Platform) (replicaCalc : ReplicaCalculatorItf)
    (cluster : Cluster) (wpaStatusOriginal : WatermarkPodAutoscalerStatus)
    (targetGR : GroupResource) (currentScale : Scale) (wpa : WatermarkPodAutoscaler) :
    MovesOnRescale cluster wpa
      (metricDriven platform replicaCalc cluster wpaStatusOriginal targetGR currentScale wpa).2.2 := by
  have reports := computeReplicasForMetrics_reportsOnly replicaCalc cluster.now wpa currentScale
  unfold metricDriven
  dsimp only
  split
  · exact .of_reports reports.2
  · split <;> exact ((MovesOnRescale.of_reports reports.2).append (.updateStatusIfNeeded _ _
      (by simp [setCurrentReplicasInStatus, reports.1.lastScaleTime_eq]))).append (.of_reports (by simp))
  · exact .congr ((reports.1.trans (normalizeDesiredReplicas_conditionsOnly ..)).trans
      (shouldScale_conditionsOnly ..)) (finishReconcile_movesOnRescale _ _ _ _ _ _ _ _ _
        (by simpa [or_imp, forall_and] using reports.2))

theorem reconcileScale_movesOnRescale (platform : Platform) (replicaCalc : ReplicaCalculatorItf)
    (cluster : Cluster) (targetGR : GroupResource) (currentScale : Scale)
    (wpa : WatermarkPodAutoscaler) :
    MovesOnRescale cluster wpa
      (reconcileScale platform replicaCalc cluster targetGR currentScale wpa).2.2 := by
  unfold reconcileScale
  dsimp only
  split_ifs
  · exact .congr ((setCondition_conditionsOnly ..).trans (setCondition_conditionsOnly ..))
      (finishReconcile_movesOnRescale _ _ _ _ _ _ _ _ _ (by simp))
  · split
    · exact .congr (setCondition_conditionsOnly ..)
        (finishReconcile_movesOnRescale _ _ _ _ _ _ _ _ _ (by simp))
    · exact .congr (setCondition_conditionsOnly ..) (metricDriven_movesOnRescale _ _ _ _ _ _ _)

/-- Every status a reconciliation writes keeps the last scale time of the object it read, unless
the object is in dry-run mode, or the reconciliation writes the scale and the cluster accepts the
write. -/
theorem Reconcile_movesOnRescale (platform : Platform) (replicaCalc : ReplicaCalculatorItf)
    (defaulting : Defaulting) (cluster : Cluster) (wpaInstance : WatermarkPodAutoscaler) :
    MovesOnRescale cluster wpaInstance
      (Reconcile platform replicaCalc defaulting cluster wpaInstance).2.2 := by
  have reconciled : MovesOnRescale cluster wpaInstance
      (reconcileWPA platform replicaCalc cluster (withDryRunCondition cluster.now wpaInstance)).2.2 := by
    refine .congr (withDryRunCondition_conditionsOnly cluster.now wpaInstance) ?_
    unfold reconcileWPA
    split
    · exact .of_reports (by simp)
    · exact reconcileScale_movesOnRescale _ _ _ _ _ _
  unfold Reconcile
  split
  · exact .of_reports (by simp)
  · exact .of_reports (by simp)
  · split_ifs
    · split <;> exact .of_keeps (by simp)
    · split
      · dsimp only
        split <;> refine .of_keeps fun status written => ?_ <;> simp at written <;>
          obtain ⟨-, rfl⟩ := written <;> rfl
      · dsimp only
        split
        · exact reconciled.append (.of_reports (by simp))
        · exact reconciled

/-- A reconciliation moves the last scale time of the object the server holds only to its own
clock in whole seconds, and only when the object is in dry-run mode, or when it wrote the
target's scale and the cluster accepted the write: a failed scale write starts no forbidden
window. -/
theorem reconcileStep_moves_lastScaleTime_only_on_rescale (platform : Platform)
    (defaulting : Defaulting) (wpa : WatermarkPodAutoscaler) (observation : Observation)
    (stored : wpa.status.Stored)
    (moved : (reconcileStep platform defaulting wpa observation).1.status.lastScaleTime ≠
      wpa.status.lastScaleTime) :
    (reconcileStep platform defaulting wpa observation).1.status.lastScaleTime =
        some (wholeSeconds observation.cluster.now) ∧
      (wpa.spec.dryRun = true ∨
        observation.cluster.updateScale = none ∧
          ∃ targetGR replicas,
            Effect.updateScale targetGR replicas ∈ (reconcileStep platform defaulting wpa observation).2) := by
  have stamping := Reconcile_stampsClock platform (observation.calculator.toItf platform) defaulting
    observation.cluster wpa
  have moves := Reconcile_movesOnRescale platform (observation.calculator.toItf platform) defaulting
    observation.cluster wpa
  refine (persistedObject_lastScaleTime (fun time => time = wpa.status.lastScaleTime ∨
    time = some (wholeSeconds observation.cluster.now) ∧ (wpa.spec.dryRun = true ∨
      observation.cluster.updateScale = none ∧ ∃ targetGR replicas, Effect.updateScale targetGR
        replicas ∈ (reconcileStep platform defaulting wpa observation).2))
    _ _ _ (.inl rfl) fun status written => ?_).resolve_left moved
  by_cases kept : status.lastScaleTime = wpa.status.lastScaleTime
  · exact .inl (kept ▸ stored.lastScaleTime_map)
  · refine .inr ⟨?_, moves status written kept⟩
    rw [(stamping.keeps status written).resolve_left kept]
    rfl

set_option maxRecDepth 2000 in
/-- The example object, scaled at `100` ns, records the clock's whole second, `0`. -/
theorem reconcileStep_moves_lastScaleTime_only_on_rescale_when_scaling :
    exampleWpa.status.Stored ∧
    (reconcileStep .amd64 exampleDefaulting exampleWpa scaledObservation).1.status.lastScaleTime ≠
        exampleWpa.status.lastScaleTime ∧
      (reconcileStep .amd64 exampleDefaulting exampleWpa scaledObservation).1.status.lastScaleTime =
          some (wholeSeconds scaledObservation.cluster.now) ∧
        (exampleWpa.spec.dryRun = true ∨
          scaledObservation.cluster.updateScale = none ∧
            ∃ targetGR replicas, Effect.updateScale targetGR replicas ∈
              (reconcileStep .amd64 exampleDefaulting exampleWpa scaledObservation).2) :=
  have moved :
      (reconcileStep .amd64 exampleDefaulting exampleWpa scaledObservation).1.status.lastScaleTime ≠
        exampleWpa.status.lastScaleTime := by decide
  ⟨by decide, moved, reconcileStep_moves_lastScaleTime_only_on_rescale .amd64 exampleDefaulting
    exampleWpa scaledObservation (by decide) moved⟩

end Wpa
