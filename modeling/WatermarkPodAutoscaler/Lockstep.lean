import WatermarkPodAutoscaler.Reconcile

/-!
# Two objects through the metric pipeline

Several results compare two reconciliations at one observation whose objects differ only where
the metric pipeline does not look: the dry run against the live run, or two objects with
different statuses and the same last scale time. The pipeline is `computeReplicasForMetrics`,
`normalizeDesiredReplicas` and `shouldScale`. It reads the object only through its spec but
`DryRun`, its name and namespace, and its last scale time. It changes the object only by setting
conditions other than `DryRun`.

A `Lockstep` relation pins down what the pipeline reads, and setting the same condition on both
objects keeps it. Each stage of the pipeline gives two related objects the same result and the
same effects, and leaves them related (`Agree`). So each comparison owes only the fields of
`Lockstep` for its own relation: condition-only changes here, twins and mirrors in the dry-run
modules, and status variants in the status-independence module.
-/

namespace Wpa

theorem ableToScale_ne_dryRunCondition : ableToScale ≠ dryRunCondition := by decide

theorem scalingActive_ne_dryRunCondition : scalingActive ≠ dryRunCondition := by decide

theorem scalingLimited_ne_dryRunCondition : scalingLimited ≠ dryRunCondition := by decide

/-- What a relation between two objects owes for the metric pipeline to keep it. Related objects
are the same but for `spec.DryRun` and the status, and have the same last scale time. Setting the
same condition, other than `DryRun`, on both keeps them related. -/
structure Lockstep (Related : WatermarkPodAutoscaler → WatermarkPodAutoscaler → Prop) : Prop where
  eq_update : ∀ {wpa wpa'}, Related wpa wpa' →
    ∃ (dryRun : Bool) (status : WatermarkPodAutoscalerStatus),
      wpa = { wpa' with spec := { wpa'.spec with dryRun := dryRun }, status := status }
  lastScaleTime_eq : ∀ {wpa wpa'}, Related wpa wpa' →
    wpa.status.lastScaleTime = wpa'.status.lastScaleTime
  setCondition : ∀ {wpa wpa'} (now : ℤ) {conditionType : String},
    conditionType ≠ dryRunCondition → ∀ status reason message : String, Related wpa wpa' →
      Related (setCondition now wpa conditionType status reason message)
        (setCondition now wpa' conditionType status reason message)

/-- Two runs of a stage agree: the same result and the same effects, and objects left
related. -/
structure Agree (Related : WatermarkPodAutoscaler → WatermarkPodAutoscaler → Prop) {α β : Type}
    (run run' : α × WatermarkPodAutoscaler × List β) : Prop where
  result : run.1 = run'.1
  effects : run.2.2 = run'.2.2
  related : Related run.2.1 run'.2.1

/-- A change of conditions only is a lockstep relation. -/
theorem ConditionsOnly.lockstep : Lockstep ConditionsOnly where
  eq_update changed := ⟨_, _, changed.symm⟩
  lastScaleTime_eq changed := changed.lastScaleTime_eq.symm
  setCondition _ _ _ _ _ _ changed :=
    ((setCondition_conditionsOnly ..).symm.trans changed).trans (setCondition_conditionsOnly ..)

section

variable {Related : WatermarkPodAutoscaler → WatermarkPodAutoscaler → Prop}
  (lockstep : Lockstep Related) (now : ℤ)

include lockstep

section

variable {replicaCalc : ReplicaCalculatorItf} (oblivious : replicaCalc.Oblivious) (scale : Scale)

include oblivious

theorem evaluateMetric_agree {wpa wpa' : WatermarkPodAutoscaler} (related : Related wpa wpa')
    (metricSpec : MetricSpec) :
    Agree Related (evaluateMetric replicaCalc now scale wpa metricSpec)
      (evaluateMetric replicaCalc now scale wpa' metricSpec) := by
  have failed := fun reason message =>
    lockstep.setCondition now scalingActive_ne_dryRunCondition conditionFalse reason message related
  obtain ⟨dryRun, status, rfl⟩ := lockstep.eq_update related
  have calculated := oblivious wpa' status dryRun scale metricSpec
  unfold evaluateMetric evaluateSource missingWatermark
  rw [calculated.1, calculated.2]
  split_ifs <;> (repeat' split) <;>
    first
      | exact ⟨rfl, rfl, related⟩
      | exact ⟨rfl, rfl, failed ..⟩

theorem metricsLoop_agree :
    ∀ (rest : List MetricSpec) {wpa wpa' : WatermarkPodAutoscaler} (index : ℕ)
      (accumulator : MetricsAccumulator), Related wpa wpa' →
      Agree Related (metricsLoop replicaCalc now scale wpa index rest accumulator)
        (metricsLoop replicaCalc now scale wpa' index rest accumulator)
  | [], _, _, _, _, related => ⟨rfl, rfl, related⟩
  | metricSpec :: rest, wpa, wpa', index, accumulator, related => by
      have evaluated := evaluateMetric_agree lockstep now oblivious scale related metricSpec
      have later := fun next => metricsLoop_agree rest (index + 1) next evaluated.related
      simp only [metricsLoop, evaluated.result, evaluated.effects]
      split
      · exact ⟨(later _).result, by rw [(later _).effects], (later _).related⟩
      · exact ⟨(later _).result, by rw [(later _).effects], (later _).related⟩
      · exact ⟨rfl, rfl, evaluated.related⟩
      · exact ⟨rfl, rfl, evaluated.related⟩

theorem computeReplicasForMetrics_agree {wpa wpa' : WatermarkPodAutoscaler}
    (related : Related wpa wpa') :
    Agree Related (computeReplicasForMetrics replicaCalc now wpa scale)
      (computeReplicasForMetrics replicaCalc now wpa' scale) := by
  have loop := metricsLoop_agree lockstep now oblivious scale wpa'.spec.metrics 0
    ⟨0, "", List.replicate wpa'.spec.metrics.length MetricStatus.zero, 0⟩ related
  obtain ⟨dryRun, status, rfl⟩ := lockstep.eq_update related
  unfold computeReplicasForMetrics
  dsimp only
  rw [loop.result, loop.effects]
  split
  · exact ⟨rfl, rfl, lockstep.setCondition now scalingActive_ne_dryRunCondition _ _ _ loop.related⟩
  · exact ⟨rfl, rfl, loop.related⟩

end

theorem normalizeDesiredReplicas_agree (platform : Platform) {wpa wpa' : WatermarkPodAutoscaler}
    (related : Related wpa wpa') (currentReplicas desiredReplicas : Int32) :
    Agree Related (normalizeDesiredReplicas platform now wpa currentReplicas desiredReplicas)
      (normalizeDesiredReplicas platform now wpa' currentReplicas desiredReplicas) := by
  have limited := fun status reason message =>
    lockstep.setCondition now scalingLimited_ne_dryRunCondition status reason message related
  obtain ⟨dryRun, status, rfl⟩ := lockstep.eq_update related
  exact ⟨rfl, rfl, limited ..⟩

/-- The gate reads the last scale time, which related objects share. -/
theorem shouldScale_agree {wpa wpa' : WatermarkPodAutoscaler} (related : Related wpa wpa')
    (currentReplicas desiredReplicas : Int32) (timestamp : ℤ) :
    Agree Related (shouldScale now wpa currentReplicas desiredReplicas timestamp)
      (shouldScale now wpa' currentReplicas desiredReplicas timestamp) := by
  have backoff := fun {wpa wpa'} status reason message =>
    @Lockstep.setCondition _ lockstep wpa wpa' now _ ableToScale_ne_dryRunCondition status reason
      message
  have stamp := lockstep.lastScaleTime_eq related
  obtain ⟨dryRun, status, rfl⟩ := lockstep.eq_update related
  unfold shouldScale
  dsimp only at stamp ⊢
  rw [stamp]
  split
  · exact ⟨rfl, rfl, related⟩
  · split_ifs <;>
      first
        | exact ⟨rfl, rfl, related⟩
        | exact ⟨rfl, rfl, backoff _ _ _ related⟩
        | exact ⟨rfl, rfl, backoff _ _ _ (backoff _ _ _ related)⟩

end

end Wpa
