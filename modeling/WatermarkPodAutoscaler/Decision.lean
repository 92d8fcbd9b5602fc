import WatermarkPodAutoscaler.Reconcile

/-!
# What a reconciliation decides

A reconciliation writes the target's scale at most once, and stamps `LastScaleTime` only when it
rescales. Both carry the count it decided: a forced count for a target outside
`[MinReplicas, MaxReplicas]` or at zero replicas, or a non-negative metric proposal passed
through the normalizer. `Decided` names these counts, and `Reconcile_decidesWrites` shows that
every scale write of a reconciliation, and the `DesiredReplicas` of every rescale it records,
is one of them. The bounds on written counts are then facts about `Decided` alone.
-/

namespace Wpa

/-- The counts a reconciliation may decide for a target whose scale it found. -/
def Decided (platform : Platform) (wpa : WatermarkPodAutoscaler) (scale : Scale)
    (replicas : Int32) : Prop :=
  scale.specReplicas ≠ 0 ∧
    (forcedReplicas wpa.spec scale.statusReplicas = some replicas ∨
      forcedReplicas wpa.spec scale.statusReplicas = none ∧
        ∃ desiredReplicas : Int32, 0 ≤ desiredReplicas ∧
          replicas = (convertDesiredReplicasWithRules platform wpa scale.statusReplicas
            desiredReplicas (wpa.spec.minReplicas.getD 0) wpa.spec.maxReplicas).1.replicas)

theorem Decided.congr {platform : Platform} {wpa wpa' : WatermarkPodAutoscaler} {scale : Scale}
    {replicas : Int32} (sameSpec : wpa'.spec = wpa.spec) :
    Decided platform wpa' scale replicas ↔ Decided platform wpa scale replicas := by
  simp only [Decided, convertDesiredReplicasWithRules_replicas_congr sameSpec, sameSpec]

/-- Every scale write in `result`, and the desired count it records when it stamps a new
`LastScaleTime` on the object, is a count `decided` allows. -/
def DecidesWrites (decided : Int32 → Prop) (wpa : WatermarkPodAutoscaler)
    (result : WatermarkPodAutoscaler × List Effect) : Prop :=
  (∀ groupResource replicas, Effect.updateScale groupResource replicas ∈ result.2 →
    decided replicas) ∧
  (result.1.status.lastScaleTime ≠ wpa.status.lastScaleTime →
    decided result.1.status.desiredReplicas)

theorem ReportsOnly.decidesWrites {decided : Int32 → Prop} {wpa : WatermarkPodAutoscaler}
    {result : WatermarkPodAutoscaler × List Effect} (reports : ReportsOnly wpa result) :
    DecidesWrites decided wpa result :=
  ⟨fun _ _ written => by simpa using reports.2 _ written,
    fun stamped => absurd reports.1.lastScaleTime_eq stamped⟩

theorem DecidesWrites.mono {decided decided' : Int32 → Prop} {wpa wpa' : WatermarkPodAutoscaler}
    {result : WatermarkPodAutoscaler × List Effect} (writes : DecidesWrites decided wpa' result)
    (implies : ∀ replicas, decided replicas → decided' replicas)
    (sameStamp : wpa'.status.lastScaleTime = wpa.status.lastScaleTime) :
    DecidesWrites decided' wpa result :=
  ⟨fun groupResource replicas written => implies _ (writes.1 groupResource replicas written),
    fun stamped => implies _ (writes.2 (sameStamp ▸ stamped))⟩

/-- `finishReconcile` writes the scale, and stamps the object, only on a rescale, and then with
the desired count. -/
theorem finishReconcile_decidesWrites (cluster : Cluster)
    (wpaStatusOriginal : WatermarkPodAutoscalerStatus) (targetGR : GroupResource)
    (currentReplicas : Int32) (rescale : Bool) (desiredReplicas : Int32)
    (metricStatuses : List MetricStatus) (wpa : WatermarkPodAutoscaler) (effects : List Effect)
    (reports : ∀ effect ∈ effects, effect.isReport) :
    DecidesWrites (fun replicas => rescale = true ∧ replicas = desiredReplicas) wpa
      (finishReconcile cluster wpaStatusOriginal targetGR currentReplicas rescale desiredReplicas
        metricStatuses wpa effects).2 := by
  have noWrite : ∀ groupResource replicas, Effect.updateScale groupResource replicas ∉ effects :=
    fun _ _ written => by simpa using reports _ written
  cases rescale
  · exact ⟨by simp [finishReconcile, completeReconcile, noWrite],
      by simp [finishReconcile, completeReconcile]⟩
  · by_cases dryRun : wpa.spec.dryRun
    · exact ⟨by simp [finishReconcile, dryRun, noWrite], by simp [finishReconcile, dryRun]⟩
    · cases scaleError : cluster.updateScale with
      | none =>
          exact ⟨by simp [finishReconcile, completeReconcile, dryRun, scaleError, noWrite],
            by simp [finishReconcile, completeReconcile, dryRun, scaleError]⟩
      | some err =>
          simp only [finishReconcile, setCondition_spec, dryRun, scaleError, Bool.false_eq_true,
            ↓reduceIte]
          split <;> simp [setCurrentReplicasInStatus, DecidesWrites, noWrite]

/-- Where `finishReconcile` does not rescale, or its rescale is applied or only recorded, the
object records the desired count it was given on a rescale and the current count otherwise. -/
theorem finishReconcile_desiredReplicas (cluster : Cluster)
    (wpaStatusOriginal : WatermarkPodAutoscalerStatus) (targetGR : GroupResource)
    (currentReplicas : Int32) (rescale : Bool) (desiredReplicas : Int32)
    (metricStatuses : List MetricStatus) (wpa : WatermarkPodAutoscaler) (effects : List Effect)
    (applied : rescale = false ∨ cluster.updateScale = none ∨ wpa.spec.dryRun = true) :
    (finishReconcile cluster wpaStatusOriginal targetGR currentReplicas rescale desiredReplicas
        metricStatuses wpa effects).2.1.status.desiredReplicas =
      if rescale then desiredReplicas else currentReplicas := by
  cases rescale
  · simp [finishReconcile, completeReconcile]
  · by_cases dryRun : wpa.spec.dryRun
    · simp [finishReconcile, dryRun]
    · have scaled : cluster.updateScale = none := by simpa [dryRun] using applied
      simp [finishReconcile, completeReconcile, dryRun, scaled]

/-- The metric-driven branch decides a non-negative proposal through the normalizer. -/
theorem metricDriven_decidesWrites (platform : Platform) (replicaCalc : ReplicaCalculatorItf)
    (cluster : Cluster) (wpaStatusOriginal : WatermarkPodAutoscalerStatus)
    (targetGR : GroupResource) (currentScale : Scale) (wpa : WatermarkPodAutoscaler) :
    DecidesWrites (fun replicas => ∃ desiredReplicas : Int32, 0 ≤ desiredReplicas ∧
        replicas = (convertDesiredReplicasWithRules platform wpa currentScale.statusReplicas
          desiredReplicas (wpa.spec.minReplicas.getD 0) wpa.spec.maxReplicas).1.replicas) wpa
      (metricDriven platform replicaCalc cluster wpaStatusOriginal targetGR currentScale wpa).2 := by
  have computed := computeReplicasForMetrics_reportsOnly replicaCalc cluster.now wpa currentScale
  have noWrite : ∀ groupResource replicas, Effect.updateScale groupResource replicas ∉
      (computeReplicasForMetrics replicaCalc cluster.now wpa currentScale).2.2 :=
    fun _ _ written => by simpa using computed.2 _ written
  unfold metricDriven
  dsimp only
  split
  · exact computed.decidesWrites
  · split <;> exact ⟨by simp [noWrite], by simp [setCurrentReplicasInStatus,
      computed.1.lastScaleTime_eq]⟩
  · refine (finishReconcile_decidesWrites _ _ _ _ _ _ _ _ _ ?_).mono ?_
      ((computed.1.trans (normalizeDesiredReplicas_conditionsOnly ..)).trans
        (shouldScale_conditionsOnly ..)).lastScaleTime_eq
    · simpa [or_imp, forall_and] using computed.2
    · rename_i _ result _
      rintro replicas ⟨-, rfl⟩
      refine ⟨if decide (result.replicas > 0) then result.replicas else 0, ?_,
        (convertDesiredReplicasWithRules_replicas_congr computed.1.spec_eq ..).trans ?_⟩
      · split_ifs with positive
        · exact le_of_lt (by simpa using positive)
        · exact le_refl 0
      · rw [computed.1.spec_eq]

/-- Every scale write of a reconciliation that found the scale, and every rescale it records,
carries a decided count. -/
theorem reconcileScale_decidesWrites (platform : Platform) (replicaCalc : ReplicaCalculatorItf)
    (cluster : Cluster) (targetGR : GroupResource) (currentScale : Scale)
    (wpa : WatermarkPodAutoscaler) :
    DecidesWrites (Decided platform wpa currentScale) wpa
      (reconcileScale platform replicaCalc cluster targetGR currentScale wpa).2 := by
  unfold reconcileScale
  dsimp only
  split_ifs with disabled
  · exact (finishReconcile_decidesWrites _ _ _ _ _ _ _ _ _ (by simp)).mono
      (fun _ rescaled => absurd rescaled.1 Bool.false_ne_true) (by simp)
  · split
    · rename_i forced
      exact (finishReconcile_decidesWrites _ _ _ _ _ _ _ _ _ (by simp)).mono
        (fun _ decided => ⟨disabled, .inl (decided.2 ▸ by simpa using forced)⟩) (by simp)
    · rename_i forced
      refine (metricDriven_decidesWrites _ _ _ _ _ _ _).mono ?_ (by simp)
      rintro replicas ⟨desiredReplicas, nonnegative, rfl⟩
      refine ⟨disabled, .inr ⟨by simpa using forced, desiredReplicas, nonnegative, ?_⟩⟩
      simp only [setCondition_spec]
      exact convertDesiredReplicasWithRules_replicas_congr (setCondition_spec ..) ..

/-- The counts a reconciliation may decide for the target whose scale its lookup finds. -/
def DecidedForTarget (platform : Platform) (cluster : Cluster) (wpa : WatermarkPodAutoscaler)
    (replicas : Int32) : Prop :=
  ∃ currentScale targetGR, lookupScale cluster wpa.spec.scaleTargetRef = .ok (currentScale, targetGR) ∧
    Decided platform wpa currentScale replicas

theorem reconcileWPA_decidesWrites (platform : Platform) (replicaCalc : ReplicaCalculatorItf)
    (cluster : Cluster) (wpa : WatermarkPodAutoscaler) :
    DecidesWrites (DecidedForTarget platform cluster wpa) wpa
      (reconcileWPA platform replicaCalc cluster wpa).2 := by
  unfold reconcileWPA
  split
  · exact ⟨by simp, by simp⟩
  · rename_i currentScale targetGR found
    exact (reconcileScale_decidesWrites ..).mono (fun _ decided => ⟨_, _, found, decided⟩) rfl

/-- `Reconcile` adds no scale write and no rescale to what `reconcileWPA` decides for the object
with its `DryRun` condition. -/
theorem Reconcile_decidesWrites_of_reconcileWPA {platform : Platform}
    {replicaCalc : ReplicaCalculatorItf} {defaulting : Defaulting} {cluster : Cluster}
    {wpaInstance : WatermarkPodAutoscaler} {decided : Int32 → Prop}
    (reconciled : DecidesWrites decided wpaInstance
      (reconcileWPA platform replicaCalc cluster (withDryRunCondition cluster.now wpaInstance)).2) :
    DecidesWrites decided wpaInstance
      (Reconcile platform replicaCalc defaulting cluster wpaInstance).2 := by
  unfold Reconcile
  split
  · exact ⟨by simp, by simp⟩
  · exact ⟨by simp, by simp⟩
  · split_ifs
    · split <;> exact ⟨by simp, by simp⟩
    · split
      · dsimp only
        split <;> exact ⟨by simp, by simp⟩
      · dsimp only
        split
        · exact ⟨fun _ _ written => reconciled.1 _ _ (by simpa using written),
            fun stamped => by simpa using reconciled.2 (by simpa using stamped)⟩
        · exact reconciled

/-- Every scale write of a reconciliation, and every rescale it records on the object, carries a
count decided for the target's scale. -/
theorem Reconcile_decidesWrites (platform : Platform) (replicaCalc : ReplicaCalculatorItf)
    (defaulting : Defaulting) (cluster : Cluster) (wpaInstance : WatermarkPodAutoscaler) :
    DecidesWrites (DecidedForTarget platform cluster wpaInstance) wpaInstance
      (Reconcile platform replicaCalc defaulting cluster wpaInstance).2 := by
  have conditioned := withDryRunCondition_conditionsOnly cluster.now wpaInstance
  exact Reconcile_decidesWrites_of_reconcileWPA
    ((reconcileWPA_decidesWrites platform replicaCalc cluster
      (withDryRunCondition cluster.now wpaInstance)).mono
      (fun replicas decided => by
        simpa only [DecidedForTarget, Decided.congr conditioned.spec_eq, conditioned.spec_eq]
          using decided)
      conditioned.lastScaleTime_eq)

end Wpa
