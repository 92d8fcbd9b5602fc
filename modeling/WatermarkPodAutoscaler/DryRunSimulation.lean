import WatermarkPodAutoscaler.StatusIndependence

/-!
# A dry run simulates the live run

`Reconcile_dryRun_matches_live` compares one reconciliation of an object in dry-run mode with the
same reconciliation in live mode. Along a run the object each reconciliation reads is the one the
API server kept after the last, and the server keeps only what was written: a write that
`updateStatusIfNeeded` skips leaves the server without the `DryRun` condition that `Reconcile`
set before the snapshot. So the status the server keeps is, up to `StatusTwins`, the status the
reconciliation ends with in memory whenever it reaches a status write (`PersistsView`), and the
status it had when it never does.

Two runs over the same observations, one from an object in dry-run mode and one from the same
object in live mode, every scale and status write succeeding, then keep twin objects on the
server at every step (`runObject_dryRun_simulates_live`): the dry run records in the status the
replica counts, metric statuses, last scale times and conditions that the live run enacts.
-/

namespace Wpa

namespace StatusTwins

variable {status middle status' : WatermarkPodAutoscalerStatus}

theorem symm (twins : StatusTwins status status') : StatusTwins status' status :=
  ⟨twins.currentReplicas.symm, twins.desiredReplicas.symm, twins.currentMetrics.symm,
    twins.lastScaleTime.symm, twins.conditions.symm⟩

theorem trans (first : StatusTwins status middle) (second : StatusTwins middle status') :
    StatusTwins status status' :=
  ⟨first.currentReplicas.trans second.currentReplicas,
    first.desiredReplicas.trans second.desiredReplicas,
    first.currentMetrics.trans second.currentMetrics,
    first.lastScaleTime.trans second.lastScaleTime, first.conditions.trans second.conditions⟩

/-- Storing a status keeps its twins: it changes no field the view hides or shows apart. -/
theorem stored (twins : StatusTwins status status') : StatusTwins status.stored status'.stored := by
  have view : ∀ conditions : List Condition, conditionsView (conditions.map Condition.stored) =
      (conditionsView conditions).map Condition.stored := fun conditions => by
    simp only [conditionsView, List.filter_map, List.map_map]
    refine congrArg₂ List.map (funext fun condition => ?_) rfl
    simp only [Function.comp_apply, Condition.blankAbleToScale, Condition.stored]
    split_ifs <;> rfl
  exact ⟨twins.currentReplicas, twins.desiredReplicas, twins.currentMetrics,
    congrArg (Option.map wholeSeconds) twins.lastScaleTime, by
      simp only [WatermarkPodAutoscalerStatus.stored_conditions, view, twins.conditions]⟩

end StatusTwins

/-- The `DryRun` condition `Reconcile` sets is invisible to the twin relation. -/
theorem statusTwins_withDryRunCondition (now : ℤ) (wpa : WatermarkPodAutoscaler) :
    StatusTwins wpa.status (withDryRunCondition now wpa).status := by
  unfold withDryRunCondition
  split <;> exact ⟨rfl, rfl, rfl, rfl, (conditionsView_setConditionInList_dryRun ..).symm⟩

/-- Twin objects with twin statuses put in their place. -/
theorem Twins.withStatus {dry live : WatermarkPodAutoscaler} (twins : Twins dry live)
    {status status' : WatermarkPodAutoscalerStatus} (statusTwins : StatusTwins status status') :
    Twins { dry with status := status } { live with status := status' } := by
  obtain ⟨dryRun, _, rfl, -⟩ := twins
  exact ⟨dryRun, status, rfl, statusTwins⟩

/-- From any status the server held, in stored form, that is a twin of `original`, the status it
keeps after the effects is a twin of the status the object ends with in memory, as the server
stores it. -/
def PersistsView (original : WatermarkPodAutoscalerStatus)
    (result : WatermarkPodAutoscaler × List Effect) : Prop :=
  ∀ prior : WatermarkPodAutoscalerStatus, prior.Stored → StatusTwins prior original →
    StatusTwins (persistedStatus prior result.2) result.1.status.stored

namespace PersistsView

variable {original : WatermarkPodAutoscalerStatus} {wpa : WatermarkPodAutoscaler}
  {effects effects' : List Effect}

/-- A status write against the snapshot `original`: a skipped write leaves the server a twin of
the snapshot, which is then the status in memory. -/
theorem updateStatusIfNeeded (cluster : Cluster)
    (noStatus : ∀ status, Effect.updateStatus status ∉ effects) :
    PersistsView original (wpa, effects ++ (Wpa.updateStatusIfNeeded cluster original wpa).2) := by
  intro prior stored twins
  rw [persistedStatus_append, persistedStatus_of_noStatus noStatus,
    persistedStatus_updateStatusIfNeeded]
  split_ifs with unchanged
  · have kept := twins.stored
    rwa [stored, unchanged] at kept
  · exact .refl _

theorem append_noStatus (view : PersistsView original (wpa, effects))
    (noStatus : ∀ status, Effect.updateStatus status ∉ effects') :
    PersistsView original (wpa, effects ++ effects') := fun prior stored twins => by
  rw [persistedStatus_append, persistedStatus_of_noStatus noStatus]
  exact view prior stored twins

end PersistsView

/-- The statuses the server keeps for two runs, from stored statuses twin to their snapshots, are
twins. -/
def PersistTwins (original original' : WatermarkPodAutoscalerStatus)
    (effects effects' : List Effect) : Prop :=
  ∀ prior prior' : WatermarkPodAutoscalerStatus, prior.Stored → prior'.Stored →
    StatusTwins prior original → StatusTwins prior' original' →
    StatusTwins (persistedStatus prior effects) (persistedStatus prior' effects')

namespace PersistTwins

variable {original original' : WatermarkPodAutoscalerStatus} {effects effects' : List Effect}

theorem of_noStatus (originals : StatusTwins original original')
    (noStatus : ∀ status, Effect.updateStatus status ∉ effects)
    (noStatus' : ∀ status, Effect.updateStatus status ∉ effects') :
    PersistTwins original original' effects effects' := fun prior prior' _ _ twins twins' => by
  rw [persistedStatus_of_noStatus noStatus, persistedStatus_of_noStatus noStatus']
  exact twins.trans (originals.trans twins'.symm)

theorem of_views {wpa wpa' : WatermarkPodAutoscaler} (view : PersistsView original (wpa, effects))
    (view' : PersistsView original' (wpa', effects'))
    (finals : StatusTwins wpa.status wpa'.status) :
    PersistTwins original original' effects effects' := fun prior prior' stored stored' twins twins' =>
  (view prior stored twins).trans (finals.stored.trans (view' prior' stored' twins').symm)

end PersistTwins

/-- A panic of the metric pipeline ends the reconciliation before any status write. -/
theorem metricDriven_noStatus_of_panicked {cluster : Cluster} (platform : Platform)
    (replicaCalc : ReplicaCalculatorItf) (wpaStatusOriginal : WatermarkPodAutoscalerStatus)
    (targetGR : GroupResource) (currentScale : Scale) (wpa : WatermarkPodAutoscaler)
    (panicked : (computeReplicasForMetrics replicaCalc cluster.now wpa currentScale).1 = .panicked)
    (status : WatermarkPodAutoscalerStatus) :
    Effect.updateStatus status ∉
      (metricDriven platform replicaCalc cluster wpaStatusOriginal targetGR currentScale
        wpa).2.2 := by
  have reports := computeReplicasForMetrics_reportsOnly replicaCalc cluster.now wpa currentScale
  unfold metricDriven
  dsimp only
  rw [panicked]
  exact fun sent => by simpa using reports.2 _ sent

section

variable {cluster : Cluster} (written : cluster.updateStatus = none)
include written

/-- From the decision on, every branch ends with the status write, which succeeds. -/
theorem finishReconcile_persistsView (wpaStatusOriginal : WatermarkPodAutoscalerStatus)
    (targetGR : GroupResource) (currentReplicas : Int32) (rescale : Bool)
    (desiredReplicas : Int32) (metricStatuses : List MetricStatus) (wpa : WatermarkPodAutoscaler)
    {effects : List Effect} (noStatus : ∀ status, Effect.updateStatus status ∉ effects) :
    PersistsView wpaStatusOriginal (finishReconcile cluster wpaStatusOriginal targetGR
      currentReplicas rescale desiredReplicas metricStatuses wpa effects).2 := by
  unfold finishReconcile completeReconcile
  dsimp only
  simp only [updateStatusIfNeeded_fst written]
  split_ifs
  · exact .updateStatusIfNeeded cluster noStatus
  · split
    · exact .updateStatusIfNeeded cluster (by simp [noStatus])
    · exact .updateStatusIfNeeded cluster (by simp [noStatus])
  · exact .updateStatusIfNeeded cluster (by simp [noStatus])

/-- The metric-driven branch reaches the status write unless the metric pipeline panics. -/
theorem metricDriven_persistsView (platform : Platform) (replicaCalc : ReplicaCalculatorItf)
    (wpaStatusOriginal : WatermarkPodAutoscalerStatus) (targetGR : GroupResource)
    (currentScale : Scale) (wpa : WatermarkPodAutoscaler)
    (returned :
      (computeReplicasForMetrics replicaCalc cluster.now wpa currentScale).1 ≠ .panicked) :
    PersistsView wpaStatusOriginal
      (metricDriven platform replicaCalc cluster wpaStatusOriginal targetGR currentScale
        wpa).2 := by
  have reports := computeReplicasForMetrics_reportsOnly replicaCalc cluster.now wpa currentScale
  have noStatus : ∀ status, Effect.updateStatus status ∉
      (computeReplicasForMetrics replicaCalc cluster.now wpa currentScale).2.2 :=
    fun _ sent => by simpa using reports.2 _ sent
  unfold metricDriven
  dsimp only
  split
  · contradiction
  · simp only [updateStatusIfNeeded_fst written]
    exact (PersistsView.updateStatusIfNeeded cluster noStatus).append_noStatus (by simp)
  · exact finishReconcile_persistsView written _ _ _ _ _ _ _ (by simp [noStatus])

variable (scaled : cluster.updateScale = none) (platform : Platform)
  {replicaCalc : ReplicaCalculatorItf} (oblivious : replicaCalc.Oblivious)
include scaled oblivious

theorem metricDriven_persistTwins
    (wpaStatusOriginal wpaStatusOriginal' : WatermarkPodAutoscalerStatus)
    (originals : StatusTwins wpaStatusOriginal wpaStatusOriginal') (targetGR : GroupResource)
    (currentScale : Scale) {dry live : WatermarkPodAutoscaler} (twins : Twins dry live)
    (dryRun : dry.spec.dryRun = true) (liveRun : live.spec.dryRun = false) :
    PersistTwins wpaStatusOriginal wpaStatusOriginal'
      (metricDriven platform replicaCalc cluster wpaStatusOriginal targetGR currentScale dry).2.2
      (metricDriven platform replicaCalc cluster wpaStatusOriginal' targetGR currentScale
        live).2.2 := by
  have computed := (computeReplicasForMetrics_agree Twins.lockstep cluster.now oblivious currentScale
    twins).result
  by_cases panicked : (computeReplicasForMetrics replicaCalc cluster.now dry currentScale).1 =
    .panicked
  · exact .of_noStatus originals
      (metricDriven_noStatus_of_panicked platform _ _ _ _ _ panicked)
      (metricDriven_noStatus_of_panicked platform _ _ _ _ _ (computed ▸ panicked))
  · exact .of_views (metricDriven_persistsView written platform _ _ _ _ _ panicked)
      (metricDriven_persistsView written platform _ _ _ _ _ (computed ▸ panicked))
      (metricDriven_twinFinish (Twins.twinFinish written _ _) scaled platform oblivious _ _ twins
        dryRun liveRun).2.status

theorem reconcileScale_persistTwins (targetGR : GroupResource) (currentScale : Scale)
    {dry live : WatermarkPodAutoscaler} (twins : Twins dry live) (dryRun : dry.spec.dryRun = true)
    (liveRun : live.spec.dryRun = false) :
    PersistTwins dry.status live.status
      (reconcileScale platform replicaCalc cluster targetGR currentScale dry).2.2
      (reconcileScale platform replicaCalc cluster targetGR currentScale live).2.2 := by
  have conditioned := twins.setCondition cluster.now ableToScale_ne_dryRunCondition conditionTrue
    "SucceededGetScale" "the WPA controller was able to get the target's current scale"
  have sameForced : forcedReplicas dry.spec currentScale.statusReplicas =
      forcedReplicas live.spec currentScale.statusReplicas := by
    rw [twins.eq_update]
    rfl
  unfold reconcileScale
  simp only [setCondition_spec, sameForced, twins.status.currentMetrics]
  split_ifs
  · have disabled := conditioned.setCondition cluster.now scalingActive_ne_dryRunCondition
      conditionFalse "ScalingDisabled"
      "scaling is disabled since the replica count of the target is zero"
    have finals := (finishReconcile_twinFinish (Twins.twinFinish written dry.status live.status)
      scaled targetGR currentScale.statusReplicas false 0 live.status.currentMetrics disabled dryRun
      liveRun [] []).2.status
    exact .of_views (finishReconcile_persistsView written _ _ _ _ _ _ _ (by simp))
      (finishReconcile_persistsView written _ _ _ _ _ _ _ (by simp)) finals
  · split
    · exact .of_views (finishReconcile_persistsView written _ _ _ _ _ _ _ (by simp))
        (finishReconcile_persistsView written _ _ _ _ _ _ _ (by simp))
        (finishReconcile_twinFinish (Twins.twinFinish written _ _) scaled _ _ _ _ _ conditioned
          dryRun liveRun _ _).2.status
    · exact metricDriven_persistTwins written scaled platform oblivious _ _ twins.status _ _
        conditioned dryRun liveRun

theorem reconcileWPA_persistTwins {dry live : WatermarkPodAutoscaler} (twins : Twins dry live)
    (dryRun : dry.spec.dryRun = true) (liveRun : live.spec.dryRun = false) :
    PersistTwins dry.status live.status (reconcileWPA platform replicaCalc cluster dry).2.2
      (reconcileWPA platform replicaCalc cluster live).2.2 := by
  have sameTarget : dry.spec.scaleTargetRef = live.spec.scaleTargetRef := by rw [twins.eq_update]
  unfold reconcileWPA
  rw [sameTarget]
  split
  · exact .of_noStatus twins.status (by simp) (by simp)
  · exact reconcileScale_persistTwins written scaled platform oblivious _ _ twins dryRun liveRun

/-- What the server keeps of `Reconcile`'s two runs, from the twin objects it held. -/
theorem Reconcile_persistTwins (defaulting : Defaulting) {dry live : WatermarkPodAutoscaler}
    (twins : Twins dry live) (storedDry : dry.status.Stored) (storedLive : live.status.Stored)
    (dryRun : dry.spec.dryRun = true) (liveRun : live.spec.dryRun = false)
    (sameDefault : defaulting.isDefaultWatermarkPodAutoscaler dry =
      defaulting.isDefaultWatermarkPodAutoscaler live)
    (sameValidity : defaulting.checkWPAValidity dry = defaulting.checkWPAValidity live) :
    StatusTwins
      (persistedStatus dry.status (Reconcile platform replicaCalc defaulting cluster dry).2.2)
      (persistedStatus live.status
        (Reconcile platform replicaCalc defaulting cluster live).2.2) := by
  have conditioned : Twins (withDryRunCondition cluster.now dry)
      (withDryRunCondition cluster.now live) := by
    simp only [withDryRunCondition, dryRun, liveRun, Bool.false_eq_true, ↓reduceIte]
    exact twins.setCondition_dryRun ..
  have dryFlag : (withDryRunCondition cluster.now dry).spec.dryRun = true := by
    rw [(withDryRunCondition_conditionsOnly ..).spec_eq, dryRun]
  have liveFlag : (withDryRunCondition cluster.now live).spec.dryRun = false := by
    rw [(withDryRunCondition_conditionsOnly ..).spec_eq, liveRun]
  have reconciled := reconcileWPA_persistTwins written scaled platform oblivious conditioned
    dryFlag liveFlag
  have sameError := (reconcileWPA_twinFinish scaled platform oblivious
    (Twins.twinFinish written _ _) conditioned dryFlag liveFlag).1
  have kept := reconciled dry.status live.status storedDry storedLive
    (statusTwins_withDryRunCondition cluster.now dry)
    (statusTwins_withDryRunCondition cluster.now live)
  unfold Reconcile
  rw [sameDefault, sameValidity]
  split
  · exact twins.status
  · exact twins.status
  · split_ifs
    · split <;> exact twins.status
    · split
      · -- An invalid spec: `FailedSpecCheck`, then the status write, which succeeds.
        dsimp only
        simp only [updateStatusIfNeeded_fst written]
        exact PersistTwins.of_views (PersistsView.updateStatusIfNeeded cluster (by simp))
          (PersistsView.updateStatusIfNeeded cluster (by simp))
          (twins.setCondition cluster.now ableToScale_ne_dryRunCondition ..).status
          _ _ storedDry storedLive (.refl _) (.refl _)
      · dsimp only
        rw [sameError]
        split
        · rw [persistedStatus_append, persistedStatus_append]
          exact kept
        · exact kept

end

/-- Defaulting and validation read neither `DryRun` nor the status, and defaulting keeps
`DryRun`. -/
def Defaulting.IgnoresDryRun (defaulting : Defaulting) : Prop :=
  ∀ (wpa : WatermarkPodAutoscaler) (dryRun : Bool) (status : WatermarkPodAutoscalerStatus),
    defaulting.isDefaultWatermarkPodAutoscaler
        { wpa with spec := { wpa.spec with dryRun := dryRun }, status := status } =
      defaulting.isDefaultWatermarkPodAutoscaler wpa ∧
    defaulting.checkWPAValidity
        { wpa with spec := { wpa.spec with dryRun := dryRun }, status := status } =
      defaulting.checkWPAValidity wpa ∧
    ∀ kept : WatermarkPodAutoscalerStatus,
      { defaulting.defaultWatermarkPodAutoscaler
          { wpa with spec := { wpa.spec with dryRun := dryRun }, status := status } with
        status := kept } =
      { defaulting.defaultWatermarkPodAutoscaler wpa with
        spec := { (defaulting.defaultWatermarkPodAutoscaler wpa).spec with dryRun := dryRun }
        status := kept }

section

variable (platform : Platform) {defaulting : Defaulting} (ignoresDryRun : defaulting.IgnoresDryRun)
include ignoresDryRun

/-- One step of the two runs keeps twin objects on the server, in their modes. -/
theorem reconcileStep_twins {dry live : WatermarkPodAutoscaler} (twins : Twins dry live)
    (storedDry : dry.status.Stored) (storedLive : live.status.Stored)
    (dryRun : dry.spec.dryRun = true) (liveRun : live.spec.dryRun = false)
    (observation : Observation) (scaled : observation.cluster.updateScale = none)
    (written : observation.cluster.updateStatus = none) :
    Twins (reconcileStep platform defaulting dry observation).1
        (reconcileStep platform defaulting live observation).1 ∧
      (reconcileStep platform defaulting dry observation).1.spec.dryRun = true ∧
      (reconcileStep platform defaulting live observation).1.spec.dryRun = false := by
  have dryForm := twins.eq_update
  rw [dryRun] at dryForm
  obtain ⟨sameDefault, sameValidity, sameDefaulted⟩ := ignoresDryRun live true dry.status
  obtain ⟨-, -, liveDefaulted⟩ := ignoresDryRun live false live.status
  rw [← dryForm] at sameDefault sameValidity sameDefaulted
  have liveForm : { live with spec := { live.spec with dryRun := false }, status := live.status } =
      live := by
    rw [← liveRun]
  rw [liveForm] at liveDefaulted
  have kept := Reconcile_persistTwins written scaled platform
    (observation.calculator.toItf_oblivious platform) defaulting twins storedDry storedLive dryRun
    liveRun sameDefault sameValidity
  simp only [reconcileStep, persistedObject_Reconcile, sameDefault]
  split_ifs
  · -- The defaults are written: the server keeps each defaulted object with its old status.
    rw [sameDefaulted, liveDefaulted]
    exact ⟨⟨true, dry.status, rfl, twins.status⟩, rfl, rfl⟩
  · exact ⟨twins, dryRun, liveRun⟩
  · exact ⟨twins.withStatus kept, dryRun, liveRun⟩

/-- Two runs over the same observations, from an object the server holds in dry-run mode and from
the same object in live mode, with every scale and status write succeeding and defaulting and
validation blind to `DryRun` and the status: at every step the API server holds twin objects,
the same but for `DryRun`, the `DryRun` condition and the reason and message of `AbleToScale`.
The dry run records in its status the replica counts, metric statuses and last scale times the
live run enacts. -/
theorem runObject_dryRun_simulates_live (wpa : WatermarkPodAutoscaler) (stored : wpa.status.Stored)
    (observations : List Observation)
    (scaled : ∀ observation ∈ observations, observation.cluster.updateScale = none)
    (written : ∀ observation ∈ observations, observation.cluster.updateStatus = none) :
    Twins (runObject platform defaulting { wpa with spec := { wpa.spec with dryRun := true } }
        observations)
      (runObject platform defaulting { wpa with spec := { wpa.spec with dryRun := false } }
        observations) := by
  suffices lockstep : ∀ {dry live : WatermarkPodAutoscaler}, Twins dry live →
      dry.status.Stored → live.status.Stored → dry.spec.dryRun = true → live.spec.dryRun = false →
      Twins (runObject platform defaulting dry observations)
        (runObject platform defaulting live observations) from
    lockstep ⟨true, wpa.status, rfl, .refl _⟩ stored stored rfl rfl
  induction observations with
  | nil => exact fun twins _ _ _ _ => twins
  | cons observation observations ih =>
      intro dry live twins storedDry storedLive dryRun liveRun
      have step := reconcileStep_twins platform ignoresDryRun twins storedDry storedLive dryRun
        liveRun observation (scaled observation (List.mem_cons_self _ _))
        (written observation (List.mem_cons_self _ _))
      exact ih (fun other member => scaled other (List.mem_cons_of_mem _ member))
        (fun other member => written other (List.mem_cons_of_mem _ member)) step.1
        (reconcileStep_stored platform defaulting observation storedDry)
        (reconcileStep_stored platform defaulting observation storedLive) step.2.1 step.2.2

end

theorem runObject_dryRun_simulates_live_a_minute_later :
    exampleDefaulting.IgnoresDryRun ∧ exampleWpa.status.Stored ∧
      (∀ observation ∈ [scaledObservation, minuteLaterObservation],
        observation.cluster.updateScale = none) ∧
      (∀ observation ∈ [scaledObservation, minuteLaterObservation],
        observation.cluster.updateStatus = none) ∧
      Twins (runObject .amd64 exampleDefaulting
          { exampleWpa with spec := { exampleWpa.spec with dryRun := true } }
          [scaledObservation, minuteLaterObservation])
        (runObject .amd64 exampleDefaulting
          { exampleWpa with spec := { exampleWpa.spec with dryRun := false } }
          [scaledObservation, minuteLaterObservation]) :=
  have ignoresDryRun : exampleDefaulting.IgnoresDryRun := fun _ _ _ => ⟨rfl, rfl, fun _ => rfl⟩
  have scaled : ∀ observation ∈ [scaledObservation, minuteLaterObservation],
      observation.cluster.updateScale = none := by
    simp [scaledObservation, minuteLaterObservation, exampleCluster]
  have written : ∀ observation ∈ [scaledObservation, minuteLaterObservation],
      observation.cluster.updateStatus = none := by
    simp [scaledObservation, minuteLaterObservation, exampleCluster]
  ⟨ignoresDryRun, by decide, scaled, written,
    runObject_dryRun_simulates_live .amd64 ignoresDryRun exampleWpa (by decide) _ scaled written⟩

end Wpa
