import WatermarkPodAutoscaler.RunWrites

/-!
# The status is written, never read

Apart from `LastScaleTime`, which the forbidden windows are measured from, the status of the
object is an output of a reconciliation: its replica counts, its metric statuses and its
conditions reach no decision. Two objects that differ only there (`StatusVariant`) get the same
scale writes and the same gauge updates, in the same order (`decisions`), from a reconciliation
at the same observation, where defaulting and validation do not read the status either
(`Reconcile_decisions_ignore_status`). The statuses they write may differ, and so may the events
that report a failed status write and the requeue that follows one.

The metric pipeline only reports and sets conditions, so status variants are a lockstep relation
(`StatusVariant.lockstep`): each stage gives two variants the same result and the same effects.
From the decision on, the effects differ only in the status writes, which `decisions` leaves
out.

Along a run the same holds step after step (`runEffects_decisions_ignore_status`): every status a
reconciliation writes carries the last scale time it ends with (`Reconcile_persistsStamp`), so the
objects the server keeps for the two runs are variants again, whichever writes fail.
-/

namespace Wpa

/-- `wpa'` is `wpa` with another status of the same last scale time. -/
def StatusVariant (wpa wpa' : WatermarkPodAutoscaler) : Prop :=
  ∃ status : WatermarkPodAutoscalerStatus,
    status.lastScaleTime = wpa.status.lastScaleTime ∧ wpa' = { wpa with status := status }

namespace StatusVariant

variable {wpa middle wpa' : WatermarkPodAutoscaler}

theorem refl (wpa : WatermarkPodAutoscaler) : StatusVariant wpa wpa := ⟨wpa.status, rfl, rfl⟩

theorem symm (variant : StatusVariant wpa wpa') : StatusVariant wpa' wpa := by
  obtain ⟨status, stamp, rfl⟩ := variant
  exact ⟨wpa.status, stamp.symm, rfl⟩

theorem trans (first : StatusVariant wpa middle) (second : StatusVariant middle wpa') :
    StatusVariant wpa wpa' := by
  obtain ⟨status, stamp, rfl⟩ := first
  obtain ⟨status', stamp', rfl⟩ := second
  exact ⟨status', stamp'.trans stamp, rfl⟩

theorem of_conditionsOnly (changed : ConditionsOnly wpa wpa') : StatusVariant wpa wpa' :=
  ⟨wpa'.status, changed.lastScaleTime_eq, by rw [changed]⟩

/-- Two objects that each changed only their conditions from two variants are variants. -/
theorem of_reports {after after' : WatermarkPodAutoscaler} (variant : StatusVariant wpa wpa')
    (changed : ConditionsOnly wpa after) (changed' : ConditionsOnly wpa' after') :
    StatusVariant after after' :=
  ((of_conditionsOnly changed).symm.trans variant).trans (of_conditionsOnly changed')

theorem lastScaleTime_eq (variant : StatusVariant wpa wpa') :
    wpa'.status.lastScaleTime = wpa.status.lastScaleTime := by
  obtain ⟨status, stamp, rfl⟩ := variant
  exact stamp

theorem setCondition (variant : StatusVariant wpa wpa') (now : ℤ)
    (conditionType status reason message : String) :
    StatusVariant (Wpa.setCondition now wpa conditionType status reason message)
      (Wpa.setCondition now wpa' conditionType status reason message) :=
  variant.of_reports (setCondition_conditionsOnly ..) (setCondition_conditionsOnly ..)

theorem lockstep : Lockstep StatusVariant where
  eq_update variant := by
    obtain ⟨status, -, rfl⟩ := variant
    exact ⟨_, _, rfl⟩
  lastScaleTime_eq variant := variant.lastScaleTime_eq.symm
  setCondition now _ _ _ _ _ variant := variant.setCondition now ..

end StatusVariant

/-- Whether an effect carries a decision out of the controller: a scale write or a gauge update. -/
def Effect.isDecision : Effect → Bool
  | .gauge _ | .updateScale .. => true
  | _ => false

@[simp] theorem Effect.isDecision_event (eventType reason : String) :
    (Effect.event eventType reason).isDecision = false := rfl

@[simp] theorem Effect.isDecision_gauge (op : GaugeOp) : (Effect.gauge op).isDecision := rfl

@[simp] theorem Effect.isDecision_updateScale (groupResource : GroupResource) (replicas : Int32) :
    (Effect.updateScale groupResource replicas).isDecision := rfl

@[simp] theorem Effect.isDecision_updateStatus (status : WatermarkPodAutoscalerStatus) :
    (Effect.updateStatus status).isDecision = false := rfl

@[simp] theorem Effect.isDecision_updateObject (wpa : WatermarkPodAutoscaler) :
    (Effect.updateObject wpa).isDecision = false := rfl

/-- The scale writes and the gauge updates among effects, in order. -/
def decisions (effects : List Effect) : List Effect :=
  effects.filter Effect.isDecision

@[simp] theorem decisions_nil : decisions [] = [] := rfl

@[simp] theorem decisions_append (effects effects' : List Effect) :
    decisions (effects ++ effects') = decisions effects ++ decisions effects' :=
  List.filter_append ..

@[simp] theorem decisions_cons (effect : Effect) (effects : List Effect) :
    decisions (effect :: effects) =
      if effect.isDecision then effect :: decisions effects else decisions effects := by
  cases decision : effect.isDecision <;> simp [decisions, List.filter_cons, decision]

@[simp] theorem decisions_updateStatusIfNeeded (cluster : Cluster)
    (wpaStatus : WatermarkPodAutoscalerStatus) (wpa : WatermarkPodAutoscaler) :
    decisions (updateStatusIfNeeded cluster wpaStatus wpa).2 = [] := by
  unfold updateStatusIfNeeded
  split <;> rfl

/-- From the decision on, variants differ only in their status writes and the events that report
them: the snapshot and the metric statuses the status records do not matter, and both end with the
same last scale time in memory. -/
theorem finishReconcile_statusVariant (cluster : Cluster)
    (wpaStatusOriginal wpaStatusOriginal' : WatermarkPodAutoscalerStatus)
    (targetGR : GroupResource) (currentReplicas : Int32) (rescale : Bool)
    (desiredReplicas : Int32) (metricStatuses metricStatuses' : List MetricStatus)
    {wpa wpa' : WatermarkPodAutoscaler} (variant : StatusVariant wpa wpa') (effects : List Effect) :
    (finishReconcile cluster wpaStatusOriginal' targetGR currentReplicas rescale desiredReplicas
        metricStatuses' wpa' effects).2.1.status.lastScaleTime =
      (finishReconcile cluster wpaStatusOriginal targetGR currentReplicas rescale desiredReplicas
        metricStatuses wpa effects).2.1.status.lastScaleTime ∧
    decisions (finishReconcile cluster wpaStatusOriginal' targetGR currentReplicas rescale
        desiredReplicas metricStatuses' wpa' effects).2.2 =
      decisions (finishReconcile cluster wpaStatusOriginal targetGR currentReplicas rescale
        desiredReplicas metricStatuses wpa effects).2.2 := by
  obtain ⟨status, stamp, rfl⟩ := variant
  unfold finishReconcile completeReconcile
  cases rescale
  · simp only [Bool.false_eq_true, ↓reduceIte, decisions_append, decisions_cons,
      decisions_nil, Effect.isDecision_event, Effect.isDecision_gauge,
      decisions_updateStatusIfNeeded, setStatus_lastScaleTime]
    exact ⟨stamp, rfl⟩
  · simp only [↓reduceIte, setCondition_spec]
    split_ifs
    · simp
    · split
      · split <;> split <;> simp [setCurrentReplicasInStatus, stamp]
      · simp only [decisions_append, decisions_cons, decisions_nil, Effect.isDecision_event,
          Effect.isDecision_gauge, Effect.isDecision_updateScale, decisions_updateStatusIfNeeded,
          setStatus_lastScaleTime, ↓reduceIte]
        exact ⟨trivial, rfl⟩

theorem metricDriven_statusVariant {replicaCalc : ReplicaCalculatorItf}
    (oblivious : replicaCalc.Oblivious) (platform : Platform) (cluster : Cluster)
    (wpaStatusOriginal wpaStatusOriginal' : WatermarkPodAutoscalerStatus)
    (targetGR : GroupResource) (currentScale : Scale) {wpa wpa' : WatermarkPodAutoscaler}
    (variant : StatusVariant wpa wpa') :
    (metricDriven platform replicaCalc cluster wpaStatusOriginal' targetGR currentScale
        wpa').2.1.status.lastScaleTime =
      (metricDriven platform replicaCalc cluster wpaStatusOriginal targetGR currentScale
        wpa).2.1.status.lastScaleTime ∧
    decisions (metricDriven platform replicaCalc cluster wpaStatusOriginal' targetGR currentScale
        wpa').2.2 =
      decisions (metricDriven platform replicaCalc cluster wpaStatusOriginal targetGR currentScale
        wpa).2.2 := by
  have computed := computeReplicasForMetrics_agree StatusVariant.lockstep cluster.now oblivious
    currentScale variant
  have stamp := computed.related.lastScaleTime_eq
  unfold metricDriven
  dsimp only
  rw [← computed.result, ← computed.effects]
  split
  · exact ⟨stamp, rfl⟩
  · split <;> split <;> simp [setCurrentReplicasInStatus, stamp]
  · -- The decision: the normalizer and the gate give both variants the same count and verdict.
    rename_i result _
    have normalized := normalizeDesiredReplicas_agree StatusVariant.lockstep cluster.now platform
      computed.related currentScale.statusReplicas
      (if decide (result.replicas > 0) = true then result.replicas else 0)
    have gated := fun desiredReplicas timestamp => shouldScale_agree StatusVariant.lockstep
      cluster.now normalized.related currentScale.statusReplicas desiredReplicas timestamp
    rw [← normalized.result, ← normalized.effects, ← (gated _ _).result, ← (gated _ _).effects]
    exact finishReconcile_statusVariant _ _ _ _ _ _ _ _ _ (gated _ _).related _

theorem reconcileScale_statusVariant {replicaCalc : ReplicaCalculatorItf}
    (oblivious : replicaCalc.Oblivious) (platform : Platform) (cluster : Cluster)
    (targetGR : GroupResource) (currentScale : Scale) {wpa wpa' : WatermarkPodAutoscaler}
    (variant : StatusVariant wpa wpa') :
    (reconcileScale platform replicaCalc cluster targetGR currentScale
          wpa').2.1.status.lastScaleTime =
        (reconcileScale platform replicaCalc cluster targetGR currentScale
          wpa).2.1.status.lastScaleTime ∧
      decisions (reconcileScale platform replicaCalc cluster targetGR currentScale wpa').2.2 =
        decisions (reconcileScale platform replicaCalc cluster targetGR currentScale wpa).2.2 := by
  have found := variant.setCondition cluster.now ableToScale conditionTrue "SucceededGetScale"
    "the WPA controller was able to get the target's current scale"
  obtain ⟨status, -, rfl⟩ := variant
  unfold reconcileScale
  simp only [setCondition_spec]
  split_ifs
  · exact finishReconcile_statusVariant _ _ _ _ _ _ _ _ _ (found.setCondition ..) _
  · split
    · exact finishReconcile_statusVariant _ _ _ _ _ _ _ _ _ found _
    · exact metricDriven_statusVariant oblivious _ _ _ _ _ _ found

theorem reconcileWPA_statusVariant {replicaCalc : ReplicaCalculatorItf}
    (oblivious : replicaCalc.Oblivious) (platform : Platform) (cluster : Cluster)
    {wpa wpa' : WatermarkPodAutoscaler} (variant : StatusVariant wpa wpa') :
    (reconcileWPA platform replicaCalc cluster wpa').2.1.status.lastScaleTime =
        (reconcileWPA platform replicaCalc cluster wpa).2.1.status.lastScaleTime ∧
      decisions (reconcileWPA platform replicaCalc cluster wpa').2.2 =
        decisions (reconcileWPA platform replicaCalc cluster wpa).2.2 := by
  have scaled := fun targetGR currentScale =>
    reconcileScale_statusVariant oblivious platform cluster targetGR currentScale variant
  obtain ⟨status, stamp, rfl⟩ := variant
  unfold reconcileWPA
  dsimp only
  split
  · exact ⟨stamp, rfl⟩
  · exact scaled _ _

/-- `Reconcile` on variants that defaulting and validation treat alike: the same last scale time
in memory, and the same decisions. -/
theorem Reconcile_statusVariant {replicaCalc : ReplicaCalculatorItf}
    (oblivious : replicaCalc.Oblivious) (platform : Platform) (defaulting : Defaulting)
    (cluster : Cluster) {wpaInstance wpaInstance' : WatermarkPodAutoscaler}
    (variant : StatusVariant wpaInstance wpaInstance')
    (sameDefaults : defaulting.isDefaultWatermarkPodAutoscaler wpaInstance' =
      defaulting.isDefaultWatermarkPodAutoscaler wpaInstance)
    (sameValidity : defaulting.checkWPAValidity wpaInstance' =
      defaulting.checkWPAValidity wpaInstance) :
    (Reconcile platform replicaCalc defaulting cluster wpaInstance').2.1.status.lastScaleTime =
        (Reconcile platform replicaCalc defaulting cluster wpaInstance).2.1.status.lastScaleTime ∧
      decisions (Reconcile platform replicaCalc defaulting cluster wpaInstance').2.2 =
        decisions (Reconcile platform replicaCalc defaulting cluster wpaInstance).2.2 := by
  have reconciled := reconcileWPA_statusVariant oblivious platform cluster
    (variant.of_reports (withDryRunCondition_conditionsOnly cluster.now wpaInstance)
      (withDryRunCondition_conditionsOnly cluster.now wpaInstance'))
  have stamp := variant.lastScaleTime_eq
  unfold Reconcile
  rw [sameDefaults, sameValidity]
  split
  · exact ⟨stamp, rfl⟩
  · exact ⟨stamp, rfl⟩
  · split_ifs
    · split <;> exact ⟨stamp, rfl⟩
    · split
      · dsimp only
        split <;> split <;> simp [stamp]
      · dsimp only
        split <;> split <;> simp [reconciled]

/-- Two objects that differ only in their status, other than `LastScaleTime`, get the same scale
writes and the same gauge updates, in the same order, from a reconciliation at the same
observation, where defaulting and validation give both the same verdict: the replica counts,
metric statuses and conditions of the status never reach a decision. -/
theorem Reconcile_decisions_ignore_status (platform : Platform) (calculator : ReplicaCalculator)
    (defaulting : Defaulting) (cluster : Cluster) {wpaInstance wpaInstance' : WatermarkPodAutoscaler}
    (variant : StatusVariant wpaInstance wpaInstance')
    (sameDefaults : defaulting.isDefaultWatermarkPodAutoscaler wpaInstance' =
      defaulting.isDefaultWatermarkPodAutoscaler wpaInstance)
    (sameValidity : defaulting.checkWPAValidity wpaInstance' =
      defaulting.checkWPAValidity wpaInstance) :
    decisions (Reconcile platform (calculator.toItf platform) defaulting cluster wpaInstance').2.2 =
      decisions (Reconcile platform (calculator.toItf platform) defaulting cluster wpaInstance).2.2 :=
  (Reconcile_statusVariant (calculator.toItf_oblivious platform) platform defaulting cluster variant
    sameDefaults sameValidity).2

/-- The example object with a status another writer left: other replica counts and a condition of
its own, at the same last scale time. -/
def overwrittenWpa : WatermarkPodAutoscaler :=
  { exampleWpa with
    status := { exampleWpa.status with
      currentReplicas := ⟨3, by decide, by decide⟩
      desiredReplicas := ⟨42, by decide, by decide⟩
      conditions := [⟨"Ready", conditionFalse, 7, "Manual", "set by hand"⟩] } }

theorem Reconcile_decisions_ignore_status_when_overwritten :
    StatusVariant exampleWpa overwrittenWpa ∧
      exampleDefaulting.isDefaultWatermarkPodAutoscaler overwrittenWpa =
        exampleDefaulting.isDefaultWatermarkPodAutoscaler exampleWpa ∧
      exampleDefaulting.checkWPAValidity overwrittenWpa = exampleDefaulting.checkWPAValidity exampleWpa ∧
      decisions (Reconcile .amd64 ((exampleCalculator ⟨9000, by decide, by decide⟩).toItf .amd64)
          exampleDefaulting (exampleCluster ⟨10, by decide, by decide⟩) overwrittenWpa).2.2 =
        decisions (Reconcile .amd64 ((exampleCalculator ⟨9000, by decide, by decide⟩).toItf .amd64)
          exampleDefaulting (exampleCluster ⟨10, by decide, by decide⟩) exampleWpa).2.2 :=
  have variant : StatusVariant exampleWpa overwrittenWpa := ⟨overwrittenWpa.status, rfl, rfl⟩
  ⟨variant, rfl, rfl, Reconcile_decisions_ignore_status .amd64 _ exampleDefaulting _ variant rfl rfl⟩

/-- Effects that write no status leave the server's status as it was. -/
theorem persistedStatus_of_noStatus {prior : WatermarkPodAutoscalerStatus} {effects : List Effect}
    (noStatus : ∀ status, Effect.updateStatus status ∉ effects) :
    persistedStatus prior effects = prior := by
  induction effects with
  | nil => rfl
  | cons effect effects ih =>
      have later := fun status member => noStatus status (List.mem_cons_of_mem _ member)
      cases effect with
      | updateStatus status => exact absurd (List.mem_cons_self _ _) (noStatus status)
      | _ => exact ih later

/-- Without an object update, the server keeps the object with the status it last accepted. -/
theorem persistedObject_of_noUpdateObject (cluster : Cluster) (wpa : WatermarkPodAutoscaler)
    {effects : List Effect} (noUpdate : ∀ object, Effect.updateObject object ∉ effects) :
    persistedObject cluster wpa effects =
      { wpa with status :=
          (if cluster.updateStatus = none then persistedStatus wpa.status effects
          else wpa.status) } := by
  induction effects generalizing wpa with
  | nil => split <;> rfl
  | cons effect effects ih =>
      have later := fun object member => noUpdate object (List.mem_cons_of_mem _ member)
      cases effect with
      | updateStatus status =>
          by_cases accepted : cluster.updateStatus = none
          · simp only [persistedObject, persistedStatus, accepted, ↓reduceIte, ih _ later]
          · simp only [persistedObject, accepted, ↓reduceIte, ih _ later]
      | updateObject object => exact absurd (List.mem_cons_self _ _) (noUpdate object)
      | _ => exact ih _ later

/-- What the server keeps after a reconciliation: the defaulted object with the old status, when
the defaults are written, and otherwise the object with the last status accepted. -/
theorem persistedObject_Reconcile (platform : Platform) (replicaCalc : ReplicaCalculatorItf)
    (defaulting : Defaulting) (cluster : Cluster) (wpaInstance : WatermarkPodAutoscaler) :
    persistedObject cluster wpaInstance
        (Reconcile platform replicaCalc defaulting cluster wpaInstance).2.2 =
      if cluster.handleFinalizer = .ok false ∧
          defaulting.isDefaultWatermarkPodAutoscaler wpaInstance = false then
        if cluster.updateObject = none then
          { defaulting.defaultWatermarkPodAutoscaler wpaInstance with status := wpaInstance.status }
        else wpaInstance
      else
        { wpaInstance with status :=
            (if cluster.updateStatus = none then
              persistedStatus wpaInstance.status
                (Reconcile platform replicaCalc defaulting cluster wpaInstance).2.2
            else wpaInstance.status) } := by
  by_cases defaulted : cluster.handleFinalizer = .ok false ∧
      defaulting.isDefaultWatermarkPodAutoscaler wpaInstance = false
  · rw [if_pos defaulted]
    obtain ⟨finalizer, notDefault⟩ := defaulted
    unfold Reconcile
    simp only [finalizer, notDefault, Bool.not_false, ↓reduceIte]
    split <;> rfl
  · rw [if_neg defaulted]
    refine persistedObject_of_noUpdateObject _ _ fun object updated => defaulted ⟨?_,
      (updateObject_mem_Reconcile updated).1⟩
    unfold Reconcile at updated
    split at updated
    · simp at updated
    · simp at updated
    · assumption

/-- Whatever the server held with the last scale time `stamp`, in whole seconds, the last scale
time it keeps after the effects is the one the object ends with in memory, in whole seconds. -/
def PersistsStamp (stamp : Option ℤ) (result : WatermarkPodAutoscaler × List Effect) : Prop :=
  ∀ prior : WatermarkPodAutoscalerStatus, prior.lastScaleTime = stamp →
    stamp.map wholeSeconds = stamp →
    (persistedStatus prior result.2).lastScaleTime = result.1.status.lastScaleTime.map wholeSeconds

namespace PersistsStamp

variable {stamp : Option ℤ} {wpa after : WatermarkPodAutoscaler} {effects effects' : List Effect}

theorem of_noStatus (kept : wpa.status.lastScaleTime = stamp)
    (noStatus : ∀ status, Effect.updateStatus status ∉ effects) :
    PersistsStamp stamp (wpa, effects) :=
  fun prior priorStamp whole => by rw [persistedStatus_of_noStatus noStatus, priorStamp, kept, whole]

/-- A status write after effects that write none: the status written, or the snapshot when the
write is skipped, carries the object's last scale time. -/
theorem updateStatusIfNeeded (cluster : Cluster) (wpaStatusOriginal : WatermarkPodAutoscalerStatus)
    (noStatus : ∀ status, Effect.updateStatus status ∉ effects) :
    PersistsStamp wpaStatusOriginal.lastScaleTime
      (wpa, effects ++ (Wpa.updateStatusIfNeeded cluster wpaStatusOriginal wpa).2) := by
  intro prior priorStamp whole
  rw [persistedStatus_append, persistedStatus_of_noStatus noStatus,
    persistedStatus_updateStatusIfNeeded]
  split_ifs with unchanged
  · rw [priorStamp, ← whole, unchanged]
  · rfl

/-- Effects that write no status after them, the object keeping its last scale time. -/
theorem append_noStatus (persists : PersistsStamp stamp (wpa, effects))
    (noStatus : ∀ status, Effect.updateStatus status ∉ effects')
    (kept : after.status.lastScaleTime = wpa.status.lastScaleTime) :
    PersistsStamp stamp (after, effects ++ effects') := fun prior priorStamp whole => by
  rw [persistedStatus_append, persistedStatus_of_noStatus noStatus, kept]
  exact persists prior priorStamp whole

end PersistsStamp

theorem finishReconcile_persistsStamp (cluster : Cluster)
    (wpaStatusOriginal : WatermarkPodAutoscalerStatus) (targetGR : GroupResource)
    (currentReplicas : Int32) (rescale : Bool) (desiredReplicas : Int32)
    (metricStatuses : List MetricStatus) (wpa : WatermarkPodAutoscaler) {effects : List Effect}
    (noStatus : ∀ status, Effect.updateStatus status ∉ effects) :
    PersistsStamp wpaStatusOriginal.lastScaleTime (finishReconcile cluster wpaStatusOriginal
      targetGR currentReplicas rescale desiredReplicas metricStatuses wpa effects).2 := by
  unfold finishReconcile completeReconcile
  dsimp only
  split_ifs
  · exact .updateStatusIfNeeded _ _ noStatus
  · split
    · split
      · exact (PersistsStamp.updateStatusIfNeeded _ _ (by simp [noStatus])).append_noStatus (by simp)
          (setCondition_lastScaleTime ..)
      · exact .updateStatusIfNeeded _ _ (by simp [noStatus])
    · exact .updateStatusIfNeeded _ _ (by simp [noStatus])
  · exact .updateStatusIfNeeded _ _ (by simp [noStatus])

theorem metricDriven_persistsStamp (platform : Platform) (replicaCalc : ReplicaCalculatorItf)
    (cluster : Cluster) (wpaStatusOriginal : WatermarkPodAutoscalerStatus)
    (targetGR : GroupResource) (currentScale : Scale) (wpa : WatermarkPodAutoscaler)
    (sameStamp : wpa.status.lastScaleTime = wpaStatusOriginal.lastScaleTime) :
    PersistsStamp wpaStatusOriginal.lastScaleTime
      (metricDriven platform replicaCalc cluster wpaStatusOriginal targetGR currentScale wpa).2 := by
  have reports := computeReplicasForMetrics_reportsOnly replicaCalc cluster.now wpa currentScale
  have noStatus : ∀ status, Effect.updateStatus status ∉
      (computeReplicasForMetrics replicaCalc cluster.now wpa currentScale).2.2 :=
    fun _ written => by simpa using reports.2 _ written
  unfold metricDriven
  dsimp only
  split
  · exact .of_noStatus (reports.1.lastScaleTime_eq.trans sameStamp) noStatus
  · split <;> exact (PersistsStamp.updateStatusIfNeeded _ _ noStatus).append_noStatus (by simp)
      (by simp)
  · exact finishReconcile_persistsStamp _ _ _ _ _ _ _ _ (by simp [noStatus])

theorem reconcileScale_persistsStamp (platform : Platform) (replicaCalc : ReplicaCalculatorItf)
    (cluster : Cluster) (targetGR : GroupResource) (currentScale : Scale)
    (wpa : WatermarkPodAutoscaler) :
    PersistsStamp wpa.status.lastScaleTime
      (reconcileScale platform replicaCalc cluster targetGR currentScale wpa).2 := by
  unfold reconcileScale
  dsimp only
  split_ifs
  · exact finishReconcile_persistsStamp _ _ _ _ _ _ _ _ (by simp)
  · split
    · exact finishReconcile_persistsStamp _ _ _ _ _ _ _ _ (by simp)
    · exact metricDriven_persistsStamp _ _ _ _ _ _ _ rfl

/-- Every reconciliation persists the last scale time it ends with in memory. -/
theorem Reconcile_persistsStamp (platform : Platform) (replicaCalc : ReplicaCalculatorItf)
    (defaulting : Defaulting) (cluster : Cluster) (wpaInstance : WatermarkPodAutoscaler) :
    PersistsStamp wpaInstance.status.lastScaleTime
      (Reconcile platform replicaCalc defaulting cluster wpaInstance).2 := by
  have withDryRun := (withDryRunCondition_conditionsOnly cluster.now wpaInstance).lastScaleTime_eq
  have reconciled : PersistsStamp wpaInstance.status.lastScaleTime (reconcileWPA platform
      replicaCalc cluster (withDryRunCondition cluster.now wpaInstance)).2 := by
    unfold reconcileWPA
    split
    · exact .of_noStatus withDryRun (by simp)
    · exact withDryRun ▸ reconcileScale_persistsStamp _ _ _ _ _ _
  unfold Reconcile
  split
  · exact .of_noStatus rfl (by simp)
  · exact .of_noStatus rfl (by simp)
  · split_ifs
    · split <;> exact .of_noStatus rfl (by simp)
    · split
      · dsimp only
        split
        · exact (PersistsStamp.updateStatusIfNeeded _ _ (by simp)).append_noStatus (by simp)
            (setCondition_lastScaleTime ..)
        · exact .updateStatusIfNeeded _ _ (by simp)
      · dsimp only
        split
        · exact reconciled.append_noStatus (by simp) (setCondition_lastScaleTime ..)
        · exact reconciled

/-- Defaulting and validation read the spec only: the verdicts, and the defaulted object apart
from its status, do not depend on the status. -/
def Defaulting.ReadsNoStatus (defaulting : Defaulting) : Prop :=
  ∀ (wpa : WatermarkPodAutoscaler) (status : WatermarkPodAutoscalerStatus),
    defaulting.isDefaultWatermarkPodAutoscaler { wpa with status := status } =
        defaulting.isDefaultWatermarkPodAutoscaler wpa ∧
      defaulting.checkWPAValidity { wpa with status := status } = defaulting.checkWPAValidity wpa ∧
      ∀ kept : WatermarkPodAutoscalerStatus,
        { defaulting.defaultWatermarkPodAutoscaler { wpa with status := status } with status := kept } =
          { defaulting.defaultWatermarkPodAutoscaler wpa with status := kept }

section

variable (platform : Platform) {defaulting : Defaulting} (readsNoStatus : defaulting.ReadsNoStatus)
include readsNoStatus

/-- One step of two runs from variants, the first in stored form: the same decisions, and the
server keeps variants. -/
theorem reconcileStep_statusVariant {wpa wpa' : WatermarkPodAutoscaler} (stored : wpa.status.Stored)
    (variant : StatusVariant wpa wpa') (observation : Observation) :
    StatusVariant (reconcileStep platform defaulting wpa observation).1
        (reconcileStep platform defaulting wpa' observation).1 ∧
      decisions (reconcileStep platform defaulting wpa' observation).2 =
        decisions (reconcileStep platform defaulting wpa observation).2 := by
  obtain ⟨status, stamp, rfl⟩ := variant
  obtain ⟨sameDefaults, sameValidity, sameDefaulted⟩ := readsNoStatus wpa status
  have reconciled := Reconcile_statusVariant (observation.calculator.toItf_oblivious platform)
    platform defaulting observation.cluster ⟨status, stamp, rfl⟩ sameDefaults sameValidity
  refine ⟨?_, reconciled.2⟩
  simp only [reconcileStep, persistedObject_Reconcile, sameDefaults]
  split_ifs with defaulted accepted written
  · exact ⟨status, stamp, by rw [sameDefaulted]⟩
  · exact ⟨status, stamp, rfl⟩
  · -- The status writes are accepted: both runs persist the last scale time they end with.
    refine ⟨_, ?_, rfl⟩
    exact (Reconcile_persistsStamp _ _ _ _ { wpa with status := status } status rfl
      (stamp ▸ stored.lastScaleTime_map)).trans (congrArg (Option.map wholeSeconds)
        reconciled.1 |>.trans
        (Reconcile_persistsStamp _ _ _ _ wpa wpa.status rfl stored.lastScaleTime_map).symm)
  · exact ⟨status, stamp, rfl⟩

/-- Where defaulting and validation read the spec only, two runs over the same observations, from
objects that differ only in their status other than `LastScaleTime`, the first as the server
holds it, make the same scale writes and the same gauge updates in the same order: the status
fields the controller writes never feed back into its decisions, along a whole run, whatever the
status writes that fail. -/
theorem runEffects_decisions_ignore_status {wpa wpa' : WatermarkPodAutoscaler}
    (stored : wpa.status.Stored) (variant : StatusVariant wpa wpa')
    (observations : List Observation) :
    decisions (runEffects platform defaulting wpa' observations) =
      decisions (runEffects platform defaulting wpa observations) := by
  induction observations generalizing wpa wpa' with
  | nil => rfl
  | cons observation observations ih =>
      have step := reconcileStep_statusVariant platform readsNoStatus stored variant observation
      simp only [runEffects, decisions_append, step.2,
        ih (reconcileStep_stored platform defaulting observation stored) step.1]

end

theorem runEffects_decisions_ignore_status_when_overwritten :
    exampleDefaulting.ReadsNoStatus ∧ exampleWpa.status.Stored ∧
      StatusVariant exampleWpa overwrittenWpa ∧
      decisions (runEffects .amd64 exampleDefaulting overwrittenWpa
          [scaledObservation, minuteLaterObservation]) =
        decisions (runEffects .amd64 exampleDefaulting exampleWpa
          [scaledObservation, minuteLaterObservation]) :=
  have readsNoStatus : exampleDefaulting.ReadsNoStatus := fun _ _ => ⟨rfl, rfl, fun _ => rfl⟩
  have variant : StatusVariant exampleWpa overwrittenWpa := ⟨overwrittenWpa.status, rfl, rfl⟩
  ⟨readsNoStatus, by decide, variant,
    runEffects_decisions_ignore_status .amd64 readsNoStatus (by decide) variant _⟩

end Wpa
