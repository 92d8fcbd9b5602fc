import WatermarkPodAutoscaler.Run

/-!
# The writes of a reconciliation and the update events they raise

A reconciliation writes to the API server through three calls: the object update that persists
defaults, the scale update and the status update. An object without its defaults gets the object
update alone; past the defaulting, a reconciliation writes the scale at most once and then the
status at most once (`Reconcile_writes_in_order`). One outcome per call, as `Cluster` has it,
so describes every reconciliation.

The controller watches its objects, and `updatePredicate` lets an update event into the work
queue only when the spec changed. A status write leaves the spec as it was, so among the update
events a reconciliation's own writes raise, only the defaulting update can bring the object back
(`Reconcile_status_writes_not_enqueued`). The object otherwise comes back through what `Reconcile`
returns to the work queue, which asks for it again, within the sync period, unless the finalizer
stops the object or its spec is invalid (`Reconcile_requeues_valid`).
-/

namespace Wpa

open scoped List

/-- The writes among the effects, in order: the scale, status and object updates. -/
def writes (effects : List Effect) : List Effect := effects.filter fun effect => !effect.isReport

@[simp] theorem writes_nil : writes [] = [] := rfl

@[simp] theorem writes_cons (effect : Effect) (effects : List Effect) :
    writes (effect :: effects) =
      if effect.isReport then writes effects else effect :: writes effects := by
  cases reports : effect.isReport <;> simp [writes, List.filter_cons, reports]

@[simp] theorem writes_append (effects effects' : List Effect) :
    writes (effects ++ effects') = writes effects ++ writes effects' :=
  List.filter_append ..

theorem writes_eq_nil {effects : List Effect} (reports : ∀ effect ∈ effects, effect.isReport) :
    writes effects = [] := by
  simpa [writes] using reports

@[simp] theorem writes_map_gauge (gauges : List GaugeOp) : writes (gauges.map Effect.gauge) = [] :=
  writes_eq_nil (by simp)

/-- `updateStatusIfNeeded` writes the status of the object it is given, if anything. -/
theorem writes_updateStatusIfNeeded (cluster : Cluster) (wpaStatus : WatermarkPodAutoscalerStatus)
    (wpa : WatermarkPodAutoscaler) :
    writes (updateStatusIfNeeded cluster wpaStatus wpa).2 <+ [.updateStatus wpa.status] := by
  unfold updateStatusIfNeeded
  split <;> simp

/-- At most one scale update, to `targetGR`, and after it at most one status update. -/
def ScaleThenStatus (targetGR : GroupResource) (effects : List Effect) : Prop :=
  ∃ replicas status, writes effects <+ [.updateScale targetGR replicas, .updateStatus status]

/-- Effects whose writes are at most one status update. -/
theorem ScaleThenStatus.of_status {targetGR : GroupResource} {effects : List Effect}
    (replicas : Int32) (status : WatermarkPodAutoscalerStatus)
    (statusOnly : writes effects <+ [.updateStatus status]) : ScaleThenStatus targetGR effects :=
  ⟨replicas, status, statusOnly.cons _⟩

section

variable (cluster : Cluster) (wpaStatusOriginal : WatermarkPodAutoscalerStatus)

/-- `finishReconcile` writes the scale at most once, to the target, and then the status at most
once. -/
theorem finishReconcile_scaleThenStatus (targetGR : GroupResource) (currentReplicas : Int32)
    (rescale : Bool) (desiredReplicas : Int32) (metricStatuses : List MetricStatus)
    (wpa : WatermarkPodAutoscaler) {effects : List Effect}
    (reports : ∀ effect ∈ effects, effect.isReport) :
    ScaleThenStatus targetGR (finishReconcile cluster wpaStatusOriginal targetGR currentReplicas
      rescale desiredReplicas metricStatuses wpa effects).2.2 := by
  have before := writes_eq_nil reports
  unfold finishReconcile
  cases rescale
  · exact ⟨desiredReplicas, _, by
      simp only [Bool.false_eq_true, ↓reduceIte, completeReconcile, writes_append, before,
        writes_cons, Effect.isReport_event, Effect.isReport_gauge, List.nil_append]
      exact (writes_updateStatusIfNeeded ..).cons _⟩
  · simp only [↓reduceIte]
    split_ifs
    · exact ⟨desiredReplicas, _, by
        simp only [writes_append, before, List.nil_append]
        exact (writes_updateStatusIfNeeded ..).cons _⟩
    · -- The scale write, then the status write whatever its outcome.
      split
      · split <;> exact ⟨desiredReplicas, _, by
          simp only [writes_append, before, writes_cons, writes_nil, Effect.isReport_event,
            Effect.isReport_updateScale, Bool.false_eq_true, ↓reduceIte, List.nil_append,
            List.append_nil, List.singleton_append, List.cons_append]
          exact (writes_updateStatusIfNeeded ..).cons₂ _⟩
      · exact ⟨desiredReplicas, _, by
          simp only [completeReconcile, writes_append, before, writes_cons, writes_nil,
            Effect.isReport_event, Effect.isReport_gauge, Effect.isReport_updateScale,
            Bool.false_eq_true, ↓reduceIte, List.nil_append, List.append_nil,
            List.singleton_append, List.cons_append]
          exact (writes_updateStatusIfNeeded ..).cons₂ _⟩

theorem metricDriven_scaleThenStatus (platform : Platform) (replicaCalc : ReplicaCalculatorItf)
    (targetGR : GroupResource) (currentScale : Scale) (wpa : WatermarkPodAutoscaler) :
    ScaleThenStatus targetGR (metricDriven platform replicaCalc cluster wpaStatusOriginal targetGR
      currentScale wpa).2.2 := by
  have reports := (computeReplicasForMetrics_reportsOnly replicaCalc cluster.now wpa currentScale).2
  unfold metricDriven
  dsimp only
  split
  · exact .of_status 0 wpa.status (by simp [writes_eq_nil reports])
  · split <;> exact ⟨0, _, by
      simp only [writes_append, writes_eq_nil reports, writes_cons, writes_nil,
        Effect.isReport_event, ↓reduceIte, List.nil_append, List.append_nil]
      exact (writes_updateStatusIfNeeded ..).cons _⟩
  · exact finishReconcile_scaleThenStatus cluster wpaStatusOriginal _ _ _ _ _ _
      (by simpa [or_imp, forall_and] using reports)

theorem reconcileScale_scaleThenStatus (platform : Platform) (replicaCalc : ReplicaCalculatorItf)
    (targetGR : GroupResource) (currentScale : Scale) (wpa : WatermarkPodAutoscaler) :
    ScaleThenStatus targetGR
      (reconcileScale platform replicaCalc cluster targetGR currentScale wpa).2.2 := by
  unfold reconcileScale
  dsimp only
  split_ifs
  · exact finishReconcile_scaleThenStatus cluster _ _ _ _ _ _ _ (by simp)
  · split
    · exact finishReconcile_scaleThenStatus cluster _ _ _ _ _ _ _ (by simp)
    · exact metricDriven_scaleThenStatus ..

end

/-- `reconcileWPA` writes the scale at most once, to the target its lookup finds, and then the
status at most once. -/
theorem reconcileWPA_scaleThenStatus (platform : Platform) (replicaCalc : ReplicaCalculatorItf)
    (cluster : Cluster) (wpa : WatermarkPodAutoscaler) :
    writes (reconcileWPA platform replicaCalc cluster wpa).2.2 = [] ∨
      ∃ currentScale targetGR,
        lookupScale cluster wpa.spec.scaleTargetRef = .ok (currentScale, targetGR) ∧
          ScaleThenStatus targetGR (reconcileWPA platform replicaCalc cluster wpa).2.2 := by
  unfold reconcileWPA
  split
  · exact .inl rfl
  · exact .inr ⟨_, _, ‹_›, reconcileScale_scaleThenStatus ..⟩

/-- `reconcileWPA` never updates the object itself. -/
theorem updateObject_not_mem_reconcileWPA (platform : Platform)
    (replicaCalc : ReplicaCalculatorItf) (cluster : Cluster) (wpa object : WatermarkPodAutoscaler) :
    Effect.updateObject object ∉ (reconcileWPA platform replicaCalc cluster wpa).2.2 := by
  intro member
  have written : Effect.updateObject object ∈ writes (reconcileWPA platform replicaCalc cluster
      wpa).2.2 := List.mem_filter.mpr ⟨member, rfl⟩
  rcases reconcileWPA_scaleThenStatus platform replicaCalc cluster wpa with
    none | ⟨_, _, -, replicas, status, sublist⟩
  · simp [none] at written
  · simpa using sublist.subset written

/-- Each reconciliation writes to the API server in one of two shapes: the object update that
persists defaults, alone, for an object without them; or at most one scale update, then at most
one status update. -/
theorem Reconcile_writes_in_order (platform : Platform) (replicaCalc : ReplicaCalculatorItf)
    (defaulting : Defaulting) (cluster : Cluster) (wpaInstance : WatermarkPodAutoscaler) :
    (defaulting.isDefaultWatermarkPodAutoscaler wpaInstance = false ∧
        writes (Reconcile platform replicaCalc defaulting cluster wpaInstance).2.2 =
          [.updateObject (defaulting.defaultWatermarkPodAutoscaler wpaInstance)]) ∨
      ∃ targetGR, ScaleThenStatus targetGR
        (Reconcile platform replicaCalc defaulting cluster wpaInstance).2.2 := by
  have nothing : ScaleThenStatus ⟨"", ""⟩ [] := .of_status 0 wpaInstance.status (by simp)
  unfold Reconcile
  split
  · exact .inr ⟨_, nothing⟩
  · exact .inr ⟨_, nothing⟩
  · split_ifs with defaulted
    · exact .inl ⟨by simpa using defaulted, by split <;> rfl⟩
    · refine .inr ?_
      split
      · -- An invalid spec: `FailedSpecCheck`, then the status write.
        dsimp only
        split <;> exact ⟨⟨"", ""⟩, 0, _, by
          simp only [writes_append, writes_cons, writes_nil, Effect.isReport_event, ↓reduceIte,
            List.nil_append, List.append_nil]
          exact (writes_updateStatusIfNeeded ..).cons _⟩
      · dsimp only
        rcases reconcileWPA_scaleThenStatus platform replicaCalc cluster
            (withDryRunCondition cluster.now wpaInstance) with none | ⟨_, targetGR, -, shape⟩
        · split <;> exact ⟨⟨"", ""⟩, .of_status 0 wpaInstance.status (by simp [none])⟩
        · obtain ⟨replicas, status, sublist⟩ := shape
          split <;> exact ⟨targetGR, replicas, status, by simpa using sublist⟩

/-- Every object update of a reconciliation persists the defaults of an object without them. -/
theorem updateObject_mem_Reconcile {platform : Platform} {replicaCalc : ReplicaCalculatorItf}
    {defaulting : Defaulting} {cluster : Cluster} {wpaInstance object : WatermarkPodAutoscaler}
    (updated : Effect.updateObject object ∈
      (Reconcile platform replicaCalc defaulting cluster wpaInstance).2.2) :
    defaulting.isDefaultWatermarkPodAutoscaler wpaInstance = false ∧
      object = defaulting.defaultWatermarkPodAutoscaler wpaInstance := by
  have noUpdate := updateObject_not_mem_reconcileWPA platform replicaCalc cluster
    (withDryRunCondition cluster.now wpaInstance) object
  unfold Reconcile at updated
  split at updated
  · simp at updated
  · simp at updated
  · split_ifs at updated with defaulted
    · refine ⟨by simpa using defaulted, ?_⟩
      split at updated <;> simpa using updated
    · split at updated
      · dsimp only at updated
        split at updated <;> simp [updateStatusIfNeeded] at updated <;> split at updated <;>
          simp at updated
      · dsimp only at updated
        split at updated <;> simp [noUpdate] at updated

/-- `updatePredicate`: an update event enters the work queue exactly when the spec changed.
Removing the old object's gauges on a spec change (`cleanupAssociatedMetrics`, not part of the
source) is left out. -/
def updatePredicate (oldObject newObject : WatermarkPodAutoscaler) : Bool :=
  decide (newObject.spec ≠ oldObject.spec)

/-- The update events the server raises for the writes among `effects` that succeed, from the
object it holds: the object before and after each write, as `persistedObject` applies them. -/
def updateEvents (cluster : Cluster) (wpa : WatermarkPodAutoscaler) :
    List Effect → List (WatermarkPodAutoscaler × WatermarkPodAutoscaler)
  | [] => []
  | .updateStatus status :: effects =>
      if cluster.updateStatus = none then
        (wpa, { wpa with status := status.stored }) ::
          updateEvents cluster { wpa with status := status.stored } effects
      else updateEvents cluster wpa effects
  | .updateObject object :: effects =>
      if cluster.updateObject = none then
        (wpa, { object with status := wpa.status }) ::
          updateEvents cluster { object with status := wpa.status } effects
      else updateEvents cluster wpa effects
  | _ :: effects => updateEvents cluster wpa effects

/-- A status write keeps the spec; an object update carries the spec of the object it writes. -/
theorem updateEvents_spec {cluster : Cluster} {wpa : WatermarkPodAutoscaler}
    {effects : List Effect} {event : WatermarkPodAutoscaler × WatermarkPodAutoscaler}
    (raised : event ∈ updateEvents cluster wpa effects) :
    event.2.spec = event.1.spec ∨
      ∃ object, Effect.updateObject object ∈ effects ∧ event.2.spec = object.spec := by
  induction effects generalizing wpa with
  | nil => cases raised
  | cons effect effects ih =>
      have later : ∀ {wpa}, event ∈ updateEvents cluster wpa effects →
          event.2.spec = event.1.spec ∨
            ∃ object, Effect.updateObject object ∈ effect :: effects ∧ event.2.spec = object.spec :=
        fun raised => (ih raised).imp_right fun ⟨object, member, spec⟩ =>
          ⟨object, List.mem_cons_of_mem _ member, spec⟩
      cases effect <;> simp only [updateEvents] at raised
      case updateStatus =>
        split at raised
        · rcases List.mem_cons.mp raised with rfl | raised
          · exact .inl rfl
          · exact later raised
        · exact later raised
      case updateObject object =>
        split at raised
        · rcases List.mem_cons.mp raised with rfl | raised
          · exact .inr ⟨object, List.mem_cons_self _ _, rfl⟩
          · exact later raised
        · exact later raised
      all_goals exact later raised

/-- Among the update events a reconciliation's writes raise, the predicate lets through only the
object update that persists the defaults of an object without them: the controller's status
writes never bring the object back to the work queue. -/
theorem Reconcile_status_writes_not_enqueued (platform : Platform)
    (replicaCalc : ReplicaCalculatorItf) (defaulting : Defaulting) (cluster : Cluster)
    (wpaInstance : WatermarkPodAutoscaler) :
    ∀ event ∈ updateEvents cluster wpaInstance
        (Reconcile platform replicaCalc defaulting cluster wpaInstance).2.2,
      updatePredicate event.1 event.2 = true →
        defaulting.isDefaultWatermarkPodAutoscaler wpaInstance = false ∧
          event.2.spec = (defaulting.defaultWatermarkPodAutoscaler wpaInstance).spec := by
  intro event raised passes
  rcases updateEvents_spec raised with kept | ⟨object, updated, spec⟩
  · simp [updatePredicate, kept] at passes
  · obtain ⟨defaulted, rfl⟩ := updateObject_mem_Reconcile updated
    exact ⟨defaulted, spec⟩

/-- Defaulting that fills an unset tolerance with `0.1`, and accepts every spec. -/
def toleranceDefaulting : Defaulting :=
  ⟨fun wpa => decide (wpa.spec.tolerance ≠ 0),
    fun wpa => { wpa with spec := { wpa.spec with tolerance := mkRat 1 10 } }, fun _ => none⟩

/-- The example object with its tolerance unset. -/
def untoleratedWpa : WatermarkPodAutoscaler :=
  { exampleWpa with spec := { exampleWpa.spec with tolerance := 0 } }

/-- The defaulting update of that object raises the update event that passes the predicate. -/
theorem Reconcile_status_writes_not_enqueued_on_defaults :
    (untoleratedWpa, exampleWpa) ∈ updateEvents (exampleCluster ⟨10, by decide, by decide⟩)
        untoleratedWpa (Reconcile .amd64 ((exampleCalculator ⟨9000, by decide, by decide⟩).toItf .amd64)
          toleranceDefaulting (exampleCluster ⟨10, by decide, by decide⟩) untoleratedWpa).2.2 ∧
      updatePredicate untoleratedWpa exampleWpa = true ∧
      toleranceDefaulting.isDefaultWatermarkPodAutoscaler untoleratedWpa = false ∧
        exampleWpa.spec = (toleranceDefaulting.defaultWatermarkPodAutoscaler untoleratedWpa).spec :=
  ⟨by decide, by decide, Reconcile_status_writes_not_enqueued .amd64
    ((exampleCalculator ⟨9000, by decide, by decide⟩).toItf .amd64) toleranceDefaulting
    (exampleCluster ⟨10, by decide, by decide⟩) untoleratedWpa (untoleratedWpa, exampleWpa)
    (by decide) (by decide)⟩

/-- A reconciliation past the finalizer of an object whose spec is valid, or that lacks its
defaults, hands the object back to the work queue: with an error, which the queue retries, with
`Requeue`, or after a positive delay no longer than the sync period. -/
theorem Reconcile_requeues_valid {platform : Platform} {replicaCalc : ReplicaCalculatorItf}
    {defaulting : Defaulting} {cluster : Cluster} {wpaInstance : WatermarkPodAutoscaler}
    (stays : cluster.handleFinalizer ≠ .ok true)
    (valid : defaulting.isDefaultWatermarkPodAutoscaler wpaInstance = true →
      defaulting.checkWPAValidity wpaInstance = none) :
    (Reconcile platform replicaCalc defaulting cluster wpaInstance).1.2.isSome ∨
      (Reconcile platform replicaCalc defaulting cluster wpaInstance).1.1.requeue ∨
      0 < (Reconcile platform replicaCalc defaulting cluster wpaInstance).1.1.requeueAfter ∧
        (Reconcile platform replicaCalc defaulting cluster wpaInstance).1.1.requeueAfter ≤
          defaultSyncPeriod := by
  unfold Reconcile
  split
  · exact .inl rfl
  · exact absurd ‹_› stays
  · split_ifs with defaulted
    · split
      · exact .inl rfl
      · exact .inr (.inl rfl)
    · rw [valid (by simpa using defaulted)]
      dsimp only
      split <;> exact .inr (.inr (by dsimp only; decide))

/-- The example object, valid and defaulted, is handed back to the work queue. -/
theorem Reconcile_requeues_valid_example :
    (exampleCluster ⟨10, by decide, by decide⟩).handleFinalizer ≠ .ok true ∧
      (exampleDefaulting.isDefaultWatermarkPodAutoscaler exampleWpa = true →
        exampleDefaulting.checkWPAValidity exampleWpa = none) ∧
      ((Reconcile .amd64 ((exampleCalculator ⟨9000, by decide, by decide⟩).toItf .amd64)
          exampleDefaulting (exampleCluster ⟨10, by decide, by decide⟩) exampleWpa).1.2.isSome ∨
        (Reconcile .amd64 ((exampleCalculator ⟨9000, by decide, by decide⟩).toItf .amd64)
          exampleDefaulting (exampleCluster ⟨10, by decide, by decide⟩) exampleWpa).1.1.requeue ∨
        0 < (Reconcile .amd64 ((exampleCalculator ⟨9000, by decide, by decide⟩).toItf .amd64)
            exampleDefaulting (exampleCluster ⟨10, by decide, by decide⟩)
            exampleWpa).1.1.requeueAfter ∧
          (Reconcile .amd64 ((exampleCalculator ⟨9000, by decide, by decide⟩).toItf .amd64)
            exampleDefaulting (exampleCluster ⟨10, by decide, by decide⟩)
            exampleWpa).1.1.requeueAfter ≤ defaultSyncPeriod) :=
  have stays : (exampleCluster ⟨10, by decide, by decide⟩).handleFinalizer ≠ .ok true := by
    simp [exampleCluster]
  ⟨stays, fun _ => rfl, Reconcile_requeues_valid stays fun _ => rfl⟩

end Wpa
