import WatermarkPodAutoscaler.Metrics
import WatermarkPodAutoscaler.Normalizer
import WatermarkPodAutoscaler.Cooldown
import Mathlib.Data.List.Infix

/-!
# The reconciliation

`reconcileWPA` looks up the target's scale through its REST mappings, snapshots the status, and
decides the desired count: `0` for a disabled target, a forced count for a target outside
`[MinReplicas, MaxReplicas]` or at zero replicas, and otherwise the metric-driven proposal,
normalized and passed through the cooldown gate. A decision to rescale writes the scale (or, in
dry-run mode, only the status); every path ends by writing the status when it differs from the
snapshot. `Reconcile` wraps it: it defaults and validates the object, sets the `DryRun`
condition, and records a failed `reconcileWPA` in `AbleToScale`.

The API server is a `Cluster`: its replies to the calls of one reconciliation, and the clock,
read once. A status update and a scale update each happen at most once in a reconciliation, so
one outcome each suffices. `handleFinalizer` and the defaulting and validation functions of the
`v1alpha1` package are not part of the source: the first is an outcome of the cluster, the
others are parameters. A panic in the metric pipeline is recovered by `reconcileWPA`, which then
returns no error.
-/

namespace Wpa

/-- The API server and the clock, as one reconciliation sees them. -/
structure Cluster where
  /-- `restMapper.RESTMappings(groupKind)`. -/
  restMappings : GroupKind → Except String (List RestMapping)
  /-- `scaleClient.Scales(namespace).Get(groupResource, name)` for the WPA's target. -/
  getScale : GroupResource → Except String Scale
  /-- The error of the scale update, if it fails. -/
  updateScale : Option String
  /-- The error of the status update, if it fails. -/
  updateStatus : Option String
  /-- The error of the object update that persists defaults, if it fails. -/
  updateObject : Option String
  /-- What `handleFinalizer` returns: whether to stop, or an error. -/
  handleFinalizer : Except String Bool
  /-- `time.Now()` during the reconciliation. -/
  now : ℤ

/-- The functions of the `v1alpha1` package that `Reconcile` calls. -/
structure Defaulting where
  isDefaultWatermarkPodAutoscaler : WatermarkPodAutoscaler → Bool
  defaultWatermarkPodAutoscaler : WatermarkPodAutoscaler → WatermarkPodAutoscaler
  checkWPAValidity : WatermarkPodAutoscaler → Option String

/-- `datadoghqv1alpha1.ConditionReasonSucceededRescale`, declared in the `v1alpha1` package. -/
def conditionReasonSucceededRescale : String := "SucceededRescale"

/-- How long after a reconciliation that succeeds the object is requeued. -/
def defaultSyncPeriod : ℤ := 15 * second

/-- `schema.ParseGroupVersion`: the group and version of an API version string. -/
def parseGroupVersion (gv : String) : Except String (String × String) :=
  if gv = "" ∨ gv = "/" then .ok ("", "")
  else match gv.toList.count '/' with
    | 0 => .ok ("", gv)
    | 1 => .ok (⟨gv.toList.takeWhile (· ≠ '/')⟩, ⟨(gv.toList.dropWhile (· ≠ '/')).drop 1⟩)
    | _ => .error ("unexpected GroupVersion string: " ++ gv)

/-- `utilerrors.NewAggregate(errs)`, through its message: none for no errors, the one message,
or the distinct messages in brackets. -/
def aggregateError : List String → Option String
  | [] => none
  | [err] => some err
  | errs => match errs.eraseDups with
    | [err] => some err
    | distinct => some ("[" ++ ", ".intercalate distinct ++ "]")

/-- `strings.Contains(s, substr)`. -/
def stringsContains (s substr : String) : Bool := decide (substr.toList <:+: s.toList)

/-- The loop of `getScaleForResourceMappings`: the scale of the first mapping whose Get succeeds
and that mapping's group-resource, or none and the last group-resource tried; with the errors of
the mappings tried before. -/
def scaleLookup (cluster : Cluster) :
    List RestMapping → GroupResource → List String → Option Scale × GroupResource × List String
  | [], targetGR, errs => (none, targetGR, errs)
  | mapping :: rest, _, errs =>
      match cluster.getScale mapping.groupResource with
      | .ok scale => (some scale, mapping.groupResource, errs)
      | .error err => scaleLookup cluster rest mapping.groupResource
          (errs ++ ["could not get scale for the GV " ++ mapping.groupVersion ++ ", error: " ++ err])

/-- `getScaleForResourceMappings`: the scale, the group-resource, and the aggregated error. -/
def getScaleForResourceMappings (cluster : Cluster) (mappings : List RestMapping) :
    Option Scale × GroupResource × Option String :=
  let found := scaleLookup cluster mappings ⟨"", ""⟩ []
  let errs := if found.1.isNone then found.2.2 ++ ["scale not found"] else found.2.2
  (found.1, found.2.1, aggregateError errs)

/-- `setStatus`: the status rebuilt from the counts and metric statuses, keeping the last scale
time and the conditions; a rescale stamps the last scale time with the clock. -/
def setStatus (now : ℤ) (wpa : WatermarkPodAutoscaler) (currentReplicas desiredReplicas : Int32)
    (metricStatuses : List MetricStatus) (rescale : Bool) : WatermarkPodAutoscaler :=
  { wpa with status :=
    { currentReplicas := currentReplicas
      desiredReplicas := desiredReplicas
      currentMetrics := metricStatuses
      lastScaleTime := if rescale then some now else wpa.status.lastScaleTime
      conditions := wpa.status.conditions } }

@[simp] theorem setStatus_spec (now : ℤ) (wpa : WatermarkPodAutoscaler)
    (currentReplicas desiredReplicas : Int32) (metricStatuses : List MetricStatus)
    (rescale : Bool) :
    (setStatus now wpa currentReplicas desiredReplicas metricStatuses rescale).spec = wpa.spec :=
  rfl

@[simp] theorem setStatus_lastScaleTime (now : ℤ) (wpa : WatermarkPodAutoscaler)
    (currentReplicas desiredReplicas : Int32) (metricStatuses : List MetricStatus)
    (rescale : Bool) :
    (setStatus now wpa currentReplicas desiredReplicas metricStatuses rescale).status.lastScaleTime =
      if rescale then some now else wpa.status.lastScaleTime := rfl

@[simp] theorem setStatus_desiredReplicas (now : ℤ) (wpa : WatermarkPodAutoscaler)
    (currentReplicas desiredReplicas : Int32) (metricStatuses : List MetricStatus)
    (rescale : Bool) :
    (setStatus now wpa currentReplicas desiredReplicas metricStatuses rescale).status.desiredReplicas =
      desiredReplicas := rfl

/-- `setStatus` with a new current count only: the desired count and metrics stay, and the last
scale time is not stamped. -/
def setCurrentReplicasInStatus (now : ℤ) (wpa : WatermarkPodAutoscaler) (currentReplicas : Int32) :
    WatermarkPodAutoscaler :=
  setStatus now wpa currentReplicas wpa.status.desiredReplicas wpa.status.currentMetrics false

/-- `updateStatusIfNeeded`: the error it returns and the update it sends, if any. -/
def updateStatusIfNeeded (cluster : Cluster) (wpaStatus : WatermarkPodAutoscalerStatus)
    (wpa : WatermarkPodAutoscaler) : Option String × List Effect :=
  if wpaStatus = wpa.status then (none, []) else (cluster.updateStatus, [.updateStatus wpa.status])

@[simp] theorem updateScale_not_mem_updateStatusIfNeeded (cluster : Cluster)
    (wpaStatus : WatermarkPodAutoscalerStatus) (wpa : WatermarkPodAutoscaler)
    (groupResource : GroupResource) (replicas : Int32) :
    Effect.updateScale groupResource replicas ∉ (updateStatusIfNeeded cluster wpaStatus wpa).2 := by
  unfold updateStatusIfNeeded
  split <;> simp

@[simp] theorem updateStatus_mem_updateStatusIfNeeded (cluster : Cluster)
    (wpaStatus : WatermarkPodAutoscalerStatus) (wpa : WatermarkPodAutoscaler)
    (status : WatermarkPodAutoscalerStatus) :
    Effect.updateStatus status ∈ (updateStatusIfNeeded cluster wpaStatus wpa).2 ↔
      wpaStatus ≠ wpa.status ∧ status = wpa.status := by
  unfold updateStatusIfNeeded
  split <;> simp_all

/-- The last lines of `reconcileWPA`: publish the effective count, set the status and write it. -/
def completeReconcile (cluster : Cluster) (wpaStatusOriginal : WatermarkPodAutoscalerStatus)
    (currentReplicas desiredReplicas : Int32) (metricStatuses : List MetricStatus) (rescale : Bool)
    (wpa : WatermarkPodAutoscaler) (effects : List Effect) :
    Option String × WatermarkPodAutoscaler × List Effect :=
  let wpa := setStatus cluster.now wpa currentReplicas desiredReplicas metricStatuses rescale
  let update := updateStatusIfNeeded cluster wpaStatusOriginal wpa
  (update.1, wpa, effects ++
    [.gauge (.set .replicaEffective wpa.promLabels (.ofInt desiredReplicas.val))] ++ update.2)

/-- `reconcileWPA` from the decision on: rescale (in dry-run mode, only in the status) or not. -/
def finishReconcile (cluster : Cluster) (wpaStatusOriginal : WatermarkPodAutoscalerStatus)
    (targetGR : GroupResource) (currentReplicas : Int32) (rescale : Bool)
    (desiredReplicas : Int32) (metricStatuses : List MetricStatus) (wpa : WatermarkPodAutoscaler)
    (effects : List Effect) : Option String × WatermarkPodAutoscaler × List Effect :=
  if rescale then
    let wpa := setCondition cluster.now wpa ableToScale conditionTrue "ReadyForScale"
      "the last scaling time was sufficiently old as to warrant a new scale"
    if wpa.spec.dryRun then
      let wpa := setStatus cluster.now wpa currentReplicas desiredReplicas metricStatuses rescale
      let update := updateStatusIfNeeded cluster wpaStatusOriginal wpa
      (update.1, wpa, effects ++ update.2)
    else
      let effects := effects ++ [.updateScale targetGR desiredReplicas]
      match cluster.updateScale with
      | some err =>
          let wpa := setCurrentReplicasInStatus cluster.now
            (setCondition cluster.now wpa ableToScale conditionFalse "FailedUpdateScale"
              ("the HPA controller was unable to update the target scale: " ++ err))
            currentReplicas
          let update := updateStatusIfNeeded cluster wpaStatusOriginal wpa
          let effects := effects ++ [.event eventTypeWarning "FailedRescale"] ++ update.2
          match update.1 with
          | some err' =>
              (none, setCondition cluster.now wpa ableToScale conditionFalse "FailedUpdateReplicas"
                ("the WPA controller was unable to update the number of replicas: " ++ err'),
                effects ++ [.event eventTypeWarning "FailedUpdateReplicas"])
          | none => (none, wpa, effects)
      | none =>
          completeReconcile cluster wpaStatusOriginal currentReplicas desiredReplicas
            metricStatuses rescale
            (setCondition cluster.now wpa ableToScale conditionTrue conditionReasonSucceededRescale
              ("the HPA controller was able to update the target scale to " ++
                toString desiredReplicas.val))
            (effects ++ [.event eventTypeNormal "SuccessfulRescale"])
  else
    completeReconcile cluster wpaStatusOriginal currentReplicas currentReplicas metricStatuses
      rescale wpa (effects ++ [.event eventTypeNormal "NotScaling"])

/-- The early exits of `reconcileWPA` past a disabled target: `MaxReplicas` above it,
`MinReplicas` below it, and `1` for a target with no replicas. -/
def forcedReplicas (spec : WatermarkPodAutoscalerSpec) (currentReplicas : Int32) : Option Int32 :=
  if currentReplicas > spec.maxReplicas then some spec.maxReplicas
  else if spec.minReplicas.any fun minReplicas => currentReplicas < minReplicas then
    spec.minReplicas
  else if currentReplicas = 0 then some 1
  else none

/-- A count not below zero is left to the metrics exactly when it lies in
`[max(MinReplicas, 1), MaxReplicas]`. -/
theorem forcedReplicas_eq_none_iff {spec : WatermarkPodAutoscalerSpec} {currentReplicas : Int32}
    (currentNonneg : 0 ≤ currentReplicas) :
    forcedReplicas spec currentReplicas = none ↔
      max (spec.minReplicas.getD 0) 1 ≤ currentReplicas ∧ currentReplicas ≤ spec.maxReplicas := by
  unfold forcedReplicas
  cases minimum : spec.minReplicas <;>
    simp only [minimum, Int32.le_iff_val, Int32.lt_iff_val, Int32.eq_iff_val, Int32.val_max,
      Int32.val_one, Int32.val_zero, Option.getD_none, Option.getD_some, Option.any_none,
      Option.any_some, gt_iff_lt, decide_eq_true_eq, Bool.false_eq_true, ↓reduceIte,
      max_le_iff] at currentNonneg ⊢ <;>
    split_ifs <;> simp only [reduceCtorEq, false_iff, true_iff, not_and, not_le] <;> omega

/-- A forced count lies in `[max(1, MinReplicas), MaxReplicas]` when the target's count and
`MinReplicas` are not below zero and the range is not empty. -/
theorem forcedReplicas_bounds {spec : WatermarkPodAutoscalerSpec} {currentReplicas replicas : Int32}
    (forced : forcedReplicas spec currentReplicas = some replicas)
    (currentNonneg : 0 ≤ currentReplicas) (minNonneg : 0 ≤ spec.minReplicas.getD 0)
    (minLeMax : spec.minReplicas.getD 0 ≤ spec.maxReplicas) (maxPos : 1 ≤ spec.maxReplicas) :
    max 1 (spec.minReplicas.getD 0) ≤ replicas ∧ replicas ≤ spec.maxReplicas := by
  unfold forcedReplicas at forced
  cases minimum : spec.minReplicas <;>
    simp only [minimum, Int32.le_iff_val, Int32.lt_iff_val, Int32.eq_iff_val, Int32.val_max,
      Int32.val_one, Int32.val_zero, Option.getD_none, Option.getD_some, Option.any_none,
      Option.any_some, gt_iff_lt, decide_eq_true_eq, Bool.false_eq_true, ↓reduceIte,
      max_le_iff] at forced currentNonneg minNonneg minLeMax maxPos ⊢ <;>
    split_ifs at forced <;> cases forced <;> simp only [Int32.val_one] at * <;> omega

/-- The metric-driven branch of `reconcileWPA`. -/
def metricDriven (platform : Platform) (replicaCalc : ReplicaCalculatorItf) (cluster : Cluster)
    (wpaStatusOriginal : WatermarkPodAutoscalerStatus) (targetGR : GroupResource)
    (currentScale : Scale) (wpa : WatermarkPodAutoscaler) :
    Option String × WatermarkPodAutoscaler × List Effect :=
  let currentReplicas := currentScale.statusReplicas
  let computed := computeReplicasForMetrics replicaCalc cluster.now wpa currentScale
  match computed.1 with
  | .panicked => (none, computed.2.1, computed.2.2)
  | .returned (.error err) =>
      let wpa := setCurrentReplicasInStatus cluster.now computed.2.1 currentReplicas
      let update := updateStatusIfNeeded cluster wpaStatusOriginal wpa
      match update.1 with
      | some _ =>
          (none, setCondition cluster.now wpa ableToScale conditionFalse "FailedUpdateReplicas"
            ("the WPA controller was unable to update the number of replicas: " ++ err),
            computed.2.2 ++ update.2 ++ [.event eventTypeWarning "FailedUpdateReplicas"])
      | none =>
          (none, wpa,
            computed.2.2 ++ update.2 ++ [.event eventTypeWarning "FailedComputeMetricsReplicas"])
  | .returned (.ok result) =>
      let proposed := decide (result.replicas > 0)
      let desiredReplicas := if proposed then result.replicas else 0
      let timestamp := if proposed then result.timestamp else cluster.now
      let normalized := normalizeDesiredReplicas platform cluster.now computed.2.1 currentReplicas
        desiredReplicas
      let gate := shouldScale cluster.now normalized.2.1 currentReplicas normalized.1 timestamp
      finishReconcile cluster wpaStatusOriginal targetGR currentReplicas gate.1 normalized.1
        result.statuses gate.2.1
        (computed.2.2 ++ normalized.2.2.map Effect.gauge ++ gate.2.2.map Effect.gauge)

/-- `reconcileWPA` once the scale is found: the decision and what follows it. -/
def reconcileScale (platform : Platform) (replicaCalc : ReplicaCalculatorItf) (cluster : Cluster)
    (targetGR : GroupResource) (currentScale : Scale) (wpa : WatermarkPodAutoscaler) :
    Option String × WatermarkPodAutoscaler × List Effect :=
  let currentReplicas := currentScale.statusReplicas
  let wpaStatusOriginal := wpa.status
  let wpa := setCondition cluster.now wpa ableToScale conditionTrue "SucceededGetScale"
    "the WPA controller was able to get the target's current scale"
  let metricStatuses := wpaStatusOriginal.currentMetrics
  if currentScale.specReplicas = 0 then
    finishReconcile cluster wpaStatusOriginal targetGR currentReplicas false 0 metricStatuses
      (setCondition cluster.now wpa scalingActive conditionFalse "ScalingDisabled"
        "scaling is disabled since the replica count of the target is zero") []
  else match forcedReplicas wpa.spec currentReplicas with
    | some desiredReplicas =>
        finishReconcile cluster wpaStatusOriginal targetGR currentReplicas true desiredReplicas
          metricStatuses wpa []
    | none => metricDriven platform replicaCalc cluster wpaStatusOriginal targetGR currentScale wpa

/-- The lookup at the head of `reconcileWPA`: the target's scale and its group-resource, or what
`reconcileWPA` returns without one. A lookup that finds no scale and no "not found" error goes
on to dereference the nil scale, and the recovered panic returns no error. -/
def lookupScale (cluster : Cluster) (scaleTargetRef : CrossVersionObjectReference) :
    Except (Option String) (Scale × GroupResource) :=
  match parseGroupVersion scaleTargetRef.apiVersion with
  | .error err => .error (some ("invalid API version in scale target reference: " ++ err))
  | .ok (group, _) =>
      match cluster.restMappings ⟨group, scaleTargetRef.kind⟩ with
      | .error err =>
          .error (some ("unable to determine resource for scale target reference: " ++ err))
      | .ok mappings =>
          match getScaleForResourceMappings cluster mappings with
          | (some currentScale, targetGR, _) => .ok (currentScale, targetGR)
          | (none, _, some err) => .error (if stringsContains err "not found" then some err else none)
          | (none, _, none) => .error none

/-- `reconcileWPA`: the error it returns, the object as it leaves it in memory, and the effects. -/
def reconcileWPA (platform : Platform) (replicaCalc : ReplicaCalculatorItf) (cluster : Cluster)
    (wpa : WatermarkPodAutoscaler) : Option String × WatermarkPodAutoscaler × List Effect :=
  match lookupScale cluster wpa.spec.scaleTargetRef with
  | .error err => (err, wpa, [])
  | .ok (currentScale, targetGR) =>
      reconcileScale platform replicaCalc cluster targetGR currentScale wpa

/-- The object `Reconcile` hands to `reconcileWPA`: the `DryRun` condition set from the spec. -/
def withDryRunCondition (now : ℤ) (wpaInstance : WatermarkPodAutoscaler) : WatermarkPodAutoscaler :=
  if wpaInstance.spec.dryRun then
    setCondition now wpaInstance dryRunCondition conditionTrue "DryRun mode enabled"
      "Scaling changes won't be applied"
  else
    setCondition now wpaInstance dryRunCondition conditionFalse "DryRun mode disabled"
      "Scaling changes can be applied"

theorem withDryRunCondition_conditionsOnly (now : ℤ) (wpaInstance : WatermarkPodAutoscaler) :
    ConditionsOnly wpaInstance (withDryRunCondition now wpaInstance) := by
  unfold withDryRunCondition
  split <;> rfl

/-- What `Reconcile` asks of the work queue. -/
structure ReconcileResult where
  requeue : Bool
  requeueAfter : ℤ
  deriving DecidableEq

/-- `Reconcile` on the object the client read: the result and error it returns, the object as it
leaves it in memory, and the effects. -/
def Reconcile (platform : Platform) (replicaCalc : ReplicaCalculatorItf) (defaulting : Defaulting)
    (cluster : Cluster) (wpaInstance : WatermarkPodAutoscaler) :
    (ReconcileResult × Option String) × WatermarkPodAutoscaler × List Effect :=
  match cluster.handleFinalizer with
  | .error err => ((⟨false, 0⟩, some err), wpaInstance, [])
  | .ok true => ((⟨false, 0⟩, none), wpaInstance, [])
  | .ok false =>
      if !defaulting.isDefaultWatermarkPodAutoscaler wpaInstance then
        let update := Effect.updateObject (defaulting.defaultWatermarkPodAutoscaler wpaInstance)
        match cluster.updateObject with
        | some err => ((⟨false, 0⟩, some err), wpaInstance, [update])
        | none => ((⟨true, 0⟩, none), wpaInstance, [update])
      else match defaulting.checkWPAValidity wpaInstance with
      | some err =>
          let original := wpaInstance.status
          let wpaInstance := setCondition cluster.now wpaInstance ableToScale conditionFalse
            "FailedSpecCheck" ("Invalid WPA specification: " ++ err)
          let update := updateStatusIfNeeded cluster original wpaInstance
          let effects := [.event eventTypeWarning "FailedSpecCheck"] ++ update.2
          match update.1 with
          | some err' =>
              ((⟨false, 0⟩, some err'), wpaInstance,
                effects ++ [.event eventTypeWarning "FailedUpdateStatus"])
          | none => ((⟨false, 0⟩, none), wpaInstance, effects)
      | none =>
          let reconciled := reconcileWPA platform replicaCalc cluster
            (withDryRunCondition cluster.now wpaInstance)
          match reconciled.1 with
          | some _ =>
              ((⟨false, second⟩, none),
                setCondition cluster.now reconciled.2.1 ableToScale conditionFalse
                  "FailedProcessWPA" "Error happened while processing the WPA",
                reconciled.2.2 ++ [.event eventTypeWarning "FailedProcessWPA"])
          | none => ((⟨false, defaultSyncPeriod⟩, none), reconciled.2.1, reconciled.2.2)

end Wpa
