import WatermarkPodAutoscaler.Go

/-!
# The objects the controller reads and writes

The custom resource (its spec and status), the target's scale subresource, pods, metric
readings, and what a reconciliation sends out: events, Prometheus gauge updates, scale updates
and status updates.

The `v1alpha1` package that declares the custom resource is not part of the source; its fields
are the ones the controller reads. A field the controller never reads is left out. Go's string
types (condition types and statuses, pod phases, metric source types) stay strings, so that a
status read back from the API server may hold any value. A `resource.Quantity` is represented
by its milli-value, the only view of it the controller takes. Go's `apiequality.Semantic`
equality identifies nil and empty slices, so a nil slice is the empty list. Types and constants
of the API packages (`corev1`, `autoscalingv1`, `autoscalingv2`, `schema`, `v1alpha1`) keep their
Go names without the package; a docstring names the Go declaration where the Lean name differs.
-/

namespace Wpa

/-- `autoscalingv2.HorizontalPodAutoscalerCondition`. -/
structure Condition where
  type : String
  status : String
  lastTransitionTime : ℤ
  reason : String
  message : String
  deriving DecidableEq

/-- `metav1.LabelSelector`, through its match labels, kept in key order as Go prints them. -/
structure LabelSelector where
  matchLabels : List (String × String)
  deriving DecidableEq

/-- Go's `%v` of a `map[string]string`: `map[k1:v1 k2:v2]`. -/
def renderMatchLabels (matchLabels : List (String × String)) : String :=
  "map[" ++ " ".intercalate (matchLabels.map fun label => label.1 ++ ":" ++ label.2) ++ "]"

/-- Go's `%+v` of a `*metav1.LabelSelector`; match expressions are not modelled. -/
def renderLabelSelector : Option LabelSelector → String
  | none => "<nil>"
  | some selector =>
      "&\x7bMatchLabels:" ++ renderMatchLabels selector.matchLabels ++ " MatchExpressions:[]\x7d"

structure ExternalMetricStatus where
  metricSelector : Option LabelSelector
  metricName : String
  currentValue : Int64
  deriving DecidableEq

structure ResourceMetricStatus where
  name : String
  currentAverageValue : Int64
  deriving DecidableEq

/-- `autoscalingv2.MetricStatus`; the zero value stands for a metric that was skipped. -/
structure MetricStatus where
  type : String
  external : Option ExternalMetricStatus
  resource : Option ResourceMetricStatus
  deriving DecidableEq

/-- The zero `MetricStatus` that `make` fills a status slice with. -/
def MetricStatus.zero : MetricStatus := ⟨"", none, none⟩

structure CrossVersionObjectReference where
  kind : String
  name : String
  apiVersion : String
  deriving DecidableEq

/-- `v1alpha1.ExternalMetricSource`; watermarks are milli-values. -/
structure ExternalMetricSource where
  metricName : String
  metricSelector : Option LabelSelector
  highWatermark : Option Int64
  lowWatermark : Option Int64
  deriving DecidableEq

/-- `v1alpha1.ResourceMetricSource`; watermarks are milli-values. -/
structure ResourceMetricSource where
  name : String
  metricSelector : Option LabelSelector
  highWatermark : Option Int64
  lowWatermark : Option Int64
  deriving DecidableEq

structure MetricSpec where
  type : String
  external : Option ExternalMetricSource
  resource : Option ResourceMetricSource
  deriving DecidableEq

def externalMetricSourceType : String := "External"

def resourceMetricSourceType : String := "Resource"

/-- `v1alpha1.WatermarkPodAutoscalerSpec`. Float64 fields are rationals. -/
structure WatermarkPodAutoscalerSpec where
  scaleTargetRef : CrossVersionObjectReference
  minReplicas : Option Int32
  maxReplicas : Int32
  algorithm : String
  tolerance : ℚ
  scaleUpLimitFactor : ℚ
  scaleDownLimitFactor : ℚ
  downscaleForbiddenWindowSeconds : Int32
  upscaleForbiddenWindowSeconds : Int32
  readinessDelaySeconds : Int32
  dryRun : Bool
  metrics : List MetricSpec
  deriving DecidableEq

structure WatermarkPodAutoscalerStatus where
  currentReplicas : Int32
  desiredReplicas : Int32
  currentMetrics : List MetricStatus
  lastScaleTime : Option ℤ
  conditions : List Condition
  deriving DecidableEq

/-- `v1alpha1.WatermarkPodAutoscaler`, with the object metadata the controller reads. -/
structure WatermarkPodAutoscaler where
  name : String
  metaNamespace : String
  spec : WatermarkPodAutoscalerSpec
  status : WatermarkPodAutoscalerStatus
  deriving DecidableEq

/-- `autoscalingv1.Scale`: the target's spec and status replicas and its pod selector. -/
structure Scale where
  specReplicas : Int32
  statusReplicas : Int32
  statusSelector : String
  deriving DecidableEq

structure GroupResource where
  group : String
  resource : String
  deriving DecidableEq

structure GroupKind where
  group : String
  kind : String
  deriving DecidableEq

/-- `apimeta.RESTMapping`, through the group-resource and group-version the controller reads. -/
structure RestMapping where
  groupResource : GroupResource
  groupVersion : String
  deriving DecidableEq

structure PodCondition where
  type : String
  status : String
  lastTransitionTime : ℤ
  deriving DecidableEq

/-- `corev1.Pod`, with the status fields the readiness filter reads. -/
structure Pod where
  name : String
  metaNamespace : String
  phase : String
  startTime : Option ℤ
  conditions : List PodCondition
  deriving DecidableEq

/-- `metricsclient.PodMetricsInfo`: a map from pod name to the sample's milli-value. -/
structure PodMetricsInfo where
  entries : List (String × Int64)
  keys_nodup : (entries.map Prod.fst).Nodup

namespace PodMetricsInfo

/-- `_, found := metrics[name]`. -/
def contains (metrics : PodMetricsInfo) (name : String) : Bool :=
  metrics.entries.any fun entry => entry.1 = name

/-- `delete(metrics, name)`. -/
def delete (metrics : PodMetricsInfo) (name : String) : PodMetricsInfo :=
  ⟨metrics.entries.filter fun entry => entry.1 ≠ name,
    (List.Sublist.map _ (List.filter_sublist _)).nodup metrics.keys_nodup⟩

/-- The pod names the map holds. -/
def keys (metrics : PodMetricsInfo) : List String := metrics.entries.map Prod.fst

end PodMetricsInfo

structure ReplicaCalculation where
  replicaCount : Int32
  utilization : Int64
  timestamp : ℤ
  deriving DecidableEq

/-- The gauge vectors of the controller, by their Go variable names. -/
inductive Gauge where
  | value | restrictedScaling | replicaProposal | replicaMin | replicaMax
  | lowwm | lowwmV2 | highwm | highwmV2 | transitionCountdown | replicaEffective
  deriving DecidableEq

/-- `prometheus.Labels`, in the order the source writes them. -/
abbrev PromLabels := List (String × String)

/-- An update of the Prometheus registry. -/
inductive GaugeOp where
  /-- `gauge.With(labels).Set(value)`. -/
  | set (gauge : Gauge) (labels : PromLabels) (value : Float64)
  /-- `gauge.Delete(labels)`. -/
  | delete (gauge : Gauge) (labels : PromLabels)
  deriving DecidableEq

/-- What a reconciliation sends out, in order. -/
inductive Effect where
  /-- `eventRecorder.Event(wpa, eventType, reason, message)`; the message is left out. -/
  | event (eventType reason : String)
  | gauge (op : GaugeOp)
  /-- `scaleClient.Scales(namespace).Update(groupResource, scale)` with the new spec replicas. -/
  | updateScale (groupResource : GroupResource) (replicas : Int32)
  /-- `client.Status().Update(wpa)`. -/
  | updateStatus (status : WatermarkPodAutoscalerStatus)
  /-- `client.Update(wpa)`, which persists the spec. -/
  | updateObject (wpa : WatermarkPodAutoscaler)
  deriving DecidableEq

/-- Whether an effect only reports, as an event or a gauge update, and writes no object. -/
def Effect.isReport : Effect → Bool
  | .event _ _ | .gauge _ => true
  | _ => false

@[simp] theorem Effect.isReport_event (eventType reason : String) :
    (Effect.event eventType reason).isReport := rfl

@[simp] theorem Effect.isReport_gauge (op : GaugeOp) : (Effect.gauge op).isReport := rfl

@[simp] theorem Effect.isReport_updateScale (groupResource : GroupResource) (replicas : Int32) :
    (Effect.updateScale groupResource replicas).isReport = false := rfl

@[simp] theorem Effect.isReport_updateStatus (status : WatermarkPodAutoscalerStatus) :
    (Effect.updateStatus status).isReport = false := rfl

@[simp] theorem Effect.isReport_updateObject (wpa : WatermarkPodAutoscaler) :
    (Effect.updateObject wpa).isReport = false := rfl

/-- Results of fallible Go calls compare by constructor and payload. -/
instance decEqExcept {ε α : Type} [DecidableEq ε] [DecidableEq α] : DecidableEq (Except ε α)
  | .error err, .error err' =>
      if same : err = err' then isTrue (same ▸ rfl)
      else isFalse fun equal => same (Except.error.inj equal)
  | .ok value, .ok value' =>
      if same : value = value' then isTrue (same ▸ rfl)
      else isFalse fun equal => same (Except.ok.inj equal)
  | .error _, .ok _ => isFalse nofun
  | .ok _, .error _ => isFalse nofun

/-- How a Go call ends: it returns a value, or it panics. -/
inductive Outcome (α : Type) where
  | returned (value : α)
  | panicked
  deriving DecidableEq

def eventTypeNormal : String := "Normal"

def eventTypeWarning : String := "Warning"

def conditionTrue : String := "True"

def conditionFalse : String := "False"

def ableToScale : String := "AbleToScale"

def scalingActive : String := "ScalingActive"

def scalingLimited : String := "ScalingLimited"

def dryRunCondition : String := "DryRun"

/- Modelled from the spec: `metrics.go`, which declares the Prometheus label names, is not
part of the source; the spec lists them. -/

def wpaNamePromLabel : String := "wpa_name"

def resourceNamespacePromLabel : String := "resource_namespace"

def resourceNamePromLabel : String := "resource_name"

def resourceKindPromLabel : String := "resource_kind"

def metricNamePromLabel : String := "metric_name"

def reasonPromLabel : String := "reason"

def transitionPromLabel : String := "transition"

def upscaleCappingPromLabel : String := "upscale_capping"

def downscaleCappingPromLabel : String := "downscale_capping"

/-- The labels naming a WPA and its target, shared by most gauges. -/
def WatermarkPodAutoscaler.promLabels (wpa : WatermarkPodAutoscaler) : PromLabels :=
  [(wpaNamePromLabel, wpa.name), (resourceNamespacePromLabel, wpa.metaNamespace),
    (resourceNamePromLabel, wpa.spec.scaleTargetRef.name),
    (resourceKindPromLabel, wpa.spec.scaleTargetRef.kind)]

/-- A WPA on a deployment, with the defaults of the `v1alpha1` package and one CPU metric
between the watermarks `5` and `8` (in milli-units `5000` and `8000`). -/
def exampleWpa : WatermarkPodAutoscaler where
  name := "wpa"
  metaNamespace := "default"
  spec :=
    { scaleTargetRef := ⟨"Deployment", "app", "apps/v1"⟩
      minReplicas := some ⟨1, by decide, by decide⟩
      maxReplicas := ⟨20, by decide, by decide⟩
      algorithm := "average"
      tolerance := mkRat 1 10
      scaleUpLimitFactor := 50
      scaleDownLimitFactor := 20
      downscaleForbiddenWindowSeconds := ⟨300, by decide, by decide⟩
      upscaleForbiddenWindowSeconds := ⟨60, by decide, by decide⟩
      readinessDelaySeconds := ⟨10, by decide, by decide⟩
      dryRun := false
      metrics := [⟨resourceMetricSourceType, none,
        some ⟨"cpu", some ⟨[]⟩, some ⟨8000, by decide, by decide⟩,
          some ⟨5000, by decide, by decide⟩⟩⟩] }
  status := ⟨⟨10, by decide, by decide⟩, ⟨10, by decide, by decide⟩, [], none, []⟩

/-- The scale of the example WPA's target at ten replicas. -/
def exampleScale : Scale := ⟨⟨10, by decide, by decide⟩, ⟨10, by decide, by decide⟩, "app=example"⟩

end Wpa
