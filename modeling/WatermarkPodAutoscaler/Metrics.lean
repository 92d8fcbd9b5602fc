import WatermarkPodAutoscaler.ReplicaCalculator
import WatermarkPodAutoscaler.Conditions

/-!
# Aggregating the metrics

`computeReplicasForMetrics` runs every metric spec through the replica calculator and keeps the
largest proposal. Its loop skips a spec with neither source, dispatches the others on their
`Type`, and returns at the first failure: an unsupported type, a source missing a watermark, or
an error of the calculator. The running maximum starts at `0`, and `0` doubles as "no proposal
yet": a proposal replaces the running one when the running one is `0` or smaller.

The dispatch dereferences the source its `Type` names, and the metric name it builds
dereferences that source's selector; either pointer may be nil in a spec the API server
accepted, and the dereference panics.
-/

namespace Wpa

/-- What one evaluated spec proposes: the calculator's count and timestamp, the metric name the
loop builds, and the status it records. -/
structure Proposal where
  replicas : Int32
  metric : String
  timestamp : ℤ
  status : MetricStatus
  deriving DecidableEq

/-- The running values of the loop of `computeReplicasForMetrics`, which are also its results. -/
structure MetricsAccumulator where
  replicas : Int32
  metric : String
  statuses : List MetricStatus
  timestamp : ℤ
  deriving DecidableEq

/-- The end of an iteration: record the spec's status at its index, and take the proposal when
the running count is `0` or below it. -/
def MetricsAccumulator.record (accumulator : MetricsAccumulator) (index : ℕ)
    (proposal : Proposal) : MetricsAccumulator :=
  let statuses := accumulator.statuses.set index proposal.status
  if accumulator.replicas = 0 ∨ proposal.replicas > accumulator.replicas then
    ⟨proposal.replicas, proposal.metric, statuses, proposal.timestamp⟩
  else { accumulator with statuses := statuses }

/-- `fmt.Sprintf("%s{%v}", name, selector.MatchLabels)`. -/
def metricNameProposal (name : String) (selector : LabelSelector) : String :=
  name ++ "\x7b" ++ renderMatchLabels selector.matchLabels ++ "\x7d"

/-- The gauges a successful evaluation sets: both watermarks (twice, for the two gauge
generations) under the metric name, and the proposal. -/
def watermarkGauges (wpa : WatermarkPodAutoscaler) (name : String) (lowMark highMark : Int64)
    (proposal : Int32) : List Effect :=
  let withName := wpa.promLabels ++ [(metricNamePromLabel, name)]
  [.gauge (.set .lowwm withName (.ofInt lowMark.val)),
    .gauge (.set .lowwmV2 withName (.ofInt lowMark.val)),
    .gauge (.set .highwm withName (.ofInt highMark.val)),
    .gauge (.set .highwmV2 withName (.ofInt highMark.val)),
    .gauge (.set .replicaProposal wpa.promLabels (.ofInt proposal.val))]

/-- What the body of the loop yields before the running-maximum update: the spec's proposal
(`none` for a skipped spec) or the error the loop returns, or a panic. -/
abbrev Evaluation := Outcome (Except String (Option Proposal))

/-- The body on a spec whose `Type` names a source with both watermarks and a selector, after
the calculator has answered. The error path records the `failure` reason with the source's own
condition message and error prefix; the success path builds the status from the utilization. -/
def evaluateSource (now : ℤ) (wpa : WatermarkPodAutoscaler)
    (failure conditionMessage errorPrefix name : String) (selector : LabelSelector)
    (lowMark highMark : Int64) (status : Int64 → MetricStatus)
    (calculation : Outcome (Except String ReplicaCalculation) × List GaugeOp) :
    Evaluation × WatermarkPodAutoscaler × List Effect :=
  let gauges := calculation.2.map Effect.gauge
  match calculation.1 with
  | .panicked => (.panicked, wpa, gauges)
  | .returned (.error err) =>
      (.returned (.error (errorPrefix ++ name ++ ": " ++ err)),
        setCondition now wpa scalingActive conditionFalse failure (conditionMessage ++ err),
        gauges ++ [.gauge (.delete .replicaProposal wpa.promLabels),
          .event eventTypeWarning failure])
  | .returned (.ok replicaCalculation) =>
      (.returned (.ok (some ⟨replicaCalculation.replicaCount, metricNameProposal name selector,
          replicaCalculation.timestamp, status replicaCalculation.utilization⟩)),
        wpa, gauges ++ watermarkGauges wpa name lowMark highMark replicaCalculation.replicaCount)

/-- The error path of a source missing a watermark. -/
def missingWatermark (now : ℤ) (wpa : WatermarkPodAutoscaler) (failure errMsg : String) :
    Evaluation × WatermarkPodAutoscaler × List Effect :=
  (.returned (.error errMsg),
    setCondition now wpa scalingActive conditionFalse failure
      "the WPA was unable to compute the replica count: <nil>",
    [.event eventTypeWarning failure])

/-- The body of the loop of `computeReplicasForMetrics` on one spec, up to the running-maximum
update. -/
def evaluateMetric (replicaCalc : ReplicaCalculatorItf) (now : ℤ) (scale : Scale)
    (wpa : WatermarkPodAutoscaler) (metricSpec : MetricSpec) :
    Evaluation × WatermarkPodAutoscaler × List Effect :=
  if metricSpec.external.isNone ∧ metricSpec.resource.isNone then
    (.returned (.ok none), wpa, [])
  else if metricSpec.type = externalMetricSourceType then
    match metricSpec.external with
    | none => (.panicked, wpa, [])
    | some external =>
        match external.highWatermark, external.lowWatermark, external.metricSelector with
        | some highMark, some lowMark, some selector =>
            evaluateSource now wpa "FailedGetExternalMetric"
              "the HPA was unable to compute the replica count: " "failed to get external metric "
              external.metricName selector lowMark highMark
              (fun utilization => ⟨externalMetricSourceType,
                some ⟨external.metricSelector, external.metricName, utilization⟩, none⟩)
              (replicaCalc.getExternalMetricReplicas scale metricSpec wpa)
        | some _, some _, none => (.panicked, wpa, [])
        | _, _, _ => missingWatermark now wpa "FailedGetExternalMetric"
            "invalid external metric source: the high watermark and the low watermark are required"
  else if metricSpec.type = resourceMetricSourceType then
    match metricSpec.resource with
    | none => (.panicked, wpa, [])
    | some resource =>
        match resource.highWatermark, resource.lowWatermark, resource.metricSelector with
        | some highMark, some lowMark, some selector =>
            evaluateSource now wpa "FailedGetResourceMetric"
              "the WPA was unable to compute the replica count: " "failed to get resource metric "
              resource.name selector lowMark highMark
              (fun utilization => ⟨resourceMetricSourceType, none,
                some ⟨resource.name, utilization⟩⟩)
              (replicaCalc.getResourceReplicas scale metricSpec wpa)
        | some _, some _, none => (.panicked, wpa, [])
        | _, _, _ => missingWatermark now wpa "FailedGetResourceMetric"
            "invalid resource metric source: the high watermark and the low watermark are required"
  else
    (.returned (.error ("metricSpec.Type:" ++ metricSpec.type ++ " not supported")), wpa, [])

/-- The loop of `computeReplicasForMetrics` from spec `index` on. -/
def metricsLoop (replicaCalc : ReplicaCalculatorItf) (now : ℤ) (scale : Scale) :
    WatermarkPodAutoscaler → ℕ → List MetricSpec → MetricsAccumulator →
      Outcome (Except String MetricsAccumulator) × WatermarkPodAutoscaler × List Effect
  | wpa, _, [], accumulator => (.returned (.ok accumulator), wpa, [])
  | wpa, index, metricSpec :: rest, accumulator =>
      let evaluation := evaluateMetric replicaCalc now scale wpa metricSpec
      let continueWith (next : MetricsAccumulator) :=
        let later := metricsLoop replicaCalc now scale evaluation.2.1 (index + 1) rest next
        (later.1, later.2.1, evaluation.2.2 ++ later.2.2)
      match evaluation.1 with
      | .returned (.ok none) => continueWith accumulator
      | .returned (.ok (some proposal)) => continueWith (accumulator.record index proposal)
      | .returned (.error err) => (.returned (.error err), evaluation.2.1, evaluation.2.2)
      | .panicked => (.panicked, evaluation.2.1, evaluation.2.2)

/-- `computeReplicasForMetrics`: the largest proposal with its metric name, the statuses of the
specs and the proposal's timestamp, or the first error; with the object and the effects. -/
def computeReplicasForMetrics (replicaCalc : ReplicaCalculatorItf) (now : ℤ)
    (wpa : WatermarkPodAutoscaler) (scale : Scale) :
    Outcome (Except String MetricsAccumulator) × WatermarkPodAutoscaler × List Effect :=
  let minReplicas := (wpa.spec.minReplicas.map Int32.val).getD 0
  let limits := [Effect.gauge (.set .replicaMin wpa.promLabels (.ofInt minReplicas)),
    .gauge (.set .replicaMax wpa.promLabels (.ofInt wpa.spec.maxReplicas.val))]
  let loop := metricsLoop replicaCalc now scale wpa 0 wpa.spec.metrics
    ⟨0, "", List.replicate wpa.spec.metrics.length MetricStatus.zero, 0⟩
  match loop.1 with
  | .returned (.ok result) =>
      (.returned (.ok result),
        setCondition now loop.2.1 scalingActive conditionTrue "ValidMetricFound"
          ("the HPA was able to successfully calculate a replica count from " ++ result.metric),
        limits ++ loop.2.2)
  | stop => (stop, loop.2.1, limits ++ loop.2.2)

theorem evaluateSource_reportsOnly (now : ℤ) (wpa : WatermarkPodAutoscaler)
    (failure conditionMessage errorPrefix name : String) (selector : LabelSelector)
    (lowMark highMark : Int64) (status : Int64 → MetricStatus)
    (calculation : Outcome (Except String ReplicaCalculation) × List GaugeOp) :
    ReportsOnly wpa (evaluateSource now wpa failure conditionMessage errorPrefix name selector
      lowMark highMark status calculation).2 := by
  unfold evaluateSource watermarkGauges
  split
  · exact ⟨.refl wpa, by simp⟩
  · exact ⟨setCondition_conditionsOnly .., by simp [or_imp, forall_and]⟩
  · exact ⟨.refl wpa, by simp [or_imp, forall_and]⟩

theorem evaluateMetric_reportsOnly (replicaCalc : ReplicaCalculatorItf) (now : ℤ) (scale : Scale)
    (wpa : WatermarkPodAutoscaler) (metricSpec : MetricSpec) :
    ReportsOnly wpa (evaluateMetric replicaCalc now scale wpa metricSpec).2 := by
  have silent : ReportsOnly wpa (wpa, []) := ⟨.refl wpa, by simp⟩
  have missing (failure errMsg : String) : ReportsOnly wpa (missingWatermark now wpa failure errMsg).2 :=
    ⟨setCondition_conditionsOnly .., by simp [missingWatermark]⟩
  unfold evaluateMetric
  split_ifs <;> (repeat' split) <;>
    first | exact silent | exact missing .. | exact evaluateSource_reportsOnly ..

theorem metricsLoop_reportsOnly (replicaCalc : ReplicaCalculatorItf) (now : ℤ) (scale : Scale) :
    ∀ (metricSpecs : List MetricSpec) (wpa : WatermarkPodAutoscaler) (index : ℕ)
      (accumulator : MetricsAccumulator),
      ReportsOnly wpa (metricsLoop replicaCalc now scale wpa index metricSpecs accumulator).2
  | [], wpa, _, _ => ⟨.refl wpa, by simp [metricsLoop]⟩
  | metricSpec :: rest, wpa, index, accumulator => by
      have first := evaluateMetric_reportsOnly replicaCalc now scale wpa metricSpec
      simp only [metricsLoop]
      split
      · exact first.append (metricsLoop_reportsOnly replicaCalc now scale rest _ _ _)
      · exact first.append (metricsLoop_reportsOnly replicaCalc now scale rest _ _ _)
      · exact first
      · exact first

theorem computeReplicasForMetrics_reportsOnly (replicaCalc : ReplicaCalculatorItf) (now : ℤ)
    (wpa : WatermarkPodAutoscaler) (scale : Scale) :
    ReportsOnly wpa (computeReplicasForMetrics replicaCalc now wpa scale).2 := by
  have loop := metricsLoop_reportsOnly replicaCalc now scale wpa.spec.metrics wpa 0
    ⟨0, "", List.replicate wpa.spec.metrics.length MetricStatus.zero, 0⟩
  have limits : ReportsOnly wpa (wpa, [Effect.gauge (.set .replicaMin wpa.promLabels
      (.ofInt ((wpa.spec.minReplicas.map Int32.val).getD 0))),
      .gauge (.set .replicaMax wpa.promLabels (.ofInt wpa.spec.maxReplicas.val))]) :=
    ⟨.refl wpa, by simp⟩
  unfold computeReplicasForMetrics
  dsimp only
  split
  · exact limits.append ⟨loop.1.trans (setCondition_conditionsOnly ..), loop.2⟩
  · exact limits.append loop

end Wpa
