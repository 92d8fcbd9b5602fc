import WatermarkPodAutoscaler.Metrics
import Mathlib.Data.List.MinMax

/-!
# The metrics loop against its specification

`aggregate` says what `computeReplicasForMetrics` computes, without its loop. The evaluations of
the specs are taken in order: the first panic or error among them is the result; otherwise the
result is the first largest proposal (Mathlib's `List.argmax`), with the status of every spec at
its index and the zero status for a skipped spec. When no spec proposes, the result is `0` with an
empty metric name, which the caller reads as no proposal.

The loop agrees with `aggregate` when no proposal is zero, negative ones included: it seeds its
running maximum with `0`, and a later proposal replaces a running `0` even when it is smaller, so
a zero proposal followed by a negative one ends at the negative one. The loop does not panic when
each spec's `Type` names a source that is set, with a selector whenever both watermarks are set,
and the calculators return.
-/

namespace Wpa

namespace Evaluation

/-- The proposal of an evaluation that continues the loop with one. -/
def proposal : Evaluation → Option Proposal
  | .returned (.ok proposal) => proposal
  | _ => none

/-- The status the loop records for an evaluation that continues it. -/
def status (evaluation : Evaluation) : MetricStatus :=
  (evaluation.proposal.map Proposal.status).getD MetricStatus.zero

/-- Whether an evaluation ends the loop: a panic or an error. -/
def stops : Evaluation → Bool
  | .returned (.ok _) => false
  | _ => true

end Evaluation

/-- The first largest proposal with the given statuses, or `0` when there is none. -/
def summarize (proposals : List Proposal) (statuses : List MetricStatus) : MetricsAccumulator :=
  match proposals.argmax Proposal.replicas with
  | some best => ⟨best.replicas, best.metric, statuses, best.timestamp⟩
  | none => ⟨0, "", statuses, 0⟩

/-- What `computeReplicasForMetrics` returns for the evaluations of its specs. -/
def aggregate (evaluations : List Evaluation) : Outcome (Except String MetricsAccumulator) :=
  match evaluations.find? Evaluation.stops with
  | some .panicked => .panicked
  | some (.returned (.error err)) => .returned (.error err)
  | _ => .returned (.ok (summarize (evaluations.filterMap Evaluation.proposal)
      (evaluations.map Evaluation.status)))

theorem evaluateSource_wpa_of_continues {now : ℤ} {wpa : WatermarkPodAutoscaler}
    {failure conditionMessage errorPrefix name : String} {selector : LabelSelector}
    {lowMark highMark : Int64} {status : Int64 → MetricStatus}
    {calculation : Outcome (Except String ReplicaCalculation) × List GaugeOp}
    (continues : (evaluateSource now wpa failure conditionMessage errorPrefix name selector lowMark
      highMark status calculation).1.stops = false) :
    (evaluateSource now wpa failure conditionMessage errorPrefix name selector lowMark highMark
      status calculation).2.1 = wpa := by
  unfold evaluateSource at *
  split at * <;> first | rfl | simp [Evaluation.stops] at continues

/-- An evaluation that continues the loop leaves the object as it was: only an error sets a
condition. -/
theorem evaluateMetric_wpa_of_continues {replicaCalc : ReplicaCalculatorItf} {now : ℤ}
    {scale : Scale} {wpa : WatermarkPodAutoscaler} {metricSpec : MetricSpec}
    (continues : (evaluateMetric replicaCalc now scale wpa metricSpec).1.stops = false) :
    (evaluateMetric replicaCalc now scale wpa metricSpec).2.1 = wpa := by
  unfold evaluateMetric at *
  split_ifs at * <;> (repeat' split at *) <;>
    first
      | rfl
      | exact absurd continues.symm Bool.false_ne_true
      | exact evaluateSource_wpa_of_continues continues

/-- After nonzero proposals, taking in a proposal is the `argmax` of the proposals so far and the
new one. -/
theorem summarize_record {proposals : List Proposal} {statuses : List MetricStatus}
    {proposal : Proposal} (index : ℕ) (nonzero : ∀ earlier ∈ proposals, earlier.replicas ≠ 0) :
    (summarize proposals statuses).record index proposal =
      summarize (proposals ++ [proposal]) (statuses.set index proposal.status) := by
  unfold summarize MetricsAccumulator.record
  rw [List.argmax_concat]
  cases best : proposals.argmax Proposal.replicas with
  | none => simp
  | some best' =>
      have bestNonzero := nonzero best' (List.argmax_mem best)
      by_cases larger : best'.replicas < proposal.replicas <;> simp [bestNonzero, larger]

/-- Past evaluations that all continued, `aggregate` is decided by the first evaluation that
stops. -/
theorem aggregate_of_stops {done : List Evaluation} (evaluation : Evaluation)
    (later : List Evaluation) (continued : ∀ earlier ∈ done, earlier.stops = false)
    (stopped : evaluation.stops = true) :
    aggregate (done ++ evaluation :: later) = aggregate [evaluation] := by
  have none : done.find? Evaluation.stops = none := List.find?_eq_none.2 (by simpa using continued)
  rcases evaluation with ((err | proposal) | _) <;>
    simp_all only [Evaluation.stops, Bool.false_eq_true] <;> simp [aggregate, List.find?_append, none, Evaluation.stops]

/-- The loop from spec `done.length` on, with the running values of the evaluations `done`, is the
aggregate of all evaluations, when no proposal is zero. -/
theorem metricsLoop_eq_aggregate (replicaCalc : ReplicaCalculatorItf) (now : ℤ) (scale : Scale)
    (wpa : WatermarkPodAutoscaler) :
    ∀ (rest : List MetricSpec) (done : List Evaluation),
      (∀ metricSpec ∈ rest, ∀ proposal, (evaluateMetric replicaCalc now scale wpa metricSpec).1 =
        .returned (.ok (some proposal)) → proposal.replicas ≠ 0) →
      (∀ evaluation ∈ done, evaluation.stops = false) →
      (∀ proposal ∈ done.filterMap Evaluation.proposal, proposal.replicas ≠ 0) →
      (metricsLoop replicaCalc now scale wpa done.length rest
          (summarize (done.filterMap Evaluation.proposal)
            (done.map Evaluation.status ++ List.replicate rest.length MetricStatus.zero))).1 =
        aggregate (done ++ rest.map fun metricSpec =>
          (evaluateMetric replicaCalc now scale wpa metricSpec).1)
  | [], done, _, continued, _ => by
      simp [metricsLoop, aggregate, List.find?_eq_none.2 (by simpa using continued)]
  | metricSpec :: rest, done, nonzero, continued, doneNonzero => by
      simp only [metricsLoop, List.map_cons]
      cases evaluated : (evaluateMetric replicaCalc now scale wpa metricSpec).1 with
      | panicked => exact (aggregate_of_stops .panicked _ continued rfl).symm
      | returned result =>
          cases result with
          | error err => exact (aggregate_of_stops (.returned (.error err)) _ continued rfl).symm
          | ok proposal =>
              have unchanged : (evaluateMetric replicaCalc now scale wpa metricSpec).2.1 = wpa :=
                evaluateMetric_wpa_of_continues (by rw [evaluated]; rfl)
              have later := metricsLoop_eq_aggregate replicaCalc now scale wpa rest
                (done ++ [.returned (.ok proposal)])
                (fun later member => nonzero later (List.mem_cons_of_mem _ member))
                (fun evaluation member => by
                  rcases List.mem_append.1 member with old | new
                  · exact continued _ old
                  · rw [List.mem_singleton.1 new]
                    rfl)
                (fun newer member => by
                  rw [List.filterMap_append, List.mem_append] at member
                  rcases member with old | new
                  · exact doneNonzero _ old
                  · cases proposal <;> simp only [List.filterMap_cons, List.filterMap_nil,
                      Evaluation.proposal, List.mem_singleton, List.not_mem_nil] at new
                    subst new
                    exact nonzero metricSpec (List.mem_cons_self _ _) _ evaluated)
              rw [unchanged]
              cases proposal with
              | none =>
                  simpa [Evaluation.proposal, Evaluation.status, List.replicate_succ] using later
              | some proposal =>
                  dsimp only
                  rw [summarize_record _ doneNonzero]
                  simpa [Evaluation.proposal, Evaluation.status, List.replicate_succ] using later

/-- `computeReplicasForMetrics` returns the aggregate of the evaluations of its specs, when no
proposal is zero. -/
theorem computeReplicasForMetrics_of_nonzero (replicaCalc : ReplicaCalculatorItf) (now : ℤ)
    (wpa : WatermarkPodAutoscaler) (scale : Scale)
    (nonzero : ∀ metricSpec ∈ wpa.spec.metrics, ∀ proposal,
      (evaluateMetric replicaCalc now scale wpa metricSpec).1 = .returned (.ok (some proposal)) →
        proposal.replicas ≠ 0) :
    (computeReplicasForMetrics replicaCalc now wpa scale).1 =
      aggregate (wpa.spec.metrics.map fun metricSpec =>
        (evaluateMetric replicaCalc now scale wpa metricSpec).1) := by
  have loop := metricsLoop_eq_aggregate replicaCalc now scale wpa wpa.spec.metrics [] nonzero
    (by simp) (by simp)
  simp only [List.length_nil, List.filterMap_nil, List.map_nil, List.nil_append] at loop
  unfold computeReplicasForMetrics
  dsimp only
  rw [← loop]
  split <;> simp_all [summarize]

/-- Whether a spec's evaluation dereferences no nil pointer: a spec with a source has the source
its `Type` names, and that source has a selector when both watermarks are set. -/
def MetricSpec.dereferenceable (metricSpec : MetricSpec) : Bool :=
  metricSpec.external.isNone && metricSpec.resource.isNone ||
    (metricSpec.type != externalMetricSourceType || metricSpec.external.any fun external =>
      !(external.highWatermark.isSome && external.lowWatermark.isSome) ||
        external.metricSelector.isSome) &&
    (metricSpec.type != resourceMetricSourceType || metricSpec.resource.any fun resource =>
      !(resource.highWatermark.isSome && resource.lowWatermark.isSome) ||
        resource.metricSelector.isSome)

section

variable {replicaCalc : ReplicaCalculatorItf} {now : ℤ} {scale : Scale}
  {wpa : WatermarkPodAutoscaler} {metricSpec : MetricSpec}

theorem evaluateSource_returns {failure conditionMessage errorPrefix name : String}
    {selector : LabelSelector} {lowMark highMark : Int64} {status : Int64 → MetricStatus}
    {calculation : Outcome (Except String ReplicaCalculation) × List GaugeOp}
    (returns : calculation.1 ≠ .panicked) :
    (evaluateSource now wpa failure conditionMessage errorPrefix name selector lowMark highMark
      status calculation).1 ≠ .panicked := by
  unfold evaluateSource
  split <;> simp_all

/-- A dereferenceable spec whose calculators return evaluates without a panic: each panic of the
body is a nil dereference that `dereferenceable` rules out. -/
theorem evaluateMetric_returns (dereferenceable : metricSpec.dereferenceable)
    (externalReturns : (replicaCalc.getExternalMetricReplicas scale metricSpec wpa).1 ≠ .panicked)
    (resourceReturns : (replicaCalc.getResourceReplicas scale metricSpec wpa).1 ≠ .panicked) :
    (evaluateMetric replicaCalc now scale wpa metricSpec).1 ≠ .panicked := by
  unfold evaluateMetric
  unfold MetricSpec.dereferenceable at dereferenceable
  split_ifs <;> (repeat' split) <;>
    first
      | exact evaluateSource_returns ‹_›
      | (simp only [missingWatermark, ne_eq, reduceCtorEq, not_false_eq_true]; done)
      | simp_all

/-- A proposal of a spec is the count of its calculator. -/
theorem evaluateMetric_nonzero
    (nonzero : ∀ calculation,
      (replicaCalc.getExternalMetricReplicas scale metricSpec wpa).1 = .returned (.ok calculation) ∨
        (replicaCalc.getResourceReplicas scale metricSpec wpa).1 = .returned (.ok calculation) →
      calculation.replicaCount ≠ 0)
    {proposal : Proposal}
    (evaluated : (evaluateMetric replicaCalc now scale wpa metricSpec).1 =
      .returned (.ok (some proposal))) :
    proposal.replicas ≠ 0 := by
  unfold evaluateMetric evaluateSource missingWatermark at evaluated
  split_ifs at evaluated <;> (repeat' split at evaluated) <;>
    simp only [reduceCtorEq, Outcome.returned.injEq, Except.ok.injEq, Option.some.injEq] at evaluated <;>
    subst evaluated <;> simp_all

end

theorem aggregate_returns {evaluations : List Evaluation}
    (returns : ∀ evaluation ∈ evaluations, evaluation ≠ .panicked) :
    aggregate evaluations ≠ .panicked := by
  unfold aggregate
  split
  · rename_i found
    exact absurd rfl (returns _ (List.mem_of_find?_eq_some found))
  all_goals simp

theorem MetricsAccumulator.record_replicas (accumulator : MetricsAccumulator) (index : ℕ)
    (proposal : Proposal) :
    (accumulator.record index proposal).replicas =
      if accumulator.replicas = 0 ∨ proposal.replicas > accumulator.replicas then proposal.replicas
      else accumulator.replicas := by
  unfold MetricsAccumulator.record
  split_ifs <;> rfl

/-- Recording a proposal keeps a positive running count and a positive proposal below the new
count. -/
theorem MetricsAccumulator.le_record_replicas (accumulator : MetricsAccumulator) (index : ℕ)
    (proposal : Proposal) :
    (0 < accumulator.replicas → accumulator.replicas ≤ (accumulator.record index proposal).replicas) ∧
    (0 < proposal.replicas → proposal.replicas ≤ (accumulator.record index proposal).replicas) := by
  rw [MetricsAccumulator.record_replicas]
  split_ifs with taken <;>
    simp only [Int32.lt_iff_val, Int32.le_iff_val, Int32.eq_iff_val, gt_iff_lt, Int32.val_zero,
      not_or, not_lt] at * <;> omega

section

variable {replicaCalc : ReplicaCalculatorItf} {now : ℤ} {scale : Scale}

/-- A property of the running accumulator that recording each proposal of the list keeps holds
of the loop's result. -/
theorem metricsLoop_invariant (holds : MetricsAccumulator → Prop) :
    ∀ (rest : List MetricSpec) (wpa : WatermarkPodAutoscaler) (index : ℕ)
      (accumulator : MetricsAccumulator) (result : MetricsAccumulator),
      holds accumulator →
      (∀ metricSpec ∈ rest, ∀ proposal, (evaluateMetric replicaCalc now scale wpa metricSpec).1 =
        .returned (.ok (some proposal)) →
        ∀ accumulator index, holds accumulator → holds (accumulator.record index proposal)) →
      (metricsLoop replicaCalc now scale wpa index rest accumulator).1 = .returned (.ok result) →
      holds result
  | [], _, _, accumulator, result, start, _, returned => by
      simp only [metricsLoop, Outcome.returned.injEq, Except.ok.injEq] at returned
      exact returned ▸ start
  | metricSpec :: rest, wpa, index, accumulator, result, start, kept, returned => by
      have later := fun metricSpec member => kept metricSpec (List.mem_cons_of_mem _ member)
      simp only [metricsLoop] at returned
      split at returned
      · rename_i evaluated
        rw [evaluateMetric_wpa_of_continues (by rw [evaluated]; rfl)] at returned
        exact metricsLoop_invariant holds rest wpa _ _ result start later returned
      · rename_i proposal evaluated
        rw [evaluateMetric_wpa_of_continues (by rw [evaluated]; rfl)] at returned
        exact metricsLoop_invariant holds rest wpa _ _ result
          (kept metricSpec (List.mem_cons_self _ _) proposal evaluated _ _ start) later returned
      all_goals simp at returned

/-- A common bound of the running count and of every proposal bounds the loop's result. -/
theorem metricsLoop_le (bound : Int32) (rest : List MetricSpec) (wpa : WatermarkPodAutoscaler)
    (index : ℕ) (accumulator : MetricsAccumulator) (result : MetricsAccumulator)
    (start : accumulator.replicas ≤ bound)
    (bounded : ∀ metricSpec ∈ rest, ∀ proposal, (evaluateMetric replicaCalc now scale wpa
      metricSpec).1 = .returned (.ok (some proposal)) → proposal.replicas ≤ bound) :
    (metricsLoop replicaCalc now scale wpa index rest accumulator).1 = .returned (.ok result) →
      result.replicas ≤ bound :=
  metricsLoop_invariant (·.replicas ≤ bound) rest wpa index accumulator result start
    fun metricSpec member proposal evaluated accumulator index below => by
      show (accumulator.record index proposal).replicas ≤ bound
      rw [MetricsAccumulator.record_replicas]
      split_ifs
      · exact bounded metricSpec member proposal evaluated
      · exact below

/-- The loop's result is at least a positive running count and every positive proposal. -/
theorem le_metricsLoop :
    ∀ (rest : List MetricSpec) (wpa : WatermarkPodAutoscaler) (index : ℕ)
      (accumulator : MetricsAccumulator) (result : MetricsAccumulator),
      (metricsLoop replicaCalc now scale wpa index rest accumulator).1 = .returned (.ok result) →
      (0 < accumulator.replicas → accumulator.replicas ≤ result.replicas) ∧
      ∀ metricSpec ∈ rest, ∀ proposal, (evaluateMetric replicaCalc now scale wpa metricSpec).1 =
        .returned (.ok (some proposal)) → 0 < proposal.replicas → proposal.replicas ≤ result.replicas
  | [], _, _, accumulator, result, returned => by
      simp only [metricsLoop, Outcome.returned.injEq, Except.ok.injEq] at returned
      exact ⟨fun _ => returned ▸ le_refl _, by simp⟩
  | metricSpec :: rest, wpa, index, accumulator, result, returned => by
      simp only [metricsLoop] at returned
      split at returned
      · rename_i evaluated
        rw [evaluateMetric_wpa_of_continues (by rw [evaluated]; rfl)] at returned
        have later := le_metricsLoop rest wpa _ _ result returned
        refine ⟨later.1, ?_⟩
        rintro _ (_ | ⟨_, member⟩) proposal evaluated'
        · rw [evaluated] at evaluated'
          simp at evaluated'
        · exact later.2 _ member proposal evaluated'
      · rename_i proposal evaluated
        rw [evaluateMetric_wpa_of_continues (by rw [evaluated]; rfl)] at returned
        have later := le_metricsLoop rest wpa _ _ result returned
        have grows := accumulator.le_record_replicas index proposal
        refine ⟨fun positive => le_trans (grows.1 positive)
          (later.1 (lt_of_lt_of_le positive (grows.1 positive))), ?_⟩
        rintro _ (_ | ⟨_, member⟩) proposal' evaluated' positive
        · rw [evaluated, Outcome.returned.injEq, Except.ok.injEq, Option.some.injEq] at evaluated'
          subst evaluated'
          exact le_trans (grows.2 positive) (later.1 (lt_of_lt_of_le positive (grows.2 positive)))
        · exact later.2 _ member proposal' evaluated' positive
      all_goals simp at returned

/-- A loop that returns a count went past every spec. -/
theorem metricsLoop_continues :
    ∀ (rest : List MetricSpec) (wpa : WatermarkPodAutoscaler) (index : ℕ)
      (accumulator : MetricsAccumulator) (result : MetricsAccumulator),
      (metricsLoop replicaCalc now scale wpa index rest accumulator).1 = .returned (.ok result) →
      ∀ metricSpec ∈ rest, ∃ proposal,
        (evaluateMetric replicaCalc now scale wpa metricSpec).1 = .returned (.ok proposal)
  | [], _, _, _, _, _ => by simp
  | metricSpec :: rest, wpa, index, accumulator, result, returned => by
      simp only [metricsLoop] at returned
      split at returned
      · rename_i evaluated
        rw [evaluateMetric_wpa_of_continues (by rw [evaluated]; rfl)] at returned
        rintro _ (_ | ⟨_, member⟩)
        · exact ⟨none, evaluated⟩
        · exact metricsLoop_continues rest wpa _ _ result returned _ member
      · rename_i proposal evaluated
        rw [evaluateMetric_wpa_of_continues (by rw [evaluated]; rfl)] at returned
        rintro _ (_ | ⟨_, member⟩)
        · exact ⟨some proposal, evaluated⟩
        · exact metricsLoop_continues rest wpa _ _ result returned _ member
      all_goals simp at returned

theorem metricsLoop_of_computeReplicasForMetrics {wpa : WatermarkPodAutoscaler}
    {result : MetricsAccumulator}
    (computed : (computeReplicasForMetrics replicaCalc now wpa scale).1 = .returned (.ok result)) :
    (metricsLoop replicaCalc now scale wpa 0 wpa.spec.metrics
      ⟨0, "", List.replicate wpa.spec.metrics.length MetricStatus.zero, 0⟩).1 =
      .returned (.ok result) := by
  unfold computeReplicasForMetrics at computed
  dsimp only at computed
  split at computed <;> simp_all

/-- A nonnegative bound of every proposal bounds the count `computeReplicasForMetrics` returns. -/
theorem computeReplicasForMetrics_le {wpa : WatermarkPodAutoscaler} {result : MetricsAccumulator}
    (bound : Int32) (nonnegative : 0 ≤ bound)
    (bounded : ∀ metricSpec ∈ wpa.spec.metrics, ∀ proposal,
      (evaluateMetric replicaCalc now scale wpa metricSpec).1 = .returned (.ok (some proposal)) →
      proposal.replicas ≤ bound)
    (computed : (computeReplicasForMetrics replicaCalc now wpa scale).1 = .returned (.ok result)) :
    result.replicas ≤ bound :=
  metricsLoop_le bound _ wpa 0 _ result nonnegative bounded
    (metricsLoop_of_computeReplicasForMetrics computed)

/-- When `computeReplicasForMetrics` returns a count, no spec stopped the loop. -/
theorem computeReplicasForMetrics_continues {wpa : WatermarkPodAutoscaler}
    {result : MetricsAccumulator}
    (computed : (computeReplicasForMetrics replicaCalc now wpa scale).1 = .returned (.ok result)) :
    ∀ metricSpec ∈ wpa.spec.metrics, ∃ proposal,
      (evaluateMetric replicaCalc now scale wpa metricSpec).1 = .returned (.ok proposal) :=
  metricsLoop_continues _ wpa 0 _ result (metricsLoop_of_computeReplicasForMetrics computed)

/-- The count `computeReplicasForMetrics` returns is at least every positive proposal. -/
theorem le_computeReplicasForMetrics {wpa : WatermarkPodAutoscaler} {result : MetricsAccumulator}
    {metricSpec : MetricSpec} (member : metricSpec ∈ wpa.spec.metrics) {proposal : Proposal}
    (evaluated : (evaluateMetric replicaCalc now scale wpa metricSpec).1 =
      .returned (.ok (some proposal)))
    (positive : 0 < proposal.replicas)
    (computed : (computeReplicasForMetrics replicaCalc now wpa scale).1 = .returned (.ok result)) :
    proposal.replicas ≤ result.replicas :=
  (le_metricsLoop _ wpa 0 _ result (metricsLoop_of_computeReplicasForMetrics computed)).2
    metricSpec member proposal evaluated positive

end

/-- For dereferenceable specs and calculators that return nonzero proposals or errors,
`computeReplicasForMetrics` does not panic, and returns the first error among the evaluations of
its specs, or the first largest proposal with the statuses of all specs. -/
theorem computeReplicasForMetrics_eq_aggregate (replicaCalc : ReplicaCalculatorItf) (now : ℤ)
    (wpa : WatermarkPodAutoscaler) (scale : Scale)
    (dereferenceable : ∀ metricSpec ∈ wpa.spec.metrics, metricSpec.dereferenceable)
    (returns : ∀ metricSpec ∈ wpa.spec.metrics,
      (replicaCalc.getExternalMetricReplicas scale metricSpec wpa).1 ≠ .panicked ∧
        (replicaCalc.getResourceReplicas scale metricSpec wpa).1 ≠ .panicked)
    (nonzero : ∀ metricSpec ∈ wpa.spec.metrics, ∀ calculation,
      (replicaCalc.getExternalMetricReplicas scale metricSpec wpa).1 = .returned (.ok calculation) ∨
        (replicaCalc.getResourceReplicas scale metricSpec wpa).1 = .returned (.ok calculation) →
      calculation.replicaCount ≠ 0) :
    (computeReplicasForMetrics replicaCalc now wpa scale).1 ≠ .panicked ∧
      (computeReplicasForMetrics replicaCalc now wpa scale).1 =
        aggregate (wpa.spec.metrics.map fun metricSpec =>
          (evaluateMetric replicaCalc now scale wpa metricSpec).1) := by
  have loop := computeReplicasForMetrics_of_nonzero replicaCalc now wpa scale
    fun metricSpec member _ => evaluateMetric_nonzero (nonzero metricSpec member)
  refine ⟨loop ▸ aggregate_returns ?_, loop⟩
  simp only [List.mem_map]
  rintro _ ⟨metricSpec, member, rfl⟩
  exact evaluateMetric_returns (dereferenceable metricSpec member) (returns metricSpec member).1
    (returns metricSpec member).2

/-- A calculator whose every call returns the count `3`. -/
def constantReplicaCalc : ReplicaCalculatorItf :=
  ⟨fun _ _ _ => (.returned (.ok ⟨⟨3, by decide, by decide⟩, 0, 0⟩), []),
    fun _ _ _ => (.returned (.ok ⟨⟨3, by decide, by decide⟩, 0, 0⟩), [])⟩

/-- The example WPA's CPU spec through a calculator that proposes `3`. -/
theorem computeReplicasForMetrics_eq_aggregate_example :
    (∀ metricSpec ∈ exampleWpa.spec.metrics, metricSpec.dereferenceable) ∧
      (∀ metricSpec ∈ exampleWpa.spec.metrics,
        (constantReplicaCalc.getExternalMetricReplicas exampleScale metricSpec exampleWpa).1 ≠
            .panicked ∧
          (constantReplicaCalc.getResourceReplicas exampleScale metricSpec exampleWpa).1 ≠
            .panicked) ∧
      (∀ metricSpec ∈ exampleWpa.spec.metrics, ∀ calculation,
        (constantReplicaCalc.getExternalMetricReplicas exampleScale metricSpec exampleWpa).1 =
            .returned (.ok calculation) ∨
          (constantReplicaCalc.getResourceReplicas exampleScale metricSpec exampleWpa).1 =
            .returned (.ok calculation) →
        calculation.replicaCount ≠ 0) ∧
      (computeReplicasForMetrics constantReplicaCalc 0 exampleWpa exampleScale).1 ≠ .panicked ∧
      (computeReplicasForMetrics constantReplicaCalc 0 exampleWpa exampleScale).1 =
        aggregate (exampleWpa.spec.metrics.map fun metricSpec =>
          (evaluateMetric constantReplicaCalc 0 exampleScale exampleWpa metricSpec).1) := by
  have nonzero : ∀ metricSpec ∈ exampleWpa.spec.metrics, ∀ calculation,
      (constantReplicaCalc.getExternalMetricReplicas exampleScale metricSpec exampleWpa).1 =
          .returned (.ok calculation) ∨
        (constantReplicaCalc.getResourceReplicas exampleScale metricSpec exampleWpa).1 =
          .returned (.ok calculation) →
      calculation.replicaCount ≠ 0 := by
    rintro _ _ calculation (found | found) <;> cases found <;> decide
  exact ⟨by decide, by decide, nonzero,
    computeReplicasForMetrics_eq_aggregate _ _ _ _ (by decide) (by decide) nonzero⟩

/-- The loop fails its specification in two ways. A spec of `Type` `External` that has only a
resource source dereferences the nil external source, and the loop panics. A zero proposal
followed by a negative one ends at the negative one, although the first is the largest. -/
theorem computeReplicasForMetrics_panics_or_misses_maximum :
    let resource (name : String) : MetricSpec := ⟨resourceMetricSourceType, none,
      some ⟨name, some ⟨[]⟩, some ⟨8000, by decide, by decide⟩, some ⟨5000, by decide, by decide⟩⟩⟩
    let byName : ReplicaCalculatorItf := ⟨fun _ _ _ => (.returned (.error "unused"), []),
      fun _ metricSpec _ => (.returned (.ok
        ⟨if metricSpec.resource.map ResourceMetricSource.name = some "zero" then 0
          else ⟨-5, by decide, by decide⟩, 0, 0⟩), [])⟩
    (computeReplicasForMetrics constantReplicaCalc 0
        { exampleWpa with spec := { exampleWpa.spec with
          metrics := [{ resource "cpu" with type := externalMetricSourceType }] } }
        exampleScale).1 = .panicked ∧
      (match (computeReplicasForMetrics byName 0
          { exampleWpa with spec := { exampleWpa.spec with
            metrics := [resource "zero", resource "negative"] } } exampleScale).1 with
        | .returned (.ok result) => result.replicas
        | _ => 0) = ⟨-5, by decide, by decide⟩ := by
  decide

end Wpa
