import WatermarkPodAutoscaler.Run

/-!
# The Prometheus registry

The gauge updates of a reconciliation go to the controller's Prometheus registry, which keeps a
series per gauge vector and label map. `gauge.With(labels).Set(value)` creates or overwrites the
series of that label map; `gauge.Delete(labels)` removes the series whose label map is exactly
`labels`, and a map with other label names than the vector's matches no series (client_golang's
`Delete` returns false for it). Label maps are compared as sets of pairs, whatever order the
source writes them in. As a store keyed by gauge vector and label set, a `Set` writes its value
under its key and a `Delete` removes it, the other keys keeping their values.

The metric-fetch error paths of the replica calculator delete the `restricted_scaling` series
under the label map `getReplicaCount` sets them with, but the `value` series under the two labels
`wpa_name` and `metric_name`, while `getReplicaCount` sets it under five. That delete matches no
series `getReplicaCount` sets (`fetchErrorDeletes_keep_value`): the gauge of a metric the
controller can no longer read keeps its last value.
-/

namespace Wpa

/-- A series of the registry: its gauge vector, its label map and its value. -/
structure Series where
  gauge : Gauge
  labels : PromLabels
  value : Float64
  deriving DecidableEq

/-- Whether a series is the one a gauge vector keeps for a label map. -/
def Series.Matches (series : Series) (gauge : Gauge) (labels : PromLabels) : Prop :=
  series.gauge = gauge ∧ series.labels.toFinset = labels.toFinset

instance (series : Series) (gauge : Gauge) (labels : PromLabels) :
    Decidable (series.Matches gauge labels) :=
  inferInstanceAs (Decidable (_ ∧ _))

/-- The series of the controller's gauge vectors. -/
abbrev Registry := List Series

namespace Registry

/-- A registry without the series of `gauge` for `labels`. -/
def erase (registry : Registry) (gauge : Gauge) (labels : PromLabels) : Registry :=
  registry.filter fun series => !decide (series.Matches gauge labels)

/-- The registry after one gauge update. -/
def apply (registry : Registry) : GaugeOp → Registry
  | .set gauge labels value => ⟨gauge, labels, value⟩ :: registry.erase gauge labels
  | .delete gauge labels => registry.erase gauge labels

/-- The registry after the gauge updates among `effects`, in order. -/
def record (registry : Registry) : List Effect → Registry
  | [] => registry
  | .gauge op :: effects => record (registry.apply op) effects
  | _ :: effects => record registry effects

/-- Whether the registry holds a series of `gauge` for `labels`. -/
def Holds (registry : Registry) (gauge : Gauge) (labels : PromLabels) : Prop :=
  ∃ series ∈ registry, series.Matches gauge labels

instance (registry : Registry) (gauge : Gauge) (labels : PromLabels) :
    Decidable (registry.Holds gauge labels) :=
  inferInstanceAs (Decidable (∃ series ∈ registry, _))

variable {registry : Registry} {gauge gauge' : Gauge} {labels labels' : PromLabels}

theorem holds_erase :
    (registry.erase gauge labels).Holds gauge' labels' ↔
      registry.Holds gauge' labels' ∧ ¬(gauge' = gauge ∧ labels'.toFinset = labels.toFinset) := by
  simp only [Holds, erase, List.mem_filter, Series.Matches, Bool.not_eq_true',
    decide_eq_false_iff_not]
  constructor
  · rintro ⟨series, ⟨member, unmatched⟩, rfl, sameLabels⟩
    exact ⟨⟨series, member, rfl, sameLabels⟩, fun ⟨sameGauge, sameKey⟩ =>
      unmatched ⟨sameGauge, sameLabels.trans sameKey⟩⟩
  · rintro ⟨⟨series, member, rfl, sameLabels⟩, other⟩
    exact ⟨series, ⟨member, fun ⟨sameGauge, sameKey⟩ =>
      other ⟨sameGauge, sameLabels.symm.trans sameKey⟩⟩, rfl, sameLabels⟩

theorem holds_cons (series : Series) :
    Holds (series :: registry) gauge labels ↔
      series.Matches gauge labels ∨ registry.Holds gauge labels := by
  simp [Holds]

@[simp] theorem holds_apply_set (value : Float64) :
    (registry.apply (.set gauge labels value)).Holds gauge' labels' ↔
      gauge = gauge' ∧ labels.toFinset = labels'.toFinset ∨ registry.Holds gauge' labels' := by
  rw [apply, holds_cons, holds_erase, Series.Matches]
  constructor
  · rintro (matched | ⟨held, -⟩)
    exacts [.inl matched, .inr held]
  · rintro (matched | held)
    · exact .inl matched
    · by_cases replaced : gauge' = gauge ∧ labels'.toFinset = labels.toFinset
      · exact .inl ⟨replaced.1.symm, replaced.2.symm⟩
      · exact .inr ⟨held, replaced⟩

@[simp] theorem holds_apply_delete :
    (registry.apply (.delete gauge labels)).Holds gauge' labels' ↔
      registry.Holds gauge' labels' ∧ ¬(gauge' = gauge ∧ labels'.toFinset = labels.toFinset) :=
  holds_erase

@[simp] theorem record_nil (registry : Registry) : registry.record [] = registry := rfl

@[simp] theorem record_gauge (registry : Registry) (op : GaugeOp) (effects : List Effect) :
    registry.record (.gauge op :: effects) = (registry.apply op).record effects := rfl

theorem record_append (registry : Registry) (effects effects' : List Effect) :
    registry.record (effects ++ effects') = (registry.record effects).record effects' := by
  induction effects generalizing registry with
  | nil => rfl
  | cons effect effects ih => cases effect <;> exact ih _

/-- The value the registry holds for `gauge` and `labels`. -/
def value? (registry : Registry) (gauge : Gauge) (labels : PromLabels) : Option Float64 :=
  (registry.find? fun series => decide (series.Matches gauge labels)).map Series.value

theorem holds_iff_value?_isSome : registry.Holds gauge labels ↔ (registry.value? gauge labels).isSome := by
  simp [Holds, value?, List.find?_isSome]

theorem value?_erase :
    (registry.erase gauge labels).value? gauge' labels' =
      if gauge' = gauge ∧ labels'.toFinset = labels.toFinset then none
      else registry.value? gauge' labels' := by
  unfold value? erase
  split_ifs with same
  · rw [List.find?_eq_none.mpr fun series kept matched => ?_, Option.map_none']
    simp only [List.mem_filter, Series.Matches, decide_eq_true_eq, Bool.not_eq_true',
      decide_eq_false_iff_not] at kept matched
    exact kept.2 ⟨matched.1.trans same.1, matched.2.trans same.2⟩
  · -- A series of the queried key is never erased.
    rw [List.find?_filter]
    congr 2
    funext series
    simp only [Series.Matches, Bool.not_eq_true', decide_eq_false_iff_not, decide_eq_true_eq,
      decide_eq_decide]
    exact ⟨And.right, fun matched => ⟨fun erased =>
      same ⟨matched.1.symm.trans erased.1, matched.2.symm.trans erased.2⟩, matched⟩⟩

/-- A `Set` writes its value under its key and keeps the other keys' values. -/
@[simp] theorem value?_apply_set (value : Float64) :
    (registry.apply (.set gauge labels value)).value? gauge' labels' =
      if gauge' = gauge ∧ labels'.toFinset = labels.toFinset then some value
      else registry.value? gauge' labels' := by
  by_cases same : gauge' = gauge ∧ labels'.toFinset = labels.toFinset
  · have written : (⟨gauge, labels, value⟩ : Series).Matches gauge' labels' :=
      ⟨same.1.symm, same.2.symm⟩
    rw [if_pos same, apply, value?, List.find?_cons_of_pos _ (by simpa using written)]
    rfl
  · have other : ¬(⟨gauge, labels, value⟩ : Series).Matches gauge' labels' :=
      fun written => same ⟨written.1.symm, written.2.symm⟩
    rw [if_neg same, apply, value?, List.find?_cons_of_neg _ (by simpa using other)]
    exact value?_erase.trans (if_neg same)

/-- A `Delete` removes the value under its key and keeps the other keys' values. -/
@[simp] theorem value?_apply_delete :
    (registry.apply (.delete gauge labels)).value? gauge' labels' =
      if gauge' = gauge ∧ labels'.toFinset = labels.toFinset then none
      else registry.value? gauge' labels' :=
  value?_erase

end Registry

/-- A label map that `getReplicaCount` sets a series with differs from every map of the two
labels `wpa_name` and `metric_name`: it holds the pair of `resource_namespace`. -/
theorem metricLabels_toFinset_ne (wpa : WatermarkPodAutoscaler)
    (name wpaName metricName : String) :
    (wpa.promLabels ++ [(metricNamePromLabel, name)]).toFinset ≠
      [(wpaNamePromLabel, wpaName), (metricNamePromLabel, metricName)].toFinset := by
  intro same
  have held : (resourceNamespacePromLabel, wpa.metaNamespace) ∈
      [(wpaNamePromLabel, wpaName), (metricNamePromLabel, metricName)].toFinset :=
    same ▸ List.mem_toFinset.mpr (by simp [WatermarkPodAutoscaler.promLabels])
  simp [resourceNamespacePromLabel, wpaNamePromLabel, metricNamePromLabel] at held

/-- The deletes of a metric-fetch error remove the WPA's `restricted_scaling` series for every
reason, and keep every `value` series set under a WPA's labels and a metric name. -/
theorem fetchErrorDeletes_keep_value (registry : Registry) (wpa : WatermarkPodAutoscaler)
    (metricName : String) :
    (∀ reason ∈ [upscaleCappingPromLabel, downscaleCappingPromLabel, "within_bounds"],
      ¬(registry.record ((fetchErrorDeletes wpa metricName).map Effect.gauge)).Holds
        .restrictedScaling (wpa.promLabels ++ [(reasonPromLabel, reason)])) ∧
    ∀ (wpa' : WatermarkPodAutoscaler) (name : String),
      (registry.record ((fetchErrorDeletes wpa metricName).map Effect.gauge)).Holds .value
          (wpa'.promLabels ++ [(metricNamePromLabel, name)]) ↔
        registry.Holds .value (wpa'.promLabels ++ [(metricNamePromLabel, name)]) := by
  refine ⟨fun reason listed => ?_, fun wpa' name => ?_⟩
  · simp only [List.mem_cons, List.mem_singleton, List.not_mem_nil, or_false] at listed
    rcases listed with rfl | rfl | rfl <;>
      simp [fetchErrorDeletes]
  · simp only [fetchErrorDeletes, List.map_cons, List.map_nil, Registry.record_gauge,
      Registry.record_nil, Registry.holds_apply_delete, reduceCtorEq, false_and, not_false_eq_true,
      and_true, true_and, metricLabels_toFinset_ne]

/-- The object the server holds and the controller's registry after a run of reconciliations,
one per observation. -/
def runRegistry (platform : Platform) (defaulting : Defaulting) (wpa : WatermarkPodAutoscaler)
    (registry : Registry) (observations : List Observation) : WatermarkPodAutoscaler × Registry :=
  observations.foldl (fun state observation =>
    let step := reconcileStep platform defaulting state.1 observation
    (step.1, state.2.record step.2)) (wpa, registry)

/-- The object of a run with its registry is the object of the run. -/
theorem runRegistry_fst (platform : Platform) (defaulting : Defaulting)
    (wpa : WatermarkPodAutoscaler) (registry : Registry) (observations : List Observation) :
    (runRegistry platform defaulting wpa registry observations).1 =
      runObject platform defaulting wpa observations := by
  induction observations generalizing wpa registry with
  | nil => rfl
  | cons observation observations ih => exact ih _ _

/-- A metrics server that fails every request. -/
def unavailableCalculator : ReplicaCalculator :=
  { exampleCalculator ⟨7000, by decide, by decide⟩ with
    metricsClient :=
      ⟨fun _ _ _ => .error "the server is currently unable to handle the request",
        fun _ _ _ => .error "the server is currently unable to handle the request"⟩ }

/-- The example target at ten replicas, every pod at `7000` milli-CPU. -/
def servedObservation : Observation :=
  ⟨exampleCluster ⟨10, by decide, by decide⟩, exampleCalculator ⟨7000, by decide, by decide⟩⟩

/-- The same target while the metrics server is down. -/
def unavailableObservation : Observation :=
  ⟨exampleCluster ⟨10, by decide, by decide⟩, unavailableCalculator⟩

set_option maxRecDepth 1000 in
/-- A reconciliation that reads the CPU metric sets its `value` series; the next one fails to
fetch the metric and deletes the `restricted_scaling` series, but its delete of the `value`
series under `wpa_name` and `metric_name` leaves the series set under five labels in place. -/
theorem runRegistry_keeps_value_after_fetch_error :
    Effect.gauge (.delete .value [(wpaNamePromLabel, "wpa"), (metricNamePromLabel, "cpu")]) ∈
        (reconcileStep .amd64 exampleDefaulting
          (runObject .amd64 exampleDefaulting exampleWpa [servedObservation])
          unavailableObservation).2 ∧
      Effect.event eventTypeWarning "FailedGetResourceMetric" ∈
        (reconcileStep .amd64 exampleDefaulting
          (runObject .amd64 exampleDefaulting exampleWpa [servedObservation])
          unavailableObservation).2 ∧
      (runRegistry .amd64 exampleDefaulting exampleWpa []
          [servedObservation, unavailableObservation]).2.Holds .value
        (exampleWpa.promLabels ++ [(metricNamePromLabel, "cpu")]) ∧
      ¬(runRegistry .amd64 exampleDefaulting exampleWpa []
          [servedObservation, unavailableObservation]).2.Holds .restrictedScaling
        (exampleWpa.promLabels ++ [(reasonPromLabel, "within_bounds")]) := by
  decide

end Wpa
