import WatermarkPodAutoscaler.Registry
import WatermarkPodAutoscaler.Footprint

/-!
# Each object's series in the shared registry

The gauge vectors are package variables: the reconciliations of every WPA the controller watches
update one registry, one after another. By the catalogue of `Footprint`, every gauge update of a
reconciliation names the WPA it reconciles and its current target, and no other. The
metric-fetch error's delete of the `value` series names the WPA by `wpa_name` alone.

A series that carries the name and the namespace of a WPA is its series. An update that names
another WPA neither sets nor deletes such a series, and an update naming the WPA acts on its
series whatever the registry holds besides. So along any order of reconciliations of any objects,
the series of one object are what its own reconciliations, in their order, make of them
(`registryAfter_isolates_objects`). The same footprint says what no reconciliation does: remove a
series labelled with a target that the reconciled objects do not scale
(`registryAfter_keeps_former_target_series`), or set the upscale capping series to anything but
`1` (`registryAfter_upscaleCapping_holds_one`). The other deletes of the controller are those of
`cleanupAssociatedMetrics`, which `updatePredicate` calls on a spec change and which is not part
of the source.
-/

namespace Wpa

/-- `request.NamespacedName`: the namespace and the name of an object. -/
def WatermarkPodAutoscaler.namespacedName (wpa : WatermarkPodAutoscaler) : String × String :=
  (wpa.metaNamespace, wpa.name)

/-- Whether a series is one of the object `key`'s: it carries the object's namespace and name. -/
def Series.ofObject (key : String × String) (series : Series) : Bool :=
  decide ((resourceNamespacePromLabel, key.1) ∈ series.labels ∧
    (wpaNamePromLabel, key.2) ∈ series.labels)

theorem mem_of_matches {series : Series} {labels : PromLabels}
    (sameKey : series.labels.toFinset = labels.toFinset) {label : String × String}
    (member : label ∈ series.labels) : label ∈ labels :=
  List.mem_toFinset.mp (sameKey ▸ List.mem_toFinset.mpr member)

/-- A series with the label set of an update naming another object is not this one's. -/
theorem ofObject_eq_false_of_namesOnly {key : String × String} {wpa : WatermarkPodAutoscaler}
    {labels : PromLabels} (names : NamesOnly wpa.promLabels labels)
    (different : wpa.namespacedName ≠ key) {series : Series}
    (sameKey : series.labels.toFinset = labels.toFinset) : series.ofObject key = false := by
  simp only [Series.ofObject, decide_eq_false_iff_not, not_and]
  intro placed named
  exact different (Prod.ext ((names.value_eq (mem_of_matches sameKey placed)).2.1 rfl).symm
    ((names.value_eq (mem_of_matches sameKey named)).1 rfl).symm)

/-- A series labelled with a target the object does not scale does not have the label set of an
update naming the object. -/
theorem labels_ne_of_target {wpa : WatermarkPodAutoscaler} {labels : PromLabels}
    (names : NamesOnly wpa.promLabels labels) {target : String}
    (retargeted : wpa.spec.scaleTargetRef.name ≠ target) {series : Series}
    (labelled : (resourceNamePromLabel, target) ∈ series.labels) :
    series.labels.toFinset ≠ labels.toFinset := fun sameKey =>
  retargeted ((names.value_eq (mem_of_matches sameKey labelled)).2.2 rfl).symm

namespace Registry

theorem mem_erase {registry : Registry} {series : Series} (kept : series ∈ registry)
    {gauge : Gauge} {labels : PromLabels} (differs : series.labels.toFinset ≠ labels.toFinset) :
    series ∈ registry.erase gauge labels :=
  List.mem_filter.mpr ⟨kept, by simp [Series.Matches, differs]⟩

theorem mem_apply {registry : Registry} {series : Series} (kept : series ∈ registry)
    {op : GaugeOp} (differs : series.labels.toFinset ≠ op.labels.toFinset) :
    series ∈ registry.apply op := by
  cases op with
  | set gauge labels value => exact List.mem_cons_of_mem _ (mem_erase kept differs)
  | delete gauge labels => exact mem_erase kept differs

/-- Updates naming an object keep every series labelled with a target it does not scale. -/
theorem mem_record_of_target {wpa : WatermarkPodAutoscaler} {effects : List Effect}
    (emitted : GaugesOnly (Emitted wpa) effects) {target : String}
    (retargeted : wpa.spec.scaleTargetRef.name ≠ target) {series : Series}
    (labelled : (resourceNamePromLabel, target) ∈ series.labels) :
    ∀ {registry : Registry}, series ∈ registry → series ∈ registry.record effects := by
  induction effects with
  | nil => exact id
  | cons effect effects ih =>
      intro registry kept
      have later := (gaugesOnly_cons effect).mp emitted
      cases effect with
      | gauge op =>
          exact ih later.2 (mem_apply kept (labels_ne_of_target (later.1 op rfl).namesOnly
            retargeted labelled))
      | _ => exact ih later.2 kept

theorem mem_of_mem_erase {registry : Registry} {series : Series} {gauge : Gauge}
    {labels : PromLabels} (kept : series ∈ registry.erase gauge labels) : series ∈ registry :=
  (List.mem_filter.mp kept).1

/-- After an update a reconciliation makes, every series with the upscale capping reason was there
before or holds `1`. -/
theorem apply_upscaleCapping {wpa : WatermarkPodAutoscaler} {op : GaugeOp}
    (emitted : Emitted wpa op) {registry : Registry} {series : Series}
    (listed : series ∈ registry.apply op)
    (capped : (reasonPromLabel, upscaleCappingPromLabel) ∈ series.labels) :
    series ∈ registry ∨ series.value = .finite 1 := by
  cases op with
  | set gauge labels value =>
      rcases List.mem_cons.mp listed with rfl | kept
      · exact .inr (emitted.upscaleCapping_one capped)
      · exact .inl (mem_of_mem_erase kept)
  | delete gauge labels => exact .inl (mem_of_mem_erase listed)

theorem record_upscaleCapping {wpa : WatermarkPodAutoscaler} {effects : List Effect}
    (emitted : GaugesOnly (Emitted wpa) effects) :
    ∀ {registry : Registry} {series : Series}, series ∈ registry.record effects →
      (reasonPromLabel, upscaleCappingPromLabel) ∈ series.labels →
        series ∈ registry ∨ series.value = .finite 1 := by
  induction effects with
  | nil => exact fun listed _ => .inl listed
  | cons effect effects ih =>
      intro registry series listed capped
      have later := (gaugesOnly_cons effect).mp emitted
      cases effect with
      | gauge op =>
          exact (ih later.2 listed capped).elim
            (fun applied => apply_upscaleCapping (later.1 op rfl) applied capped) .inr
      | _ => exact ih later.2 listed capped

variable (key : String × String)

/-- An update acts on an object's series whatever the registry holds besides. -/
theorem filter_apply (registry : Registry) (op : GaugeOp) :
    (registry.apply op).filter (Series.ofObject key) =
      (apply (registry.filter (Series.ofObject key)) op).filter (Series.ofObject key) := by
  have erased (gauge : Gauge) (labels : PromLabels) :
      (registry.erase gauge labels).filter (Series.ofObject key) =
        (erase (registry.filter (Series.ofObject key)) gauge labels).filter
          (Series.ofObject key) := by
    simp only [erase, List.filter_filter]
    exact List.filter_congr fun series _ => by
      cases series.ofObject key <;> simp
  cases op with
  | set gauge labels value => simp only [apply, List.filter_cons, erased]
  | delete gauge labels => exact erased gauge labels

/-- An update naming another object leaves this one's series as they were. -/
theorem filter_apply_of_other (registry : Registry) {op : GaugeOp} {other : WatermarkPodAutoscaler}
    (names : NamesOnly other.promLabels op.labels) (different : other.namespacedName ≠ key) :
    (registry.apply op).filter (Series.ofObject key) = registry.filter (Series.ofObject key) := by
  have kept (gauge : Gauge) : (registry.erase gauge op.labels).filter (Series.ofObject key) =
      registry.filter (Series.ofObject key) := by
    simp only [erase, List.filter_filter]
    refine List.filter_congr fun series _ => ?_
    cases owned : series.ofObject key
    · rfl
    · simp only [Bool.true_and, Bool.not_eq_true', decide_eq_false_iff_not]
      exact fun matched => absurd owned
        (by rw [ofObject_eq_false_of_namesOnly names different matched.2]; decide)
  cases op with
  | set gauge labels value =>
      rw [apply, List.filter_cons_of_neg
        (by rw [ofObject_eq_false_of_namesOnly names different rfl]; decide)]
      exact kept gauge
  | delete gauge labels => exact kept gauge

/-- After any updates, an object's series depend only on its series before. -/
theorem filter_record (registry : Registry) (effects : List Effect) :
    (registry.record effects).filter (Series.ofObject key) =
      (record (registry.filter (Series.ofObject key)) effects).filter (Series.ofObject key) := by
  induction effects generalizing registry with
  | nil => simp [List.filter_filter]
  | cons effect effects ih =>
      cases effect with
      | gauge op =>
          rw [record_gauge, record_gauge, ih, ih (apply (registry.filter _) op), filter_apply,
            ← filter_apply]
      | _ => exact ih registry

/-- Updates that name another object leave this one's series as they were. -/
theorem filter_record_of_other (registry : Registry) {effects : List Effect}
    {other : WatermarkPodAutoscaler} (emitted : GaugesOnly (Emitted other) effects)
    (different : other.namespacedName ≠ key) :
    (registry.record effects).filter (Series.ofObject key) =
      registry.filter (Series.ofObject key) := by
  induction effects generalizing registry with
  | nil => rfl
  | cons effect effects ih =>
      have later := (gaugesOnly_cons effect).mp emitted
      cases effect with
      | gauge op =>
          rw [record_gauge, ih _ later.2, filter_apply_of_other key registry
            (later.1 op rfl).namesOnly different]
      | _ => exact ih registry later.2

end Registry

theorem reconcileStep_emitted (platform : Platform) (defaulting : Defaulting)
    (wpa : WatermarkPodAutoscaler) (observation : Observation) :
    GaugesOnly (Emitted wpa) (reconcileStep platform defaulting wpa observation).2 :=
  Reconcile_emitted platform observation.calculator defaulting observation.cluster wpa

/-- The registry after reconciliations of any objects, one after another: each step reconciles
the object the server holds for it, under its observation. -/
def registryAfter (platform : Platform) (defaulting : Defaulting) (registry : Registry)
    (steps : List (WatermarkPodAutoscaler × Observation)) : Registry :=
  steps.foldl (fun registry step =>
    registry.record (reconcileStep platform defaulting step.1 step.2).2) registry

section

variable (platform : Platform) (defaulting : Defaulting) (key : String × String)

theorem registryAfter_cons (registry : Registry) (step : WatermarkPodAutoscaler × Observation)
    (steps : List (WatermarkPodAutoscaler × Observation)) :
    registryAfter platform defaulting registry (step :: steps) =
      registryAfter platform defaulting
        (registry.record (reconcileStep platform defaulting step.1 step.2).2) steps := rfl

theorem registryAfter_filter (registry : Registry)
    (steps : List (WatermarkPodAutoscaler × Observation)) :
    (registryAfter platform defaulting registry steps).filter (Series.ofObject key) =
      (registryAfter platform defaulting (registry.filter (Series.ofObject key)) steps).filter
        (Series.ofObject key) := by
  induction steps generalizing registry with
  | nil => simp [registryAfter, List.filter_filter]
  | cons step steps ih =>
      rw [registryAfter_cons, registryAfter_cons, ih, ih (Registry.record _ _),
        Registry.filter_record]

/-- Reconciliations of several objects share the registry, in any order. The series of one
object end up as that object's own reconciliations, in their order, make them: the
reconciliations of every other object never set, overwrite or delete them. -/
theorem registryAfter_isolates_objects (registry : Registry)
    (steps : List (WatermarkPodAutoscaler × Observation)) :
    (registryAfter platform defaulting registry steps).filter (Series.ofObject key) =
      (registryAfter platform defaulting registry
        (steps.filter fun step => decide (step.1.namespacedName = key))).filter
        (Series.ofObject key) := by
  induction steps generalizing registry with
  | nil => rfl
  | cons step steps ih =>
      rw [List.filter_cons]
      by_cases own : step.1.namespacedName = key
      · rw [if_pos (decide_eq_true own), registryAfter_cons, registryAfter_cons, ih]
      · -- The other object's step leaves this one's series as they were.
        rw [if_neg (by simpa using own), registryAfter_cons, registryAfter_filter,
          Registry.filter_record_of_other key registry
            (reconcileStep_emitted platform defaulting step.1 step.2) own,
          ← registryAfter_filter, ih]

/-- No reconciliation removes a series of a target that the reconciled object does not scale:
along every run whose objects all scale other targets, whatever they observe, the series
labelled with that target keep their values. -/
theorem registryAfter_keeps_former_target_series {registry : Registry} {series : Series}
    (kept : series ∈ registry) {target : String}
    (labelled : (resourceNamePromLabel, target) ∈ series.labels)
    (steps : List (WatermarkPodAutoscaler × Observation))
    (retargeted : ∀ step ∈ steps, step.1.spec.scaleTargetRef.name ≠ target) :
    series ∈ registryAfter platform defaulting registry steps := by
  induction steps generalizing registry with
  | nil => exact kept
  | cons step steps ih =>
      rw [registryAfter_cons]
      exact ih (Registry.mem_record_of_target
        (reconcileStep_emitted platform defaulting step.1 step.2)
        (retargeted step (List.mem_cons_self _ _)) labelled kept)
        fun later listed => retargeted later (List.mem_cons_of_mem _ listed)

/-- No reconciliation of any object sets a series with the upscale capping reason to anything
but `1`: along any run, each such series the registry holds was there at the start or holds `1`.
Once an upscale has been capped, the gauge reports the capping until the series is deleted. -/
theorem registryAfter_upscaleCapping_holds_one (registry : Registry)
    (steps : List (WatermarkPodAutoscaler × Observation)) :
    ∀ series ∈ registryAfter platform defaulting registry steps,
      (reasonPromLabel, upscaleCappingPromLabel) ∈ series.labels →
        series ∈ registry ∨ series.value = .finite 1 := by
  induction steps generalizing registry with
  | nil => exact fun _ listed _ => .inl listed
  | cons step steps ih =>
      intro series listed capped
      rw [registryAfter_cons] at listed
      exact (ih _ series listed capped).elim
        (fun recorded => Registry.record_upscaleCapping
          (reconcileStep_emitted platform defaulting step.1 step.2) recorded capped) .inr

end

/-- A reconciliation of the example target at ten replicas with a usage of `20` per pod: the
proposal, `25`, is above the scale-up limit, `15`. -/
def cappedObservation : Observation :=
  ⟨exampleCluster ⟨10, by decide, by decide⟩, exampleCalculator ⟨20000, by decide, by decide⟩⟩

/-- The example WPA's upscale capping series at `1`. -/
def upscaleCappingSeries : Series :=
  ⟨.restrictedScaling, exampleWpa.promLabels ++ [(reasonPromLabel, upscaleCappingPromLabel)],
    .finite 1⟩

set_option maxRecDepth 4000 in
/-- A capped upscale, then one within the limit: the upscale capping series still holds `1`. -/
theorem registryAfter_upscaleCapping_holds_one_after_capping :
    upscaleCappingSeries ∈ registryAfter .amd64 exampleDefaulting []
        [(exampleWpa, cappedObservation), (exampleWpa, scaledObservation)] ∧
      (reasonPromLabel, upscaleCappingPromLabel) ∈ upscaleCappingSeries.labels ∧
      (upscaleCappingSeries ∈ ([] : Registry) ∨ upscaleCappingSeries.value = .finite 1) :=
  have listed : upscaleCappingSeries ∈ registryAfter .amd64 exampleDefaulting []
      [(exampleWpa, cappedObservation), (exampleWpa, scaledObservation)] := by decide
  have capped : (reasonPromLabel, upscaleCappingPromLabel) ∈ upscaleCappingSeries.labels := by
    decide
  ⟨listed, capped,
    registryAfter_upscaleCapping_holds_one .amd64 exampleDefaulting [] _ _ listed capped⟩

/-- The effective-replicas series of the example WPA when it scaled the deployment `web`. -/
def formerTargetSeries : Series :=
  ⟨.replicaEffective, [(wpaNamePromLabel, "wpa"), (resourceNamespacePromLabel, "default"),
    (resourceNamePromLabel, "web"), (resourceKindPromLabel, "Deployment")], .finite 10⟩

/-- The example WPA, now scaling `app`, rescales it; the series of `web` stays. -/
theorem registryAfter_keeps_former_target_series_after_rename :
    (resourceNamePromLabel, "web") ∈ formerTargetSeries.labels ∧
      (∀ step ∈ [(exampleWpa, scaledObservation)], step.1.spec.scaleTargetRef.name ≠ "web") ∧
      formerTargetSeries ∈ registryAfter .amd64 exampleDefaulting [formerTargetSeries]
        [(exampleWpa, scaledObservation)] :=
  ⟨by decide, by decide,
    @registryAfter_keeps_former_target_series .amd64 exampleDefaulting _ _
      (List.mem_singleton_self _) "web" (by decide) _ (by decide)⟩

end Wpa
