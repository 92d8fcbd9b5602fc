import WatermarkPodAutoscaler.Bounds

/-!
# The scale lookup

`getScaleForResourceMappings` tries the target's REST mappings in order and stops at the first
whose `Get` succeeds: it returns that scale and that mapping's group-resource. When every `Get`
fails, it appends `scale not found` to the errors of the mappings it tried, so the aggregated
message contains `not found` whatever the other errors are: `utilerrors.NewAggregate` keeps every
message, alone, deduplicated, or joined in brackets. `reconcileWPA` returns that error instead of
reading the nil scale, and otherwise carries the group-resource it read the scale from to the
scale update.
-/

namespace Wpa

section Aggregate

variable {α : Type} [BEq α] [LawfulBEq α] {x : α}

/-- `eraseDups` keeps every element of the list and of its accumulator. -/
theorem mem_eraseDups_loop : ∀ {as bs : List α}, x ∈ as ∨ x ∈ bs → x ∈ List.eraseDups.loop as bs
  | [], _, member => by simpa [List.eraseDups.loop] using member
  | a :: as, bs, member => by
      simp only [List.mem_cons] at member
      unfold List.eraseDups.loop
      split
      · next seen =>
        refine mem_eraseDups_loop ?_
        rcases member with (rfl | later) | kept
        exacts [.inr (List.elem_iff.mp seen), .inl later, .inr kept]
      · refine mem_eraseDups_loop ?_
        rcases member with (rfl | later) | kept
        exacts [.inr (.head _), .inl later, .inr (.tail _ kept)]

theorem mem_eraseDups {as : List α} (member : x ∈ as) : x ∈ as.eraseDups :=
  mem_eraseDups_loop (.inl member)

end Aggregate

/-- A join starts with its accumulator. -/
theorem prefix_intercalate_go (separator : String) :
    ∀ (acc : String) (rest : List String),
      acc.toList <+: (String.intercalate.go acc separator rest).toList
  | _, [] => List.prefix_refl _
  | acc, next :: rest =>
      (List.prefix_append acc.toList (separator.toList ++ next.toList)).trans
        (by simpa [String.intercalate.go, List.append_assoc] using
          prefix_intercalate_go separator (acc ++ separator ++ next) rest)

/-- A join contains each string it joins after its accumulator. -/
theorem infix_intercalate_go (separator : String) {part : String} :
    ∀ (acc : String) (rest : List String), part ∈ rest →
      part.toList <:+: (String.intercalate.go acc separator rest).toList
  | _, [], member => by cases member
  | acc, next :: rest, member => by
      rw [String.intercalate.go]
      rcases List.mem_cons.mp member with rfl | later
      · exact (List.suffix_append (acc.toList ++ separator.toList) part.toList).isInfix.trans
          (prefix_intercalate_go separator _ rest).isInfix
      · exact infix_intercalate_go separator _ rest later

/-- A join contains each string it joins. -/
theorem infix_intercalate (separator : String) {part : String} {parts : List String}
    (member : part ∈ parts) : part.toList <:+: (separator.intercalate parts).toList := by
  cases parts with
  | nil => cases member
  | cons first rest =>
      rcases List.mem_cons.mp member with rfl | later
      · exact (prefix_intercalate_go separator _ rest).isInfix
      · exact infix_intercalate_go separator _ rest later

/-- The aggregated message contains each message it aggregates. -/
theorem aggregateError_contains {errs : List String} {err : String} (member : err ∈ errs) :
    ∃ message, aggregateError errs = some message ∧ err.toList <:+: message.toList := by
  unfold aggregateError
  split
  · cases member
  · exact ⟨_, rfl, by rw [List.mem_singleton.mp member]⟩
  · split
    · next single =>
      have kept := mem_eraseDups member
      rw [single, List.mem_singleton] at kept
      exact ⟨_, rfl, kept ▸ List.infix_refl _⟩
    · exact ⟨_, rfl, (infix_intercalate ", " (mem_eraseDups member)).trans
        (List.infix_append ['['] _ [']'])⟩

section Lookup

variable {cluster : Cluster}

/-- A lookup that returns a scale stops at a mapping whose `Get` returns it, after mappings whose
`Get` fails, and returns that mapping's group-resource. -/
theorem scaleLookup_fst_eq_some {scale : Scale} :
    ∀ {mappings : List RestMapping} {lastGR : GroupResource} {errs : List String},
      (scaleLookup cluster mappings lastGR errs).1 = some scale →
      ∃ before mapping after, mappings = before ++ mapping :: after ∧
        (∀ tried ∈ before, ∃ err, cluster.getScale tried.groupResource = .error err) ∧
        cluster.getScale mapping.groupResource = .ok scale ∧
        (scaleLookup cluster mappings lastGR errs).2.1 = mapping.groupResource
  | [], _, _, found => by cases found
  | mapping :: rest, _, _, found => by
      cases got : cluster.getScale mapping.groupResource with
      | ok read =>
          simp only [scaleLookup, got, Option.some.injEq] at found ⊢
          exact ⟨[], mapping, rest, rfl, by simp, found ▸ got, rfl⟩
      | error err =>
          simp only [scaleLookup, got] at found ⊢
          obtain ⟨before, found, after, split, failed, read, targetGR⟩ :=
            scaleLookup_fst_eq_some found
          refine ⟨mapping :: before, found, after, by rw [split]; rfl, ?_, read, targetGR⟩
          rintro tried (_ | ⟨_, earlier⟩)
          exacts [⟨err, got⟩, failed tried earlier]

/-- Past mappings whose `Get` fails, a lookup goes on with the rest. -/
theorem scaleLookup_append_of_failed (rest : List RestMapping) :
    ∀ {before : List RestMapping} (lastGR : GroupResource) (errs : List String),
      (∀ tried ∈ before, ∃ err, cluster.getScale tried.groupResource = .error err) →
      ∃ lastGR' errs', scaleLookup cluster (before ++ rest) lastGR errs =
        scaleLookup cluster rest lastGR' errs'
  | [], lastGR, errs, _ => ⟨lastGR, errs, rfl⟩
  | tried :: _, _, _, failed => by
      obtain ⟨err, fails⟩ := failed tried (.head _)
      simp only [List.cons_append, scaleLookup, fails]
      exact scaleLookup_append_of_failed rest _ _ fun other earlier => failed other (.tail _ earlier)

/-- A lookup returns the scale of the first mapping whose `Get` succeeds, and its
group-resource. -/
theorem scaleLookup_of_first {before after : List RestMapping} {mapping : RestMapping}
    {scale : Scale} (lastGR : GroupResource) (errs : List String)
    (failed : ∀ tried ∈ before, ∃ err, cluster.getScale tried.groupResource = .error err)
    (read : cluster.getScale mapping.groupResource = .ok scale) :
    (scaleLookup cluster (before ++ mapping :: after) lastGR errs).1 = some scale ∧
      (scaleLookup cluster (before ++ mapping :: after) lastGR errs).2.1 = mapping.groupResource := by
  obtain ⟨lastGR', errs', skipped⟩ := scaleLookup_append_of_failed (mapping :: after) lastGR errs failed
  simp only [skipped, scaleLookup, read, and_self]

/-- A lookup that returns no scale met only failing `Get`s. -/
theorem failed_of_scaleLookup_fst_eq_none :
    ∀ {mappings : List RestMapping} {lastGR : GroupResource} {errs : List String},
      (scaleLookup cluster mappings lastGR errs).1 = none →
      ∀ tried ∈ mappings, ∃ err, cluster.getScale tried.groupResource = .error err
  | [], _, _, _ => by simp
  | mapping :: rest, _, _, missing => by
      cases got : cluster.getScale mapping.groupResource with
      | ok read => simp [scaleLookup, got] at missing
      | error err =>
          simp only [scaleLookup, got] at missing
          rintro tried (_ | ⟨_, later⟩)
          exacts [⟨err, got⟩, failed_of_scaleLookup_fst_eq_none missing tried later]

/-- A lookup returns a scale exactly when some `Get` succeeds. -/
theorem scaleLookup_fst_isSome_iff {mappings : List RestMapping} {lastGR : GroupResource}
    {errs : List String} :
    (scaleLookup cluster mappings lastGR errs).1.isSome ↔
      ∃ mapping ∈ mappings, ∃ scale, cluster.getScale mapping.groupResource = .ok scale := by
  rw [Option.isSome_iff_exists]
  constructor
  · rintro ⟨scale, found⟩
    obtain ⟨_, mapping, _, rfl, -, read, -⟩ := scaleLookup_fst_eq_some found
    exact ⟨mapping, List.mem_append_right _ (.head _), scale, read⟩
  · rintro ⟨mapping, listed, scale, read⟩
    cases found : (scaleLookup cluster mappings lastGR errs).1 with
    | some scale' => exact ⟨scale', rfl⟩
    | none =>
        obtain ⟨err, fails⟩ := failed_of_scaleLookup_fst_eq_none found mapping listed
        rw [read] at fails
        cases fails

/-- A lookup returns exactly the scale and group-resource of the first mapping whose `Get`
succeeds. -/
theorem scaleLookup_eq_some_iff {mappings : List RestMapping} {lastGR : GroupResource}
    {errs : List String} {scale : Scale} {targetGR : GroupResource} :
    (scaleLookup cluster mappings lastGR errs).1 = some scale ∧
        (scaleLookup cluster mappings lastGR errs).2.1 = targetGR ↔
      ∃ before mapping after, mappings = before ++ mapping :: after ∧
        (∀ tried ∈ before, ∃ err, cluster.getScale tried.groupResource = .error err) ∧
        cluster.getScale mapping.groupResource = .ok scale ∧ targetGR = mapping.groupResource := by
  constructor
  · rintro ⟨found, rfl⟩
    exact scaleLookup_fst_eq_some found
  · rintro ⟨before, mapping, after, rfl, failed, read, rfl⟩
    exact scaleLookup_of_first _ _ failed read

end Lookup

section Resolve

variable {cluster : Cluster}

@[simp] theorem getScaleForResourceMappings_fst (mappings : List RestMapping) :
    (getScaleForResourceMappings cluster mappings).1 = (scaleLookup cluster mappings ⟨"", ""⟩ []).1 :=
  rfl

@[simp] theorem getScaleForResourceMappings_snd_fst (mappings : List RestMapping) :
    (getScaleForResourceMappings cluster mappings).2.1 =
      (scaleLookup cluster mappings ⟨"", ""⟩ []).2.1 :=
  rfl

/-- Without a scale, the aggregated error contains "not found": the errors end with
"scale not found". -/
theorem getScaleForResourceMappings_not_found {mappings : List RestMapping}
    (missing : (getScaleForResourceMappings cluster mappings).1 = none) :
    ∃ message, (getScaleForResourceMappings cluster mappings).2.2 = some message ∧
      stringsContains message "not found" = true := by
  rw [getScaleForResourceMappings_fst] at missing
  have listed : "scale not found" ∈ (scaleLookup cluster mappings ⟨"", ""⟩ []).2.2 ++
      ["scale not found"] := List.mem_append_right _ (List.mem_singleton_self _)
  obtain ⟨message, aggregated, contained⟩ := aggregateError_contains listed
  refine ⟨message, ?_, decide_eq_true ((by decide : "not found".toList <:+:
    "scale not found".toList).trans contained)⟩
  simp only [getScaleForResourceMappings, missing, Option.isNone_none, if_true, aggregated]

/-- A failed lookup returns an error: the nil scale is never read. -/
theorem lookupScale_ne_error_none (scaleTargetRef : CrossVersionObjectReference) :
    lookupScale cluster scaleTargetRef ≠ .error none := by
  unfold lookupScale
  split
  · simp
  · split
    · simp
    · next mappings _ =>
      split
      · simp
      · next message resolved =>
        obtain ⟨message', aggregated, contained⟩ :=
          getScaleForResourceMappings_not_found (by rw [resolved])
        rw [resolved, Option.some.injEq] at aggregated
        simp [aggregated, contained]
      · next resolved =>
        obtain ⟨_, aggregated, -⟩ := getScaleForResourceMappings_not_found (by rw [resolved])
        simp [resolved] at aggregated

/-- A lookup that finds a scale read it through the group-resource it returns. -/
theorem getScale_of_lookupScale {scaleTargetRef : CrossVersionObjectReference} {scale : Scale}
    {targetGR : GroupResource} (found : lookupScale cluster scaleTargetRef = .ok (scale, targetGR)) :
    cluster.getScale targetGR = .ok scale := by
  unfold lookupScale at found
  split at found
  · cases found
  · split at found
    · cases found
    · next mappings _ =>
      split at found
      · rename_i resolved
        cases found
        have readFst : (scaleLookup cluster mappings ⟨"", ""⟩ []).1 = some scale := by
          rw [← getScaleForResourceMappings_fst, resolved]
        obtain ⟨_, mapping, _, _, _, got, sameGR⟩ := scaleLookup_fst_eq_some readFst
        rw [← getScaleForResourceMappings_snd_fst, resolved] at sameGR
        rwa [← sameGR] at got
      · cases found
      · cases found

/-- A failed lookup makes `reconcileWPA` return its error, with the object and no effect. -/
theorem reconcileWPA_of_lookupScale_error (platform : Platform) (replicaCalc : ReplicaCalculatorItf)
    {wpa : WatermarkPodAutoscaler} {err : Option String}
    (failed : lookupScale cluster wpa.spec.scaleTargetRef = .error err) :
    ∃ message, err = some message ∧
      reconcileWPA platform replicaCalc cluster wpa = (some message, wpa, []) := by
  cases err with
  | none => exact absurd failed (lookupScale_ne_error_none _)
  | some message => exact ⟨message, rfl, by simp only [reconcileWPA, failed]⟩

end Resolve

section WritesThrough

variable (cluster : Cluster) (wpaStatusOriginal : WatermarkPodAutoscalerStatus)
  (targetGR : GroupResource) {groupResource : GroupResource} {replicas : Int32}

/-- The one scale write of `finishReconcile` goes through the group-resource it is given, with
the desired count. -/
theorem updateScale_mem_finishReconcile (currentReplicas : Int32) (rescale : Bool)
    (desiredReplicas : Int32) (metricStatuses : List MetricStatus) (wpa : WatermarkPodAutoscaler)
    {effects : List Effect} (reports : ∀ effect ∈ effects, effect.isReport)
    (written : Effect.updateScale groupResource replicas ∈ (finishReconcile cluster
      wpaStatusOriginal targetGR currentReplicas rescale desiredReplicas metricStatuses wpa
      effects).2.2) :
    groupResource = targetGR ∧ replicas = desiredReplicas := by
  have noWrite : Effect.updateScale groupResource replicas ∉ effects :=
    fun written => by simpa using reports _ written
  cases rescale
  · simp [finishReconcile, completeReconcile, noWrite] at written
  · by_cases dryRun : wpa.spec.dryRun
    · simp [finishReconcile, dryRun, noWrite] at written
    · cases scaleError : cluster.updateScale with
      | none => simpa [finishReconcile, completeReconcile, dryRun, scaleError, noWrite] using written
      | some err =>
          simp only [finishReconcile, setCondition_spec, dryRun, scaleError, Bool.false_eq_true,
            ↓reduceIte] at written
          split at written <;> simpa [noWrite] using written

/-- The metric-driven branch writes the scale only through the group-resource it is given. -/
theorem updateScale_mem_metricDriven (platform : Platform) (replicaCalc : ReplicaCalculatorItf)
    (currentScale : Scale) (wpa : WatermarkPodAutoscaler)
    (written : Effect.updateScale groupResource replicas ∈ (metricDriven platform replicaCalc
      cluster wpaStatusOriginal targetGR currentScale wpa).2.2) :
    groupResource = targetGR := by
  have computed := computeReplicasForMetrics_reportsOnly replicaCalc cluster.now wpa currentScale
  have noWrite : Effect.updateScale groupResource replicas ∉
      (computeReplicasForMetrics replicaCalc cluster.now wpa currentScale).2.2 :=
    fun written => by simpa using computed.2 _ written
  unfold metricDriven at written
  dsimp only at written
  split at written
  · exact absurd written noWrite
  · split at written <;> simp [noWrite] at written
  · exact (updateScale_mem_finishReconcile _ _ _ _ _ _ _ _
      (by simpa [or_imp, forall_and] using computed.2) written).1

/-- Once the scale is found, a reconciliation writes it only through the group-resource it was
read from. -/
theorem updateScale_mem_reconcileScale (platform : Platform) (replicaCalc : ReplicaCalculatorItf)
    (currentScale : Scale) (wpa : WatermarkPodAutoscaler)
    (written : Effect.updateScale groupResource replicas ∈
      (reconcileScale platform replicaCalc cluster targetGR currentScale wpa).2.2) :
    groupResource = targetGR := by
  unfold reconcileScale at written
  dsimp only at written
  split_ifs at written
  · exact (updateScale_mem_finishReconcile _ _ _ _ _ _ _ _ (by simp) written).1
  · split at written
    · exact (updateScale_mem_finishReconcile _ _ _ _ _ _ _ _ (by simp) written).1
    · exact updateScale_mem_metricDriven _ _ _ _ _ _ _ written

/-- `reconcileWPA` writes the scale only through the group-resource its lookup returns. -/
theorem updateScale_mem_reconcileWPA (platform : Platform) (replicaCalc : ReplicaCalculatorItf)
    (wpa : WatermarkPodAutoscaler)
    (written : Effect.updateScale groupResource replicas ∈
      (reconcileWPA platform replicaCalc cluster wpa).2.2) :
    ∃ scale, lookupScale cluster wpa.spec.scaleTargetRef = .ok (scale, groupResource) := by
  unfold reconcileWPA at written
  split at written
  · cases written
  · next scale _ found =>
    exact ⟨scale, updateScale_mem_reconcileScale _ _ _ _ _ _ written ▸ found⟩

end WritesThrough

/-- `getScaleForResourceMappings` returns a scale exactly when some `Get` succeeds, and then the
scale and group-resource of the first mapping whose `Get` succeeds; without a scale its error
contains "not found". So `reconcileWPA` returns an error for every failed lookup instead of
reading a nil scale, and writes the scale through the group-resource it read it from. -/
theorem getScaleForResourceMappings_first_success :
    (∀ (cluster : Cluster) (mappings : List RestMapping),
      ((getScaleForResourceMappings cluster mappings).1.isSome ↔
        ∃ mapping ∈ mappings, ∃ scale, cluster.getScale mapping.groupResource = .ok scale) ∧
      (∀ (scale : Scale) (targetGR : GroupResource),
        (getScaleForResourceMappings cluster mappings).1 = some scale ∧
            (getScaleForResourceMappings cluster mappings).2.1 = targetGR ↔
          ∃ before mapping after, mappings = before ++ mapping :: after ∧
            (∀ tried ∈ before, ∃ err, cluster.getScale tried.groupResource = .error err) ∧
            cluster.getScale mapping.groupResource = .ok scale ∧
            targetGR = mapping.groupResource) ∧
      ((getScaleForResourceMappings cluster mappings).1 = none →
        ∃ message, (getScaleForResourceMappings cluster mappings).2.2 = some message ∧
          stringsContains message "not found" = true)) ∧
    ∀ (platform : Platform) (replicaCalc : ReplicaCalculatorItf) (cluster : Cluster)
      (wpa : WatermarkPodAutoscaler),
      (∀ err, lookupScale cluster wpa.spec.scaleTargetRef = .error err →
        ∃ message, err = some message ∧
          reconcileWPA platform replicaCalc cluster wpa = (some message, wpa, [])) ∧
      ∀ (targetGR : GroupResource) (replicas : Int32),
        Effect.updateScale targetGR replicas ∈ (reconcileWPA platform replicaCalc cluster wpa).2.2 →
        ∃ scale, lookupScale cluster wpa.spec.scaleTargetRef = .ok (scale, targetGR) ∧
          cluster.getScale targetGR = .ok scale := by
  refine ⟨fun cluster mappings => ⟨scaleLookup_fst_isSome_iff, fun _ _ => scaleLookup_eq_some_iff,
      getScaleForResourceMappings_not_found⟩,
    fun platform replicaCalc cluster wpa => ⟨fun _ => reconcileWPA_of_lookupScale_error platform
      replicaCalc, fun _ _ written => ?_⟩⟩
  obtain ⟨scale, found⟩ := updateScale_mem_reconcileWPA cluster platform replicaCalc wpa written
  exact ⟨scale, found, getScale_of_lookupScale found⟩

/-- The mappings of a deployment: the older `extensions/v1beta1` one first. -/
def deploymentMappings : List RestMapping :=
  [⟨⟨"extensions", "deployments"⟩, "extensions/v1beta1"⟩, ⟨⟨"apps", "deployments"⟩, "apps/v1"⟩]

/-- A cluster that serves the example deployment's scale through `apps/v1` only. -/
def fallbackCluster : Cluster :=
  { exampleCluster ⟨10, by decide, by decide⟩ with
    restMappings := fun _ => .ok deploymentMappings
    getScale := fun groupResource =>
      if groupResource.group = "apps" then .ok ⟨⟨10, by decide, by decide⟩,
        ⟨10, by decide, by decide⟩, "app=example"⟩
      else .error "the server could not find the requested resource" }

/-- The lookup passes over the failing `extensions` mapping to the scale read through `apps`. -/
theorem getScaleForResourceMappings_falls_back_to_apps :
    (getScaleForResourceMappings fallbackCluster deploymentMappings).1 =
        some ⟨⟨10, by decide, by decide⟩, ⟨10, by decide, by decide⟩, "app=example"⟩ ∧
      (getScaleForResourceMappings fallbackCluster deploymentMappings).2.1 =
        ⟨"apps", "deployments"⟩ :=
  ((getScaleForResourceMappings_first_success.1 fallbackCluster deploymentMappings).2.1 _ _).mpr
    ⟨[⟨⟨"extensions", "deployments"⟩, "extensions/v1beta1"⟩],
      ⟨⟨"apps", "deployments"⟩, "apps/v1"⟩, [], rfl,
      fun tried listed => by obtain rfl := List.mem_singleton.mp listed; exact ⟨_, rfl⟩, rfl, rfl⟩

end Wpa
