import WatermarkPodAutoscaler.Reconcile

/-!
# Condition lists over a sequence of calls

The pipeline writes the object's status in memory through two functions: `setCondition`, which
runs `setConditionInList` on the conditions, and `setStatus`, which rebuilds the status around
the same conditions. A `StatusCall` is one of them, with its arguments.

On a list of distinct types, `setCondition` leaves one entry of its type, carrying its status,
reason and message; keeps the entries of other types in their order; appends a new type at the
end; and moves an entry's transition time only when it changes the entry's status. Both calls
keep the types distinct, so every call of a sequence sees distinct types and acts so.
-/

namespace Wpa

/-- A call that writes the object's status in memory. -/
inductive StatusCall where
  | setCondition (now : ℤ) (conditionType status reason message : String)
  | setStatus (now : ℤ) (currentReplicas desiredReplicas : Int32)
      (metricStatuses : List MetricStatus) (rescale : Bool)
  deriving DecidableEq

/-- The object after a call. -/
def StatusCall.apply (wpa : WatermarkPodAutoscaler) : StatusCall → WatermarkPodAutoscaler
  | .setCondition now conditionType status reason message =>
      Wpa.setCondition now wpa conditionType status reason message
  | .setStatus now currentReplicas desiredReplicas metricStatuses rescale =>
      Wpa.setStatus now wpa currentReplicas desiredReplicas metricStatuses rescale

/-- The condition types of an object are pairwise distinct. -/
def DistinctConditions (wpa : WatermarkPodAutoscaler) : Prop :=
  (wpa.status.conditions.map Condition.type).Nodup

instance (wpa : WatermarkPodAutoscaler) : Decidable (DistinctConditions wpa) :=
  inferInstanceAs (Decidable (List.Nodup _))

theorem StatusCall.apply_distinct {wpa : WatermarkPodAutoscaler} (call : StatusCall)
    (distinct : DistinctConditions wpa) : DistinctConditions (StatusCall.apply wpa call) := by
  cases call with
  | setCondition now conditionType status reason message =>
      exact setConditionInList_nodup now conditionType status reason message distinct
  | setStatus => exact distinct

theorem statusCalls_distinct (calls : List StatusCall) {wpa : WatermarkPodAutoscaler}
    (distinct : DistinctConditions wpa) :
    DistinctConditions (calls.foldl StatusCall.apply wpa) := by
  induction calls generalizing wpa with
  | nil => exact distinct
  | cons call calls ih => exact ih (call.apply_distinct distinct)

/-- What `setCondition(τ, s, r, msg)` does to the conditions of `wpa`: it leaves exactly one
entry of type `τ`, carrying `s`, `r` and `msg`; keeps the entries of other types, in their order;
keeps the list's types as they were when `τ` is present, so the entry of type `τ` stays at its
index; appends the entry at the end when the type is new; and moves an entry's transition time
only when it changes that entry's status. -/
def SetsCondition (now : ℤ) (wpa : WatermarkPodAutoscaler)
    (conditionType status reason message : String) : Prop :=
  let conditions := (setCondition now wpa conditionType status reason message).status.conditions
  (∃ entry, conditions.filter (fun condition => condition.type = conditionType) = [entry] ∧
    entry.status = status ∧ entry.reason = reason ∧ entry.message = message) ∧
  conditions.filter (fun condition => condition.type ≠ conditionType) =
    wpa.status.conditions.filter (fun condition => condition.type ≠ conditionType) ∧
  ((∃ condition ∈ wpa.status.conditions, condition.type = conditionType) →
    conditions.map Condition.type = wpa.status.conditions.map Condition.type) ∧
  ((∀ condition ∈ wpa.status.conditions, condition.type ≠ conditionType) →
    ∃ entry, entry.type = conditionType ∧ conditions = wpa.status.conditions ++ [entry]) ∧
  ∀ before ∈ wpa.status.conditions, ∀ after ∈ conditions,
    after.type = before.type → after.lastTransitionTime ≠ before.lastTransitionTime →
      before.type = conditionType ∧ before.status ≠ status

/-- Every sequence of `setCondition` and `setStatus` calls keeps the condition types distinct, and
on distinct types each `setCondition` call sets its condition as `SetsCondition` says. -/
theorem setCondition_keeps_distinct_types :
    (∀ (calls : List StatusCall) (wpa : WatermarkPodAutoscaler), DistinctConditions wpa →
      DistinctConditions (calls.foldl StatusCall.apply wpa)) ∧
    ∀ (now : ℤ) (wpa : WatermarkPodAutoscaler) (conditionType status reason message : String),
      DistinctConditions wpa → SetsCondition now wpa conditionType status reason message := by
  refine ⟨fun calls _ distinct => statusCalls_distinct calls distinct,
    fun now wpa conditionType status reason message distinct => ⟨?_, ?_, ?_, ?_, ?_⟩⟩
  · exact ⟨_, filter_eq_setConditionInList now conditionType status reason message distinct,
      rfl, rfl, rfl⟩
  · exact filter_ne_setConditionInList now conditionType status reason message
  · intro present
    exact (types_setConditionInList now conditionType status reason message distinct).trans
      (if_pos present)
  · intro absent
    exact ⟨_, rfl, setConditionInList_of_absent now conditionType status reason message absent⟩
  · exact lastTransitionTime_setConditionInList now conditionType status reason message distinct

/-- An object that holds `AbleToScale` and `ScalingActive`, at time `50`. -/
def twoConditionWpa : WatermarkPodAutoscaler :=
  { exampleWpa with
    status := { exampleWpa.status with
      conditions := [⟨ableToScale, conditionTrue, 50, "SucceededGetScale",
          "the WPA controller was able to get the target's current scale"⟩,
        ⟨scalingActive, conditionTrue, 50, "ValidMetricFound",
          "the HPA was able to successfully calculate a replica count from cpu"⟩] } }

/-- Backing off on that object turns `AbleToScale` false in place, at the clock. -/
theorem setCondition_keeps_distinct_types_on_backoff :
    DistinctConditions twoConditionWpa ∧
      SetsCondition 100 twoConditionWpa ableToScale conditionFalse "BackoffDownscale"
        "the time since the previous scale is still within the downscale forbidden window" :=
  ⟨by decide, setCondition_keeps_distinct_types.2 _ _ _ _ _ _ (by decide)⟩

end Wpa
