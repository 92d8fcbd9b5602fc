import WatermarkPodAutoscaler.ConditionTypes

/-!
# The transition time of `AbleToScale`

`setConditionInList` moves a condition's transition time only when its status changes. Every
reconciliation past the scale lookup first sets `AbleToScale` to true (`SucceededGetScale`), and
all the calls of a reconciliation read one clock (`ByCalls`). So whatever sets `AbleToScale` false
later in the same reconciliation, a forbidden window or a failed scale write, changes its status
and stamps the reconciliation's clock: `FalseSince` holds from `SucceededGetScale` on and every
call keeps it. In every status a reconciliation of a valid object writes, a false `AbleToScale`
carries the reconciliation's clock as its transition time
(`Reconcile_stamps_ableToScale_false`): a back-off that lasts several reconciliations moves it at
each of them, and it never records when the target stopped being able to scale.
-/

namespace Wpa

/-- The `AbleToScale` entry `setConditionInList` finds: the first of that type. -/
def ableToScaleCondition (conditions : List Condition) : Option Condition :=
  conditions.find? fun condition => condition.type = ableToScale

/-- A false `AbleToScale` went false at `now`. -/
def FalseSince (now : ℤ) (conditions : List Condition) : Prop :=
  ∀ condition, ableToScaleCondition conditions = some condition →
    condition.status = conditionFalse → condition.lastTransitionTime = now

section

variable (now : ℤ) (status reason message : String) (conditions : List Condition)

theorem ableToScaleCondition_setConditionInList_of_ne {conditionType : String}
    (other : conditionType ≠ ableToScale) :
    ableToScaleCondition (setConditionInList now conditions conditionType status reason message) =
      ableToScaleCondition conditions := by
  induction conditions with
  | nil => simp [ableToScaleCondition, setConditionInList, Condition.zero, other]
  | cons condition rest ih =>
      unfold ableToScaleCondition at ih ⊢
      by_cases found : condition.type = conditionType
      · simp [setConditionInList, found, other, List.find?_cons]
      · simp only [setConditionInList, found, ↓reduceIte, List.find?_cons, ih]

/-- `setConditionInList` updates the first `AbleToScale` entry, or appends one. -/
theorem ableToScaleCondition_setConditionInList :
    ableToScaleCondition (setConditionInList now conditions ableToScale status reason message) =
      some (((ableToScaleCondition conditions).getD (Condition.zero ableToScale)).update now
        status reason message) := by
  induction conditions with
  | nil => simp [ableToScaleCondition, setConditionInList, Condition.zero]
  | cons condition rest ih =>
      unfold ableToScaleCondition at ih ⊢
      by_cases found : condition.type = ableToScale
      · simp [setConditionInList, found, List.find?_cons]
      · simp only [setConditionInList, found, ↓reduceIte, List.find?_cons, decide_False, ih]

end

/-- Every `setConditionInList` at the clock keeps a false `AbleToScale` stamped with it: setting
it false from another status stamps the clock, and setting it false again keeps the stamp. -/
theorem FalseSince.setConditionInList {now : ℤ} {conditions : List Condition}
    (stamped : FalseSince now conditions) (conditionType status reason message : String) :
    FalseSince now (setConditionInList now conditions conditionType status reason message) := by
  intro condition found turnedFalse
  by_cases same : conditionType = ableToScale
  · subst same
    rw [ableToScaleCondition_setConditionInList, Option.some_inj] at found
    subst found
    simp only [Condition.update] at turnedFalse ⊢
    subst turnedFalse
    split_ifs with changed
    · rfl
    · rw [not_not] at changed
      cases existing : ableToScaleCondition conditions with
      | none => simp [existing, Condition.zero, conditionFalse] at changed
      | some previous =>
          simp only [existing, Option.getD_some] at changed ⊢
          exact stamped previous existing changed
  · rw [ableToScaleCondition_setConditionInList_of_ne now status reason message conditions same]
      at found
    exact stamped condition found turnedFalse

theorem FalseSince.apply {now : ℤ} {wpa : WatermarkPodAutoscaler}
    (stamped : FalseSince now wpa.status.conditions) {call : StatusCall} (clock : call.now = now) :
    FalseSince now (call.apply wpa).status.conditions := by
  cases call with
  | setCondition callNow conditionType status reason message =>
      obtain rfl : callNow = now := clock
      exact stamped.setConditionInList conditionType status reason message
  | setStatus => exact stamped

/-- Calls at the clock keep a false `AbleToScale` stamped with it, in every status a step
writes. -/
theorem CallsOnly.falseSince {now : ℤ} {wpa : WatermarkPodAutoscaler}
    {result : WatermarkPodAutoscaler × List Effect} (step : CallsOnly now wpa result)
    (stamped : FalseSince now wpa.status.conditions) :
    ∀ status, Effect.updateStatus status ∈ result.2 → FalseSince now status.conditions :=
  (step.holds_of_keeps (fun status => FalseSince now status.conditions)
    (fun _ _ clock _ kept => kept.apply clock) stamped).2

/-- A true `AbleToScale` is not false. -/
theorem falseSince_setCondition_true (now : ℤ) (wpa : WatermarkPodAutoscaler)
    (reason message : String) :
    FalseSince now (setCondition now wpa ableToScale conditionTrue reason message).status.conditions
    := by
  intro condition found turnedFalse
  rw [setCondition_conditions, ableToScaleCondition_setConditionInList, Option.some_inj] at found
  subst found
  simp [Condition.update, conditionTrue, conditionFalse] at turnedFalse

theorem reconcileScale_falseSince (platform : Platform) (replicaCalc : ReplicaCalculatorItf)
    (cluster : Cluster) (targetGR : GroupResource) (currentScale : Scale)
    (wpa : WatermarkPodAutoscaler) :
    ∀ status, Effect.updateStatus status ∈
        (reconcileScale platform replicaCalc cluster targetGR currentScale wpa).2.2 →
      FalseSince cluster.now status.conditions := by
  have found := falseSince_setCondition_true cluster.now wpa "SucceededGetScale"
    "the WPA controller was able to get the target's current scale"
  unfold reconcileScale
  dsimp only
  split_ifs
  · exact (finishReconcile_callsOnly cluster wpa.status _ _ _ _ _
      (.of_noStatus (.setCondition (by decide) ..) (by simp))).falseSince found
  · split
    · exact (finishReconcile_callsOnly cluster wpa.status _ _ _ _ _
        (.of_noStatus (.refl _) (by simp))).falseSince found
    · exact (metricDriven_callsOnly ..).falseSince found

theorem reconcileWPA_falseSince (platform : Platform) (replicaCalc : ReplicaCalculatorItf)
    (cluster : Cluster) (wpa : WatermarkPodAutoscaler) :
    ∀ status, Effect.updateStatus status ∈ (reconcileWPA platform replicaCalc cluster wpa).2.2 →
      FalseSince cluster.now status.conditions := by
  unfold reconcileWPA
  split
  · simp
  · exact reconcileScale_falseSince _ _ _ _ _ _

/-- In every status a reconciliation of a valid object writes, a false `AbleToScale` carries the
reconciliation's clock as its transition time, whatever `AbleToScale` was before. -/
theorem Reconcile_stamps_ableToScale_false (platform : Platform)
    (replicaCalc : ReplicaCalculatorItf) (defaulting : Defaulting) (cluster : Cluster)
    (wpaInstance : WatermarkPodAutoscaler)
    (valid : defaulting.checkWPAValidity wpaInstance = none) :
    ∀ status, Effect.updateStatus status ∈
        (Reconcile platform replicaCalc defaulting cluster wpaInstance).2.2 →
      ∀ condition, status.conditions.find? (fun condition => condition.type = ableToScale) =
          some condition →
        condition.status = conditionFalse → condition.lastTransitionTime = cluster.now := by
  have reconciled := reconcileWPA_falseSince platform replicaCalc cluster
    (withDryRunCondition cluster.now wpaInstance)
  unfold Reconcile
  split
  · simp
  · simp
  · split_ifs
    · split <;> simp
    · simp only [valid]
      split
      · simpa using reconciled
      · exact reconciled

set_option maxRecDepth 2000 in
/-- On a cluster that rejects the scale update, the reconciliation writes a status whose
`AbleToScale` is false, stamped with its clock. -/
theorem Reconcile_stamps_ableToScale_false_on_rejected_update :
    exampleDefaulting.checkWPAValidity exampleWpa = none ∧
      Effect.updateStatus (Reconcile .amd64
          ((exampleCalculator ⟨7000, by decide, by decide⟩).toItf .amd64) exampleDefaulting
          rejectingCluster exampleWpa).2.1.status ∈
        (Reconcile .amd64 ((exampleCalculator ⟨7000, by decide, by decide⟩).toItf .amd64)
          exampleDefaulting rejectingCluster exampleWpa).2.2 ∧
      ((Reconcile .amd64 ((exampleCalculator ⟨7000, by decide, by decide⟩).toItf .amd64)
          exampleDefaulting rejectingCluster exampleWpa).2.1.status.conditions.find?
            (fun condition => condition.type = ableToScale)).map Condition.status =
        some conditionFalse ∧
      ∀ status, Effect.updateStatus status ∈
          (Reconcile .amd64 ((exampleCalculator ⟨7000, by decide, by decide⟩).toItf .amd64)
            exampleDefaulting rejectingCluster exampleWpa).2.2 →
        ∀ condition, status.conditions.find? (fun condition => condition.type = ableToScale) =
            some condition →
          condition.status = conditionFalse → condition.lastTransitionTime = rejectingCluster.now :=
  ⟨rfl, by decide, by decide,
    Reconcile_stamps_ableToScale_false .amd64 _ exampleDefaulting _ exampleWpa rfl⟩

end Wpa
