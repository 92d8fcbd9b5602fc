import Mathlib.Data.Finset.Card
import WatermarkPodAutoscaler.ConditionTypes

/-!
# How far the conditions grow

The controller sets four condition types (`controllerConditionTypes`), and only through
`setConditionInList`, which updates the first entry of the type or appends a new one. So an
entry of any other type, one that another client wrote, stays as it is and where it is, and the
list grows by one entry only when one of the four types first appears. `conditionsMeasure` pairs
the two facts: the entries of other types, and the settled length, the length plus the number of
the controller's types the list lacks. Every call of the controller keeps the measure. The
server's storing keeps the settled length, and the other entries of a list already in stored
form, so along every run the list grows by at most four entries
(`runObject_conserves_settledLength`), and from an object the server holds the other entries are
never touched (`runObject_keeps_foreign_conditions`).
-/

namespace Wpa

/-- The conditions of types the controller never sets. -/
def foreignConditions (conditions : List Condition) : List Condition :=
  conditions.filter fun condition => condition.type ∉ controllerConditionTypes

/-- The controller's condition types a list lacks. -/
def missingConditionTypes (conditions : List Condition) : Finset String :=
  controllerConditionTypes.toFinset \ (conditions.map Condition.type).toFinset

/-- The length the list reaches once it holds every type the controller sets. -/
def settledLength (conditions : List Condition) : ℕ :=
  conditions.length + (missingConditionTypes conditions).card

/-- What the controller's calls keep of a condition list. -/
def conditionsMeasure (conditions : List Condition) : List Condition × ℕ :=
  (foreignConditions conditions, settledLength conditions)

section

variable (now : ℤ) (conditionType status reason message : String) {conditions : List Condition}

/-- `setConditionInList` adds its type to the types of the list. -/
theorem types_setConditionInList_toFinset :
    ((setConditionInList now conditions conditionType status reason message).map
        Condition.type).toFinset =
      insert conditionType (conditions.map Condition.type).toFinset := by
  induction conditions with
  | nil => simp [setConditionInList, Condition.zero]
  | cons condition rest ih =>
      by_cases matched : condition.type = conditionType
      · simp [setConditionInList, matched]
      · simp [setConditionInList, matched, ih, Finset.Insert.comm]

/-- On a type the list has, `setConditionInList` updates an entry in place. -/
theorem length_setConditionInList_of_present
    (present : conditionType ∈ conditions.map Condition.type) :
    (setConditionInList now conditions conditionType status reason message).length =
      conditions.length := by
  induction conditions with
  | nil => simp at present
  | cons condition rest ih =>
      by_cases matched : condition.type = conditionType
      · simp [setConditionInList, matched]
      · have later : conditionType ∈ rest.map Condition.type := by
          simpa [Ne.symm matched] using present
        simp [setConditionInList, matched, ih later]

variable {conditionType} (controlled : conditionType ∈ controllerConditionTypes)
include controlled

/-- Setting one of the controller's types leaves the entries of the other types alone. -/
theorem foreignConditions_setConditionInList :
    foreignConditions (setConditionInList now conditions conditionType status reason message) =
      foreignConditions conditions := by
  have other : ∀ entries : List Condition, foreignConditions entries =
      (entries.filter fun condition => condition.type ≠ conditionType).filter
        fun condition => condition.type ∉ controllerConditionTypes := fun entries => by
    rw [foreignConditions, List.filter_filter]
    refine List.filter_congr fun condition _ => ?_
    by_cases foreign : condition.type ∈ controllerConditionTypes
    · simp [foreign]
    · have other : condition.type ≠ conditionType := fun same => foreign (same ▸ controlled)
      simp [foreign, other]
  rw [other, other, filter_ne_setConditionInList]

/-- Setting one of the controller's types keeps the settled length: the list grows exactly when
the type is new, and then the type is no longer missing. -/
theorem settledLength_setConditionInList :
    settledLength (setConditionInList now conditions conditionType status reason message) =
      settledLength conditions := by
  unfold settledLength missingConditionTypes
  rw [types_setConditionInList_toFinset, Finset.sdiff_insert]
  by_cases present : conditionType ∈ conditions.map Condition.type
  · rw [length_setConditionInList_of_present now conditionType status reason message present,
      Finset.erase_eq_of_not_mem (by simp [present])]
  · have absent : ∀ condition ∈ conditions, condition.type ≠ conditionType :=
      fun condition held same => present (same ▸ List.mem_map_of_mem _ held)
    rw [setConditionInList_of_absent now conditionType status reason message absent,
      List.length_append, List.length_singleton, add_assoc, add_comm 1,
      Finset.card_erase_add_one (by simp [controlled, present])]

theorem conditionsMeasure_setConditionInList :
    conditionsMeasure (setConditionInList now conditions conditionType status reason message) =
      conditionsMeasure conditions :=
  Prod.ext (foreignConditions_setConditionInList now status reason message controlled)
    (settledLength_setConditionInList now status reason message controlled)

end

/-- Every call of the controller keeps the measure of the conditions. -/
theorem StatusCall.conditionsMeasure_apply {call : StatusCall} (controlled : call.Controlled)
    (wpa : WatermarkPodAutoscaler) :
    conditionsMeasure (call.apply wpa).status.conditions =
      conditionsMeasure wpa.status.conditions := by
  cases call with
  | setCondition now conditionType status reason message =>
      exact conditionsMeasure_setConditionInList now status reason message controlled
  | setStatus => rfl

/-- Storing keeps the types, so the settled length. -/
theorem settledLength_map_stored (conditions : List Condition) :
    settledLength (conditions.map Condition.stored) = settledLength conditions := by
  simp [settledLength, missingConditionTypes, List.map_map, Function.comp_def]

/-- Storing commutes with taking the entries of other types. -/
theorem foreignConditions_map_stored (conditions : List Condition) :
    foreignConditions (conditions.map Condition.stored) =
      (foreignConditions conditions).map Condition.stored := by
  simp [foreignConditions, List.filter_map, Function.comp_def]

section

variable (platform : Platform) (defaulting : Defaulting)

/-- Along every run from an object the server holds, the server keeps the conditions of types the
controller never sets exactly as they were, in their order: reconciliations neither change, move
nor drop them. -/
theorem runObject_keeps_foreign_conditions (wpa : WatermarkPodAutoscaler)
    (observations : List Observation) (stored : wpa.status.Stored) :
    foreignConditions (runObject platform defaulting wpa observations).status.conditions =
      foreignConditions wpa.status.conditions :=
  runObject_holds platform defaulting
    (fun status => foreignConditions status.conditions = foreignConditions wpa.status.conditions)
    (fun call object controlled kept =>
      (congrArg Prod.fst (call.conditionsMeasure_apply controlled object)).trans kept)
    (fun status kept => by
      dsimp only at kept ⊢
      rw [WatermarkPodAutoscalerStatus.stored_conditions, foreignConditions_map_stored, kept,
        ← foreignConditions_map_stored, ← WatermarkPodAutoscalerStatus.stored_conditions, stored])
    rfl observations

/-- The example object holding a condition another controller wrote, at a whole second. -/
def auditedWpa : WatermarkPodAutoscaler :=
  { exampleWpa with
    status := { exampleWpa.status with
      conditions := [⟨"Audited", conditionTrue, 7 * second, "PolicyChecked",
        "the admission policy accepted the object"⟩] } }

/-- The audit condition survives a reconciliation that scales the target and writes the status. -/
theorem runObject_keeps_foreign_conditions_after_scaling :
    auditedWpa.status.Stored ∧
      foreignConditions (runObject .amd64 exampleDefaulting auditedWpa
          [scaledObservation]).status.conditions =
        foreignConditions auditedWpa.status.conditions :=
  ⟨by decide, runObject_keeps_foreign_conditions .amd64 exampleDefaulting _ _ (by decide)⟩

/-- Along every run, the length of the server's condition list plus the number of the
controller's types it lacks stays the same: the list grows by one entry exactly when one of the
four types first appears, so by at most four entries over any run. -/
theorem runObject_conserves_settledLength (wpa : WatermarkPodAutoscaler)
    (observations : List Observation) :
    (runObject platform defaulting wpa observations).status.conditions.length +
        (missingConditionTypes
          (runObject platform defaulting wpa observations).status.conditions).card =
      wpa.status.conditions.length + (missingConditionTypes wpa.status.conditions).card :=
  runObject_holds platform defaulting
    (fun status => settledLength status.conditions = settledLength wpa.status.conditions)
    (fun call object controlled kept =>
      (congrArg Prod.snd (call.conditionsMeasure_apply controlled object)).trans kept)
    (fun _ kept => (settledLength_map_stored _).trans kept)
    rfl observations

end

end Wpa
