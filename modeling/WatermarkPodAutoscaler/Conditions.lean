import WatermarkPodAutoscaler.Api
import Mathlib.Data.List.Nodup

/-!
# Status conditions

`setConditionInList` scans the list for the first entry of the requested type and breaks
there; when none is found it appends a zero entry of that type. The found (or new) entry then
gets the new status, reason and message, and its transition time moves to the current clock only
when its status changes. The recursion below walks the list to the same first match, and its
`nil` case is the append; the zero entry's empty status differs from every status the
controller sets, so a new entry always takes the current time.

`fmt.Sprintf(message, args...)` is done by the callers: each passes its message already
formatted.

On a list of distinct types the first match is the only match: the entry of the type is updated
in place and every other entry is kept (`setConditionInList_of_present`). Without an entry of the
type the updated zero entry is appended (`setConditionInList_of_absent`).
-/

namespace Wpa

/-- The entry `setConditionInList` writes, from the one it found. -/
def Condition.update (now : ℤ) (status reason message : String) (existing : Condition) :
    Condition :=
  { existing with
    lastTransitionTime := if existing.status ≠ status then now else existing.lastTransitionTime
    status := status
    reason := reason
    message := message }

/-- The zero `HorizontalPodAutoscalerCondition` of a type, as `append` creates it. -/
def Condition.zero (conditionType : String) : Condition := ⟨conditionType, "", 0, "", ""⟩

/-- Updates the first condition of the type, or appends a new one; the transition time moves only
when the status changes. -/
def setConditionInList (now : ℤ) :
    List Condition → (conditionType status reason message : String) → List Condition
  | [], conditionType, status, reason, message =>
      [(Condition.zero conditionType).update now status reason message]
  | condition :: rest, conditionType, status, reason, message =>
      if condition.type = conditionType then condition.update now status reason message :: rest
      else condition :: setConditionInList now rest conditionType status reason message

/-- `setCondition`: `setConditionInList` on the object's status. -/
def setCondition (now : ℤ) (wpa : WatermarkPodAutoscaler)
    (conditionType status reason message : String) : WatermarkPodAutoscaler :=
  { wpa with status := { wpa.status with
      conditions := setConditionInList now wpa.status.conditions conditionType status reason
        message } }

@[simp] theorem Condition.update_type (now : ℤ) (status reason message : String)
    (existing : Condition) : (existing.update now status reason message).type = existing.type :=
  rfl

@[simp] theorem setCondition_spec (now : ℤ) (wpa : WatermarkPodAutoscaler)
    (conditionType status reason message : String) :
    (setCondition now wpa conditionType status reason message).spec = wpa.spec := rfl

@[simp] theorem setCondition_name (now : ℤ) (wpa : WatermarkPodAutoscaler)
    (conditionType status reason message : String) :
    (setCondition now wpa conditionType status reason message).name = wpa.name := rfl

@[simp] theorem setCondition_metaNamespace (now : ℤ) (wpa : WatermarkPodAutoscaler)
    (conditionType status reason message : String) :
    (setCondition now wpa conditionType status reason message).metaNamespace =
      wpa.metaNamespace := rfl

/-- Setting a condition touches no status field but the conditions. -/
theorem setCondition_status (now : ℤ) (wpa : WatermarkPodAutoscaler)
    (conditionType status reason message : String) :
    (setCondition now wpa conditionType status reason message).status =
      { wpa.status with
        conditions := setConditionInList now wpa.status.conditions conditionType status reason
          message } := rfl

@[simp] theorem setCondition_currentReplicas (now : ℤ) (wpa : WatermarkPodAutoscaler)
    (conditionType status reason message : String) :
    (setCondition now wpa conditionType status reason message).status.currentReplicas =
      wpa.status.currentReplicas := rfl

@[simp] theorem setCondition_desiredReplicas (now : ℤ) (wpa : WatermarkPodAutoscaler)
    (conditionType status reason message : String) :
    (setCondition now wpa conditionType status reason message).status.desiredReplicas =
      wpa.status.desiredReplicas := rfl

@[simp] theorem setCondition_currentMetrics (now : ℤ) (wpa : WatermarkPodAutoscaler)
    (conditionType status reason message : String) :
    (setCondition now wpa conditionType status reason message).status.currentMetrics =
      wpa.status.currentMetrics := rfl

@[simp] theorem setCondition_lastScaleTime (now : ℤ) (wpa : WatermarkPodAutoscaler)
    (conditionType status reason message : String) :
    (setCondition now wpa conditionType status reason message).status.lastScaleTime =
      wpa.status.lastScaleTime := rfl

@[simp] theorem setCondition_conditions (now : ℤ) (wpa : WatermarkPodAutoscaler)
    (conditionType status reason message : String) :
    (setCondition now wpa conditionType status reason message).status.conditions =
      setConditionInList now wpa.status.conditions conditionType status reason message := rfl

section

variable (now : ℤ) (conditionType status reason message : String) {conditions : List Condition}

theorem setConditionInList_of_absent
    (absent : ∀ condition ∈ conditions, condition.type ≠ conditionType) :
    setConditionInList now conditions conditionType status reason message =
      conditions ++ [(Condition.zero conditionType).update now status reason message] := by
  induction conditions with
  | nil => rfl
  | cons condition rest ih =>
      rw [setConditionInList, if_neg (absent condition (List.mem_cons_self _ _)),
        ih fun other member => absent other (List.mem_cons_of_mem _ member), List.cons_append]

theorem setConditionInList_of_present (distinct : (conditions.map Condition.type).Nodup)
    (present : ∃ condition ∈ conditions, condition.type = conditionType) :
    setConditionInList now conditions conditionType status reason message =
      conditions.map fun condition => if condition.type = conditionType then
        condition.update now status reason message else condition := by
  induction conditions with
  | nil => simp at present
  | cons condition rest ih =>
      simp only [List.map_cons, List.nodup_cons, List.mem_map, not_exists, not_and] at distinct
      by_cases matched : condition.type = conditionType
      · have others : ∀ other ∈ rest, other.type ≠ conditionType :=
          fun other member same => distinct.1 other member (same.trans matched.symm)
        rw [setConditionInList, if_pos matched, List.map_cons, if_pos matched,
          List.map_congr_left fun other member => if_neg (others other member), List.map_id']
      · have later : ∃ other ∈ rest, other.type = conditionType := by
          obtain ⟨other, member, same⟩ := present
          rcases List.mem_cons.mp member with rfl | member
          exacts [absurd same matched, ⟨other, member, same⟩]
        rw [setConditionInList, if_neg matched, List.map_cons, if_neg matched, ih distinct.2 later]

/-- The entries of other types are kept, in their order. -/
theorem filter_ne_setConditionInList :
    (setConditionInList now conditions conditionType status reason message).filter
        (fun condition => condition.type ≠ conditionType) =
      conditions.filter fun condition => condition.type ≠ conditionType := by
  induction conditions with
  | nil => simp [setConditionInList, Condition.zero]
  | cons condition rest ih =>
      by_cases matched : condition.type = conditionType
      · rw [setConditionInList, if_pos matched, List.filter_cons_of_neg (by simpa using matched),
          List.filter_cons_of_neg (by simpa using matched)]
      · rw [setConditionInList, if_neg matched, List.filter_cons_of_pos (by simpa using matched),
          List.filter_cons_of_pos (by simpa using matched), ih]

/-- On distinct types, one entry has the type afterwards: the first one of the type, or the zero
entry, updated. -/
theorem filter_eq_setConditionInList (distinct : (conditions.map Condition.type).Nodup) :
    (setConditionInList now conditions conditionType status reason message).filter
        (fun condition => condition.type = conditionType) =
      [((conditions.find? fun condition => condition.type = conditionType).getD
        (Condition.zero conditionType)).update now status reason message] := by
  induction conditions with
  | nil => simp [setConditionInList, Condition.zero]
  | cons condition rest ih =>
      simp only [List.map_cons, List.nodup_cons, List.mem_map, not_exists, not_and] at distinct
      by_cases matched : condition.type = conditionType
      · have others : ∀ other ∈ rest, ¬other.type = conditionType :=
          fun other member same => distinct.1 other member (same.trans matched.symm)
        rw [setConditionInList, if_pos matched, List.filter_cons_of_pos (by simpa using matched),
          List.filter_eq_nil_iff.mpr fun other member => by simpa using others other member,
          List.find?_cons_of_pos _ (by simpa using matched), Option.getD_some]
      · rw [setConditionInList, if_neg matched, List.filter_cons_of_neg (by simpa using matched),
          List.find?_cons_of_neg _ (by simpa using matched), ih distinct.2]

/-- The types after `setConditionInList`: the same list, with the new type appended when it was
absent. -/
theorem types_setConditionInList (distinct : (conditions.map Condition.type).Nodup) :
    (setConditionInList now conditions conditionType status reason message).map Condition.type =
      if ∃ condition ∈ conditions, condition.type = conditionType then
        conditions.map Condition.type
      else conditions.map Condition.type ++ [conditionType] := by
  split_ifs with present
  · rw [setConditionInList_of_present now conditionType status reason message distinct present,
      List.map_map]
    exact List.map_congr_left fun condition _ => by
      simp only [Function.comp_apply]
      split_ifs <;> rfl
  · push_neg at present
    rw [setConditionInList_of_absent now conditionType status reason message present]
    simp [Condition.zero]

/-- On distinct types, an entry's transition time moves only when it is the entry of the type and
the update changes its status. -/
theorem lastTransitionTime_setConditionInList (distinct : (conditions.map Condition.type).Nodup) :
    ∀ before ∈ conditions,
      ∀ after ∈ setConditionInList now conditions conditionType status reason message,
        after.type = before.type → after.lastTransitionTime ≠ before.lastTransitionTime →
          before.type = conditionType ∧ before.status ≠ status := by
  intro before held after written sameType moved
  have sameEntry := List.inj_on_of_nodup_map distinct
  by_cases present : ∃ condition ∈ conditions, condition.type = conditionType
  · rw [setConditionInList_of_present now conditionType status reason message distinct present,
      List.mem_map] at written
    obtain ⟨source, sourceHeld, rfl⟩ := written
    split_ifs at sameType moved with matched
    · obtain rfl : source = before := sameEntry sourceHeld held sameType
      exact ⟨matched, fun unchanged => moved (by simp [Condition.update, unchanged])⟩
    · exact absurd (sameEntry sourceHeld held sameType ▸ rfl) moved
  · push_neg at present
    rw [setConditionInList_of_absent now conditionType status reason message present,
      List.mem_append, List.mem_singleton] at written
    rcases written with kept | rfl
    · exact absurd (sameEntry kept held sameType ▸ rfl) moved
    · exact absurd sameType.symm (present before held)

theorem setConditionInList_nodup (distinct : (conditions.map Condition.type).Nodup) :
    ((setConditionInList now conditions conditionType status reason message).map
      Condition.type).Nodup := by
  rw [types_setConditionInList now conditionType status reason message distinct]
  split_ifs with present
  · exact distinct
  · push_neg at present
    exact distinct.append (List.nodup_singleton _) fun type member same => by
      obtain ⟨condition, held, rfl⟩ := List.mem_map.mp member
      exact present condition held (List.mem_singleton.mp same)

end

/-- `after` is `before` with other status conditions, and no other change. -/
def ConditionsOnly (before after : WatermarkPodAutoscaler) : Prop :=
  after = { before with status := { before.status with conditions := after.status.conditions } }

namespace ConditionsOnly

variable {before middle after : WatermarkPodAutoscaler}

@[refl] theorem refl (wpa : WatermarkPodAutoscaler) : ConditionsOnly wpa wpa := rfl

@[trans] theorem trans (first : ConditionsOnly before middle) (second : ConditionsOnly middle after) :
    ConditionsOnly before after := by
  rw [ConditionsOnly] at *
  rw [second, first]

@[symm] theorem symm (changed : ConditionsOnly before after) : ConditionsOnly after before := by
  rw [ConditionsOnly] at *
  rw [changed]

theorem spec_eq (changed : ConditionsOnly before after) : after.spec = before.spec := by
  rw [changed]

theorem lastScaleTime_eq (changed : ConditionsOnly before after) :
    after.status.lastScaleTime = before.status.lastScaleTime := by
  rw [changed]

theorem promLabels_eq (changed : ConditionsOnly before after) :
    after.promLabels = before.promLabels := by
  rw [changed]
  rfl

end ConditionsOnly

theorem setCondition_conditionsOnly (now : ℤ) (wpa : WatermarkPodAutoscaler)
    (conditionType status reason message : String) :
    ConditionsOnly wpa (setCondition now wpa conditionType status reason message) := rfl

/-- What the decision pipeline may do to an object and the world: change the object's conditions,
and report through events and gauges. -/
def ReportsOnly (wpa : WatermarkPodAutoscaler) (result : WatermarkPodAutoscaler × List Effect) :
    Prop :=
  ConditionsOnly wpa result.1 ∧ ∀ effect ∈ result.2, effect.isReport

theorem ReportsOnly.append {wpa middle after : WatermarkPodAutoscaler}
    {effects effects' : List Effect} (first : ReportsOnly wpa (middle, effects))
    (second : ReportsOnly middle (after, effects')) : ReportsOnly wpa (after, effects ++ effects') :=
  ⟨first.1.trans second.1, by simpa [or_imp, forall_and] using And.intro first.2 second.2⟩

end Wpa
