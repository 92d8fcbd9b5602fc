import WatermarkPodAutoscaler.Bounds
import WatermarkPodAutoscaler.Lockstep

/-!
# Dry run against the live run

A dry run differs from the live run in one branch: once the gate passes, it records the
decision in the status and writes it, where the live run writes the scale and then the status.
Everything else reads the object only through its spec (but `DryRun`), its name and namespace,
and the status fields, and it changes the object only by setting conditions and status fields.

`Twins dry live` relates the two objects along a reconciliation: the same object but for
`spec.DryRun` and the conditions, whose lists agree once the `DryRun` entries are dropped and
the reason and message of `AbleToScale` are blanked (`conditionsView`). The metric pipeline keeps
the relation (`Twins.lockstep`), and so does the rescale branch, where the live run sets
`AbleToScale` a second time with the same status.

The error a run returns depends on whether its status write fails, and the write is skipped when
the status is the snapshot taken before the decision. With every status write succeeding the two
runs return the same error. A failed write separates them only when one run skips it and the
other does not. Up to the decision the two runs are closer than twins: `Mirror` keeps their
condition lists equal but for the `DryRun` entries, which stand in the same places and never
change, so one run's status is its snapshot exactly when the other's is. A rescale stamps the
clock as the last scale time, so it writes in both runs unless the snapshot already carries the
clock. `TwinFinish` collects what the stages after the pipeline need of either relation. So the
dry run ends on the live run's twin whenever status writes succeed or the object's last scale
time is not the clock (`Reconcile_dryRun_matches_live`).
-/

namespace Wpa

/-- An `AbleToScale` entry with its reason and message blanked; other entries as they are. -/
def Condition.blankAbleToScale (condition : Condition) : Condition :=
  if condition.type = ableToScale then { condition with reason := "", message := "" }
  else condition

/-- The conditions without their `DryRun` entries, with the reason and message of `AbleToScale`
blanked. -/
def conditionsView (conditions : List Condition) : List Condition :=
  (conditions.filter fun condition => condition.type ≠ dryRunCondition).map
    Condition.blankAbleToScale

namespace Condition

@[simp] theorem blankAbleToScale_type (condition : Condition) :
    condition.blankAbleToScale.type = condition.type := by
  unfold blankAbleToScale
  split_ifs <;> rfl

@[simp] theorem blankAbleToScale_blankAbleToScale (condition : Condition) :
    condition.blankAbleToScale.blankAbleToScale = condition.blankAbleToScale := by
  unfold blankAbleToScale
  split_ifs <;> simp_all

/-- The blanked entry after an update depends on the entry only through its blanked form. -/
theorem blankAbleToScale_update (now : ℤ) (status reason message : String)
    (condition : Condition) :
    (condition.update now status reason message).blankAbleToScale =
      (condition.blankAbleToScale.update now status reason message).blankAbleToScale := by
  unfold blankAbleToScale update
  split_ifs <;> simp_all

/-- Updating an `AbleToScale` entry twice with the same status leaves the blanked entry of the
first update. -/
theorem blankAbleToScale_update_update (now : ℤ) (status reason message reason' message' : String)
    {condition : Condition} (able : condition.type = ableToScale) :
    ((condition.update now status reason message).update now status reason'
        message').blankAbleToScale =
      (condition.update now status reason message).blankAbleToScale := by
  simp [blankAbleToScale, update, able]

end Condition

@[simp] theorem conditionsView_nil : conditionsView [] = [] := rfl

theorem conditionsView_cons (condition : Condition) (conditions : List Condition) :
    conditionsView (condition :: conditions) =
      if condition.type = dryRunCondition then conditionsView conditions
      else condition.blankAbleToScale :: conditionsView conditions := by
  by_cases dryRun : condition.type = dryRunCondition <;>
    simp [conditionsView, List.filter_cons, dryRun]

theorem conditionsView_conditionsView (conditions : List Condition) :
    conditionsView (conditionsView conditions) = conditionsView conditions := by
  induction conditions with
  | nil => rfl
  | cons condition conditions ih =>
      rw [conditionsView_cons]
      split_ifs with dryRun
      · exact ih
      · rw [conditionsView_cons, if_neg (by simpa using dryRun), ih,
          Condition.blankAbleToScale_blankAbleToScale]

section

variable (now : ℤ) (status reason message : String)

/-- Setting a condition other than `DryRun` commutes with the view. -/
theorem conditionsView_setConditionInList {conditionType : String}
    (notDryRun : conditionType ≠ dryRunCondition) (conditions : List Condition) :
    conditionsView (setConditionInList now conditions conditionType status reason message) =
      conditionsView (setConditionInList now (conditionsView conditions) conditionType status
        reason message) := by
  induction conditions with
  | nil => rfl
  | cons condition conditions ih =>
      by_cases dryRun : condition.type = dryRunCondition
      · have other : condition.type ≠ conditionType := dryRun ▸ notDryRun.symm
        rw [setConditionInList, if_neg other, conditionsView_cons, if_pos dryRun,
          conditionsView_cons, if_pos dryRun, ih]
      · by_cases found : condition.type = conditionType
        · rw [setConditionInList, if_pos found, conditionsView_cons, conditionsView_cons,
            if_neg (by simpa using dryRun), if_neg dryRun, setConditionInList,
            if_pos (by simpa using found), conditionsView_cons, if_neg (by simpa using dryRun),
            conditionsView_conditionsView, ← Condition.blankAbleToScale_update]
        · rw [setConditionInList, if_neg found, conditionsView_cons, if_neg dryRun, ih,
            conditionsView_cons, if_neg dryRun, setConditionInList,
            if_neg (by simpa using found), conditionsView_cons, if_neg (by simpa using dryRun),
            Condition.blankAbleToScale_blankAbleToScale]

/-- Setting the `DryRun` condition leaves the view as it was. -/
theorem conditionsView_setConditionInList_dryRun (conditions : List Condition) :
    conditionsView (setConditionInList now conditions dryRunCondition status reason message) =
      conditionsView conditions := by
  induction conditions with
  | nil => rfl
  | cons condition conditions ih =>
      by_cases dryRun : condition.type = dryRunCondition
      · rw [setConditionInList, if_pos dryRun, conditionsView_cons, if_pos (by simpa using dryRun),
          conditionsView_cons, if_pos dryRun]
      · rw [setConditionInList, if_neg dryRun, conditionsView_cons, if_neg dryRun, ih,
          conditionsView_cons, if_neg dryRun]

/-- Setting `AbleToScale` a second time with the same status leaves the view of the first. -/
theorem conditionsView_setConditionInList_ableToScale_twice (reason' message' : String)
    (conditions : List Condition) :
    conditionsView (setConditionInList now
        (setConditionInList now conditions ableToScale status reason message) ableToScale status
        reason' message') =
      conditionsView (setConditionInList now conditions ableToScale status reason message) := by
  induction conditions with
  | nil =>
      simp only [setConditionInList, Condition.update_type, Condition.zero, ↓reduceIte,
        conditionsView_cons, conditionsView_nil]
      rw [Condition.blankAbleToScale_update_update _ _ _ _ _ _ rfl]
  | cons condition conditions ih =>
      by_cases able : condition.type = ableToScale
      · simp only [setConditionInList, able, Condition.update_type, ↓reduceIte,
          conditionsView_cons]
        rw [Condition.blankAbleToScale_update_update _ _ _ _ _ _ able]
      · simp only [setConditionInList, able, ↓reduceIte, conditionsView_cons, ih]

end

/-- Two statuses that agree but for the `DryRun` condition and the reason and message of
`AbleToScale`. -/
structure StatusTwins (status status' : WatermarkPodAutoscalerStatus) : Prop where
  currentReplicas : status.currentReplicas = status'.currentReplicas
  desiredReplicas : status.desiredReplicas = status'.desiredReplicas
  currentMetrics : status.currentMetrics = status'.currentMetrics
  lastScaleTime : status.lastScaleTime = status'.lastScaleTime
  conditions : conditionsView status.conditions = conditionsView status'.conditions

/-- The dry run's object and the live run's: the same object but for `spec.DryRun` and a twin
status. -/
def Twins (dry live : WatermarkPodAutoscaler) : Prop :=
  ∃ (dryRun : Bool) (status : WatermarkPodAutoscalerStatus),
    dry = { live with spec := { live.spec with dryRun := dryRun }, status := status } ∧
      StatusTwins status live.status

namespace Twins

variable {dry live : WatermarkPodAutoscaler} (now : ℤ)

theorem eq_update (twins : Twins dry live) :
    dry = { live with spec := { live.spec with dryRun := dry.spec.dryRun }, status := dry.status } := by
  obtain ⟨dryRun, status, rfl, -⟩ := twins
  rfl

theorem status (twins : Twins dry live) : StatusTwins dry.status live.status := by
  obtain ⟨dryRun, status, rfl, statusTwins⟩ := twins
  exact statusTwins

theorem setCondition (twins : Twins dry live) {conditionType : String}
    (notDryRun : conditionType ≠ dryRunCondition) (status reason message : String) :
    Twins (Wpa.setCondition now dry conditionType status reason message)
      (Wpa.setCondition now live conditionType status reason message) := by
  obtain ⟨dryRun, status, rfl, statusTwins⟩ := twins
  refine ⟨dryRun, _, rfl, statusTwins.currentReplicas, statusTwins.desiredReplicas,
    statusTwins.currentMetrics, statusTwins.lastScaleTime, ?_⟩
  simp only [setCondition_conditions]
  rw [conditionsView_setConditionInList _ _ _ _ notDryRun, statusTwins.conditions,
    ← conditionsView_setConditionInList _ _ _ _ notDryRun]

/-- Each run may set its own `DryRun` condition. -/
theorem setCondition_dryRun (twins : Twins dry live)
    (status reason message status' reason' message' : String) :
    Twins (Wpa.setCondition now dry dryRunCondition status reason message)
      (Wpa.setCondition now live dryRunCondition status' reason' message') := by
  obtain ⟨dryRun, status, rfl, statusTwins⟩ := twins
  refine ⟨dryRun, _, rfl, statusTwins.currentReplicas, statusTwins.desiredReplicas,
    statusTwins.currentMetrics, statusTwins.lastScaleTime, ?_⟩
  simp only [setCondition_conditions, conditionsView_setConditionInList_dryRun,
    statusTwins.conditions]

/-- The live run may set `AbleToScale` again with the same status. -/
theorem setCondition_ableToScale_again {status reason message : String}
    (twins : Twins dry (Wpa.setCondition now live ableToScale status reason message))
    (reason' message' : String) :
    Twins dry (Wpa.setCondition now (Wpa.setCondition now live ableToScale status reason message)
      ableToScale status reason' message') := by
  obtain ⟨dryRun, status, equal, statusTwins⟩ := twins
  refine ⟨dryRun, status, equal, statusTwins.currentReplicas, statusTwins.desiredReplicas,
    statusTwins.currentMetrics, statusTwins.lastScaleTime, ?_⟩
  rw [statusTwins.conditions]
  simp only [setCondition_conditions, conditionsView_setConditionInList_ableToScale_twice]

theorem setStatus (twins : Twins dry live) (currentReplicas desiredReplicas : Int32)
    (metricStatuses : List MetricStatus) (rescale : Bool) :
    Twins (Wpa.setStatus now dry currentReplicas desiredReplicas metricStatuses rescale)
      (Wpa.setStatus now live currentReplicas desiredReplicas metricStatuses rescale) := by
  obtain ⟨dryRun, status, rfl, statusTwins⟩ := twins
  exact ⟨dryRun, _, rfl, rfl, rfl, rfl, by simp [setStatus, statusTwins.lastScaleTime],
    statusTwins.conditions⟩

end Twins

theorem StatusTwins.refl (status : WatermarkPodAutoscalerStatus) : StatusTwins status status :=
  ⟨rfl, rfl, rfl, rfl, rfl⟩

theorem Twins.lockstep : Lockstep Twins where
  eq_update twins := ⟨_, _, twins.eq_update⟩
  lastScaleTime_eq twins := twins.status.lastScaleTime
  setCondition now _ notDryRun _ _ _ twins := twins.setCondition now notDryRun ..

/-- The conditions with each `DryRun` entry blotted out where it stands. -/
def conditionsSkeleton (conditions : List Condition) : List (Option Condition) :=
  conditions.map fun condition => if condition.type = dryRunCondition then none else some condition

/-- The `DryRun` entries of the conditions, in order. -/
def dryRunEntries (conditions : List Condition) : List Condition :=
  conditions.filter fun condition => condition.type = dryRunCondition

@[simp] theorem conditionsSkeleton_nil : conditionsSkeleton [] = [] := rfl

@[simp] theorem conditionsSkeleton_cons (condition : Condition) (conditions : List Condition) :
    conditionsSkeleton (condition :: conditions) =
      (if condition.type = dryRunCondition then none else some condition) ::
        conditionsSkeleton conditions := rfl

@[simp] theorem dryRunEntries_nil : dryRunEntries [] = [] := rfl

@[simp] theorem dryRunEntries_cons (condition : Condition) (conditions : List Condition) :
    dryRunEntries (condition :: conditions) =
      if condition.type = dryRunCondition then condition :: dryRunEntries conditions
      else dryRunEntries conditions := by
  by_cases dryRun : condition.type = dryRunCondition <;> simp [dryRunEntries, dryRun]

/-- Two entries in the same place of two skeletons are both `DryRun` entries, or the same entry of
another type. -/
theorem Condition.dryRun_or_eq_of_skeleton {condition condition' : Condition}
    (same : (if condition.type = dryRunCondition then none else some condition) =
      if condition'.type = dryRunCondition then none else some condition') :
    condition.type = dryRunCondition ∧ condition'.type = dryRunCondition ∨
      condition.type ≠ dryRunCondition ∧ condition = condition' := by
  split_ifs at same with dryRun dryRun' <;> simp_all

/-- A list is its skeleton with its `DryRun` entries put back in the blotted places. -/
theorem eq_of_conditionsSkeleton_eq {conditions conditions' : List Condition}
    (skeleton : conditionsSkeleton conditions = conditionsSkeleton conditions')
    (entries : dryRunEntries conditions = dryRunEntries conditions') : conditions = conditions' := by
  induction conditions generalizing conditions' with
  | nil => cases conditions' with
    | nil => rfl
    | cons => cases skeleton
  | cons condition rest ih =>
      cases conditions' with
      | nil => cases skeleton
      | cons condition' rest' =>
          rw [conditionsSkeleton_cons, conditionsSkeleton_cons, List.cons.injEq] at skeleton
          rcases Condition.dryRun_or_eq_of_skeleton skeleton.1 with ⟨dryRun, dryRun'⟩ | ⟨other, rfl⟩
          · rw [dryRunEntries_cons, dryRunEntries_cons, if_pos dryRun, if_pos dryRun',
              List.cons.injEq] at entries
            rw [entries.1, ih skeleton.2 entries.2]
          · rw [dryRunEntries_cons, dryRunEntries_cons, if_neg other, if_neg other] at entries
            rw [ih skeleton.2 entries]

/-- The view of the conditions is read off their skeleton. -/
theorem conditionsView_eq_of_skeleton {conditions conditions' : List Condition}
    (skeleton : conditionsSkeleton conditions = conditionsSkeleton conditions') :
    conditionsView conditions = conditionsView conditions' := by
  have view (entries : List Condition) : conditionsView entries =
      ((conditionsSkeleton entries).filterMap id).map Condition.blankAbleToScale := by
    induction entries with
    | nil => rfl
    | cons condition rest ih =>
        rw [conditionsView_cons, conditionsSkeleton_cons]
        split_ifs <;> simp [ih]
  rw [view, view, skeleton]

section

variable (now : ℤ) (status reason message : String) {conditionType : String}
  (notDryRun : conditionType ≠ dryRunCondition)

include notDryRun

/-- Setting a condition other than `DryRun` on two lists of one skeleton leaves them of one
skeleton. -/
theorem conditionsSkeleton_setConditionInList {conditions conditions' : List Condition}
    (skeleton : conditionsSkeleton conditions = conditionsSkeleton conditions') :
    conditionsSkeleton (setConditionInList now conditions conditionType status reason message) =
      conditionsSkeleton (setConditionInList now conditions' conditionType status reason message)
    := by
  induction conditions generalizing conditions' with
  | nil => cases conditions' with
    | nil => rfl
    | cons => cases skeleton
  | cons condition rest ih =>
      cases conditions' with
      | nil => cases skeleton
      | cons condition' rest' =>
          rw [conditionsSkeleton_cons, conditionsSkeleton_cons, List.cons.injEq] at skeleton
          rcases Condition.dryRun_or_eq_of_skeleton skeleton.1 with ⟨dryRun, dryRun'⟩ | ⟨-, rfl⟩
          · rw [setConditionInList, if_neg (dryRun ▸ notDryRun.symm), setConditionInList,
              if_neg (dryRun' ▸ notDryRun.symm), conditionsSkeleton_cons, conditionsSkeleton_cons,
              if_pos dryRun, if_pos dryRun', ih skeleton.2]
          · by_cases found : condition.type = conditionType
            · rw [setConditionInList, if_pos found, setConditionInList, if_pos found,
                conditionsSkeleton_cons, conditionsSkeleton_cons, skeleton.2]
            · rw [setConditionInList, if_neg found, setConditionInList, if_neg found,
                conditionsSkeleton_cons, conditionsSkeleton_cons, ih skeleton.2]

/-- Setting a condition other than `DryRun` keeps the `DryRun` entries. -/
theorem dryRunEntries_setConditionInList (conditions : List Condition) :
    dryRunEntries (setConditionInList now conditions conditionType status reason message) =
      dryRunEntries conditions := by
  induction conditions with
  | nil => simp [setConditionInList, Condition.zero, notDryRun]
  | cons condition rest ih =>
      by_cases found : condition.type = conditionType
      · have other : condition.type ≠ dryRunCondition := found ▸ notDryRun
        simp [setConditionInList, found, other, notDryRun]
      · simp only [setConditionInList, found, ↓reduceIte, dryRunEntries_cons, ih]

end

/-- Setting the `DryRun` condition leaves the skeleton, whatever its status, reason and
message. -/
theorem conditionsSkeleton_setConditionInList_dryRun (now : ℤ)
    (status reason message status' reason' message' : String) (conditions : List Condition) :
    conditionsSkeleton (setConditionInList now conditions dryRunCondition status reason message) =
      conditionsSkeleton (setConditionInList now conditions dryRunCondition status' reason'
        message') := by
  induction conditions with
  | nil => simp [setConditionInList, Condition.zero]
  | cons condition rest ih =>
      by_cases dryRun : condition.type = dryRunCondition
      · simp [setConditionInList, dryRun]
      · simp only [setConditionInList, dryRun, ↓reduceIte, conditionsSkeleton_cons, ih]

/-- Two statuses that agree but for the `DryRun` entries of their conditions, which stand in the
same places and are `entries` and `entries'`. -/
structure StatusMirror (entries entries' : List Condition)
    (status status' : WatermarkPodAutoscalerStatus) : Prop where
  currentReplicas : status.currentReplicas = status'.currentReplicas
  desiredReplicas : status.desiredReplicas = status'.desiredReplicas
  currentMetrics : status.currentMetrics = status'.currentMetrics
  lastScaleTime : status.lastScaleTime = status'.lastScaleTime
  skeleton : conditionsSkeleton status.conditions = conditionsSkeleton status'.conditions
  dryEntries : dryRunEntries status.conditions = entries
  liveEntries : dryRunEntries status'.conditions = entries'

namespace StatusMirror

variable {entries entries' : List Condition} {status status' other : WatermarkPodAutoscalerStatus}

theorem symm (mirror : StatusMirror entries entries' status status') :
    StatusMirror entries' entries status' status :=
  ⟨mirror.currentReplicas.symm, mirror.desiredReplicas.symm, mirror.currentMetrics.symm,
    mirror.lastScaleTime.symm, mirror.skeleton.symm, mirror.liveEntries, mirror.dryEntries⟩

/-- The mirror of a status is unique. -/
theorem unique (mirror : StatusMirror entries entries' status status')
    (mirror' : StatusMirror entries entries' status other) : status' = other := by
  have conditions := eq_of_conditionsSkeleton_eq (mirror.skeleton.symm.trans mirror'.skeleton)
    (mirror.liveEntries.trans mirror'.liveEntries.symm)
  obtain ⟨⟩ := status'
  obtain ⟨⟩ := other
  obtain ⟨rfl, rfl, rfl, rfl, -⟩ := mirror
  obtain ⟨rfl, rfl, rfl, rfl, -⟩ := mirror'
  dsimp only at conditions
  rw [conditions]

/-- One status of a pair is the other's snapshot exactly when its mirror is its mirror's. -/
theorem eq_iff {original original' : WatermarkPodAutoscalerStatus}
    (originals : StatusMirror entries entries' original original')
    (mirror : StatusMirror entries entries' status status') : original = status ↔ original' = status' :=
  ⟨fun same => originals.unique (same ▸ mirror), fun same => originals.symm.unique (same ▸ mirror.symm)⟩

theorem statusTwins (mirror : StatusMirror entries entries' status status') :
    StatusTwins status status' :=
  ⟨mirror.currentReplicas, mirror.desiredReplicas, mirror.currentMetrics, mirror.lastScaleTime,
    conditionsView_eq_of_skeleton mirror.skeleton⟩

end StatusMirror

/-- The dry run's object and the live run's up to the decision: the same object but for
`spec.DryRun` and a mirrored status. -/
def Mirror (entries entries' : List Condition) (dry live : WatermarkPodAutoscaler) : Prop :=
  ∃ (dryRun : Bool) (status : WatermarkPodAutoscalerStatus),
    dry = { live with spec := { live.spec with dryRun := dryRun }, status := status } ∧
      StatusMirror entries entries' status live.status

namespace Mirror

variable {entries entries' : List Condition} {dry live : WatermarkPodAutoscaler}

theorem status (mirror : Mirror entries entries' dry live) :
    StatusMirror entries entries' dry.status live.status := by
  obtain ⟨dryRun, status, rfl, statusMirror⟩ := mirror
  exact statusMirror

theorem twins (mirror : Mirror entries entries' dry live) : Twins dry live := by
  obtain ⟨dryRun, status, rfl, statusMirror⟩ := mirror
  exact ⟨dryRun, status, rfl, statusMirror.statusTwins⟩

theorem lockstep : Lockstep (Mirror entries entries') where
  eq_update mirror := ⟨_, _, mirror.twins.eq_update⟩
  lastScaleTime_eq mirror := mirror.status.lastScaleTime
  setCondition now _ notDryRun _ _ _ mirror := by
    obtain ⟨dryRun, status, rfl, statusMirror⟩ := mirror
    exact ⟨dryRun, _, rfl, statusMirror.currentReplicas, statusMirror.desiredReplicas,
      statusMirror.currentMetrics, statusMirror.lastScaleTime,
      conditionsSkeleton_setConditionInList _ _ _ _ notDryRun statusMirror.skeleton,
      (dryRunEntries_setConditionInList _ _ _ _ notDryRun _).trans statusMirror.dryEntries,
      (dryRunEntries_setConditionInList _ _ _ _ notDryRun _).trans statusMirror.liveEntries⟩

theorem setStatus (now : ℤ) (currentReplicas desiredReplicas : Int32)
    (metricStatuses : List MetricStatus) (rescale : Bool) (mirror : Mirror entries entries' dry live) :
    Mirror entries entries' (Wpa.setStatus now dry currentReplicas desiredReplicas metricStatuses rescale)
      (Wpa.setStatus now live currentReplicas desiredReplicas metricStatuses rescale) := by
  obtain ⟨dryRun, status, rfl, statusMirror⟩ := mirror
  exact ⟨dryRun, _, rfl, rfl, rfl, rfl, by simp [Wpa.setStatus, statusMirror.lastScaleTime],
    statusMirror.skeleton, statusMirror.dryEntries, statusMirror.liveEntries⟩

end Mirror

/-- `Reconcile` hands `reconcileWPA` mirrored objects: the two runs' `DryRun` conditions set on one
status. -/
theorem mirror_withDryRunCondition (now : ℤ) (wpa : WatermarkPodAutoscaler) :
    Mirror
      (dryRunEntries (withDryRunCondition now
        { wpa with spec := { wpa.spec with dryRun := true } }).status.conditions)
      (dryRunEntries (withDryRunCondition now
        { wpa with spec := { wpa.spec with dryRun := false } }).status.conditions)
      (withDryRunCondition now { wpa with spec := { wpa.spec with dryRun := true } })
      (withDryRunCondition now { wpa with spec := { wpa.spec with dryRun := false } }) :=
  ⟨true, _, rfl, rfl, rfl, rfl, rfl, conditionsSkeleton_setConditionInList_dryRun .., rfl, rfl⟩

theorem updateStatusIfNeeded_fst {cluster : Cluster} (written : cluster.updateStatus = none)
    (wpaStatus : WatermarkPodAutoscalerStatus) (wpa : WatermarkPodAutoscaler) :
    (updateStatusIfNeeded cluster wpaStatus wpa).1 = none := by
  unfold updateStatusIfNeeded
  split_ifs
  · rfl
  · exact written

/-- A rescale stamps the clock, so it writes the status unless the snapshot carries the clock. -/
theorem updateStatusIfNeeded_fst_of_rescale (cluster : Cluster)
    {wpaStatus : WatermarkPodAutoscalerStatus} (stale : wpaStatus.lastScaleTime ≠ some cluster.now)
    (wpa : WatermarkPodAutoscaler) (currentReplicas desiredReplicas : Int32)
    (metricStatuses : List MetricStatus) :
    (updateStatusIfNeeded cluster wpaStatus
      (setStatus cluster.now wpa currentReplicas desiredReplicas metricStatuses true)).1 =
        cluster.updateStatus := by
  unfold updateStatusIfNeeded
  rw [if_neg fun same => stale (by rw [same, setStatus_lastScaleTime, if_pos rfl])]

/-- What the stages after the metric pipeline need of a relation between the dry run's object and
the live run's for the runs to return the same error and end on twins, given the snapshots
`original` and `original'`. The relation is a lockstep one that implies twins and that `setStatus`
keeps. Related objects give the status write against the snapshots the same outcome. A rescale,
which stamps the clock, writes in both runs, unless status writes succeed. -/
structure TwinFinish (cluster : Cluster) (original original' : WatermarkPodAutoscalerStatus)
    (Related : WatermarkPodAutoscaler → WatermarkPodAutoscaler → Prop)
    extends Lockstep Related : Prop where
  twins : ∀ {dry live}, Related dry live → Twins dry live
  setStatus : ∀ {dry live} (now : ℤ) (currentReplicas desiredReplicas : Int32)
    (metricStatuses : List MetricStatus) (rescale : Bool), Related dry live →
      Related (Wpa.setStatus now dry currentReplicas desiredReplicas metricStatuses rescale)
        (Wpa.setStatus now live currentReplicas desiredReplicas metricStatuses rescale)
  sameUpdate : ∀ {dry live}, Related dry live →
    (updateStatusIfNeeded cluster original dry).1 = (updateStatusIfNeeded cluster original' live).1
  rescaled : cluster.updateStatus = none ∨
    original.lastScaleTime ≠ some cluster.now ∧ original'.lastScaleTime ≠ some cluster.now

/-- With status writes succeeding, twins finish as twins. -/
theorem Twins.twinFinish {cluster : Cluster} (written : cluster.updateStatus = none)
    (original original' : WatermarkPodAutoscalerStatus) :
    TwinFinish cluster original original' Twins :=
  { Twins.lockstep with
    twins := id
    setStatus := fun now _ _ _ _ twins => twins.setStatus now ..
    sameUpdate := fun _ => by
      rw [updateStatusIfNeeded_fst written, updateStatusIfNeeded_fst written]
    rescaled := .inl written }

/-- Mirrored objects finish as twins against mirrored snapshots, when status writes succeed or
the snapshot's last scale time is not the clock. -/
theorem Mirror.twinFinish {cluster : Cluster} {entries entries' : List Condition}
    {original original' : WatermarkPodAutoscalerStatus}
    (originals : StatusMirror entries entries' original original')
    (written : cluster.updateStatus = none ∨ original'.lastScaleTime ≠ some cluster.now) :
    TwinFinish cluster original original' (Mirror entries entries') :=
  { Mirror.lockstep with
    twins := Mirror.twins
    setStatus := Mirror.setStatus
    sameUpdate := fun mirror => by
      unfold updateStatusIfNeeded
      simp only [originals.eq_iff mirror.status]
      split <;> rfl
    rescaled := written.imp_right fun stale => ⟨originals.lastScaleTime ▸ stale, stale⟩ }

section

variable {cluster : Cluster} {original original' : WatermarkPodAutoscalerStatus}
  {Related : WatermarkPodAutoscaler → WatermarkPodAutoscaler → Prop}
  (finish : TwinFinish cluster original original' Related) (scaled : cluster.updateScale = none)

include finish

theorem TwinFinish.setCurrentReplicasInStatus (now : ℤ) {dry live : WatermarkPodAutoscaler}
    (related : Related dry live) (currentReplicas : Int32) :
    Related (Wpa.setCurrentReplicasInStatus now dry currentReplicas)
      (Wpa.setCurrentReplicasInStatus now live currentReplicas) := by
  unfold Wpa.setCurrentReplicasInStatus
  rw [(finish.twins related).status.desiredReplicas, (finish.twins related).status.currentMetrics]
  exact finish.setStatus now _ _ _ _ related

include scaled

/-- The branch where the runs part: a dry run records the decision, a live one writes the scale
and then sets `AbleToScale` once more, with the same status. -/
theorem finishReconcile_twinFinish (targetGR : GroupResource) (currentReplicas : Int32)
    (rescale : Bool) (desiredReplicas : Int32) (metricStatuses : List MetricStatus)
    {dry live : WatermarkPodAutoscaler} (related : Related dry live)
    (dryRun : dry.spec.dryRun = true) (liveRun : live.spec.dryRun = false)
    (effects effects' : List Effect) :
    (finishReconcile cluster original targetGR currentReplicas rescale desiredReplicas
        metricStatuses dry effects).1 =
      (finishReconcile cluster original' targetGR currentReplicas rescale desiredReplicas
        metricStatuses live effects').1 ∧
    Twins (finishReconcile cluster original targetGR currentReplicas rescale desiredReplicas
        metricStatuses dry effects).2.1
      (finishReconcile cluster original' targetGR currentReplicas rescale desiredReplicas
        metricStatuses live effects').2.1 := by
  cases rescale
  · have finished := finish.setStatus cluster.now currentReplicas currentReplicas metricStatuses
      false related
    simp only [finishReconcile, completeReconcile, Bool.false_eq_true, ↓reduceIte]
    exact ⟨finish.sameUpdate finished, finish.twins finished⟩
  · simp only [finishReconcile, completeReconcile, setCondition_spec, dryRun, liveRun, scaled,
      Bool.false_eq_true, ↓reduceIte]
    refine ⟨?_, (((finish.twins related).setCondition cluster.now ableToScale_ne_dryRunCondition ..
      ).setCondition_ableToScale_again cluster.now ..).setStatus cluster.now ..⟩
    rcases finish.rescaled with written | ⟨stale, stale'⟩
    · rw [updateStatusIfNeeded_fst written, updateStatusIfNeeded_fst written]
    · rw [updateStatusIfNeeded_fst_of_rescale cluster stale,
        updateStatusIfNeeded_fst_of_rescale cluster stale']

variable (platform : Platform) {replicaCalc : ReplicaCalculatorItf}
  (oblivious : replicaCalc.Oblivious)

include oblivious

theorem metricDriven_twinFinish (targetGR : GroupResource) (currentScale : Scale)
    {dry live : WatermarkPodAutoscaler} (related : Related dry live)
    (dryRun : dry.spec.dryRun = true) (liveRun : live.spec.dryRun = false) :
    (metricDriven platform replicaCalc cluster original targetGR currentScale dry).1 =
        (metricDriven platform replicaCalc cluster original' targetGR currentScale live).1 ∧
      Twins (metricDriven platform replicaCalc cluster original targetGR currentScale dry).2.1
        (metricDriven platform replicaCalc cluster original' targetGR currentScale live).2.1 := by
  have computed := computeReplicasForMetrics_agree finish.toLockstep cluster.now oblivious
    currentScale related
  have keepsFlag {wpa : WatermarkPodAutoscaler} {flag : Bool} (flagged : wpa.spec.dryRun = flag)
      (desiredReplicas : Int32) (timestamp : ℤ) :
      (shouldScale cluster.now (normalizeDesiredReplicas platform cluster.now
        (computeReplicasForMetrics replicaCalc cluster.now wpa currentScale).2.1
        currentScale.statusReplicas desiredReplicas).2.1 currentScale.statusReplicas
        (normalizeDesiredReplicas platform cluster.now
          (computeReplicasForMetrics replicaCalc cluster.now wpa currentScale).2.1
          currentScale.statusReplicas desiredReplicas).1 timestamp).2.1.spec.dryRun = flag := by
    rw [(shouldScale_conditionsOnly ..).spec_eq, (normalizeDesiredReplicas_conditionsOnly ..).spec_eq,
      (computeReplicasForMetrics_reportsOnly ..).1.spec_eq, flagged]
  unfold metricDriven
  dsimp only
  rw [computed.result]
  split
  · exact ⟨rfl, finish.twins computed.related⟩
  · have current := finish.setCurrentReplicasInStatus cluster.now computed.related
      currentScale.statusReplicas
    rw [finish.sameUpdate current]
    split
    · exact ⟨rfl, finish.twins (finish.setCondition cluster.now ableToScale_ne_dryRunCondition _ _ _
        current)⟩
    · exact ⟨rfl, finish.twins current⟩
  · rename_i result _
    have normalized := normalizeDesiredReplicas_agree finish.toLockstep cluster.now platform
      computed.related currentScale.statusReplicas
      (if decide (result.replicas > 0) then result.replicas else 0)
    have gated := shouldScale_agree finish.toLockstep cluster.now normalized.related
      currentScale.statusReplicas
      (normalizeDesiredReplicas platform cluster.now
        (computeReplicasForMetrics replicaCalc cluster.now live currentScale).2.1
        currentScale.statusReplicas (if decide (result.replicas > 0) then result.replicas else 0)).1
      (if decide (result.replicas > 0) then result.timestamp else cluster.now)
    rw [normalized.result, gated.result]
    refine finishReconcile_twinFinish finish scaled _ _ _ _ _ gated.related ?_ ?_ _ _
    · rw [← normalized.result]
      exact keepsFlag dryRun ..
    · exact keepsFlag liveRun ..

end

section

variable {cluster : Cluster} (scaled : cluster.updateScale = none) (platform : Platform)
  {replicaCalc : ReplicaCalculatorItf} (oblivious : replicaCalc.Oblivious)
  {Related : WatermarkPodAutoscaler → WatermarkPodAutoscaler → Prop}

include scaled oblivious

theorem reconcileScale_twinFinish (targetGR : GroupResource) (currentScale : Scale)
    {dry live : WatermarkPodAutoscaler} (finish : TwinFinish cluster dry.status live.status Related)
    (related : Related dry live) (dryRun : dry.spec.dryRun = true)
    (liveRun : live.spec.dryRun = false) :
    (reconcileScale platform replicaCalc cluster targetGR currentScale dry).1 =
        (reconcileScale platform replicaCalc cluster targetGR currentScale live).1 ∧
      Twins (reconcileScale platform replicaCalc cluster targetGR currentScale dry).2.1
        (reconcileScale platform replicaCalc cluster targetGR currentScale live).2.1 := by
  have conditioned := finish.setCondition cluster.now ableToScale_ne_dryRunCondition conditionTrue
    "SucceededGetScale" "the WPA controller was able to get the target's current scale" related
  have sameForced : forcedReplicas dry.spec currentScale.statusReplicas =
      forcedReplicas live.spec currentScale.statusReplicas := by
    rw [(finish.twins related).eq_update]
    rfl
  unfold reconcileScale
  simp only [setCondition_spec, sameForced, (finish.twins related).status.currentMetrics]
  split_ifs
  · exact finishReconcile_twinFinish finish scaled _ _ _ _ _
      (finish.setCondition cluster.now scalingActive_ne_dryRunCondition _ _ _ conditioned)
      dryRun liveRun _ _
  · split
    · exact finishReconcile_twinFinish finish scaled _ _ _ _ _ conditioned dryRun liveRun _ _
    · exact metricDriven_twinFinish finish scaled platform oblivious _ _ conditioned dryRun liveRun

theorem reconcileWPA_twinFinish {dry live : WatermarkPodAutoscaler}
    (finish : TwinFinish cluster dry.status live.status Related) (related : Related dry live)
    (dryRun : dry.spec.dryRun = true) (liveRun : live.spec.dryRun = false) :
    (reconcileWPA platform replicaCalc cluster dry).1 =
        (reconcileWPA platform replicaCalc cluster live).1 ∧
      Twins (reconcileWPA platform replicaCalc cluster dry).2.1
        (reconcileWPA platform replicaCalc cluster live).2.1 := by
  have sameTarget : dry.spec.scaleTargetRef = live.spec.scaleTargetRef := by
    rw [(finish.twins related).eq_update]
  unfold reconcileWPA
  rw [sameTarget]
  split
  · exact ⟨rfl, finish.twins related⟩
  · exact reconcileScale_twinFinish scaled platform oblivious _ _ finish related dryRun liveRun

end

section

variable (cluster : Cluster) (wpaStatusOriginal : WatermarkPodAutoscalerStatus)
  (targetGR : GroupResource)

theorem finishReconcile_writes_no_scale (currentReplicas : Int32) (rescale : Bool)
    (desiredReplicas : Int32) (metricStatuses : List MetricStatus) {wpa : WatermarkPodAutoscaler}
    (dryRun : wpa.spec.dryRun = true) {effects : List Effect}
    (reports : ∀ effect ∈ effects, effect.isReport) (groupResource : GroupResource)
    (replicas : Int32) :
    Effect.updateScale groupResource replicas ∉ (finishReconcile cluster wpaStatusOriginal targetGR
      currentReplicas rescale desiredReplicas metricStatuses wpa effects).2.2 := by
  have noWrite : Effect.updateScale groupResource replicas ∉ effects :=
    fun written => by simpa using reports _ written
  cases rescale <;> simp [finishReconcile, completeReconcile, dryRun, noWrite]

theorem metricDriven_writes_no_scale (platform : Platform) (replicaCalc : ReplicaCalculatorItf)
    (currentScale : Scale) {wpa : WatermarkPodAutoscaler} (dryRun : wpa.spec.dryRun = true)
    (groupResource : GroupResource) (replicas : Int32) :
    Effect.updateScale groupResource replicas ∉ (metricDriven platform replicaCalc cluster
      wpaStatusOriginal targetGR currentScale wpa).2.2 := by
  have computed := computeReplicasForMetrics_reportsOnly replicaCalc cluster.now wpa currentScale
  have noWrite : Effect.updateScale groupResource replicas ∉
      (computeReplicasForMetrics replicaCalc cluster.now wpa currentScale).2.2 :=
    fun written => by simpa using computed.2 _ written
  unfold metricDriven
  dsimp only
  split
  · exact noWrite
  · split <;> simp [noWrite]
  · refine finishReconcile_writes_no_scale _ _ _ _ _ _ _ ?_ ?_ _ _
    · rw [(shouldScale_conditionsOnly ..).spec_eq, (normalizeDesiredReplicas_conditionsOnly ..).spec_eq,
        computed.1.spec_eq, dryRun]
    · simpa [or_imp, forall_and] using computed.2

theorem reconcileWPA_writes_no_scale (platform : Platform) (replicaCalc : ReplicaCalculatorItf)
    {wpa : WatermarkPodAutoscaler} (dryRun : wpa.spec.dryRun = true)
    (groupResource : GroupResource) (replicas : Int32) :
    Effect.updateScale groupResource replicas ∉
      (reconcileWPA platform replicaCalc cluster wpa).2.2 := by
  unfold reconcileWPA reconcileScale
  split
  · simp
  · dsimp only
    split_ifs
    · exact finishReconcile_writes_no_scale _ _ _ _ _ _ _ (by simpa using dryRun) (by simp) _ _
    · split
      · exact finishReconcile_writes_no_scale _ _ _ _ _ _ _ (by simpa using dryRun) (by simp) _ _
      · exact metricDriven_writes_no_scale _ _ _ _ _ _ (by simpa using dryRun) _ _

end

/-- A reconciliation of an object in dry-run mode never writes the target's scale. -/
theorem Reconcile_writes_no_scale (platform : Platform) (replicaCalc : ReplicaCalculatorItf)
    (defaulting : Defaulting) (cluster : Cluster) {wpaInstance : WatermarkPodAutoscaler}
    (dryRun : wpaInstance.spec.dryRun = true) (groupResource : GroupResource) (replicas : Int32) :
    Effect.updateScale groupResource replicas ∉
      (Reconcile platform replicaCalc defaulting cluster wpaInstance).2.2 := by
  have conditioned := (withDryRunCondition_conditionsOnly cluster.now wpaInstance).spec_eq
  have reconciled := @reconcileWPA_writes_no_scale cluster platform replicaCalc
    (withDryRunCondition cluster.now wpaInstance) (by rw [conditioned, dryRun])
    groupResource replicas
  unfold Reconcile
  split
  · simp
  · simp
  · split_ifs
    · split <;> simp
    · split
      · dsimp only
        split <;> simp
      · dsimp only
        split <;> simp [reconciled]

/-- The dry run of an object writes no scale, and the status it leaves equals the one the live run
leaves when its scale write succeeds, but for the `DryRun` condition and the reason and message of
`AbleToScale`, whenever status writes succeed or the object's last scale time is not the clock. -/
theorem Reconcile_dryRun_matches_live (platform : Platform) (calculator : ReplicaCalculator)
    (defaulting : Defaulting) (cluster : Cluster) (wpa : WatermarkPodAutoscaler)
    (sameDefault :
      defaulting.isDefaultWatermarkPodAutoscaler { wpa with spec := { wpa.spec with dryRun := true } } =
        defaulting.isDefaultWatermarkPodAutoscaler
          { wpa with spec := { wpa.spec with dryRun := false } })
    (sameValidity :
      defaulting.checkWPAValidity { wpa with spec := { wpa.spec with dryRun := true } } =
        defaulting.checkWPAValidity { wpa with spec := { wpa.spec with dryRun := false } })
    (scaled : cluster.updateScale = none)
    (written : cluster.updateStatus = none ∨ wpa.status.lastScaleTime ≠ some cluster.now) :
    (∀ groupResource replicas, Effect.updateScale groupResource replicas ∉
      (Reconcile platform (calculator.toItf platform) defaulting cluster
        { wpa with spec := { wpa.spec with dryRun := true } }).2.2) ∧
    StatusTwins
      (Reconcile platform (calculator.toItf platform) defaulting cluster
        { wpa with spec := { wpa.spec with dryRun := true } }).2.1.status
      (Reconcile platform (calculator.toItf platform) defaulting cluster
        { wpa with spec := { wpa.spec with dryRun := false } }).2.1.status := by
  refine ⟨Reconcile_writes_no_scale _ _ _ _ rfl, ?_⟩
  have mirror := mirror_withDryRunCondition cluster.now wpa
  have reconciled := reconcileWPA_twinFinish scaled platform (calculator.toItf_oblivious platform)
    (Mirror.twinFinish mirror.status written) mirror
    (by rw [(withDryRunCondition_conditionsOnly ..).spec_eq])
    (by rw [(withDryRunCondition_conditionsOnly ..).spec_eq])
  unfold Reconcile
  rw [sameDefault, sameValidity]
  split
  · exact StatusTwins.refl _
  · exact StatusTwins.refl _
  · split_ifs
    · split <;> exact StatusTwins.refl _
    · split
      · dsimp only
        split <;> split <;> exact StatusTwins.refl _
      · dsimp only at reconciled ⊢
        rw [reconciled.1]
        split
        · exact (reconciled.2.setCondition cluster.now ableToScale_ne_dryRunCondition ..).status
        · exact reconciled.2.status

/-- The example object at twenty-five replicas, after a live reconciliation that lowered its
target to `MaxReplicas` at time `100` and wrote its status. -/
def rescaledWpa (dryRun : Bool) : WatermarkPodAutoscaler :=
  { exampleWpa with
    spec := { exampleWpa.spec with dryRun := dryRun }
    status := ⟨⟨25, by decide, by decide⟩, ⟨20, by decide, by decide⟩, [], some 100,
      [⟨dryRunCondition, conditionFalse, 100, "DryRun mode disabled",
          "Scaling changes can be applied"⟩,
        ⟨ableToScale, conditionTrue, 100, "SucceededRescale",
          "the HPA controller was able to update the target scale to 20"⟩]⟩ }

/-- A cluster at twenty-five replicas that rejects every status write. -/
def conflictingCluster : Cluster :=
  { exampleCluster ⟨25, by decide, by decide⟩ with
    updateStatus := some "the object has been modified" }

set_option maxRecDepth 2000 in
/-- A status write that fails separates the runs. At time `100` the live run rescales to twenty
again and ends on the status it started from, so it writes nothing; the dry run ends with
`ReadyForScale` where the snapshot holds `SucceededRescale`, writes, fails, and `Reconcile` sets
`AbleToScale` to `False`. -/
theorem Reconcile_dryRun_diverges_on_failed_status_write :
    conflictingCluster.updateScale = none ∧
      ¬StatusTwins
        (Reconcile .amd64 ((exampleCalculator ⟨7000, by decide, by decide⟩).toItf .amd64)
          exampleDefaulting conflictingCluster (rescaledWpa true)).2.1.status
        (Reconcile .amd64 ((exampleCalculator ⟨7000, by decide, by decide⟩).toItf .amd64)
          exampleDefaulting conflictingCluster (rescaledWpa false)).2.1.status :=
  ⟨rfl, fun twins => absurd twins.conditions (by decide)⟩

/-- The same object, last scaled at time `40`. -/
def staleRescaledWpa : WatermarkPodAutoscaler :=
  { rescaledWpa false with status := { (rescaledWpa false).status with lastScaleTime := some 40 } }

set_option maxRecDepth 2000 in
/-- On the cluster that rejects status writes, the object last scaled at time `40` gets twin
statuses from its dry and live runs at time `100`. -/
theorem Reconcile_dryRun_matches_live_on_stale_scale_time :
    conflictingCluster.updateScale = none ∧
      staleRescaledWpa.status.lastScaleTime ≠ some conflictingCluster.now ∧
    (∀ groupResource replicas, Effect.updateScale groupResource replicas ∉
      (Reconcile .amd64 ((exampleCalculator ⟨7000, by decide, by decide⟩).toItf .amd64)
        exampleDefaulting conflictingCluster
        { staleRescaledWpa with spec := { staleRescaledWpa.spec with dryRun := true } }).2.2) ∧
    StatusTwins
      (Reconcile .amd64 ((exampleCalculator ⟨7000, by decide, by decide⟩).toItf .amd64)
        exampleDefaulting conflictingCluster
        { staleRescaledWpa with spec := { staleRescaledWpa.spec with dryRun := true } }).2.1.status
      (Reconcile .amd64 ((exampleCalculator ⟨7000, by decide, by decide⟩).toItf .amd64)
        exampleDefaulting conflictingCluster
        { staleRescaledWpa with spec := { staleRescaledWpa.spec with dryRun := false } }).2.1.status :=
  ⟨rfl, by decide, Reconcile_dryRun_matches_live .amd64 _ exampleDefaulting _ staleRescaledWpa rfl rfl
    rfl (.inr (by decide))⟩

end Wpa
