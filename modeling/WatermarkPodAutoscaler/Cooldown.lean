import WatermarkPodAutoscaler.Conditions

/-!
# The cooldown gate

`shouldScale` measures the two forbidden windows from the last scale time recorded in the
status against the timestamp of the metric that drove the decision; each open window is a
backoff. `canScale` then allows an upscale without upscale backoff and a downscale without
downscale backoff, and refuses when the count would not change. A status with no last scale
time returns before both: it always scales, `canScale` included.
-/

namespace Wpa

/-- Whether the back-offs let the count change from the current to the desired one; an unchanged
count never scales. -/
def canScale (backoffUp backoffDown : Bool) (currentReplicas desiredReplicas : Int32) : Bool :=
  if desiredReplicas = currentReplicas then false
  else !backoffUp && desiredReplicas > currentReplicas ||
    !backoffDown && desiredReplicas < currentReplicas

/-- The labels of the `transitionCountdown` gauge for one direction. -/
def transitionLabels (wpa : WatermarkPodAutoscaler) (transition : String) : PromLabels :=
  [(wpaNamePromLabel, wpa.name), (transitionPromLabel, transition),
    (resourceNamespacePromLabel, wpa.metaNamespace),
    (resourceNamePromLabel, wpa.spec.scaleTargetRef.name),
    (resourceKindPromLabel, wpa.spec.scaleTargetRef.kind)]

/-- `time.Duration(seconds) * time.Second`. -/
def forbiddenWindow (seconds : Int32) : ℤ := seconds.val * second

/-- The countdown of a forbidden window, `LastScaleTime.Add(window).Sub(timestamp)`: how long it
stays open after the timestamp. -/
def countdown (lastScaleTime : ℤ) (windowSeconds : Int32) (timestamp : ℤ) : Int64 :=
  timeSub (lastScaleTime + forbiddenWindow windowSeconds) timestamp

/-- The countdown gauge of one direction: the countdown's seconds while they are positive, and
`0` otherwise. -/
def countdownGauge (wpa : WatermarkPodAutoscaler) (transition : String) (seconds : Float64) :
    GaugeOp :=
  .set .transitionCountdown (transitionLabels wpa transition)
    (if Float64.lt (.finite 0) seconds then seconds else .finite 0)

/-- `shouldScale`: the decision, the object with its backoff condition, and the countdown
gauges. `now` is the clock that stamps conditions; `timestamp` is the one the windows are
measured against. -/
def shouldScale (now : ℤ) (wpa : WatermarkPodAutoscaler)
    (currentReplicas desiredReplicas : Int32) (timestamp : ℤ) :
    Bool × WatermarkPodAutoscaler × List GaugeOp :=
  match wpa.status.lastScaleTime with
  | none => (true, wpa, [])
  | some lastScaleTime =>
      let downscaleCountdown := durationSeconds
        (countdown lastScaleTime wpa.spec.downscaleForbiddenWindowSeconds timestamp)
      let upscaleCountdown := durationSeconds
        (countdown lastScaleTime wpa.spec.upscaleForbiddenWindowSeconds timestamp)
      let backoffDown := Float64.lt (.finite 0) downscaleCountdown
      let backoffUp := Float64.lt (.finite 0) upscaleCountdown
      let afterDown := if backoffDown then
          setCondition now wpa ableToScale conditionFalse "BackoffDownscale"
            "the time since the previous scale is still within the downscale forbidden window"
        else wpa
      let afterUp := if backoffUp then
          if backoffDown then
            setCondition now afterDown ableToScale conditionFalse "BackoffBoth"
              "the time since the previous scale is still within both the downscale and upscale forbidden windows"
          else
            setCondition now afterDown ableToScale conditionFalse "BackoffUpscale"
              "the time since the previous scale is still within the upscale forbidden window"
        else afterDown
      (canScale backoffUp backoffDown currentReplicas desiredReplicas, afterUp,
        [countdownGauge wpa "downscale" downscaleCountdown,
          countdownGauge wpa "upscale" upscaleCountdown])

theorem shouldScale_conditionsOnly (now : ℤ) (wpa : WatermarkPodAutoscaler)
    (currentReplicas desiredReplicas : Int32) (timestamp : ℤ) :
    ConditionsOnly wpa (shouldScale now wpa currentReplicas desiredReplicas timestamp).2.1 := by
  unfold shouldScale
  split
  · rfl
  · dsimp only
    split_ifs <;> rfl

/-- The gate refuses when the count does not change, unless no scale time was ever recorded. -/
theorem shouldScale_same_count (now : ℤ) (wpa : WatermarkPodAutoscaler)
    (currentReplicas : Int32) (timestamp : ℤ) :
    (shouldScale now wpa currentReplicas currentReplicas timestamp).1 =
      wpa.status.lastScaleTime.isNone := by
  unfold shouldScale
  split <;> simp_all [canScale]

end Wpa
