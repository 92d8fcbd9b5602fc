import WatermarkPodAutoscaler.Binary64
import WatermarkPodAutoscaler.Go
import WatermarkPodAutoscaler.Api
import WatermarkPodAutoscaler.Conditions
import WatermarkPodAutoscaler.ReplicaCalculator
import WatermarkPodAutoscaler.Normalizer
import WatermarkPodAutoscaler.Cooldown
import WatermarkPodAutoscaler.Metrics
import WatermarkPodAutoscaler.Reconcile
import WatermarkPodAutoscaler.Lockstep
import WatermarkPodAutoscaler.StatusCalls
import WatermarkPodAutoscaler.Decision
import WatermarkPodAutoscaler.Aggregation
import WatermarkPodAutoscaler.Bounds
import WatermarkPodAutoscaler.Direction
import WatermarkPodAutoscaler.Persistence
import WatermarkPodAutoscaler.DryRun
import WatermarkPodAutoscaler.Run
import WatermarkPodAutoscaler.Registry
import WatermarkPodAutoscaler.ScaleLookup
import WatermarkPodAutoscaler.ConditionTypes
import WatermarkPodAutoscaler.Writes
import WatermarkPodAutoscaler.Footprint
import WatermarkPodAutoscaler.Isolation
import WatermarkPodAutoscaler.TransitionTime
import WatermarkPodAutoscaler.ConditionGrowth
import WatermarkPodAutoscaler.RunWrites
import WatermarkPodAutoscaler.StatusIndependence
import WatermarkPodAutoscaler.DryRunSimulation
