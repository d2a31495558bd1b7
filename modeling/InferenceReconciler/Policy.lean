import InferenceReconciler.GpuModel

/-!
# Policy

The defaults an operator sets for all services, and what is tried how often.
-/

namespace InferenceReconciler

structure Policy where
  /-- Capacity of a volume on top of the size of the weights, in percent. -/
  pvcHeadroomPercent : UInt32
  /-- The size of the shared memory of a runtime. -/
  shmSize : String
  cpuPerGpu : String
  memoryRequestPerGpu : String
  memoryLimitPerGpu : String
  gpuResourceName : String
  containerPort : Int32
  /-- The directory under which cached weights are mounted. -/
  cacheMountRoot : String
  maxRoutePathLength : Nat
  /-- Seconds to the next pass over a running service. -/
  requeueSeconds : Nat
  /-- Seconds to the next pass over a service that is still coming up. -/
  progressRequeueSeconds : Nat
  /-- How often a failed cache is made anew before it is given up. -/
  cacheRetryBudget : UInt32
  /-- The name under which fields of applied objects are managed. -/
  fieldManager : String
  deriving DecidableEq, Inhabited

def Policy.standard : Policy where
  pvcHeadroomPercent := 10
  shmSize := "8Gi"
  cpuPerGpu := "4"
  memoryRequestPerGpu := "32Gi"
  memoryLimitPerGpu := "48Gi"
  gpuResourceName := GpuModel.defaultResource
  containerPort := 8000
  cacheMountRoot := "/workspace/model-cache"
  maxRoutePathLength := 200
  requeueSeconds := 60
  progressRequeueSeconds := 10
  cacheRetryBudget := 1
  fieldManager := "aim-controller"

end InferenceReconciler
