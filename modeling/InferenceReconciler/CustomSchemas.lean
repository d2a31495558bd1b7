import InferenceReconciler.ResourceSchema
import InferenceReconciler.Lifecycle

/-!
# Schemas of the custom resources

The members of every specification and status with a line about each, and the shapes
they share.
-/

namespace InferenceReconciler

namespace CustomSchema

def member (presence : Presence) (name about : String) (shape : Shape) : MemberSchema Shape :=
  ⟨name, about, presence, shape⟩

def required : String → String → Shape → MemberSchema Shape := member .required

def nullable : String → String → Shape → MemberSchema Shape := member .nullable

def elided : String → String → Shape → MemberSchema Shape := member .elided

def orElse (value : Json) : String → String → Shape → MemberSchema Shape := member (.orElse value)

def lifecycleWords : List LifecycleStatus :=
  [.pending, .ready, .degraded, .failed, .notAvailable, .progressing]

def lifecycleStatus : MemberSchema Shape :=
  orElse (.str LifecycleStatus.pending.text) "status" "Lifecycle status"
    (.word (lifecycleWords.map LifecycleStatus.text))

def phaseWords : List ServicePhase := [.pending, .starting, .running, .degraded, .failed]

def scope : Shape := .word ([ResourceScope.namespaced, .cluster].map ResourceScope.text)

def conditionStatus : Shape :=
  .word ([ConditionStatus.holds, .fails, .unknown].map ConditionStatus.text)

def envVars : Shape := .list "Environment variable with a literal value" (.record [
  required "name" "Variable name" .text,
  orElse (.str "") "value" "Variable value" .text])

def secrets : Shape := .list "Reference to a Secret in the same namespace" (.record [
  required "name" "Secret name" .text])

def pullSecrets : MemberSchema Shape := elided "imagePullSecrets" "Registry pull secrets" secrets

def modelSources : Shape := .list "One weight source of a model" (.record [
  required "name" "Logical name, used as the mount directory" .text,
  required "sourceUri" "Where the weights come from (e.g. `hf://meta-llama/Llama-3.1-8B`)" .text,
  nullable "size" "Size of the weights as a quantity; absent until discovered" .text])

def gpuSelector : MemberSchema Shape := nullable "gpuSelector" "GPU requirements" (.record [
  nullable "model" "GPU model (e.g. \"MI300X\")" .text,
  nullable "count" "GPUs per replica" (.integer .uint32),
  nullable "resourceName" "Extended resource name (default `amd.com/gpu`)" .text])

def resources : Shape := .record [
  elided "requests" "Requested resources (e.g. cpu: \"4\", memory: \"32Gi\")" .textMap,
  elided "limits" "Resource limits" .textMap]

def metric : MemberSchema Shape :=
  nullable "metric" "Optimization metric (latency, throughput)" .text

def reference : Shape := .record [
  required "name" "Object name" .text,
  nullable "namespace" "Namespace, absent for cluster-scoped objects" .text,
  required "scope" "Object scope" scope,
  nullable "uid" "Object UID at resolution time" .text]

def conditions : Shape := .list "Kubernetes-style condition for status reporting" (.record [
  required "type" "Type of condition (e.g., ModelResolved, RuntimeReady)" .text,
  required "status" "Status of the condition (True, False, Unknown)" conditionStatus,
  required "reason" "Machine-readable reason for the condition" .text,
  required "message" "Human-readable message" .text,
  required "lastTransitionTime" "Last time the condition transitioned" .time])

def storage : Shape := .record [
  nullable "defaultStorageClassName" "Storage class for caches and temporary volumes" .text,
  nullable "pvcHeadroomPercent" "Extra capacity on top of the model size, in percent"
    (.integer .uint32)]

def gatewayRef : Shape := .record [
  required "name" "Gateway name" .text,
  nullable "namespace" "Gateway namespace (default: the service namespace)" .text,
  nullable "group" "API group (default: gateway.networking.k8s.io)" .text,
  nullable "kind" "Kind (default: Gateway)" .text]

def routing : Shape := .record [
  nullable "enabled" "Create an HTTPRoute for the service" .flag,
  nullable "gatewayRef" "Parent gateway" gatewayRef,
  nullable "pathTemplate" "Path template with `\x7b.metadata...\x7d` placeholders" .text,
  nullable "requestTimeout" "Request timeout as a Gateway API duration (e.g. \"60s\")" .text,
  elided "annotations" "Annotations copied onto the route" .textMap]

/-- A status that holds a lifecycle word alone. -/
def plainStatus : RecordShape := [lifecycleStatus]

def customModel : Shape := .record [
  required "baseImage" "Generic serving image that downloads the weights" .text,
  required "modelSources" "Weight sources" modelSources,
  gpuSelector]

def serviceModel : Shape := .record [
  nullable "ref" "Name of an AIMModel or AIMClusterModel" .text,
  nullable "image" "Container image to look up, or create a model record for" .text,
  nullable "custom" "Inline model description" customModel]

def overrides : Shape := .record [
  metric,
  nullable "precision" "Numeric precision (fp8, fp16, ...)" .text,
  gpuSelector]

def cachingModes : String :=
  "One of require-shared, prefer-shared, require-dedicated. " ++
    "Legacy values Always, Auto, Never, Shared and Dedicated are accepted."

def serviceSpec : RecordShape := [
  required "model" "Model selection" serviceModel,
  nullable "templateName" "Explicit template; auto-selected when absent" .text,
  nullable "overrides" "Overrides applied on top of the template" overrides,
  nullable "caching" "Caching intent" (.record [nullable "mode" cachingModes .text]),
  nullable "cacheModel" "Deprecated boolean caching switch" .flag,
  nullable "replicas" "Replica count (default 1)" (.integer .int32),
  nullable "runtimeConfigName" "Runtime config name (default \"default\")" .text,
  nullable "storage" "Storage overrides" storage,
  nullable "routing" "Routing overrides" routing,
  nullable "resources" "Explicit resources; win over template and defaults" resources,
  elided "env" "Extra environment; wins over every other source" envVars,
  pullSecrets,
  nullable "serviceAccountName" "Service account for the runtime pods" .text]

def serviceStatus : RecordShape := [
  orElse (.str ServicePhase.pending.text) "status" "Overall phase"
    (.word (phaseWords.map ServicePhase.text)),
  elided "conditions" "Per-domain conditions" conditions,
  nullable "resolvedRuntimeConfig" "Runtime config in effect" reference,
  nullable "resolvedModel" "Model in use, once Ready" reference,
  nullable "resolvedTemplate" "Template in use, once Ready" reference,
  nullable "cache" "Cache bookkeeping" (.record [
    nullable "templateCacheRef" "Template cache in use, once Ready" reference,
    orElse (.int 0) "retryAttempts" "Recreation attempts spent on failed caches"
      (.integer .uint32)]),
  nullable "routing" "Routing outcome" (.record [
    nullable "path" "Resolved HTTP path prefix" .text]),
  nullable "observedGeneration" "Generation last reconciled" (.integer .int64)]

def modelSpec : RecordShape := [
  required "image" "Serving container image" .text,
  elided "modelSources" "Weight sources; empty when the image bakes them in" modelSources,
  nullable "runtimeConfigName" "Runtime config applied to this model's templates" .text,
  pullSecrets,
  elided "env" "Extra environment" envVars,
  nullable "serviceAccountName" "Service account for discovery jobs" .text]

def templateSpec : RecordShape := [
  required "modelName" "Model record this template serves" .text,
  metric,
  nullable "precision" "Numeric precision" .text,
  gpuSelector,
  nullable "resources" "Explicit resources; replace the per-GPU defaults when set" resources,
  elided "env" "Environment" envVars,
  elided "modelSources" "Weight sources known up front" modelSources,
  nullable "caching" "Shared cache settings" (.record [
    orElse (.bool false) "enabled" "Pre-populate a shared cache for this template" .flag,
    elided "env" "Environment for the cache download jobs" envVars]),
  pullSecrets]

def profileMetadata : Shape := .record [
  nullable "gpu" "GPU model the profile was tuned on" .text,
  nullable "gpuCount" "GPUs per replica" (.integer .uint32),
  nullable "metric" "Optimization metric" .text,
  nullable "precision" "Numeric precision" .text,
  nullable "type" "Profile maturity: optimized, preview or unoptimized" .text]

def templateStatus : RecordShape := [
  lifecycleStatus,
  elided "modelSources" "Weight sources with discovered sizes" modelSources,
  nullable "profile" "Discovered runtime profile" (.record [
    elided "envVars" "Environment the profile requires" .textMap,
    orElse (.obj []) "metadata" "Profile metadata" profileMetadata])]

def templateCacheSpec : RecordShape := [
  required "templateName" "Template whose sources are cached" .text,
  orElse (.str ResourceScope.namespaced.text) "templateScope" "Scope of that template" scope,
  nullable "storageClassName" "Storage class for the cache volumes" .text,
  elided "env" "Environment for download jobs" envVars]

def modelCacheSpec : RecordShape := [
  required "sourceUri" "Weight source being cached" .text,
  required "size" "Volume size" .text,
  nullable "storageClassName" "Storage class" .text]

def modelCacheStatus : RecordShape := [
  lifecycleStatus,
  nullable "persistentVolumeClaim" "PVC holding the downloaded weights" .text]

def runtimeConfigSpec : RecordShape := [
  nullable "storage" "Storage defaults" storage,
  nullable "routing" "Routing defaults" routing,
  elided "env" "Extra environment for every runtime" envVars]

end CustomSchema

end InferenceReconciler
