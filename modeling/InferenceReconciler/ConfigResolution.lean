import InferenceReconciler.CachingIntent
import InferenceReconciler.ConfigLayers
import InferenceReconciler.Policy

/-!
# Resolution of the configuration

Which runtime configuration a service uses, what it amounts to with the layers below and
above it, and whether the specification makes sense at all.
-/

namespace InferenceReconciler

/-- The merged configuration of a pass. -/
structure EffectiveConfig where
  spec : RuntimeConfigSpec
  headroomPercent : UInt32
  deriving DecidableEq, Inhabited

namespace EffectiveConfig

def storageClass? (c : EffectiveConfig) : Option String :=
  c.spec.storage.bind (·.defaultStorageClassName)

def routing (c : EffectiveConfig) : RoutingConfig := c.spec.routing.getD .empty

def routingEnabled (c : EffectiveConfig) : Bool := (c.spec.routing.bind (·.enabled)).getD false

def gatewayRef? (c : EffectiveConfig) : Option GatewayRef := c.spec.routing.bind (·.gatewayRef)

end EffectiveConfig

/-- The configurations of the requested name. -/
structure ConfigFetch where
  ofNamespace : Option RuntimeConfigObject
  ofCluster : Option RuntimeConfigObject
  deriving DecidableEq, Inhabited

structure ConfigObservation where
  effective : EffectiveConfig
  resolved : Option ResolvedReference
  intent : CachingIntent
  error : Option Problem
  deriving DecidableEq, Inhabited

def ServiceSpec.configLayer (s : ServiceSpec) : RuntimeConfigSpec := ⟨s.storage, s.routing, s.env⟩

namespace ConfigFetch

/-- The configuration in use, that of the namespace first. -/
def reference? (f : ConfigFetch) : Option ResolvedReference :=
  match f.ofNamespace, f.ofCluster with
  | some c, _ => some ⟨c.displayName, c.metadata.namespace, .namespaced, c.metadata.uid⟩
  | none, some c => some ⟨c.displayName, none, .cluster, c.metadata.uid⟩
  | none, none => none

def merged (f : ConfigFetch) (service : ServiceSpec) : RuntimeConfigSpec :=
  mergeConfig (f.ofCluster.map (·.spec)) (f.ofNamespace.map (·.spec)) (some service.configLayer)

def effective (f : ConfigFetch) (service : ServiceSpec) (policy : Policy) : EffectiveConfig :=
  let spec := f.merged service
  ⟨spec, (spec.storage.bind (·.pvcHeadroomPercent)).getD policy.pvcHeadroomPercent⟩

end ConfigFetch

/-- A missing configuration is a problem unless it is the one nobody has to name. -/
def configProblem? (service : ServiceSpec) (resolved : Option ResolvedReference) :
    Option Problem :=
  let name := service.configName
  if resolved.isNone && name != ServiceSpec.defaultConfigName then
    some (.provided Reason.configNotFound
      s!"runtime config {quoted name} not found in namespace or cluster scope")
  else
    match CachingIntent.ofService service with
    | .ok _ => none
    | .error p => some p

def observeConfig (service : ServiceObject) (fetched : ConfigFetch) (policy : Policy) :
    ConfigObservation where
  effective := fetched.effective service.spec policy
  resolved := fetched.reference?
  intent :=
    match CachingIntent.ofService service.spec with
    | .ok intent => intent
    | .error _ => .preferShared
  error := configProblem? service.spec fetched.reference?

namespace ConfigObservation

def readyMessage (o : ConfigObservation) : String :=
  match o.resolved with
  | some r => s!"using runtime config {r.name} ({r.scope.text})"
  | none => "no runtime config found; using defaults"

def project (o : ConfigObservation) : Projection :=
  match o.error with
  | some p => .of (.ofProblem .config p) true
  | none =>
    (Projection.of (.ready .config Reason.configResolved o.readyMessage) false).withUpdate
      { StatusUpdate.none with resolvedRuntimeConfig := o.resolved }

end ConfigObservation

end InferenceReconciler
