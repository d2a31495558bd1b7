import InferenceReconciler.ConfigResolution
import InferenceReconciler.PathTemplate
import InferenceReconciler.RouteObject

/-!
# Resolution of the route

Where a service is exposed: under a path of its own behind a gateway. A route is planned
only with both in hand.
-/

namespace InferenceReconciler

structure RouteObservation where
  enabled : Bool
  name : String
  path : Except Problem String
  gateway : Option GatewayRef
  existing : Option RouteObject

namespace RouteObservation

/-- The path and the gateway of a route that can be planned. -/
def plannable? (o : RouteObservation) : Option (String × GatewayRef) :=
  if o.enabled then
    match o.path, o.gateway with
    | .ok path, some gateway => some (path, gateway)
    | _, _ => none
  else none

@[simp] theorem plannable?_of_not_enabled {o : RouteObservation} (h : o.enabled = false) :
    o.plannable? = none := by
  simp [plannable?, h]

end RouteObservation

/-- The path of a service; a fault in its template is the user's to mend. -/
def observePath (service : ServiceObject) (config : EffectiveConfig) (policy : Policy) :
    Except Problem String :=
  match routePath service config.routing.pathTemplate policy.maxRoutePathLength with
  | .ok path => .ok path
  | .error fault => .error (.provided Reason.pathTemplateInvalid
      s!"cannot build route path: {fault.message}")

def observeRoute (service : ServiceObject) (config : EffectiveConfig)
    (existing : Option RouteObject) (policy : Policy) : RouteObservation where
  enabled := config.routingEnabled
  name := service.displayName
  path := observePath service config policy
  gateway := config.gatewayRef?
  existing := existing

def predictorPort : UInt16 := 80

def GatewayRef.parent (gateway : GatewayRef) («namespace» : String) : Route.ParentRef where
  group := some (gateway.group.getD Route.gatewayGroup)
  kind := some (gateway.kind.getD "Gateway")
  name := gateway.name
  «namespace» := some (gateway.namespace.getD «namespace»)

/-- The rule that sends everything under the path to the predictor, the path taken off. -/
def predictorRule (path runtime «namespace» : String) (timeout : Option String) : Route.Rule where
  «matches» := [⟨some ⟨"PathPrefix", path⟩⟩]
  filters := [.replaceStart "/"]
  backendRefs := [⟨some "Service", s!"{runtime}-predictor", some «namespace», predictorPort⟩]
  timeouts := (filledIn? timeout).map fun t => ⟨some t⟩

def routeFor (service : ServiceObject) (path : String) (gateway : GatewayRef) (runtime : String)
    (config : EffectiveConfig) : RouteObject :=
  let ofNamespace := service.metadata.namespace.getD ""
  let metadata := ((PlainMetadata.standard service.displayName ofNamespace).withLabel
    Labels.component "routing").withLabel Labels.service (dnsLabel service.displayName)
  .ofSpec { metadata with annotations := config.routing.annotations } {
    parentRefs := [gateway.parent ofNamespace]
    rules := [predictorRule path runtime ofNamespace config.routing.requestTimeout] }

namespace RouteObservation

def projectPath (o : RouteObservation) (path : String) : Projection :=
  match o.existing with
  | none => .of (.progressing .routing Reason.configuringRoute
      s!"creating route {o.name} for {path}") false
  | some route =>
    match route.rejection? with
    | some c => .of (.ofProblem .routing (.managed Reason.routeFailed
        s!"gateway rejected route: {c.reason}: {c.message}")) false
    | none =>
      (Projection.of (.ready .routing Reason.routeReady s!"serving at {path}") false).withUpdate
        { StatusUpdate.none with routing := some ⟨some path⟩ }

def project (o : RouteObservation) : Projection :=
  if o.enabled then
    match o.path, o.gateway with
    | .error p, _ => .of (.ofProblem .routing p) true
    | .ok _, none => .of (.ofProblem .routing (.provided Reason.routeFailed
        "routing is enabled but no gatewayRef is configured")) true
    | .ok path, some _ => o.projectPath path
  else .notApplicable .routing

end RouteObservation

end InferenceReconciler
