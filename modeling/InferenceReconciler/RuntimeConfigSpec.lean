import InferenceReconciler.SpecFields

/-!
# Runtime configurations

The defaults that a platform team sets for every service, for the whole cluster or for
one namespace: storage, routing and environment.
-/

namespace InferenceReconciler

structure StorageConfig where
  defaultStorageClassName : Option String
  /-- Capacity on top of the size of the weights, in percent. -/
  pvcHeadroomPercent : Option UInt32
  deriving DecidableEq, Inhabited

instance : Wire StorageConfig where
  read? j := do
    let m ← j.fields? ["defaultStorageClassName", "pvcHeadroomPercent"]
    return {
      defaultStorageClassName := ← m.optional "defaultStorageClassName"
      pvcHeadroomPercent := ← m.optional "pvcHeadroomPercent" }
  write c := .record [
    optionalField "defaultStorageClassName" c.defaultStorageClassName,
    optionalField "pvcHeadroomPercent" c.pvcHeadroomPercent]

/-- The gateway that the route of a service attaches to. -/
structure GatewayRef where
  name : String
  «namespace» : Option String
  group : Option String
  kind : Option String
  deriving DecidableEq, Repr, Inhabited

instance : Wire GatewayRef where
  read? j := do
    let m ← j.fields? ["name", "namespace", "group", "kind"]
    return {
      name := ← m.required "name"
      «namespace» := ← m.optional "namespace"
      group := ← m.optional "group"
      kind := ← m.optional "kind" }
  write g := .record [
    optionalField "group" g.group,
    optionalField "kind" g.kind,
    field "name" g.name,
    optionalField "namespace" g.namespace]

structure RoutingConfig where
  enabled : Option Bool
  gatewayRef : Option GatewayRef
  pathTemplate : Option String
  requestTimeout : Option String
  annotations : Dict String
  deriving DecidableEq

namespace RoutingConfig

def empty : RoutingConfig := ⟨none, none, none, none, {}⟩

instance : Inhabited RoutingConfig := ⟨empty⟩

instance : Wire RoutingConfig where
  read? j := do
    let m ← j.fields? ["enabled", "gatewayRef", "pathTemplate", "requestTimeout", "annotations"]
    return {
      enabled := ← m.optional "enabled"
      gatewayRef := ← m.optional "gatewayRef"
      pathTemplate := ← m.optional "pathTemplate"
      requestTimeout := ← m.optional "requestTimeout"
      annotations := ← m.orElse "annotations" {} }
  write r := .record [
    dictField "annotations" r.annotations,
    optionalField "enabled" r.enabled,
    optionalField "gatewayRef" r.gatewayRef,
    optionalField "pathTemplate" r.pathTemplate,
    optionalField "requestTimeout" r.requestTimeout]

end RoutingConfig

structure RuntimeConfigSpec where
  storage : Option StorageConfig
  routing : Option RoutingConfig
  env : List EnvVar
  deriving DecidableEq

namespace RuntimeConfigSpec

def empty : RuntimeConfigSpec := ⟨none, none, []⟩

instance : Inhabited RuntimeConfigSpec := ⟨empty⟩

instance : Wire RuntimeConfigSpec where
  read? j := do
    let m ← j.fields? ["storage", "routing", "env"]
    return {
      storage := ← m.optional "storage"
      routing := ← m.optional "routing"
      env := ← m.orElse "env" [] }
  write c := .record [
    listField "env" c.env,
    optionalField "routing" c.routing,
    optionalField "storage" c.storage]

end RuntimeConfigSpec

end InferenceReconciler
