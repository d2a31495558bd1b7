import InferenceReconciler.Labels
import InferenceReconciler.WireForm

/-!
# Routes

The part of an HTTP route that a service uses: a rule for one path that takes the path
off and sends the request to the backend. The gateway reports in the status whether it
took the route.
-/

namespace InferenceReconciler

/-- The metadata of routes and runtimes. -/
structure PlainMetadata where
  name : String
  «namespace» : String
  labels : Dict String
  annotations : Dict String
  uid : Option String
  deriving DecidableEq

namespace PlainMetadata

instance : Inhabited PlainMetadata := ⟨⟨"", "", {}, {}, none⟩⟩

def standardLabels : Dict String :=
  .ofList [(Labels.appName, "aim-service"), (Labels.managedBy, Labels.manager)]

def standard (name «namespace» : String) : PlainMetadata :=
  ⟨name, «namespace», standardLabels, {}, none⟩

def withLabel (m : PlainMetadata) (key value : String) : PlainMetadata :=
  { m with labels := m.labels.insert key value }

instance : Wire PlainMetadata where
  read? j := do
    let m ← j.fields? ["name", "namespace", "labels", "annotations", "uid"]
    return {
      name := ← m.required "name"
      «namespace» := ← m.orElse "namespace" ""
      labels := ← m.orElse "labels" {}
      annotations := ← m.orElse "annotations" {}
      uid := ← m.optional "uid" }
  write m := .record [
    dictField "annotations" m.annotations,
    dictField "labels" m.labels,
    field "name" m.name,
    field "namespace" m.namespace,
    optionalField "uid" m.uid]

end PlainMetadata

namespace Route

def gatewayGroup : String := "gateway.networking.k8s.io"

structure ParentRef where
  group : Option String
  kind : Option String
  name : String
  «namespace» : Option String
  deriving DecidableEq, Repr, Inhabited

instance : Wire ParentRef where
  read? j := do
    let m ← j.fields? ["group", "kind", "name", "namespace"]
    return {
      group := ← m.optional "group"
      kind := ← m.optional "kind"
      name := ← m.required "name"
      «namespace» := ← m.optional "namespace" }
  write p := .record [
    optionalField "group" p.group,
    optionalField "kind" p.kind,
    field "name" p.name,
    optionalField "namespace" p.namespace]

structure PathMatch where
  type : String
  value : String
  deriving DecidableEq, Repr, Inhabited

instance : Wire PathMatch where
  read? j := do
    let m ← j.fields? ["type", "value"]
    return { type := ← m.required "type", value := ← m.required "value" }
  write p := .record [field "type" p.type, field "value" p.value]

structure RequestMatch where
  path : Option PathMatch
  deriving DecidableEq, Repr, Inhabited

instance : Wire RequestMatch where
  read? j := do
    let m ← j.fields? ["path"]
    return { path := ← m.optional "path" }
  write r := .record [optionalField "path" r.path]

structure PathModifier where
  type : String
  replacePrefixMatch : Option String
  deriving DecidableEq, Repr, Inhabited

instance : Wire PathModifier where
  read? j := do
    let m ← j.fields? ["type", "replacePrefixMatch"]
    return { type := ← m.required "type", replacePrefixMatch := ← m.optional "replacePrefixMatch" }
  write p := .record [
    optionalField "replacePrefixMatch" p.replacePrefixMatch,
    field "type" p.type]

structure UrlRewrite where
  path : Option PathModifier
  deriving DecidableEq, Repr, Inhabited

instance : Wire UrlRewrite where
  read? j := do
    let m ← j.fields? ["path"]
    return { path := ← m.optional "path" }
  write u := .record [optionalField "path" u.path]

/-- A step before a request is sent on. -/
structure Filter where
  type : String
  urlRewrite : Option UrlRewrite
  deriving DecidableEq, Repr, Inhabited

/-- The filter that puts `replacement` in place of the matched start of the path. -/
def Filter.replaceStart (replacement : String) : Filter where
  type := "URLRewrite"
  urlRewrite := some ⟨some ⟨"ReplacePrefixMatch", some replacement⟩⟩

instance : Wire Filter where
  read? j := do
    let m ← j.fields? ["type", "urlRewrite"]
    return { type := ← m.required "type", urlRewrite := ← m.optional "urlRewrite" }
  write f := .record [field "type" f.type, optionalField "urlRewrite" f.urlRewrite]

structure BackendRef where
  kind : Option String
  name : String
  «namespace» : Option String
  port : UInt16
  deriving DecidableEq, Inhabited

instance : Wire BackendRef where
  read? j := do
    let m ← j.fields? ["kind", "name", "namespace", "port"]
    return {
      kind := ← m.optional "kind"
      name := ← m.required "name"
      «namespace» := ← m.optional "namespace"
      port := ← m.required "port" }
  write b := .record [
    optionalField "kind" b.kind,
    field "name" b.name,
    optionalField "namespace" b.namespace,
    field "port" b.port]

structure Timeouts where
  request : Option String
  deriving DecidableEq, Repr, Inhabited

instance : Wire Timeouts where
  read? j := do
    let m ← j.fields? ["request"]
    return { request := ← m.optional "request" }
  write t := .record [optionalField "request" t.request]

structure Rule where
  «matches» : List RequestMatch
  filters : List Filter
  backendRefs : List BackendRef
  timeouts : Option Timeouts
  deriving DecidableEq, Inhabited

instance : Wire Rule where
  read? j := do
    let m ← j.fields? ["matches", "filters", "backendRefs", "timeouts"]
    return {
      «matches» := ← m.orElse "matches" []
      filters := ← m.orElse "filters" []
      backendRefs := ← m.required "backendRefs"
      timeouts := ← m.optional "timeouts" }
  write r := .record [
    field "backendRefs" r.backendRefs,
    listField "filters" r.filters,
    listField "matches" r.matches,
    optionalField "timeouts" r.timeouts]

structure Spec where
  parentRefs : List ParentRef
  rules : List Rule
  deriving DecidableEq, Inhabited

instance : Wire Spec where
  read? j := do
    let m ← j.fields? ["parentRefs", "rules"]
    return { parentRefs := ← m.required "parentRefs", rules := ← m.required "rules" }
  write s := .record [field "parentRefs" s.parentRefs, field "rules" s.rules]

/-- A condition on a parent of the route; its value is any text. -/
structure ParentCondition where
  type : String
  status : String
  reason : String
  message : String
  deriving DecidableEq, Repr, Inhabited

instance : Wire ParentCondition where
  read? j := do
    let m ← j.fields? ["type", "status", "reason", "message"]
    return {
      type := ← m.required "type"
      status := ← m.required "status"
      reason := ← m.orElse "reason" ""
      message := ← m.orElse "message" "" }
  write c := .record [
    field "message" c.message,
    field "reason" c.reason,
    field "status" c.status,
    field "type" c.type]

structure ParentStatus where
  conditions : List ParentCondition
  deriving DecidableEq, Repr, Inhabited

instance : Wire ParentStatus where
  read? j := do
    let m ← j.fields? ["conditions"]
    return { conditions := ← m.orElse "conditions" [] }
  write p := .record [field "conditions" p.conditions]

structure Status where
  parents : List ParentStatus
  deriving DecidableEq, Repr, Inhabited

instance : Wire Status where
  read? j := do
    let m ← j.fields? ["parents"]
    return { parents := ← m.orElse "parents" [] }
  write s := .record [field "parents" s.parents]

end Route

structure RouteObject where
  apiVersion : String
  kind : String
  metadata : PlainMetadata
  spec : Route.Spec
  status : Option Route.Status
  deriving DecidableEq, Inhabited

namespace RouteObject

def standardApiVersion : String := "gateway.networking.k8s.io/v1"

def standardKind : String := "HTTPRoute"

def ofSpec (metadata : PlainMetadata) (spec : Route.Spec) : RouteObject :=
  ⟨standardApiVersion, standardKind, metadata, spec, none⟩

/-- The first condition by which a parent says that it did not take the route. -/
def rejection? (r : RouteObject) : Option Route.ParentCondition :=
  ((r.status.map (·.parents)).getD []).flatMap (·.conditions) |>.find? fun c =>
    (c.type = "Accepted" || c.type = "ResolvedRefs") && c.status = "False"

instance : Wire RouteObject where
  read? j := do
    let m ← j.fields? ["apiVersion", "kind", "metadata", "spec", "status"]
    return {
      apiVersion := ← m.orElse "apiVersion" standardApiVersion
      kind := ← m.orElse "kind" standardKind
      metadata := ← m.required "metadata"
      spec := ← m.required "spec"
      status := ← m.optional "status" }
  write r := .record [
    field "apiVersion" r.apiVersion,
    field "kind" r.kind,
    field "metadata" r.metadata,
    field "spec" r.spec,
    optionalField "status" r.status]

end RouteObject

end InferenceReconciler
