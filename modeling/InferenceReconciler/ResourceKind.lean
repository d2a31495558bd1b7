import InferenceReconciler.ImageReference

/-!
# Kinds of resources

The kinds of objects a pass reads or writes, each with the version of its interface and
the plural under which the cluster serves it.
-/

namespace InferenceReconciler

/-- How a kind is addressed in the cluster. -/
structure ApiResource where
  group : String
  version : String
  kind : String
  apiVersion : String
  plural : String
  deriving DecidableEq, Repr, Inhabited

/-- Group and version of an interface; one of the core has no group. -/
def splitApiVersion (apiVersion : String) : String × String :=
  match splitFirst? '/' apiVersion.toList with
  | some (group, version) => (String.ofList group, String.ofList version)
  | none => ("", apiVersion)

def pluralOf (kind : String) : String :=
  let lower := (lowercase kind).toList
  let endsIn (s : String) : Bool := s.toList.isSuffixOf lower
  let plural :=
    if endsIn "s" || endsIn "ch" || endsIn "sh" then lower ++ ['e', 's']
    else if endsIn "y" && !endsIn "ay" && !endsIn "ey" then lower.dropLast ++ ['i', 'e', 's']
    else lower ++ ['s']
  String.ofList plural

def ApiResource.of (apiVersion kind : String) : ApiResource :=
  let (group, version) := splitApiVersion apiVersion
  ⟨group, version, kind, apiVersion, pluralOf kind⟩

inductive ResourceKind where
  | runtimeConfig
  | clusterRuntimeConfig
  | model
  | clusterModel
  | template
  | clusterTemplate
  | templateCache
  | modelCache
  | service
  | volumeClaim
  | inferenceService
  | pod
  | node
  | httpRoute
  deriving DecidableEq, Repr, Inhabited

namespace ResourceKind

def customGroup : String := "aim.eai.amd.com"

def customVersion : String := "v1alpha1"

def text : ResourceKind → String
  | runtimeConfig => "AIMRuntimeConfig"
  | clusterRuntimeConfig => "AIMClusterRuntimeConfig"
  | model => "AIMModel"
  | clusterModel => "AIMClusterModel"
  | template => "AIMServiceTemplate"
  | clusterTemplate => "AIMClusterServiceTemplate"
  | templateCache => "AIMTemplateCache"
  | modelCache => "AIMModelCache"
  | service => "AIMService"
  | volumeClaim => "PersistentVolumeClaim"
  | inferenceService => "InferenceService"
  | pod => "Pod"
  | node => "Node"
  | httpRoute => "HTTPRoute"

def custom : List ResourceKind :=
  [runtimeConfig, clusterRuntimeConfig, model, clusterModel, template, clusterTemplate,
    templateCache, modelCache, service]

def all : List ResourceKind :=
  custom ++ [volumeClaim, inferenceService, pod, node, httpRoute]

def ofText? (s : String) : Option ResourceKind := all.find? fun k => k.text = s

def apiVersion : ResourceKind → String
  | volumeClaim | pod | node => "v1"
  | inferenceService => "serving.kserve.io/v1beta1"
  | httpRoute => "gateway.networking.k8s.io/v1"
  | _ => s!"{customGroup}/{customVersion}"

def isNamespaced : ResourceKind → Bool
  | clusterRuntimeConfig | clusterModel | clusterTemplate | node => false
  | _ => true

def resource (k : ResourceKind) : ApiResource := .of k.apiVersion k.text

def plural (k : ResourceKind) : String := pluralOf k.text

@[simp] theorem resource_kind (k : ResourceKind) : k.resource.kind = k.text := rfl

@[simp] theorem resource_apiVersion (k : ResourceKind) : k.resource.apiVersion = k.apiVersion := rfl

@[simp] theorem resource_plural (k : ResourceKind) : k.resource.plural = k.plural := rfl

end ResourceKind

end InferenceReconciler
