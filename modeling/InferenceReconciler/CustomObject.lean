import InferenceReconciler.CacheSpec
import InferenceReconciler.ModelSpec
import InferenceReconciler.ResourceKind
import InferenceReconciler.ServiceSpec
import InferenceReconciler.ServiceStatus
import InferenceReconciler.TemplateSpec

/-!
# Objects of the custom resources

An object is its metadata, a specification and perhaps a status. The kind is written
with the object and not looked at when one is read, so the kinds for a namespace and for
the cluster share one type.
-/

namespace InferenceReconciler

/-- What the cluster knows of any object. -/
structure Metadata where
  name : Option String
  generateName : Option String
  «namespace» : Option String
  uid : Option String
  generation : Option Int64
  labels : Option (Dict String)
  annotations : Option (Dict String)
  /-- Set once the object is to be removed. -/
  deletionTimestamp : Option Timestamp
  deriving DecidableEq

namespace Metadata

def empty : Metadata := ⟨none, none, none, none, none, none, none, none⟩

instance : Inhabited Metadata := ⟨empty⟩

/-- The name, or what it will start with. -/
def displayName (m : Metadata) : String := (m.name <|> m.generateName).getD ""

def label? (m : Metadata) (key : String) : Option String :=
  m.labels.bind fun labels => labels.find? key

def annotationValue? (m : Metadata) (key : String) : Option String :=
  m.annotations.bind fun annotations => annotations.find? key

/-- The instant of removal is written without a fraction of a second. -/
instance : Wire Metadata where
  read? j := do
    let m ← j.members?
    return {
      name := ← m.optional "name"
      generateName := ← m.optional "generateName"
      «namespace» := ← m.optional "namespace"
      uid := ← m.optional "uid"
      generation := ← m.optional "generation"
      labels := ← m.optional "labels"
      annotations := ← m.optional "annotations"
      deletionTimestamp := ← m.optional "deletionTimestamp" }
  write m := .record [
    optionalField "annotations" m.annotations,
    optionalField "deletionTimestamp" (m.deletionTimestamp.map Timestamp.textInSeconds),
    optionalField "generateName" m.generateName,
    optionalField "generation" m.generation,
    optionalField "labels" m.labels,
    optionalField "name" m.name,
    optionalField "namespace" m.namespace,
    optionalField "uid" m.uid]

end Metadata

structure CustomObject (σ τ : Type) where
  metadata : Metadata
  spec : σ
  status : Option τ
  deriving DecidableEq

namespace CustomObject

variable {σ τ : Type}

instance [Inhabited σ] : Inhabited (CustomObject σ τ) := ⟨⟨.empty, default, none⟩⟩

def displayName (o : CustomObject σ τ) : String := o.metadata.displayName

def read? [Wire σ] [Wire τ] (j : Json) : Option (CustomObject σ τ) := do
  let m ← j.fields? ["metadata", "spec", "status"]
  return {
    metadata := ← m.required "metadata"
    spec := ← m.required "spec"
    status := ← m.optional "status" }

def write [Wire σ] [Wire τ] (kind : ResourceKind) (o : CustomObject σ τ) : Json :=
  .record [
    field "apiVersion" kind.apiVersion,
    field "kind" kind.text,
    field "metadata" o.metadata,
    field "spec" o.spec,
    optionalField "status" o.status]

end CustomObject

abbrev RuntimeConfigObject := CustomObject RuntimeConfigSpec StatusReport

abbrev ModelObject := CustomObject ModelSpec StatusReport

abbrev TemplateObject := CustomObject TemplateSpec TemplateStatus

abbrev TemplateCacheObject := CustomObject TemplateCacheSpec StatusReport

abbrev ModelCacheObject := CustomObject ModelCacheSpec ModelCacheStatus

abbrev ServiceObject := CustomObject ServiceSpec ServiceStatus

end InferenceReconciler
