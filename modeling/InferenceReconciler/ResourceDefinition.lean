import InferenceReconciler.CustomSchemas
import InferenceReconciler.ResourceKind

/-!
# Definitions of the custom resources

What the cluster is told so that it serves a custom resource: its names, its scope, the
columns of its listings and the schema its objects are checked against.
-/

namespace InferenceReconciler

inductive ColumnType where
  | text
  | date
  deriving DecidableEq, Repr, Inhabited

def ColumnType.word : ColumnType → String
  | text => "string"
  | date => "date"

/-- A column of a listing, taken from a path of the object. -/
structure PrinterColumn where
  name : String
  type : ColumnType
  path : String
  deriving DecidableEq, Repr, Inhabited

namespace PrinterColumn

def ofText (name path : String) : PrinterColumn := ⟨name, .text, path⟩

def status : PrinterColumn := .ofText "Status" ".status.status"

def age : PrinterColumn := ⟨"Age", .date, ".metadata.creationTimestamp"⟩

def shown (c : PrinterColumn) : Json := .record [
  field "jsonPath" c.path,
  field "name" c.name,
  field "type" c.type.word]

end PrinterColumn

/-- A record with a line about it. -/
structure DescribedRecord where
  about : String
  members : RecordShape

namespace DescribedRecord

def schema (r : DescribedRecord) : Json := describe r.about (Shape.record r.members).schema

end DescribedRecord

structure ResourceDefinition where
  kind : ResourceKind
  shortName : String
  columns : List PrinterColumn
  spec : DescribedRecord
  status : DescribedRecord

namespace ResourceDefinition

variable (d : ResourceDefinition)

def name : String := s!"{d.kind.plural}.{ResourceKind.customGroup}"

/-- Of an object the specification is required; its status may be null. -/
def schema : Json :=
  let properties := [
    ("spec", d.spec.schema),
    ("status", Presence.nullable.mark d.status.schema)]
  let about := s!"Auto-generated derived type for {d.kind.text}Spec via `CustomResource`"
  ((recordSchema properties ["spec"]).set "title" (.str d.kind.text)).set "description" (.str about)

def names : Json := .record [
  field "categories" ([] : List String),
  field "kind" d.kind.text,
  field "plural" d.kind.plural,
  field "shortNames" [d.shortName],
  field "singular" (lowercase d.kind.text)]

/-- The one version that is served and stored, without its schema. -/
def version : Json := .record [
  some ("additionalPrinterColumns", .arr (d.columns.map PrinterColumn.shown)),
  field "name" ResourceKind.customVersion,
  field "served" true,
  field "storage" true,
  some ("subresources", .obj [("status", .obj [])])]

def frame (version : Json) : Json := .record [
  field "apiVersion" "apiextensions.k8s.io/v1",
  field "kind" "CustomResourceDefinition",
  some ("metadata", .record [field "name" d.name]),
  some ("spec", .record [
    field "group" ResourceKind.customGroup,
    some ("names", d.names),
    field "scope" (if d.kind.isNamespaced then "Namespaced" else "Cluster"),
    some ("versions", .arr [version])])]

def outline : Json := d.frame d.version

def schemaPart : Json := .obj [("openAPIV3Schema", d.schema)]

def manifest : Json := d.frame (d.version.set "schema" d.schemaPart)

def ofModels (kind : ResourceKind) (shortName : String) (columns : List PrinterColumn)
    (about : String) : ResourceDefinition where
  kind := kind
  shortName := shortName
  columns := .ofText "Image" ".spec.image" :: .status :: columns
  spec := ⟨about, CustomSchema.modelSpec⟩
  status := ⟨"Model status", CustomSchema.plainStatus⟩

def ofTemplates (kind : ResourceKind) (shortName : String) (columns : List PrinterColumn)
    (about : String) : ResourceDefinition where
  kind := kind
  shortName := shortName
  columns := .ofText "Model" ".spec.modelName" :: columns ++ [.status]
  spec := ⟨about, CustomSchema.templateSpec⟩
  status := ⟨"Template status", CustomSchema.templateStatus⟩

def ofRuntimeConfigs (kind : ResourceKind) (shortName about : String) : ResourceDefinition where
  kind := kind
  shortName := shortName
  columns := []
  spec := ⟨about, CustomSchema.runtimeConfigSpec⟩
  status := ⟨"Runtime config status", CustomSchema.plainStatus⟩

def services : ResourceDefinition where
  kind := .service
  shortName := "aimsvc"
  columns := [
    .status,
    .ofText "Model" ".status.resolvedModel.name",
    .ofText "Template" ".status.resolvedTemplate.name",
    .ofText "Path" ".status.routing.path",
    .age]
  spec := ⟨"AIMService specification", CustomSchema.serviceSpec⟩
  status := ⟨"AIMService status", CustomSchema.serviceStatus⟩

def templateCaches : ResourceDefinition where
  kind := .templateCache
  shortName := "aimtc"
  columns := [.ofText "Template" ".spec.templateName", .status]
  spec := ⟨"Shared weight cache for one template", CustomSchema.templateCacheSpec⟩
  status := ⟨"Template cache status", CustomSchema.plainStatus⟩

def modelCaches : ResourceDefinition where
  kind := .modelCache
  shortName := "aimmc"
  columns := [.ofText "Source" ".spec.sourceUri", .ofText "Size" ".spec.size", .status]
  spec := ⟨"Cached copy of one weight source", CustomSchema.modelCacheSpec⟩
  status := ⟨"Model cache status", CustomSchema.modelCacheStatus⟩

def all : List ResourceDefinition := [
  services,
  ofModels .model "aimm" [.age] "Namespaced model record",
  ofModels .clusterModel "aimcm" [] "Cluster-wide model record",
  ofTemplates .template "aimst"
    [.ofText "Metric" ".spec.metric", .ofText "Precision" ".spec.precision"]
    "Namespaced serving template",
  ofTemplates .clusterTemplate "aimcst" [] "Cluster-wide serving template",
  templateCaches,
  modelCaches,
  ofRuntimeConfigs .runtimeConfig "aimrc" "Namespace-wide runtime defaults",
  ofRuntimeConfigs .clusterRuntimeConfig "aimcrc" "Cluster-wide runtime defaults"]

end ResourceDefinition

end InferenceReconciler
