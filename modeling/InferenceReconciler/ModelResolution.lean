import InferenceReconciler.ComponentHealth
import InferenceReconciler.CustomObject
import InferenceReconciler.Labels

/-!
# Resolution of the model

A service names its model by record, by image or in place. For an image or a description
that no record fits, a new shared record is planned whose name is a function of what it
is made from, so later passes find it.
-/

namespace InferenceReconciler

/-- A model record of either scope. -/
structure ModelRecord where
  name : String
  «namespace» : Option String
  scope : ResourceScope
  uid : Option String
  spec : ModelSpec
  status : LifecycleStatus
  deriving DecidableEq, Inhabited

namespace ModelRecord

def ofObject (scope : ResourceScope) (o : ModelObject) : ModelRecord where
  name := o.displayName
  «namespace» := if scope = .namespaced then o.metadata.namespace else none
  scope := scope
  uid := o.metadata.uid
  spec := o.spec
  status := (o.status.map (·.status)).getD .pending

def reference (r : ModelRecord) : ResolvedReference := ⟨r.name, r.namespace, r.scope, r.uid⟩

end ModelRecord

structure ModelFetch where
  ofNamespace : List ModelObject
  ofCluster : List ModelObject
  deriving DecidableEq, Inhabited

/-- All records, those of the namespace first. -/
def ModelFetch.records (f : ModelFetch) : List ModelRecord :=
  f.ofNamespace.map (ModelRecord.ofObject .namespaced) ++
    f.ofCluster.map (ModelRecord.ofObject .cluster)

inductive ModelSelector where
  | byName (name : String)
  | byImage (image : String)
  | custom (model : CustomModel)
  deriving DecidableEq, Inhabited

/-- Exactly one of the three ways must be taken; blank texts count as absent. -/
def ModelSelector.ofSpec (m : ServiceModel) : Except Problem ModelSelector :=
  match trimmed? m.ref, trimmed? m.image, m.custom with
  | some name, none, none => .ok (.byName name)
  | none, some image, none => .ok (.byImage image)
  | none, none, some model => .ok (.custom model)
  | none, none, none => .error (.validation Reason.invalidSpec
      "spec.model must set one of ref, image or custom")
  | _, _, _ => .error (.validation Reason.invalidSpec
      "spec.model fields ref, image and custom are mutually exclusive")

def parseImage (image : String) : Except Problem ImageReference :=
  match ImageReference.parse image with
  | .ok r => .ok r
  | .error f => .error (.validation Reason.invalidImageReference (f.message?.getD ""))

def autoModelName (image : String) : Except Problem String :=
  (parseImage image).map fun r =>
    derivedNameWith (.withHashLength 4) [r.name, r.tag] [.str image]

def CustomModel.hashed (m : CustomModel) : List Json :=
  [.str m.baseImage, Wire.write m.modelSources, Wire.write m.gpuSelector]

def customModelName (m : CustomModel) : Except Problem String :=
  (parseImage m.baseImage).map fun r => derivedName [r.name, "custom"] m.hashed

structure ModelObservation where
  resolved : Option ModelRecord
  toCreate : Option ModelObject
  error : Option Problem
  deriving DecidableEq, Inhabited

namespace ModelObservation

def found (r : ModelRecord) : ModelObservation := ⟨some r, none, none⟩

def creating (o : ModelObject) : ModelObservation := ⟨none, some o, none⟩

def failed (p : Problem) : ModelObservation := ⟨none, none, some p⟩

def needsCreation (o : ModelObservation) : Bool := o.toCreate.isSome

def ready? (o : ModelObservation) : Option ModelRecord :=
  o.resolved.filter fun r => r.status.isReady

@[simp] theorem ready?_failed (p : Problem) : (failed p).ready? = none := rfl

@[simp] theorem ready?_creating (o : ModelObject) : (creating o).ready? = none := rfl

end ModelObservation

/-- A shared record with one label that tells how it came to be. -/
def newModel (name «namespace» label value : String) (spec : ModelSpec) : ModelObject where
  metadata := { Metadata.empty with
    name := some name
    «namespace» := some «namespace»
    labels := some (.ofList [(label, value), (Labels.managedBy, Labels.manager)]) }
  spec := spec
  status := none

def resolveByName (name : String) (records : List ModelRecord) : ModelObservation :=
  let inScope (scope : ResourceScope) := records.find? fun r => r.scope = scope && r.name = name
  match inScope .namespaced <|> inScope .cluster with
  | some r => .found r
  | none => .failed (.provided Reason.modelNotFound
      s!"model {quoted name} not found in namespace or cluster scope")

def recordsOfImage (image : String) (scope : ResourceScope) (records : List ModelRecord) :
    List ModelRecord :=
  records.filter fun r => r.scope = scope && trimBlanks r.spec.image = image

/-- One record of the scope resolves the image and more than one is a problem. -/
def resolveImageInScope (image : String) (scope : ResourceScope) (records : List ModelRecord) :
    Option ModelObservation :=
  match recordsOfImage image scope records with
  | [] => none
  | [r] => some (.found r)
  | many =>
    let names := ", ".intercalate (many.map (·.name))
    some (.failed (.provided Reason.multipleModelsFound
      s!"{many.length} {scope.text} scope models use image {image}: {names}"))

def resolveByImage (image «namespace» : String) (records : List ModelRecord) : ModelObservation :=
  match resolveImageInScope image .namespaced records <|>
      resolveImageInScope image .cluster records with
  | some o => o
  | none =>
    match autoModelName image with
    | .error p => .failed p
    | .ok name => .creating
        (newModel name «namespace» Labels.origin Labels.originAutoGenerated (.ofImage image))

def resolveCustom (m : CustomModel) («namespace» : String) (records : List ModelRecord) :
    ModelObservation :=
  if m.modelSources.isEmpty then
    .failed (.validation Reason.invalidSpec "spec.model.custom.modelSources must not be empty")
  else
    match customModelName m with
    | .error p => .failed p
    | .ok name =>
      match records.find? fun r => r.scope = .namespaced && r.name = name with
      | some r => .found r
      | none => .creating (newModel name «namespace» Labels.customModel "true"
          { ModelSpec.ofImage m.baseImage with modelSources := m.modelSources })

def observeModel (service : ServiceObject) (records : List ModelRecord) : ModelObservation :=
  let ofNamespace := service.metadata.namespace.getD ""
  match ModelSelector.ofSpec service.spec.model with
  | .error p => .failed p
  | .ok (.byName name) => resolveByName name records
  | .ok (.byImage image) => resolveByImage image ofNamespace records
  | .ok (.custom m) => resolveCustom m ofNamespace records

/-- Only a ready record lets the components after the model be looked at. -/
def ModelRecord.project (r : ModelRecord) : Projection :=
  match r.status with
  | .ready =>
    let health := .ready .model Reason.modelResolved s!"model {r.name} is ready"
    (Projection.of health false).withUpdate
      { StatusUpdate.none with resolvedModel := some r.reference }
  | .failed | .degraded =>
    .of (.ofProblem .model (.provided Reason.modelNotReady
      s!"model {r.name} is {r.status.text}")) true
  | .notAvailable =>
    .of ((ComponentHealth.ofProblem .model (.provided Reason.modelNotReady
      s!"model {r.name} is not available on this cluster")).withState .notAvailable) true
  | .pending | .progressing =>
    .of (.progressing .model Reason.modelNotReady
      s!"waiting for model {r.name} to become ready") true

def ModelObservation.project (o : ModelObservation) : Projection :=
  match o.error, o.toCreate, o.resolved with
  | some p, _, _ => .of (.ofProblem .model p) true
  | none, some m, _ =>
    .of (.pending .model Reason.creatingModel
      s!"creating model {m.displayName} for image {m.spec.image}") true
  | none, none, none => .of (.pending .model Reason.modelNotFound "no model resolved") true
  | none, none, some r => r.project

end InferenceReconciler
