import InferenceReconciler.DerivedTemplate
import InferenceReconciler.ModelResolution
import InferenceReconciler.TemplateSelection

/-!
# Resolution of the template

The template in the status is kept as long as it is ready and fits. Otherwise the named
template is taken, or the best of the model's. A base that does not satisfy the
overrides gives way to a template derived from it, which is found by name once it is
there.
-/

namespace InferenceReconciler

inductive TemplateOutcome where
  | waitingForModel
  /-- A template was chosen; it may still be coming up. -/
  | resolved (t : TemplateRecord)
  /-- A derived template has to be created first. -/
  | deriving (t : TemplateObject)
  | notReady (message : String)
  | failed (p : Problem)
  deriving DecidableEq

structure TemplateObservation where
  outcome : TemplateOutcome
  /-- Whether the reference in the status was kept without a search. -/
  reused : Bool
  deriving DecidableEq

namespace TemplateObservation

def resolved? (o : TemplateObservation) : Option TemplateRecord :=
  match o.outcome with
  | .resolved t => some t
  | _ => none

def ready? (o : TemplateObservation) : Option TemplateRecord :=
  o.resolved?.filter TemplateRecord.isReady

def toCreate? (o : TemplateObservation) : Option TemplateObject :=
  match o.outcome with
  | .deriving t => some t
  | _ => none

end TemplateObservation

def findNamespaced (name «namespace» : String) (l : List TemplateRecord) : Option TemplateRecord :=
  l.find? fun t => t.scope = .namespaced && t.name = name && t.namespace = some «namespace»

def findOfCluster (name : String) (l : List TemplateRecord) : Option TemplateRecord :=
  l.find? fun t => t.scope = .cluster && t.name = name

/-- The base if it satisfies the overrides, the template derived from it if there is
one, or the plan of one. -/
def resolveBase (base : TemplateRecord) (overrides : Option TemplateOverrides)
    (templates : List TemplateRecord) («namespace» : String) : TemplateOutcome :=
  match overrides with
  | none => .resolved base
  | some o =>
    if satisfies base.spec o then .resolved base
    else
      match findNamespaced (derivedTemplateName base.name (some o)) «namespace» templates with
      | some existing => .resolved existing
      | none => .deriving (derivedTemplate base o «namespace»)

/-- Whether a recorded template is ready and still what the service asks for. -/
def stillFits (t : TemplateRecord) (model : ModelRecord) (named : Option String)
    (overrides : Option TemplateOverrides) : Bool :=
  t.isReady && t.spec.modelName = model.name &&
    (overrides.all fun o => satisfies t.spec o) &&
    (named.all fun name => t.name = name || t.name = derivedTemplateName name overrides)

/-- The first template the reference points at, if it still fits. -/
def recorded? (prior : Option ResolvedReference) (model : ModelRecord) (named : Option String)
    (overrides : Option TemplateOverrides) (templates : List TemplateRecord) :
    Option TemplateRecord := do
  let ref ← prior
  let t ← templates.find? fun t => t.isReferredBy ref
  if stillFits t model named overrides then some t else none

def resolveNamed (name : String) (overrides : Option TemplateOverrides)
    (templates : List TemplateRecord) («namespace» : String) : TemplateOutcome :=
  match findNamespaced name «namespace» templates <|> findOfCluster name templates with
  | some base => resolveBase base overrides templates «namespace»
  | none => .failed (.provided Reason.templateNotFound
      s!"template {quoted name} not found in namespace or cluster scope")

def isDerived (t : TemplateRecord) : Bool :=
  t.labels.find? Labels.derivedTemplate = some "true"

def candidatesFor (model : ModelRecord) (templates : List TemplateRecord) : List TemplateRecord :=
  templates.filter fun t => t.spec.modelName = model.name && !isDerived t

def notReadyMessage (count : Nat) (model : ModelRecord) : String :=
  s!"{count} candidate templates for model {model.name} are not ready yet"

/-- The GPU that the overrides ask for and no node has. -/
def missingGpu? (o : TemplateOverrides) (gpus : List String) : Option String :=
  ((o.gpuSelector.bind (·.model)).map GpuModel.canonical).filter fun wanted =>
    !gpus.isEmpty && !gpus.contains wanted

/-- A template derived from the best candidate; none without a best one. -/
def deriveFromBest (model : ModelRecord) (o : TemplateOverrides)
    (candidates templates : List TemplateRecord) (gpus : List String) («namespace» : String) :
    Option TemplateOutcome :=
  match missingGpu? o gpus with
  | some wanted => some (.failed (.validation Reason.validationFailed
      s!"overrides request GPU {wanted} which no node in the cluster provides"))
  | none =>
    match selectTemplate candidates none gpus with
    | .selected base => some (resolveBase base (some o) templates «namespace»)
    | .notReady count => some (.notReady (notReadyMessage count model))
    | .failed _ => none

/-- The best template of the model; where none satisfies the overrides, one derived from
the best. -/
def resolveBest (model : ModelRecord) (overrides : Option TemplateOverrides)
    (templates : List TemplateRecord) (gpus : List String) («namespace» : String) :
    TemplateOutcome :=
  let candidates := candidatesFor model templates
  match selectTemplate candidates overrides gpus with
  | .selected t => .resolved t
  | .notReady count => .notReady (notReadyMessage count model)
  | .failed p =>
    if p.reason = Reason.validationFailed then
      (overrides.bind fun o =>
        deriveFromBest model o candidates templates gpus «namespace»).getD (.failed p)
    else .failed p

def observeTemplate (service : ServiceObject) (model : Option ModelRecord)
    (templates : List TemplateRecord) (gpus : List String) : TemplateObservation :=
  match model.filter fun m => m.status.isReady with
  | none => ⟨.waitingForModel, false⟩
  | some model =>
    let ofNamespace := service.metadata.namespace.getD ""
    let overrides := service.spec.effectiveOverrides
    let named := trimmed? service.spec.templateName
    match recorded? (service.status.bind (·.resolvedTemplate)) model named overrides templates with
    | some t => ⟨.resolved t, true⟩
    | none =>
      match named with
      | some name => ⟨resolveNamed name overrides templates ofNamespace, false⟩
      | none => ⟨resolveBest model overrides templates gpus ofNamespace, false⟩

/-- Only a ready template lets the components after it be looked at. -/
def TemplateRecord.project (t : TemplateRecord) : Projection :=
  match t.status.status with
  | .ready =>
    (Projection.of (.ready .template Reason.resolved
      s!"using template {t.name} ({t.scope.text})") false).withUpdate
      { StatusUpdate.none with resolvedTemplate := some t.reference }
  | .failed | .degraded =>
    .of (.ofProblem .template (.provided Reason.templateNotReady
      s!"template {t.name} is {t.status.status.text}")) true
  | .notAvailable =>
    .of ((ComponentHealth.ofProblem .template (.provided Reason.templateNotReady
      s!"template {t.name} is not available on this cluster")).withState .notAvailable) true
  | .pending | .progressing =>
    .of (.progressing .template Reason.templateNotReady
      s!"waiting for template {t.name} to become ready") true

def TemplateObservation.project (o : TemplateObservation) : Projection :=
  match o.outcome with
  | .waitingForModel =>
    .of (.pending .template Reason.templateNotReady "waiting for model") true
  | .failed p => .of (.ofProblem .template p) true
  | .notReady message => .of (.progressing .template Reason.templateNotReady message) true
  | .deriving t =>
    .of (.pending .template Reason.creatingDerivedTemplate
      s!"creating derived template {t.displayName}") true
  | .resolved t => t.project

end InferenceReconciler
