import InferenceReconciler.ImagePull
import InferenceReconciler.RuntimeObject

/-!
# The gate of the runtime

A runtime is built once the model and the template are ready and the weights are in
place. Until then the condition says what is waited for.
-/

namespace InferenceReconciler

structure RuntimeObservation where
  name : String
  existing : Option InferenceService
  /-- What keeps the gate closed. -/
  waitingOn : List String
  pullFailure : Option PullFailure
  deriving DecidableEq

namespace RuntimeObservation

def «exists» (o : RuntimeObservation) : Bool := o.existing.isSome

def isOpen (o : RuntimeObservation) : Bool := o.waitingOn.isEmpty

end RuntimeObservation

def waitingFor (modelReady templateReady storageReady : Bool) : List String :=
  (if modelReady then [] else ["model"]) ++ (if templateReady then [] else ["template"]) ++
    if storageReady then [] else ["storage"]

@[simp] theorem waitingFor_eq_nil {m t s : Bool} : waitingFor m t s = [] ↔ m ∧ t ∧ s := by
  cases m <;> cases t <;> cases s <;> decide

def observeRuntime (service : ServiceObject) (model : Option ModelRecord)
    (template : Option TemplateRecord) (caching : CachingObservation)
    (existing : Option InferenceService) (pods : List Pod) : RuntimeObservation where
  name := runtimeName service
  existing := existing
  waitingOn := waitingFor (model.any fun m => m.status.isReady)
    (template.any TemplateRecord.isReady) caching.storageReady
  pullFailure := pullFailure? pods

namespace RuntimeObservation

def failureHealth? (o : RuntimeObservation) (existing : InferenceService) :
    Option ComponentHealth :=
  match o.pullFailure, existing.lastFailure? with
  | some f, _ => some (.ofProblem .runtime (.managed f.reason f.message))
  | none, some f =>
    some (.ofProblem .runtime (.managed Reason.runtimeFailed s!"{f.reason}: {f.message}"))
  | none, none => none

def health (o : RuntimeObservation) : ComponentHealth :=
  match o.existing with
  | some existing =>
    if existing.isReady then
      .ready .runtime Reason.runtimeReady s!"runtime {o.name} is ready"
    else (o.failureHealth? existing).getD
      (.progressing .runtime Reason.creatingRuntime s!"runtime {o.name} is starting")
  | none =>
    if o.isOpen then .progressing .runtime Reason.creatingRuntime s!"creating runtime {o.name}"
    else
      let missing := ", ".intercalate o.waitingOn
      .pending .runtime Reason.waitingForDependencies s!"waiting for {missing}"

/-- The runtime keeps nothing else from being projected. -/
def project (o : RuntimeObservation) : Projection := .of o.health false

end RuntimeObservation

end InferenceReconciler
