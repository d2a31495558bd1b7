import InferenceReconciler.Reasons
import InferenceReconciler.ServiceStatus

/-!
# Health of the components

Each domain of a service reports in the same form: a problem it found, the health of its
component, and a projection, which is its share of the next status. A blocking
projection keeps the components after it from being looked at in this pass.
-/

namespace InferenceReconciler

/-- The domains, in the order in which they are projected. -/
inductive Component where
  | config
  | model
  | template
  | caching
  | storage
  | runtime
  | routing
  deriving DecidableEq, Repr, Inhabited

namespace Component

def text : Component → String
  | config => "config"
  | model => "model"
  | template => "template"
  | caching => "caching"
  | storage => "storage"
  | runtime => "runtime"
  | routing => "routing"

/-- The type of the condition in which the component reports. -/
def conditionType : Component → String
  | config => "ConfigResolved"
  | model => "ModelResolved"
  | template => "TemplateResolved"
  | caching => "CacheReady"
  | storage => "StorageReady"
  | runtime => "RuntimeReady"
  | routing => "RoutingReady"

theorem conditionType_injective {a b : Component} (h : a.conditionType = b.conditionType) :
    a = b := by
  revert h
  cases a <;> cases b <;> decide

def position : Component → Nat
  | config => 0
  | model => 1
  | template => 2
  | caching => 3
  | storage => 4
  | runtime => 5
  | routing => 6

end Component

/-- What has to change before a failure clears. -/
inductive Dependency where
  /-- An object or a reference that the user provides. -/
  | provided
  /-- An object that the reconciler manages, which is expected to mend by itself. -/
  | managed
  /-- The specification, which can never hold as it is written. -/
  | validation
  deriving DecidableEq, Repr, Inhabited

/-- A failure a domain found. -/
structure Problem where
  kind : Dependency
  reason : String
  message : String
  deriving DecidableEq, Repr, Inhabited

namespace Problem

def provided (reason message : String) : Problem := ⟨.provided, reason, message⟩

def managed (reason message : String) : Problem := ⟨.managed, reason, message⟩

def validation (reason message : String) : Problem := ⟨.validation, reason, message⟩

def text (p : Problem) : String := s!"{p.reason}: {p.message}"

end Problem

inductive HealthState where
  | ready
  | progressing
  | pending
  | failed
  | notAvailable
  deriving DecidableEq, Repr, Inhabited

structure ComponentHealth where
  component : Component
  state : HealthState
  reason : String
  message : String
  /-- What has to change if the component is not ready. -/
  dependency : Dependency
  errors : List String
  deriving DecidableEq, Repr, Inhabited

namespace ComponentHealth

def ready (component : Component) (reason message : String) : ComponentHealth :=
  ⟨component, .ready, reason, message, .managed, []⟩

def progressing (component : Component) (reason message : String) : ComponentHealth :=
  ⟨component, .progressing, reason, message, .managed, []⟩

def pending (component : Component) (reason message : String) : ComponentHealth :=
  ⟨component, .pending, reason, message, .managed, []⟩

def ofProblem (component : Component) (p : Problem) : ComponentHealth :=
  ⟨component, .failed, p.reason, p.message, p.kind, []⟩

def withState (h : ComponentHealth) (state : HealthState) : ComponentHealth :=
  { h with state }

def withErrors (h : ComponentHealth) (errors : List String) : ComponentHealth :=
  { h with errors }

@[simp] theorem state_ready (component : Component) (reason message : String) :
    (ready component reason message).state = .ready := rfl

@[simp] theorem state_progressing (component : Component) (reason message : String) :
    (progressing component reason message).state = .progressing := rfl

@[simp] theorem state_pending (component : Component) (reason message : String) :
    (pending component reason message).state = .pending := rfl

@[simp] theorem state_ofProblem (component : Component) (p : Problem) :
    (ofProblem component p).state = .failed := rfl

@[simp] theorem state_withState (h : ComponentHealth) (state : HealthState) :
    (h.withState state).state = state := rfl

def conditionStatus (h : ComponentHealth) : ConditionStatus :=
  match h.state with
  | .ready => .holds
  | .progressing | .pending => .unknown
  | .failed | .notAvailable => .fails

def condition (h : ComponentHealth) (now : Timestamp) : Condition :=
  ⟨h.component.conditionType, h.conditionStatus, h.reason, h.message, now⟩

end ComponentHealth

/-- The fields of the status that a domain sets; a field without a value stays as it is. -/
structure StatusUpdate where
  resolvedRuntimeConfig : Option ResolvedReference
  resolvedModel : Option ResolvedReference
  resolvedTemplate : Option ResolvedReference
  cache : Option ServiceCacheStatus
  routing : Option ServiceRoutingStatus
  deriving DecidableEq, Inhabited

namespace StatusUpdate

def none : StatusUpdate := ⟨.none, .none, .none, .none, .none⟩

def apply (u : StatusUpdate) (s : ServiceStatus) : ServiceStatus :=
  { s with
    resolvedRuntimeConfig := u.resolvedRuntimeConfig <|> s.resolvedRuntimeConfig
    resolvedModel := u.resolvedModel <|> s.resolvedModel
    resolvedTemplate := u.resolvedTemplate <|> s.resolvedTemplate
    cache := u.cache <|> s.cache
    routing := u.routing <|> s.routing }

@[simp] theorem apply_none (s : ServiceStatus) : StatusUpdate.none.apply s = s := rfl

@[simp] theorem conditions_apply (u : StatusUpdate) (s : ServiceStatus) :
    (u.apply s).conditions = s.conditions := rfl

end StatusUpdate

/-- What a domain says of its component. -/
inductive Report where
  /-- Nothing; its condition stays. -/
  | silent
  /-- The component does not apply; its condition goes. -/
  | notApplicable (component : Component)
  | health (h : ComponentHealth)
  deriving DecidableEq, Repr, Inhabited

namespace Report

def component? : Report → Option Component
  | silent => none
  | notApplicable c => some c
  | health h => some h.component

def health? : Report → Option ComponentHealth
  | health h => some h
  | _ => none

end Report

structure Projection where
  report : Report
  update : StatusUpdate
  blocking : Bool
  deriving DecidableEq, Inhabited

namespace Projection

def of (h : ComponentHealth) (blocking : Bool) : Projection := ⟨.health h, .none, blocking⟩

def notApplicable (component : Component) : Projection :=
  ⟨.notApplicable component, .none, false⟩

def withUpdate (p : Projection) (update : StatusUpdate) : Projection := { p with update }

@[simp] theorem report_of (h : ComponentHealth) (blocking : Bool) :
    (of h blocking).report = .health h := rfl

@[simp] theorem blocking_of (h : ComponentHealth) (blocking : Bool) :
    (of h blocking).blocking = blocking := rfl

@[simp] theorem report_withUpdate (p : Projection) (u : StatusUpdate) :
    (p.withUpdate u).report = p.report := rfl

@[simp] theorem blocking_withUpdate (p : Projection) (u : StatusUpdate) :
    (p.withUpdate u).blocking = p.blocking := rfl

end Projection

end InferenceReconciler
