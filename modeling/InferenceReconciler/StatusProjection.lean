import InferenceReconciler.ComponentHealth
import InferenceReconciler.ConditionHistory

/-!
# Projection of the status

The projections of a pass are folded in order onto the status of the pass before. The
first blocking one ends the fold, so the conditions of the components after it stay
exactly as they were.
-/

namespace InferenceReconciler

structure ProjectedStatus where
  status : ServiceStatus
  /-- The health of every projected component, in order. -/
  health : List ComponentHealth
  /-- The component that ended the fold. -/
  blockedBy : Option Component
  deriving DecidableEq, Inhabited

def Report.applyConditions (r : Report) (now : Timestamp) (l : List Condition) :
    List Condition :=
  match r with
  | .silent => l
  | .notApplicable c => removeCondition c.conditionType l
  | .health h => setCondition (h.condition now) l

def Projection.apply (p : Projection) (now : Timestamp) (s : ServiceStatus) : ServiceStatus :=
  { p.update.apply s with conditions := p.report.applyConditions now s.conditions }

/-- The fold, with the health seen so far in order. -/
def foldProjections (now : Timestamp) (s : ServiceStatus) (seen : List ComponentHealth) :
    List Projection → ProjectedStatus
  | [] => ⟨s, seen, none⟩
  | p :: rest =>
    let s := p.apply now s
    let seen := seen ++ p.report.health?.toList
    if p.blocking then ⟨s, seen, p.report.component?⟩ else foldProjections now s seen rest

/-- The phase that follows from the projected health: what can never be reconciled
fails, what somebody else has to mend degrades, and a ready runtime is running. -/
def phaseFor (health : List ComponentHealth) (runtimeExists : Bool) : ServicePhase :=
  let failed := health.filter fun h => h.state = .failed
  if failed.any fun h => h.dependency = .validation then .failed
  else if failed.any fun h => h.dependency = .provided || h.component = .runtime then .degraded
  else if health.any fun h => h.component = .runtime && h.state = .ready then .running
  else if runtimeExists then .starting
  else .pending

def reduceStatus (now : Timestamp) (prior : ServiceStatus) (projections : List Projection)
    (runtimeExists : Bool) (observedGeneration : Option Int64) : ProjectedStatus :=
  let folded := foldProjections now prior [] projections
  { folded with
    status := { folded.status with
      status := phaseFor folded.health runtimeExists
      observedGeneration := observedGeneration <|> prior.observedGeneration } }

/-- Whether both lists report the same states in the same order, at whatever times. -/
def sameStates : List Condition → List Condition → Bool
  | [], [] => true
  | a :: as, b :: bs => a.sameState b && sameStates as bs
  | _, _ => false

/-- Whether `next` says anything else than the status before it, times apart. -/
def statusChanged (prior : Option ServiceStatus) (next : ServiceStatus) : Bool :=
  match prior with
  | none => true
  | some prior =>
    !(sameStates prior.conditions next.conditions &&
      decide ({ prior with conditions := [] } = { next with conditions := [] }))

@[simp] theorem foldProjections_nil (now : Timestamp) (s : ServiceStatus)
    (seen : List ComponentHealth) : foldProjections now s seen [] = ⟨s, seen, none⟩ := rfl

@[simp] theorem sameStates_self (l : List Condition) : sameStates l l = true := by
  induction l with
  | nil => rfl
  | cons c rest ih => simp [sameStates, ih]

@[simp] theorem statusChanged_none (next : ServiceStatus) : statusChanged none next = true := rfl

@[simp] theorem statusChanged_self (s : ServiceStatus) : statusChanged (some s) s = false := by
  simp [statusChanged]

end InferenceReconciler
