import InferenceReconciler.QuotedText

/-!
# Faults

What can keep a reconcile pass from finishing. A request fault is the answer of the
cluster; the other three come from the specification, from an object that cannot be
read or written, and from a broken expectation of the reconciler itself.
-/

namespace InferenceReconciler

inductive Fault where
  /-- A refused or failed request, with the code of the answer when there was one. -/
  | request (code : Option Nat)
  | validation (service message : String) (field : Option String)
  | serialization (message : String) (kind : Option String)
  | internal (context message : String)
  deriving DecidableEq, Repr, Inhabited

namespace Fault

def unknown : String := "unknown"

def invalid (message : String) : Fault := .validation unknown message none

def invalidField (service field message : String) : Fault :=
  .validation service message (some field)

def unreadable (kind message : String) : Fault := .serialization message (some kind)

/-- The text of a fault; that of a failed request is the cluster's own. -/
def message? : Fault → Option String
  | .request _ => none
  | .validation service message _ => some s!"validation error for {service}: {message}"
  | .serialization message _ => some s!"serialization error: {message}"
  | .internal context message => some s!"internal error [{context}]: {message}"

/-- A failed request is worth another try unless the cluster rejected it; a
specification or an object has to change first. -/
def isRetryable : Fault → Bool
  | .request (some code) => !(400 ≤ code && code < 500 && code ≠ 404 && code ≠ 409)
  | .request none => true
  | .validation .. => false
  | .serialization .. => false
  | .internal .. => true

def isNotFound : Fault → Bool
  | .request (some code) => code = 404
  | _ => false

def service? : Fault → Option String
  | .validation service _ _ => some service
  | _ => none

def context? : Fault → Option String
  | .internal context _ => some context
  | _ => none

/-- The invalid field or the kind of the object that could not be read. -/
def detail? : Fault → Option String
  | .validation _ _ field => field
  | .serialization _ kind => kind
  | _ => none

@[simp] theorem isRetryable_invalid (message : String) : (invalid message).isRetryable = false :=
  rfl

end Fault

theorem exists_of_bind_eq_ok {ε α β : Type} {x : Except ε α} {f : α → Except ε β} {b : β}
    (h : (x >>= f) = .ok b) : ∃ a, x = .ok a ∧ f a = .ok b := by
  cases x with
  | error e => cases h
  | ok a => exact ⟨a, rfl, h⟩

theorem exists_of_map_eq_ok {ε α β : Type} {x : Except ε α} {f : α → β} {b : β}
    (h : x.map f = .ok b) : ∃ a, x = .ok a ∧ f a = b := by
  cases x with
  | error e => cases h
  | ok a => exact ⟨a, rfl, Except.ok.inj h⟩

theorem exists_of_isOk {ε α : Type} {x : Except ε α} (h : x.isOk = true) : ∃ a, x = .ok a := by
  cases x with
  | error e => cases h
  | ok a => exact ⟨a, rfl⟩

theorem exists_of_any_toOption {ε α : Type} {x : Except ε α} {q : α → Bool}
    (h : x.toOption.any q = true) : ∃ a, x = .ok a ∧ q a = true := by
  cases x with
  | error e => cases h
  | ok a => exact ⟨a, rfl, h⟩

end InferenceReconciler
