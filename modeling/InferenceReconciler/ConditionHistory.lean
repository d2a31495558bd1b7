import InferenceReconciler.Condition

/-!
# History of conditions

A list of conditions is keyed by type. Setting one keeps its place and, while the value
stays the same, the time since which it has held.
-/

namespace InferenceReconciler

/-- The new condition with the old time where the value did not change. -/
def Condition.succeeding (old new : Condition) : Condition :=
  if old.status = new.status then { new with lastTransitionTime := old.lastTransitionTime }
  else new

def setCondition (new : Condition) : List Condition → List Condition
  | [] => [new]
  | old :: rest =>
    if old.type = new.type then old.succeeding new :: rest else old :: setCondition new rest

def removeCondition (type : String) (l : List Condition) : List Condition :=
  l.filter fun c => c.type ≠ type

@[simp] theorem Condition.succeeding_type (old new : Condition) :
    (old.succeeding new).type = new.type := by
  unfold Condition.succeeding
  split <;> rfl

theorem mem_types_setCondition (new : Condition) (type : String) (l : List Condition) :
    type ∈ (setCondition new l).map (·.type) ↔ type = new.type ∨ type ∈ l.map (·.type) := by
  induction l with
  | nil => simp [setCondition]
  | cons old rest ih =>
    unfold setCondition
    split
    · rename_i h
      simp [h]
    · simp only [List.map_cons, List.mem_cons, ih]
      exact or_left_comm

end InferenceReconciler
