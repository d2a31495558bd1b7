import InferenceReconciler.ComponentHealth
import InferenceReconciler.CustomObject

/-!
# Caching intent

How a service wants its weights stored: in a shared cache, in a shared cache if there is
one, or in a volume of its own.
-/

namespace InferenceReconciler

inductive CachingIntent where
  | requireShared
  | preferShared
  | requireDedicated
  deriving DecidableEq, Repr, Inhabited

namespace CachingIntent

def text : CachingIntent → String
  | requireShared => "require-shared"
  | preferShared => "prefer-shared"
  | requireDedicated => "require-dedicated"

/-- The words for an intent, the older ones too, without case and joints. -/
def words : List (String × CachingIntent) := [
  ("requireshared", requireShared), ("always", requireShared), ("shared", requireShared),
  ("prefershared", preferShared), ("auto", preferShared),
  ("requirededicated", requireDedicated), ("never", requireDedicated),
  ("dedicated", requireDedicated)]

def isJoint (c : Char) : Bool := c = '-' || c = '_' || c = ' '

def parse? (mode : String) : Option CachingIntent :=
  words.lookup (String.ofList ((lowercase (trimBlanks mode)).toList.filter fun c => !isJoint c))

/-- The mode decides, then the older switch; without either, shared is preferred. -/
def ofService (spec : ServiceSpec) : Except Problem CachingIntent :=
  match filledIn? (spec.caching.bind (·.mode)) with
  | some mode =>
    match parse? mode with
    | some intent => .ok intent
    | none => .error (.validation Reason.invalidSpec
        (s!"unknown caching mode {quoted mode}; " ++
          "expected require-shared, prefer-shared or require-dedicated"))
  | none =>
    match spec.cacheModel with
    | some true => .ok requireShared
    | some false => .ok requireDedicated
    | none => .ok preferShared

end CachingIntent

end InferenceReconciler
