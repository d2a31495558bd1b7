import InferenceReconciler.CoreObjects
import InferenceReconciler.Reasons

/-!
# Failed pulls of images

What keeps a container from getting its image, read off the words of the node.
-/

namespace InferenceReconciler

structure PullFailure where
  reason : String
  message : String
  deriving DecidableEq, Repr, Inhabited

def occursIn (part : List Char) : List Char → Bool
  | [] => part.isEmpty
  | c :: rest => part.isPrefixOf (c :: rest) || occursIn part rest

def refusalMarks : List String :=
  ["unauthorized", "authentication required", "denied", "401", "403"]

def absenceMarks : List String := ["not found", "manifest unknown", "404"]

def mentionsAny (marks : List String) (message : String) : Bool :=
  let text := (lowercase message).toList
  marks.any fun m => occursIn m.toList text

/-- The condition reason of a waiting container, if its image could not be pulled. -/
def pullFailureReason? (reason message : String) : Option String :=
  if reason ∉ ["ErrImagePull", "ImagePullBackOff", "InvalidImageName"] then none
  else if mentionsAny refusalMarks message then some Reason.imagePullAuthFailure
  else if reason = "InvalidImageName" || mentionsAny absenceMarks message then
    some Reason.imageNotFound
  else some Reason.imagePullFailed

/-- The containers of a pod that wait, those for its setup first. -/
def Pod.waiting (p : Pod) : List Waiting :=
  match p.status with
  | none => []
  | some s =>
    (s.initContainerStatuses.getD [] ++ s.containerStatuses.getD []).filterMap fun c =>
      c.state.bind (·.waiting)

def Waiting.pullFailure? (w : Waiting) : Option PullFailure :=
  let message := w.message.getD ""
  (pullFailureReason? (w.reason.getD "") message).map fun reason => ⟨reason, message⟩

def pullFailure? (pods : List Pod) : Option PullFailure :=
  (pods.flatMap Pod.waiting).findSome? Waiting.pullFailure?

@[simp] theorem pullFailure?_nil : pullFailure? [] = none := rfl

end InferenceReconciler
