import InferenceReconciler.ObjectName

/-!
# Image references

A container image named by registry, repository path, name and tag. A digest after an
at sign stands for the tag with its first six characters.
-/

namespace InferenceReconciler

/-- The parts of a reference; `name` and `tag` as they enter names of objects. -/
structure ImageReference where
  registry : String
  /-- The path between the registry and the name. -/
  repository : String
  name : String
  tag : String
  deriving DecidableEq, Repr

def splitFirst? (c : Char) (s : List Char) : Option (List Char × List Char) :=
  match s.dropWhile (· ≠ c) with
  | [] => none
  | _ :: after => some (s.takeWhile (· ≠ c), after)

def splitLast? (c : Char) (s : List Char) : Option (List Char × List Char) :=
  (splitFirst? c s.reverse).map fun (after, before) => (before.reverse, after.reverse)

/-- The pieces between the `c`s of a text, one more than there are of them. -/
def splitAll (c : Char) : List Char → List (List Char)
  | [] => [[]]
  | x :: rest =>
    if x = c then [] :: splitAll c rest
    else
      match splitAll c rest with
      | [] => [[x]]
      | piece :: pieces => (x :: piece) :: pieces

def joinWith (c : Char) (pieces : List (List Char)) : List Char :=
  [c].intercalate pieces

namespace ImageReference

def defaultRegistry : String := "docker.io"

def defaultTag : String := "latest"

/-- Whether a first segment is a host rather than the start of a path. -/
def isRegistry (segment : List Char) : Bool :=
  segment.contains '.' || segment.contains ':' || segment == "localhost".toList

/-- A reference apart from its tag, or from the first six characters of its digest. -/
def splitTag (image : String) : Except Fault (List Char × List Char) :=
  match splitFirst? '@' image.toList with
  | some (reference, digest) =>
    match splitFirst? ':' digest with
    | none => .error (.invalid s!"image {quoted image} has a digest without an algorithm")
    | some (_, []) => .error (.invalid s!"image {quoted image} has an empty digest")
    | some (_, value) => .ok (reference, value.take 6)
  | none =>
    let (path, last) := match splitLast? '/' image.toList with
      | some (path, last) => (path ++ ['/'], last)
      | none => ([], image.toList)
    match splitLast? ':' last with
    | some (_, []) => .error (.invalid s!"image {quoted image} has an empty tag")
    | some (name, tag) => .ok (path ++ name, tag)
    | none => .ok (image.toList, defaultTag.toList)

/-- The registry of a path, when its first of several segments is one. -/
def splitRegistry : List (List Char) → String × List (List Char)
  | first :: second :: rest =>
    if isRegistry first then (String.ofList first, second :: rest)
    else (defaultRegistry, first :: second :: rest)
  | segments => (defaultRegistry, segments)

def parse (text : String) : Except Fault ImageReference := do
  let image := trimBlanks text
  if image.isEmpty then throw (.invalid "image reference is empty")
  let (reference, tag) ← splitTag image
  let (registry, segments) := splitRegistry (splitAll '/' reference)
  let name := segments.getLastD []
  if name.isEmpty then throw (.invalid s!"image {quoted image} has no name")
  return {
    registry
    repository := String.ofList (joinWith '/' segments.dropLast)
    name := nameComponent (String.ofList name)
    tag := nameComponent (String.ofList tag) }

end ImageReference

end InferenceReconciler
