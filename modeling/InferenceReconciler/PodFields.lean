import InferenceReconciler.ContainerFields

/-!
# Volumes and placement

The parts of a pod, beside its containers, that a runtime uses. A field that has to be there
stands for its empty value where it is absent.
-/

namespace InferenceReconciler.PodFields

/-- Space that lives as long as its pod. -/
structure EmptyDir where
  medium : Option String
  sizeLimit : Option String
  deriving DecidableEq, Repr, Inhabited

instance : Wire EmptyDir where
  read? j := do
    let m ← j.members?
    return { medium := ← m.optional "medium", sizeLimit := ← m.optional "sizeLimit" }
  write e := .record [optionalField "medium" e.medium, optionalField "sizeLimit" e.sizeLimit]

structure ClaimSource where
  claimName : String
  readOnly : Option Bool
  deriving DecidableEq, Repr, Inhabited

instance : Wire ClaimSource where
  read? j := do
    let m ← j.members?
    return { claimName := ← m.orDefault "claimName" "", readOnly := ← m.optional "readOnly" }
  write c := .record [field "claimName" c.claimName, optionalField "readOnly" c.readOnly]

structure Volume where
  emptyDir : Option EmptyDir
  name : String
  persistentVolumeClaim : Option ClaimSource
  deriving DecidableEq, Repr, Inhabited

instance : Wire Volume where
  read? j := do
    let m ← j.members?
    return {
      emptyDir := ← m.optional "emptyDir"
      name := ← m.orDefault "name" ""
      persistentVolumeClaim := ← m.optional "persistentVolumeClaim" }
  write v := .record [
    optionalField "emptyDir" v.emptyDir,
    field "name" v.name,
    optionalField "persistentVolumeClaim" v.persistentVolumeClaim]

structure NodeRequirement where
  key : String
  operator : String
  values : Option (List String)
  deriving DecidableEq, Repr, Inhabited

instance : Wire NodeRequirement where
  read? j := do
    let m ← j.members?
    return {
      key := ← m.orDefault "key" ""
      operator := ← m.orDefault "operator" ""
      values := ← m.optional "values" }
  write r := .record [
    field "key" r.key,
    field "operator" r.operator,
    optionalField "values" r.values]

structure NodeTerm where
  matchExpressions : Option (List NodeRequirement)
  deriving DecidableEq, Repr, Inhabited

instance : Wire NodeTerm where
  read? j := do
    let m ← j.members?
    return { matchExpressions := ← m.optional "matchExpressions" }
  write t := .record [optionalField "matchExpressions" t.matchExpressions]

structure NodeSelector where
  nodeSelectorTerms : List NodeTerm
  deriving DecidableEq, Repr, Inhabited

instance : Wire NodeSelector where
  read? j := do
    let m ← j.members?
    return { nodeSelectorTerms := ← m.orDefault "nodeSelectorTerms" [] }
  write s := .record [field "nodeSelectorTerms" s.nodeSelectorTerms]

structure NodeAffinity where
  requiredDuringSchedulingIgnoredDuringExecution : Option NodeSelector
  deriving DecidableEq, Repr, Inhabited

instance : Wire NodeAffinity where
  read? j := do
    let m ← j.members?
    return {
      requiredDuringSchedulingIgnoredDuringExecution :=
        ← m.optional "requiredDuringSchedulingIgnoredDuringExecution" }
  write a := .record [
    optionalField "requiredDuringSchedulingIgnoredDuringExecution"
      a.requiredDuringSchedulingIgnoredDuringExecution]

structure Affinity where
  nodeAffinity : Option NodeAffinity
  deriving DecidableEq, Repr, Inhabited

/-- The nodes whose label `key` has one of the values. -/
def Affinity.ofLabel (key : String) (values : List String) : Affinity where
  nodeAffinity := some ⟨some ⟨[⟨some [⟨key, "In", some values⟩]⟩]⟩⟩

instance : Wire Affinity where
  read? j := do
    let m ← j.members?
    return { nodeAffinity := ← m.optional "nodeAffinity" }
  write a := .record [optionalField "nodeAffinity" a.nodeAffinity]

/-- A secret with which images are pulled. -/
structure PullSecret where
  name : String
  deriving DecidableEq, Repr, Inhabited

instance : Wire PullSecret where
  read? j := do
    let m ← j.members?
    return { name := ← m.orDefault "name" "" }
  write s := .record [field "name" s.name]

end InferenceReconciler.PodFields
