import InferenceReconciler.MergePatch

/-!
# Paths of members

What stands at a path of members of a value, and the value with something else there. A patch
that has one value at a path is merged into what stands there and leaves all else as it is.
-/

namespace InferenceReconciler

namespace Json

def at? : Json → List String → Option Json
  | j, [] => some j
  | j, key :: path => (j.member? key).bind fun v => v.at? path

/-- The value with `f` applied to what stands at a path, or to null where nothing does. -/
def mapAt (f : Json → Json) : List String → Json → Json
  | [], j => f j
  | key :: path, j => j.set key (mapAt f path ((j.member? key).getD null))

/-- The object with one value at a path and with nothing else. -/
def onlyAt : List String → Json → Json
  | [], value => value
  | key :: path, value => record [some (key, onlyAt path value)]

theorem at?_singleton (j : Json) (key : String) : j.at? [key] = j.member? key := by
  cases h : j.member? key <;> simp [at?, h]

theorem at?_append (j : Json) (path rest : List String) :
    j.at? (path ++ rest) = (j.at? path).bind (·.at? rest) := by
  induction path generalizing j with
  | nil => rfl
  | cons key path ih =>
    change (j.member? key).bind _ = ((j.member? key).bind _).bind _
    rw [Option.bind_assoc]
    exact Option.bind_congr fun v _ => ih v

theorem set_set (j : Json) (key : String) (a b : Json) :
    (j.set key a).set key b = j.set key b := by
  have hgo : ∀ members, set.go key b (set.go key a members) = set.go key b members := by
    intro members
    induction members with
    | nil => simp [set.go]
    | cons e rest ih =>
      obtain ⟨name, v⟩ := e
      by_cases hname : name = key
      · simp [set.go, hname]
      by_cases hlt : key < name
      · simp [set.go, hname, hlt]
      · simp [set.go, hname, hlt, ih]
  cases j with
  | obj members => exact congrArg obj (hgo members)
  | _ => exact congrArg obj (hgo [])

theorem mapAt_mapAt (f g : Json → Json) (path : List String) (j : Json) :
    mapAt f path (mapAt g path j) = mapAt (fun v => f (g v)) path j := by
  induction path generalizing j with
  | nil => rfl
  | cons key path ih =>
    simp only [mapAt]
    rw [set_set, member?_set, if_pos rfl, Option.getD_some, ih]

theorem mapAt_congr {f g : Json → Json} {path : List String} {j v : Json}
    (hv : j.at? path = some v) (h : f v = g v) : mapAt f path j = mapAt g path j := by
  induction path generalizing j with
  | nil =>
    cases hv
    exact h
  | cons key path ih =>
    obtain ⟨w, hw, hv⟩ := Option.bind_eq_some_iff.1 hv
    simp only [mapAt]
    rw [hw, Option.getD_some, ih hv]

theorem set_asObject (j : Json) (key : String) (value : Json) :
    j.asObject.set key value = j.set key value := by
  cases j <;> rfl

theorem member?_asObject (j : Json) (key : String) : j.asObject.member? key = j.member? key := by
  cases j <;> rfl

theorem asObject_set (j : Json) (key : String) (value : Json) :
    (j.set key value).asObject = j.set key value := by
  cases j <;> rfl

theorem mergePatch_record_cons (target : Json) (key : String) {value : Json}
    (hvalue : value.isNull = false) (rest : List (Option (String × Json))) :
    target.mergePatch (record (some (key, value) :: rest)) =
      (target.set key (((target.member? key).getD null).mergePatch value)).mergePatch
        (record rest) := by
  change target.mergePatch (obj ((key, value) :: rest.filterMap id)) = _
  rw [record, mergePatch, mergePatch, mergeMembers, asObject_set, hvalue, set_asObject,
    member?_asObject]
  rfl

theorem mergePatch_set_record_nil (j : Json) (key : String) (value : Json) :
    (j.set key value).mergePatch (record []) = j.set key value := by
  rw [record_nil, mergePatch, asObject_set, mergeMembers_nil]

theorem isNull_onlyAt (path : List String) {value : Json} (h : value.isNull = false) :
    (onlyAt path value).isNull = false := by
  cases path with
  | nil => exact h
  | cons key path => rfl

theorem mergePatch_onlyAt (target : Json) (path : List String) {value : Json}
    (h : value.isNull = false) :
    target.mergePatch (onlyAt path value) = mapAt (·.mergePatch value) path target := by
  induction path generalizing target with
  | nil => rfl
  | cons key path ih =>
    rw [onlyAt, mergePatch_record_cons target key (isNull_onlyAt path h),
      mergePatch_set_record_nil, ih]
    rfl

end Json

end InferenceReconciler
