import InferenceReconciler.JsonValue

/-!
# Merge patches

What a server makes of a stored object when it is sent only the fields that change. A
member of the patch replaces the one of the object, member by member where both are
objects; `null` takes a member away; a list is replaced as a whole. The main statement
gives each member of the result from that of the object and that of the patch.
-/

namespace InferenceReconciler

namespace Json

def asObject : Json → Json
  | obj members => obj members
  | _ => obj []

mutual

def mergePatch (target : Json) : Json → Json
  | obj members => mergeMembers target.asObject members
  | null => null
  | bool b => bool b
  | int n => int n
  | real x => real x
  | str s => str s
  | arr items => arr items

/-- The object after the members of a patch, one after the other. -/
def mergeMembers (target : Json) : List (String × Json) → Json
  | [] => target
  | (key, value) :: rest =>
    mergeMembers
      (if value.isNull then target.erase key
       else target.set key (mergePatch ((target.member? key).getD null) value))
      rest

end

@[simp] theorem mergeMembers_nil (target : Json) : mergeMembers target [] = target := by
  simp [mergeMembers]

@[simp] theorem mergePatch_arr (target : Json) (items : List Json) :
    mergePatch target (arr items) = arr items := by
  simp [mergePatch]

@[simp] theorem mergePatch_str (target : Json) (s : String) :
    mergePatch target (str s) = str s := by
  simp [mergePatch]

/-- A member after a patch, from the one before and the one of the patch. -/
def patchedMember (old new : Option Json) : Option Json :=
  match new with
  | none => old
  | some value => if value.isNull then none else some (mergePatch (old.getD null) value)

theorem member?_mergeMembers (key : String) (members : List (String × Json)) (target : Json)
    (distinct : (members.map Prod.fst).Nodup) :
    (mergeMembers target members).member? key =
      patchedMember (target.member? key) (members.lookup key) := by
  induction members generalizing target with
  | nil => simp [patchedMember]
  | cons e rest ih =>
    obtain ⟨name, value⟩ := e
    obtain ⟨hname, hrest⟩ := List.nodup_cons.1 distinct
    rw [mergeMembers, ih _ hrest, lookup_entry_cons]
    by_cases hk : key = name
    · have habsent : rest.lookup key = none := by
        rw [List.lookup_eq_none_iff]
        intro p hp
        have hmem : p.1 ∈ rest.map Prod.fst := List.mem_map_of_mem hp
        have hne : key ≠ p.1 := fun h => hname (by rw [← hk, h]; exact hmem)
        simpa using hne
      rw [habsent, if_pos hk]
      cases hv : value.isNull
      · simp [patchedMember, member?_set, hk, hv]
      · simp [patchedMember, member?_erase, hk, hv]
    · rw [if_neg hk]
      cases hv : value.isNull
      · simp [member?_set, hk]
      · simp [member?_erase, hk]

theorem exists_mergeMembers_obj (members : List (String × Json)) (old : List (String × Json)) :
    ∃ new, mergeMembers (obj old) members = obj new := by
  induction members generalizing old with
  | nil => exact ⟨old, mergeMembers_nil _⟩
  | cons e rest ih =>
    obtain ⟨key, value⟩ := e
    rw [mergeMembers]
    split
    · exact ih _
    · exact ih _

/-- What an object makes of any value is an object, and its members are known. -/
theorem exists_mergePatch_obj (target : Json) {members : List (String × Json)}
    (distinct : (members.map Prod.fst).Nodup) :
    ∃ new, mergePatch target (obj members) = obj new ∧
      ∀ key, new.lookup key = patchedMember (target.member? key) (members.lookup key) := by
  have hmember : ∀ key, target.asObject.member? key = target.member? key := by
    intro key
    cases target <;> rfl
  obtain ⟨old, hold⟩ : ∃ old, target.asObject = obj old := by
    cases target <;> exact ⟨_, rfl⟩
  obtain ⟨new, hnew⟩ := exists_mergeMembers_obj members old
  rw [mergePatch, hold, hnew]
  refine ⟨new, rfl, fun key => ?_⟩
  rw [← hmember, hold, ← member?_mergeMembers key members _ distinct, hnew, member?_obj]

end Json

end InferenceReconciler
