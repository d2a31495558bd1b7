import InferenceReconciler.MergePatch
import InferenceReconciler.Proofs.OrderedMembers
import InferenceReconciler.Proofs.WireRoundTrip

/-!
# Patched records

A merge patch takes away nothing that it does not name. A record leaves out its fields without
a value, so what was stored in them survives a patch with the record. What is read afterwards
follows field by field.
-/

namespace InferenceReconciler

variable {α : Type} [Wire α]

namespace Json

theorem isNull_mergePatch (target j : Json) : (target.mergePatch j).isNull = j.isNull := by
  cases j with
  | obj members =>
    obtain ⟨old, hold⟩ : ∃ old, target.asObject = obj old := by
      cases target <;> exact ⟨_, rfl⟩
    obtain ⟨new, hnew⟩ := exists_mergeMembers_obj members old
    rw [Json.mergePatch, hold, hnew]
    rfl
  | _ => simp [Json.mergePatch]

theorem member?_ofOption (o : Option α) (key : String) :
    (ofOption Wire.write o).member? key = o.bind fun a => (Wire.write a).member? key := by
  cases o <;> rfl

end Json

namespace Wire

/-- What is read after a patch with one value is merged into another one, or into nothing. -/
def PatchedTo (merge : α → Option α → α) : Prop :=
  ∀ (new : α) (old : Option α),
    Wire.read? ((Json.ofOption Wire.write old).mergePatch (Wire.write new)) =
      some (merge new old)

theorem patchedTo_new [LawfulWire α]
    (h : ∀ (a : α) (target : Json), target.mergePatch (Wire.write a) = Wire.write a) :
    PatchedTo fun (new : α) _ => new := by
  intro new old
  rw [h, LawfulWire.read?_write]

/-- A field that may be without a value keeps the old one where no new one is given. -/
def patchOption (merge : α → Option α → α) (new old : Option α) : Option α :=
  match new with
  | none => old
  | some a => some (merge a old)

omit [Wire α] in
theorem patchOption_new (new old : Option α) :
    patchOption (fun a _ => a) new old = (new <|> old) := by
  cases new <;> rfl

end Wire

namespace Members

/-- The members of a record that another one was merged into. -/
def PatchedBy {ρ : Type} [Wire ρ] (m : Members) (new : ρ) (old : Option ρ) : Prop :=
  ∀ key, m.lookup key =
    Json.patchedMember ((Json.ofOption Wire.write old).member? key)
      ((Wire.write new).member? key)

section

variable [LawfulWire α] {m : Members} {key : String} {merge : α → Option α → α}
  {old : Option α}

theorem lookup_of_patched {a : α}
    (h : m.lookup key = Json.patchedMember (old.map Wire.write) (some (Wire.write a))) :
    m.lookup key = some ((Json.ofOption Wire.write old).mergePatch (Wire.write a)) := by
  rw [h]
  simp only [Json.patchedMember, LawfulWire.isNull_write, Bool.false_eq_true, if_false]
  cases old <;> rfl

theorem optional_of_patched (hp : Wire.PatchedTo merge) {new : Option α}
    (h : m.lookup key = Json.patchedMember (old.map Wire.write) (new.map Wire.write)) :
    m.optional key = some (Wire.patchOption merge new old) := by
  cases new with
  | none => exact optional_of_lookup h
  | some a =>
    have hnull := Json.isNull_mergePatch (Json.ofOption Wire.write old) (Wire.write a)
    rw [LawfulWire.isNull_write] at hnull
    rw [optional_of_lookup_some (lookup_of_patched h) hnull, hp a old]
    rfl

end

/-- A record is merged member by member into the old one, or into nothing. -/
theorem exists_patchedBy {ρ : Type} [Wire ρ] {new : ρ} (h : (Wire.write new).IsOrdered)
    (old : Option ρ) :
    ∃ m : Members, (Json.ofOption Wire.write old).mergePatch (Wire.write new) = .obj m ∧
      m.PatchedBy new old := by
  obtain ⟨members, hmembers, -⟩ := id h
  obtain ⟨m, hm, hlookup⟩ :=
    Json.exists_mergePatch_obj (Json.ofOption Wire.write old) (hmembers ▸ h).nodup
  refine ⟨m, by rw [hmembers, hm], fun key => ?_⟩
  rw [hlookup, hmembers]
  rfl

namespace PatchedBy

variable {ρ : Type} [Wire ρ] [LawfulWire α] {m : Members} {new : ρ} {old : Option ρ}
  {key : String} {merge : α → Option α → α}

theorem lookup_eq (h : m.PatchedBy new old) {get : ρ → α}
    (hget : ∀ r : ρ, (Wire.write r).member? key = some (Wire.write (get r))) :
    m.lookup key =
      some ((Json.ofOption Wire.write (old.map get)).mergePatch (Wire.write (get new))) := by
  apply lookup_of_patched
  rw [h, hget, Json.member?_ofOption]
  cases old with
  | none => rfl
  | some r => rw [Option.bind_some, hget, Option.map_some, Option.map_some]

theorem required_eq (h : m.PatchedBy new old) (hp : Wire.PatchedTo merge) (get : ρ → α)
    (hget : ∀ r : ρ, (Wire.write r).member? key = some (Wire.write (get r))) :
    m.required key = some (merge (get new) (old.map get)) := by
  unfold required
  rw [h.lookup_eq hget]
  exact hp (get new) (old.map get)

theorem orElse_eq (h : m.PatchedBy new old) (hp : Wire.PatchedTo merge) (get : ρ → α)
    (hget : ∀ r : ρ, (Wire.write r).member? key = some (Wire.write (get r))) {default : α} :
    m.orElse key default = some (merge (get new) (old.map get)) := by
  unfold orElse
  rw [h.lookup_eq hget]
  exact hp (get new) (old.map get)

theorem optional_eq (h : m.PatchedBy new old) (hp : Wire.PatchedTo merge)
    (get : ρ → Option α)
    (hget : ∀ r : ρ, (Wire.write r).member? key = (get r).map Wire.write) :
    m.optional key = some (Wire.patchOption merge (get new) (old.bind get)) := by
  apply optional_of_patched hp
  rw [h, hget, Json.member?_ofOption]
  cases old with
  | none => rfl
  | some r => rw [Option.bind_some, hget, Option.bind_some]

theorem optional_new_eq (h : m.PatchedBy new old)
    (hp : Wire.PatchedTo fun (new : α) _ => new) (get : ρ → Option α)
    (hget : ∀ r : ρ, (Wire.write r).member? key = (get r).map Wire.write) :
    m.optional key = some (get new <|> old.bind get) := by
  rw [h.optional_eq hp get hget, Wire.patchOption_new]

/-- A list is left out where it is empty, so an empty one leaves the old one as it is. -/
theorem orElse_list_eq (h : m.PatchedBy new old) (get : ρ → List α)
    (hget : ∀ r : ρ, (Wire.write r).member? key =
      if get r = [] then none else some (Wire.write (get r))) :
    m.orElse key [] = some (if get new = [] then (old.map get).getD [] else get new) := by
  apply orElse_of_lookup_list
  rw [h, hget, Json.member?_ofOption]
  by_cases hnil : get new = []
  · rw [if_pos hnil, if_pos hnil]
    cases old with
    | none => rfl
    | some r => exact hget r
  · rw [if_neg hnil, if_neg hnil, if_neg hnil]
    exact congrArg some (Json.mergePatch_arr _ _)

end PatchedBy

end Members

end InferenceReconciler
