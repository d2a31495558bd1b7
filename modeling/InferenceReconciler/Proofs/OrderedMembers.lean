import InferenceReconciler.WireForm
import Mathlib.Data.List.Forall2

/-!
# Ordered members

A record is written with its members in increasing order, and setting a member keeps that order.
So an object is known as a whole once each of its members is.
-/

namespace InferenceReconciler

namespace Json

/-- A member of that name, or none. -/
def NamedField (name : String) (f : Option (String × Json)) : Prop :=
  ∀ e, f = some e → e.1 = name

section

variable {α : Type} [Wire α] (key : String)

@[simp] theorem namedField_field (a : α) : NamedField key (field key a) := by
  intro e he
  cases he
  rfl

@[simp] theorem namedField_optionalField (o : Option α) : NamedField key (optionalField key o) := by
  intro e he
  obtain ⟨a, -, rfl⟩ := Option.map_eq_some_iff.1 he
  rfl

@[simp] theorem namedField_listField (l : List α) : NamedField key (listField key l) := by
  intro e he
  unfold listField at he
  split at he
  · cases he
  · cases he
    rfl

end

section

variable {names : List String} {fields : List (Option (String × Json))}

theorem mem_of_namedFields (h : List.Forall₂ NamedField names fields) {e : String × Json}
    (he : e ∈ fields.filterMap id) : e.1 ∈ names := by
  induction h with
  | nil => cases he
  | @cons name f names fields hf _ ih =>
    obtain ⟨g, hg, hge⟩ := List.mem_filterMap.1 he
    rcases List.mem_cons.1 hg with rfl | hg
    · exact hf e hge ▸ List.mem_cons_self
    · exact List.mem_cons_of_mem _ (ih (List.mem_filterMap.2 ⟨g, hg, hge⟩))

/-- Fields are in the order of their names, whichever of them are left out. -/
theorem pairwise_of_namedFields (h : List.Forall₂ NamedField names fields)
    (hnames : names.Pairwise (· < ·)) :
    (fields.filterMap id).Pairwise fun a b => a.1 < b.1 := by
  induction h with
  | nil => exact .nil
  | @cons name f names fields hf hfields ih =>
    obtain ⟨hless, hnames⟩ := List.pairwise_cons.1 hnames
    cases f with
    | none => exact ih hnames
    | some e =>
      refine List.pairwise_cons.2 ⟨fun e' he' => ?_, ih hnames⟩
      rw [hf e rfl]
      exact hless _ (mem_of_namedFields hfields he')

end

/-- An object with its members in increasing order of their names. -/
def IsOrdered (j : Json) : Prop :=
  ∃ members, j = obj members ∧ members.Pairwise fun a b => a.1 < b.1

theorem isOrdered_record (names : List String) {fields : List (Option (String × Json))}
    (hnames : names.Pairwise (· < ·)) (h : List.Forall₂ NamedField names fields) :
    (record fields).IsOrdered :=
  ⟨_, rfl, pairwise_of_namedFields h hnames⟩

namespace IsOrdered

variable {j old new : Json}

theorem nodup {members : Members} (h : (obj members).IsOrdered) :
    (members.map Prod.fst).Nodup := by
  obtain ⟨members', heq, hordered⟩ := h
  cases heq
  exact (List.pairwise_map.2 hordered).imp String.ne_of_lt

theorem set (h : j.IsOrdered) (key : String) (value : Json) : (j.set key value).IsOrdered := by
  obtain ⟨members, rfl, hordered⟩ := h
  refine ⟨insertEntry key value members, ?_, pairwise_insertEntry key value hordered⟩
  exact congrArg obj (go_eq_insertEntry key value members)

theorem ext (hold : old.IsOrdered) (hnew : new.IsOrdered)
    (h : ∀ key, old.member? key = new.member? key) : old = new := by
  obtain ⟨members, rfl, hmembers⟩ := hold
  obtain ⟨members', rfl, hmembers'⟩ := hnew
  exact congrArg obj (eq_of_lookup_eq hmembers hmembers' h)

theorem set_eq (hold : old.IsOrdered) (hnew : new.IsOrdered) {key : String} {value : Json}
    (hkey : new.member? key = some value)
    (hother : ∀ k, k ≠ key → old.member? k = new.member? k) : old.set key value = new := by
  refine (hold.set key value).ext hnew fun k => ?_
  rw [member?_set]
  by_cases hk : k = key
  · rw [if_pos hk, hk, hkey]
  · rw [if_neg hk, hother k hk]

end IsOrdered

end Json

end InferenceReconciler
