import InferenceReconciler.Trimming
import Mathlib.Data.List.DropRight

/-!
# Trimmed lists

What is left of a list when the elements of a class are dropped at its end or at both, and what
that says of trimmed texts. Dropping at the end is `List.rdropWhile`.
-/

namespace InferenceReconciler

theorem isBlank_eq_false_of_isDigit {c : Char} (h : c.isDigit = true) : isBlank c = false := by
  rw [Char.isDigit_iff_toNat] at h
  change 48 ≤ c.toNat ∧ c.toNat ≤ 57 at h
  simp only [isBlank, Bool.or_eq_false_iff, Bool.and_eq_false_iff, decide_eq_false_iff_not,
    beq_eq_false_iff_ne]
  omega

variable {α : Type} (p : α → Bool)

theorem dropTrailing_eq_rdropWhile (l : List α) : dropTrailing p l = l.rdropWhile p := rfl

@[simp] theorem dropTrailing_nil : dropTrailing p [] = [] := rfl

@[simp] theorem dropAround_nil : dropAround p [] = [] := rfl

theorem eq_false_of_dropWhile_eq_cons {a : α} {l rest : List α}
    (h : l.dropWhile p = a :: rest) : p a = false := by
  have hhead := List.head?_dropWhile_not p l
  rwa [h] at hhead

theorem dropWhile_eq_self {l : List α} (h : ∀ a ∈ l.head?, p a = false) : l.dropWhile p = l := by
  cases l with
  | nil => rfl
  | cons a rest => exact List.dropWhile_cons_of_neg (by simp [h a rfl])

theorem exists_append_dropTrailing (l : List α) :
    ∃ dropped, l = dropTrailing p l ++ dropped ∧ ∀ a ∈ dropped, p a = true :=
  ⟨l.rtakeWhile p, List.rdropWhile_append_rtakeWhile.symm, fun _ ha => List.mem_rtakeWhile_imp ha⟩

theorem dropTrailing_sublist (l : List α) : (dropTrailing p l).Sublist l :=
  (List.rdropWhile_prefix p l).sublist

theorem mem_of_mem_dropTrailing {a : α} {l : List α} (h : a ∈ dropTrailing p l) : a ∈ l :=
  (dropTrailing_sublist p l).subset h

theorem eq_false_of_getLast?_dropTrailing {a : α} {l : List α}
    (h : (dropTrailing p l).getLast? = some a) : p a = false := by
  obtain ⟨hne, rfl⟩ := List.mem_getLast?_eq_getLast h
  exact Bool.eq_false_iff.2 (List.rdropWhile_last_not p l hne)

theorem dropTrailing_append_of_forall {dropped : List α} (h : ∀ a ∈ dropped, p a = true)
    (l : List α) : dropTrailing p (l ++ dropped) = dropTrailing p l := by
  have hreverse : ∀ a ∈ dropped.reverse, p a = true := fun a ha => h a (List.mem_reverse.1 ha)
  unfold dropTrailing
  rw [List.reverse_append, List.dropWhile_append_of_pos hreverse]

/-- Cutting a list shorter undoes nothing that dropping its end has done. -/
theorem dropTrailing_take_dropTrailing (l : List α) (n : Nat) :
    dropTrailing p ((dropTrailing p l).take n) = dropTrailing p (l.take n) := by
  obtain ⟨dropped, hl, hdropped⟩ := exists_append_dropTrailing p l
  have htake : l.take n = (dropTrailing p l).take n ++
      dropped.take (n - (dropTrailing p l).length) := by
    rw [← List.take_append, ← hl]
  rw [htake, dropTrailing_append_of_forall]
  exact fun a ha => hdropped a (List.mem_of_mem_take ha)

theorem dropTrailing_append (l rear : List α) :
    dropTrailing p (l ++ rear) =
      if dropTrailing p rear = [] then dropTrailing p l else l ++ dropTrailing p rear := by
  unfold dropTrailing
  rw [List.reverse_append, List.dropWhile_append]
  by_cases hrear : rear.reverse.dropWhile p = []
  · simp [hrear]
  · simp [hrear]

theorem dropTrailing_cons_of_neg {a : α} (h : p a = false) (l : List α) :
    dropTrailing p (a :: l) = a :: dropTrailing p l := by
  have hfirst : dropTrailing p [a] = [a] := by simp [dropTrailing, h]
  rw [← List.singleton_append, dropTrailing_append, hfirst]
  split
  · rename_i hnil
    rw [hnil]
  · rfl

theorem dropTrailing_cons_of_pos {a : α} (h : p a = true) (l : List α) :
    dropTrailing p (a :: l) = if dropTrailing p l = [] then [] else a :: dropTrailing p l := by
  have hfirst : dropTrailing p [a] = [] := by simp [dropTrailing, h]
  rw [← List.singleton_append, dropTrailing_append, hfirst]
  rfl

theorem dropAround_prefix (l : List α) : dropAround p l <+: l.dropWhile p :=
  List.rdropWhile_prefix p (l.dropWhile p)

theorem eq_false_of_head?_dropAround {a : α} {l : List α}
    (h : (dropAround p l).head? = some a) : p a = false := by
  obtain ⟨rest, hrest⟩ := List.head?_eq_some_iff.1 h
  obtain ⟨cut, hcut⟩ := dropAround_prefix p l
  rw [hrest, List.cons_append] at hcut
  exact eq_false_of_dropWhile_eq_cons p hcut.symm

/-- A list is trimmed if no element of the class stands at either end. -/
theorem dropAround_eq_self_iff {l : List α} :
    dropAround p l = l ↔ (∀ a ∈ l.head?, p a = false) ∧ ∀ a ∈ l.getLast?, p a = false := by
  constructor
  · intro h
    refine ⟨fun a ha => ?_, fun a ha => ?_⟩
    · rw [← h] at ha
      exact eq_false_of_head?_dropAround p ha
    · rw [← h] at ha
      exact eq_false_of_getLast?_dropTrailing p ha
  · rintro ⟨hfirst, hlast⟩
    unfold dropAround
    rw [dropWhile_eq_self p hfirst]
    cases hl : l.getLast? with
    | none =>
      rw [List.getLast?_eq_none_iff.1 hl]
      rfl
    | some a =>
      obtain ⟨front, rfl⟩ := List.getLast?_eq_some_iff.1 hl
      rw [dropTrailing_eq_rdropWhile, List.rdropWhile_concat, hlast a hl,
        if_neg Bool.false_ne_true]

theorem dropAround_dropAround (l : List α) :
    dropAround p (dropAround p l) = dropAround p l :=
  (dropAround_eq_self_iff p).2 ⟨fun _ ha => eq_false_of_head?_dropAround p ha,
    fun _ ha => eq_false_of_getLast?_dropTrailing p ha⟩

theorem dropAround_of_forall_eq_false {l : List α} (h : ∀ a ∈ l, p a = false) :
    dropAround p l = l :=
  (dropAround_eq_self_iff p).2 ⟨fun a ha => h a (List.mem_of_head? ha),
    fun a ha => h a (List.mem_of_getLast? ha)⟩

theorem dropAround_append_of_forall {dropped : List α} (h : ∀ a ∈ dropped, p a = true)
    (l : List α) : dropAround p (l ++ dropped) = dropAround p l := by
  unfold dropAround
  rw [List.dropWhile_append]
  split
  · rename_i hempty
    have hnil : dropped.dropWhile p = [] := by
      rw [← List.append_nil dropped, List.dropWhile_append_of_pos h, List.dropWhile_nil]
    rw [List.isEmpty_iff.1 hempty, hnil]
  · exact dropTrailing_append_of_forall p h _

theorem dropAround_forall_append {dropped : List α} (h : ∀ a ∈ dropped, p a = true)
    (l : List α) : dropAround p (dropped ++ l) = dropAround p l := by
  unfold dropAround
  rw [List.dropWhile_append_of_pos h]

theorem dropAround_cons_of_pos {a : α} (h : p a = true) (l : List α) :
    dropAround p (a :: l) = dropAround p l := by
  unfold dropAround
  rw [List.dropWhile_cons_of_pos h]

theorem dropAround_cons_of_neg {a : α} (h : p a = false) (l : List α) :
    dropAround p (a :: l) = a :: dropTrailing p l := by
  unfold dropAround
  rw [List.dropWhile_cons_of_neg (by simp [h]), dropTrailing_cons_of_neg p h]

theorem exists_append_dropAround (l : List α) :
    ∃ front back, l = front ++ dropAround p l ++ back ∧ (∀ a ∈ front, p a = true) ∧
      ∀ a ∈ back, p a = true := by
  obtain ⟨back, hback, hdropped⟩ := exists_append_dropTrailing p (l.dropWhile p)
  refine ⟨l.takeWhile p, back, ?_, List.all_eq_true.1 List.all_takeWhile, hdropped⟩
  have hl : l = l.takeWhile p ++ l.dropWhile p := List.takeWhile_append_dropWhile.symm
  rw [List.append_assoc]
  exact hl.trans (congrArg _ hback)

theorem dropAround_sublist (l : List α) : (dropAround p l).Sublist l := by
  obtain ⟨front, back, hl, -, -⟩ := exists_append_dropAround p l
  have hpart : (dropAround p l).Sublist (front ++ dropAround p l ++ back) :=
    (List.sublist_append_right front _).trans (List.sublist_append_left _ back)
  rwa [← hl] at hpart

theorem dropAround_eq_nil_iff {l : List α} : dropAround p l = [] ↔ ∀ a ∈ l, p a = true := by
  obtain ⟨front, back, hl, hfront, hback⟩ := exists_append_dropAround p l
  constructor
  · intro hnil a ha
    rw [hl, hnil, List.append_nil] at ha
    exact (List.mem_append.1 ha).elim (hfront a) (hback a)
  · intro h
    rw [← List.nil_append l, dropAround_append_of_forall p h, dropAround_nil]

@[simp] theorem toList_trimBlanks (s : String) :
    (trimBlanks s).toList = dropAround isBlank s.toList := by
  simp [trimBlanks]

theorem isBlankText_iff {s : String} : isBlankText s = true ↔ ∀ c ∈ s.toList, isBlank c = true := by
  unfold isBlankText
  rw [String.isEmpty_iff, ← String.toList_inj, toList_trimBlanks, String.toList_empty,
    dropAround_eq_nil_iff]

theorem trimBlanks_trimBlanks (s : String) : trimBlanks (trimBlanks s) = trimBlanks s := by
  apply String.toList_inj.1
  simp only [toList_trimBlanks, dropAround_dropAround]

theorem trimmed?_eq_none {s : Option String} (h : ∀ t ∈ s, isBlankText t = true) :
    trimmed? s = none := by
  cases s with
  | none => rfl
  | some t =>
    have hblank : (trimBlanks t).isEmpty = true := h t rfl
    unfold trimmed?
    rw [Option.map_some, Option.filter_some, hblank]
    rfl

theorem trimmed?_of_filled {t : String} (h : isBlankText t = false) :
    trimmed? (some t) = some (trimBlanks t) := by
  have hempty : (trimBlanks t).isEmpty = false := h
  unfold trimmed?
  rw [Option.map_some, Option.filter_some, hempty]
  rfl

theorem trimBlanks_of_trimmed? {s : Option String} {t : String} (h : trimmed? s = some t) :
    trimBlanks t = t := by
  obtain ⟨hmap, -⟩ := Option.filter_eq_some_iff.1 h
  obtain ⟨u, -, rfl⟩ := Option.map_eq_some_iff.1 hmap
  exact trimBlanks_trimBlanks u

end InferenceReconciler
