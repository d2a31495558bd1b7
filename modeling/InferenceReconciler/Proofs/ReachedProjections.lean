import InferenceReconciler.Proofs.ConditionsByType
import InferenceReconciler.ServiceObservation

/-!
# The reach of a projection

A pass folds the projections of the seven components and ends at the first blocking one.
The fold is the plain fold over the components that are reached, those up to the blocker,
and which these are depends on the projections alone, not on the status or the time. Every
component writes its own condition and its own field of the status and nothing else.
-/

namespace InferenceReconciler

def reachedProjections : List Projection → List Projection
  | [] => []
  | p :: rest => if p.blocking then [p] else p :: reachedProjections rest

/-- The component of the first blocking projection. -/
def firstBlocker? : List Projection → Option Component
  | [] => none
  | p :: rest => if p.blocking then p.report.component? else firstBlocker? rest

theorem reachedProjections_sublist (ps : List Projection) :
    (reachedProjections ps).Sublist ps := by
  induction ps with
  | nil => exact List.Sublist.slnil
  | cons p rest ih =>
    unfold reachedProjections
    split
    · exact (List.nil_sublist rest).cons_cons p
    · exact ih.cons_cons p

theorem ReportedOnce.reached {ps : List Projection} (h : ReportedOnce (ps.map (·.report))) :
    ReportedOnce ((reachedProjections ps).map (·.report)) :=
  List.Pairwise.sublist ((reachedProjections_sublist ps).map _) h

theorem foldProjections_eq (now : Timestamp) (s : ServiceStatus) (seen : List ComponentHealth)
    (ps : List Projection) :
    foldProjections now s seen ps =
      ⟨(reachedProjections ps).foldl (fun s p => p.apply now s) s,
        seen ++ (reachedProjections ps).flatMap (fun p => p.report.health?.toList),
        firstBlocker? ps⟩ := by
  induction ps generalizing s seen with
  | nil => simp [reachedProjections, firstBlocker?]
  | cons p rest ih =>
    by_cases hb : p.blocking = true
    · simp [foldProjections, reachedProjections, firstBlocker?, hb]
    · simp [foldProjections, reachedProjections, firstBlocker?, hb, ih]

theorem conditions_foldl_apply (now : Timestamp) (ps : List Projection) (s : ServiceStatus) :
    (ps.foldl (fun s p => p.apply now s) s).conditions =
      applyReports now (ps.map (·.report)) s.conditions := by
  induction ps generalizing s with
  | nil => rfl
  | cons p rest ih => exact ih (p.apply now s)

namespace Component

def all : List Component := [config, model, template, caching, storage, runtime, routing]

theorem mem_all (c : Component) : c ∈ all := by cases c <;> decide

theorem all_sorted : all.Pairwise fun a b => a.position < b.position := by decide

/-- A component is reached unless another one before it blocks. -/
def Reached (blocker : Option Component) (c : Component) : Prop :=
  ∀ b ∈ blocker, c.position ≤ b.position

instance (blocker : Option Component) : DecidablePred (Reached blocker) := fun c =>
  inferInstanceAs (Decidable (∀ b ∈ blocker, c.position ≤ b.position))

@[simp] theorem reached_none (c : Component) : Reached none c := fun _ h => by cases h

theorem reached_some {b c : Component} : Reached (some b) c ↔ c.position ≤ b.position := by
  simp [Reached]

theorem position_injective {c d : Component} (h : c.position = d.position) : c = d := by
  cases c <;> cases d <;> first | rfl | cases h

theorem Reached.of_le {blocker : Option Component} {c d : Component} (hd : Reached blocker d)
    (h : c.position ≤ d.position) : Reached blocker c :=
  fun b hb => Nat.le_trans h (hd b hb)

theorem Reached.next {blocker : Option Component} {c d : Component} (hc : Reached blocker c)
    (hne : blocker ≠ some c) (h : d.position ≤ c.position + 1) : Reached blocker d := by
  intro b hb
  have hle := hc b hb
  have hother : c.position ≠ b.position := by
    intro hsame
    rw [position_injective hsame] at hne
    exact hne hb
  omega

end Component

section

variable {f g : Component → Projection} {cs : List Component}

theorem firstBlocker?_mem (hf : ∀ c, (f c).report.component? = some c) {b : Component}
    (h : firstBlocker? (cs.map f) = some b) : b ∈ cs := by
  induction cs with
  | nil => cases h
  | cons c rest ih =>
    by_cases hb : (f c).blocking = true
    · rw [List.map_cons, firstBlocker?, if_pos hb, hf] at h
      cases h
      exact List.mem_cons_self
    · rw [List.map_cons, firstBlocker?, if_neg hb] at h
      exact List.mem_cons_of_mem c (ih h)

theorem reached_head (hf : ∀ c, (f c).report.component? = some c) {c : Component}
    (hs : (c :: cs).Pairwise fun a b => a.position < b.position) :
    c.Reached (firstBlocker? ((c :: cs).map f)) := by
  intro b hb
  rcases List.mem_cons.1 (firstBlocker?_mem hf hb) with rfl | hmem
  · exact Nat.le_refl _
  · exact Nat.le_of_lt ((List.pairwise_cons.1 hs).1 b hmem)

theorem reachedProjections_map (hf : ∀ c, (f c).report.component? = some c)
    (hs : cs.Pairwise fun a b => a.position < b.position) :
    reachedProjections (cs.map f) =
      (cs.filter fun c => c.Reached (firstBlocker? (cs.map f))).map f := by
  induction cs with
  | nil => rfl
  | cons c rest ih =>
    rw [List.filter_cons_of_pos (by simpa using reached_head hf hs), List.map_cons]
    rw [List.pairwise_cons] at hs
    by_cases hb : (f c).blocking = true
    · have hrest : (rest.filter fun d => d.Reached (firstBlocker? ((c :: rest).map f))) = [] := by
        apply List.filter_eq_nil_iff.2
        intro d hd
        have hlt := hs.1 d hd
        simp only [List.map_cons, firstBlocker?, if_pos hb, hf, decide_eq_true_eq,
          Component.reached_some]
        omega
      rw [List.map_cons] at hrest
      simp only [reachedProjections, if_pos hb, hrest, List.map_cons, List.map_nil]
    · simp only [reachedProjections, List.map_cons, firstBlocker?, if_neg hb, ih hs.2]

/-- A component is reached if and only if none before it blocks. -/
theorem reached_firstBlocker?_iff (hf : ∀ c, (f c).report.component? = some c)
    (hs : cs.Pairwise fun a b => a.position < b.position) {c : Component} (hc : c ∈ cs) :
    c.Reached (firstBlocker? (cs.map f)) ↔
      ∀ d ∈ cs, d.position < c.position → (f d).blocking = false := by
  induction cs with
  | nil => cases hc
  | cons first rest ih =>
    have hbefore : ∀ d ∈ first :: rest, first.position ≤ d.position := by
      intro d hd
      rcases List.mem_cons.1 hd with rfl | hmem
      · exact Nat.le_refl _
      · exact Nat.le_of_lt ((List.pairwise_cons.1 hs).1 d hmem)
    by_cases hb : (f first).blocking = true
    · simp only [List.map_cons, firstBlocker?, if_pos hb, hf, Component.reached_some]
      constructor
      · intro hle d hd hlt
        have hfirst := hbefore d hd
        omega
      · intro h
        apply Nat.le_of_not_lt
        intro hlt
        have hfalse := h first List.mem_cons_self hlt
        rw [hb] at hfalse
        cases hfalse
    · rw [List.map_cons, firstBlocker?, if_neg hb, List.forall_mem_cons]
      rcases List.mem_cons.1 hc with rfl | hmem
      · have hreach := reached_head hf hs
        rw [List.map_cons, firstBlocker?, if_neg hb] at hreach
        refine ⟨fun _ => ⟨fun _ => by simpa using hb, fun d hd hlt => ?_⟩, fun _ => hreach⟩
        have hle := hbefore d (List.mem_cons_of_mem _ hd)
        omega
      · rw [ih (List.pairwise_cons.1 hs).2 hmem]
        exact ⟨fun h => ⟨fun _ => by simpa using hb, h⟩, fun h => h.2⟩

theorem firstBlocker?_eq_some_iff (hf : ∀ c, (f c).report.component? = some c)
    (hs : cs.Pairwise fun a b => a.position < b.position) {c : Component} (hc : c ∈ cs) :
    firstBlocker? (cs.map f) = some c ↔
      c.Reached (firstBlocker? (cs.map f)) ∧ (f c).blocking = true := by
  induction cs with
  | nil => cases hc
  | cons first rest ih =>
    by_cases hb : (f first).blocking = true
    · simp only [List.map_cons, firstBlocker?, if_pos hb, hf, Option.some.injEq,
        Component.reached_some]
      rcases List.mem_cons.1 hc with rfl | hmem
      · exact ⟨fun _ => ⟨Nat.le_refl _, hb⟩, fun _ => rfl⟩
      · have hlt := (List.pairwise_cons.1 hs).1 c hmem
        constructor
        · rintro rfl
          exact absurd hlt (Nat.lt_irrefl _)
        · rintro ⟨hle, -⟩
          omega
    · rw [List.map_cons, firstBlocker?, if_neg hb]
      rcases List.mem_cons.1 hc with rfl | hmem
      · constructor
        · intro hfirst
          have hmem := firstBlocker?_mem hf hfirst
          exact absurd ((List.pairwise_cons.1 hs).1 _ hmem) (Nat.lt_irrefl _)
        · rintro ⟨-, hblocking⟩
          exact absurd hblocking hb
      · exact ih (List.pairwise_cons.1 hs).2 hmem

/-- Two families of projections that agree on what is reached under the first are folded to
the same end. -/
theorem reached_congr (hf : ∀ c, (f c).report.component? = some c)
    (hs : cs.Pairwise fun a b => a.position < b.position)
    (h : ∀ c ∈ cs, c.Reached (firstBlocker? (cs.map f)) → g c = f c) :
    reachedProjections (cs.map g) = reachedProjections (cs.map f) ∧
      firstBlocker? (cs.map g) = firstBlocker? (cs.map f) := by
  induction cs with
  | nil => exact ⟨rfl, rfl⟩
  | cons c rest ih =>
    have hc : g c = f c := h c List.mem_cons_self (reached_head hf hs)
    by_cases hb : (f c).blocking = true
    · simp [reachedProjections, firstBlocker?, hc, hb]
    · have hrest := ih (List.pairwise_cons.1 hs).2 fun d hd hr =>
        h d (List.mem_cons_of_mem c hd) (by simpa [firstBlocker?, hb] using hr)
      simp [reachedProjections, firstBlocker?, hc, hb, hrest.1, hrest.2]

end

end InferenceReconciler
