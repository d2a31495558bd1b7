import InferenceReconciler.Proofs.StatusRun
import Mathlib.Order.Bounds.Defs

/-!
# Times of transition

The time in a condition says since when the condition is what it is: over every run of passes it
is the time of the first pass from which on the condition has been there with its value, whatever
was removed, added again or left alone by a blocked pass in between. Two statuses count as
different exactly where more than such times differs, and projections that are folded twice
leave the times of the first fold.
-/

namespace InferenceReconciler

section

variable {l : List Condition} (h : (l.map (·.type)).Nodup)

include h

theorem nodup_types_setCondition (new : Condition) :
    ((setCondition new l).map (·.type)).Nodup := by
  induction l with
  | nil => exact List.pairwise_singleton _ _
  | cons old rest ih =>
    rw [List.map_cons, List.nodup_cons] at h
    by_cases ho : old.type = new.type
    · rw [setCondition, if_pos ho, List.map_cons, Condition.succeeding_type, List.nodup_cons, ← ho]
      exact h
    · rw [setCondition, if_neg ho, List.map_cons, List.nodup_cons]
      refine ⟨fun hmem => ?_, ih h.2⟩
      rcases (mem_types_setCondition new old.type rest).1 hmem with heq | hrest
      · exact ho heq
      · exact h.1 hrest

theorem nodup_types_applyConditions (r : Report) (now : Timestamp) :
    ((r.applyConditions now l).map (·.type)).Nodup := by
  cases r with
  | silent => exact h
  | notApplicable c => exact h.sublist (List.filter_sublist.map _)
  | health d => exact nodup_types_setCondition h _

theorem nodup_types_applyReports (rs : List Report) (now : Timestamp) :
    ((applyReports now rs l).map (·.type)).Nodup := by
  induction rs generalizing l with
  | nil => exact h
  | cons r rest ih => exact ih (nodup_types_applyConditions h r now)

end

/-- The condition has the time of an earlier one of its type and value, or the time of the pass
where there was none. -/
inductive Condition.DatedAfter (c : Condition) (now : Timestamp) (before : List Condition) :
    Prop where
  | kept (old : Condition) (mem : old ∈ before) (type : old.type = c.type)
      (status : old.status = c.status) (time : old.lastTransitionTime = c.lastTransitionTime) :
      DatedAfter c now before
  | turned (other : ∀ old ∈ before, old.type = c.type → old.status ≠ c.status)
      (time : c.lastTransitionTime = now) : DatedAfter c now before

namespace Condition.DatedAfter

variable {c : Condition} {now : Timestamp} {l : List Condition}

theorem of_mem (h : c ∈ l) : c.DatedAfter now l := .kept c h rfl rfl rfl

theorem of_conditionsOfType (h : c.DatedAfter now (conditionsOfType c.type l)) :
    c.DatedAfter now l := by
  cases h with
  | kept old mem type status time => exact .kept old (List.mem_filter.1 mem).1 type status time
  | turned other time =>
    refine .turned (fun old hold htype => ?_) time
    exact other old (List.mem_filter.2 ⟨hold, decide_eq_true htype⟩) htype

theorem of_mem_setCondition {new : Condition} (hl : l.length ≤ 1)
    (ht : ∀ old ∈ l, old.type = new.type) (h : c ∈ setCondition new l) :
    c.DatedAfter new.lastTransitionTime l := by
  cases l with
  | nil =>
    rw [List.mem_singleton.1 h]
    exact .turned (fun old hold => absurd hold List.not_mem_nil) rfl
  | cons old rest =>
    have hrest : rest = [] := List.eq_nil_of_length_eq_zero (by simpa using hl)
    have hto : old.type = new.type := ht old List.mem_cons_self
    rw [hrest, setCondition, if_pos hto, List.mem_singleton] at h
    by_cases hs : old.status = new.status
    · rw [h, Condition.succeeding, if_pos hs]
      exact .kept old List.mem_cons_self hto hs rfl
    · rw [h, Condition.succeeding, if_neg hs]
      refine .turned (fun other hother _ => ?_) rfl
      rw [hrest, List.mem_singleton] at hother
      rw [hother]
      exact hs

theorem of_mem_applyConditions {r : Report} {d : Component} (hd : r.component? = some d)
    (hl : l.length ≤ 1) (ht : ∀ old ∈ l, old.type = d.conditionType)
    (h : c ∈ r.applyConditions now l) : c.DatedAfter now l := by
  cases r with
  | silent => cases hd
  | notApplicable e => exact .of_mem (List.mem_filter.1 h).1
  | health e =>
    cases hd
    have hset : c ∈ setCondition (e.condition now) l := h
    exact of_mem_setCondition hl ht hset

theorem of_mem_applyReports {rs : List Report} (hd : ReportedOnce rs)
    (hl : (l.map (·.type)).Nodup) (h : c ∈ applyReports now rs l) : c.DatedAfter now l := by
  have hmem : c ∈ conditionsOfType c.type (applyReports now rs l) :=
    List.mem_filter.2 ⟨h, decide_eq_true rfl⟩
  by_cases hr : ∃ r ∈ rs, ∃ d, r.component? = some d ∧ d.conditionType = c.type
  · obtain ⟨r, hr, d, hrd, htype⟩ := hr
    rw [← htype, conditionsOfType_applyReports_of_mem now l hr hrd hd] at hmem
    apply of_conditionsOfType
    rw [← htype]
    exact of_mem_applyConditions hrd (length_conditionsOfType_le_one hl _)
      (fun old => type_of_mem_conditionsOfType) hmem
  · have hnone : ∀ r ∈ rs, ∀ d, r.component? = some d → d.conditionType ≠ c.type :=
      fun r hmem d hrd htype => hr ⟨r, hmem, d, hrd, htype⟩
    rw [conditionsOfType_applyReports_of_type_ne now l hnone] at hmem
    exact .of_mem (List.mem_filter.1 hmem).1

end Condition.DatedAfter

/-- All fields of both updates, those of the later one where both set a field. -/
def StatusUpdate.followedBy (u later : StatusUpdate) : StatusUpdate where
  resolvedRuntimeConfig := later.resolvedRuntimeConfig <|> u.resolvedRuntimeConfig
  resolvedModel := later.resolvedModel <|> u.resolvedModel
  resolvedTemplate := later.resolvedTemplate <|> u.resolvedTemplate
  cache := later.cache <|> u.cache
  routing := later.routing <|> u.routing

namespace StatusUpdate

theorem apply_followedBy (u later : StatusUpdate) (s : ServiceStatus) :
    (u.followedBy later).apply s = later.apply (u.apply s) := by
  simp only [apply, followedBy, Option.orElse_eq_orElse, Option.orElse_eq_or, Option.or_assoc]

theorem apply_apply (u : StatusUpdate) (s : ServiceStatus) : u.apply (u.apply s) = u.apply s := by
  simp only [apply, Option.orElse_eq_orElse, Option.orElse_eq_or, ← Option.or_assoc,
    Option.or_self]

end StatusUpdate

/-- The updates of several projections as one. -/
def combinedUpdate : List Projection → StatusUpdate
  | [] => .none
  | p :: rest => p.update.followedBy (combinedUpdate rest)

/-- A fold of projections is one update and one round of reports. -/
theorem foldl_apply_eq (now : Timestamp) (ps : List Projection) (s : ServiceStatus) :
    ps.foldl (fun s p => p.apply now s) s =
      { (combinedUpdate ps).apply s with
        conditions := applyReports now (ps.map (·.report)) s.conditions } := by
  induction ps generalizing s with
  | nil => rfl
  | cons p rest ih =>
    rw [List.foldl_cons, ih, combinedUpdate, StatusUpdate.apply_followedBy]
    rfl

/-- What is folded onto a status in one pass, with every component reported on once. -/
structure StatusPass where
  now : Timestamp
  projections : List Projection
  runtimeExists : Bool
  generation : Option Int64
  reportedOnce : ReportedOnce (projections.map (·.report))

namespace StatusPass

variable (i : StatusPass) (s : ServiceStatus)

def next : ServiceStatus :=
  (reduceStatus i.now s i.projections i.runtimeExists i.generation).status

def atTime (later : Timestamp) : StatusPass := { i with now := later }

def reports : List Report := (reachedProjections i.projections).map (·.report)

theorem next_eq :
    i.next s =
      { (combinedUpdate (reachedProjections i.projections)).apply s with
        status := phaseFor ((reachedProjections i.projections).flatMap
          fun p => p.report.health?.toList) i.runtimeExists
        conditions := applyReports i.now i.reports s.conditions
        observedGeneration := i.generation <|> s.observedGeneration } := by
  simp only [next, reduceStatus, foldProjections_eq, foldl_apply_eq, List.nil_append, reports]

theorem conditions_next : (i.next s).conditions = applyReports i.now i.reports s.conditions := by
  rw [next_eq]

theorem next_next (later : Timestamp) : (i.atTime later).next (i.next s) = i.next s := by
  have hconditions : applyReports later i.reports (applyReports i.now i.reports s.conditions) =
      applyReports i.now i.reports s.conditions :=
    applyReports_applyReports i.now s.conditions later i.reportedOnce.reached
  have hgeneration : (i.generation <|> (i.generation <|> s.observedGeneration)) =
      (i.generation <|> s.observedGeneration) := by
    cases i.generation <;> rfl
  rw [next_eq, next_eq]
  change ({ (combinedUpdate (reachedProjections i.projections)).apply
      ((combinedUpdate (reachedProjections i.projections)).apply s) with
    status := phaseFor ((reachedProjections i.projections).flatMap
      fun p => p.report.health?.toList) i.runtimeExists
    conditions := applyReports later i.reports (applyReports i.now i.reports s.conditions)
    observedGeneration := i.generation <|> (i.generation <|> s.observedGeneration) } :
    ServiceStatus) = _
  rw [StatusUpdate.apply_apply, hconditions, hgeneration]

/-- A condition of the next status goes on from one of the status before, or begins now. -/
theorem datedAfter_of_mem_next {c : Condition} (hs : (s.conditions.map (·.type)).Nodup)
    (h : c ∈ (i.next s).conditions) : c.DatedAfter i.now s.conditions := by
  rw [conditions_next] at h
  exact .of_mem_applyReports i.reportedOnce.reached hs h

end StatusPass

/-- The status after so many passes, each over the one before, the first over the initial one. -/
def statusAfterPasses (passes : Nat → StatusPass) : Nat → ServiceStatus
  | 0 => .initial
  | k + 1 => (passes k).next (statusAfterPasses passes k)

section

variable (passes : Nat → StatusPass)

theorem nodup_types_statusAfterPasses (k : Nat) :
    ((statusAfterPasses passes k).conditions.map (·.type)).Nodup := by
  induction k with
  | zero => exact List.nodup_nil
  | succ k ih =>
    rw [statusAfterPasses, StatusPass.conditions_next]
    exact nodup_types_applyReports ih _ _

def ServiceStatus.Has (s : ServiceStatus) (type : String) (value : ConditionStatus) : Prop :=
  ∃ c ∈ s.conditions, c.type = type ∧ c.status = value

/-- After every pass from `j` to `k` there is a condition of the type with the value. -/
def HeldSince (type : String) (value : ConditionStatus) (k j : Nat) : Prop :=
  j ≤ k ∧ ∀ i, j ≤ i → i ≤ k → (statusAfterPasses passes (i + 1)).Has type value

variable {passes} {type : String} {value : ConditionStatus} {k j : Nat}

/-- What has been held since a pass and is held after the next one is held since the same. -/
theorem isLeast_heldSince_succ (h : IsLeast {j | HeldSince passes type value k j} j)
    (hnext : (statusAfterPasses passes (k + 1 + 1)).Has type value) :
    IsLeast {j | HeldSince passes type value (k + 1) j} j := by
  obtain ⟨⟨hjk, hheld⟩, hleast⟩ := h
  refine ⟨⟨Nat.le_succ_of_le hjk, ?_⟩, ?_⟩
  · intro i hji hik
    by_cases hlast : i = k + 1
    · rw [hlast]
      exact hnext
    · exact hheld i hji (by omega)
  · rintro l ⟨hlk, hlheld⟩
    by_cases hlast : l = k + 1
    · omega
    · exact hleast ⟨by omega, fun i hli hik => hlheld i hli (by omega)⟩

theorem isLeast_heldSince_self (hbefore : ¬ (statusAfterPasses passes k).Has type value)
    (h : (statusAfterPasses passes (k + 1)).Has type value) :
    IsLeast {j | HeldSince passes type value k j} k := by
  refine ⟨⟨Nat.le_refl k, ?_⟩, ?_⟩
  · intro i hki hik
    rw [Nat.le_antisymm hik hki]
    exact h
  · rintro l ⟨hlk, hlheld⟩
    apply Nat.le_of_not_lt
    intro hlt
    obtain ⟨before, rfl⟩ : ∃ before, k = before + 1 := ⟨k - 1, by omega⟩
    exact hbefore (hlheld before (by omega) (by omega))

/-- The time of a condition is that of the first pass since which it has had its value. -/
theorem lastTransitionTime_statusAfterPasses (k : Nat) {c : Condition}
    (h : c ∈ (statusAfterPasses passes (k + 1)).conditions) :
    ∃ j, IsLeast {j | HeldSince passes c.type c.status k j} j ∧
      c.lastTransitionTime = (passes j).now := by
  induction k generalizing c with
  | zero =>
    cases (passes 0).datedAfter_of_mem_next _ (nodup_types_statusAfterPasses passes 0) h with
    | kept old mem => cases mem
    | turned other time =>
      have hbefore : ¬ (statusAfterPasses passes 0).Has c.type c.status :=
        fun ⟨old, mem, _⟩ => absurd mem List.not_mem_nil
      exact ⟨0, isLeast_heldSince_self hbefore ⟨c, h, rfl, rfl⟩, time⟩
  | succ k ih =>
    have hhas : (statusAfterPasses passes (k + 1 + 1)).Has c.type c.status := ⟨c, h, rfl, rfl⟩
    cases (passes (k + 1)).datedAfter_of_mem_next _
        (nodup_types_statusAfterPasses passes (k + 1)) h with
    | kept old mem type status time =>
      obtain ⟨j, hj, htime⟩ := ih mem
      rw [type, status] at hj
      exact ⟨j, isLeast_heldSince_succ hj hhas, time.symm.trans htime⟩
    | turned other time =>
      have hbefore : ¬ (statusAfterPasses passes (k + 1)).Has c.type c.status :=
        fun ⟨old, mem, htype, hstatus⟩ => other old mem htype hstatus
      exact ⟨k + 1, isLeast_heldSince_self hbefore hhas, time⟩

end

/-- The condition as one of the first moment. -/
def Condition.timeless (c : Condition) : Condition := { c with lastTransitionTime := .epoch }

theorem Condition.sameState_iff {a b : Condition} :
    a.sameState b = true ↔ a.timeless = b.timeless := by
  simp only [sameState, timeless, Bool.and_eq_true, decide_eq_true_eq, Condition.mk.injEq,
    and_true, and_assoc]

theorem sameStates_iff {l l' : List Condition} :
    sameStates l l' = true ↔ l.map Condition.timeless = l'.map Condition.timeless := by
  induction l generalizing l' with
  | nil => cases l' <;> simp [sameStates]
  | cons a rest ih =>
    cases l' with
    | nil => simp [sameStates]
    | cons b rest' =>
      rw [sameStates, Bool.and_eq_true, Condition.sameState_iff, ih, List.map_cons, List.map_cons,
        List.cons.injEq]

/-- The status with the times of all its conditions erased. -/
def ServiceStatus.timeless (s : ServiceStatus) : ServiceStatus :=
  { s with conditions := s.conditions.map Condition.timeless }

theorem statusChanged_eq_false_iff {p n : ServiceStatus} :
    statusChanged (some p) n = false ↔ p.timeless = n.timeless := by
  simp only [statusChanged, Bool.not_eq_false', Bool.and_eq_true, decide_eq_true_eq,
    sameStates_iff, ServiceStatus.timeless, ServiceStatus.mk.injEq, true_and]
  exact and_left_comm

/-- The fold of a pass over a service. -/
def PassInput.fold (i : PassInput) (s : ServiceStatus) : StatusPass where
  now := i.now
  projections := (i.observation s).projections s
  runtimeExists := (i.observation s).runtime.exists
  generation := i.service.metadata.generation
  reportedOnce := (i.observation s).reports_once s

theorem statusAfter_eq_statusAfterPasses (inputs : Nat → PassInput) (k : Nat) :
    statusAfter inputs .initial k =
      statusAfterPasses (fun j => (inputs j).fold (statusAfter inputs .initial j)) k := by
  induction k with
  | zero => rfl
  | succ k ih => rw [statusAfterPasses, ← ih, statusAfter_succ]; rfl

/-- Over every run of passes there is one condition of each type at most, and its time is that of
the first pass since which it has been there with its value. A status counts as unchanged exactly
where nothing but times differs, and what is folded a second time leaves the status as it is.
The passes of the reconciler make such runs. -/
theorem transition_times_of_run :
    (∀ (passes : Nat → StatusPass) (k : Nat),
      ((statusAfterPasses passes k).conditions.map (·.type)).Nodup ∧
      ∀ c ∈ (statusAfterPasses passes (k + 1)).conditions,
        ∃ j, IsLeast {j | HeldSince passes c.type c.status k j} j ∧
          c.lastTransitionTime = (passes j).now) ∧
    (∀ p n : ServiceStatus, statusChanged (some p) n = false ↔ p.timeless = n.timeless) ∧
    (∀ (i : StatusPass) (s : ServiceStatus) (later : Timestamp),
      (i.atTime later).next (i.next s) = i.next s) ∧
    ∀ (inputs : Nat → PassInput) (k : Nat), statusAfter inputs .initial k =
      statusAfterPasses (fun j => (inputs j).fold (statusAfter inputs .initial j)) k := by
  refine ⟨fun passes k => ⟨nodup_types_statusAfterPasses passes k, ?_⟩, ?_, ?_, ?_⟩
  · intro c hc
    exact lastTransitionTime_statusAfterPasses k hc
  · intro p n
    exact statusChanged_eq_false_iff
  · intro i s later
    exact i.next_next s later
  · exact statusAfter_eq_statusAfterPasses

end InferenceReconciler
