import InferenceReconciler.Proofs.ReachedCaching
import InferenceReconciler.Proofs.StatusSettles
import Mathlib.Data.Nat.Count

/-!
# Spent retries

The planner deletes and the projection counts, and they agree: a pass raises the number of
retries exactly where its plan deletes model caches. Along every run the number therefore
keeps pace with the passes that delete, and as it only rises below the budget, no more of
them delete than there were retries left.
-/

namespace InferenceReconciler

theorem retrying_of_retryDeletes_ne_nil {service : ServiceObject}
    {template : Option TemplateRecord} {model : Option ModelRecord} {fetched : CacheFetch}
    {config : EffectiveConfig} {intent : CachingIntent} {policy : Policy}
    (h : (observeCaching service template model fetched config intent policy).retryDeletes ≠
      []) :
    (observeCaching service template model fetched config intent policy).Retrying := by
  cases ht : template.filter TemplateRecord.isReady with
  | none =>
    rw [observeCaching_of_not_ready service model fetched config intent policy ht] at h
    exact absurd rfl h
  | some t =>
    simp only [observeCaching, ht] at h ⊢
    split at h
    · dsimp only at h
      split at h
      · rename_i hallowed
        have hparts := hallowed
        rw [Bool.and_eq_true, Bool.not_eq_true'] at hparts
        exact ⟨rfl, hparts.1, hparts.2, by rwa [if_pos hallowed]⟩
      · exact absurd rfl h
    · exact absurd rfl h

namespace CachingObservation

theorem map_retryAttempts_of_retrying {o : CachingObservation} (h : o.Retrying)
    (prior : Option ServiceCacheStatus) :
    (o.projectCaching prior).update.cache.map (·.retryAttempts) = some (o.retryAttempts + 1) := by
  obtain ⟨c, hc, hfailed⟩ := (Option.any_eq_true _ _).1 h.failed
  have hdeletes : (!o.retryDeletes.isEmpty) = true := by simpa using h.deletes
  simp only [projectCaching, h.shared, hc, projectShared, of_decide_eq_true hfailed, h.allowed,
    hdeletes, if_true, Bool.false_eq_true, if_false]
  rfl

end CachingObservation

namespace PassInput

variable (i : PassInput) (s : ServiceStatus)

/-- What the pass writes, apart from the status. -/
def plan : Except Fault Plan := (i.observation s).plan (i.service.withStatus s) i.policy

/-- The model caches that the pass deletes; none without a plan. -/
def deletions : List PlannedDelete :=
  match i.plan s with
  | .ok plan => plan.deletes
  | .error _ => []

/-- A failed cache is made anew, and nothing keeps the pass from getting there. -/
structure Retries (i : PassInput) (s : ServiceStatus) : Prop where
  config : (i.observation s).config.error = none
  caching : (i.observation s).caching.Retrying

variable {i s}

theorem reached_caching_blocker?_iff :
    Component.caching.Reached (i.blocker? s) ↔
      (i.observation s).config.error = none ∧
        ∃ t, (i.observation s).template.ready? = some t :=
  reached_caching_iff i.now (i.service.withStatus s)

theorem ready_of_retrying (h : (i.observation s).caching.Retrying) :
    ∃ t, (i.observation s).template.ready? = some t := by
  obtain ⟨name, hname⟩ := List.exists_mem_of_ne_nil _ h.deletes
  obtain ⟨t, ht, -⟩ := mem_retryDeletes_observeCaching _ _ _ _ _ _ hname
  exact ⟨t, ht⟩

/-- A plan deletes if and only if the pass retries. -/
theorem deletes_ne_nil_iff {plan : Plan} (h : i.plan s = .ok plan) :
    plan.deletes ≠ [] ↔ i.Retries s := by
  by_cases he : (i.observation s).config.error = none
  · obtain ⟨volume, runtime, route, -, -, -, rfl⟩ := Observation.plan_eq_ok he h
    have hmap : (i.observation s).deletes ≠ [] ↔
        (i.observation s).caching.retryDeletes ≠ [] := by
      unfold Observation.deletes
      rw [ne_eq, List.map_eq_nil_iff]
    rw [hmap]
    exact ⟨fun hd => ⟨he, retrying_of_retryDeletes_ne_nil hd⟩, fun hr => hr.caching.deletes⟩
  · have hempty : i.plan s = .ok .empty := Observation.plan_of_config_error he
    rw [hempty] at h
    cases h
    exact ⟨fun hd => absurd rfl hd, fun hr => absurd hr.config he⟩

theorem retries_of_deletions_ne_nil (h : i.deletions s ≠ []) : i.Retries s := by
  unfold deletions at h
  split at h
  · rename_i plan hplan
    exact (deletes_ne_nil_iff hplan).1 h
  · exact absurd rfl h

theorem retryAttempts_next_of_retries (h : i.Retries s) :
    s.retryAttempts < i.policy.cacheRetryBudget ∧
      (i.next s).retryAttempts.toNat = s.retryAttempts.toNat + 1 := by
  have hreached : Component.caching.Reached (i.blocker? s) :=
    reached_caching_blocker?_iff.2 ⟨h.config, ready_of_retrying h.caching⟩
  have hcount := CachingObservation.map_retryAttempts_of_retrying h.caching s.cache
  obtain ⟨noted, hnoted, -⟩ := Option.map_eq_some_iff.1 hcount
  obtain ⟨hattempts, -⟩ := retryAttempts_caching hnoted
  have hnext : (i.next s).retryAttempts = s.retryAttempts + 1 := by
    rw [retryAttempts_next, if_pos hreached, hcount, hattempts]
    rfl
  rcases i.retryAttempts_next_cases s with hsame | ⟨hspent, hlt⟩
  · rw [hnext] at hsame
    exact absurd hsame (by simp)
  · exact ⟨hlt, hspent⟩

theorem retryAttempts_next_of_not_retries (h : ¬ i.Retries s) :
    (i.next s).retryAttempts = s.retryAttempts := by
  rw [retryAttempts_next]
  split
  · rename_i hreached
    obtain ⟨he, -⟩ := reached_caching_blocker?_iff.1 hreached
    cases hc : ((i.observation s).caching.projectCaching s.cache).update.cache with
    | none => rfl
    | some noted =>
      obtain ⟨hattempts, -⟩ := retryAttempts_caching hc
      rcases (CachingObservation.cache_update_projectCaching hc).2 with hn | ⟨-, hretry⟩
      · exact hn.trans hattempts
      · exact absurd ⟨he, hretry⟩ h
  · rfl

theorem retryAttempts_le_next (i : PassInput) (s : ServiceStatus) :
    s.retryAttempts ≤ (i.next s).retryAttempts := by
  rcases i.retryAttempts_next_cases s with hsame | ⟨hspent, -⟩
  · rw [hsame]
    exact UInt32.le_refl _
  · rw [UInt32.le_iff_toNat_le]
    omega

end PassInput

section

variable (inputs : Nat → PassInput) (start : ServiceStatus)

theorem retryAttempts_statusAfter_mono {j k : Nat} (h : j ≤ k) :
    (statusAfter inputs start j).retryAttempts ≤ (statusAfter inputs start k).retryAttempts := by
  induction h with
  | refl => exact UInt32.le_refl _
  | step _ ih => exact UInt32.le_trans ih ((inputs _).retryAttempts_le_next _)

/-- Every pass that deletes has spent a retry. -/
theorem add_count_deletions_le (n : Nat) :
    start.retryAttempts.toNat +
        Nat.count (fun k => (inputs k).deletions (statusAfter inputs start k) ≠ []) n ≤
      (statusAfter inputs start n).retryAttempts.toNat := by
  induction n with
  | zero => simp
  | succ n ih =>
    rw [Nat.count_succ, statusAfter_succ]
    split
    · rename_i hdeletes
      obtain ⟨-, hspent⟩ := PassInput.retryAttempts_next_of_retries
        (PassInput.retries_of_deletions_ne_nil hdeletes)
      omega
    · have hle := UInt32.le_iff_toNat_le.1
        ((inputs n).retryAttempts_le_next (statusAfter inputs start n))
      omega

variable {policy : Policy} (hpolicy : ∀ k, (inputs k).policy = policy)

include hpolicy in
theorem retryAttempts_statusAfter_le (n : Nat) :
    (statusAfter inputs start n).retryAttempts.toNat ≤
      max start.retryAttempts.toNat policy.cacheRetryBudget.toNat := by
  induction n with
  | zero => exact Nat.le_max_left _ _
  | succ n ih =>
    rw [statusAfter_succ]
    rcases (inputs n).retryAttempts_next_cases (statusAfter inputs start n) with
      hsame | ⟨hspent, hlt⟩
    · rw [hsame]
      exact ih
    · rw [hpolicy, UInt32.lt_iff_toNat_lt] at hlt
      omega

include hpolicy in
/-- Along every run under one policy the number of retries never falls, and a pass whose plan
is made raises it if and only if the plan deletes, by one and from below the budget. So at most
as many passes delete model caches as there were retries left. -/
theorem retries_follow_deletions :
    let status := statusAfter inputs start
    (∀ j k, j ≤ k → (status j).retryAttempts ≤ (status k).retryAttempts) ∧
    (∀ k plan, (inputs k).plan (status k) = .ok plan →
      ((status (k + 1)).retryAttempts ≠ (status k).retryAttempts ↔ plan.deletes ≠ []) ∧
      (plan.deletes ≠ [] →
        (status k).retryAttempts < policy.cacheRetryBudget ∧
          (status (k + 1)).retryAttempts.toNat = (status k).retryAttempts.toNat + 1)) ∧
    ∀ n, Nat.count (fun k => (inputs k).deletions (status k) ≠ []) n ≤
      policy.cacheRetryBudget.toNat - start.retryAttempts.toNat := by
  intro status
  refine ⟨fun j k => retryAttempts_statusAfter_mono inputs start, ?_, ?_⟩
  · intro k plan hplan
    have hdeletes := PassInput.deletes_ne_nil_iff hplan
    have hspent : plan.deletes ≠ [] →
        (status k).retryAttempts < policy.cacheRetryBudget ∧
          (status (k + 1)).retryAttempts.toNat = (status k).retryAttempts.toNat + 1 := by
      intro hd
      rw [← hpolicy k]
      exact PassInput.retryAttempts_next_of_retries (hdeletes.1 hd)
    refine ⟨⟨?_, ?_⟩, hspent⟩
    · intro hne hnil
      exact hne (PassInput.retryAttempts_next_of_not_retries fun hr => hdeletes.2 hr hnil)
    · intro hd hsame
      have hcount := (hspent hd).2
      rw [hsame] at hcount
      omega
  · intro n
    have hcount : start.retryAttempts.toNat +
        Nat.count (fun k => (inputs k).deletions (status k) ≠ []) n ≤
          (status n).retryAttempts.toNat := add_count_deletions_le inputs start n
    have hbudget : (status n).retryAttempts.toNat ≤ _ :=
      retryAttempts_statusAfter_le inputs start hpolicy n
    omega

end

/-- A cache that failed and may be made anew twice is made anew in the first pass, and no more
than two of all passes delete anything. -/
theorem failed_cache_retried_twice :
    let status := statusAfter (fun _ => failedCachePass) .initial
    (∃ plan, failedCachePass.plan .initial = .ok plan ∧ plan.deletes ≠ [] ∧
      (status 1).retryAttempts.toNat = 1) ∧
    ∀ n, Nat.count (fun k => failedCachePass.deletions (status k) ≠ []) n ≤ 2 := by
  intro status
  have hpolicy : ∀ _ : Nat, failedCachePass.policy = failedCachePass.policy := fun _ => rfl
  obtain ⟨-, hpass, hcount⟩ :=
    retries_follow_deletions (fun _ => failedCachePass) .initial hpolicy
  refine ⟨?_, hcount⟩
  have hdeletions : failedCachePass.deletions .initial ≠ [] := by decide +kernel
  unfold PassInput.deletions at hdeletions
  split at hdeletions
  · rename_i plan hplan
    exact ⟨plan, hplan, hdeletions, ((hpass 0 plan hplan).2 hdeletions).2⟩
  · exact absurd rfl hdeletions

end InferenceReconciler
