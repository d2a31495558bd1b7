import InferenceReconciler.Proofs.StatusFeedback

/-!
# The budget of retries

A pass either leaves the number of retries as it is or spends one retry, and it spends one
only while the budget lasts. What it does follows from the number and the template alone. So
over one cluster the number rises in every pass from the first one on until it has come to
rest, and it rests at the latest when the budget is spent.
-/

namespace InferenceReconciler

theorem CachingObservation.map_retryAttempts_projectCaching (o : CachingObservation)
    (prior prior' : Option ServiceCacheStatus) :
    (o.projectCaching prior).update.cache.map (·.retryAttempts) =
      (o.projectCaching prior').update.cache.map (·.retryAttempts) := by
  unfold projectCaching
  split
  · rfl
  · split <;> rfl
  · split
    · rfl
    · unfold projectShared
      dsimp only
      split
      · rfl
      · split
        · rfl
        · split <;> rfl
      · rfl

namespace PassInput

variable {i : PassInput} {s s' : ServiceStatus}

theorem retryAttempts_next (i : PassInput) (s : ServiceStatus) :
    (i.next s).retryAttempts =
      (if Component.caching.Reached (i.blocker? s) then
        ((i.observation s).caching.projectCaching s.cache).update.cache.map (·.retryAttempts)
      else none).getD s.retryAttempts := by
  unfold ServiceStatus.retryAttempts
  rw [cache_next]
  by_cases hr : Component.caching.Reached (i.blocker? s)
  · rw [if_pos hr, if_pos hr]
    cases ((i.observation s).caching.projectCaching s.cache).update.cache <;> rfl
  · rw [if_neg hr, if_neg hr]
    rfl

@[simp] theorem retryAttempts_next_atTime (i : PassInput) (s : ServiceStatus)
    (now : Timestamp) : ((i.atTime now).next s).retryAttempts = (i.next s).retryAttempts := by
  simp only [retryAttempts_next, observation_atTime, blocker?_atTime]

theorem retryAttempts_next_congr
    (h : (i.observation s).template.outcome = (i.observation s').template.outcome)
    (ha : s.retryAttempts = s'.retryAttempts) :
    (i.next s).retryAttempts = (i.next s').retryAttempts := by
  have hnoted : ((i.observation s).caching.projectCaching s.cache).update.cache.map
      (·.retryAttempts) =
        ((i.observation s').caching.projectCaching s'.cache).update.cache.map
          (·.retryAttempts) := by
    rw [caching_congr h ha]
    exact CachingObservation.map_retryAttempts_projectCaching _ _ _
  rw [retryAttempts_next, retryAttempts_next, hnoted, ha]
  have hreached : Component.caching.Reached (i.blocker? s) ↔
      Component.caching.Reached (i.blocker? s') := reached_congr_of_le (Nat.le_refl _) h
  simp only [hreached]

/-- The observation of caches takes the number of retries from the status once there is a
ready template, and without one nothing is noted. -/
theorem retryAttempts_caching {noted : ServiceCacheStatus}
    (h : ((i.observation s).caching.projectCaching s.cache).update.cache = some noted) :
    (i.observation s).caching.retryAttempts = s.retryAttempts ∧
      ((i.observation s).caching.Retrying → s.retryAttempts < i.policy.cacheRetryBudget) := by
  let model := (i.observation s).model.resolved
  let config := (i.observation s).config
  have hcaching : (i.observation s).caching =
      observeCaching (i.service.withStatus s) (i.observation s).template.ready? model
        i.snapshot.caches config.effective config.intent i.policy := rfl
  cases ht : (i.observation s).template.ready?.filter TemplateRecord.isReady with
  | none =>
    rw [hcaching, observeCaching_of_not_ready _ _ _ _ _ _ ht] at h
    cases h
  | some t =>
    obtain ⟨htemplate, hready⟩ := Option.filter_eq_some_iff.1 ht
    rw [htemplate] at hcaching
    have hattempts : (i.observation s).caching.retryAttempts = s.retryAttempts := by
      rw [hcaching]
      exact retryAttempts_observeCaching _ _ _ _ _ _ hready
    refine ⟨hattempts, fun hretry => ?_⟩
    have hexhausted := retryExhausted_observeCaching (i.service.withStatus s) model
      i.snapshot.caches config.effective config.intent i.policy hready
    dsimp only at hexhausted
    rw [← hcaching, hretry.allowed, hretry.failed, Bool.true_and, hattempts] at hexhausted
    exact UInt32.not_le.1 (of_decide_eq_false hexhausted.symm)

/-- A pass spends one retry of the budget or none. -/
theorem retryAttempts_next_cases (i : PassInput) (s : ServiceStatus) :
    (i.next s).retryAttempts = s.retryAttempts ∨
      (i.next s).retryAttempts.toNat = s.retryAttempts.toNat + 1 ∧
        s.retryAttempts < i.policy.cacheRetryBudget := by
  rw [retryAttempts_next]
  split
  · cases hc : ((i.observation s).caching.projectCaching s.cache).update.cache with
    | none => exact Or.inl rfl
    | some noted =>
      obtain ⟨hattempts, hallowed⟩ := retryAttempts_caching hc
      rcases (CachingObservation.cache_update_projectCaching hc).2 with hn | ⟨hn, hretry⟩
      · exact Or.inl (hn.trans hattempts)
      · refine Or.inr ⟨?_, hallowed hretry⟩
        -- The number stays below the budget, so it does not wrap around.
        have hlt := UInt32.lt_iff_toNat_lt.1 (hallowed hretry)
        have hmax := i.policy.cacheRetryBudget.toNat_lt
        rw [Option.map_some, Option.getD_some, hn, hattempts, UInt32.toNat_add]
        exact Nat.mod_eq_of_lt (by simp only [UInt32.toNat_one]; omega)
  · exact Or.inl rfl

end PassInput

section

variable (i : PassInput) (hd : i.snapshot.templates.NamesDistinct) (clock : Nat → Timestamp)
  (start : ServiceStatus)

include hd in
theorem retryAttempts_statusAfter (k : Nat) :
    let status := statusAfter (fun j => i.atTime (clock j)) start
    (status (k + 1)).retryAttempts = (status k).retryAttempts ∨
      (status (k + 1)).retryAttempts.toNat = start.retryAttempts.toNat + (k + 1) ∧
        start.retryAttempts.toNat + k < i.policy.cacheRetryBudget.toNat := by
  intro status
  have hnext : ∀ j, (status (j + 1)).retryAttempts = (i.next (status j)).retryAttempts :=
    fun j => i.retryAttempts_next_atTime (status j) (clock j)
  induction k with
  | zero =>
    rw [hnext]
    rcases i.retryAttempts_next_cases start with hrest | ⟨hspent, hlt⟩
    · exact Or.inl hrest
    · exact Or.inr ⟨hspent, UInt32.lt_iff_toNat_lt.1 hlt⟩
  | succ k ih =>
    rcases ih with hrest | ⟨hcount, -⟩
    · have hsame : (i.observation (status (k + 1))).template.outcome =
          (i.observation (status k)).template.outcome :=
        (i.atTime (clock k)).outcome_next hd (status k)
      left
      rw [hnext, PassInput.retryAttempts_next_congr hsame hrest, ← hnext]
    · rw [hnext (k + 1)]
      rcases i.retryAttempts_next_cases (status (k + 1)) with hrest | ⟨hspent, hlt⟩
      · exact Or.inl hrest
      · have hlt' := UInt32.lt_iff_toNat_lt.1 hlt
        right
        omega

include hd in
/-- The number of retries rests once as many passes have gone by as there were retries left. -/
theorem retryAttempts_settles {k : Nat}
    (hk : i.policy.cacheRetryBudget.toNat - start.retryAttempts.toNat ≤ k) :
    let status := statusAfter (fun j => i.atTime (clock j)) start
    (status (k + 1)).retryAttempts = (status k).retryAttempts := by
  intro status
  rcases retryAttempts_statusAfter i hd clock start k with hrest | ⟨-, hlt⟩
  · exact hrest
  · omega

end

end InferenceReconciler
