import InferenceReconciler.Proofs.BlockedProjection
import InferenceReconciler.Proofs.SpentRetries

/-!
# A failed shared cache

How long a service holds on to a shared cache that has failed, while its cluster stays as it
is. A pass retries as long as the budget lasts, provided that it gets to the caches and that a
model cache of the template has failed, for otherwise there is nothing to make anew. So the
retries come to an end in as many passes as there were retries left, or they never begin.
-/

namespace InferenceReconciler

def CacheFetch.FailedFor (f : CacheFetch) (sources : List ModelSource) : Prop :=
  ∃ c ∈ f.modelCaches, (∃ source ∈ sources, source.sourceUri = c.spec.sourceUri) ∧
    c.status.map (·.status) = some .failed

theorem failedModelCaches_ne_nil_iff {f : CacheFetch} {sources : List ModelSource} :
    failedModelCaches sources f.modelCaches ≠ [] ↔ f.FailedFor sources := by
  constructor
  · intro h
    obtain ⟨name, hname⟩ := List.exists_mem_of_ne_nil _ h
    obtain ⟨c, hc, hsource, hfailed, -⟩ := mem_failedModelCaches.1 hname
    exact ⟨c, hc, hsource, hfailed⟩
  · rintro ⟨c, hc, hsource, hfailed⟩
    exact List.ne_nil_of_mem (mem_failedModelCaches.2 ⟨c, hc, hsource, hfailed, rfl⟩)

section

variable {service : ServiceObject} {t : TemplateRecord} {model : Option ModelRecord}
  {fetched : CacheFetch} {config : EffectiveConfig} {intent : CachingIntent} {policy : Policy}

theorem exists_sharedCache_of_failed (hfailed : fetched.sharedStatus? t = some .failed)
    (ofNamespace : String) :
    ∃ c, sharedCacheOf? t ofNamespace fetched.templateCaches = some c ∧ c.status = .failed :=
  Option.map_eq_some_iff.1 ((sharedCacheOf?_map_status ofNamespace fetched).trans hfailed)

theorem retryExhausted_of_failed (ht : t.isReady = true)
    (hfailed : fetched.sharedStatus? t = some .failed) :
    (observeCaching service (some t) model fetched config intent policy).retryExhausted =
      decide (policy.cacheRetryBudget ≤ service.lastStatus.retryAttempts) := by
  obtain ⟨c, hc, hs⟩ := exists_sharedCache_of_failed hfailed
    (service.metadata.namespace.getD "")
  have hexhausted := retryExhausted_observeCaching service model fetched config intent policy ht
  dsimp only at hexhausted
  rw [cache_observeCaching service model fetched config intent policy ht, hc,
    retryAttempts_observeCaching service model fetched config intent policy ht,
    Option.any_some, decide_eq_true hs, Bool.true_and] at hexhausted
  exact hexhausted

theorem storage_of_failed (ht : t.isReady = true)
    (hfailed : fetched.sharedStatus? t = some .failed) :
    (observeCaching service (some t) model fetched config intent policy).storage =
      some (chooseStorage intent true
        (decide (policy.cacheRetryBudget ≤ service.lastStatus.retryAttempts))) := by
  obtain ⟨c, hc, hs⟩ := exists_sharedCache_of_failed hfailed
    (service.metadata.namespace.getD "")
  simp only [observeCaching, Option.filter_some, ht, if_true, hc, Option.any_some,
    decide_eq_true hs, Bool.true_and, Option.isSome_some, Bool.true_or,
    service.retryAttempts_lastStatus]
  split <;> rename_i hchoice <;> rw [hchoice]

theorem retryDeletes_of_failed (ht : t.isReady = true)
    (hfailed : fetched.sharedStatus? t = some .failed)
    (hshared : (observeCaching service (some t) model fetched config intent policy).storage =
      some .sharedCache)
    (hbudget : service.lastStatus.retryAttempts < policy.cacheRetryBudget) :
    (observeCaching service (some t) model fetched config intent policy).retryDeletes =
      failedModelCaches (templateSources t model) fetched.modelCaches := by
  obtain ⟨c, hc, hs⟩ := exists_sharedCache_of_failed hfailed
    (service.metadata.namespace.getD "")
  have hallowed : decide (policy.cacheRetryBudget ≤
      (service.status.map (·.retryAttempts)).getD 0) = false := by
    rw [← service.retryAttempts_lastStatus]
    exact decide_eq_false (UInt32.not_le.2 hbudget)
  simp only [observeCaching, Option.filter_some, ht, if_true, hc, Option.any_some,
    decide_eq_true hs, Bool.true_and, hallowed] at hshared ⊢
  split
  · rfl
  · rename_i hchoice
    rw [hchoice] at hshared
    cases hshared

end

namespace PassInput

/-- The service uses the shared cache of a ready template, and it has failed. -/
structure UsesFailedCache (i : PassInput) (s : ServiceStatus) (t : TemplateRecord) : Prop where
  template : (i.observation s).template.ready? = some t
  failed : i.snapshot.caches.sharedStatus? t = some .failed
  shared : (i.observation s).caching.storage = some .sharedCache

/-- The same for a service that would use the shared cache as long as there are retries left. -/
structure OverFailedCache (i : PassInput) (s : ServiceStatus) (t : TemplateRecord) : Prop where
  template : (i.observation s).template.ready? = some t
  failed : i.snapshot.caches.sharedStatus? t = some .failed
  intent : (i.observation s).config.intent ≠ .requireDedicated

/-- What a retry needs apart from the budget. -/
structure CanRetry (i : PassInput) (s : ServiceStatus) (t : TemplateRecord) : Prop where
  config : (i.observation s).config.error = none
  failedFor : i.snapshot.caches.FailedFor
    (templateSources t (i.observation s).model.resolved)

variable {i : PassInput} {s : ServiceStatus} {t : TemplateRecord}

theorem caching_observation (h : (i.observation s).template.ready? = some t) :
    (i.observation s).caching =
      observeCaching (i.service.withStatus s) (some t) (i.observation s).model.resolved
        i.snapshot.caches (i.observation s).config.effective (i.observation s).config.intent
        i.policy := by
  rw [← h]
  rfl

theorem UsesFailedCache.overFailedCache (h : i.UsesFailedCache s t) :
    i.OverFailedCache s t := by
  refine ⟨h.template, h.failed, fun hintent => ?_⟩
  have hshared := h.shared
  rw [caching_observation h.template,
    storage_of_failed (TemplateObservation.ready?_eq_some_iff.1 h.template).2 h.failed,
    hintent] at hshared
  cases hshared

namespace OverFailedCache

variable (h : i.OverFailedCache s t)

include h

theorem isReady : t.isReady = true := (TemplateObservation.ready?_eq_some_iff.1 h.template).2

theorem retryExhausted_eq_true_iff :
    (i.observation s).caching.retryExhausted = true ↔
      i.policy.cacheRetryBudget ≤ s.retryAttempts := by
  rw [caching_observation h.template, retryExhausted_of_failed h.isReady h.failed]
  exact decide_eq_true_iff

theorem retryDeletes_eq (hshared : (i.observation s).caching.storage = some .sharedCache)
    (hbudget : s.retryAttempts < i.policy.cacheRetryBudget) :
    (i.observation s).caching.retryDeletes =
      failedModelCaches (templateSources t (i.observation s).model.resolved)
        i.snapshot.caches.modelCaches := by
  have hbudget' : (i.service.withStatus s).lastStatus.retryAttempts <
      i.policy.cacheRetryBudget := hbudget
  rw [caching_observation h.template] at hshared ⊢
  exact retryDeletes_of_failed h.isReady h.failed hshared hbudget'

/-- The pass retries if and only if it can and there is a retry left. -/
theorem retries_iff :
    i.Retries s ↔ i.CanRetry s t ∧ s.retryAttempts < i.policy.cacheRetryBudget := by
  constructor
  · intro hr
    have hbudget := (retryAttempts_next_of_retries hr).1
    have hdeletes := h.retryDeletes_eq hr.caching.shared hbudget
    exact ⟨⟨hr.config, failedModelCaches_ne_nil_iff.1 (hdeletes ▸ hr.caching.deletes)⟩, hbudget⟩
  · rintro ⟨⟨hconfig, hsource⟩, hbudget⟩
    have hshared : (i.observation s).caching.storage = some .sharedCache := by
      have hleft : decide (i.policy.cacheRetryBudget ≤ s.retryAttempts) = false :=
        decide_eq_false (UInt32.not_le.2 hbudget)
      rw [caching_observation h.template, storage_of_failed h.isReady h.failed,
        ServiceObject.lastStatus_withStatus, hleft]
      cases hintent : (i.observation s).config.intent with
      | requireShared => rfl
      | preferShared => rfl
      | requireDedicated => exact absurd hintent h.intent
    have hne : (i.observation s).caching.retryDeletes ≠ [] := by
      rw [h.retryDeletes_eq hshared hbudget]
      exact failedModelCaches_ne_nil_iff.2 hsource
    exact ⟨hconfig, retrying_of_retryDeletes_ne_nil hne⟩

theorem storage_of_exhausted (hx : (i.observation s).caching.retryExhausted = true)
    (hintent : (i.observation s).config.intent = .preferShared) :
    (i.observation s).caching.storage = some .temporaryVolume := by
  have hspent : decide (i.policy.cacheRetryBudget ≤ s.retryAttempts) = true :=
    decide_eq_true (h.retryExhausted_eq_true_iff.1 hx)
  rw [caching_observation h.template, storage_of_failed h.isReady h.failed,
    ServiceObject.lastStatus_withStatus, hspent, hintent]
  rfl

theorem report_of_exhausted (hx : (i.observation s).caching.retryExhausted = true)
    (hintent : (i.observation s).config.intent = .requireShared) :
    ∃ message, (i.observation s).caching.projectCaching s.cache =
      (Projection.of (.ofProblem .caching (.provided Reason.cacheFailed message)) true).withUpdate
        ((i.observation s).caching.cacheUpdate s.cache s.retryAttempts) := by
  obtain ⟨c, hc, hs⟩ := exists_sharedCache_of_failed h.failed
    ((i.service.withStatus s).metadata.namespace.getD "")
  have hcaching := caching_observation h.template
  have hcache : (i.observation s).caching.cache = some c := by
    rw [hcaching, cache_observeCaching _ _ _ _ _ _ h.isReady]
    exact hc
  have hstorage : (i.observation s).caching.storage = some .sharedCache := by
    rw [hcaching, storage_of_failed h.isReady h.failed, hintent]
    rfl
  have hattempts : (i.observation s).caching.retryAttempts = s.retryAttempts := by
    rw [hcaching]
    exact retryAttempts_observeCaching _ _ _ _ _ _ h.isReady
  simp only [CachingObservation.projectCaching, hstorage, hcache,
    CachingObservation.projectShared, hs, hx, if_true, hattempts]
  exact ⟨_, rfl⟩

end OverFailedCache

end PassInput

section

variable (i : PassInput) (clock : Nat → Timestamp) (start : ServiceStatus) {t : TemplateRecord}
  (hid : i.snapshot.templates.Identifies t)

include hid in
/-- The template stays the same, and so does what was wrong with its cache. -/
theorem overFailedCache_statusAfter (h : i.OverFailedCache start t) (k : Nat) :
    i.OverFailedCache (statusAfter (fun j => i.atTime (clock j)) start k) t := by
  induction k with
  | zero => exact h
  | succ k ih =>
    obtain ⟨hout, hready⟩ := TemplateObservation.ready?_eq_some_iff.1 ih.template
    have hnext := (i.atTime (clock k)).outcome_next_of_identifies hid hout
    exact ⟨TemplateObservation.ready?_eq_some_iff.2 ⟨hnext, hready⟩, h.failed, h.intent⟩

include hid in
theorem retryAttempts_of_canRetry (h : i.OverFailedCache start t) (hcan : i.CanRetry start t)
    (k : Nat) :
    (statusAfter (fun j => i.atTime (clock j)) start k).retryAttempts.toNat =
      start.retryAttempts.toNat +
        min k (i.policy.cacheRetryBudget.toNat - start.retryAttempts.toNat) := by
  induction k with
  | zero => simp
  | succ k ih =>
    have hover := overFailedCache_statusAfter i clock start hid h k
    have hretries := hover.retries_iff
    rw [UInt32.lt_iff_toNat_lt, ih] at hretries
    rw [statusAfter_succ, PassInput.retryAttempts_next_atTime]
    by_cases hr : i.Retries (statusAfter (fun j => i.atTime (clock j)) start k)
    · have hlt := (hretries.1 hr).2
      rw [(PassInput.retryAttempts_next_of_retries hr).2, ih]
      omega
    · have hspent := not_and.1 (hretries.not.1 hr) ⟨hcan.config, hcan.failedFor⟩
      rw [PassInput.retryAttempts_next_of_not_retries hr, ih]
      omega

include hid in
theorem retryAttempts_of_not_canRetry (h : i.OverFailedCache start t)
    (hcan : ¬ i.CanRetry start t) (k : Nat) :
    (statusAfter (fun j => i.atTime (clock j)) start k).retryAttempts = start.retryAttempts := by
  induction k with
  | zero => rfl
  | succ k ih =>
    have hover := overFailedCache_statusAfter i clock start hid h k
    have hr : ¬ i.Retries (statusAfter (fun j => i.atTime (clock j)) start k) := by
      intro hr
      obtain ⟨hconfig, hfailedFor⟩ := (hover.retries_iff.1 hr).1
      exact hcan ⟨hconfig, hfailedFor⟩
    rw [statusAfter_succ, PassInput.retryAttempts_next_atTime,
      PassInput.retryAttempts_next_of_not_retries hr, ih]

include hid in
theorem exhausted_iff_of_canRetry (h : i.OverFailedCache start t) (hcan : i.CanRetry start t)
    (k : Nat) :
    (i.observation
        (statusAfter (fun j => i.atTime (clock j)) start k)).caching.retryExhausted = true ↔
      i.policy.cacheRetryBudget.toNat - start.retryAttempts.toNat ≤ k := by
  rw [(overFailedCache_statusAfter i clock start hid h k).retryExhausted_eq_true_iff,
    UInt32.le_iff_toNat_le, retryAttempts_of_canRetry i clock start hid h hcan k]
  omega

include hid in
theorem exhausted_iff_of_not_canRetry (h : i.OverFailedCache start t)
    (hcan : ¬ i.CanRetry start t) (k : Nat) :
    (i.observation
        (statusAfter (fun j => i.atTime (clock j)) start k)).caching.retryExhausted = true ↔
      i.policy.cacheRetryBudget ≤ start.retryAttempts := by
  rw [(overFailedCache_statusAfter i clock start hid h k).retryExhausted_eq_true_iff,
    retryAttempts_of_not_canRetry i clock start hid h hcan k]

include hid in
/-- The retries of a failed shared cache are exhausted after as many passes as there were
retries left if there is something to make anew, and otherwise only if none was left. From
then on the failure is reported where the shared cache is demanded, and a volume of the
service's own takes its place where it is preferred. -/
theorem exhausted_iff_of_failed_cache (h : i.UsesFailedCache start t) :
    let status := statusAfter (fun j => i.atTime (clock j)) start
    let config := (i.observation start).config
    let sources := templateSources t (i.observation start).model.resolved
    (∀ k, (i.observation (status k)).caching.retryExhausted = true ↔
      i.policy.cacheRetryBudget ≤ start.retryAttempts ∨
        config.error = none ∧ i.snapshot.caches.FailedFor sources ∧
          i.policy.cacheRetryBudget.toNat - start.retryAttempts.toNat ≤ k) ∧
    ∀ k, (i.observation (status k)).caching.retryExhausted = true →
      (config.intent = .requireShared → config.error = none → ∃ message,
        (status (k + 1)).Shows (.ofProblem .caching (.provided Reason.cacheFailed message))) ∧
      (config.intent = .preferShared →
        (i.observation (status k)).caching.storage = some .temporaryVolume) := by
  intro status config sources
  have hover : ∀ k, i.OverFailedCache (status k) t :=
    overFailedCache_statusAfter i clock start hid h.overFailedCache
  refine ⟨fun k => ?_, fun k hx => ⟨fun hintent he => ?_, (hover k).storage_of_exhausted hx⟩⟩
  · by_cases hcan : i.CanRetry start t
    · rw [exhausted_iff_of_canRetry i clock start hid h.overFailedCache hcan k,
        UInt32.le_iff_toNat_le]
      have hparts : config.error = none ∧ i.snapshot.caches.FailedFor sources :=
        ⟨hcan.config, hcan.failedFor⟩
      rw [← and_assoc, and_iff_right hparts]
      omega
    · rw [exhausted_iff_of_not_canRetry i clock start hid h.overFailedCache hcan k]
      have hparts : ¬ (config.error = none ∧ i.snapshot.caches.FailedFor sources) :=
        fun hboth => hcan ⟨hboth.1, hboth.2⟩
      rw [← and_assoc, or_iff_left fun hboth => hparts hboth.1]
  · obtain ⟨message, hreport⟩ := (hover k).report_of_exhausted hx hintent
    refine ⟨message, ?_⟩
    have hreached : Component.caching.Reached ((i.observation (status k)).project (clock k)
        (i.service.withStatus (status k))).blockedBy :=
      (reached_caching_iff _ _).2 ⟨he, t, (hover k).template⟩
    exact (i.observation (status k)).shows_of_reached (clock k)
      (i.service.withStatus (status k)) hreached (congrArg Projection.report hreport)

end

def failedCacheTemplate : TemplateRecord :=
  .ofObject .namespaced ⟨{ Metadata.empty with name := some "fast", «namespace» := some "default" },
    { TemplateSpec.empty with
      modelName := "llama"
      modelSources := [⟨"weights", "hf://llama", none⟩] }, some ⟨.ready, [], none⟩⟩

theorem identifies_failedCacheTemplate :
    failedCachePass.snapshot.templates.Identifies failedCacheTemplate := by
  unfold TemplateFetch.Identifies
  decide +kernel

/-- A cache that failed is given up once two retries are spent, and not before. -/
theorem failed_cache_exhausted_after_two :
    let status := statusAfter (fun _ => failedCachePass) .initial
    (∀ k, (failedCachePass.observation (status k)).caching.retryExhausted = true ↔ 2 ≤ k) ∧
    ∀ k, 2 ≤ k → ∃ message,
      (status (k + 1)).Shows (.ofProblem .caching (.provided Reason.cacheFailed message)) := by
  intro status
  have hid : failedCachePass.snapshot.templates.Identifies failedCacheTemplate :=
    identifies_failedCacheTemplate
  have huses : failedCachePass.UsesFailedCache .initial failedCacheTemplate :=
    ⟨by decide +kernel, by decide +kernel, by decide +kernel⟩
  obtain ⟨hiff, hreport⟩ := exhausted_iff_of_failed_cache failedCachePass
    (fun _ => failedCachePass.now) .initial hid huses
  have hfailedFor : failedCachePass.snapshot.caches.FailedFor (templateSources
      failedCacheTemplate (failedCachePass.observation .initial).model.resolved) :=
    ⟨_, List.mem_singleton_self _, ⟨_, List.mem_singleton_self _, rfl⟩, rfl⟩
  have hexhausted : ∀ k,
      (failedCachePass.observation (status k)).caching.retryExhausted = true ↔ 2 ≤ k := by
    intro k
    refine (hiff k).trans ⟨?_, fun hk => Or.inr ⟨rfl, hfailedFor, hk⟩⟩
    rintro (hnone | ⟨-, -, hk⟩)
    · exact absurd hnone (by decide)
    · exact hk
  exact ⟨hexhausted, fun k hk => (hreport k ((hexhausted k).2 hk)).1 rfl rfl⟩

/-- The shared cache failed, but no model cache did. -/
def unexplainedFailurePass : PassInput :=
  { failedCachePass with
    snapshot := { failedCachePass.snapshot with
      caches := { failedCachePass.snapshot.caches with modelCaches := [] } } }

/-- The service names a configuration that is not there. -/
def misconfiguredCachePass : PassInput :=
  { failedCachePass with
    service := { failedCachePass.service with
      spec := { failedCachePass.service.spec with runtimeConfigName := some "tuned" } } }

/-- A status that points at a template by an identifier that no template has. -/
def strayStatus : ServiceStatus :=
  { ServiceStatus.initial with
    resolvedTemplate := some ⟨"fast", some "default", .namespaced, some "7f0c"⟩ }

/-- The template is without identifier, and one of the same name stands before it. -/
def twinTemplatesPass : PassInput :=
  let twin : TemplateObject :=
    ⟨{ Metadata.empty with
        name := some "fast", «namespace» := some "default", uid := some "31a9" },
      { TemplateSpec.empty with
        modelName := "llama"
        modelSources := [⟨"weights", "hf://other", none⟩] }, some ⟨.ready, [], none⟩⟩
  { failedCachePass with
    snapshot := { failedCachePass.snapshot with
      templates := ⟨twin :: failedCachePass.snapshot.templates.ofNamespace, []⟩ } }

/-- A failed shared cache is used for good if no model cache failed with it, or if a problem
of the configuration keeps every pass from it. It is used beyond the budget if the reference
to its template leads to another one. -/
theorem failed_cache_never_exhausted :
    (unexplainedFailurePass.UsesFailedCache .initial failedCacheTemplate ∧
      ∀ k, (unexplainedFailurePass.observation (statusAfter (fun _ => unexplainedFailurePass)
        .initial k)).caching.retryExhausted = false) ∧
    (misconfiguredCachePass.UsesFailedCache .initial failedCacheTemplate ∧
      ∀ k, (misconfiguredCachePass.observation (statusAfter (fun _ => misconfiguredCachePass)
        .initial k)).caching.retryExhausted = false) ∧
    twinTemplatesPass.UsesFailedCache strayStatus failedCacheTemplate ∧
    twinTemplatesPass.policy.cacheRetryBudget.toNat - strayStatus.retryAttempts.toNat = 2 ∧
    (twinTemplatesPass.observation (statusAfter (fun _ => twinTemplatesPass)
      strayStatus 2)).caching.retryExhausted = false := by
  have hid : failedCachePass.snapshot.templates.Identifies failedCacheTemplate :=
    identifies_failedCacheTemplate
  have hunexplained : unexplainedFailurePass.UsesFailedCache .initial failedCacheTemplate :=
    ⟨by decide +kernel, by decide +kernel, by decide +kernel⟩
  have hmisconfigured : misconfiguredCachePass.UsesFailedCache .initial failedCacheTemplate :=
    ⟨by decide +kernel, by decide +kernel, by decide +kernel⟩
  refine ⟨⟨hunexplained, fun k => ?_⟩, ⟨hmisconfigured, fun k => ?_⟩,
    ⟨by decide +kernel, by decide +kernel, by decide +kernel⟩, rfl, by decide +kernel⟩
  · have hcan : ¬ unexplainedFailurePass.CanRetry .initial failedCacheTemplate := by
      rintro ⟨-, c, hc, -⟩
      cases hc
    have hnever := exhausted_iff_of_not_canRetry unexplainedFailurePass
      (fun _ => failedCachePass.now) .initial hid hunexplained.overFailedCache hcan k
    exact Bool.not_eq_true _ ▸ hnever.not.2 (by decide)
  · have hcan : ¬ misconfiguredCachePass.CanRetry .initial failedCacheTemplate := by
      rintro ⟨he, -⟩
      revert he
      decide +kernel
    have hnever := exhausted_iff_of_not_canRetry misconfiguredCachePass
      (fun _ => failedCachePass.now) .initial hid hmisconfigured.overFailedCache hcan k
    exact Bool.not_eq_true _ ▸ hnever.not.2 (by decide)

end InferenceReconciler
