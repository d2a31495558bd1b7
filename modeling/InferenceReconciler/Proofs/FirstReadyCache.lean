import Mathlib.Data.List.Forall2
import InferenceReconciler.Proofs.CacheScopes

/-!
# The first ready cache

Which weights a service mounts from a shared cache. The first ready cache of a source decides for
the source: the claim that it names is mounted, and where it names none there is no mount, even if
a ready cache behind it names one. So the mounts are complete apart from claims that are hidden in
this way. They stand in the order of the sources, one for each source, and there are none before
the cache of the template is ready and none beside a volume of the service's own.
-/

namespace InferenceReconciler

instance (s : ModelSource) : DecidablePred fun c : ModelCacheObject => c.ReadyFor s := fun c =>
  inferInstanceAs (Decidable (c.spec.sourceUri = s.sourceUri ∧ c.status.map (·.status) = some .ready))

def firstReadyCache? (s : ModelSource) (caches : List ModelCacheObject) :
    Option ModelCacheObject :=
  caches.find? fun c => c.ReadyFor s

namespace ModelSource

variable (s : ModelSource) (caches : List ModelCacheObject)

/-- A ready cache of the source names a claim. -/
def ClaimedIn : Prop := ∃ c ∈ caches, c.ReadyFor s ∧ c.claim?.isSome = true

/-- In front of the first ready cache of the source that names a claim stands one that does not. -/
def HiddenIn : Prop :=
  ∃ before c after, caches = before ++ c :: after ∧ (∀ d ∈ before, ¬ d.ReadyFor s) ∧
    c.ReadyFor s ∧ c.claim? = none ∧ s.ClaimedIn after

instance : Decidable (s.ClaimedIn caches) :=
  inferInstanceAs (Decidable (∃ c ∈ caches, c.ReadyFor s ∧ c.claim?.isSome = true))

end ModelSource

section

variable {s : ModelSource} {caches : List ModelCacheObject}

theorem firstReadyCache?_eq_some_iff {c : ModelCacheObject} :
    firstReadyCache? s caches = some c ↔
      c.ReadyFor s ∧ ∃ before after, caches = before ++ c :: after ∧
        ∀ d ∈ before, ¬ d.ReadyFor s := by
  simp [firstReadyCache?, List.find?_eq_some_iff_append]

theorem firstReadyCache?_eq_none_iff :
    firstReadyCache? s caches = none ↔ ∀ c ∈ caches, ¬ c.ReadyFor s := by
  simp [firstReadyCache?]

theorem hiddenIn_iff :
    s.HiddenIn caches ↔
      s.ClaimedIn caches ∧ ∃ c, firstReadyCache? s caches = some c ∧ c.claim? = none := by
  simp only [firstReadyCache?_eq_some_iff]
  constructor
  · rintro ⟨before, c, after, rfl, hbefore, hready, hnone, d, hd, hclaimed⟩
    refine ⟨⟨d, ?_, hclaimed⟩, c, ⟨hready, before, after, rfl, hbefore⟩, hnone⟩
    exact List.mem_append_right _ (List.mem_cons_of_mem _ hd)
  · rintro ⟨⟨d, hd, hdready, hclaim⟩, c, ⟨hready, before, after, rfl, hbefore⟩, hnone⟩
    refine ⟨before, c, after, rfl, hbefore, hready, hnone, d, ?_, hdready, hclaim⟩
    rcases List.mem_append.1 hd with hearlier | hlater
    · exact absurd hdready (hbefore d hearlier)
    · rcases List.mem_cons.1 hlater with rfl | hbehind
      · rw [hnone] at hclaim
        cases hclaim
      · exact hbehind

theorem cachedClaim?_eq (s : ModelSource) (caches : List ModelCacheObject) :
    cachedClaim? s caches = (firstReadyCache? s caches).bind (·.claim?) := by
  -- The search goes over the statuses of the caches and not over the caches themselves.
  have hready : ∀ c : ModelCacheObject, decide (c.spec.sourceUri = s.sourceUri) = true ∧
      c.status.any (fun status => status.status.isReady) = true ↔ c.ReadyFor s := by
    intro c
    rw [decide_eq_true_iff, ModelCacheObject.ReadyFor]
    cases c.status with
    | none => simp
    | some status => simp [LifecycleStatus.isReady]
  have hfind : caches.find? (fun c => decide (decide (c.spec.sourceUri = s.sourceUri) = true ∧
      c.status.any (fun status => status.status.isReady) = true)) = firstReadyCache? s caches :=
    congrArg caches.find? (funext fun c => decide_eq_decide.2 (hready c))
  unfold cachedClaim?
  rw [List.find?_filterMap, List.find?_filter, hfind, Option.bind_assoc]
  rfl

/-- A source is mounted if and only if a ready cache names a claim for it that is not hidden. -/
theorem isSome_cachedClaim?_iff :
    (cachedClaim? s caches).isSome = true ↔ s.ClaimedIn caches ∧ ¬ s.HiddenIn caches := by
  rw [cachedClaim?_eq, hiddenIn_iff]
  cases hfirst : firstReadyCache? s caches with
  | none =>
    constructor
    · intro h
      cases h
    · rintro ⟨⟨c, hc, hready, -⟩, -⟩
      exact absurd hready (firstReadyCache?_eq_none_iff.1 hfirst c hc)
  | some c =>
    rw [Option.bind_some]
    constructor
    · intro hclaim
      have hready : c.ReadyFor s := (firstReadyCache?_eq_some_iff.1 hfirst).1
      refine ⟨⟨c, List.mem_of_find?_eq_some hfirst, hready, hclaim⟩, ?_⟩
      rintro ⟨-, d, hd, hnone⟩
      rw [← Option.some.inj hd] at hnone
      rw [hnone] at hclaim
      cases hclaim
    · rintro ⟨hclaimed, hhidden⟩
      cases hclaim : c.claim? with
      | some claim => rfl
      | none => exact absurd ⟨hclaimed, c, rfl, hclaim⟩ hhidden

instance : Decidable (s.HiddenIn caches) :=
  decidable_of_iff (s.ClaimedIn caches ∧ ¬ (cachedClaim? s caches).isSome = true) (by
    rw [isSome_cachedClaim?_iff, not_and_not_right]
    exact ⟨fun h => h.2 h.1, fun h => ⟨(hiddenIn_iff.1 h).1, fun _ => h⟩⟩)

end

theorem forall₂_cacheMounts (sources : List ModelSource) (caches : List ModelCacheObject) :
    List.Forall₂ (fun s mount => mount.sourceName = s.name ∧
        cachedClaim? s caches = some mount.claimName)
      (sources.filter fun s => (cachedClaim? s caches).isSome) (cacheMounts sources caches) := by
  unfold cacheMounts
  induction sources with
  | nil => exact .nil
  | cons s rest ih =>
    cases hclaim : cachedClaim? s caches with
    | none =>
      rw [List.filter_cons_of_neg (by simp [hclaim]), List.filterMap_cons_none (by rw [hclaim]; rfl)]
      exact ih
    | some claim =>
      rw [List.filter_cons_of_pos (by simp [hclaim]), List.filterMap_cons_some (by rw [hclaim]; rfl)]
      exact .cons ⟨rfl, hclaim⟩ ih

section

variable {service : ServiceObject} {t : TemplateRecord} {model : Option ModelRecord}
  {fetched : CacheFetch} {config : EffectiveConfig} {intent : CachingIntent} {policy : Policy}

theorem mounts_eq_nil (ht : t.isReady = true)
    (h : ¬ ((observeCaching service (some t) model fetched config intent policy).storage =
        some .sharedCache ∧
      (observeCaching service (some t) model fetched config intent policy).cacheIsReady = true)) :
    (observeCaching service (some t) model fetched config intent policy).mounts = [] := by
  by_cases hshared : (observeCaching service (some t) model fetched config intent policy).storage =
      some .sharedCache
  · rw [(mounts_observeCaching ht hshared).1, if_neg fun hready => h ⟨hshared, hready⟩]
  · simp only [observeCaching, Option.filter_some, ht, if_true] at hshared ⊢
    split
    · rename_i hchoice
      rw [hchoice] at hshared
      exact absurd rfl hshared
    · rfl

variable (service model fetched config intent policy) in
/-- A ready shared cache that is chosen is mounted source by source, in the order of the sources
and once for each: every source of which a ready cache names a claim has the claim of such a cache,
unless the claims are hidden behind a ready cache that names none. A service without a shared
cache that is chosen and ready mounts nothing. -/
theorem mounted_unless_hidden (ht : t.isReady = true) :
    let observed := observeCaching service (some t) model fetched config intent policy
    let caches := fetched.modelCaches
    (observed.storage = some .sharedCache ∧ observed.cacheIsReady = true →
      List.Forall₂ (fun s mount => mount.sourceName = s.name ∧
          ∃ c ∈ caches, c.ReadyFor s ∧ c.claim? = some mount.claimName)
        ((templateSources t model).filter fun s => s.ClaimedIn caches ∧ ¬ s.HiddenIn caches)
        observed.mounts) ∧
    (¬ (observed.storage = some .sharedCache ∧ observed.cacheIsReady = true) →
      observed.mounts = []) := by
  intro observed caches
  refine ⟨?_, mounts_eq_nil ht⟩
  rintro ⟨hshared, hready⟩
  have hmounts : observed.mounts = cacheMounts (templateSources t model) caches := by
    rw [(mounts_observeCaching ht hshared).1, if_pos hready]
  have hkept : ((templateSources t model).filter fun s => s.ClaimedIn caches ∧
      ¬ s.HiddenIn caches) =
      (templateSources t model).filter fun s => (cachedClaim? s caches).isSome := by
    apply List.filter_congr
    intro s _
    rw [Bool.eq_iff_iff, decide_eq_true_iff]
    exact isSome_cachedClaim?_iff.symm
  rw [hmounts, hkept]
  apply (forall₂_cacheMounts _ caches).imp
  rintro s mount ⟨hname, hclaim⟩
  exact ⟨hname, exists_cache_of_cachedClaim? hclaim⟩

end

/-- A cache of the same weights as `weightsCache` that names no claim. -/
def claimlessCache (status : LifecycleStatus) : ModelCacheObject :=
  ⟨{ Metadata.empty with name := some "llama-old" }, ⟨"hf://llama", "16Gi", none⟩,
    some ⟨status, none⟩⟩

/-- What a service finds that requires the shared cache of its template, which is ready. -/
def observedCaches (modelCaches : List ModelCacheObject) : CachingObservation :=
  observeCaching cachedService (some ownFastTemplate) none
    ⟨[readyCacheFor ownFastTemplate], modelCaches, none⟩ default .requireShared Policy.standard

theorem claim_behind_unready_mounted :
    let observed := observedCaches [claimlessCache .progressing, weightsCache]
    ownFastTemplate.isReady = true ∧ observed.storage = some .sharedCache ∧
      observed.cacheIsReady = true ∧ observed.mounts = [⟨"weights", "llama-claim"⟩] := by
  intro observed
  have hchosen : observed.storage = some .sharedCache ∧ observed.cacheIsReady = true := by
    decide +kernel
  obtain ⟨hmounted, -⟩ := mounted_unless_hidden cachedService none
    ⟨[readyCacheFor ownFastTemplate], [claimlessCache .progressing, weightsCache], none⟩ default
    .requireShared Policy.standard (t := ownFastTemplate) rfl
  have hsources : ((templateSources ownFastTemplate none).filter fun s =>
      s.ClaimedIn [claimlessCache .progressing, weightsCache] ∧
        ¬ s.HiddenIn [claimlessCache .progressing, weightsCache]) =
      [⟨"weights", "hf://llama", none⟩] := by decide +kernel
  have hone := hmounted hchosen
  rw [hsources] at hone
  obtain ⟨⟨name, claim⟩, rest, ⟨rfl, c, hc, hready, hclaim⟩, hrest, hmounts⟩ :=
    List.forall₂_cons_left_iff.1 hone
  rw [List.forall₂_nil_left_iff.1 hrest] at hmounts
  refine ⟨rfl, hchosen.1, hchosen.2, hmounts.trans ?_⟩
  rcases List.mem_cons.1 hc with rfl | hmem
  · cases hready.2
  · rw [List.mem_singleton.1 hmem] at hclaim
    cases hclaim
    rfl

/-- The claim of the second ready cache is not mounted, for the first one names none. -/
theorem claim_behind_claimless_hidden :
    let caches := [claimlessCache .ready, weightsCache]
    let observed := observedCaches caches
    ownFastTemplate.isReady = true ∧ observed.storage = some .sharedCache ∧
      observed.cacheIsReady = true ∧
      (∃ s ∈ templateSources ownFastTemplate none, ∃ c ∈ caches,
        c.ReadyFor s ∧ c.claim? = some "llama-claim") ∧
      observed.mounts = [] := by
  decide +kernel

end InferenceReconciler
