import Mathlib.Data.List.Nodup
import InferenceReconciler.Proofs.CreationCloses
import InferenceReconciler.Proofs.MountedWeights

/-!
# Scopes of caches

Templates of the namespace and of the cluster have names apart, and their caches have the names of
one namespace. A cache notes of which scope its template is, but it is looked up by the name of the
template alone. So the cache of a template of one scope is taken for the template of the same name
in the other, which then gets none of its own. Whatever is mounted still comes from the sources of
the template itself.
-/

namespace InferenceReconciler

namespace TemplateCacheObject

/-- The cache is one of the template, by its own account. -/
structure MadeFor (c : TemplateCacheObject) (t : TemplateRecord) : Prop where
  name : c.spec.templateName = t.name
  scope : c.spec.templateScope = t.scope

def sharedIn (c : TemplateCacheObject) (ofNamespace : String) : SharedCache :=
  ⟨c.referenceIn ofNamespace, (c.status.map (·.status)).getD .pending⟩

/-- The cache has the name that the cache of the template would have, and is for a template of the
name. -/
def IsNamedFor (c : TemplateCacheObject) (t : TemplateRecord) : Prop :=
  c.displayName = t.name ∧ c.spec.templateName = t.name

end TemplateCacheObject

section

variable {t : TemplateRecord} {ofNamespace : String} {caches : List TemplateCacheObject}

theorem exists_of_sharedCacheOf? {c : SharedCache}
    (h : sharedCacheOf? t ofNamespace caches = some c) :
    ∃ object ∈ caches, object.IsNamedFor t ∧ c = object.sharedIn ofNamespace := by
  obtain ⟨object, hfind, rfl⟩ := Option.map_eq_some_iff.1 h
  have hnamed := List.find?_some hfind
  simp only [Bool.and_eq_true, decide_eq_true_eq] at hnamed
  exact ⟨object, List.mem_of_find?_eq_some hfind, hnamed, rfl⟩

theorem sharedCacheOf?_eq_sharedIn_iff (hunique : (caches.map (·.displayName)).Nodup)
    {object : TemplateCacheObject} (hmem : object ∈ caches) :
    sharedCacheOf? t ofNamespace caches = some (object.sharedIn ofNamespace) ↔
      object.IsNamedFor t := by
  constructor
  · intro h
    obtain ⟨found, hfound, hnamed, hsame⟩ := exists_of_sharedCacheOf? h
    have hname : object.displayName = found.displayName := congrArg (·.reference.name) hsame
    rwa [List.inj_on_of_nodup_map hunique hmem hfound hname]
  · intro hnamed
    cases h : sharedCacheOf? t ofNamespace caches with
    | none => exact absurd hnamed.2 (sharedCacheOf?_eq_none_iff.1 h object hmem hnamed.1)
    | some c =>
      obtain ⟨found, hfound, hother, rfl⟩ := exists_of_sharedCacheOf? h
      rw [List.inj_on_of_nodup_map hunique hmem hfound (hnamed.1.trans hother.1.symm)]

end

/-- The cache that was made for a template, as the cluster holds it. -/
def cacheMadeFor (maker : ServiceObject) (u : TemplateRecord) (config : EffectiveConfig)
    (uid : Option String) (status : Option StatusReport) : TemplateCacheObject :=
  (templateCacheFor maker u config).arrived uid status

section

variable (maker : ServiceObject) (u t : TemplateRecord) (config : EffectiveConfig)
  (uid : Option String) (status : Option StatusReport)

theorem isNamedFor_cacheMadeFor_iff :
    (cacheMadeFor maker u config uid status).IsNamedFor t ↔ u.name = t.name :=
  and_self_iff

theorem madeFor_cacheMadeFor_iff :
    (cacheMadeFor maker u config uid status).MadeFor t ↔ u.name = t.name ∧ u.scope = t.scope :=
  ⟨fun h => ⟨h.name, h.scope⟩, fun h => ⟨h.1, h.2⟩⟩

end

section

variable {service : ServiceObject} {t : TemplateRecord} {model : Option ModelRecord}
  {fetched : CacheFetch} {config : EffectiveConfig} {intent : CachingIntent} {policy : Policy}

theorem shouldCreateCache_of_cache (ht : t.isReady = true) {c : SharedCache}
    (h : (observeCaching service (some t) model fetched config intent policy).cache = some c) :
    (observeCaching service (some t) model fetched config intent policy).shouldCreateCache =
      false := by
  rw [cache_observeCaching _ _ _ _ _ _ ht] at h
  cases hcreated : (observeCaching service (some t) model fetched config intent
      policy).shouldCreateCache with
  | false => rfl
  | true => cases (shouldCreateCache_observeCaching ht hcreated).symm.trans h

theorem source_of_mem_mounts (ht : t.isReady = true) {mount : CacheMount}
    (h : mount ∈ (observeCaching service (some t) model fetched config intent policy).mounts) :
    ∃ source ∈ templateSources t model, source.name = mount.sourceName ∧
      ∃ weights ∈ fetched.modelCaches,
        weights.ReadyFor source ∧ weights.claim? = some mount.claimName := by
  have hmount : mount ∈ cacheMounts (templateSources t model) fetched.modelCaches := by
    simp only [observeCaching, Option.filter_some, ht, if_true] at h
    split at h
    · dsimp only at h
      split at h
      · exact h
      · cases h
    · cases h
  obtain ⟨source, hsource, hclaim, hname⟩ := mem_cacheMounts.1 hmount
  exact ⟨source, hsource, hname, exists_cache_of_cachedClaim? hclaim⟩

/-- A cache that is reported for a ready template has its name and names it, and beside it none is
created. It need not be one of the template: where a name is held once, the cache that was made for
some template is reported for every template of the same name, and is one of those only that have
the same scope as well. What is mounted are weights of the sources of the template itself, from
caches that are ready. -/
theorem caches_taken_by_name (ht : t.isReady = true) :
    let observed := observeCaching service (some t) model fetched config intent policy
    (∀ c, observed.cache = some c → observed.shouldCreateCache = false ∧
      ∃ object ∈ fetched.templateCaches, object.IsNamedFor t ∧ c = object.sharedIn service.home) ∧
    ((fetched.templateCaches.map (·.displayName)).Nodup →
      (∀ object ∈ fetched.templateCaches,
        observed.cache = some (object.sharedIn service.home) ↔ object.IsNamedFor t) ∧
      ∀ made ∈ fetched.templateCaches, ∀ maker u merged uid status,
        made = cacheMadeFor maker u merged uid status →
          (observed.cache = some (made.sharedIn service.home) ↔ u.name = t.name) ∧
          (made.MadeFor t ↔ u.name = t.name ∧ u.scope = t.scope)) ∧
    ∀ mount ∈ observed.mounts, ∃ source ∈ templateSources t model,
      source.name = mount.sourceName ∧ ∃ weights ∈ fetched.modelCaches,
        weights.ReadyFor source ∧ weights.claim? = some mount.claimName := by
  intro observed
  have hcache : observed.cache = sharedCacheOf? t service.home fetched.templateCaches :=
    cache_observeCaching service model fetched config intent policy ht
  refine ⟨fun c hc => ⟨shouldCreateCache_of_cache ht hc, exists_of_sharedCacheOf? (hcache ▸ hc)⟩,
    fun hunique => ?_, fun mount hmount => source_of_mem_mounts ht hmount⟩
  have hreported : ∀ object ∈ fetched.templateCaches,
      observed.cache = some (object.sharedIn service.home) ↔ object.IsNamedFor t :=
    fun object hmem => hcache ▸ sharedCacheOf?_eq_sharedIn_iff hunique hmem
  refine ⟨hreported, ?_⟩
  rintro made hmem maker u merged uid status rfl
  constructor
  · exact (hreported _ hmem).trans (isNamedFor_cacheMadeFor_iff maker u t merged uid status)
  · exact madeFor_cacheMadeFor_iff maker u t merged uid status

end

def ownFastTemplate : TemplateRecord :=
  .ofObject .namespaced { sourcedTemplate with
    metadata := { Metadata.empty with name := some "fast", «namespace» := some "default" } }

def readyCacheFor (t : TemplateRecord) : TemplateCacheObject :=
  cacheMadeFor cachedService t default (some "c1") (some ⟨.ready⟩)

theorem own_cache_taken :
    let observed := observeCaching cachedService (some ownFastTemplate) none
      ⟨[readyCacheFor ownFastTemplate], [weightsCache], none⟩ default .requireShared
      Policy.standard
    observed.cache = some ((readyCacheFor ownFastTemplate).sharedIn "default") ∧
      (readyCacheFor ownFastTemplate).MadeFor ownFastTemplate ∧
      observed.shouldCreateCache = false ∧
      ∃ mount ∈ observed.mounts, ∃ source ∈ templateSources ownFastTemplate none,
        source.name = mount.sourceName := by
  intro observed
  obtain ⟨hcreated, hunique, hmounts⟩ := @caches_taken_by_name cachedService ownFastTemplate none
    ⟨[readyCacheFor ownFastTemplate], [weightsCache], none⟩ default .requireShared Policy.standard
    rfl
  obtain ⟨-, hmade⟩ := hunique (by decide)
  obtain ⟨htaken, hfor⟩ := hmade _ (List.mem_singleton_self _) cachedService ownFastTemplate default
    (some "c1") (some ⟨.ready⟩) rfl
  have hcache := htaken.2 rfl
  have hmount : ⟨"weights", "llama-claim"⟩ ∈ observed.mounts := by decide +kernel
  obtain ⟨source, hsource, hname, -⟩ := hmounts _ hmount
  exact ⟨hcache, hfor.2 ⟨rfl, rfl⟩, (hcreated _ hcache).1, _, hmount, source, hsource, hname⟩

/-- The ready cache of the template of the cluster is taken for the one of the namespace. The
weights count as being in place, and there are none to mount. -/
theorem cluster_cache_taken_for_own :
    let made := readyCacheFor (.ofObject .cluster sourcedTemplate)
    let observed := observeCaching cachedService (some ownFastTemplate) none ⟨[made], [], none⟩
      default .requireShared Policy.standard
    ownFastTemplate.isReady = true ∧
      observed.cache = some (made.sharedIn "default") ∧
      made.spec.templateName = ownFastTemplate.name ∧
      made.spec.templateScope ≠ ownFastTemplate.scope ∧
      observed.storageReady = true ∧ observed.mounts = [] ∧
      observed.shouldCreateCache = false := by
  decide +kernel

end InferenceReconciler
