import InferenceReconciler.Proofs.CacheBookkeeping

/-!
# Runs of passes

A run is a sequence of passes in which each pass starts from the status the last one made,
while the specification, the cluster, the policy and the time may be others in every pass.
Along a run a reference changes only to an object that is ready in the cluster of that pass,
and what was once noted in the status is never lost.
-/

namespace InferenceReconciler

def ServiceObject.withStatus (service : ServiceObject) (s : ServiceStatus) : ServiceObject :=
  { service with status := some s }

@[simp] theorem ServiceObject.lastStatus_withStatus (service : ServiceObject)
    (s : ServiceStatus) : (service.withStatus s).lastStatus = s := rfl

/-- What a pass is given apart from the status. -/
structure PassInput where
  service : ServiceObject
  snapshot : Snapshot
  policy : Policy
  now : Timestamp

namespace PassInput

variable (i : PassInput) (s : ServiceStatus)

/-- The decisions of the pass over a service with the given status. -/
def observation : Observation := observe (i.service.withStatus s) i.snapshot i.policy

def next : ServiceStatus := ((i.observation s).project i.now (i.service.withStatus s)).status

def blocker? : Option Component :=
  ((i.observation s).project i.now (i.service.withStatus s)).blockedBy

def atTime (now : Timestamp) : PassInput := { i with now := now }

@[simp] theorem observation_atTime (now : Timestamp) :
    (i.atTime now).observation s = i.observation s := rfl

@[simp] theorem blocker?_atTime (now : Timestamp) :
    (i.atTime now).blocker? s = i.blocker? s := by
  unfold blocker?
  rw [Observation.blockedBy_project, Observation.blockedBy_project]
  rfl

end PassInput

/-- The statuses along a run. -/
def statusAfter (inputs : Nat → PassInput) (start : ServiceStatus) : Nat → ServiceStatus
  | 0 => start
  | k + 1 => (inputs k).next (statusAfter inputs start k)

@[simp] theorem statusAfter_zero (inputs : Nat → PassInput) (start : ServiceStatus) :
    statusAfter inputs start 0 = start := rfl

theorem statusAfter_succ (inputs : Nat → PassInput) (start : ServiceStatus) (k : Nat) :
    statusAfter inputs start (k + 1) = (inputs k).next (statusAfter inputs start k) := rfl

theorem project_of_status_none {service : ServiceObject} (h : service.status = none)
    (snapshot : Snapshot) (policy : Policy) (now : Timestamp) :
    ((observe service snapshot policy).project now service).status =
      PassInput.next ⟨service, snapshot, policy, now⟩ .initial := by
  obtain ⟨metadata, spec, status⟩ := service
  cases h
  rfl

def ServiceStatus.templateCacheRef? (s : ServiceStatus) : Option ResolvedReference :=
  s.cache.bind (·.templateCacheRef)

theorem isSome_orElse_right {α : Type} {a b : Option α} (h : b.isSome = true) :
    (a <|> b).isSome = true := by
  cases a with
  | none => exact h
  | some x => rfl

/-- Whatever is set in a status is set in the other one. -/
structure ServiceStatus.KeptIn (s next : ServiceStatus) : Prop where
  resolvedRuntimeConfig : s.resolvedRuntimeConfig.isSome → next.resolvedRuntimeConfig.isSome
  resolvedModel : s.resolvedModel.isSome → next.resolvedModel.isSome
  resolvedTemplate : s.resolvedTemplate.isSome → next.resolvedTemplate.isSome
  templateCacheRef : s.templateCacheRef?.isSome → next.templateCacheRef?.isSome
  routing : s.routing.isSome → next.routing.isSome

namespace ServiceStatus.KeptIn

theorem refl (s : ServiceStatus) : s.KeptIn s := ⟨id, id, id, id, id⟩

theorem trans {s t u : ServiceStatus} (h : s.KeptIn t) (h' : t.KeptIn u) : s.KeptIn u :=
  ⟨h'.resolvedRuntimeConfig ∘ h.resolvedRuntimeConfig, h'.resolvedModel ∘ h.resolvedModel,
    h'.resolvedTemplate ∘ h.resolvedTemplate, h'.templateCacheRef ∘ h.templateCacheRef,
    h'.routing ∘ h.routing⟩

end ServiceStatus.KeptIn

namespace PassInput

variable (i : PassInput) (s : ServiceStatus)

theorem reached_blocker?_iff (c : Component) :
    c.Reached (i.blocker? s) ↔ ∀ d : Component, d.position < c.position →
      ((i.observation s).projectionOf s d).blocking = false :=
  (i.observation s).reached_blockedBy_iff i.now (i.service.withStatus s) c

theorem phase_next :
    (i.next s).status =
      phaseFor ((reachedProjections ((i.observation s).projections s)).flatMap
        fun p => p.report.health?.toList) (i.observation s).runtime.exists := by
  have hhealth := (i.observation s).health_project i.now (i.service.withStatus s)
  rw [next, Observation.phase_project, hhealth]
  rfl

theorem conditions_next :
    (i.next s).conditions =
      applyReports i.now ((reachedProjections ((i.observation s).projections s)).map (·.report))
        s.conditions :=
  (i.observation s).conditions_project i.now (i.service.withStatus s)

theorem observedGeneration_next :
    (i.next s).observedGeneration =
      (i.service.metadata.generation <|> s.observedGeneration) :=
  (i.observation s).observedGeneration_project i.now (i.service.withStatus s)

theorem resolvedRuntimeConfig_next :
    (i.next s).resolvedRuntimeConfig =
      ((if Component.config.Reached (i.blocker? s)
        then (i.observation s).config.project.update.resolvedRuntimeConfig else none) <|>
        s.resolvedRuntimeConfig) :=
  (i.observation s).resolvedRuntimeConfig_project i.now (i.service.withStatus s)

theorem resolvedModel_next :
    (i.next s).resolvedModel =
      ((if Component.model.Reached (i.blocker? s)
        then (i.observation s).model.project.update.resolvedModel else none) <|>
        s.resolvedModel) :=
  (i.observation s).resolvedModel_project i.now (i.service.withStatus s)

theorem resolvedTemplate_next :
    (i.next s).resolvedTemplate =
      ((if Component.template.Reached (i.blocker? s)
        then (i.observation s).template.project.update.resolvedTemplate else none) <|>
        s.resolvedTemplate) :=
  (i.observation s).resolvedTemplate_project i.now (i.service.withStatus s)

theorem cache_next :
    (i.next s).cache =
      ((if Component.caching.Reached (i.blocker? s)
        then ((i.observation s).caching.projectCaching s.cache).update.cache else none) <|>
        s.cache) :=
  (i.observation s).cache_project i.now (i.service.withStatus s)

theorem routing_next :
    (i.next s).routing =
      ((if Component.routing.Reached (i.blocker? s)
        then (i.observation s).route.project.update.routing else none) <|> s.routing) :=
  (i.observation s).routing_project i.now (i.service.withStatus s)

/-- The reference to the cache is that of a ready cache and otherwise the old one. -/
theorem templateCacheRef?_next :
    (i.next s).templateCacheRef? =
      ((if Component.caching.Reached (i.blocker? s) ∧
          ((i.observation s).caching.projectCaching s.cache).update.cache.isSome
        then (i.observation s).caching.readyReference? else none) <|>
        s.templateCacheRef?) := by
  unfold ServiceStatus.templateCacheRef?
  rw [cache_next]
  by_cases hr : Component.caching.Reached (i.blocker? s)
  · rw [if_pos hr]
    cases hc : ((i.observation s).caching.projectCaching s.cache).update.cache with
    | none => simp
    | some noted =>
      have href := (CachingObservation.cache_update_projectCaching hc).1
      simpa [hr] using href
  · simp [hr]

theorem keptIn_next : s.KeptIn (i.next s) where
  resolvedRuntimeConfig h := by
    rw [resolvedRuntimeConfig_next]
    exact isSome_orElse_right h
  resolvedModel h := by
    rw [resolvedModel_next]
    exact isSome_orElse_right h
  resolvedTemplate h := by
    rw [resolvedTemplate_next]
    exact isSome_orElse_right h
  templateCacheRef h := by
    rw [templateCacheRef?_next]
    exact isSome_orElse_right h
  routing h := by
    rw [routing_next]
    exact isSome_orElse_right h

theorem eq_some_of_orElse_ne {α : Type} {p : Prop} [Decidable p] {a b : Option α}
    (h : ((if p then a else none) <|> b) ≠ b) : p ∧ ∃ x, a = some x := by
  by_cases hp : p
  · refine ⟨hp, ?_⟩
    cases a with
    | none => exact absurd (by simp) h
    | some x => exact ⟨x, rfl⟩
  · exact absurd (by simp [hp]) h

theorem resolvedModel_next_of_ne (h : (i.next s).resolvedModel ≠ s.resolvedModel) :
    ∃ m ∈ i.snapshot.models.records, m.status = .ready ∧
      (i.next s).resolvedModel = some m.reference := by
  rw [resolvedModel_next] at h ⊢
  obtain ⟨hr, ref, href⟩ := eq_some_of_orElse_ne h
  obtain ⟨m, hm, hready, hmref⟩ := ModelObservation.ready_of_update href
  refine ⟨m, mem_of_observeModel hm, hready, ?_⟩
  rw [if_pos hr, href, hmref]
  rfl

theorem resolvedTemplate_next_of_ne (h : (i.next s).resolvedTemplate ≠ s.resolvedTemplate) :
    ∃ t, (i.observation s).template.outcome = .resolved t ∧ t.isReady = true ∧
      (i.next s).resolvedTemplate = some t.reference := by
  rw [resolvedTemplate_next] at h ⊢
  obtain ⟨hr, ref, href⟩ := eq_some_of_orElse_ne h
  obtain ⟨t, ht, hready, htref⟩ := TemplateObservation.ready_of_update href
  refine ⟨t, ht, hready, ?_⟩
  rw [if_pos hr, href, htref]
  rfl

theorem templateCacheRef?_next_of_ne (h : (i.next s).templateCacheRef? ≠ s.templateCacheRef?) :
    ∃ c ∈ i.snapshot.caches.templateCaches, c.status.map (·.status) = some .ready ∧
      (i.next s).templateCacheRef? =
        some (TemplateCacheObject.referenceIn c (i.service.metadata.namespace.getD "")) := by
  rw [templateCacheRef?_next] at h ⊢
  obtain ⟨hr, ref, href⟩ := eq_some_of_orElse_ne h
  obtain ⟨c, hcache, hready, hcref⟩ := CachingObservation.readyReference?_eq_some_iff.1 href
  obtain ⟨object, hmem, hobject, hstatus⟩ :=
    exists_of_cache_observeCaching _ _ _ _ _ _ hcache
  refine ⟨object, hmem, ?_, ?_⟩
  · rw [hready] at hstatus
    cases hs : object.status with
    | none =>
      rw [hs] at hstatus
      cases hstatus
    | some report =>
      rw [hs] at hstatus
      exact congrArg some hstatus.symm
  · rw [if_pos hr, href, ← hcref, hobject]
    rfl

theorem resolvedModel_next_of_reached (h : Component.template.Reached (i.blocker? s)) :
    ∃ m, (i.observation s).model.resolved = some m ∧ m.status = .ready ∧
      (i.next s).resolvedModel = some m.reference := by
  have hpast := (i.reached_blocker?_iff s .template).1 h .model (by decide)
  obtain ⟨m, hm, hready, hupdate⟩ := ModelObservation.update_of_not_blocking hpast
  refine ⟨m, hm, hready, ?_⟩
  rw [resolvedModel_next, if_pos (h.of_le (by decide)), hupdate]
  rfl

theorem resolvedTemplate_next_of_reached (h : Component.caching.Reached (i.blocker? s)) :
    ∃ t, (i.observation s).template.outcome = .resolved t ∧ t.status.status = .ready ∧
      (i.next s).resolvedTemplate = some t.reference := by
  have hpast := (i.reached_blocker?_iff s .caching).1 h .template (by decide)
  obtain ⟨t, ht, hready, hupdate⟩ := TemplateObservation.update_of_not_blocking hpast
  refine ⟨t, ht, hready, ?_⟩
  rw [resolvedTemplate_next, if_pos (h.of_le (by decide)), hupdate]
  rfl

theorem templateCacheRef?_next_of_reached (h : Component.caching.Reached (i.blocker? s))
    {ref : ResolvedReference} (hs : (i.observation s).caching.storage = some .sharedCache)
    (hr : (i.observation s).caching.readyReference? = some ref) :
    (i.next s).templateCacheRef? = some ref := by
  unfold ServiceStatus.templateCacheRef?
  rw [cache_next, if_pos h, CachingObservation.cache_update_of_ready hs hr]
  rfl

end PassInput

theorem keptIn_statusAfter (inputs : Nat → PassInput) (start : ServiceStatus) {j k : Nat}
    (h : j ≤ k) : (statusAfter inputs start j).KeptIn (statusAfter inputs start k) := by
  induction h with
  | refl => exact .refl _
  | step _ ih => exact ih.trans ((inputs _).keptIn_next _)

/-- Along every run, a reference changes only to a ready object of the snapshot of that pass,
and what is set stays set. A pass that gets past the model or the template has written the
reference to it, and one that looks at a ready shared cache the reference to that. -/
theorem references_of_run (inputs : Nat → PassInput) (start : ServiceStatus) (k : Nat) :
    let before := statusAfter inputs start k
    let after := statusAfter inputs start (k + 1)
    let snapshot := (inputs k).snapshot
    let o := (inputs k).observation before
    let blocker := (inputs k).blocker? before
    (after.resolvedModel ≠ before.resolvedModel →
      ∃ m ∈ snapshot.models.records, m.status = .ready ∧
        after.resolvedModel = some m.reference) ∧
    (after.resolvedTemplate ≠ before.resolvedTemplate →
      ∃ t ∈ snapshot.templates.records, t.status.status = .ready ∧
        after.resolvedTemplate = some t.reference) ∧
    (after.templateCacheRef? ≠ before.templateCacheRef? →
      ∃ c ∈ snapshot.caches.templateCaches, c.status.map (·.status) = some .ready ∧
        after.templateCacheRef? = some (TemplateCacheObject.referenceIn c
          ((inputs k).service.metadata.namespace.getD ""))) ∧
    (∀ l, k ≤ l → before.KeptIn (statusAfter inputs start l)) ∧
    (Component.template.Reached blocker →
      ∃ m, o.model.resolved = some m ∧ after.resolvedModel = some m.reference) ∧
    (Component.caching.Reached blocker →
      ∃ t, o.template.outcome = .resolved t ∧ after.resolvedTemplate = some t.reference) ∧
    (Component.caching.Reached blocker → o.caching.storage = some .sharedCache →
      ∀ ref, o.caching.readyReference? = some ref → after.templateCacheRef? = some ref) := by
  refine ⟨(inputs k).resolvedModel_next_of_ne _, ?_, (inputs k).templateCacheRef?_next_of_ne _,
    fun l h => keptIn_statusAfter inputs start h, ?_, ?_, ?_⟩
  · intro h
    obtain ⟨t, ht, hready, href⟩ := (inputs k).resolvedTemplate_next_of_ne _ h
    exact ⟨t, mem_of_observeTemplate ht, of_decide_eq_true hready, href⟩
  · intro h
    obtain ⟨m, hm, -, href⟩ := (inputs k).resolvedModel_next_of_reached _ h
    exact ⟨m, hm, href⟩
  · intro h
    obtain ⟨t, ht, -, href⟩ := (inputs k).resolvedTemplate_next_of_reached _ h
    exact ⟨t, ht, href⟩
  · intro h hs ref hr
    exact (inputs k).templateCacheRef?_next_of_reached _ h hs hr

end InferenceReconciler
