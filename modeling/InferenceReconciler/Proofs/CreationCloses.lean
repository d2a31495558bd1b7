import InferenceReconciler.ClusterQuery
import InferenceReconciler.Proofs.DerivedOnce
import InferenceReconciler.Proofs.StatusFeedback

/-!
# Creation closes

What a pass creates it does not create again. The next pass over the cluster with the planned
objects in it finds each of them by a search of its own: a model by its image or its name, a
derived template by its name, a cache by the name and the template, the volume by its name. It
does so whether or not the service has got its new status in between.
-/

namespace InferenceReconciler

/-- The service of the next pass: as it was, or with the status that was projected. -/
inductive NextService (service : ServiceObject) (snapshot : Snapshot) (policy : Policy) :
    ServiceObject → Prop where
  | unchanged : NextService service snapshot policy service
  | projected (now : Timestamp) : NextService service snapshot policy
      (service.withStatus ((observe service snapshot policy).project now service).status)

section

variable {service next : ServiceObject} {snapshot : Snapshot} {policy : Policy}

theorem NextService.observeModel_eq (h : NextService service snapshot policy next)
    (records : List ModelRecord) : observeModel next records = observeModel service records := by
  cases h with
  | unchanged => rfl
  | projected now => rfl

theorem NextService.home_eq (h : NextService service snapshot policy next) :
    next.home = service.home := by
  cases h with
  | unchanged => rfl
  | projected now => rfl

theorem NextService.volumeName_eq (h : NextService service snapshot policy next) :
    temporaryVolumeName next = temporaryVolumeName service := by
  cases h with
  | unchanged => rfl
  | projected now => rfl

theorem NextService.outcome_eq (h : NextService service snapshot policy next)
    (hnames : snapshot.templates.NamesDistinct) :
    (observe next snapshot policy).template.outcome =
      (observe service snapshot policy).template.outcome := by
  cases h with
  | unchanged => rfl
  | projected now =>
    -- A service without a status is projected as one with the initial status.
    cases hstatus : service.status with
    | none =>
      have hinitial : (observe (service.withStatus .initial) snapshot policy).template.outcome =
          (observe service snapshot policy).template.outcome := by
        obtain ⟨metadata, spec, status⟩ := service
        cases hstatus
        rfl
      rw [project_of_status_none hstatus, ← hinitial]
      exact PassInput.outcome_next ⟨service, snapshot, policy, now⟩ hnames .initial
    | some s =>
      have hsame : service.withStatus s = service := by
        obtain ⟨metadata, spec, status⟩ := service
        cases hstatus
        rfl
      have hnext := PassInput.outcome_next ⟨service, snapshot, policy, now⟩ hnames s
      unfold PassInput.next PassInput.observation at hnext
      rw [hsame] at hnext
      exact hnext

end

theorem trimBlanks_of_byImage {m : ServiceModel} {image : String}
    (h : ModelSelector.ofSpec m = .ok (.byImage image)) : trimBlanks image = image := by
  unfold ModelSelector.ofSpec at h
  split at h
  · cases h
  · rename_i himage _
    cases h
    exact trimBlanks_of_trimmed? himage
  · cases h
  · cases h
  · cases h

def ModelFetch.with (f : ModelFetch) (new : ModelObject) : ModelFetch :=
  { f with ofNamespace := CustomObject.put new f.ofNamespace }

section

variable {f : ModelFetch} {new : ModelObject}

theorem ModelFetch.filter_records_with {p : ModelRecord → Bool}
    (hnew : p (.ofObject .namespaced new) = true)
    (h : ∀ r ∈ f.records, r.scope = .namespaced → p r = false)
    (hcluster : ∀ r, r.scope = .cluster → p r = false) :
    (f.with new).records.filter p = [.ofObject .namespaced new] := by
  have hold : ∀ o ∈ f.ofNamespace, (p ∘ ModelRecord.ofObject .namespaced) o = false :=
    fun o ho => h _ (List.mem_append_left _ (List.mem_map_of_mem ho)) rfl
  have hbehind : (f.ofCluster.map (ModelRecord.ofObject .cluster)).filter p = [] := by
    apply List.filter_eq_nil_iff.2
    intro r hr
    obtain ⟨o, -, rfl⟩ := List.mem_map.1 hr
    simp [hcluster (.ofObject .cluster o) rfl]
  unfold records ModelFetch.with
  rw [List.filter_append, hbehind, List.append_nil, List.filter_map,
    CustomObject.filter_put hnew hold]
  rfl

theorem resolveByImage_arrived {image name ofNamespace : String} (himage : trimBlanks image = image)
    (hunknown : ∀ r ∈ f.records, trimBlanks r.spec.image ≠ image) (uid : Option String)
    (status : Option StatusReport) :
    resolveByImage image ofNamespace
        (f.with ((modelForImage name ofNamespace image).arrived uid status)).records =
      .found (.ofObject .namespaced
        ((modelForImage name ofNamespace image).arrived uid status)) := by
  have hrecords : recordsOfImage image .namespaced
      (f.with ((modelForImage name ofNamespace image).arrived uid status)).records =
        [.ofObject .namespaced ((modelForImage name ofNamespace image).arrived uid status)] := by
    apply ModelFetch.filter_records_with
    · change (decide (ResourceScope.namespaced = .namespaced) &&
        decide (trimBlanks image = image)) = true
      simp [himage]
    · intro r hr _
      simp [hunknown r hr]
    · intro r hr
      simp [hr]
  simp only [resolveByImage, resolveImageInScope, hrecords]
  rfl

theorem resolveCustom_arrived {m : CustomModel} {name ofNamespace : String}
    (hsourced : m.modelSources.isEmpty = false) (hnamed : customModelName m = .ok name)
    (hunknown : ∀ r ∈ f.records, r.scope = .namespaced → r.name ≠ name) (uid : Option String)
    (status : Option StatusReport) :
    resolveCustom m ofNamespace
        (f.with ((modelForDescription name ofNamespace m).arrived uid status)).records =
      .found (.ofObject .namespaced
        ((modelForDescription name ofNamespace m).arrived uid status)) := by
  have hfind : (f.with ((modelForDescription name ofNamespace m).arrived uid
      status)).records.find? (fun r => r.scope = .namespaced && r.name = name) =
        some (.ofObject .namespaced
          ((modelForDescription name ofNamespace m).arrived uid status)) := by
    rw [← List.head?_filter, ModelFetch.filter_records_with]
    · rfl
    · change (decide (ResourceScope.namespaced = .namespaced) && decide (name = name)) = true
      simp
    · intro r hr hscope
      simp [hunknown r hr hscope]
    · intro r hr
      simp [hr]
  simp only [resolveCustom, hsourced, hnamed, hfind]
  rfl

theorem ModelMissing.found_arrived {service : ServiceObject} {object : ModelObject}
    (h : ModelMissing service f.records object) (uid : Option String)
    (status : Option StatusReport) :
    observeModel service (f.with (object.arrived uid status)).records =
      .found (.ofObject .namespaced (object.arrived uid status)) := by
  cases h with
  | image image name selected named unknown =>
    have himage : trimBlanks image = image := trimBlanks_of_byImage selected
    unfold observeModel
    dsimp only
    rw [selected]
    exact resolveByImage_arrived himage unknown uid status
  | description m name selected sourced named unknown =>
    unfold observeModel
    dsimp only
    rw [selected]
    exact resolveCustom_arrived sourced named unknown uid status

end

theorem sharedCacheOf?_arrived {service : ServiceObject} {t : TemplateRecord}
    {config : EffectiveConfig} {ofNamespace : String} {caches : List TemplateCacheObject}
    (h : sharedCacheOf? t ofNamespace caches = none) (uid : Option String)
    (status : Option StatusReport) :
    sharedCacheOf? t ofNamespace
        (CustomObject.put ((templateCacheFor service t config).arrived uid status) caches) =
      some ⟨TemplateCacheObject.referenceIn ((templateCacheFor service t config).arrived uid status)
        ofNamespace, (status.map (·.status)).getD .pending⟩ := by
  have hnone := sharedCacheOf?_eq_none_iff.1 h
  unfold sharedCacheOf?
  rw [CustomObject.find?_put]
  · rfl
  · change (decide (t.name = t.name) && decide (t.name = t.name)) = true
    simp
  · intro c hc
    by_cases hname : c.displayName = t.name
    · simp [hnone c hc hname]
    · simp [hname]

theorem volume_observeCaching {service : ServiceObject} {template : Option TemplateRecord}
    {model : Option ModelRecord} {fetched : CacheFetch} {config : EffectiveConfig}
    {intent : CachingIntent} {policy : Policy} {v : VolumeObservation}
    (h : (observeCaching service template model fetched config intent policy).volume = some v) :
    v.name = temporaryVolumeName service ∧ v.exists = fetched.claim.isSome := by
  unfold observeCaching at h
  split at h
  · cases h
  · dsimp only at h
    split at h
    · cases h
    · rw [← Option.some.inj h]
      simp only [observeVolume, and_self]

theorem Observation.volumeToCreate?_eq_some {o : Observation} {v : VolumeObservation} {size : Nat}
    (h : o.volumeToCreate? = some (v, size)) :
    o.caching.volume = some v ∧ v.shouldCreate = true := by
  unfold volumeToCreate? at h
  split at h
  · rename_i hv
    split at h
    · split at h
      · rename_i hcreated
        cases h
        exact ⟨hv, hcreated⟩
      · cases h
    · cases h
  · cases h

section

variable {service : ServiceObject} {snapshot : Snapshot} {policy : Policy}

theorem volumeToCreate?_of_claim (h : snapshot.caches.claim.isSome = true) :
    (observe service snapshot policy).volumeToCreate? = none := by
  cases hv : (observe service snapshot policy).volumeToCreate? with
  | none => rfl
  | some volume =>
    obtain ⟨v, size⟩ := volume
    obtain ⟨hvolume, hcreated⟩ := Observation.volumeToCreate?_eq_some hv
    have hexists : v.exists = true := (volume_observeCaching hvolume).2.trans h
    simp [VolumeObservation.shouldCreate, hexists] at hcreated

theorem cacheToCreate?_of_cache {c : SharedCache}
    (h : (observe service snapshot policy).caching.cache = some c) :
    (observe service snapshot policy).cacheToCreate? service = none := by
  unfold Observation.cacheToCreate?
  rw [Option.map_eq_none_iff, Option.filter_eq_none_iff]
  intro t ht hcreated
  have hready := (TemplateObservation.ready?_eq_some_iff.1 ht).2
  have hnone : sharedCacheOf? t service.home snapshot.caches.templateCaches = none :=
    sharedCacheOf?_eq_none_iff.2 (templateName_ne_of_shouldCreateCache ht hcreated)
  rw [caching_of_ready ht, cache_observeCaching _ _ _ _ _ _ hready] at h
  cases hnone.symm.trans h

theorem name_of_mem_plannedVolume {l : List PlannedObject} {d : PlannedObject}
    (h : (observe service snapshot policy).plannedVolume service = .ok l) (hd : d ∈ l) :
    d.name = temporaryVolumeName service := by
  unfold Observation.plannedVolume at h
  split at h
  · cases h
    cases hd
  · rename_i v size hv
    obtain ⟨volume, hvolume, rfl⟩ := exists_of_map_eq_ok h
    rw [List.mem_singleton.1 hd, (ownedObject_eq_ok hvolume).2.1]
    exact (volume_observeCaching (Observation.volumeToCreate?_eq_some hv).1).1

end

section

variable {service : ServiceObject} {snapshot : Snapshot} {policy : Policy} {plan : Plan}
  (h : (observe service snapshot policy).PlannedByKind service policy plan)

include h

theorem ofKind_model_of_found {r : ModelRecord}
    (hfound : (observe service snapshot policy).model = .found r) :
    plan.ofKind .model = [] := by
  rw [h.model, hfound]
  rfl

theorem ofKind_model_of_outcome
    (houtcome : (observe service snapshot policy).template.outcome ≠ .waitingForModel) :
    plan.ofKind .model = [] := by
  rw [h.model]
  cases hcreated : (observe service snapshot policy).model.toCreate with
  | none => rfl
  | some object => exact absurd (template_of_model_toCreate hcreated) houtcome

theorem ofKind_template_of_resolved {t : TemplateRecord}
    (hresolved : (observe service snapshot policy).template.outcome = .resolved t) :
    plan.ofKind .template = [] := by
  rw [h.template]
  unfold TemplateObservation.toCreate?
  rw [hresolved]
  rfl

theorem ofKind_templateCache_of_cache {c : SharedCache}
    (hcache : (observe service snapshot policy).caching.cache = some c) :
    plan.ofKind .templateCache = [] := by
  rw [h.templateCache, cacheToCreate?_of_cache hcache]
  rfl

theorem ofKind_volumeClaim_of_claim (hclaim : snapshot.caches.claim.isSome = true) :
    plan.ofKind .volumeClaim = [] := by
  have hvolume := h.volume
  unfold Observation.plannedVolume at hvolume
  rw [volumeToCreate?_of_claim hclaim] at hvolume
  exact (Except.ok.inj hvolume).symm

end

section

variable {service next : ServiceObject} {snapshot : Snapshot} {policy : Policy} {plan : Plan}
  {d : PlannedObject} {a : Arrival}

theorem claim_after (h : plan.ofKind .volumeClaim ≠ []) :
    (snapshot.after plan a).caches.claim.isSome = true := by
  unfold Snapshot.after
  dsimp only
  rw [if_neg h]
  rfl

theorem templates_after (h : plan.ofKind .template = []) :
    (snapshot.after plan a).templates = snapshot.templates := by
  unfold Snapshot.after
  rw [h]
  rfl

theorem observe_template_after (h : plan.ofKind .model = []) :
    (observe next (snapshot.after plan a) policy).template =
      observeTemplate next (observe next snapshot policy).model.ready?
        (snapshot.after plan a).templates.records snapshot.gpus := by
  have hmodels : (snapshot.after plan a).models = snapshot.models := by
    unfold Snapshot.after
    rw [h]
    rfl
  have hmodel : (observe next (snapshot.after plan a) policy).model =
      (observe next snapshot policy).model := by
    unfold observe
    dsimp only
    rw [hmodels]
  rw [← hmodel]
  rfl

theorem model_after (hplan : (observe service snapshot policy).plan service policy = .ok plan)
    (hnext : NextService service snapshot policy next) (hd : d ∈ plan.objects)
    (hkind : d.kind = .model) :
    ∃ m : ModelObject, CustomObject.read? d.body = some m ∧
      (observe next (snapshot.after plan a) policy).model =
        .found (.ofObject .namespaced (m.arrived a.uid a.model)) := by
  have he := Observation.error_of_mem_objects hplan hd
  have hplanned := (Observation.plannedByKind_of_plan he hplan).model
  have hmem : d ∈ plan.ofKind .model := hkind ▸ Plan.mem_ofKind hd
  rw [hplanned] at hmem
  obtain ⟨object, hcreated, rfl⟩ := Option.map_eq_some_iff.1 (Option.mem_toList.1 hmem)
  have hmissing : ModelMissing service snapshot.models.records object := .of_toCreate hcreated
  have hkept : object.metadata.deletionTimestamp = none := by cases hmissing <;> rfl
  have hstatus : object.status = none := by cases hmissing <;> rfl
  refine ⟨object, ?_, ?_⟩
  · rw [CustomObject.read?_body_planned hkept, ← hstatus]
  · rw [hcreated, Option.map_some, Option.toList_some] at hplanned
    have hmodels : (snapshot.after plan a).models =
        snapshot.models.with (object.arrived a.uid a.model) := by
      unfold Snapshot.after ModelFetch.with
      rw [hplanned, CustomObject.putAll_planned hkept]
    have hmodel : (observe next (snapshot.after plan a) policy).model =
        observeModel next (snapshot.after plan a).models.records := rfl
    rw [hmodel, hmodels, hnext.observeModel_eq]
    exact hmissing.found_arrived a.uid a.model

theorem records_after {base : TemplateRecord} {overrides : Option TemplateOverrides}
    {o : TemplateOverrides} {ofNamespace : String}
    (hderives : Derives base overrides snapshot.templates.records ofNamespace o)
    (hplanned : plan.ofKind .template =
      [(derivedTemplate base o ofNamespace).planned .template]) :
    (snapshot.after plan a).templates.records =
      snapshot.templates.ofNamespace.map (.ofObject .namespaced) ++
        .ofObject .namespaced ((derivedTemplate base o ofNamespace).arrived a.uid a.template) ::
          snapshot.templates.ofCluster.map (.ofObject .cluster) := by
  have hnew : ∀ t ∈ snapshot.templates.ofNamespace,
      t.isSame ((derivedTemplate base o ofNamespace).arrived a.uid a.template) = false := by
    intro t ht
    apply Bool.eq_false_iff.2
    intro hsame
    obtain ⟨hname, hnamespace⟩ := Bool.and_eq_true_iff.1 hsame
    exact hderives.not_named ht ⟨of_decide_eq_true hnamespace, of_decide_eq_true hname⟩
  unfold Snapshot.after TemplateFetch.records
  dsimp only
  rw [hplanned, CustomObject.putAll_planned rfl, CustomObject.put_eq_append hnew, List.map_append,
    List.append_assoc]
  rfl

/-- The template that was derived is the one that is resolved. -/
theorem template_after (hplan : (observe service snapshot policy).plan service policy = .ok plan)
    (hnames : snapshot.templates.NamesDistinct)
    (hnext : NextService service snapshot policy next) (hd : d ∈ plan.objects)
    (hkind : d.kind = .template) :
    ∃ t : TemplateObject, CustomObject.read? d.body = some t ∧
      (observe next (snapshot.after plan a) policy).template.outcome =
        .resolved (.ofObject .namespaced (t.arrived a.uid a.template)) := by
  have he := Observation.error_of_mem_objects hplan hd
  have hentries := Observation.plannedByKind_of_plan he hplan
  have hplanned := hentries.template
  have hmem : d ∈ plan.ofKind .template := hkind ▸ Plan.mem_ofKind hd
  rw [hplanned] at hmem
  obtain ⟨object, hcreated, rfl⟩ := Option.map_eq_some_iff.1 (Option.mem_toList.1 hmem)
  have hderiving := TemplateObservation.outcome_of_toCreate? hcreated
  have hmodel : plan.ofKind .model = [] :=
    ofKind_model_of_outcome hentries (by rw [hderiving]; simp)
  have hagain := (hnext.outcome_eq hnames).trans hderiving
  obtain ⟨base, -, o, hderives, rfl⟩ := derives_of_toCreate? hcreated
  rw [hcreated, Option.map_some, Option.toList_some] at hplanned
  refine ⟨_, CustomObject.read?_body_planned rfl, ?_⟩
  rw [observe_template_after hmodel, records_after hderives hplanned]
  exact outcome_observeTemplate_arrived hagain a.uid a.template

theorem ready?_after {t : TemplateRecord}
    (hentries : (observe service snapshot policy).PlannedByKind service policy plan)
    (hnames : snapshot.templates.NamesDistinct)
    (hnext : NextService service snapshot policy next)
    (h : (observe service snapshot policy).template.ready? = some t) :
    (observe next (snapshot.after plan a) policy).template.ready? = some t := by
  obtain ⟨hresolved, hready⟩ := TemplateObservation.ready?_eq_some_iff.1 h
  have hmodel : plan.ofKind .model = [] :=
    ofKind_model_of_outcome hentries (by rw [hresolved]; simp)
  rw [observe_template_after hmodel,
    templates_after (ofKind_template_of_resolved hentries hresolved)]
  exact TemplateObservation.ready?_eq_some_iff.2
    ⟨(hnext.outcome_eq hnames).trans hresolved, hready⟩

theorem cache_after (hplan : (observe service snapshot policy).plan service policy = .ok plan)
    (hnames : snapshot.templates.NamesDistinct)
    (hnext : NextService service snapshot policy next) (hd : d ∈ plan.objects)
    (hkind : d.kind = .templateCache) :
    ∃ c : TemplateCacheObject, CustomObject.read? d.body = some c ∧
      (observe next (snapshot.after plan a) policy).caching.cache =
        some ⟨TemplateCacheObject.referenceIn (c.arrived a.uid a.cache) service.home,
          (a.cache.map (·.status)).getD .pending⟩ := by
  have he := Observation.error_of_mem_objects hplan hd
  have hentries := Observation.plannedByKind_of_plan he hplan
  have hplanned := hentries.templateCache
  have hmem : d ∈ plan.ofKind .templateCache := hkind ▸ Plan.mem_ofKind hd
  rw [hplanned] at hmem
  obtain ⟨object, hcreated, rfl⟩ := Option.map_eq_some_iff.1 (Option.mem_toList.1 hmem)
  rw [hcreated, Option.map_some, Option.toList_some] at hplanned
  obtain ⟨t, ht, rfl⟩ := Option.map_eq_some_iff.1 hcreated
  obtain ⟨hready, hneeded⟩ := Option.filter_eq_some_iff.1 ht
  have hmissing : sharedCacheOf? t service.home snapshot.caches.templateCaches = none :=
    sharedCacheOf?_eq_none_iff.2 (templateName_ne_of_shouldCreateCache hready hneeded)
  have hcaches : (snapshot.after plan a).caches.templateCaches =
      CustomObject.put ((templateCacheFor service t
        (observe service snapshot policy).config.effective).arrived a.uid a.cache)
          snapshot.caches.templateCaches := by
    unfold Snapshot.after
    dsimp only
    rw [hplanned, CustomObject.putAll_planned rfl]
  have hhome : next.metadata.namespace.getD "" = service.home := hnext.home_eq
  refine ⟨_, CustomObject.read?_body_planned rfl, ?_⟩
  rw [caching_of_ready (ready?_after hentries hnames hnext hready),
    cache_observeCaching _ _ _ _ _ _ (TemplateObservation.ready?_eq_some_iff.1 hready).2, hcaches,
    hhome]
  exact sharedCacheOf?_arrived hmissing a.uid a.cache

/-- The kinds of objects that are created once: the shared ones and the volume. -/
def createdKinds : List ResourceKind := [.model, .template, .templateCache, .volumeClaim]

theorem ofKind_again {again : Plan}
    (hplan : (observe service snapshot policy).plan service policy = .ok plan)
    (hnames : snapshot.templates.NamesDistinct)
    (hnext : NextService service snapshot policy next)
    (hagain : (observe next (snapshot.after plan a) policy).PlannedByKind next policy again)
    (hd : d ∈ plan.objects) (hcreated : d.kind ∈ createdKinds) : again.ofKind d.kind = [] := by
  simp only [createdKinds, List.mem_cons, List.not_mem_nil, or_false] at hcreated
  rcases hcreated with hkind | hkind | hkind | hkind
  · obtain ⟨m, -, hfound⟩ := model_after hplan hnext hd hkind
    rw [hkind]
    exact ofKind_model_of_found hagain hfound
  · obtain ⟨t, -, hresolved⟩ := template_after hplan hnames hnext hd hkind
    rw [hkind]
    exact ofKind_template_of_resolved hagain hresolved
  · obtain ⟨c, -, hcache⟩ := cache_after hplan hnames hnext hd hkind
    rw [hkind]
    exact ofKind_templateCache_of_cache hagain hcache
  · have hmem : d ∈ plan.ofKind .volumeClaim := hkind ▸ Plan.mem_ofKind hd
    rw [hkind]
    exact ofKind_volumeClaim_of_claim hagain (claim_after (List.ne_nil_of_mem hmem))

/-- The next pass finds what was created, a volume by the name it was planned under, and plans
nothing of its kind again. -/
theorem creation_closes
    (hplan : (observe service snapshot policy).plan service policy = .ok plan)
    (hnames : snapshot.templates.NamesDistinct)
    (hnext : NextService service snapshot policy next) (a : Arrival) :
    (∀ d ∈ plan.objects, d.kind = .model → ∃ m : ModelObject,
      CustomObject.read? d.body = some m ∧
      (observe next (snapshot.after plan a) policy).model =
        .found (.ofObject .namespaced (m.arrived a.uid a.model))) ∧
    (∀ d ∈ plan.objects, d.kind = .template → ∃ t : TemplateObject,
      CustomObject.read? d.body = some t ∧
      (observe next (snapshot.after plan a) policy).template.outcome =
        .resolved (.ofObject .namespaced (t.arrived a.uid a.template))) ∧
    (∀ d ∈ plan.objects, d.kind = .templateCache → ∃ c : TemplateCacheObject,
      CustomObject.read? d.body = some c ∧
      (observe next (snapshot.after plan a) policy).caching.cache =
        some ⟨TemplateCacheObject.referenceIn (c.arrived a.uid a.cache) service.home,
          (a.cache.map (·.status)).getD .pending⟩) ∧
    (∀ d ∈ plan.objects, d.kind = .volumeClaim →
      (Read.volumeClaim.query (.of next)).name = some d.name) ∧
    ∀ again, (observe next (snapshot.after plan a) policy).plan next policy = .ok again →
      ∀ d ∈ plan.objects, d.kind ∈ createdKinds → ∀ d' ∈ again.objects, d'.kind ≠ d.kind := by
  refine ⟨fun d hd hkind => model_after hplan hnext hd hkind,
    fun d hd hkind => template_after hplan hnames hnext hd hkind,
    fun d hd hkind => cache_after hplan hnames hnext hd hkind, ?_, ?_⟩
  · intro d hd hkind
    have he := Observation.error_of_mem_objects hplan hd
    have hvolume := (Observation.plannedByKind_of_plan he hplan).volume
    have hname := name_of_mem_plannedVolume hvolume (hkind ▸ Plan.mem_ofKind hd)
    rw [hname, ← hnext.volumeName_eq]
    simp only [Read.query, ReadKeys.of]
  · intro again hagain d hd hcreated d' hd' hsame
    -- With an entry the second plan is not that of a faulty configuration, which is empty.
    have he := Observation.error_of_mem_objects hagain hd'
    have hentries := Observation.plannedByKind_of_plan he hagain
    have hmem : d' ∈ again.ofKind d.kind := hsame ▸ Plan.mem_ofKind hd'
    rw [ofKind_again hplan hnames hnext hentries hd hcreated] at hmem
    cases hmem

end

def readyArrival : Arrival where
  uid := some "m1"
  model := some ⟨.ready⟩
  template := none
  cache := none
  claim := default

/-- The model that is created for an image is the one of the next pass, which has the status of
the first and creates no model. -/
theorem created_model_found :
    ∃ plan, ∃ d ∈ plan.objects, ∃ m : ModelObject,
      (observe imageService default Policy.standard).plan imageService Policy.standard =
        .ok plan ∧
      d.kind = .model ∧ CustomObject.read? d.body = some m ∧
      let next := imageService.withStatus
        ((observe imageService default Policy.standard).project default imageService).status
      let o := observe next (Snapshot.after default plan readyArrival) Policy.standard
      o.model = .found (.ofObject .namespaced (m.arrived (some "m1") (some ⟨.ready⟩))) ∧
      ∀ again, o.plan next Policy.standard = .ok again →
        ∀ d' ∈ again.objects, d'.kind ≠ .model := by
  have hok : ((observe imageService default Policy.standard).plan imageService
      Policy.standard).isOk = true := by decide +kernel
  obtain ⟨plan, hplan⟩ := exists_of_isOk hok
  have hneeded : (observe imageService default Policy.standard).model.toCreate.isSome = true := by
    decide +kernel
  have hconfig : (observe imageService default Policy.standard).config.error = none := by
    decide +kernel
  obtain ⟨object, hcreated⟩ := Option.isSome_iff_exists.1 hneeded
  have hd := List.mem_append_left plan.owned
    ((Observation.SharedEntry.model object hcreated).mem_shared hconfig hplan)
  obtain ⟨hmodel, -, -, -, hagain⟩ := creation_closes hplan ⟨List.nodup_nil, List.nodup_nil⟩
    (.projected default) readyArrival
  obtain ⟨m, hread, hfound⟩ := hmodel _ hd rfl
  exact ⟨plan, _, hd, m, hplan, rfl, hread, hfound,
    fun again hok => hagain again hok _ hd List.mem_cons_self⟩

end InferenceReconciler
