import InferenceReconciler.Proofs.ReachedCaching

/-!
# Created objects

What a pass creates for all services, and out of what. A model is created for an image that no
record has, or for a description that no record is named for; a template is derived from a base
of the snapshot that falls short of the overrides; a cache is created for a ready template that
has none. A pass creates one of these at most, since each waits for the one before it.
-/

namespace InferenceReconciler

/-- The namespace that a service lives in, empty where it has none. -/
def ServiceObject.home (service : ServiceObject) : String := service.metadata.namespace.getD ""

def modelForImage (name ofNamespace image : String) : ModelObject :=
  newModel name ofNamespace Labels.origin Labels.originAutoGenerated (.ofImage image)

def modelForDescription (name ofNamespace : String) (m : CustomModel) : ModelObject :=
  newModel name ofNamespace Labels.customModel "true"
    { ModelSpec.ofImage m.baseImage with modelSources := m.modelSources }

/-- Why a model is created. -/
inductive ModelMissing (service : ServiceObject) (records : List ModelRecord) :
    ModelObject → Prop where
  | image (image name : String)
      (selected : ModelSelector.ofSpec service.spec.model = .ok (.byImage image))
      (named : autoModelName image = .ok name)
      (unknown : ∀ r ∈ records, trimBlanks r.spec.image ≠ image) :
      ModelMissing service records (modelForImage name service.home image)
  | description (m : CustomModel) (name : String)
      (selected : ModelSelector.ofSpec service.spec.model = .ok (.custom m))
      (sourced : m.modelSources.isEmpty = false)
      (named : customModelName m = .ok name)
      (unknown : ∀ r ∈ records, r.scope = .namespaced → r.name ≠ name) :
      ModelMissing service records (modelForDescription name service.home m)

section

variable {records : List ModelRecord} {object : ModelObject}

theorem toCreate_eq_none_of_found {o : ModelObservation} {image : String}
    {scope : ResourceScope} (h : resolveImageInScope image scope records = some o) :
    o.toCreate = none := by
  unfold resolveImageInScope at h
  split at h
  · cases h
  · cases h
    rfl
  · cases h
    rfl

theorem recordsOfImage_eq_nil {image : String} {scope : ResourceScope}
    (h : resolveImageInScope image scope records = none) :
    ∀ r ∈ records, r.scope = scope → trimBlanks r.spec.image ≠ image := by
  intro r hr hscope himage
  have hmem : r ∈ recordsOfImage image scope records :=
    List.mem_filter.2 ⟨hr, by simp [hscope, himage]⟩
  unfold resolveImageInScope at h
  split at h
  · rename_i hnil
    rw [hnil] at hmem
    cases hmem
  · cases h
  · cases h

theorem toCreate_resolveByImage {image ofNamespace : String}
    (h : (resolveByImage image ofNamespace records).toCreate = some object) :
    ∃ name, autoModelName image = .ok name ∧
      (∀ r ∈ records, trimBlanks r.spec.image ≠ image) ∧
      object = modelForImage name ofNamespace image := by
  unfold resolveByImage at h
  split at h
  · rename_i o ho
    rcases eq_some_or_of_orElse ho with hn | hc
    · rw [toCreate_eq_none_of_found hn] at h
      cases h
    · rw [toCreate_eq_none_of_found hc] at h
      cases h
  · rename_i hnone
    simp only [Option.orElse_eq_orElse, Option.orElse_eq_or, Option.or_eq_none_iff] at hnone
    split at h
    · cases h
    · rename_i name hname
      cases h
      refine ⟨name, hname, ?_, rfl⟩
      intro r hr
      cases hscope : r.scope with
      | namespaced => exact recordsOfImage_eq_nil hnone.1 r hr hscope
      | cluster => exact recordsOfImage_eq_nil hnone.2 r hr hscope

theorem toCreate_resolveCustom {m : CustomModel} {ofNamespace : String}
    (h : (resolveCustom m ofNamespace records).toCreate = some object) :
    m.modelSources.isEmpty = false ∧ ∃ name, customModelName m = .ok name ∧
      (∀ r ∈ records, r.scope = .namespaced → r.name ≠ name) ∧
      object = modelForDescription name ofNamespace m := by
  unfold resolveCustom at h
  split at h
  · cases h
  · rename_i hsourced
    split at h
    · cases h
    · rename_i name hname
      split at h
      · cases h
      · rename_i hnone
        cases h
        refine ⟨by simpa using hsourced, name, hname, ?_, rfl⟩
        intro r hr hscope hrname
        exact List.find?_eq_none.1 hnone r hr (by simp [hscope, hrname])

theorem ModelMissing.of_toCreate {service : ServiceObject}
    (h : (observeModel service records).toCreate = some object) :
    ModelMissing service records object := by
  unfold observeModel at h
  dsimp only at h
  split at h
  · cases h
  · rename_i name _
    unfold resolveByName at h
    dsimp only at h
    split at h <;> cases h
  · rename_i image hselected
    obtain ⟨name, hname, hunknown, rfl⟩ := toCreate_resolveByImage h
    exact .image image name hselected hname hunknown
  · rename_i m hselected
    obtain ⟨hsourced, name, hname, hunknown, rfl⟩ := toCreate_resolveCustom h
    exact .description m name hselected hsourced hname hunknown

end

theorem TemplateObservation.outcome_of_toCreate? {o : TemplateObservation}
    {object : TemplateObject} (h : o.toCreate? = some object) : o.outcome = .deriving object := by
  unfold toCreate? at h
  split at h
  · rename_i t ht
    cases h
    exact ht
  · cases h

/-- Why a template is derived: the base falls short of the overrides, and nothing in the
namespace has the name of what is derived from it. -/
structure Derives (base : TemplateRecord) (overrides : Option TemplateOverrides)
    (templates : List TemplateRecord) (ofNamespace : String) (o : TemplateOverrides) : Prop where
  overrides : overrides = some o
  unsatisfied : satisfies base.spec o = false
  missing : findNamespaced (derivedTemplateName base.name (some o)) ofNamespace templates = none

section

variable {templates : List TemplateRecord} {gpus : List String} {ofNamespace : String}
  {object : TemplateObject}

theorem resolveBase_eq_deriving {base : TemplateRecord} {overrides : Option TemplateOverrides}
    (h : resolveBase base overrides templates ofNamespace = .deriving object) :
    ∃ o, Derives base overrides templates ofNamespace o ∧
      object = derivedTemplate base o ofNamespace := by
  unfold resolveBase at h
  split at h
  · cases h
  · rename_i o
    split at h
    · cases h
    · rename_i hshort
      split at h
      · cases h
      · rename_i hmissing
        cases h
        exact ⟨o, ⟨rfl, by simpa using hshort, hmissing⟩, rfl⟩

theorem resolveNamed_eq_deriving {name : String} {overrides : Option TemplateOverrides}
    (h : resolveNamed name overrides templates ofNamespace = .deriving object) :
    ∃ base o,
      (findNamespaced name ofNamespace templates <|> findOfCluster name templates) = some base ∧
      Derives base overrides templates ofNamespace o ∧
      object = derivedTemplate base o ofNamespace := by
  unfold resolveNamed at h
  split at h
  · rename_i base hbase
    obtain ⟨o, hderives, hobject⟩ := resolveBase_eq_deriving h
    exact ⟨base, o, hbase, hderives, hobject⟩
  · cases h

/-- Why a template is derived from the best candidate: none of them satisfies the overrides, and
nothing else is in the way. -/
structure DerivesBest (model : ModelRecord) (base : TemplateRecord)
    (templates : List TemplateRecord) (gpus : List String) (o : TemplateOverrides) : Prop where
  refused : ∃ p, selectTemplate (candidatesFor model templates) (some o) gpus = .failed p ∧
    p.reason = Reason.validationFailed
  provided : missingGpu? o gpus = none
  best : selectTemplate (candidatesFor model templates) none gpus = .selected base

theorem resolveBest_eq_deriving {model : ModelRecord} {overrides : Option TemplateOverrides}
    (h : resolveBest model overrides templates gpus ofNamespace = .deriving object) :
    ∃ base o, DerivesBest model base templates gpus o ∧
      Derives base overrides templates ofNamespace o ∧
      object = derivedTemplate base o ofNamespace := by
  unfold resolveBest at h
  dsimp only at h
  split at h
  · cases h
  · cases h
  · rename_i p hrefused
    split at h
    · rename_i hreason
      cases hd : overrides.bind fun o =>
          deriveFromBest model o (candidatesFor model templates) templates gpus ofNamespace with
      | none =>
        rw [hd] at h
        cases h
      | some outcome =>
        rw [hd, Option.getD_some] at h
        obtain ⟨o, rfl, ho⟩ := Option.bind_eq_some_iff.1 hd
        unfold deriveFromBest at ho
        split at ho
        · cases ho
          cases h
        · rename_i hgpus
          split at ho
          · rename_i base hbest
            cases ho
            obtain ⟨o', hderives, hobject⟩ := resolveBase_eq_deriving h
            cases hderives.overrides
            exact ⟨base, o, ⟨⟨p, hrefused, hreason⟩, hgpus, hbest⟩, hderives, hobject⟩
          · cases ho
            cases h
          · cases ho
    · cases h

theorem searched_of_toCreate? {service : ServiceObject} {model : Option ModelRecord}
    (h : (observeTemplate service model templates gpus).toCreate? = some object) :
    ∃ m, model = some m ∧ m.status.isReady = true ∧
      recorded? (service.status.bind (·.resolvedTemplate)) m
        (trimmed? service.spec.templateName) service.spec.effectiveOverrides templates = none ∧
      searchedTemplate service m templates gpus = .deriving object := by
  have houtcome := TemplateObservation.outcome_of_toCreate? h
  cases hm : model.filter fun m => m.status.isReady with
  | none =>
    rw [outcome_observeTemplate_of_not_ready service hm] at houtcome
    cases houtcome
  | some m =>
    obtain ⟨rfl, hready⟩ := Option.filter_eq_some_iff.1 hm
    rw [outcome_observeTemplate service hready] at houtcome
    split at houtcome
    · cases houtcome
    · rename_i hrecorded
      exact ⟨m, rfl, hready, hrecorded, houtcome⟩

theorem derives_of_toCreate? {service : ServiceObject} {model : Option ModelRecord}
    (h : (observeTemplate service model templates gpus).toCreate? = some object) :
    ∃ base ∈ templates, ∃ o, Derives base service.spec.effectiveOverrides templates service.home o ∧
      object = derivedTemplate base o service.home := by
  obtain ⟨m, -, -, -, hsearched⟩ := searched_of_toCreate? h
  unfold searchedTemplate at hsearched
  dsimp only at hsearched
  split at hsearched
  · obtain ⟨base, o, hbase, hderives, hobject⟩ := resolveNamed_eq_deriving hsearched
    exact ⟨base, (mem_and_name_of_named hbase).1, o, hderives, hobject⟩
  · obtain ⟨base, o, hbest, hderives, hobject⟩ := resolveBest_eq_deriving hsearched
    exact ⟨base, mem_of_candidatesFor (mem_of_selectTemplate hbest.best), o, hderives, hobject⟩

end

theorem sharedCacheOf?_eq_none_iff {t : TemplateRecord} {ofNamespace : String}
    {caches : List TemplateCacheObject} :
    sharedCacheOf? t ofNamespace caches = none ↔
      ∀ c ∈ caches, c.displayName = t.name → c.spec.templateName ≠ t.name := by
  unfold sharedCacheOf?
  rw [Option.map_eq_none_iff, List.find?_eq_none]
  simp

theorem shouldCreateCache_observeCaching {service : ServiceObject} {t : TemplateRecord}
    {model : Option ModelRecord} {fetched : CacheFetch} {config : EffectiveConfig}
    {intent : CachingIntent} {policy : Policy} (ht : t.isReady = true)
    (h : (observeCaching service (some t) model fetched config intent policy).shouldCreateCache =
      true) :
    sharedCacheOf? t service.home fetched.templateCaches = none := by
  simp only [observeCaching, Option.filter_some, ht, if_true] at h
  split at h
  · exact Option.isNone_iff_eq_none.1 h
  · cases h

namespace Observation

/-- An entry of a plan that belongs to nobody. -/
inductive SharedEntry (o : Observation) (service : ServiceObject) : PlannedObject → Prop where
  | model (object : ModelObject) (created : o.model.toCreate = some object) :
      SharedEntry o service (object.planned .model)
  | template (object : TemplateObject) (created : o.template.toCreate? = some object) :
      SharedEntry o service (object.planned .template)
  | cache (t : TemplateRecord) (ready : o.template.ready? = some t)
      (created : o.caching.shouldCreateCache = true) :
      SharedEntry o service ((templateCacheFor service t o.config.effective).planned .templateCache)

variable {o : Observation} {service : ServiceObject} {policy : Policy} {d : PlannedObject}

theorem mem_sharedObjects_iff : d ∈ o.sharedObjects service ↔ o.SharedEntry service d := by
  unfold sharedObjects
  constructor
  · intro h
    rcases List.mem_append.1 h with hfirst | hcache
    · rcases List.mem_append.1 hfirst with hmodel | htemplate
      · obtain ⟨object, hcreated, rfl⟩ := Option.map_eq_some_iff.1 (Option.mem_toList.1 hmodel)
        exact .model object hcreated
      · obtain ⟨object, hcreated, rfl⟩ :=
          Option.map_eq_some_iff.1 (Option.mem_toList.1 htemplate)
        exact .template object hcreated
    · obtain ⟨c, hc, rfl⟩ := Option.map_eq_some_iff.1 (Option.mem_toList.1 hcache)
      obtain ⟨t, ht, rfl⟩ := Option.map_eq_some_iff.1 hc
      obtain ⟨hready, hcreated⟩ := Option.filter_eq_some_iff.1 ht
      exact .cache t hready hcreated
  · intro h
    cases h with
    | model object created => simp [created]
    | template object created => simp [created]
    | cache t ready created => simp [cacheToCreate?, ready, created]

theorem sharedEntry_of_plan {plan : Plan} (h : o.plan service policy = .ok plan)
    (hd : d ∈ plan.shared) : o.SharedEntry service d := by
  by_cases he : o.config.error = none
  · obtain ⟨volume, runtime, route, -, -, -, rfl⟩ := plan_eq_ok he h
    exact mem_sharedObjects_iff.1 hd
  · rw [plan_of_config_error he] at h
    cases h
    cases hd

theorem SharedEntry.mem_shared {plan : Plan} (hd : o.SharedEntry service d)
    (he : o.config.error = none) (h : o.plan service policy = .ok plan) : d ∈ plan.shared := by
  obtain ⟨volume, runtime, route, -, -, -, rfl⟩ := plan_eq_ok he h
  exact mem_sharedObjects_iff.2 hd

end Observation

theorem ModelObservation.Decided.resolved_of_toCreate {o : ModelObservation} (h : o.Decided)
    {object : ModelObject} (hcreated : o.toCreate = some object) : o.resolved = none := by
  cases h with
  | found r => cases hcreated
  | creating created => rfl
  | failed p => rfl

section

variable {service : ServiceObject} {snapshot : Snapshot} {policy : Policy}

theorem template_of_model_toCreate {object : ModelObject}
    (h : (observe service snapshot policy).model.toCreate = some object) :
    (observe service snapshot policy).template.outcome = .waitingForModel := by
  have hresolved : (observe service snapshot policy).model.resolved = none :=
    (decided_observeModel service snapshot.models.records).resolved_of_toCreate h
  have hready : (observe service snapshot policy).model.ready? = none := by
    unfold ModelObservation.ready?
    rw [hresolved]
    rfl
  have htemplate : (observe service snapshot policy).template =
      observeTemplate service (observe service snapshot policy).model.ready?
        snapshot.templates.records snapshot.gpus := rfl
  rw [htemplate, hready]
  exact outcome_observeTemplate_of_not_ready service rfl _ _

/-- A pass creates one shared object at most. -/
theorem sharedEntry_unique {d d' : PlannedObject}
    (h : (observe service snapshot policy).SharedEntry service d)
    (h' : (observe service snapshot policy).SharedEntry service d') : d = d' := by
  cases h with
  | model object created =>
    have hwaiting := template_of_model_toCreate created
    cases h' with
    | model object' created' => rw [Option.some.inj (created.symm.trans created')]
    | template object' created' =>
      rw [TemplateObservation.outcome_of_toCreate? created'] at hwaiting
      cases hwaiting
    | cache t ready created' =>
      rw [(TemplateObservation.ready?_eq_some_iff.1 ready).1] at hwaiting
      cases hwaiting
  | template object created =>
    have hderiving := TemplateObservation.outcome_of_toCreate? created
    cases h' with
    | model object' created' =>
      rw [template_of_model_toCreate created'] at hderiving
      cases hderiving
    | template object' created' => rw [Option.some.inj (created.symm.trans created')]
    | cache t ready created' =>
      rw [(TemplateObservation.ready?_eq_some_iff.1 ready).1] at hderiving
      cases hderiving
  | cache t ready created =>
    have hresolved := (TemplateObservation.ready?_eq_some_iff.1 ready).1
    cases h' with
    | model object' created' =>
      rw [template_of_model_toCreate created'] at hresolved
      cases hresolved
    | template object' created' =>
      rw [TemplateObservation.outcome_of_toCreate? created'] at hresolved
      cases hresolved
    | cache t' ready' created' => rw [Option.some.inj (ready.symm.trans ready')]

end

end InferenceReconciler
