import InferenceReconciler.Proofs.CreatedObjects

/-!
# New shared objects

Shared objects are sent whole and by force, which is meant for objects that are not there yet.
A template is derived, and a model made from a description, only after its own name was looked
up. The model of an image is looked up by the image and a cache by the template it is made for
as well, so an object of the same name that was made for something else is missed and written
over.
-/

namespace InferenceReconciler

def CustomObject.IsNamed {σ τ : Type} (o : CustomObject σ τ) (ofNamespace name : String) : Prop :=
  o.metadata.namespace = some ofNamespace ∧ o.displayName = name

/-- There is an object of a shared kind and of the name in the namespace. -/
def Snapshot.Holds (s : Snapshot) (ofNamespace : String) (kind : ResourceKind) (name : String) :
    Prop :=
  match kind with
  | .model => ∃ m ∈ s.models.ofNamespace, m.IsNamed ofNamespace name
  | .template => ∃ t ∈ s.templates.ofNamespace, t.IsNamed ofNamespace name
  | .templateCache => ∃ c ∈ s.caches.templateCaches, c.IsNamed ofNamespace name
  | _ => False

@[simp] theorem displayName_derivedTemplate (base : TemplateRecord) (o : TemplateOverrides)
    (ofNamespace : String) :
    (derivedTemplate base o ofNamespace).displayName = derivedTemplateName base.name (some o) :=
  rfl

variable {service : ServiceObject} {snapshot : Snapshot} {policy : Policy}

/-- A model that is created has the name of one that is there only if it is made for an image
and no record has that image. -/
theorem ModelMissing.image_of_taken {object m : ModelObject}
    (h : ModelMissing service snapshot.models.records object)
    (hm : m ∈ snapshot.models.ofNamespace) (hname : m.displayName = object.displayName) :
    ∃ image, ModelSelector.ofSpec service.spec.model = .ok (.byImage image) ∧
      autoModelName image = .ok object.displayName ∧
      ∀ r ∈ snapshot.models.records, trimBlanks r.spec.image ≠ image := by
  cases h with
  | image image name selected named unknown => exact ⟨image, selected, named, unknown⟩
  | description model name selected sourced named unknown =>
    have hrecord : ModelRecord.ofObject .namespaced m ∈ snapshot.models.records :=
      List.mem_append_left _ (List.mem_map_of_mem hm)
    exact absurd hname (unknown _ hrecord rfl)

theorem Derives.not_named {base : TemplateRecord} {overrides : Option TemplateOverrides}
    {f : TemplateFetch} {ofNamespace : String} {o : TemplateOverrides}
    (h : Derives base overrides f.records ofNamespace o) {t : TemplateObject}
    (ht : t ∈ f.ofNamespace) :
    ¬ t.IsNamed ofNamespace (derivedTemplateName base.name (some o)) := by
  rintro ⟨hnamespace, hname⟩
  have hrecord : TemplateRecord.ofObject .namespaced t ∈ f.records :=
    List.mem_append_left _ (List.mem_map_of_mem ht)
  have hmissing := List.find?_eq_none.1 h.missing _ hrecord
  apply hmissing
  simp [TemplateRecord.ofObject, hname, hnamespace]

theorem templateName_ne_of_shouldCreateCache {t : TemplateRecord}
    (ht : (observe service snapshot policy).template.ready? = some t)
    (h : (observe service snapshot policy).caching.shouldCreateCache = true) :
    ∀ c ∈ snapshot.caches.templateCaches, c.displayName = t.name →
      c.spec.templateName ≠ t.name := by
  have hready := (TemplateObservation.ready?_eq_some_iff.1 ht).2
  rw [caching_of_ready ht] at h
  exact sharedCacheOf?_eq_none_iff.1 (shouldCreateCache_observeCaching hready h)

/-- A plan shares new objects only, apart from the model of an image whose name is taken by a
model of another image, and from the cache of a template whose name is taken by the cache of
another template. -/
theorem shared_objects_new_or_misnamed {plan : Plan} {d : PlannedObject}
    (h : (observe service snapshot policy).plan service policy = .ok plan)
    (hd : d ∈ plan.shared) (hheld : snapshot.Holds service.home d.kind d.name) :
    (d.kind = .model ∧ ∃ image,
      ModelSelector.ofSpec service.spec.model = .ok (.byImage image) ∧
      autoModelName image = .ok d.name ∧
      ∀ r ∈ snapshot.models.records, trimBlanks r.spec.image ≠ image) ∨
    (d.kind = .templateCache ∧
      (∃ t, (observe service snapshot policy).template.ready? = some t ∧ t.name = d.name) ∧
      ∀ c ∈ snapshot.caches.templateCaches, c.displayName = d.name →
        c.spec.templateName ≠ d.name) := by
  have hentry := Observation.sharedEntry_of_plan h hd
  cases hentry with
  | model object created =>
    obtain ⟨m, hm, -, hname⟩ := hheld
    have hmissing : ModelMissing service snapshot.models.records object := .of_toCreate created
    exact Or.inl ⟨rfl, hmissing.image_of_taken hm hname⟩
  | template object created =>
    obtain ⟨base, -, o, hderives, rfl⟩ := derives_of_toCreate? created
    obtain ⟨t, ht, hnamed⟩ := hheld
    exact absurd hnamed (hderives.not_named ht)
  | cache t ready created =>
    exact Or.inr ⟨rfl, ⟨t, ready, rfl⟩, templateName_ne_of_shouldCreateCache ready created⟩

theorem exists_planned_cache {t : TemplateRecord}
    (hok : ((observe service snapshot policy).plan service policy).isOk = true)
    (hconfig : (observe service snapshot policy).config.error = none)
    (ht : (observe service snapshot policy).template.ready? = some t)
    (hcreated : (observe service snapshot policy).caching.shouldCreateCache = true) :
    ∃ plan, (observe service snapshot policy).plan service policy = .ok plan ∧
      (templateCacheFor service t (observe service snapshot policy).config.effective).planned
        .templateCache ∈ plan.shared := by
  obtain ⟨plan, hplan⟩ := exists_of_isOk hok
  exact ⟨plan, hplan, (Observation.SharedEntry.cache t ht hcreated).mem_shared hconfig hplan⟩

def cachingTemplate : TemplateObject :=
  { cachedTemplate with spec := { cachedTemplate.spec with caching := some ⟨true, []⟩ } }

/-- The name of the template is that of a cache for another one. -/
def misnamedCacheSnapshot : Snapshot :=
  { cachedSnapshot with
    templates := ⟨[], [cachingTemplate]⟩
    caches := ⟨[⟨{ Metadata.empty with
      name := some "fast"
      «namespace» := some "default" }, ⟨"slow", .cluster, none, []⟩, some ⟨.ready⟩⟩], [], none⟩ }

theorem misnamed_cache_written_over :
    ∃ plan d, (observe cachedService misnamedCacheSnapshot Policy.standard).plan cachedService
        Policy.standard = .ok plan ∧
      d ∈ plan.shared ∧ misnamedCacheSnapshot.Holds cachedService.home d.kind d.name ∧
      d.kind = .templateCache ∧
      ∀ c ∈ misnamedCacheSnapshot.caches.templateCaches, c.displayName = d.name →
        c.spec.templateName ≠ d.name := by
  have ht : (observe cachedService misnamedCacheSnapshot Policy.standard).template.ready? =
      some (.ofObject .cluster cachingTemplate) := by decide +kernel
  obtain ⟨plan, hplan, hd⟩ := exists_planned_cache (by decide +kernel) (by decide +kernel) ht
    (by decide +kernel)
  have hheld : misnamedCacheSnapshot.Holds cachedService.home .templateCache "fast" :=
    ⟨_, List.mem_singleton_self _, rfl, rfl⟩
  refine ⟨plan, _, hplan, hd, hheld, rfl, ?_⟩
  rcases shared_objects_new_or_misnamed hplan hd hheld with ⟨hkind, -⟩ | ⟨-, -, hother⟩
  · cases hkind
  · exact hother

def imageService : ServiceObject :=
  { cachedService with
    spec := { (default : ServiceSpec) with model := ⟨none, some "llama:1", none⟩ } }

/-- The name that a model of the image gets is that of a model of another image. -/
def misnamedModelSnapshot : Snapshot :=
  { (default : Snapshot) with
    models := ⟨[⟨{ Metadata.empty with
      name := some "llama-1-5d1c"
      «namespace» := some "default" }, .ofImage "llama:2", some ⟨.ready⟩⟩], []⟩ }

theorem misnamed_model_written_over :
    ∃ plan, (observe imageService misnamedModelSnapshot Policy.standard).plan imageService
        Policy.standard = .ok plan ∧
      ∃ d ∈ plan.shared, misnamedModelSnapshot.Holds imageService.home d.kind d.name := by
  have hok : ((observe imageService misnamedModelSnapshot Policy.standard).plan imageService
      Policy.standard).isOk = true := by decide +kernel
  obtain ⟨plan, hplan⟩ := exists_of_isOk hok
  have hname : (observe imageService misnamedModelSnapshot
      Policy.standard).model.toCreate.map (·.displayName) = some "llama-1-5d1c" := by
    decide +kernel
  obtain ⟨object, hcreated, hobject⟩ := Option.map_eq_some_iff.1 hname
  have hconfig : (observe imageService misnamedModelSnapshot Policy.standard).config.error =
      none := by decide +kernel
  have hd := (Observation.SharedEntry.model object hcreated).mem_shared hconfig hplan
  exact ⟨plan, hplan, _, hd, _, List.mem_singleton_self _, rfl, hobject.symm⟩

end InferenceReconciler
