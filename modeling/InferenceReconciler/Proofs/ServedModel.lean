import InferenceReconciler.Proofs.OverriddenRuntime

/-!
# The model that a template serves

A template that is kept serves the model of the service, and so do the candidates among which
one is chosen and what is derived from them. Nothing of the kind is asked of a template that the
service names, or of one that stands under the name of a derived template. These are the only
ways to a template of another model, and a named template of another model is used as it is.
-/

namespace InferenceReconciler

def TemplateOutcome.spec? : TemplateOutcome → Option TemplateSpec
  | .resolved t => some t.spec
  | .deriving t => some t.spec
  | _ => none

theorem TemplateOutcome.spec?_eq_some {outcome : TemplateOutcome} {spec : TemplateSpec}
    (h : outcome.spec? = some spec) :
    (∃ t, outcome = .resolved t ∧ t.spec = spec) ∨ ∃ t, outcome = .deriving t ∧ t.spec = spec := by
  unfold spec? at h
  split at h
  · exact Or.inl ⟨_, rfl, Option.some.inj h⟩
  · exact Or.inr ⟨_, rfl, Option.some.inj h⟩
  · cases h

def ServiceObject.namedTemplate? (service : ServiceObject) (templates : List TemplateRecord) :
    Option TemplateRecord :=
  (trimmed? service.spec.templateName).bind fun name =>
    findNamespaced name service.home templates <|> findOfCluster name templates

/-- Where a search starts: at the template that the service names, and without a name at a
candidate of the model. -/
inductive StartsFrom (service : ServiceObject) (model : ModelRecord)
    (templates : List TemplateRecord) (base : TemplateRecord) : Prop where
  | named (found : service.namedTemplate? templates = some base)
  | chosen (unnamed : trimmed? service.spec.templateName = none)
      (candidate : base ∈ candidatesFor model templates)

/-- The two ways to the template of another model: it was named, or it stands under the name of
what is derived for the overrides. -/
inductive Strays (service : ServiceObject) (model : ModelRecord)
    (templates : List TemplateRecord) : TemplateSpec → Prop where
  | named {base : TemplateRecord} {spec : TemplateSpec}
      (found : service.namedTemplate? templates = some base)
      (other : base.spec.modelName ≠ model.name)
      (kept : spec.modelName = base.spec.modelName) : Strays service model templates spec
  | derived {base t : TemplateRecord} {o : TemplateOverrides}
      (start : StartsFrom service model templates base)
      (asked : service.spec.effectiveOverrides = some o)
      (found : findNamespaced (derivedTemplateName base.name (some o)) service.home templates =
        some t)
      (other : t.spec.modelName ≠ model.name) : Strays service model templates t.spec

section

variable {service : ServiceObject} {model : ModelRecord} {templates : List TemplateRecord}
  {gpus : List String} {spec : TemplateSpec}

theorem Strays.modelName_ne (h : Strays service model templates spec) :
    spec.modelName ≠ model.name := by
  cases h with
  | named found other kept => rwa [kept]
  | derived start asked found other => exact other

theorem namedTemplate?_eq_of_named {name : String}
    (h : trimmed? service.spec.templateName = some name) :
    service.namedTemplate? templates =
      (findNamespaced name service.home templates <|> findOfCluster name templates) := by
  unfold ServiceObject.namedTemplate?
  rw [h, Option.bind_some]

/-- A search ends at where it started, at what is derived from there for the same model, or at
what stands under the derived name. -/
theorem searchedTemplate_spec? (h : (searchedTemplate service model templates gpus).spec? =
      some spec) :
    ∃ base, StartsFrom service model templates base ∧
      (spec.modelName = base.spec.modelName ∨
        ∃ o t, service.spec.effectiveOverrides = some o ∧
          findNamespaced (derivedTemplateName base.name (some o)) service.home templates =
            some t ∧ spec = t.spec) := by
  have hleads : ∀ {base t : TemplateRecord}, LeadsTo base service.spec.effectiveOverrides
      templates service.home t → t.spec.modelName = base.spec.modelName ∨
        ∃ o t', service.spec.effectiveOverrides = some o ∧
          findNamespaced (derivedTemplateName base.name (some o)) service.home templates =
            some t' ∧ t.spec = t'.spec := by
    intro base t hleads
    cases hleads with
    | itself fits => exact Or.inl rfl
    | derived o t asked found => exact Or.inr ⟨o, t, asked, found, rfl⟩
  rcases TemplateOutcome.spec?_eq_some h with ⟨t, ht, rfl⟩ | ⟨t, ht, rfl⟩
  · unfold searchedTemplate at ht
    dsimp only at ht
    split at ht
    · rename_i name hname
      obtain ⟨base, hbase, hto⟩ := resolveNamed_eq_resolved ht
      exact ⟨base, .named ((namedTemplate?_eq_of_named hname).trans hbase), hleads hto⟩
    · rename_i hname
      obtain ⟨base, hbase, hto⟩ := resolveBest_eq_resolved ht
      exact ⟨base, .chosen hname hbase, hleads hto⟩
  · unfold searchedTemplate at ht
    dsimp only at ht
    split at ht
    · rename_i name hname
      obtain ⟨base, o, hbase, -, rfl⟩ := resolveNamed_eq_deriving ht
      exact ⟨base, .named ((namedTemplate?_eq_of_named hname).trans hbase), Or.inl rfl⟩
    · rename_i hname
      obtain ⟨base, o, hbest, -, rfl⟩ := resolveBest_eq_deriving ht
      exact ⟨base, .chosen hname (mem_of_selectTemplate hbest.best), Or.inl rfl⟩

theorem strays_of_searchedTemplate
    (h : (searchedTemplate service model templates gpus).spec? = some spec)
    (hother : spec.modelName ≠ model.name) : Strays service model templates spec := by
  obtain ⟨base, hstart, hsame | ⟨o, t, hasked, hfound, rfl⟩⟩ := searchedTemplate_spec? h
  · cases hstart with
    | named found => exact .named found (hsame ▸ hother) hsame
    | chosen unnamed candidate =>
      exact absurd (hsame.trans (mem_candidatesFor_iff.1 candidate).2.1) hother
  · exact .derived hstart hasked hfound hother

theorem resolveNamed_of_found {name ofNamespace : String} {base : TemplateRecord}
    (h : (findNamespaced name ofNamespace templates <|> findOfCluster name templates) = some base)
    (overrides : Option TemplateOverrides) :
    resolveNamed name overrides templates ofNamespace =
      resolveBase base overrides templates ofNamespace := by
  unfold resolveNamed
  rw [h]

theorem resolveBase_of_satisfied {base : TemplateRecord} {overrides : Option TemplateOverrides}
    (h : (overrides.all fun o => satisfies base.spec o) = true) (ofNamespace : String) :
    resolveBase base overrides templates ofNamespace = .resolved base := by
  unfold resolveBase
  cases overrides with
  | none => rfl
  | some o =>
    rw [Option.all_some] at h
    simp only [h, if_true]

theorem searchedTemplate_of_named {base : TemplateRecord}
    (hbase : service.namedTemplate? templates = some base)
    (hfits : (service.spec.effectiveOverrides.all fun o => satisfies base.spec o) = true) :
    searchedTemplate service model templates gpus = .resolved base := by
  obtain ⟨name, hname, hfound⟩ := Option.bind_eq_some_iff.1 hbase
  unfold searchedTemplate
  rw [hname]
  exact (resolveNamed_of_found hfound _).trans (resolveBase_of_satisfied hfits _)

/-- The template of a service with a ready model serves another model exactly where it was
searched for and the search strayed. A named template of any model is used as it is, once it
satisfies the overrides and no recorded one is kept. -/
theorem serves_model_unless_strays (hm : model.status.isReady = true)
    (h : (observeTemplate service (some model) templates gpus).outcome.spec? = some spec) :
    (spec.modelName ≠ model.name ↔
      (observeTemplate service (some model) templates gpus).reused = false ∧
        Strays service model templates spec) ∧
      ∀ base, service.namedTemplate? templates = some base →
        (service.spec.effectiveOverrides.all fun o => satisfies base.spec o) = true →
        (observeTemplate service (some model) templates gpus).reused = false →
          (observeTemplate service (some model) templates gpus).outcome = .resolved base := by
  rw [observeTemplate_of_ready service hm] at h ⊢
  cases hrecorded : recorded? (service.status.bind (·.resolvedTemplate)) model
      (trimmed? service.spec.templateName) service.spec.effectiveOverrides templates with
  | some t =>
    rw [hrecorded] at h
    cases h
    have hfit := (recorded?_eq_some_iff.1 hrecorded).2
    simp only [stillFits, Bool.and_eq_true, decide_eq_true_eq] at hfit
    refine ⟨⟨fun hother => absurd hfit.1.1.2 hother, fun hstray => ?_⟩, ?_⟩
    · cases hstray.1
    · intro base _ _ hsearched
      cases hsearched
  | none =>
    rw [hrecorded] at h
    refine ⟨⟨fun hother => ⟨rfl, strays_of_searchedTemplate h hother⟩,
      fun hstray => hstray.2.modelName_ne⟩, ?_⟩
    intro base hbase hfits _
    exact searchedTemplate_of_named hbase hfits

end

/-- A template of another model that has the name of what is derived for the four GPUs. -/
def strayTemplate : TemplateRecord :=
  { (default : TemplateRecord) with
    name := derivedTemplateName "fast" (some fourGpus)
    «namespace» := some "default"
    spec := { TemplateSpec.empty with modelName := "mistral" }
    status := ⟨.ready, [], none⟩ }

/-- Without a name given, the search starts at the template of the model and ends at the one of
another model that has the derived name. -/
theorem strays_to_derived_name :
    let templates := [strayTemplate, .ofObject .cluster cachedTemplate]
    (observeTemplate overriddenService (some (.ofObject .cluster cachedModel)) templates
        []).outcome = .resolved strayTemplate ∧
      Strays overriddenService (.ofObject .cluster cachedModel) templates strayTemplate.spec := by
  intro templates
  have houtcome : (observeTemplate overriddenService (some (.ofObject .cluster cachedModel))
      templates []).outcome = .resolved strayTemplate := by decide +kernel
  have hspec : (observeTemplate overriddenService (some (.ofObject .cluster cachedModel))
      templates []).outcome.spec? = some strayTemplate.spec := by rw [houtcome]; rfl
  exact ⟨houtcome, ((serves_model_unless_strays rfl hspec).1.1 (by decide)).2⟩

def borrowingService : ServiceObject :=
  { cachedService with spec := { cachedService.spec with templateName := some "fast" } }

/-- The template of the name serves another model. -/
def borrowedSnapshot : Snapshot :=
  { cachedSnapshot with
    templates := ⟨[], [{ cachedTemplate with
      spec := { cachedTemplate.spec with
        modelName := "mistral"
        modelSources := [⟨"weights", "hf://mistral", none⟩] } }]⟩ }

/-- The runtime that is sent is built from the image of one model and the template of another. -/
theorem runtime_of_two_models :
    ∃ plan d, (observe borrowingService borrowedSnapshot Policy.standard).plan borrowingService
        Policy.standard = .ok plan ∧
      d ∈ plan.objects ∧ d.kind = .inferenceService ∧ d.mode = .wholeObject ∧
      ∃ m t runtime, (observe borrowingService borrowedSnapshot Policy.standard).Sends
          borrowingService Policy.standard d m t runtime ∧
        m.status.isReady = true ∧
        (observeTemplate borrowingService (some m) borrowedSnapshot.templates.records
          []).outcome = .resolved t ∧
        m.name = "llama" ∧ t.spec.modelName = "mistral" := by
  have hplanned : plansRuntime ((observe borrowingService borrowedSnapshot
      Policy.standard).plan borrowingService Policy.standard) = true := by decide +kernel
  obtain ⟨plan, hplan, d, hd, hkind, hmode⟩ := exists_of_plansRuntime hplanned
  obtain ⟨m, t, runtime, hsends⟩ := Observation.exists_sends_of_plan hplan hd hkind hmode
  have hmodel : (observe borrowingService borrowedSnapshot Policy.standard).model.resolved =
      some (.ofObject .cluster cachedModel) := by decide +kernel
  cases hmodel.symm.trans hsends.model
  obtain ⟨houtcome, -⟩ := TemplateObservation.ready?_eq_some_iff.1 hsends.template
  have hserves : ∀ r, (observe borrowingService borrowedSnapshot Policy.standard).template.ready? =
      some r → r.spec.modelName = "mistral" := by decide +kernel
  exact ⟨plan, d, hplan, hd, hkind, hmode, _, t, runtime, hsends, rfl, houtcome, rfl,
    hserves t hsends.template⟩

end InferenceReconciler
