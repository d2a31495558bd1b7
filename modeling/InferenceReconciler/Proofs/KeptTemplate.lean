import InferenceReconciler.Proofs.SettledTemplate

/-!
# Templates that are kept

A template that a service was resolved to, by name, by choice or by derivation, passes the test
that is made of a recorded template. So it is found again as long as it is there and ready,
whatever templates and GPUs come and go around it.
-/

namespace InferenceReconciler

section

variable {templates : List TemplateRecord} {t : TemplateRecord}

theorem name_of_resolveNamed {name ofNamespace : String} {overrides : Option TemplateOverrides}
    (h : resolveNamed name overrides templates ofNamespace = .resolved t) :
    t.name = name ∨ t.name = derivedTemplateName name overrides := by
  obtain ⟨base, hbase, hleads⟩ := resolveNamed_eq_resolved h
  rw [← (mem_and_name_of_named hbase).2]
  cases hleads with
  | itself fits => exact Or.inl rfl
  | derived o t asked found =>
    rw [asked]
    exact Or.inr (scope_and_name_of_findNamespaced found).2

variable {service : ServiceObject} {model : ModelRecord} {gpus : List String}

/-- What a service was resolved to passes the test of a recorded template, provided that it is
ready, serves the model and satisfies the overrides. The name is right whichever way it was
found. -/
theorem stillFits_of_resolved (hm : model.status.isReady = true)
    (h : (observeTemplate service (some model) templates gpus).outcome = .resolved t)
    (hready : t.isReady = true) (hserves : t.spec.modelName = model.name)
    (hfits : (service.spec.effectiveOverrides.all fun o => satisfies t.spec o) = true) :
    stillFits t model (trimmed? service.spec.templateName) service.spec.effectiveOverrides =
      true := by
  rw [outcome_observeTemplate service hm] at h
  split at h
  · rename_i r hrecorded
    cases h
    exact (recorded?_eq_some_iff.1 hrecorded).2
  · have hname : ((trimmed? service.spec.templateName).all fun name =>
        decide (t.name = name) ||
          decide (t.name = derivedTemplateName name service.spec.effectiveOverrides)) = true := by
      unfold searchedTemplate at h
      cases hnamed : trimmed? service.spec.templateName with
      | none => rfl
      | some name =>
        rw [hnamed] at h
        simpa using name_of_resolveNamed h
    unfold stillFits
    rw [hready, hserves, hfits, hname, decide_eq_true rfl]
    rfl

end

/-- The same template at another time: what it refers to and asks for is as it was, and it is
ready. -/
structure TemplateRecord.Continues (t old : TemplateRecord) : Prop where
  reference : t.reference = old.reference
  spec : t.spec = old.spec
  ready : t.isReady = true

theorem TemplateRecord.Continues.stillFits {t old : TemplateRecord} (h : t.Continues old)
    {model : ModelRecord} {named : Option String} {overrides : Option TemplateOverrides}
    (hold : stillFits old model named overrides = true) :
    stillFits t model named overrides = true := by
  have hname : t.name = old.name := congrArg ResolvedReference.name h.reference
  unfold InferenceReconciler.stillFits at hold ⊢
  simp only [Bool.and_eq_true] at hold ⊢
  rw [h.ready, h.spec, hname]
  exact ⟨⟨⟨rfl, hold.1.1.2⟩, hold.1.2⟩, hold.2⟩

section

variable {service : ServiceObject} {model : ModelRecord} {templates later : List TemplateRecord}
  {gpus : List String} {t t' : TemplateRecord} {s : ServiceStatus}

/-- A ready template that serves the model and satisfies the overrides is kept once its reference
is in the status: it is found without a search in every list that still holds it, whatever else
the list holds and whatever GPUs there are. -/
theorem resolved_template_kept (hm : model.status.isReady = true)
    (h : (observeTemplate service (some model) templates gpus).outcome = .resolved t)
    (hready : t.isReady = true) (hserves : t.spec.modelName = model.name)
    (hfits : (service.spec.effectiveOverrides.all fun o => satisfies t.spec o) = true)
    (hs : s.resolvedTemplate = some t.reference) (hunique : NamesUnique later)
    (hmem : t' ∈ later) (hsame : t'.Continues t) (laterGpus : List String) :
    observeTemplate (service.withStatus s) (some model) later laterGpus =
      ⟨.resolved t', true⟩ := by
  have href : t'.isReferredBy t.reference = true := by
    rw [← hsame.reference]
    exact t'.isReferredBy_reference
  have hfit := hsame.stillFits (stillFits_of_resolved hm h hready hserves hfits)
  have hrecorded : recorded? (some t.reference) model (trimmed? service.spec.templateName)
      service.spec.effectiveOverrides later = some t' :=
    recorded?_eq_some_iff.2 ⟨⟨_, rfl, hunique.find?_isReferredBy hmem href⟩, hfit⟩
  simp only [observeTemplate, ServiceObject.withStatus, Option.filter_some, hm, if_true,
    Option.bind_some, hs, hrecorded]

end

/-- A service that asks for a template by name and for more GPUs than it has. -/
def widenedService : ServiceObject where
  metadata := { Metadata.empty with name := some "chat", «namespace» := some "default" }
  spec := { (default : ServiceSpec) with
    model := ⟨some "llama", none, none⟩
    templateName := some "fast"
    overrides := some ⟨none, none, some ⟨none, some 4, none⟩⟩ }
  status := none

def readyLlama : ModelRecord := ⟨"llama", none, .cluster, none, .ofImage "llama:1", .ready⟩

def llamaTemplate (name : String) : TemplateRecord :=
  { (default : TemplateRecord) with
    name := name
    scope := .cluster
    spec := { TemplateSpec.empty with modelName := "llama" }
    status := ⟨.ready, [], none⟩ }

/-- What is derived from the template for the service, with the profile that was discovered. -/
def widenedTemplate (profile : Option TemplateProfile) : TemplateRecord :=
  { TemplateRecord.ofObject .namespaced (derivedTemplate (llamaTemplate "fast")
      ⟨none, none, some ⟨none, some 4, none⟩⟩ "default") with
    uid := some "d1"
    status := ⟨.ready, [], profile⟩ }

/-- A derived template is kept when a template of the name that was asked for comes up in the
namespace, another one disappears, and its own profile is discovered. -/
theorem derived_template_kept :
    let before := [widenedTemplate none, llamaTemplate "slow", llamaTemplate "fast"]
    let later := [{ llamaTemplate "fast" with scope := .namespaced, «namespace» := some "default" },
      llamaTemplate "fast", widenedTemplate (some default)]
    (observeTemplate widenedService (some readyLlama) before []).outcome =
        .resolved (widenedTemplate none) ∧
      NamesUnique later ∧
      observeTemplate (widenedService.withStatus { ServiceStatus.initial with
          resolvedTemplate := some (widenedTemplate none).reference }) (some readyLlama) later
          ["MI300X"] = ⟨.resolved (widenedTemplate (some default)), true⟩ := by
  intro before later
  have hfound : (observeTemplate widenedService (some readyLlama) before []).outcome =
      .resolved (widenedTemplate none) := by decide +kernel
  have hunique : NamesUnique later := by
    unfold NamesUnique
    decide +kernel
  have hfits : (widenedService.spec.effectiveOverrides.all
      fun o => satisfies (widenedTemplate none).spec o) = true := by decide +kernel
  have hmem : widenedTemplate (some default) ∈ later := by simp [later]
  have hsame : (widenedTemplate (some default)).Continues (widenedTemplate none) := ⟨rfl, rfl, rfl⟩
  refine ⟨hfound, hunique, ?_⟩
  apply resolved_template_kept rfl hfound rfl rfl hfits _ hunique hmem hsame
  rfl

end InferenceReconciler
