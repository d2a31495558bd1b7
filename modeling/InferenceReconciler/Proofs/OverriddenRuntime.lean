import InferenceReconciler.Proofs.PlannedRuntime
import InferenceReconciler.Proofs.SatisfiedOverrides
import InferenceReconciler.Proofs.SentRuntime

/-!
# Overrides in the runtime

What becomes of the GPUs that a service asks for. The model of the overrides decides where the
runtime goes, since the specification of the template is asked before its profile. For the count
it is the other way round: a count that was discovered stands before the one in the
specification, so the count of the overrides is what the runtime gets only where no other count
was discovered.
-/

namespace InferenceReconciler

theorem mem_of_lookup_eq_some {α β : Type} [BEq α] [LawfulBEq α] {l : List (α × β)} {a : α} {b : β}
    (h : l.lookup a = some b) : (a, b) ∈ l := by
  obtain ⟨before, behind, rfl, -⟩ := List.lookup_eq_some_iff.1 h
  exact List.mem_append_right before List.mem_cons_self

theorem upperLetters_ne_nil (c : Char) : upperLetters c ≠ [] := by
  have hexpanded : ∀ e ∈ upperExpansions, e.2 ≠ [] := by decide
  unfold upperLetters mapCase
  split
  · exact List.cons_ne_nil _ _
  · split
    · rename_i codes hcodes
      have hne : codes ≠ [] := hexpanded _ (mem_of_lookup_eq_some hcodes)
      simpa using hne
    · split <;> exact List.cons_ne_nil _ _

theorem uppercase_eq_empty_iff {s : String} : uppercase s = "" ↔ s = "" := by
  unfold uppercase
  rw [String.ofList_eq_empty_iff, List.flatMap_eq_nil_iff, ← String.toList_eq_nil_iff]
  constructor
  · intro h
    apply List.eq_nil_iff_forall_not_mem.2
    intro c hc
    exact upperLetters_ne_nil c (h c hc)
  · intro h c hc
    rw [h] at hc
    cases hc

namespace GpuModel

theorem canonical_eq_empty_iff {s : String} : canonical s = "" ↔ isBlankText s = true := by
  have hnamed : ∀ e ∈ fullNames, e.2 ≠ "" := by decide
  unfold isBlankText
  rw [String.isEmpty_iff]
  unfold canonical
  dsimp only
  split
  · exact uppercase_eq_empty_iff
  · rename_i hcompact
    constructor
    · intro hempty
      cases hlookup : fullNames.lookup (String.ofList
          ((withoutVendor (uppercase (trimBlanks s)).toList).filter fun c => !isGap c)) with
      | none =>
        rw [hlookup, Option.getD_none] at hempty
        exact absurd (String.isEmpty_iff.2 hempty) hcompact
      | some full =>
        rw [hlookup, Option.getD_some] at hempty
        exact absurd hempty (hnamed _ (mem_of_lookup_eq_some hlookup))
    · intro hblank
      rw [uppercase_eq_empty_iff.2 hblank] at hcompact
      exact absurd rfl hcompact

end GpuModel

theorem gpuAffinity_congr {a b : String} (h : GpuModel.canonical a = GpuModel.canonical b) :
    gpuAffinity a = gpuAffinity b := by
  unfold gpuAffinity GpuModel.deviceIds
  rw [h]

theorem map_gpuAffinity_congr {a b : String}
    (h : GpuModel.canonical a = GpuModel.canonical b) :
    (filledIn? (some a)).map gpuAffinity = (filledIn? (some b)).map gpuAffinity := by
  have hblank : isBlankText a = isBlankText b := by
    rw [Bool.eq_iff_iff, ← GpuModel.canonical_eq_empty_iff, ← GpuModel.canonical_eq_empty_iff, h]
  unfold filledIn?
  rw [Option.filter_some, Option.filter_some, hblank]
  split
  · exact congrArg some (gpuAffinity_congr h)
  · rfl

/-- The count of GPUs that the profile of the template speaks of, if it is not zero. -/
def TemplateRecord.discoveredGpus? (t : TemplateRecord) : Option UInt32 :=
  (t.profile?.bind (·.gpuCount)).filter fun n => 0 < n

theorem runtimeGpuCount_eq (t : TemplateRecord) :
    runtimeGpuCount t = t.discoveredGpus?.getD t.spec.gpuCount := rfl

theorem find?_of_defaultResources {n : UInt32} {resource : String} {policy : Policy}
    {r : ResourceRequirements} (h : defaultResources n resource policy = .ok r) :
    r.requests.find? resource = some (toString n.toNat) ∧
      r.limits.find? resource = some (toString n.toNat) := by
  obtain ⟨cpu, -, h⟩ := exists_of_bind_eq_ok h
  obtain ⟨memory, -, h⟩ := exists_of_bind_eq_ok h
  obtain ⟨memoryLimit, -, h⟩ := exists_of_bind_eq_ok h
  cases h
  -- The GPUs come last, so they also win over a resource of another kind with their name.
  constructor <;> simp [Dict.ofList, Dict.find?_insert]

theorem bind_find?_unlessEmpty (d : Dict String) (key : String) :
    (if d.isEmpty then none else some d).bind (·.find? key) = d.find? key := by
  by_cases hempty : d.isEmpty = true
  · have hentries : d.entries = [] := List.isEmpty_iff.1 hempty
    rw [if_pos hempty, Option.bind_none, Dict.find?, hentries, List.lookup_nil]
  · rw [if_neg hempty, Option.bind_some]

/-- The serving container requests so many GPUs and is granted no more. -/
def InferenceService.GivesGpus (runtime : InferenceService) (resource : String) (n : UInt32) :
    Prop :=
  ∃ container, runtime.spec.predictor.containers = [container] ∧
    container.name = servingContainer ∧
    ∃ r, container.resources = some r ∧
      r.requests.bind (·.find? resource) = some (toString n.toNat) ∧
      r.limits.bind (·.find? resource) = some (toString n.toNat)

theorem InferenceService.GivesGpus.count_eq {runtime : InferenceService} {resource : String}
    {n k : UInt32} (h : runtime.GivesGpus resource n) (h' : runtime.GivesGpus resource k) :
    toString n.toNat = toString k.toNat := by
  obtain ⟨container, hcontainer, -, r, hr, hrequests, -⟩ := h
  obtain ⟨container', hcontainer', -, r', hr', hrequests', -⟩ := h'
  cases hcontainer.symm.trans hcontainer'
  cases hr.symm.trans hr'
  exact Option.some.inj (hrequests.symm.trans hrequests')

section

variable {service : ServiceObject} {name : String} {m : ModelRecord} {t : TemplateRecord}
  {caching : CachingObservation} {config : EffectiveConfig} {policy : Policy}
  {runtime : InferenceService}

/-- Without explicit resources, a runtime gets the GPUs that were discovered or specified. -/
theorem givesGpus_of_runtimeFor
    (h : runtimeFor service name m t caching config policy = .ok runtime)
    (hexplicit : explicitResources? service.spec t.spec = none) :
    runtime.GivesGpus (gpuResourceName t policy) (runtimeGpuCount t) := by
  obtain ⟨resources, hresources, h⟩ := exists_of_bind_eq_ok h
  unfold runtimeResources at hresources
  rw [hexplicit] at hresources
  obtain ⟨hrequests, hlimits⟩ := find?_of_defaultResources hresources
  cases h
  refine ⟨_, rfl, rfl, _, rfl, ?_, ?_⟩
  · exact (bind_find?_unlessEmpty _ _).trans hrequests
  · exact (bind_find?_unlessEmpty _ _).trans hlimits

theorem affinity_of_runtimeFor
    (h : runtimeFor service name m t caching config policy = .ok runtime) :
    runtime.spec.predictor.affinity = (runtimeGpuModel? t).map gpuAffinity := by
  obtain ⟨resources, -, h⟩ := exists_of_bind_eq_ok h
  cases h
  rfl

end

/-- The runtime is given what the GPU overrides ask for: the nodes of the model, the name of the
resource, and the count unless another one was discovered. -/
structure InferenceService.Honours (runtime : InferenceService) (g : GpuSelector)
    (t : TemplateRecord) (policy : Policy) : Prop where
  count : ∀ n, g.count = some n →
    runtime.GivesGpus (gpuResourceName t policy) (t.discoveredGpus?.getD n)
  model : ∀ w, g.model = some w →
    runtime.spec.predictor.affinity = (filledIn? (some w)).map gpuAffinity
  resourceName : ∀ name, g.resourceName = some name →
    gpuResourceName t policy = (filledIn? (some name)).getD policy.gpuResourceName

section

variable {service : ServiceObject} {snapshot : Snapshot} {policy : Policy} {d : PlannedObject}
  {m : ModelRecord} {t : TemplateRecord} {runtime : InferenceService} {o : TemplateOverrides}

theorem honours_of_satisfies {ob : Observation} (h : ob.Sends service policy d m t runtime)
    (hexplicit : explicitResources? service.spec t.spec = none)
    (hfits : satisfies t.spec o = true) {g : GpuSelector} (hg : o.gpuSelector = some g) :
    runtime.Honours g t policy := by
  have hgpu := gpuFits_of_satisfies hfits hg
  constructor
  · intro n hn
    rw [← gpuCount_of_gpuFits hgpu hn, ← runtimeGpuCount_eq]
    exact givesGpus_of_runtimeFor h.built hexplicit
  · intro wanted hw
    obtain ⟨model, hmodel, hcanonical⟩ := gpuModel?_of_gpuFits hgpu hw
    have hplaced : runtimeGpuModel? t = filledIn? (some model) := by
      unfold runtimeGpuModel?
      rw [hmodel, Option.orElse_eq_orElse, Option.orElse_some]
    rw [affinity_of_runtimeFor h.built, hplaced]
    exact map_gpuAffinity_congr hcanonical
  · intro name hname
    unfold gpuResourceName
    rw [resourceName_of_gpuFits hgpu hname]

/-- A runtime that is sent for a service with overrides honours them, apart from a count where
another one was discovered, and apart from overrides whose digest is that of others for which a
template was derived. -/
theorem overrides_reach_runtime {plan : Plan}
    (hplan : (observe service snapshot policy).plan service policy = .ok plan)
    (hd : d ∈ plan.objects) (hkind : d.kind = .inferenceService) (hmode : d.mode = .wholeObject)
    (ho : service.spec.effectiveOverrides = some o)
    (hexplicit : ∀ t, (observe service snapshot policy).template.ready? = some t →
      explicitResources? service.spec t.spec = none)
    {derivations : List (TemplateRecord × TemplateOverrides)}
    (hderived : DerivedBy derivations snapshot.templates.records service.home) :
    ∃ m t runtime, (observe service snapshot policy).Sends service policy d m t runtime ∧
      ((∀ g, o.gpuSelector = some g → runtime.Honours g t policy) ∨
        ∃ made ∈ derivations, DigestsCollide 8 [Wire.write o] [Wire.write made.2]) := by
  obtain ⟨m, t, runtime, hsends⟩ := Observation.exists_sends_of_plan hplan hd hkind hmode
  have hnone := hexplicit t hsends.template
  obtain ⟨hout, -⟩ := TemplateObservation.ready?_eq_some_iff.1 hsends.template
  refine ⟨m, t, runtime, hsends, ?_⟩
  rcases satisfies_of_observeTemplate ho hderived hout with hfits | hcollide
  · exact Or.inl fun g hg => honours_of_satisfies hsends hnone hfits hg
  · exact Or.inr hcollide

end

def fourGpus : TemplateOverrides := ⟨none, none, some ⟨some "mi300x", some 4, none⟩⟩

def overriddenService : ServiceObject :=
  { cachedService with spec := { cachedService.spec with overrides := some fourGpus } }

def derivedSnapshot : Snapshot :=
  let derived := derivedTemplate (.ofObject .cluster cachedTemplate) fourGpus "default"
  { cachedSnapshot with
    templates := ⟨[derived.arrived (some "d1") (some ⟨.ready, [], none⟩)], [cachedTemplate]⟩
    caches := ⟨[⟨{ Metadata.empty with name := some derived.displayName },
      ⟨derived.displayName, .namespaced, none, []⟩, some ⟨.ready⟩⟩], [], none⟩ }

theorem derivedBy_derivedSnapshot :
    DerivedBy [(.ofObject .cluster cachedTemplate, fourGpus)] derivedSnapshot.templates.records
      "default" := by
  intro base _ o _ t ht hscope _
  rcases List.mem_cons.1 ht with rfl | hrest
  · exact ⟨_, List.mem_singleton_self _, rfl, derivedRecord_arrived _ fourGpus "default" _ _⟩
  · rw [List.mem_singleton.1 hrest] at hscope
    cases hscope

theorem derived_runtime_has_four_gpus :
    ∃ plan d, (observe overriddenService derivedSnapshot Policy.standard).plan overriddenService
        Policy.standard = .ok plan ∧
      d ∈ plan.objects ∧ d.kind = .inferenceService ∧ d.mode = .wholeObject ∧
      ∃ m t runtime, (observe overriddenService derivedSnapshot Policy.standard).Sends
          overriddenService Policy.standard d m t runtime ∧
        runtime.GivesGpus "amd.com/gpu" 4 ∧
        runtime.spec.predictor.affinity = some (gpuAffinity "mi300x") := by
  have hplanned : plansRuntime ((observe overriddenService derivedSnapshot
      Policy.standard).plan overriddenService Policy.standard) = true := by decide +kernel
  obtain ⟨plan, hplan, d, hd, hkind, hmode⟩ := exists_of_plansRuntime hplanned
  have hready : (observe overriddenService derivedSnapshot Policy.standard).template.ready? =
      some (.ofObject .namespaced ((derivedTemplate (.ofObject .cluster cachedTemplate) fourGpus
        "default").arrived (some "d1") (some ⟨.ready, [], none⟩))) := by decide +kernel
  have hexplicit : ∀ t, (observe overriddenService derivedSnapshot
      Policy.standard).template.ready? = some t →
        explicitResources? overriddenService.spec t.spec = none := by
    intro t ht
    cases hready.symm.trans ht
    rfl
  obtain ⟨m, t, runtime, hsends, hhonours | hcollide⟩ := overrides_reach_runtime hplan hd hkind
    hmode rfl hexplicit derivedBy_derivedSnapshot
  · cases hready.symm.trans hsends.template
    have hgpu := hhonours _ rfl
    exact ⟨plan, d, hplan, hd, hkind, hmode, m, _, runtime, hsends, hgpu.count 4 rfl,
      hgpu.model "mi300x" rfl⟩
  · obtain ⟨made, hmade, hcollide⟩ := hcollide
    cases List.mem_singleton.1 hmade
    exact absurd rfl hcollide.different

/-- A template for the four GPUs whose profile was discovered on eight. -/
def profiledTemplate : TemplateObject where
  metadata := { Metadata.empty with name := some "fast" }
  spec := { TemplateSpec.empty with
    modelName := "llama"
    gpuSelector := some ⟨some "MI300X", some 4, none⟩ }
  status := some ⟨.ready, [], some { (default : TemplateProfile) with
    metadata := { (default : ProfileMetadata) with gpuCount := some 8 } }⟩

def profiledSnapshot : Snapshot := { cachedSnapshot with templates := ⟨[], [profiledTemplate]⟩ }

/-- The template satisfies the overrides and nothing is derived, and the runtime has the eight
GPUs of the profile instead of the four that are asked for. -/
theorem profiled_runtime_has_eight_gpus :
    overriddenService.spec.effectiveOverrides = some fourGpus ∧
      satisfies profiledTemplate.spec fourGpus = true ∧
      explicitResources? overriddenService.spec profiledTemplate.spec = none ∧
      ∃ plan d, (observe overriddenService profiledSnapshot Policy.standard).plan
          overriddenService Policy.standard = .ok plan ∧
        d ∈ plan.objects ∧ d.kind = .inferenceService ∧ d.mode = .wholeObject ∧
        ∃ m t runtime, (observe overriddenService profiledSnapshot Policy.standard).Sends
            overriddenService Policy.standard d m t runtime ∧
          runtime.GivesGpus "amd.com/gpu" 8 ∧ ¬ runtime.GivesGpus "amd.com/gpu" 4 := by
  have hplanned : plansRuntime ((observe overriddenService profiledSnapshot
      Policy.standard).plan overriddenService Policy.standard) = true := by decide +kernel
  obtain ⟨plan, hplan, d, hd, hkind, hmode⟩ := exists_of_plansRuntime hplanned
  obtain ⟨m, t, runtime, hsends⟩ := Observation.exists_sends_of_plan hplan hd hkind hmode
  have hready : (observe overriddenService profiledSnapshot Policy.standard).template.ready? =
      some (.ofObject .cluster profiledTemplate) := by decide +kernel
  have ht : t = .ofObject .cluster profiledTemplate :=
    Option.some.inj (hsends.template.symm.trans hready)
  subst ht
  have height : runtime.GivesGpus "amd.com/gpu" 8 :=
    givesGpus_of_runtimeFor hsends.built rfl
  refine ⟨rfl, by decide +kernel, rfl, plan, d, hplan, hd, hkind, hmode, m, _, runtime, hsends,
    height, ?_⟩
  intro hfour
  have hcounts := height.count_eq hfour
  revert hcounts
  decide

end InferenceReconciler
