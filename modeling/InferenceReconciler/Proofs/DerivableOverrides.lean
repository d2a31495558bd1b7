import InferenceReconciler.Proofs.OverriddenRuntime
import InferenceReconciler.Proofs.SelectedTemplate
import InferenceReconciler.Proofs.ServedModel

/-!
# Overrides that can be derived

A service whose overrides no template satisfies gets one derived from the best of its model's. The
best is chosen as if the base itself were to run: a base that is bound to a GPU which no node has
is passed over, although the overrides may replace this GPU by one that is there. So overrides for
a GPU of the cluster are refused exactly where no candidate runs on it before they are applied.
-/

namespace InferenceReconciler

/-- The overrides name a GPU model that a node has. -/
def TemplateOverrides.PinsPresentGpu (o : TemplateOverrides) (gpus : List String) : Prop :=
  ∃ g wanted, o.gpuSelector = some g ∧ g.model = some wanted ∧ GpuModel.canonical wanted ∈ gpus

/-- That none of so many candidates satisfies the overrides. -/
def noneSatisfies (count : ℕ) : Problem :=
  .validation Reason.validationFailed
    s!"none of the {count} templates for the model satisfies the overrides"

section

variable {service : ServiceObject} {model : ModelRecord} {templates : List TemplateRecord}
  {gpus : List String} {base : TemplateRecord} {o : TemplateOverrides} {ofNamespace : String}

namespace TemplateOverrides.PinsPresentGpu

theorem missingGpu?_eq_none (h : o.PinsPresentGpu gpus) : missingGpu? o gpus = none := by
  obtain ⟨g, wanted, hg, hw, hpresent⟩ := h
  have hcontained : gpus.contains (GpuModel.canonical wanted) = true :=
    List.contains_iff_mem.2 hpresent
  unfold missingGpu?
  rw [hg, Option.bind_some, hw, Option.map_some, Option.filter_some, hcontained, Bool.not_true,
    Bool.and_false]
  rfl

theorem runsAmong (h : o.PinsPresentGpu gpus) (hfits : satisfies base.spec o = true) :
    RunsAmong gpus base := by
  obtain ⟨g, wanted, hg, hw, hpresent⟩ := h
  obtain ⟨model, hmodel, hcanonical⟩ := gpuModel?_of_gpuFits (gpuFits_of_satisfies hfits hg) hw
  intro _ m hm
  cases hmodel.symm.trans hm
  rw [hcanonical]
  exact hpresent

end TemplateOverrides.PinsPresentGpu

theorem namesUnique_singleton (t : TemplateRecord) : NamesUnique [t] := List.pairwise_singleton _ _

theorem selectTemplate_singleton {overrides : Option TemplateOverrides}
    (h : Eligible [base] overrides gpus base) :
    selectTemplate [base] overrides gpus = .selected base := by
  rw [selectTemplate_eq_selected_iff (namesUnique_singleton base)]
  have honly : ∀ u, Eligible [base] overrides gpus u → u = base :=
    fun u hu => List.mem_singleton.1 hu.candidate
  have hpreferred : base.scope = .namespaced ∨
      ∀ u, Eligible [base] overrides gpus u → u.scope ≠ .namespaced := by
    by_cases hscope : base.scope = .namespaced
    · exact Or.inl hscope
    · refine Or.inr fun u hu => ?_
      rw [honly u hu]
      exact hscope
  exact ⟨⟨h, hpreferred⟩, fun u hu hne => absurd (honly u hu.toEligible) hne⟩

theorem selectTemplate_singleton_of_not_runs (h : ¬ RunsAmong gpus base) :
    ∃ p, selectTemplate [base] none gpus = .failed p := by
  have hfits : FitsOverrides none base := fun o ho => by cases ho
  refine ⟨_, selectTemplate_of_refused (.noneRuns ⟨base, List.mem_singleton_self base, hfits⟩ ?_)⟩
  intro t ht _
  rw [List.mem_singleton.1 ht]
  exact h

theorem resolveBest_of_unsatisfied (hpins : o.PinsPresentGpu gpus)
    (hsome : candidatesFor model templates ≠ [])
    (hnone : ∀ t ∈ candidatesFor model templates, ¬ satisfies t.spec o = true) :
    resolveBest model (some o) templates gpus ofNamespace =
      match selectTemplate (candidatesFor model templates) none gpus with
      | .selected best => resolveBase best (some o) templates ofNamespace
      | .notReady count => .notReady (notReadyMessage count model)
      | .failed _ => .failed (noneSatisfies (candidatesFor model templates).length) := by
  have hrefused : selectTemplate (candidatesFor model templates) (some o) gpus =
      .failed (noneSatisfies (candidatesFor model templates).length) :=
    selectTemplate_of_refused (.noneFits hsome fun t ht hfits => hnone t ht (hfits o rfl))
  have hreason : (noneSatisfies (candidatesFor model templates).length).reason =
      Reason.validationFailed := rfl
  unfold resolveBest
  dsimp only
  rw [hrefused]
  dsimp only
  rw [if_pos hreason, Option.bind_some]
  unfold deriveFromBest
  rw [hpins.missingGpu?_eq_none]
  dsimp only
  cases selectTemplate (candidatesFor model templates) none gpus <;> rfl

/-- A single ready candidate that runs on the cluster is taken as it is, or derived from. -/
theorem resolveBest_of_runs (hone : candidatesFor model templates = [base])
    (hready : base.status.status = .ready) (hpins : o.PinsPresentGpu gpus)
    (hruns : RunsAmong gpus base) :
    resolveBest model (some o) templates gpus ofNamespace =
      resolveBase base (some o) templates ofNamespace := by
  have hmem : base ∈ [base] := List.mem_singleton_self base
  by_cases hfits : satisfies base.spec o = true
  · have heligible : Eligible [base] (some o) gpus base := by
      refine ⟨⟨hmem, fun other hother => ?_, hruns⟩, hready⟩
      cases hother
      exact hfits
    unfold resolveBest resolveBase
    dsimp only
    rw [hone, selectTemplate_singleton heligible, if_pos hfits]
  · have heligible : Eligible [base] none gpus base :=
      ⟨⟨hmem, fun other hother => (by cases hother), hruns⟩, hready⟩
    rw [resolveBest_of_unsatisfied hpins (by rw [hone]; exact List.cons_ne_nil _ _), hone,
      selectTemplate_singleton heligible]
    intro t ht
    rw [hone] at ht
    rw [List.mem_singleton.1 ht]
    exact hfits

theorem resolveBest_of_not_runs (hone : candidatesFor model templates = [base])
    (hpins : o.PinsPresentGpu gpus) (hmisfit : ¬ RunsAmong gpus base) :
    resolveBest model (some o) templates gpus ofNamespace = .failed (noneSatisfies 1) := by
  obtain ⟨p, hrefused⟩ := selectTemplate_singleton_of_not_runs hmisfit
  have hshort : ¬ satisfies base.spec o = true := fun hfits => hmisfit (hpins.runsAmong hfits)
  rw [resolveBest_of_unsatisfied hpins (by rw [hone]; exact List.cons_ne_nil _ _), hone, hrefused]
  · rfl
  · intro t ht
    rw [hone] at ht
    rw [List.mem_singleton.1 ht]
    exact hshort

theorem Derives.resolveBase_eq {overrides : Option TemplateOverrides}
    (h : Derives base overrides templates ofNamespace o) :
    resolveBase base overrides templates ofNamespace =
      .deriving (derivedTemplate base o ofNamespace) := by
  unfold resolveBase
  rw [h.overrides]
  dsimp only
  rw [h.unsatisfied, h.missing]
  rfl

theorem resolveBase_cases (base : TemplateRecord) (o : TemplateOverrides)
    (templates : List TemplateRecord) (ofNamespace : String) :
    (∃ t, resolveBase base (some o) templates ofNamespace = .resolved t) ∨
      resolveBase base (some o) templates ofNamespace =
        .deriving (derivedTemplate base o ofNamespace) := by
  unfold resolveBase
  dsimp only
  split
  · exact Or.inl ⟨base, rfl⟩
  · split
    · rename_i existing _
      exact Or.inl ⟨existing, rfl⟩
    · exact Or.inr rfl

/-- With one candidate, which is ready, overrides for a GPU of the cluster lead to a template or to
a derived one exactly if the candidate runs on the cluster before they are applied. Otherwise they
are refused as if nothing could be derived. -/
theorem overrides_derived_iff_base_runs (hm : model.status.isReady = true)
    (hunnamed : trimmed? service.spec.templateName = none)
    (hunrecorded : service.status.bind (·.resolvedTemplate) = none)
    (ho : service.spec.effectiveOverrides = some o) (hpins : o.PinsPresentGpu gpus)
    (hone : candidatesFor model templates = [base]) (hready : base.status.status = .ready) :
    (((∃ t, (observeTemplate service (some model) templates gpus).outcome = .resolved t) ∨
        ∃ d, (observeTemplate service (some model) templates gpus).outcome = .deriving d) ↔
      RunsAmong gpus base) ∧
      (RunsAmong gpus base → (observeTemplate service (some model) templates gpus).outcome =
        resolveBase base (some o) templates service.home) ∧
      (¬ RunsAmong gpus base → (observeTemplate service (some model) templates gpus).outcome =
        .failed (noneSatisfies 1)) := by
  have houtcome : (observeTemplate service (some model) templates gpus).outcome =
      resolveBest model (some o) templates gpus service.home := by
    rw [outcome_observeTemplate service hm, hunrecorded, hunnamed, ho]
    unfold searchedTemplate
    rw [hunnamed, ho]
    rfl
  rw [houtcome]
  refine ⟨⟨fun h => ?_, fun hruns => ?_⟩, resolveBest_of_runs hone hready hpins,
    resolveBest_of_not_runs hone hpins⟩
  · by_contra hmisfit
    rw [resolveBest_of_not_runs hone hpins hmisfit] at h
    rcases h with ⟨t, ht⟩ | ⟨d, hd⟩
    · cases ht
    · cases hd
  · rw [resolveBest_of_runs hone hready hpins hruns]
    exact (resolveBase_cases base o templates service.home).imp_right fun h => ⟨_, h⟩

end

theorem unbound_base_derived :
    fourGpus.PinsPresentGpu ["MI300X"] ∧
      (observeTemplate overriddenService (some (.ofObject .cluster cachedModel))
        [.ofObject .cluster cachedTemplate] ["MI300X"]).outcome =
          .deriving (derivedTemplate (.ofObject .cluster cachedTemplate) fourGpus "default") := by
  have hpins : fourGpus.PinsPresentGpu ["MI300X"] :=
    ⟨_, "mi300x", rfl, rfl, by decide +kernel⟩
  have hderives : Derives (.ofObject .cluster cachedTemplate) (some fourGpus)
      [.ofObject .cluster cachedTemplate] "default" fourGpus := ⟨rfl, by decide, rfl⟩
  obtain ⟨-, htaken, -⟩ := @overrides_derived_iff_base_runs overriddenService
    (.ofObject .cluster cachedModel) [.ofObject .cluster cachedTemplate] ["MI300X"]
    (.ofObject .cluster cachedTemplate) fourGpus rfl rfl rfl rfl hpins (by decide +kernel) rfl
  have hruns : RunsAmong ["MI300X"] (.ofObject .cluster cachedTemplate) := by
    intro _ m hm
    cases hm
  exact ⟨hpins, (htaken hruns).trans hderives.resolveBase_eq⟩

def boundTemplate : TemplateRecord :=
  .ofObject .cluster { cachedTemplate with
    spec := { cachedTemplate.spec with gpuSelector := some ⟨some "MI250X", none, none⟩ } }

/-- The overrides ask for the GPU of the cluster, and the one template of the model is ready. What
is derived from it would satisfy them, and is derived where the template is named, but without a
name the overrides are refused. -/
theorem derivable_overrides_refused :
    trimmed? overriddenService.spec.templateName = none ∧
      overriddenService.status.bind (·.resolvedTemplate) = none ∧
      overriddenService.spec.effectiveOverrides = some fourGpus ∧
      fourGpus.PinsPresentGpu ["MI300X"] ∧
      candidatesFor (.ofObject .cluster cachedModel) [boundTemplate] = [boundTemplate] ∧
      boundTemplate.status.status = .ready ∧
      (observeTemplate overriddenService (some (.ofObject .cluster cachedModel)) [boundTemplate]
        ["MI300X"]).outcome = .failed (noneSatisfies 1) ∧
      (observeTemplate
        { overriddenService with spec := { overriddenService.spec with templateName := some "fast" } }
        (some (.ofObject .cluster cachedModel)) [boundTemplate] ["MI300X"]).outcome =
          .deriving (derivedTemplate boundTemplate fourGpus "default") := by
  have hderives : Derives boundTemplate (some fourGpus) [boundTemplate] "default" fourGpus :=
    ⟨rfl, by decide +kernel, rfl⟩
  have hnamed : (findNamespaced "fast" "default" [boundTemplate] <|>
      findOfCluster "fast" [boundTemplate]) = some boundTemplate := by decide +kernel
  refine ⟨rfl, rfl, rfl, ⟨_, "mi300x", rfl, rfl, by decide +kernel⟩, by decide +kernel, rfl,
    by decide +kernel, ?_⟩
  exact (resolveNamed_of_found hnamed _).trans hderives.resolveBase_eq

end InferenceReconciler
