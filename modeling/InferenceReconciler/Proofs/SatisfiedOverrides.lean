import InferenceReconciler.Proofs.DerivedOnce
import InferenceReconciler.Proofs.SharedBodies

/-!
# Overrides that are satisfied

A template that a service with overrides comes to satisfies them, or was found under the name
that is derived from a base and the overrides. The name alone does not tell what is in the
template. Where all templates of such names were derived, the one that was found was derived for
these overrides, unless the digest in its name fails to tell them from those it was derived for.
-/

namespace InferenceReconciler

/-- Every template of the namespace that has the name of a derived one was made by one of these
derivations, each from a base and overrides. -/
def DerivedBy (derivations : List (TemplateRecord × TemplateOverrides))
    (templates : List TemplateRecord) (ofNamespace : String) : Prop :=
  ∀ base ∈ templates, ∀ o : TemplateOverrides, o.isEmpty = false →
    ∀ t ∈ templates, t.scope = .namespaced → t.name = derivedTemplateName base.name (some o) →
      ∃ made ∈ derivations, made.2.isEmpty = false ∧ DerivedRecord made.1 made.2 ofNamespace t

section

variable {derivations : List (TemplateRecord × TemplateOverrides)}
  {templates : List TemplateRecord} {o : TemplateOverrides} {t : TemplateRecord}

/-- What is found under a derived name satisfies the overrides, if it was derived for overrides
that the digest tells from these. -/
theorem satisfies_of_derived_name {base : TemplateRecord} {ofNamespace : String}
    (hderived : DerivedBy derivations templates ofNamespace) (ho : o.isEmpty = false)
    (hbase : base ∈ templates)
    (h : findNamespaced (derivedTemplateName base.name (some o)) ofNamespace templates = some t) :
    satisfies t.spec o = true ∨
      ∃ made ∈ derivations, DigestsCollide 8 [Wire.write o] [Wire.write made.2] := by
  obtain ⟨hscope, hname⟩ := scope_and_name_of_findNamespaced h
  obtain ⟨made, hmade, hnonempty, hrecord⟩ := hderived base hbase o ho t
    (mem_of_findNamespaced h) hscope hname
  rcases overrides_eq_or_collide ho hnonempty (hname.symm.trans hrecord.name) with
    rfl | hcollide
  · rw [hrecord.spec]
    exact Or.inl (satisfies_override made.1.spec made.2)
  · exact Or.inr ⟨made, hmade, hcollide⟩

theorem satisfies_of_observeTemplate {service : ServiceObject} {model : Option ModelRecord}
    {gpus : List String} (ho : service.spec.effectiveOverrides = some o)
    (hderived : DerivedBy derivations templates service.home)
    (h : (observeTemplate service model templates gpus).outcome = .resolved t) :
    satisfies t.spec o = true ∨
      ∃ made ∈ derivations, DigestsCollide 8 [Wire.write o] [Wire.write made.2] := by
  obtain ⟨base, hbase, hleads⟩ := leadsTo_of_observeTemplate h
  rw [ho] at hleads
  cases hleads with
  | itself fits => exact Or.inl fits
  | derived o t asked found =>
    cases asked
    exact satisfies_of_derived_name hderived (isEmpty_of_effectiveOverrides ho) hbase found

end

section

variable {spec : TemplateSpec} {o : TemplateOverrides} {g : GpuSelector}

theorem gpuFits_of_satisfies (h : satisfies spec o = true) (hg : o.gpuSelector = some g) :
    gpuFits spec g = true := by
  simp only [satisfies, hg, Option.all_some, Bool.and_eq_true] at h
  exact h.2

theorem gpuCount_of_gpuFits {n : UInt32} (h : gpuFits spec g = true) (hn : g.count = some n) :
    spec.gpuCount = n := by
  simp only [gpuFits, hn, Bool.and_eq_true, decide_eq_true_eq] at h
  exact h.1.2

theorem gpuModel?_of_gpuFits {wanted : String} (h : gpuFits spec g = true)
    (hw : g.model = some wanted) :
    ∃ model, spec.gpuModel? = some model ∧ GpuModel.canonical model = GpuModel.canonical wanted := by
  simp only [gpuFits, hw, Bool.and_eq_true] at h
  cases hmodel : spec.gpuModel? with
  | none =>
    rw [hmodel] at h
    cases h.1.1
  | some model =>
    rw [hmodel] at h
    exact ⟨model, rfl, of_decide_eq_true h.1.1⟩

theorem resourceName_of_gpuFits {name : String} (h : gpuFits spec g = true)
    (hr : g.resourceName = some name) : spec.gpuSelector.bind (·.resourceName) = some name := by
  simp only [gpuFits, hr, Bool.and_eq_true, decide_eq_true_eq] at h
  exact h.2

end

end InferenceReconciler
