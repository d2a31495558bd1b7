import InferenceReconciler.Proofs.StatusRun
import Mathlib.Data.List.Nodup
import Mathlib.Data.Prod.Basic

/-!
# The recorded template

Where no two templates of one scope share a name, a reference points at one template only.
So the template of a pass, once its reference is in the status, is the template of the next
pass over the same cluster: it is kept if it still fits, and found again if it does not.
-/

namespace InferenceReconciler

/-- No two templates of one scope share a name. -/
def NamesUnique (l : List TemplateRecord) : Prop := (l.map fun t => (t.scope, t.name)).Nodup

theorem NamesUnique.find?_isReferredBy {templates : List TemplateRecord} {t : TemplateRecord}
    (h : NamesUnique templates) (ht : t ∈ templates) {ref : ResolvedReference}
    (href : t.isReferredBy ref = true) :
    templates.find? (fun r => r.isReferredBy ref) = some t := by
  cases hfind : templates.find? fun r => r.isReferredBy ref with
  | none => exact absurd href (List.find?_eq_none.1 hfind t ht)
  | some r =>
    have hr := List.find?_some hfind
    simp only [TemplateRecord.isReferredBy, Bool.and_eq_true, decide_eq_true_eq] at hr href
    have hkey : (r.scope, r.name) = (t.scope, t.name) := by
      rw [hr.1.1.2, hr.1.1.1, href.1.1.2, href.1.1.1]
    rw [List.inj_on_of_nodup_map h (List.mem_of_find?_eq_some hfind) ht hkey]

namespace TemplateFetch

/-- No two templates of one scope share a name. -/
structure NamesDistinct (f : TemplateFetch) : Prop where
  ofNamespace : (f.ofNamespace.map (·.displayName)).Nodup
  ofCluster : (f.ofCluster.map (·.displayName)).Nodup

/-- The reference to the template leads back to it. -/
def Identifies (f : TemplateFetch) (t : TemplateRecord) : Prop :=
  f.records.find? (fun r => r.isReferredBy t.reference) = some t

theorem NamesDistinct.namesUnique {f : TemplateFetch} (h : f.NamesDistinct) :
    NamesUnique f.records := by
  have hscope : ∀ (scope : ResourceScope) (objects : List TemplateObject),
      (objects.map (·.displayName)).Nodup →
        ((objects.map (TemplateRecord.ofObject scope)).map fun t => (t.scope, t.name)).Nodup := by
    intro scope objects hnames
    have hmap := hnames.map (Prod.mk_right_injective scope)
    rw [List.map_map] at hmap ⊢
    exact hmap
  unfold NamesUnique records
  rw [List.map_append, List.nodup_append]
  refine ⟨hscope .namespaced _ h.ofNamespace, hscope .cluster _ h.ofCluster, ?_⟩
  intro a ha b hb hab
  simp only [List.map_map, List.mem_map, Function.comp_apply] at ha hb
  obtain ⟨x, -, rfl⟩ := ha
  obtain ⟨y, -, rfl⟩ := hb
  cases congrArg Prod.fst hab

theorem NamesDistinct.identifies {f : TemplateFetch} (hd : f.NamesDistinct)
    {t : TemplateRecord} (ht : t ∈ f.records) : f.Identifies t :=
  hd.namesUnique.find?_isReferredBy ht t.isReferredBy_reference

end TemplateFetch

variable {service : ServiceObject} {f : TemplateFetch} {gpus : List String}

/-- The template found in one pass is found again in a pass that starts from its reference. -/
theorem outcome_observeTemplate_of_reference {model : Option ModelRecord}
    {s s' : ServiceStatus} {t : TemplateRecord} (hid : f.Identifies t)
    (h : (observeTemplate (service.withStatus s) model f.records gpus).outcome = .resolved t)
    (href : s'.resolvedTemplate = some t.reference) :
    (observeTemplate (service.withStatus s') model f.records gpus).outcome = .resolved t := by
  cases hm : model.filter fun m => m.status.isReady with
  | none =>
    rw [outcome_observeTemplate_of_not_ready _ hm] at h
    cases h
  | some m =>
    obtain ⟨rfl, hr⟩ := Option.filter_eq_some_iff.1 hm
    rw [outcome_observeTemplate _ hr] at h ⊢
    have hprior : (service.withStatus s').status.bind (·.resolvedTemplate) =
        some t.reference := href
    rw [hprior]
    by_cases hfit : stillFits t m (trimmed? service.spec.templateName)
        service.spec.effectiveOverrides = true
    · have hrec := recorded?_eq_some_iff.2 ⟨⟨_, rfl, hid⟩, hfit⟩
      simp only [ServiceObject.withStatus, hrec]
    · have hrec : recorded? (some t.reference) m (trimmed? service.spec.templateName)
          service.spec.effectiveOverrides f.records = none := by
        apply Option.eq_none_iff_forall_ne_some.2
        intro r hr'
        obtain ⟨⟨ref, href', hfind⟩, hrfit⟩ := recorded?_eq_some_iff.1 hr'
        cases href'
        rw [hid] at hfind
        cases hfind
        exact hfit hrfit
      simp only [ServiceObject.withStatus, hrec]
      split at h
      · rename_i r hr'
        cases h
        exact absurd (recorded?_eq_some_iff.1 hr').2 hfit
      · exact h

end InferenceReconciler
