import InferenceReconciler.Proofs.DomainProjections

/-!
# Resolved records

Whatever a pass resolves to was in its snapshot: models, templates and the shared cache are
all picked from lists of the snapshot, whichever way the search went. A projection writes a
reference to such an object only when the object is ready.
-/

namespace InferenceReconciler

theorem eq_some_or_of_orElse {α : Type} {a b : Option α} {x : α} (h : (a <|> b) = some x) :
    a = some x ∨ b = some x := by
  simp only [Option.orElse_eq_orElse, Option.orElse_eq_or, Option.or_eq_some_iff] at h
  exact h.imp_right And.right

theorem mem_of_resolveByName {name : String} {records : List ModelRecord} {m : ModelRecord}
    (h : (resolveByName name records).resolved = some m) : m ∈ records := by
  unfold resolveByName at h
  dsimp only at h
  split at h
  · rename_i r hr
    cases h
    rcases eq_some_or_of_orElse hr with hn | hc
    · exact List.mem_of_find?_eq_some hn
    · exact List.mem_of_find?_eq_some hc
  · cases h

theorem mem_of_resolveImageInScope {image : String} {scope : ResourceScope}
    {records : List ModelRecord} {o : ModelObservation} {m : ModelRecord}
    (ho : resolveImageInScope image scope records = some o) (h : o.resolved = some m) :
    m ∈ records := by
  unfold resolveImageInScope at ho
  split at ho
  · cases ho
  · rename_i r hr
    cases ho
    cases h
    have hmem : m ∈ recordsOfImage image scope records := by rw [hr]; exact List.mem_cons_self
    exact (List.mem_filter.1 hmem).1
  · cases ho
    cases h

theorem mem_of_resolveByImage {image ofNamespace : String} {records : List ModelRecord}
    {m : ModelRecord} (h : (resolveByImage image ofNamespace records).resolved = some m) :
    m ∈ records := by
  unfold resolveByImage at h
  split at h
  · rename_i o ho
    rcases eq_some_or_of_orElse ho with hn | hc
    · exact mem_of_resolveImageInScope hn h
    · exact mem_of_resolveImageInScope hc h
  · split at h <;> cases h

theorem mem_of_resolveCustom {model : CustomModel} {ofNamespace : String}
    {records : List ModelRecord} {m : ModelRecord}
    (h : (resolveCustom model ofNamespace records).resolved = some m) : m ∈ records := by
  unfold resolveCustom at h
  split at h
  · cases h
  · split at h
    · cases h
    · split at h
      · rename_i r hr
        cases h
        exact List.mem_of_find?_eq_some hr
      · cases h

theorem mem_of_observeModel {service : ServiceObject} {records : List ModelRecord}
    {m : ModelRecord} (h : (observeModel service records).resolved = some m) : m ∈ records := by
  unfold observeModel at h
  dsimp only at h
  split at h
  · cases h
  · exact mem_of_resolveByName h
  · exact mem_of_resolveByImage h
  · exact mem_of_resolveCustom h

theorem ModelObservation.ready_of_update {o : ModelObservation} {ref : ResolvedReference}
    (h : o.project.update.resolvedModel = some ref) :
    ∃ m, o.resolved = some m ∧ m.status = .ready ∧ m.reference = ref := by
  unfold project at h
  split at h
  · cases h
  · cases h
  · cases h
  · rename_i m _ _ hm
    unfold ModelRecord.project at h
    split at h
    · rename_i hs
      cases h
      exact ⟨m, hm, hs, rfl⟩
    all_goals cases h

theorem ModelObservation.update_of_not_blocking {o : ModelObservation}
    (h : o.project.blocking = false) :
    ∃ m, o.resolved = some m ∧ m.status = .ready ∧
      o.project.update.resolvedModel = some m.reference := by
  unfold project at h ⊢
  split at h
  · cases h
  · cases h
  · cases h
  · rename_i m _ _ hm
    refine ⟨m, hm, ?_⟩
    unfold ModelRecord.project at h ⊢
    split at h
    · rename_i hs
      exact ⟨hs, rfl⟩
    all_goals cases h

section

variable {templates : List TemplateRecord} {t : TemplateRecord}

theorem mem_of_findNamespaced {name ofNamespace : String}
    (h : findNamespaced name ofNamespace templates = some t) : t ∈ templates :=
  List.mem_of_find?_eq_some h

theorem mem_of_findOfCluster {name : String} (h : findOfCluster name templates = some t) :
    t ∈ templates := List.mem_of_find?_eq_some h

theorem scope_and_name_of_findNamespaced {name ofNamespace : String}
    (h : findNamespaced name ofNamespace templates = some t) :
    t.scope = .namespaced ∧ t.name = name := by
  have hfound := List.find?_some h
  simp only [Bool.and_eq_true, decide_eq_true_eq] at hfound
  exact hfound.1

theorem name_of_findOfCluster {name : String} (h : findOfCluster name templates = some t) :
    t.name = name := by
  have hfound := List.find?_some h
  simp only [Bool.and_eq_true, decide_eq_true_eq] at hfound
  exact hfound.2

theorem mem_and_name_of_named {name ofNamespace : String}
    (h : (findNamespaced name ofNamespace templates <|> findOfCluster name templates) = some t) :
    t ∈ templates ∧ t.name = name := by
  rcases eq_some_or_of_orElse h with hn | hc
  · exact ⟨mem_of_findNamespaced hn, (scope_and_name_of_findNamespaced hn).2⟩
  · exact ⟨mem_of_findOfCluster hc, name_of_findOfCluster hc⟩

theorem mem_of_bestOf (h : bestOf templates = .selected t) : t ∈ templates := by
  unfold bestOf at h
  have hsort : ∀ r, r ∈ (preferNamespaced templates).mergeSort TemplateRecord.noWorse →
      r ∈ templates := fun r hr => mem_preferNamespaced (List.mem_mergeSort.1 hr)
  split at h
  · cases h
  · rename_i only hs
    cases h
    exact hsort t (by rw [hs]; exact List.mem_cons_self)
  · rename_i first second rest hs
    split at h
    · cases h
    · cases h
      exact hsort t (by rw [hs]; exact List.mem_cons_self)

theorem mem_of_selectByHealth (h : selectByHealth templates = .selected t) : t ∈ templates := by
  unfold selectByHealth at h
  dsimp only at h
  split at h
  · exact (List.mem_filter.1 (mem_of_bestOf h)).1
  · split at h
    · cases h
    · split at h <;> cases h

theorem mem_of_availableOn {gpus : List String} (h : t ∈ availableOn gpus templates) :
    t ∈ templates := by
  unfold availableOn at h
  split at h
  · exact h
  · exact (List.mem_filter.1 h).1

theorem mem_filter_of_selectTemplate {overrides : Option TemplateOverrides} {gpus : List String}
    (h : selectTemplate templates overrides gpus = .selected t) :
    t ∈ templates.filter fun t => overrides.all fun o => satisfies t.spec o := by
  unfold selectTemplate at h
  dsimp only at h
  split at h
  · cases h
  · split at h
    · cases h
    · split at h
      · cases h
      · exact mem_of_availableOn (mem_of_selectByHealth h)

theorem mem_of_selectTemplate {overrides : Option TemplateOverrides} {gpus : List String}
    (h : selectTemplate templates overrides gpus = .selected t) : t ∈ templates :=
  (List.mem_filter.1 (mem_filter_of_selectTemplate h)).1

theorem mem_candidatesFor_iff {model : ModelRecord} :
    t ∈ candidatesFor model templates ↔
      t ∈ templates ∧ t.spec.modelName = model.name ∧ isDerived t = false := by
  simp [candidatesFor]

theorem mem_of_candidatesFor {model : ModelRecord} (h : t ∈ candidatesFor model templates) :
    t ∈ templates := (mem_candidatesFor_iff.1 h).1

/-- What a base leads to: itself if it satisfies the overrides, or what stands in the namespace
under the name that is derived from it. -/
inductive LeadsTo (base : TemplateRecord) (overrides : Option TemplateOverrides)
    (templates : List TemplateRecord) (ofNamespace : String) : TemplateRecord → Prop where
  | itself (fits : (overrides.all fun o => satisfies base.spec o) = true) :
      LeadsTo base overrides templates ofNamespace base
  | derived (o : TemplateOverrides) (t : TemplateRecord) (asked : overrides = some o)
      (found : findNamespaced (derivedTemplateName base.name (some o)) ofNamespace templates =
        some t) : LeadsTo base overrides templates ofNamespace t

theorem resolveBase_eq_resolved {base : TemplateRecord} {overrides : Option TemplateOverrides}
    {ofNamespace : String} (h : resolveBase base overrides templates ofNamespace = .resolved t) :
    LeadsTo base overrides templates ofNamespace t := by
  unfold resolveBase at h
  split at h
  · cases h
    exact .itself rfl
  · split at h
    · rename_i o hfits
      cases h
      exact .itself hfits
    · split at h
      · rename_i found hfound
        cases h
        exact .derived _ _ rfl hfound
      · cases h

theorem resolveNamed_eq_resolved {name ofNamespace : String}
    {overrides : Option TemplateOverrides}
    (h : resolveNamed name overrides templates ofNamespace = .resolved t) :
    ∃ base, (findNamespaced name ofNamespace templates <|> findOfCluster name templates) =
        some base ∧ LeadsTo base overrides templates ofNamespace t := by
  unfold resolveNamed at h
  split at h
  · rename_i base hbase
    exact ⟨base, hbase, resolveBase_eq_resolved h⟩
  · cases h

theorem deriveFromBest_eq_resolved {model : ModelRecord} {o : TemplateOverrides}
    {candidates : List TemplateRecord} {gpus : List String} {ofNamespace : String}
    (h : deriveFromBest model o candidates templates gpus ofNamespace = some (.resolved t)) :
    ∃ base ∈ candidates, LeadsTo base (some o) templates ofNamespace t := by
  unfold deriveFromBest at h
  split at h
  · cases h
  · split at h
    · rename_i base hbase
      exact ⟨base, mem_of_selectTemplate hbase, resolveBase_eq_resolved (Option.some.inj h)⟩
    · cases h
    · cases h

theorem resolveBest_eq_resolved {model : ModelRecord} {overrides : Option TemplateOverrides}
    {gpus : List String} {ofNamespace : String}
    (h : resolveBest model overrides templates gpus ofNamespace = .resolved t) :
    ∃ base ∈ candidatesFor model templates, LeadsTo base overrides templates ofNamespace t := by
  unfold resolveBest at h
  dsimp only at h
  split at h
  · rename_i best hbest
    cases h
    obtain ⟨hmem, hfits⟩ := List.mem_filter.1 (mem_filter_of_selectTemplate hbest)
    exact ⟨t, hmem, .itself hfits⟩
  · cases h
  · split at h
    · cases hd : overrides.bind fun o =>
          deriveFromBest model o (candidatesFor model templates) templates gpus ofNamespace with
      | none =>
        rw [hd] at h
        cases h
      | some outcome =>
        rw [hd] at h
        cases h
        obtain ⟨o, rfl, ho⟩ := Option.bind_eq_some_iff.1 hd
        obtain ⟨base, hbase, hleads⟩ := deriveFromBest_eq_resolved ho
        exact ⟨base, hbase, hleads⟩
    · cases h

theorem recorded?_eq_some_iff {prior : Option ResolvedReference} {model : ModelRecord}
    {named : Option String} {overrides : Option TemplateOverrides} :
    recorded? prior model named overrides templates = some t ↔
      (∃ ref, prior = some ref ∧ templates.find? (fun r => r.isReferredBy ref) = some t) ∧
        stillFits t model named overrides = true := by
  cases prior with
  | none => simp [recorded?]
  | some ref =>
    cases hf : templates.find? fun r => r.isReferredBy ref with
    | none => simp [recorded?, hf]
    | some r =>
      by_cases hr : stillFits r model named overrides = true
      · simp only [recorded?, hf, Option.bind_eq_bind, Option.bind_some, if_pos hr,
          Option.some.injEq, exists_eq_left']
        exact ⟨fun he => ⟨he, he ▸ hr⟩, fun he => he.1⟩
      · simp only [recorded?, hf, Option.bind_eq_bind, Option.bind_some, if_neg hr,
          Option.some.injEq, exists_eq_left', reduceCtorEq, false_iff, not_and]
        exact fun he => he ▸ hr

theorem mem_of_recorded? {prior : Option ResolvedReference} {model : ModelRecord}
    {named : Option String} {overrides : Option TemplateOverrides}
    (h : recorded? prior model named overrides templates = some t) : t ∈ templates := by
  obtain ⟨⟨ref, -, hf⟩, -⟩ := recorded?_eq_some_iff.1 h
  exact List.mem_of_find?_eq_some hf

end

/-- What a service gets that has no recorded template of use. -/
def searchedTemplate (service : ServiceObject) (model : ModelRecord)
    (templates : List TemplateRecord) (gpus : List String) : TemplateOutcome :=
  let ofNamespace := service.metadata.namespace.getD ""
  let overrides := service.spec.effectiveOverrides
  match trimmed? service.spec.templateName with
  | some name => resolveNamed name overrides templates ofNamespace
  | none => resolveBest model overrides templates gpus ofNamespace

theorem searchedTemplate_eq_resolved {service : ServiceObject} {model : ModelRecord}
    {templates : List TemplateRecord} {gpus : List String} {t : TemplateRecord}
    (h : searchedTemplate service model templates gpus = .resolved t) :
    ∃ base ∈ templates, LeadsTo base service.spec.effectiveOverrides templates
      (service.metadata.namespace.getD "") t := by
  unfold searchedTemplate at h
  dsimp only at h
  split at h
  · obtain ⟨base, hbase, hleads⟩ := resolveNamed_eq_resolved h
    exact ⟨base, (mem_and_name_of_named hbase).1, hleads⟩
  · obtain ⟨base, hbase, hleads⟩ := resolveBest_eq_resolved h
    exact ⟨base, mem_of_candidatesFor hbase, hleads⟩

/-- With a ready model, the recorded template is kept and otherwise one is searched. -/
theorem observeTemplate_of_ready (service : ServiceObject) {model : ModelRecord}
    (hm : model.status.isReady = true) (templates : List TemplateRecord) (gpus : List String) :
    observeTemplate service (some model) templates gpus =
      match recorded? (service.status.bind (·.resolvedTemplate)) model
          (trimmed? service.spec.templateName) service.spec.effectiveOverrides templates with
      | some t => ⟨.resolved t, true⟩
      | none => ⟨searchedTemplate service model templates gpus, false⟩ := by
  simp only [observeTemplate, Option.filter_some, hm, if_true, searchedTemplate]
  cases recorded? (service.status.bind (·.resolvedTemplate)) model
      (trimmed? service.spec.templateName) service.spec.effectiveOverrides templates with
  | some t => rfl
  | none => cases trimmed? service.spec.templateName <;> rfl

theorem outcome_observeTemplate (service : ServiceObject) {model : ModelRecord}
    (hm : model.status.isReady = true) (templates : List TemplateRecord) (gpus : List String) :
    (observeTemplate service (some model) templates gpus).outcome =
      match recorded? (service.status.bind (·.resolvedTemplate)) model
          (trimmed? service.spec.templateName) service.spec.effectiveOverrides templates with
      | some t => .resolved t
      | none => searchedTemplate service model templates gpus := by
  rw [observeTemplate_of_ready service hm]
  split <;> rfl

theorem outcome_observeTemplate_of_not_ready (service : ServiceObject)
    {model : Option ModelRecord} (hm : model.filter (fun m => m.status.isReady) = none)
    (templates : List TemplateRecord) (gpus : List String) :
    (observeTemplate service model templates gpus).outcome = .waitingForModel := by
  simp only [observeTemplate, hm]

/-- Whatever a service is resolved to, one of the templates leads to it. A recorded template leads
to itself. -/
theorem leadsTo_of_observeTemplate {service : ServiceObject} {model : Option ModelRecord}
    {templates : List TemplateRecord} {gpus : List String} {t : TemplateRecord}
    (h : (observeTemplate service model templates gpus).outcome = .resolved t) :
    ∃ base ∈ templates, LeadsTo base service.spec.effectiveOverrides templates
      (service.metadata.namespace.getD "") t := by
  cases hm : model.filter fun m => m.status.isReady with
  | none =>
    rw [outcome_observeTemplate_of_not_ready service hm] at h
    cases h
  | some m =>
    obtain ⟨rfl, hr⟩ := Option.filter_eq_some_iff.1 hm
    rw [outcome_observeTemplate service hr] at h
    split at h
    · rename_i r hrec
      cases h
      have hfit := (recorded?_eq_some_iff.1 hrec).2
      simp only [stillFits, Bool.and_eq_true] at hfit
      exact ⟨t, mem_of_recorded? hrec, .itself hfit.1.2⟩
    · exact searchedTemplate_eq_resolved h

theorem mem_of_observeTemplate {service : ServiceObject} {model : Option ModelRecord}
    {templates : List TemplateRecord} {gpus : List String} {t : TemplateRecord}
    (h : (observeTemplate service model templates gpus).outcome = .resolved t) :
    t ∈ templates := by
  obtain ⟨base, hbase, hleads⟩ := leadsTo_of_observeTemplate h
  cases hleads with
  | itself fits => exact hbase
  | derived o t asked found => exact mem_of_findNamespaced found

theorem TemplateObservation.ready_of_update {o : TemplateObservation} {ref : ResolvedReference}
    (h : o.project.update.resolvedTemplate = some ref) :
    ∃ t, o.outcome = .resolved t ∧ t.isReady = true ∧ t.reference = ref := by
  unfold project at h
  split at h
  · cases h
  · cases h
  · cases h
  · cases h
  · rename_i t ht
    unfold TemplateRecord.project at h
    split at h
    · rename_i hs
      cases h
      exact ⟨t, ht, by simp [TemplateRecord.isReady, LifecycleStatus.isReady, hs], rfl⟩
    all_goals cases h

theorem TemplateObservation.update_of_not_blocking {o : TemplateObservation}
    (h : o.project.blocking = false) :
    ∃ t, o.outcome = .resolved t ∧ t.status.status = .ready ∧
      o.project.update.resolvedTemplate = some t.reference := by
  unfold project at h ⊢
  split at h
  · cases h
  · cases h
  · cases h
  · cases h
  · rename_i t ht
    refine ⟨t, ht, ?_⟩
    unfold TemplateRecord.project at h ⊢
    split at h
    · rename_i hs
      exact ⟨hs, rfl⟩
    all_goals cases h

end InferenceReconciler
