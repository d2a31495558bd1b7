import InferenceReconciler.Proofs.ArrivedObjects

/-!
# Templates derived once

A template that was derived for a service is the one that the service gets once it is there. It
satisfies the overrides that it was derived for. No lookup but that of its own name sees it: it is
labelled as derived, so it is no candidate for the best template, and the base is what it was
before.
-/

namespace InferenceReconciler

theorem sameWord_self (w : String) : sameWord w w = true := decide_eq_true rfl

theorem wordFits_orElse (wanted offered : Option String) :
    wordFits wanted (wanted <|> offered) = true := by
  cases wanted with
  | none => rfl
  | some w => exact sameWord_self w

theorem gpuFits_override (base : TemplateSpec) (o : TemplateOverrides) {g : GpuSelector}
    (h : o.gpuSelector = some g) : gpuFits (base.override o) g = true := by
  obtain ⟨model, count, resource⟩ := g
  unfold gpuFits TemplateSpec.gpuModel? TemplateSpec.gpuCount TemplateSpec.override
    GpuSelector.override
  rw [h]
  cases model <;> cases count <;> cases resource <;> simp

theorem satisfies_override (base : TemplateSpec) (o : TemplateOverrides) :
    satisfies (base.override o) o = true := by
  have hmetric : wordFits o.metric (base.override o).metric = true := wordFits_orElse _ _
  have hprecision : wordFits o.precision (base.override o).precision = true :=
    wordFits_orElse _ _
  unfold satisfies
  rw [hmetric, hprecision]
  cases hgpu : o.gpuSelector with
  | none => rfl
  | some g => simpa using gpuFits_override base o hgpu

theorem ne_of_mem_labelIfLegal {key text k : String} (h : key ≠ k) :
    ∀ e ∈ labelIfLegal key text, e.1 ≠ k := by
  intro e he
  unfold labelIfLegal at he
  split at he
  · rw [List.mem_singleton.1 he]
    exact h
  · cases he

theorem find?_labels_derivedTemplate (base : TemplateRecord) (o : TemplateOverrides)
    (ofNamespace : String) :
    ((derivedTemplate base o ofNamespace).metadata.labels.getD {}).find? Labels.derivedTemplate =
      some "true" := by
  have hmodel : ∀ e ∈ labelIfLegal Labels.model base.spec.modelName,
      e.1 ≠ Labels.derivedTemplate := ne_of_mem_labelIfLegal (by decide)
  have htemplate : ∀ e ∈ labelIfLegal Labels.template base.name,
      e.1 ≠ Labels.derivedTemplate := ne_of_mem_labelIfLegal (by decide)
  simp only [derivedTemplate, Option.getD_some, Dict.ofList, List.foldl_append]
  rw [Dict.find?_foldl_insert_of_ne htemplate, Dict.find?_foldl_insert_of_ne hmodel]
  rfl

/-- The record of a template that was derived, whatever its status. -/
structure DerivedRecord (base : TemplateRecord) (o : TemplateOverrides) (ofNamespace : String)
    (d : TemplateRecord) : Prop where
  name : d.name = derivedTemplateName base.name (some o)
  ofNamespace : d.namespace = some ofNamespace
  scope : d.scope = .namespaced
  spec : d.spec = base.spec.override o
  derived : isDerived d = true

theorem derivedRecord_arrived (base : TemplateRecord) (o : TemplateOverrides)
    (ofNamespace : String) (uid : Option String) (status : Option TemplateStatus) :
    DerivedRecord base o ofNamespace
      (.ofObject .namespaced ((derivedTemplate base o ofNamespace).arrived uid status)) where
  name := displayName_derivedTemplate base o ofNamespace
  ofNamespace := rfl
  scope := rfl
  spec := rfl
  derived := by
    have hlabel := find?_labels_derivedTemplate base o ofNamespace
    simp only [isDerived, TemplateRecord.ofObject, CustomObject.arrived, hlabel, decide_true]

section

variable {before behind : List TemplateRecord} {d : TemplateRecord}

theorem find?_append_cons (q : TemplateRecord → Bool) :
    (before ++ d :: behind).find? q =
      if q d then (before.find? q).or (some d) else (before ++ behind).find? q := by
  rw [List.find?_append, List.find?_append, List.find?_cons]
  cases q d <;> rfl

theorem findNamespaced_arrived {ofNamespace : String} (hscope : d.scope = .namespaced)
    (hnamespace : d.namespace = some ofNamespace)
    (h : findNamespaced d.name ofNamespace (before ++ behind) = none) :
    findNamespaced d.name ofNamespace (before ++ d :: behind) = some d := by
  unfold findNamespaced at h ⊢
  rw [List.find?_append, Option.or_eq_none_iff] at h
  rw [find?_append_cons, if_pos (by simp [hscope, hnamespace]), h.1, Option.none_or]

theorem findNamespaced_arrived_of_ne {name : String} (h : d.name ≠ name) (ofNamespace : String) :
    findNamespaced name ofNamespace (before ++ d :: behind) =
      findNamespaced name ofNamespace (before ++ behind) := by
  unfold findNamespaced
  rw [find?_append_cons, if_neg (by simp [h])]

theorem findOfCluster_arrived (h : d.scope = .namespaced) (name : String) :
    findOfCluster name (before ++ d :: behind) = findOfCluster name (before ++ behind) := by
  unfold findOfCluster
  rw [find?_append_cons, if_neg (by simp [h])]

theorem candidatesFor_arrived (h : isDerived d = true) (model : ModelRecord) :
    candidatesFor model (before ++ d :: behind) = candidatesFor model (before ++ behind) := by
  unfold candidatesFor
  rw [List.filter_append, List.filter_append, List.filter_cons_of_neg (by simp [h])]

theorem eq_of_recorded?_arrived {prior : Option ResolvedReference} {model : ModelRecord}
    {named : Option String} {overrides : Option TemplateOverrides} {t : TemplateRecord}
    (h : recorded? prior model named overrides (before ++ behind) = none)
    (ht : recorded? prior model named overrides (before ++ d :: behind) = some t) : t = d := by
  obtain ⟨⟨ref, href, hfind⟩, hfits⟩ := recorded?_eq_some_iff.1 ht
  have hnot : (before ++ behind).find? (fun r => r.isReferredBy ref) ≠ some t := by
    intro hfound
    rw [recorded?_eq_some_iff.2 ⟨⟨ref, href, hfound⟩, hfits⟩] at h
    cases h
  rw [find?_append_cons] at hfind
  split at hfind
  · cases hbefore : before.find? (fun r => r.isReferredBy ref) with
    | none =>
      rw [hbefore, Option.none_or] at hfind
      exact (Option.some.inj hfind).symm
    | some r =>
      rw [hbefore, Option.some_or] at hfind
      rw [List.find?_append, hbefore, Option.some_or] at hnot
      exact absurd hfind hnot
  · exact absurd hfind hnot

variable {base : TemplateRecord} {o : TemplateOverrides} {overrides : Option TemplateOverrides}
  {ofNamespace : String}

theorem resolveBase_arrived (hd : DerivedRecord base o ofNamespace d)
    (h : Derives base overrides (before ++ behind) ofNamespace o) :
    resolveBase base overrides (before ++ d :: behind) ofNamespace = .resolved d := by
  have hmissing := h.missing
  rw [← hd.name] at hmissing
  have hfound := findNamespaced_arrived hd.scope hd.ofNamespace hmissing
  rw [hd.name] at hfound
  simp [resolveBase, h.overrides, h.unsatisfied, hfound]

theorem resolveBase_self (hd : DerivedRecord base o ofNamespace d) (l : List TemplateRecord) :
    resolveBase d (some o) l ofNamespace = .resolved d := by
  have hsatisfied : satisfies d.spec o = true := by
    rw [hd.spec]
    exact satisfies_override base.spec o
  simp [resolveBase, hsatisfied]

theorem resolveNamed_arrived {name : String} (hd : DerivedRecord base o ofNamespace d)
    (hbase : (findNamespaced name ofNamespace (before ++ behind) <|>
      findOfCluster name (before ++ behind)) = some base)
    (h : Derives base overrides (before ++ behind) ofNamespace o) :
    resolveNamed name overrides (before ++ d :: behind) ofNamespace = .resolved d := by
  unfold resolveNamed
  by_cases hname : d.name = name
  · have hmissing := h.missing
    rw [← hd.name] at hmissing
    rw [← hname, findNamespaced_arrived hd.scope hd.ofNamespace hmissing, h.overrides]
    exact resolveBase_self hd _
  · rw [findNamespaced_arrived_of_ne hname, findOfCluster_arrived hd.scope, hbase]
    exact resolveBase_arrived hd h

theorem resolveBest_arrived {model : ModelRecord} {gpus : List String}
    (hd : DerivedRecord base o ofNamespace d)
    (hbest : DerivesBest model base (before ++ behind) gpus o)
    (h : Derives base overrides (before ++ behind) ofNamespace o) :
    resolveBest model overrides (before ++ d :: behind) gpus ofNamespace = .resolved d := by
  obtain ⟨p, hrefused, hreason⟩ := hbest.refused
  have hresolved := resolveBase_arrived hd h
  rw [h.overrides] at hresolved
  have hderived : deriveFromBest model o (candidatesFor model (before ++ behind))
      (before ++ d :: behind) gpus ofNamespace = some (.resolved d) := by
    unfold deriveFromBest
    rw [hbest.provided, hbest.best]
    exact congrArg some hresolved
  unfold resolveBest
  rw [candidatesFor_arrived hd.derived, h.overrides]
  simp [hrefused, hreason, hderived]

end

theorem searchedTemplate_arrived {service : ServiceObject} {model : ModelRecord}
    {before behind : List TemplateRecord} {gpus : List String} {object : TemplateObject}
    (h : searchedTemplate service model (before ++ behind) gpus = .deriving object)
    (uid : Option String) (status : Option TemplateStatus) :
    searchedTemplate service model
        (before ++ .ofObject .namespaced (object.arrived uid status) :: behind) gpus =
      .resolved (.ofObject .namespaced (object.arrived uid status)) := by
  unfold searchedTemplate at h ⊢
  dsimp only at h ⊢
  split at h
  · obtain ⟨base, o, hbase, hderives, rfl⟩ := resolveNamed_eq_deriving h
    exact resolveNamed_arrived (derivedRecord_arrived base o _ uid status) hbase hderives
  · obtain ⟨base, o, hbest, hderives, rfl⟩ := resolveBest_eq_deriving h
    exact resolveBest_arrived (derivedRecord_arrived base o _ uid status) hbest hderives

/-- The template that was derived for a service is the one it gets once it has arrived. -/
theorem outcome_observeTemplate_arrived {service : ServiceObject} {model : Option ModelRecord}
    {before behind : List TemplateRecord} {gpus : List String} {object : TemplateObject}
    (h : (observeTemplate service model (before ++ behind) gpus).outcome = .deriving object)
    (uid : Option String) (status : Option TemplateStatus) :
    (observeTemplate service model
        (before ++ .ofObject .namespaced (object.arrived uid status) :: behind) gpus).outcome =
      .resolved (.ofObject .namespaced (object.arrived uid status)) := by
  have hcreated : (observeTemplate service model (before ++ behind) gpus).toCreate? =
      some object := by
    unfold TemplateObservation.toCreate?
    rw [h]
  obtain ⟨m, rfl, hready, hrecorded, hsearched⟩ := searched_of_toCreate? hcreated
  rw [outcome_observeTemplate service hready]
  split
  · rename_i t ht
    rw [eq_of_recorded?_arrived hrecorded ht]
  · exact searchedTemplate_arrived hsearched uid status

end InferenceReconciler
