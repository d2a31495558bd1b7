import InferenceReconciler.Proofs.SettledTemplate

/-!
# What a pass reads of the status

A pass reads four things of the status that it starts from: which template is recorded, how
often caches were retried, the names of the resolved model and template, and the reference
to the cache. So two statuses that agree in these give the same projections, whatever
their phases and conditions are.
-/

namespace InferenceReconciler

section

variable (service : ServiceObject) {s s' : ServiceStatus}

theorem observeTemplate_congr (h : s.resolvedTemplate = s'.resolvedTemplate)
    (model : Option ModelRecord) (templates : List TemplateRecord) (gpus : List String) :
    observeTemplate (service.withStatus s) model templates gpus =
      observeTemplate (service.withStatus s') model templates gpus := by
  simp only [observeTemplate, ServiceObject.withStatus, Option.bind_some, h]

theorem observeCaching_congr (h : s.retryAttempts = s'.retryAttempts)
    (template : Option TemplateRecord) (model : Option ModelRecord) (fetched : CacheFetch)
    (config : EffectiveConfig) (intent : CachingIntent) (policy : Policy) :
    observeCaching (service.withStatus s) template model fetched config intent policy =
      observeCaching (service.withStatus s') template model fetched config intent policy := by
  simp only [observeCaching, ServiceObject.withStatus, Option.map_some, h]
  rfl

theorem PathField.value_congr (hm : s.resolvedModel = s'.resolvedModel)
    (ht : s.resolvedTemplate = s'.resolvedTemplate) (field : PathField) :
    field.value (service.withStatus s) = field.value (service.withStatus s') := by
  cases field with
  | resolvedModel => simp only [value, ServiceObject.withStatus, Option.bind_some, hm]
  | resolvedTemplate => simp only [value, ServiceObject.withStatus, Option.bind_some, ht]
  | _ => rfl

theorem observeRoute_congr (hm : s.resolvedModel = s'.resolvedModel)
    (ht : s.resolvedTemplate = s'.resolvedTemplate) (config : EffectiveConfig)
    (existing : Option RouteObject) (policy : Policy) :
    observeRoute (service.withStatus s) config existing policy =
      observeRoute (service.withStatus s') config existing policy := by
  have htext : PathTemplate.Piece.text (service.withStatus s) =
      PathTemplate.Piece.text (service.withStatus s') := by
    funext piece
    cases piece with
    | literal text => rfl
    | placeholder expression =>
      simp only [PathTemplate.Piece.text, PathField.value_congr service hm ht]
  have hpath : routePath (service.withStatus s) = routePath (service.withStatus s') := by
    funext template limit
    simp only [routePath, renderPath, htext]
  simp only [observeRoute, observePath, hpath]
  rfl

end

theorem CachingObservation.projectCaching_noted (o : CachingObservation)
    (prior : Option ServiceCacheStatus) (attempts : UInt32) :
    o.projectCaching
        (some ⟨o.readyReference? <|> prior.bind (·.templateCacheRef), attempts⟩) =
      o.projectCaching prior := by
  have hupdate : o.cacheUpdate
      (some ⟨o.readyReference? <|> prior.bind (·.templateCacheRef), attempts⟩) =
        o.cacheUpdate prior := by
    funext n
    unfold cacheUpdate
    cases h : o.readyReference? with
    | none => simp
    | some ref =>
      unfold readyReference? at h
      simp [h]
  simp only [projectCaching, projectShared, hupdate]

namespace PassInput

variable (i : PassInput)

theorem outcome_next_of_identifies {s : ServiceStatus} {t : TemplateRecord}
    (hid : i.snapshot.templates.Identifies t)
    (ht : (i.observation s).template.outcome = .resolved t) :
    (i.observation (i.next s)).template.outcome = .resolved t := by
  by_cases h : (i.next s).resolvedTemplate = s.resolvedTemplate
  · have hsame : (i.observation (i.next s)).template.outcome =
        (i.observation s).template.outcome :=
      congrArg TemplateObservation.outcome (observeTemplate_congr i.service h _ _ _)
    exact hsame.trans ht
  · obtain ⟨t', ht', -, href⟩ := i.resolvedTemplate_next_of_ne s h
    rw [ht] at ht'
    cases ht'
    exact outcome_observeTemplate_of_reference hid ht href

theorem outcome_next (hd : i.snapshot.templates.NamesDistinct) (s : ServiceStatus) :
    (i.observation (i.next s)).template.outcome = (i.observation s).template.outcome := by
  by_cases h : (i.next s).resolvedTemplate = s.resolvedTemplate
  · exact congrArg TemplateObservation.outcome (observeTemplate_congr i.service h _ _ _)
  · obtain ⟨t, ht, -⟩ := i.resolvedTemplate_next_of_ne s h
    have hid := hd.identifies (mem_of_observeTemplate ht)
    exact (i.outcome_next_of_identifies hid ht).trans ht.symm

variable {i} {s s' : ServiceStatus}

theorem project_template_congr
    (h : (i.observation s).template.outcome = (i.observation s').template.outcome) :
    (i.observation s).template.project = (i.observation s').template.project := by
  unfold TemplateObservation.project
  rw [h]

/-- The components up to the template see the status only through the resolved template. -/
theorem projectionOf_congr_of_lt {c : Component} (hc : c.position < Component.caching.position)
    (h : (i.observation s).template.outcome = (i.observation s').template.outcome) :
    (i.observation s).projectionOf s c = (i.observation s').projectionOf s' c := by
  cases c with
  | config => rfl
  | model => rfl
  | template => exact project_template_congr h
  | caching => exact absurd hc (by decide)
  | storage => exact absurd hc (by decide)
  | runtime => exact absurd hc (by decide)
  | routing => exact absurd hc (by decide)

theorem reached_congr_of_le {c : Component} (hc : c.position ≤ Component.caching.position)
    (h : (i.observation s).template.outcome = (i.observation s').template.outcome) :
    c.Reached (i.blocker? s) ↔ c.Reached (i.blocker? s') := by
  rw [reached_blocker?_iff, reached_blocker?_iff]
  apply forall_congr'
  intro d
  apply imp_congr_right
  intro hd
  rw [projectionOf_congr_of_lt (Nat.lt_of_lt_of_le hd hc) h]

theorem resolved?_congr
    (h : (i.observation s).template.outcome = (i.observation s').template.outcome) :
    (i.observation s).template.resolved? = (i.observation s').template.resolved? := by
  unfold TemplateObservation.resolved?
  rw [h]

theorem ready?_congr
    (h : (i.observation s).template.outcome = (i.observation s').template.outcome) :
    (i.observation s).template.ready? = (i.observation s').template.ready? :=
  congrArg (Option.filter TemplateRecord.isReady) (resolved?_congr h)

theorem caching_congr
    (h : (i.observation s).template.outcome = (i.observation s').template.outcome)
    (ha : s.retryAttempts = s'.retryAttempts) :
    (i.observation s).caching = (i.observation s').caching := by
  have hready := ready?_congr h
  unfold observation observe at hready ⊢
  dsimp only at hready ⊢
  rw [hready]
  exact observeCaching_congr i.service ha _ _ _ _ _ _

theorem runtime_congr
    (h : (i.observation s).template.outcome = (i.observation s').template.outcome)
    (ha : s.retryAttempts = s'.retryAttempts) :
    (i.observation s).runtime = (i.observation s').runtime := by
  have hcaching := caching_congr h ha
  have hresolved := resolved?_congr h
  unfold observation observe at hcaching hresolved ⊢
  dsimp only at hcaching hresolved ⊢
  rw [hcaching, hresolved]
  rfl

theorem route_congr (hm : s.resolvedModel = s'.resolvedModel)
    (ht : s.resolvedTemplate = s'.resolvedTemplate) :
    (i.observation s).route = (i.observation s').route :=
  observeRoute_congr i.service hm ht _ _ _

end PassInput

end InferenceReconciler
