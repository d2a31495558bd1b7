import InferenceReconciler.Proofs.ReachedProjections

/-!
# Projections of the domains

The projection of each component reports in its own condition and writes its own field of
the status. So each field of the next status comes from one component, provided that it is
reached, and is otherwise the field of the status before.
-/

namespace InferenceReconciler

/-- The projection reports for the component and writes no field of another one. -/
structure Projection.BelongsTo (p : Projection) (c : Component) : Prop where
  component? : p.report.component? = some c
  resolvedRuntimeConfig : c ≠ .config → p.update.resolvedRuntimeConfig = none
  resolvedModel : c ≠ .model → p.update.resolvedModel = none
  resolvedTemplate : c ≠ .template → p.update.resolvedTemplate = none
  cache : c ≠ .caching → p.update.cache = none
  routing : c ≠ .routing → p.update.routing = none

namespace Projection.BelongsTo

variable {c : Component}

theorem of {h : ComponentHealth} (hc : h.component = c) (blocking : Bool) :
    (Projection.of h blocking).BelongsTo c :=
  ⟨congrArg some hc, fun _ => rfl, fun _ => rfl, fun _ => rfl, fun _ => rfl, fun _ => rfl⟩

theorem notApplicable (c : Component) : (Projection.notApplicable c).BelongsTo c :=
  ⟨rfl, fun _ => rfl, fun _ => rfl, fun _ => rfl, fun _ => rfl, fun _ => rfl⟩

end Projection.BelongsTo

theorem ConfigObservation.project_belongsTo (o : ConfigObservation) :
    o.project.BelongsTo .config := by
  unfold project
  split
  · exact .of rfl true
  · constructor <;> simp [Projection.withUpdate, Projection.of, StatusUpdate.none,
      Report.component?, ComponentHealth.ready]

theorem ModelRecord.project_belongsTo (r : ModelRecord) : r.project.BelongsTo .model := by
  unfold project
  split
  · constructor <;> simp [Projection.withUpdate, Projection.of, StatusUpdate.none,
      Report.component?, ComponentHealth.ready]
  all_goals exact .of rfl true

theorem ModelObservation.project_belongsTo (o : ModelObservation) :
    o.project.BelongsTo .model := by
  unfold project
  split
  · exact .of rfl true
  · exact .of rfl true
  · exact .of rfl true
  · exact ModelRecord.project_belongsTo _

theorem TemplateRecord.project_belongsTo (t : TemplateRecord) :
    t.project.BelongsTo .template := by
  unfold project
  split
  · constructor <;> simp [Projection.withUpdate, Projection.of, StatusUpdate.none,
      Report.component?, ComponentHealth.ready]
  all_goals exact .of rfl true

theorem TemplateObservation.project_belongsTo (o : TemplateObservation) :
    o.project.BelongsTo .template := by
  unfold project
  split
  · exact .of rfl true
  · exact .of rfl true
  · exact .of rfl true
  · exact .of rfl true
  · exact TemplateRecord.project_belongsTo _

namespace CachingObservation

theorem withUpdate_cacheUpdate_belongsTo (o : CachingObservation) {h : ComponentHealth}
    (hc : h.component = .caching) (blocking : Bool) (prior : Option ServiceCacheStatus)
    (attempts : UInt32) :
    ((Projection.of h blocking).withUpdate (o.cacheUpdate prior attempts)).BelongsTo
      .caching := by
  constructor <;> simp [Projection.withUpdate, Projection.of, cacheUpdate, StatusUpdate.none,
    Report.component?, hc]

theorem projectShared_belongsTo (o : CachingObservation) (c : SharedCache)
    (prior : Option ServiceCacheStatus) : (o.projectShared c prior).BelongsTo .caching := by
  unfold projectShared
  dsimp only
  split
  · exact o.withUpdate_cacheUpdate_belongsTo rfl false prior _
  · split
    · exact o.withUpdate_cacheUpdate_belongsTo rfl true prior _
    · split
      · exact o.withUpdate_cacheUpdate_belongsTo rfl false prior _
      · exact .of rfl true
  · exact .of rfl true

theorem projectCaching_belongsTo (o : CachingObservation) (prior : Option ServiceCacheStatus) :
    (o.projectCaching prior).BelongsTo .caching := by
  unfold projectCaching
  split
  · exact .of rfl true
  · split
    · exact .of rfl false
    · exact .notApplicable .caching
  · split
    · exact .of rfl true
    · exact o.projectShared_belongsTo _ prior

theorem projectStorage_belongsTo (o : CachingObservation) :
    o.projectStorage.BelongsTo .storage := by
  unfold projectStorage
  split
  · exact .notApplicable .storage
  · split
    · exact .of rfl true
    · split
      · exact .of rfl false
      · split
        · exact .of rfl false
        · exact .of rfl false

end CachingObservation

namespace RuntimeObservation

theorem component_failureHealth? {o : RuntimeObservation} {existing : InferenceService}
    {h : ComponentHealth} (hh : o.failureHealth? existing = some h) :
    h.component = .runtime := by
  unfold failureHealth? at hh
  split at hh
  · cases hh
    rfl
  · cases hh
    rfl
  · cases hh

theorem component_health (o : RuntimeObservation) : o.health.component = .runtime := by
  unfold health
  split
  · rename_i existing _
    split
    · rfl
    · cases hf : o.failureHealth? existing with
      | none => rfl
      | some h => exact component_failureHealth? hf
  · split <;> rfl

theorem project_belongsTo (o : RuntimeObservation) : o.project.BelongsTo .runtime :=
  .of o.component_health false

end RuntimeObservation

namespace RouteObservation

theorem projectPath_belongsTo (o : RouteObservation) (path : String) :
    (o.projectPath path).BelongsTo .routing := by
  unfold projectPath
  split
  · exact .of rfl false
  · split
    · exact .of rfl false
    · constructor <;> simp [Projection.withUpdate, Projection.of, StatusUpdate.none,
        Report.component?, ComponentHealth.ready]

theorem project_belongsTo (o : RouteObservation) : o.project.BelongsTo .routing := by
  unfold project
  split
  · split
    · exact .of rfl true
    · exact .of rfl true
    · exact o.projectPath_belongsTo _
  · exact .notApplicable .routing

end RouteObservation

def ServiceObject.lastStatus (service : ServiceObject) : ServiceStatus :=
  service.status.getD .initial

theorem ServiceObject.retryAttempts_lastStatus (service : ServiceObject) :
    service.lastStatus.retryAttempts = (service.status.map (·.retryAttempts)).getD 0 := by
  unfold lastStatus
  cases service.status <;> rfl

/-- A field of the status that one component writes is, after a fold, what that component
wrote if it took part. -/
theorem foldl_apply_field {α : Type} {g : ServiceStatus → Option α}
    {u : StatusUpdate → Option α}
    (hg : ∀ p now s, g (Projection.apply p now s) = (u p.update <|> g s))
    {f : Component → Projection} {owner : Component}
    (hu : ∀ c, c ≠ owner → u (f c).update = none) (now : Timestamp) (cs : List Component)
    (hn : cs.Nodup) (s : ServiceStatus) :
    g ((cs.map f).foldl (fun s p => p.apply now s) s) =
      ((if owner ∈ cs then u (f owner).update else none) <|> g s) := by
  induction cs generalizing s with
  | nil => simp
  | cons c rest ih =>
    rw [List.nodup_cons] at hn
    rw [List.map_cons, List.foldl_cons, ih hn.2, hg]
    by_cases hc : c = owner
    · subst hc
      simp [hn.1]
    · simp [hu c hc, show owner ≠ c from fun h => hc h.symm]

namespace Observation

def projectionOf (o : Observation) (prior : ServiceStatus) : Component → Projection
  | .config => o.config.project
  | .model => o.model.project
  | .template => o.template.project
  | .caching => o.caching.projectCaching prior.cache
  | .storage => o.caching.projectStorage
  | .runtime => o.runtime.project
  | .routing => o.route.project

theorem projections_eq_map (o : Observation) (prior : ServiceStatus) :
    o.projections prior = Component.all.map (o.projectionOf prior) := rfl

theorem projectionOf_belongsTo (o : Observation) (prior : ServiceStatus) (c : Component) :
    (o.projectionOf prior c).BelongsTo c := by
  cases c with
  | config => exact o.config.project_belongsTo
  | model => exact o.model.project_belongsTo
  | template => exact o.template.project_belongsTo
  | caching => exact o.caching.projectCaching_belongsTo prior.cache
  | storage => exact o.caching.projectStorage_belongsTo
  | runtime => exact o.runtime.project_belongsTo
  | routing => exact o.route.project_belongsTo

section

variable (o : Observation) (now : Timestamp) (service : ServiceObject)

theorem blockedBy_project :
    (o.project now service).blockedBy = firstBlocker? (o.projections service.lastStatus) := by
  simp only [project, reduceStatus, foldProjections_eq, ServiceObject.lastStatus]

theorem reachedProjections_projections (prior : ServiceStatus) :
    reachedProjections (o.projections prior) =
      (Component.all.filter fun c => c.Reached (firstBlocker? (o.projections prior))).map
        (o.projectionOf prior) := by
  rw [projections_eq_map]
  exact reachedProjections_map (fun c => (o.projectionOf_belongsTo _ c).component?)
    Component.all_sorted

/-- A component takes part in a pass if and only if none before it blocks. -/
theorem reached_blockedBy_iff (c : Component) :
    c.Reached (o.project now service).blockedBy ↔
      ∀ d : Component, d.position < c.position →
        (o.projectionOf service.lastStatus d).blocking = false := by
  rw [blockedBy_project, projections_eq_map,
    reached_firstBlocker?_iff (fun c => (o.projectionOf_belongsTo _ c).component?)
      Component.all_sorted c.mem_all]
  exact ⟨fun h d => h d d.mem_all, fun h d _ => h d⟩

theorem blockedBy_eq_some_iff (c : Component) :
    (o.project now service).blockedBy = some c ↔
      c.Reached (o.project now service).blockedBy ∧
        (o.projectionOf service.lastStatus c).blocking = true := by
  rw [blockedBy_project, projections_eq_map]
  exact firstBlocker?_eq_some_iff (fun c => (o.projectionOf_belongsTo _ c).component?)
    Component.all_sorted c.mem_all

theorem conditions_project :
    (o.project now service).status.conditions =
      applyReports now ((reachedProjections (o.projections service.lastStatus)).map (·.report))
        service.lastStatus.conditions := by
  simp only [project, reduceStatus, foldProjections_eq, conditions_foldl_apply,
    ServiceObject.lastStatus]

theorem reports_once (prior : ServiceStatus) :
    ReportedOnce ((o.projections prior).map (·.report)) := by
  unfold ReportedOnce
  rw [projections_eq_map, List.map_map, List.pairwise_map]
  refine Component.all_sorted.imp ?_
  intro c d hlt e hc hd
  simp only [Function.comp_apply, (o.projectionOf_belongsTo _ _).component?,
    Option.some.injEq] at hc hd
  rw [hc, hd] at hlt
  exact Nat.lt_irrefl _ hlt

theorem health_project :
    (o.project now service).health =
      (reachedProjections (o.projections service.lastStatus)).flatMap
        fun p => p.report.health?.toList := by
  simp only [project, reduceStatus, foldProjections_eq, List.nil_append,
    ServiceObject.lastStatus]

theorem phase_project :
    (o.project now service).status.status =
      phaseFor (o.project now service).health o.runtime.exists := rfl

theorem field_project {α : Type} {g : ServiceStatus → Option α} {u : StatusUpdate → Option α}
    (hg : ∀ p now s, g (Projection.apply p now s) = (u p.update <|> g s))
    (hg' : ∀ (s : ServiceStatus) phase generation,
      g { s with status := phase, observedGeneration := generation } = g s)
    {owner : Component}
    (hu : ∀ c, c ≠ owner → u (o.projectionOf service.lastStatus c).update = none) :
    g (o.project now service).status =
      ((if owner.Reached (o.project now service).blockedBy
        then u (o.projectionOf service.lastStatus owner).update else none) <|>
        g service.lastStatus) := by
  have hn : (Component.all.filter
      fun c => c.Reached (o.project now service).blockedBy).Nodup :=
    List.Pairwise.filter _ (by decide)
  have hfold := foldl_apply_field hg hu now _ hn service.lastStatus
  rw [blockedBy_project, ← o.reachedProjections_projections] at hfold
  simp only [List.mem_filter, Component.mem_all, true_and, decide_eq_true_eq] at hfold
  rw [blockedBy_project, ← hfold]
  simp only [project, reduceStatus, foldProjections_eq, hg', ServiceObject.lastStatus]

theorem resolvedRuntimeConfig_project :
    (o.project now service).status.resolvedRuntimeConfig =
      ((if Component.config.Reached (o.project now service).blockedBy
        then o.config.project.update.resolvedRuntimeConfig else none) <|>
        service.lastStatus.resolvedRuntimeConfig) :=
  o.field_project now service (u := (·.resolvedRuntimeConfig)) (fun _ _ _ => rfl)
    (fun _ _ _ => rfl) fun c => (o.projectionOf_belongsTo _ c).resolvedRuntimeConfig

theorem resolvedModel_project :
    (o.project now service).status.resolvedModel =
      ((if Component.model.Reached (o.project now service).blockedBy
        then o.model.project.update.resolvedModel else none) <|>
        service.lastStatus.resolvedModel) :=
  o.field_project now service (u := (·.resolvedModel)) (fun _ _ _ => rfl)
    (fun _ _ _ => rfl) fun c => (o.projectionOf_belongsTo _ c).resolvedModel

theorem resolvedTemplate_project :
    (o.project now service).status.resolvedTemplate =
      ((if Component.template.Reached (o.project now service).blockedBy
        then o.template.project.update.resolvedTemplate else none) <|>
        service.lastStatus.resolvedTemplate) :=
  o.field_project now service (u := (·.resolvedTemplate)) (fun _ _ _ => rfl)
    (fun _ _ _ => rfl) fun c => (o.projectionOf_belongsTo _ c).resolvedTemplate

theorem cache_project :
    (o.project now service).status.cache =
      ((if Component.caching.Reached (o.project now service).blockedBy
        then (o.caching.projectCaching service.lastStatus.cache).update.cache else none) <|>
        service.lastStatus.cache) :=
  o.field_project now service (u := (·.cache)) (fun _ _ _ => rfl) (fun _ _ _ => rfl)
    fun c => (o.projectionOf_belongsTo _ c).cache

theorem routing_project :
    (o.project now service).status.routing =
      ((if Component.routing.Reached (o.project now service).blockedBy
        then o.route.project.update.routing else none) <|>
        service.lastStatus.routing) :=
  o.field_project now service (u := (·.routing)) (fun _ _ _ => rfl) (fun _ _ _ => rfl)
    fun c => (o.projectionOf_belongsTo _ c).routing

theorem observedGeneration_project :
    (o.project now service).status.observedGeneration =
      (service.metadata.generation <|> service.lastStatus.observedGeneration) := rfl

end

end Observation

end InferenceReconciler
