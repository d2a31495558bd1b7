import InferenceReconciler.Proofs.ReachedCaching
import InferenceReconciler.Proofs.RunningPhase

/-!
# Unavailable records

The phase is made from failures, and trouble with an object that somebody else provides is a
failure in all places but one. A model or a template that cannot run on the cluster is reported
as not available, its condition fails and the pass ends there, but the phase passes it over. So a
service with such a record counts as one that is still coming up.
-/

namespace InferenceReconciler

/-- Whatever the projection finds wrong with an object that is provided is a failure. -/
def Projection.FailsProvided (p : Projection) : Prop :=
  ∀ h, p.report = .health h → h.dependency = .provided → h.state = .failed

namespace Projection.FailsProvided

theorem ofProblem (c : Component) (problem : Problem) (blocking : Bool) :
    (Projection.of (.ofProblem c problem) blocking).FailsProvided := by
  intro h hr _
  cases hr
  rfl

theorem of_managed {h : ComponentHealth} (hm : h.dependency = .managed) (blocking : Bool) :
    (Projection.of h blocking).FailsProvided := by
  intro g hr hprovided
  cases hr
  rw [hm] at hprovided
  cases hprovided

theorem notApplicable (c : Component) : (Projection.notApplicable c).FailsProvided := by
  intro h hr
  cases hr

theorem withUpdate {p : Projection} (hp : p.FailsProvided) (u : StatusUpdate) :
    (p.withUpdate u).FailsProvided := hp

end Projection.FailsProvided

theorem ConfigObservation.project_failsProvided (o : ConfigObservation) :
    o.project.FailsProvided := by
  unfold project
  split
  · exact .ofProblem _ _ _
  · exact .withUpdate (.of_managed rfl _) _

theorem ModelRecord.project_failsProvided {r : ModelRecord} (h : r.status ≠ .notAvailable) :
    r.project.FailsProvided := by
  unfold project
  split
  · exact .withUpdate (.of_managed rfl _) _
  · exact .ofProblem _ _ _
  · exact .ofProblem _ _ _
  · rename_i hs
    exact absurd hs h
  · exact .of_managed rfl _
  · exact .of_managed rfl _

theorem ModelObservation.project_failsProvided {o : ModelObservation}
    (h : ∀ r, o.resolved = some r → r.status ≠ .notAvailable) : o.project.FailsProvided := by
  unfold project
  split
  · exact .ofProblem _ _ _
  · exact .of_managed rfl _
  · exact .of_managed rfl _
  · rename_i r _ _ hr
    exact ModelRecord.project_failsProvided (h r hr)

theorem TemplateRecord.project_failsProvided {t : TemplateRecord}
    (h : t.status.status ≠ .notAvailable) : t.project.FailsProvided := by
  unfold project
  split
  · exact .withUpdate (.of_managed rfl _) _
  · exact .ofProblem _ _ _
  · exact .ofProblem _ _ _
  · rename_i hs
    exact absurd hs h
  · exact .of_managed rfl _
  · exact .of_managed rfl _

theorem TemplateObservation.project_failsProvided {o : TemplateObservation}
    (h : ∀ t, o.outcome = .resolved t → t.status.status ≠ .notAvailable) :
    o.project.FailsProvided := by
  unfold project
  split
  · exact .of_managed rfl _
  · exact .ofProblem _ _ _
  · exact .of_managed rfl _
  · exact .of_managed rfl _
  · rename_i t ht
    exact TemplateRecord.project_failsProvided (h t ht)

namespace CachingObservation

theorem projectShared_failsProvided (o : CachingObservation) (c : SharedCache)
    (prior : Option ServiceCacheStatus) : (o.projectShared c prior).FailsProvided := by
  unfold projectShared
  dsimp only
  split
  · exact .withUpdate (.of_managed rfl _) _
  · split
    · exact .withUpdate (.ofProblem _ _ _) _
    · split
      · exact .withUpdate (.of_managed rfl _) _
      · exact .of_managed rfl _
  · exact .of_managed rfl _

theorem projectCaching_failsProvided (o : CachingObservation)
    (prior : Option ServiceCacheStatus) : (o.projectCaching prior).FailsProvided := by
  unfold projectCaching
  split
  · exact .of_managed rfl _
  · split
    · exact .ofProblem _ _ _
    · exact .notApplicable _
  · split
    · exact .of_managed rfl _
    · exact o.projectShared_failsProvided _ prior

theorem projectStorage_failsProvided (o : CachingObservation) :
    o.projectStorage.FailsProvided := by
  unfold projectStorage
  split
  · exact .notApplicable _
  · split
    · exact .ofProblem _ _ _
    · split
      · exact .of_managed rfl _
      · split <;> exact .of_managed rfl _

end CachingObservation

theorem RuntimeObservation.project_failsProvided (o : RuntimeObservation) :
    o.project.FailsProvided := by
  apply Projection.FailsProvided.of_managed
  unfold health
  split
  · rename_i existing _
    split
    · rfl
    · unfold failureHealth?
      split <;> rfl
  · split <;> rfl

theorem RouteObservation.project_failsProvided (o : RouteObservation) :
    o.project.FailsProvided := by
  unfold project
  split
  · split
    · exact .ofProblem _ _ _
    · exact .ofProblem _ _ _
    · unfold projectPath
      split
      · exact .of_managed rfl _
      · split
        · exact .ofProblem _ _ _
        · exact .withUpdate (.of_managed rfl _) _
  · exact .notApplicable _

/-- The projection lets the pass go on only where its component is ready. -/
def Projection.GoesOnReady (p : Projection) : Prop :=
  p.blocking = false → ∀ h, p.report = .health h → h.state = .ready

namespace Projection.GoesOnReady

theorem of_blocking (h : ComponentHealth) : (Projection.of h true).GoesOnReady := by
  intro hb
  cases hb

theorem of_ready (c : Component) (reason message : String) (u : StatusUpdate) :
    ((Projection.of (.ready c reason message) false).withUpdate u).GoesOnReady := by
  intro _ h hr
  cases hr
  rfl

end Projection.GoesOnReady

theorem ConfigObservation.project_goesOnReady (o : ConfigObservation) :
    o.project.GoesOnReady := by
  unfold project
  split
  · exact .of_blocking _
  · exact .of_ready _ _ _ _

theorem ModelObservation.project_goesOnReady (o : ModelObservation) :
    o.project.GoesOnReady := by
  unfold project
  split
  · exact .of_blocking _
  · exact .of_blocking _
  · exact .of_blocking _
  · unfold ModelRecord.project
    split
    · exact .of_ready _ _ _ _
    all_goals exact .of_blocking _

theorem TemplateObservation.project_goesOnReady (o : TemplateObservation) :
    o.project.GoesOnReady := by
  unfold project
  split
  · exact .of_blocking _
  · exact .of_blocking _
  · exact .of_blocking _
  · exact .of_blocking _
  · unfold TemplateRecord.project
    split
    · exact .of_ready _ _ _ _
    all_goals exact .of_blocking _

namespace Observation

/-- The model or the template that the service is resolved to cannot run on this cluster. -/
inductive ResolvedUnavailable (o : Observation) : Prop where
  | model (m : ModelRecord) (resolved : o.model.resolved = some m)
      (unavailable : m.status = .notAvailable) : ResolvedUnavailable o
  | template (t : TemplateRecord) (resolved : o.template.outcome = .resolved t)
      (unavailable : t.status.status = .notAvailable) : ResolvedUnavailable o

variable {o : Observation} (now : Timestamp) (service : ServiceObject)

theorem projectionOf_failsProvided (h : ¬ o.ResolvedUnavailable) (prior : ServiceStatus)
    (c : Component) : (o.projectionOf prior c).FailsProvided := by
  cases c with
  | config => exact o.config.project_failsProvided
  | model => exact ModelObservation.project_failsProvided fun m hm hs => h (.model m hm hs)
  | template =>
    exact TemplateObservation.project_failsProvided fun t ht hs => h (.template t ht hs)
  | caching => exact o.caching.projectCaching_failsProvided prior.cache
  | storage => exact o.caching.projectStorage_failsProvided
  | runtime => exact o.runtime.project_failsProvided
  | routing => exact o.route.project_failsProvided

theorem projectionOf_goesOnReady (prior : ServiceStatus) {c : Component}
    (hc : c.position ≤ Component.template.position) :
    (o.projectionOf prior c).GoesOnReady := by
  cases c with
  | config => exact o.config.project_goesOnReady
  | model => exact o.model.project_goesOnReady
  | template => exact o.template.project_goesOnReady
  | caching => exact absurd hc (by decide)
  | storage => exact absurd hc (by decide)
  | runtime => exact absurd hc (by decide)
  | routing => exact absurd hc (by decide)

theorem reached_config : Component.config.Reached (o.project now service).blockedBy :=
  (o.reached_blockedBy_iff now service .config).2 fun _ hd => absurd hd (Nat.not_lt_zero _)

theorem reached_next {c d : Component} (hc : c.Reached (o.project now service).blockedBy)
    (hb : (o.projectionOf service.lastStatus c).blocking = false)
    (hd : d.position ≤ c.position + 1) : d.Reached (o.project now service).blockedBy := by
  refine hc.next (fun hblocker => ?_) hd
  rw [((o.blockedBy_eq_some_iff now service c).1 hblocker).2] at hb
  cases hb

/-- A problem of the configuration ends the pass before any record is looked at. -/
theorem config_error_of_reached {c : Component}
    (hc : c.Reached (o.project now service).blockedBy) (hne : c ≠ .config) :
    o.config.error = none := by
  have hpos : Component.config.position < c.position := by
    refine Nat.pos_of_ne_zero fun hzero => hne ?_
    exact Component.position_injective (d := .config) hzero
  exact ConfigObservation.blocking_project_eq_false.1
    ((o.reached_blockedBy_iff now service c).1 hc .config hpos)

theorem state_of_provided (hu : ¬ (o.config.error = none ∧ o.ResolvedUnavailable))
    {h : ComponentHealth} (hmem : h ∈ (o.project now service).health)
    (hp : h.dependency = .provided) : h.state = .failed := by
  obtain ⟨c, hc, hr⟩ := (o.mem_health_project_iff now service).1 hmem
  -- Behind a problem of the configuration the records do not count, whatever their status.
  by_cases hconfig : c = .config
  · subst hconfig
    exact o.config.project_failsProvided h hr hp
  · have hresolved : ¬ o.ResolvedUnavailable :=
      fun hunavailable => hu ⟨config_error_of_reached now service hc hconfig, hunavailable⟩
    exact projectionOf_failsProvided hresolved _ c h hr hp

/-- Where a pass ends at an unavailable record, all that was seen before it is ready. -/
theorem state_of_unavailable {b : Component} {g : ComponentHealth}
    (hb : (o.project now service).blockedBy = some b)
    (hfirst : b.position ≤ Component.template.position)
    (hreport : (o.projectionOf service.lastStatus b).report = .health g)
    (hstate : g.state = .notAvailable) {h : ComponentHealth}
    (hmem : h ∈ (o.project now service).health) :
    h.component ≠ .runtime ∧ h.state ≠ .failed := by
  obtain ⟨c, hc, hr⟩ := (o.mem_health_project_iff now service).1 hmem
  have hle : c.position ≤ b.position := by
    rw [hb, Component.reached_some] at hc
    exact hc
  constructor
  · rw [o.component_of_report hr]
    rintro rfl
    exact absurd (Nat.le_trans hle hfirst) (by decide)
  · by_cases hcb : c = b
    · rw [hcb, hreport] at hr
      cases hr
      rw [hstate]
      decide
    · have hlt : c.position < b.position :=
        Nat.lt_of_le_of_ne hle fun hsame => hcb (Component.position_injective hsame)
      have hreached : b.Reached (o.project now service).blockedBy :=
        ((o.blockedBy_eq_some_iff now service b).1 hb).1
      have hgoes := (o.reached_blockedBy_iff now service b).1 hreached c hlt
      rw [projectionOf_goesOnReady _ (Nat.le_trans hle hfirst) hgoes h hr]
      decide

end Observation

theorem ModelRecord.project_of_unavailable {r : ModelRecord} (h : r.status = .notAvailable) :
    ∃ g, r.project = .of g true ∧ g.state = .notAvailable ∧ g.dependency = .provided := by
  unfold project
  rw [h]
  exact ⟨_, rfl, rfl, rfl⟩

theorem TemplateRecord.project_of_unavailable {t : TemplateRecord}
    (h : t.status.status = .notAvailable) :
    ∃ g, t.project = .of g true ∧ g.state = .notAvailable ∧ g.dependency = .provided := by
  unfold project
  rw [h]
  exact ⟨_, rfl, rfl, rfl⟩

theorem ModelObservation.Decided.project_of_resolved {o : ModelObservation} (h : o.Decided)
    {r : ModelRecord} (hr : o.resolved = some r) : o.project = r.project := by
  cases h with
  | found found =>
    cases hr
    rfl
  | creating object => cases hr
  | failed p => cases hr

theorem TemplateObservation.project_of_resolved {o : TemplateObservation} {t : TemplateRecord}
    (h : o.outcome = .resolved t) : o.project = t.project := by
  unfold project
  rw [h]

section

variable {service : ServiceObject} {snapshot : Snapshot} {policy : Policy}

theorem isSome_ready?_of_resolved {t : TemplateRecord}
    (h : (observe service snapshot policy).template.outcome = .resolved t) :
    (observe service snapshot policy).model.ready?.isSome = true := by
  cases hm : (observe service snapshot policy).model.ready? with
  | some m => rfl
  | none =>
    have hnone : (observe service snapshot policy).model.ready?.filter
        (fun m => m.status.isReady) = none := by
      rw [hm]
      rfl
    have hwaiting : (observe service snapshot policy).template.outcome = .waitingForModel :=
      outcome_observeTemplate_of_not_ready service hnone _ _
    rw [h] at hwaiting
    cases hwaiting

/-- A pass gets to an unavailable record, reports it and ends there. -/
theorem ends_at_unavailable (now : Timestamp) (prior : ServiceObject)
    (he : (observe service snapshot policy).config.error = none)
    (hu : (observe service snapshot policy).ResolvedUnavailable) :
    ∃ b g, ((observe service snapshot policy).project now prior).blockedBy = some b ∧
      b.position ≤ Component.template.position ∧
      ((observe service snapshot policy).projectionOf prior.lastStatus b).report = .health g ∧
      g.state = .notAvailable ∧ g.dependency = .provided := by
  have hdecided : (observe service snapshot policy).model.Decided := decided_observeModel _ _
  have hmodel : Component.model.Reached
      ((observe service snapshot policy).project now prior).blockedBy :=
    Observation.reached_next now prior (Observation.reached_config now prior)
      (ConfigObservation.blocking_project_eq_false.2 he) (by decide)
  cases hu with
  | model m resolved unavailable =>
    obtain ⟨g, hg, hstate, hprovided⟩ := ModelRecord.project_of_unavailable unavailable
    have hproject := (hdecided.project_of_resolved resolved).trans hg
    refine ⟨.model, g, ?_, by decide, congrArg (·.report) hproject, hstate, hprovided⟩
    exact (Observation.blockedBy_eq_some_iff _ now prior .model).2
      ⟨hmodel, congrArg (·.blocking) hproject⟩
  | template t resolved unavailable =>
    obtain ⟨g, hg, hstate, hprovided⟩ := TemplateRecord.project_of_unavailable unavailable
    have hproject := (TemplateObservation.project_of_resolved resolved).trans hg
    have htemplate : Component.template.Reached
        ((observe service snapshot policy).project now prior).blockedBy :=
      Observation.reached_next now prior hmodel
        (hdecided.blocking_project_eq_false.2 (isSome_ready?_of_resolved resolved)) (by decide)
    refine ⟨.template, g, ?_, Nat.le_refl _, congrArg (·.report) hproject, hstate, hprovided⟩
    exact (Observation.blockedBy_eq_some_iff _ now prior .template).2
      ⟨htemplate, congrArg (·.blocking) hproject⟩

theorem phase_of_unavailable (now : Timestamp)
    (he : (observe service snapshot policy).config.error = none)
    (hu : (observe service snapshot policy).ResolvedUnavailable) :
    ((observe service snapshot policy).project now service).status.status =
      if snapshot.runtime.isSome then .starting else .pending := by
  obtain ⟨b, g, hb, hfirst, hreport, hstate, -⟩ := ends_at_unavailable now service he hu
  have hseen := fun h hmem => Observation.state_of_unavailable now service hb hfirst hreport hstate
    (h := h) hmem
  have hunimpaired : ∀ h ∈ ((observe service snapshot policy).project now service).health,
      ¬ h.Impairs := fun h hmem hi => (hseen h hmem).2 hi.1
  rw [Observation.phase_project, phaseFor_of_unimpaired hunimpaired, if_neg]
  · rfl
  · intro hserving
    obtain ⟨h, hmem, hcomponent, -⟩ := any_serving_iff.1 hserving
    exact (hseen h hmem).1 hcomponent

end

/-- A pass that finds something wrong with what is provided fails or degrades the service, unless
the record that the service is resolved to cannot run on this cluster. In that case the condition
of the record fails, but the service counts as coming up. It fails if and only if something can
never hold as it is specified. -/
theorem provided_trouble_shows_unless_unavailable (service : ServiceObject) (snapshot : Snapshot)
    (policy : Policy) (now : Timestamp) :
    let o := observe service snapshot policy
    let next := o.project now service
    (next.status.status = .failed ↔
      ∃ h ∈ next.health, h.state = .failed ∧ h.dependency = .validation) ∧
    ((∃ h ∈ next.health, h.dependency = .provided) →
      ((next.status.status = .degraded ∨ next.status.status = .failed) ↔
        ¬ (o.config.error = none ∧ o.ResolvedUnavailable))) ∧
    (o.config.error = none → o.ResolvedUnavailable →
      next.status.status = (if snapshot.runtime.isSome then .starting else .pending) ∧
        ∃ h ∈ next.health, h.dependency = .provided ∧ h.conditionStatus = .fails) := by
  intro o next
  have hphase : next.status.status = phaseFor next.health snapshot.runtime.isSome :=
    Observation.phase_project o now service
  refine ⟨by rw [hphase, phaseFor_eq_failed_iff], ?_, fun he hu => ?_⟩
  · rintro ⟨h, hmem, hprovided⟩
    constructor
    · rintro hbad ⟨he, hu⟩
      have hmild : next.status.status = if snapshot.runtime.isSome then .starting else .pending :=
        phase_of_unavailable now he hu
      rw [hmild] at hbad
      split at hbad <;> simp at hbad
    · intro hu
      have hfailed := Observation.state_of_provided now service hu hmem hprovided
      have himpairs : h.Impairs := ⟨hfailed, Or.inl (by rw [hprovided]; decide)⟩
      rw [hphase]
      exact (phaseFor_of_impairs _ hmem himpairs).symm
  · obtain ⟨b, g, hb, -, hreport, hstate, hprovided⟩ := ends_at_unavailable now service he hu
    have hreached := ((o.blockedBy_eq_some_iff now service b).1 hb).1
    refine ⟨phase_of_unavailable now he hu, g,
      (o.mem_health_project_iff now service).2 ⟨b, hreached, hreport⟩, hprovided, ?_⟩
    unfold ComponentHealth.conditionStatus
    rw [hstate]

theorem missing_model_degrades :
    let next := (observe cachedService default Policy.standard).project .epoch cachedService
    (∃ h ∈ next.health, h.dependency = .provided) ∧ next.status.status = .degraded := by
  intro next
  have hprovided : ∃ h ∈ next.health, h.dependency = .provided := by decide +kernel
  have hspecified : ¬ ∃ h ∈ next.health, h.state = .failed ∧ h.dependency = .validation := by
    decide +kernel
  have hall := provided_trouble_shows_unless_unavailable cachedService default Policy.standard
    .epoch
  have hbad := (hall.2.1 hprovided).2 (by
    rintro ⟨-, hu⟩
    cases hu with
    | model m resolved unavailable => cases resolved
    | template t resolved unavailable => cases resolved)
  exact ⟨hprovided, hbad.resolve_right fun hfailed => hspecified (hall.1.1 hfailed)⟩

def unavailableModelSnapshot : Snapshot :=
  { cachedSnapshot with models := ⟨[], [{ cachedModel with status := some ⟨.notAvailable⟩ }]⟩ }

/-- What is wrong with the model is for somebody else to mend, and the service is pending. -/
theorem unavailable_model_pending :
    let next := (observe cachedService unavailableModelSnapshot Policy.standard).project .epoch
      cachedService
    (∃ h ∈ next.health, h.dependency = .provided) ∧ next.status.status = .pending := by
  decide +kernel

end InferenceReconciler
