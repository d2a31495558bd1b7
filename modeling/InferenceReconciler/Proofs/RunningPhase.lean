import InferenceReconciler.Proofs.OpenGate
import InferenceReconciler.Proofs.DomainProjections

/-!
# The running phase

The phase is made from the health of the components that were reached, and from whether the
runtime exists whether it was reached or not. So a runtime that serves is reported as running
only where no component before it blocks. Behind a component that merely waits, it is there
and its readiness is not seen, and the service counts as starting.
-/

namespace InferenceReconciler

/-- A failure that the reconciler does not mend, or one of the runtime. -/
def ComponentHealth.Impairs (h : ComponentHealth) : Prop :=
  h.state = .failed ∧ (h.dependency ≠ .managed ∨ h.component = .runtime)

/-- The health of a runtime that serves. -/
def ComponentHealth.IsServing (h : ComponentHealth) : Prop :=
  h.component = .runtime ∧ h.state = .ready

section

variable {health : List ComponentHealth} {runtimeExists : Bool}

theorem any_failed_iff (p : ComponentHealth → Bool) :
    ((health.filter fun h => h.state = .failed).any p) = true ↔
      ∃ h ∈ health, h.state = .failed ∧ p h = true := by
  simp only [List.any_eq_true, List.mem_filter, decide_eq_true_eq, and_assoc]

theorem any_serving_iff :
    (health.any fun h => h.component = .runtime && h.state = .ready) = true ↔
      ∃ h ∈ health, h.IsServing := by
  simp only [List.any_eq_true, Bool.and_eq_true, decide_eq_true_eq, ComponentHealth.IsServing]

variable (runtimeExists) in
theorem phaseFor_of_impairs {h : ComponentHealth} (hmem : h ∈ health) (hi : h.Impairs) :
    phaseFor health runtimeExists = .failed ∨ phaseFor health runtimeExists = .degraded := by
  obtain ⟨hfailed, hkind⟩ := hi
  unfold phaseFor
  dsimp only
  split
  · exact Or.inl rfl
  · rename_i hvalidation
    rw [any_failed_iff] at hvalidation
    have hmended : ∃ g ∈ health, g.state = .failed ∧
        (decide (g.dependency = .provided) || decide (g.component = .runtime)) = true := by
      refine ⟨h, hmem, hfailed, ?_⟩
      rcases hkind with hdependency | hruntime
      · cases hd : h.dependency with
        | provided => rfl
        | managed => exact absurd hd hdependency
        | validation => exact absurd ⟨h, hmem, hfailed, decide_eq_true hd⟩ hvalidation
      · simp [hruntime]
    rw [if_pos ((any_failed_iff _).2 hmended)]
    exact Or.inr rfl

theorem phaseFor_of_unimpaired (h : ∀ g ∈ health, ¬ g.Impairs) :
    phaseFor health runtimeExists =
      if (health.any fun g => g.component = .runtime && g.state = .ready) = true then .running
      else if runtimeExists then .starting else .pending := by
  have hvalidation : ¬ ((health.filter fun g => g.state = .failed).any
      fun g => g.dependency = .validation) = true := by
    rw [any_failed_iff]
    rintro ⟨g, hg, hfailed, hd⟩
    exact h g hg ⟨hfailed, Or.inl (by rw [of_decide_eq_true hd]; decide)⟩
  have hmended : ¬ ((health.filter fun g => g.state = .failed).any
      fun g => g.dependency = .provided || g.component = .runtime) = true := by
    rw [any_failed_iff]
    rintro ⟨g, hg, hfailed, hkind⟩
    rcases Bool.or_eq_true_iff.1 hkind with hd | hruntime
    · exact h g hg ⟨hfailed, Or.inl (by rw [of_decide_eq_true hd]; decide)⟩
    · exact h g hg ⟨hfailed, Or.inr (of_decide_eq_true hruntime)⟩
  unfold phaseFor
  dsimp only
  rw [if_neg hvalidation, if_neg hmended]

theorem phaseFor_eq_running_iff :
    phaseFor health runtimeExists = .running ↔
      (∀ h ∈ health, ¬ h.Impairs) ∧ ∃ h ∈ health, h.IsServing := by
  constructor
  · intro hphase
    have hunimpaired : ∀ h ∈ health, ¬ h.Impairs := by
      intro h hmem hi
      have hworse := phaseFor_of_impairs runtimeExists hmem hi
      rw [hphase] at hworse
      rcases hworse with hfailed | hdegraded
      · cases hfailed
      · cases hdegraded
    rw [phaseFor_of_unimpaired hunimpaired] at hphase
    refine ⟨hunimpaired, ?_⟩
    by_cases hserving : (health.any fun g => g.component = .runtime && g.state = .ready) = true
    · exact any_serving_iff.1 hserving
    · rw [if_neg hserving] at hphase
      split at hphase <;> cases hphase
  · rintro ⟨hunimpaired, hserving⟩
    rw [phaseFor_of_unimpaired hunimpaired, if_pos (any_serving_iff.2 hserving)]

theorem phaseFor_eq_failed_iff :
    phaseFor health runtimeExists = .failed ↔
      ∃ h ∈ health, h.state = .failed ∧ h.dependency = .validation := by
  have hany : ((health.filter fun h => h.state = .failed).any
        fun h => h.dependency = .validation) = true ↔
      ∃ h ∈ health, h.state = .failed ∧ h.dependency = .validation := by
    rw [any_failed_iff]
    simp only [decide_eq_true_eq]
  rw [← hany]
  unfold phaseFor
  dsimp only
  split
  · rename_i hvalidation
    exact iff_of_true rfl hvalidation
  · rename_i hvalidation
    refine iff_of_false ?_ hvalidation
    split
    · simp
    · split
      · simp
      · split <;> simp

/-- The phase speaks of impairments and of the runtime that serves, and of nothing else. -/
theorem phaseFor_congr {health' : List ComponentHealth}
    (h : ∀ g : ComponentHealth, g.Impairs ∨ g.IsServing → (g ∈ health ↔ g ∈ health')) :
    phaseFor health runtimeExists = phaseFor health' runtimeExists := by
  have hfailed : ∀ p : ComponentHealth → Bool,
      (∀ g : ComponentHealth, g.state = .failed → p g = true → g.Impairs) →
      (health.filter fun g => g.state = .failed).any p =
        (health'.filter fun g => g.state = .failed).any p := by
    intro p hp
    rw [Bool.eq_iff_iff, any_failed_iff, any_failed_iff]
    constructor
    · rintro ⟨g, hmem, hf, hg⟩
      exact ⟨g, (h g (Or.inl (hp g hf hg))).1 hmem, hf, hg⟩
    · rintro ⟨g, hmem, hf, hg⟩
      exact ⟨g, (h g (Or.inl (hp g hf hg))).2 hmem, hf, hg⟩
  have hvalidation := hfailed (fun g => g.dependency = .validation) fun g hf hg =>
    ⟨hf, Or.inl (by rw [of_decide_eq_true hg]; decide)⟩
  have hmended := hfailed (fun g => g.dependency = .provided || g.component = .runtime)
    fun g hf hg => by
      refine ⟨hf, (Bool.or_eq_true_iff.1 hg).imp (fun hd => ?_) of_decide_eq_true⟩
      rw [of_decide_eq_true hd]
      decide
  have hserving : (health.any fun g => g.component = .runtime && g.state = .ready) =
      health'.any fun g => g.component = .runtime && g.state = .ready := by
    rw [Bool.eq_iff_iff, any_serving_iff, any_serving_iff]
    constructor
    · rintro ⟨g, hmem, hg⟩
      exact ⟨g, (h g (Or.inr hg)).1 hmem, hg⟩
    · rintro ⟨g, hmem, hg⟩
      exact ⟨g, (h g (Or.inr hg)).2 hmem, hg⟩
  unfold phaseFor
  dsimp only
  rw [hvalidation, hmended, hserving]

theorem phaseFor_eq_starting (h : ∀ g ∈ health, ¬ g.Impairs)
    (hserving : ¬ ∃ g ∈ health, g.IsServing) : phaseFor health true = .starting := by
  rw [phaseFor_of_unimpaired h, if_neg fun hany => hserving (any_serving_iff.1 hany)]
  rfl

end

namespace RuntimeObservation

theorem state_failureHealth? {o : RuntimeObservation} {existing : InferenceService}
    {h : ComponentHealth} (hh : o.failureHealth? existing = some h) : h.state = .failed := by
  unfold failureHealth? at hh
  split at hh
  · cases hh
    rfl
  · cases hh
    rfl
  · cases hh

theorem state_health_eq_ready_iff (o : RuntimeObservation) :
    o.health.state = .ready ↔ o.existing.any InferenceService.isReady = true := by
  unfold health
  cases o.existing with
  | none =>
    dsimp only
    split <;> simp
  | some existing =>
    by_cases hready : existing.isReady = true
    · simp [hready]
    · cases hf : o.failureHealth? existing with
      | none => simp [hready, hf]
      | some h => simp [hready, hf, state_failureHealth? hf]

end RuntimeObservation

/-- The projection lets the pass go on wherever its component is ready. -/
def Projection.BlocksUnready (p : Projection) : Prop :=
  p.blocking = true → ∃ h, p.report = .health h ∧ h.state ≠ .ready

namespace Projection.BlocksUnready

theorem of {h : ComponentHealth} (hs : h.state ≠ .ready) (blocking : Bool) :
    (Projection.of h blocking).BlocksUnready :=
  fun _ => ⟨h, rfl, hs⟩

theorem of_not_blocking {p : Projection} (h : p.blocking = false) : p.BlocksUnready := by
  intro hb
  rw [h] at hb
  cases hb

end Projection.BlocksUnready

theorem ConfigObservation.project_blocksUnready (o : ConfigObservation) :
    o.project.BlocksUnready := by
  unfold project
  split
  · exact .of ((by simp)) true
  · exact .of_not_blocking rfl

theorem ModelRecord.project_blocksUnready (r : ModelRecord) : r.project.BlocksUnready := by
  unfold project
  split
  · exact .of_not_blocking rfl
  all_goals exact .of ((by simp)) true

theorem ModelObservation.project_blocksUnready (o : ModelObservation) :
    o.project.BlocksUnready := by
  unfold project
  split
  · exact .of ((by simp)) true
  · exact .of ((by simp)) true
  · exact .of ((by simp)) true
  · exact ModelRecord.project_blocksUnready _

theorem TemplateRecord.project_blocksUnready (t : TemplateRecord) :
    t.project.BlocksUnready := by
  unfold project
  split
  · exact .of_not_blocking rfl
  all_goals exact .of ((by simp)) true

theorem TemplateObservation.project_blocksUnready (o : TemplateObservation) :
    o.project.BlocksUnready := by
  unfold project
  split
  · exact .of ((by simp)) true
  · exact .of ((by simp)) true
  · exact .of ((by simp)) true
  · exact .of ((by simp)) true
  · exact TemplateRecord.project_blocksUnready _

namespace CachingObservation

theorem projectShared_blocksUnready (o : CachingObservation) (c : SharedCache)
    (prior : Option ServiceCacheStatus) : (o.projectShared c prior).BlocksUnready := by
  unfold projectShared
  dsimp only
  split
  · exact .of_not_blocking rfl
  · split
    · exact fun _ => ⟨_, rfl, by simp⟩
    · split
      · exact .of_not_blocking rfl
      · exact .of ((by simp)) true
  · exact .of ((by simp)) true

theorem projectCaching_blocksUnready (o : CachingObservation)
    (prior : Option ServiceCacheStatus) : (o.projectCaching prior).BlocksUnready := by
  unfold projectCaching
  split
  · exact .of ((by simp)) true
  · split <;> exact .of_not_blocking rfl
  · split
    · exact .of ((by simp)) true
    · exact o.projectShared_blocksUnready _ prior

theorem projectStorage_blocksUnready (o : CachingObservation) :
    o.projectStorage.BlocksUnready := by
  unfold projectStorage
  split
  · exact .of_not_blocking rfl
  · split
    · exact .of ((by simp)) true
    · split
      · exact .of_not_blocking rfl
      · split <;> exact .of_not_blocking rfl

end CachingObservation

theorem RouteObservation.project_blocksUnready (o : RouteObservation) :
    o.project.BlocksUnready := by
  unfold project
  split
  · split
    · exact .of ((by simp)) true
    · exact .of ((by simp)) true
    · refine .of_not_blocking ?_
      unfold projectPath
      split
      · rfl
      · split <;> rfl
  · exact .of_not_blocking rfl

namespace Observation

variable (o : Observation) (now : Timestamp) (service : ServiceObject)

theorem projectionOf_blocksUnready (prior : ServiceStatus) (c : Component) :
    (o.projectionOf prior c).BlocksUnready := by
  cases c with
  | config => exact o.config.project_blocksUnready
  | model => exact o.model.project_blocksUnready
  | template => exact o.template.project_blocksUnready
  | caching => exact o.caching.projectCaching_blocksUnready prior.cache
  | storage => exact o.caching.projectStorage_blocksUnready
  | runtime => exact .of_not_blocking rfl
  | routing => exact o.route.project_blocksUnready

/-- The healths of a pass are those that the reached components report. -/
theorem mem_health_project_iff {h : ComponentHealth} :
    h ∈ (o.project now service).health ↔
      ∃ c : Component, c.Reached (o.project now service).blockedBy ∧
        (o.projectionOf service.lastStatus c).report = .health h := by
  rw [health_project, reachedProjections_projections, ← blockedBy_project o now service]
  constructor
  · intro hmem
    obtain ⟨p, hp, hreport⟩ := List.mem_flatMap.1 hmem
    obtain ⟨c, hc, rfl⟩ := List.mem_map.1 hp
    refine ⟨c, of_decide_eq_true (List.mem_filter.1 hc).2, ?_⟩
    cases hr : (o.projectionOf service.lastStatus c).report with
    | silent => simp [hr, Report.health?] at hreport
    | notApplicable d => simp [hr, Report.health?] at hreport
    | health g =>
      simp only [hr, Report.health?, Option.toList_some, List.mem_singleton] at hreport
      rw [hreport]
  · rintro ⟨c, hc, hr⟩
    refine List.mem_flatMap.2 ⟨o.projectionOf service.lastStatus c, ?_, ?_⟩
    · exact List.mem_map_of_mem (List.mem_filter.2 ⟨c.mem_all, decide_eq_true hc⟩)
    · simp [hr, Report.health?]

theorem component_of_report {prior : ServiceStatus} {c : Component} {h : ComponentHealth}
    (hr : (o.projectionOf prior c).report = .health h) : h.component = c := by
  have hc := (o.projectionOf_belongsTo prior c).component?
  rw [hr] at hc
  exact Option.some.inj hc

/-- A runtime is seen to serve if and only if it serves and is reached. -/
theorem exists_serving_iff :
    (∃ h ∈ (o.project now service).health, h.IsServing) ↔
      o.runtime.existing.any InferenceService.isReady = true ∧
        Component.runtime.Reached (o.project now service).blockedBy := by
  rw [← RuntimeObservation.state_health_eq_ready_iff]
  constructor
  · rintro ⟨h, hmem, hcomponent, hready⟩
    obtain ⟨c, hc, hr⟩ := (o.mem_health_project_iff now service).1 hmem
    have hruntime : c = .runtime := (o.component_of_report hr).symm.trans hcomponent
    subst hruntime
    cases hr
    exact ⟨hready, hc⟩
  · rintro ⟨hready, hc⟩
    refine ⟨o.runtime.health, (o.mem_health_project_iff now service).2 ⟨.runtime, hc, rfl⟩, ?_⟩
    exact ⟨o.runtime.component_health, hready⟩

/-- A serving runtime is no impairment, so only the kinds of the failures count. -/
theorem unimpaired_iff_of_serving
    (hserving : ∃ h ∈ (o.project now service).health, h.IsServing) :
    (∀ h ∈ (o.project now service).health, ¬ h.Impairs) ↔
      ∀ h ∈ (o.project now service).health, h.state = .failed → h.dependency = .managed := by
  constructor
  · intro hunimpaired h hmem hfailed
    by_cases hkind : h.dependency = .managed
    · exact hkind
    · exact absurd ⟨hfailed, Or.inl hkind⟩ (hunimpaired h hmem)
  · rintro hmanaged h hmem ⟨hfailed, hkind | hcomponent⟩
    · exact hkind (hmanaged h hmem hfailed)
    · obtain ⟨hready, -⟩ := (o.exists_serving_iff now service).1 hserving
      obtain ⟨c, -, hr⟩ := (o.mem_health_project_iff now service).1 hmem
      have hruntime : c = .runtime := (o.component_of_report hr).symm.trans hcomponent
      subst hruntime
      cases hr
      rw [o.runtime.state_health_eq_ready_iff.2 hready] at hfailed
      cases hfailed

/-- A component that is not reached stands behind one that blocks and is not ready. -/
theorem exists_blocker_of_not_reached {c : Component}
    (hc : ¬ c.Reached (o.project now service).blockedBy) :
    ∃ b, (o.project now service).blockedBy = some b ∧ b.position < c.position ∧
      ∃ h ∈ (o.project now service).health, h.component = b ∧ h.state ≠ .ready := by
  cases hb : (o.project now service).blockedBy with
  | none =>
    rw [hb] at hc
    exact absurd (Component.reached_none c) hc
  | some b =>
    rw [hb, Component.reached_some] at hc
    obtain ⟨hreached, hblocking⟩ := (o.blockedBy_eq_some_iff now service b).1 hb
    obtain ⟨h, hr, hunready⟩ := o.projectionOf_blocksUnready _ b hblocking
    have hmem := (o.mem_health_project_iff now service).2 ⟨b, hreached, hr⟩
    exact ⟨b, rfl, Nat.lt_of_not_le hc, h, hmem, o.component_of_report hr, hunready⟩

end Observation

/-- A service is reported as running if and only if its runtime serves, no component before the
runtime blocks, and whatever has failed mends by itself. A service whose runtime serves and
where nothing has failed is otherwise reported as starting, and then a component before the
runtime blocks that waits. -/
theorem running_iff_serving_in_sight (service : ServiceObject) (snapshot : Snapshot)
    (policy : Policy) (now : Timestamp) :
    let next := (observe service snapshot policy).project now service
    let serving := snapshot.runtime.any InferenceService.isReady = true
    (next.status.status = .running ↔
      serving ∧ Component.runtime.Reached next.blockedBy ∧
        ∀ h ∈ next.health, h.state = .failed → h.dependency = .managed) ∧
    (serving → (∀ h ∈ next.health, h.state ≠ .failed) → next.status.status ≠ .running →
      next.status.status = .starting ∧
        ∃ b, next.blockedBy = some b ∧ b.position < Component.runtime.position ∧
          ∃ h ∈ next.health, h.component = b ∧ h.state ≠ .ready ∧ h.state ≠ .failed) := by
  intro next serving
  have hseen : (∃ h ∈ next.health, h.IsServing) ↔
      serving ∧ Component.runtime.Reached next.blockedBy :=
    Observation.exists_serving_iff _ now service
  have hphase : next.status.status = phaseFor next.health snapshot.runtime.isSome :=
    Observation.phase_project _ now service
  have hrunning : next.status.status = .running ↔
      serving ∧ Component.runtime.Reached next.blockedBy ∧
        ∀ h ∈ next.health, h.state = .failed → h.dependency = .managed := by
    rw [hphase, phaseFor_eq_running_iff, and_comm, ← and_assoc, ← hseen]
    exact and_congr_right (Observation.unimpaired_iff_of_serving _ now service)
  refine ⟨hrunning, ?_⟩
  intro hserving hnone hnot
  have hhidden : ¬ Component.runtime.Reached next.blockedBy := by
    intro hreached
    exact hnot (hrunning.2 ⟨hserving, hreached, fun h hmem hf => absurd hf (hnone h hmem)⟩)
  constructor
  · obtain ⟨existing, hexisting, -⟩ := (Option.any_eq_true _ _).1 hserving
    rw [hphase, hexisting]
    exact phaseFor_eq_starting (fun h hmem hi => hnone h hmem hi.1)
      fun hsome => hhidden (hseen.1 hsome).2
  · obtain ⟨b, hb, hlt, h, hmem, hcomponent, hunready⟩ :=
      Observation.exists_blocker_of_not_reached _ now service hhidden
    exact ⟨b, hb, hlt, h, hmem, hcomponent, hunready, hnone h hmem⟩

def servingRuntime : InferenceService where
  apiVersion := InferenceService.standardApiVersion
  kind := InferenceService.standardKind
  metadata := { (default : PlainMetadata) with
    name := runtimeName cachedService
    «namespace» := "default" }
  spec := default
  status := some ⟨[⟨"Ready", "True", none, none⟩], none, none⟩

def servingSnapshot : Snapshot := { cachedSnapshot with runtime := some servingRuntime }

theorem serving_service_runs :
    ((observe cachedService servingSnapshot Policy.standard).project .epoch
      cachedService).status.status = .running := by
  refine (running_iff_serving_in_sight cachedService servingSnapshot Policy.standard
    .epoch).1.2 ⟨rfl, ?_, ?_⟩
  · decide +kernel
  · decide +kernel

/-- The model of a serving service is being worked on again. -/
def reworkedSnapshot : Snapshot :=
  { servingSnapshot with models := ⟨[], [{ cachedModel with status := some ⟨.progressing⟩ }]⟩ }

/-- Nothing has failed and the runtime serves, and yet the service counts as starting. -/
theorem serving_service_starts_again :
    let next := (observe cachedService reworkedSnapshot Policy.standard).project .epoch
      cachedService
    reworkedSnapshot.runtime.any InferenceService.isReady = true ∧
      (∀ h ∈ next.health, h.state ≠ .failed) ∧ next.status.status = .starting := by
  have hnone : ∀ h ∈ ((observe cachedService reworkedSnapshot Policy.standard).project .epoch
      cachedService).health, h.state ≠ .failed := by decide +kernel
  exact ⟨rfl, hnone, by decide +kernel⟩

end InferenceReconciler
