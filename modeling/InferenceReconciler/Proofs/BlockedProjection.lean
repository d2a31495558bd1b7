import InferenceReconciler.Proofs.DomainProjections

/-!
# Blocked projections

What a blocking component keeps from the status. The conditions of the components behind it
stay as they were, to the times of transition. Those up to and including it say what their
domains reported, and nothing is left of a domain that reported no health. What lies behind
the blocker in an observation does not show in the status at all.
-/

namespace InferenceReconciler

/-- The conditions say what the report says: its health and nothing else, or nothing. -/
def Report.ShownBy (r : Report) (l : List Condition) : Prop :=
  match r with
  | .health h => ∃ since, l = [h.condition since]
  | _ => l = []

theorem Report.shownBy_applyConditions {r : Report} {c : Component}
    (hc : r.component? = some c) (now : Timestamp) {l : List Condition} (hl : l.length ≤ 1)
    (ht : ∀ d ∈ l, d.type = c.conditionType) : r.ShownBy (r.applyConditions now l) := by
  cases r with
  | silent => cases hc
  | notApplicable d =>
    cases hc
    exact List.filter_eq_nil_iff.2 fun e he => by simp [ht e he]
  | health h =>
    cases hc
    cases l with
    | nil => exact ⟨now, rfl⟩
    | cons old rest =>
      have hrest : rest = [] := List.eq_nil_of_length_eq_zero (by simpa using hl)
      have hto : old.type = (h.condition now).type := ht old List.mem_cons_self
      rw [applyConditions, setCondition, if_pos hto, hrest]
      by_cases hs : old.status = (h.condition now).status
      · exact ⟨old.lastTransitionTime, by rw [Condition.succeeding, if_pos hs]; rfl⟩
      · exact ⟨now, by rw [Condition.succeeding, if_neg hs]⟩

theorem exists_mem_setCondition (new : Condition) (l : List Condition) :
    ∃ d ∈ setCondition new l, ∃ since, d = { new with lastTransitionTime := since } := by
  induction l with
  | nil => exact ⟨new, List.mem_singleton_self new, new.lastTransitionTime, rfl⟩
  | cons old rest ih =>
    unfold setCondition
    split
    · refine ⟨old.succeeding new, List.mem_cons_self, ?_⟩
      unfold Condition.succeeding
      split
      · exact ⟨old.lastTransitionTime, rfl⟩
      · exact ⟨new.lastTransitionTime, rfl⟩
    · obtain ⟨d, hd, hsame⟩ := ih
      exact ⟨d, List.mem_cons_of_mem old hd, hsame⟩

/-- A condition of the status says what the health says. -/
def ServiceStatus.Shows (s : ServiceStatus) (h : ComponentHealth) : Prop :=
  ∃ d ∈ s.conditions, ∃ since, d = h.condition since

namespace Observation

/-- Two observations make the same of the domain of a component. Caching and storage are
reported by one domain. -/
def AgreesOn (o o' : Observation) : Component → Prop
  | .config => o.config = o'.config
  | .model => o.model = o'.model
  | .template => o.template = o'.template
  | .caching => o.caching = o'.caching
  | .storage => o.caching = o'.caching
  | .runtime => o.runtime = o'.runtime
  | .routing => o.route = o'.route

theorem projectionOf_congr {o o' : Observation} {c : Component} (h : o.AgreesOn o' c)
    (prior : ServiceStatus) : o.projectionOf prior c = o'.projectionOf prior c := by
  cases c with
  | config => exact congrArg ConfigObservation.project h
  | model => exact congrArg ModelObservation.project h
  | template => exact congrArg TemplateObservation.project h
  | caching => exact congrArg (fun caching => caching.projectCaching prior.cache) h
  | storage => exact congrArg CachingObservation.projectStorage h
  | runtime => exact congrArg RuntimeObservation.project h
  | routing => exact congrArg RouteObservation.project h

variable (o : Observation) (now : Timestamp) (service : ServiceObject)

theorem mem_reports {c : Component}
    (hc : c.Reached (o.project now service).blockedBy) :
    (o.projectionOf service.lastStatus c).report ∈
      (reachedProjections (o.projections service.lastStatus)).map (·.report) := by
  rw [blockedBy_project] at hc
  rw [reachedProjections_projections, List.map_map]
  apply List.mem_map.2
  exact ⟨c, List.mem_filter.2 ⟨c.mem_all, decide_eq_true hc⟩, rfl⟩

theorem component?_ne_of_not_reached {c : Component}
    (hc : ¬ c.Reached (o.project now service).blockedBy) :
    ∀ r ∈ (reachedProjections (o.projections service.lastStatus)).map (·.report),
      r.component? ≠ some c := by
  rw [blockedBy_project] at hc
  rw [reachedProjections_projections, List.map_map]
  intro r hr hrc
  obtain ⟨d, hd, rfl⟩ := List.mem_map.1 hr
  have hdc : some d = some c := (o.projectionOf_belongsTo _ d).component?.symm.trans hrc
  cases hdc
  exact hc (of_decide_eq_true (List.mem_filter.1 hd).2)

theorem conditionsOfType_project_of_not_reached {c : Component}
    (hc : ¬ c.Reached (o.project now service).blockedBy) :
    conditionsOfType c.conditionType (o.project now service).status.conditions =
      conditionsOfType c.conditionType service.lastStatus.conditions := by
  rw [conditions_project]
  exact conditionsOfType_applyReports_of_not_mem now _ (o.component?_ne_of_not_reached now _ hc)

theorem conditionsOfType_project_of_reached {c : Component}
    (hc : c.Reached (o.project now service).blockedBy) :
    conditionsOfType c.conditionType (o.project now service).status.conditions =
      (o.projectionOf service.lastStatus c).report.applyConditions now
        (conditionsOfType c.conditionType service.lastStatus.conditions) := by
  rw [conditions_project]
  exact conditionsOfType_applyReports_of_mem now _ (o.mem_reports now service hc)
    (o.projectionOf_belongsTo _ c).component? (o.reports_once _).reached

/-- A health that is reached shows in a condition of its component, at whatever time. -/
theorem shows_of_reached {c : Component} {h : ComponentHealth}
    (hc : c.Reached (o.project now service).blockedBy)
    (hh : (o.projectionOf service.lastStatus c).report = .health h) :
    (o.project now service).status.Shows h := by
  have hconditions := o.conditionsOfType_project_of_reached now service hc
  rw [hh] at hconditions
  obtain ⟨d, hd, hsame⟩ := exists_mem_setCondition (h.condition now)
    (conditionsOfType c.conditionType service.lastStatus.conditions)
  refine ⟨d, ?_, hsame⟩
  have hmem : d ∈ conditionsOfType c.conditionType (o.project now service).status.conditions :=
    hconditions ▸ hd
  exact (List.mem_filter.1 hmem).1

theorem project_congr {o o' : Observation} {now : Timestamp} {service : ServiceObject}
    (h : ∀ c : Component, c.Reached (o.project now service).blockedBy → o'.AgreesOn o c)
    (he : o'.runtime.exists = o.runtime.exists) :
    o'.project now service = o.project now service := by
  have hreach := reached_congr (f := o.projectionOf service.lastStatus)
    (g := o'.projectionOf service.lastStatus)
    (fun c => (o.projectionOf_belongsTo _ c).component?) Component.all_sorted
    fun c _ hc => projectionOf_congr (h c (by rw [blockedBy_project]; exact hc)) _
  have hfold : foldProjections now service.lastStatus [] (o'.projections service.lastStatus) =
      foldProjections now service.lastStatus [] (o.projections service.lastStatus) := by
    rw [foldProjections_eq, foldProjections_eq, projections_eq_map, projections_eq_map,
      hreach.1, hreach.2]
  simp only [ServiceObject.lastStatus] at hfold
  simp only [project, reduceStatus, hfold, he]

/-- A service of no known model whose runtime once failed. -/
def orphanedService : ServiceObject where
  metadata := { Metadata.empty with name := some "chat", «namespace» := some "default" }
  spec := { (default : ServiceSpec) with model := ⟨some "llama", none, none⟩ }
  status := some { ServiceStatus.initial with
    conditions := [⟨"ConfigResolved", .fails, "ConfigNotFound", "no such config", .epoch⟩,
      ⟨"RuntimeReady", .fails, "RuntimeFailed", "out of memory", .epoch⟩] }

end Observation

end InferenceReconciler
