import InferenceReconciler.Proofs.DomainProjections
import InferenceReconciler.ServicePlan

/-!
# Contents of plans

Each part of a plan holds objects of its own kinds, and a plan is its parts put together.
So the entries for the runtime are those that were planned for the runtime: the whole
object, a patch or none.
-/

namespace InferenceReconciler

namespace Plan

def objects (p : Plan) : List PlannedObject := p.shared ++ p.owned

def ofKind (p : Plan) (kind : ResourceKind) : List PlannedObject :=
  p.objects.filter fun d => d.kind = kind

theorem mem_ofKind {p : Plan} {d : PlannedObject} (h : d ∈ p.objects) : d ∈ p.ofKind d.kind :=
  List.mem_filter.2 ⟨h, decide_eq_true rfl⟩

end Plan

theorem filter_kind_eq {l : List PlannedObject} {k : ResourceKind} (h : ∀ d ∈ l, d.kind = k)
    (kind : ResourceKind) : l.filter (fun d => d.kind = kind) = if k = kind then l else [] := by
  split
  · rename_i hk
    exact List.filter_eq_self.2 fun d hd => by simp [h d hd, hk]
  · rename_i hk
    exact List.filter_eq_nil_iff.2 fun d hd => by simp [h d hd, hk]

theorem kind_of_mem_planned {σ τ : Type} [Wire σ] [Wire τ] {kind : ResourceKind}
    {x : Option (CustomObject σ τ)} :
    ∀ d ∈ (x.map (CustomObject.planned kind)).toList, d.kind = kind := by
  intro d hd
  obtain ⟨o, -, rfl⟩ := Option.map_eq_some_iff.1 (Option.mem_toList.1 hd)
  rfl

theorem ownedObject_eq_ok {service : ServiceObject} {kind : ResourceKind} {name : String}
    {object : Json} {d : PlannedObject} (h : ownedObject service kind name object = .ok d) :
    d.kind = kind ∧ d.name = name ∧ d.mode = .wholeObject := by
  obtain ⟨r, -, rfl⟩ := exists_of_map_eq_ok h
  exact ⟨rfl, rfl, rfl⟩

namespace Observation

variable {o : Observation} {service : ServiceObject} {policy : Policy}

theorem kind_of_mem_plannedVolume {l : List PlannedObject}
    (h : o.plannedVolume service = .ok l) : ∀ d ∈ l, d.kind = .volumeClaim := by
  unfold plannedVolume at h
  split at h
  · cases h
    exact fun d hd => by cases hd
  · obtain ⟨volume, hvolume, rfl⟩ := exists_of_map_eq_ok h
    intro d hd
    rw [List.mem_singleton.1 hd]
    exact (ownedObject_eq_ok hvolume).1

theorem kind_of_mem_plannedRoute {l : List PlannedObject}
    (h : o.plannedRoute service = .ok l) : ∀ d ∈ l, d.kind = .httpRoute := by
  unfold plannedRoute at h
  split at h
  · cases h
    exact fun d hd => by cases hd
  · obtain ⟨route, hroute, rfl⟩ := exists_of_map_eq_ok h
    intro d hd
    rw [List.mem_singleton.1 hd]
    exact (ownedObject_eq_ok hroute).1

/-- What is planned for the runtime. -/
inductive RuntimeEntries (o : Observation) : List PlannedObject → Prop where
  /-- The gate is open, and the runtime is sent as a whole. -/
  | whole (d : PlannedObject) (parts : o.runtimeParts?.isSome = true)
      (kind : d.kind = .inferenceService) (mode : d.mode = .wholeObject) : RuntimeEntries o [d]
  /-- The gate is closed, and the runtime that is there is patched. -/
  | patch (d : PlannedObject) (parts : o.runtimeParts? = none)
      (present : o.runtime.exists = true) (kind : d.kind = .inferenceService)
      (mode : d.mode = .mergePatch) : RuntimeEntries o [d]
  /-- The gate is closed, and there is nothing to patch. -/
  | none (parts : o.runtimeParts? = .none) (absent : o.runtime.exists = false) :
      RuntimeEntries o []

theorem runtimeEntries_of_plannedRuntime {l : List PlannedObject}
    (h : o.plannedRuntime service policy = .ok l) : o.RuntimeEntries l := by
  unfold plannedRuntime at h
  split at h
  · rename_i model template _ hparts
    obtain ⟨runtime, -, h⟩ := exists_of_bind_eq_ok h
    obtain ⟨d, hd, h⟩ := exists_of_bind_eq_ok h
    cases h
    obtain ⟨hkind, -, hmode⟩ := ownedObject_eq_ok hd
    exact .whole d (by rw [hparts]; rfl) hkind hmode
  · rename_i existing hparts hexisting
    obtain ⟨patch, -, h⟩ := exists_of_bind_eq_ok h
    cases h
    exact .patch _ hparts (by unfold RuntimeObservation.exists; rw [hexisting]; rfl) rfl rfl
  · rename_i hparts hexisting
    cases h
    exact .none hparts (by unfold RuntimeObservation.exists; rw [hexisting]; rfl)

theorem RuntimeEntries.kind_of_mem {l : List PlannedObject} (h : o.RuntimeEntries l) :
    ∀ d ∈ l, d.kind = .inferenceService := by
  intro d hd
  cases h with
  | whole e parts kind mode => rw [List.mem_singleton.1 hd, kind]
  | patch e parts present kind mode => rw [List.mem_singleton.1 hd, kind]
  | none parts absent => cases hd

theorem RuntimeEntries.exists_whole_iff {l : List PlannedObject} (h : o.RuntimeEntries l) :
    (∃ d ∈ l, d.mode = .wholeObject) ↔ o.runtimeParts?.isSome = true := by
  cases h with
  | whole d parts kind mode =>
    exact ⟨fun _ => parts, fun _ => ⟨d, List.mem_singleton_self d, mode⟩⟩
  | patch d parts present kind mode =>
    rw [parts]
    constructor
    · rintro ⟨d', hd', hmode⟩
      rw [List.mem_singleton.1 hd', mode] at hmode
      cases hmode
    · intro hsome
      cases hsome
  | none parts absent =>
    rw [parts]
    constructor
    · rintro ⟨d, hd, -⟩
      cases hd
    · intro hsome
      cases hsome

theorem RuntimeEntries.of_closed {l : List PlannedObject} (h : o.RuntimeEntries l)
    (hc : ¬ o.runtimeParts?.isSome = true) :
    (o.runtime.exists = true → ∃ d, l = [d] ∧ d.mode = .mergePatch) ∧
      (o.runtime.exists = false → l = []) := by
  cases h with
  | whole d parts kind mode => exact absurd parts hc
  | patch d parts present kind mode =>
    refine ⟨fun _ => ⟨d, rfl, mode⟩, fun habsent => ?_⟩
    rw [present] at habsent
    cases habsent
  | none parts absent =>
    refine ⟨fun hpresent => ?_, fun _ => rfl⟩
    rw [absent] at hpresent
    cases hpresent

theorem plan_of_config_error (h : o.config.error ≠ none) :
    o.plan service policy = .ok .empty := by
  unfold plan
  rw [if_pos (Option.isSome_iff_ne_none.2 h)]

theorem plan_eq_ok {p : Plan} (he : o.config.error = none)
    (h : o.plan service policy = .ok p) :
    ∃ volume runtime route, o.plannedVolume service = .ok volume ∧
      o.plannedRuntime service policy = .ok runtime ∧ o.plannedRoute service = .ok route ∧
      p = ⟨o.sharedObjects service, volume ++ runtime ++ route, o.deletes⟩ := by
  unfold plan at h
  rw [if_neg (by rw [he]; decide)] at h
  obtain ⟨volume, hvolume, h⟩ := exists_of_bind_eq_ok h
  obtain ⟨runtime, hruntime, h⟩ := exists_of_bind_eq_ok h
  obtain ⟨route, hroute, h⟩ := exists_of_bind_eq_ok h
  cases h
  exact ⟨volume, runtime, route, hvolume, hruntime, hroute, rfl⟩

theorem error_of_mem_objects {p : Plan} {d : PlannedObject}
    (h : o.plan service policy = .ok p) (hd : d ∈ p.objects) : o.config.error = none := by
  by_cases he : o.config.error = none
  · exact he
  · rw [plan_of_config_error he] at h
    cases h
    cases hd

/-- What a plan holds of a kind is what the part for that kind planned. -/
structure PlannedByKind (o : Observation) (service : ServiceObject) (policy : Policy) (p : Plan) :
    Prop where
  model : p.ofKind .model = (o.model.toCreate.map (CustomObject.planned .model)).toList
  template : p.ofKind .template =
    (o.template.toCreate?.map (CustomObject.planned .template)).toList
  templateCache : p.ofKind .templateCache =
    ((o.cacheToCreate? service).map (CustomObject.planned .templateCache)).toList
  volume : o.plannedVolume service = .ok (p.ofKind .volumeClaim)
  runtime : o.plannedRuntime service policy = .ok (p.ofKind .inferenceService)

theorem plannedByKind_of_plan {p : Plan} (he : o.config.error = none)
    (h : o.plan service policy = .ok p) : o.PlannedByKind service policy p := by
  obtain ⟨volume, runtime, route, hvolume, hruntime, hroute, rfl⟩ := plan_eq_ok he h
  have hruntimes := (runtimeEntries_of_plannedRuntime hruntime).kind_of_mem
  have hvolumes := kind_of_mem_plannedVolume hvolume
  have hroutes := kind_of_mem_plannedRoute hroute
  constructor
  all_goals
    simp only [Plan.ofKind, Plan.objects, sharedObjects, List.filter_append,
      filter_kind_eq kind_of_mem_planned, filter_kind_eq hvolumes, filter_kind_eq hruntimes,
      filter_kind_eq hroutes]
    simp [hvolume, hruntime]

/-- The entries for the runtime are those planned for it; no other part has any. -/
theorem runtimeEntries_of_plan {p : Plan} (he : o.config.error = none)
    (h : o.plan service policy = .ok p) : o.RuntimeEntries (p.ofKind .inferenceService) :=
  runtimeEntries_of_plannedRuntime (plannedByKind_of_plan he h).runtime

theorem deletes_of_plan {p : Plan} (h : o.plan service policy = .ok p) :
    ∀ d ∈ p.deletes, d.kind = .modelCache ∧ d.name ∈ o.caching.retryDeletes := by
  by_cases he : o.config.error = none
  · obtain ⟨volume, runtime, route, -, -, -, rfl⟩ := plan_eq_ok he h
    intro d hd
    obtain ⟨name, hname, rfl⟩ := List.mem_map.1 hd
    exact ⟨rfl, hname⟩
  · rw [plan_of_config_error he] at h
    cases h
    exact fun d hd => by cases hd

end Observation

end InferenceReconciler
