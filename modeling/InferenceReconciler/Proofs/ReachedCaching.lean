import InferenceReconciler.Proofs.OpenGate

/-!
# Reaching the caches

The domains before caching keep it from being looked at exactly where something is wrong with
the configuration or no ready template is resolved; a template is only resolved for a ready
model, so the model never blocks on its own. What the planner takes for granted about these
domains is therefore what the projection needs to get past them.
-/

namespace InferenceReconciler

theorem ConfigObservation.blocking_project_eq_false {o : ConfigObservation} :
    o.project.blocking = false ↔ o.error = none := by
  unfold project
  split
  · rename_i p hp
    simp [hp]
  · rename_i hnone
    simp [hnone]

theorem ModelRecord.blocking_project_eq_false (r : ModelRecord) :
    r.project.blocking = false ↔ r.status = .ready := by
  unfold project
  split <;> rename_i hs <;> simp [hs]

namespace ModelObservation

/-- A model is found, or one is created, or there is a problem with it. -/
inductive Decided : ModelObservation → Prop where
  | found (r : ModelRecord) : Decided (.found r)
  | creating (o : ModelObject) : Decided (.creating o)
  | failed (p : Problem) : Decided (.failed p)

theorem Decided.blocking_project_eq_false {o : ModelObservation} (h : o.Decided) :
    o.project.blocking = false ↔ o.ready?.isSome = true := by
  cases h with
  | found r =>
    change r.project.blocking = false ↔ ((some r).filter fun m => m.status.isReady).isSome = true
    rw [r.blocking_project_eq_false]
    simp [LifecycleStatus.isReady]
  | creating o => exact ⟨fun hfalse => (by cases hfalse), fun hready => (by cases hready)⟩
  | failed p => exact ⟨fun hfalse => (by cases hfalse), fun hready => (by cases hready)⟩

end ModelObservation

theorem decided_resolveByName (name : String) (records : List ModelRecord) :
    (resolveByName name records).Decided := by
  unfold resolveByName
  dsimp only
  split
  · exact .found _
  · exact .failed _

theorem decided_of_resolveImageInScope {image : String} {scope : ResourceScope}
    {records : List ModelRecord} {o : ModelObservation}
    (h : resolveImageInScope image scope records = some o) : o.Decided := by
  unfold resolveImageInScope at h
  split at h
  · cases h
  · cases h
    exact .found _
  · cases h
    exact .failed _

theorem decided_resolveByImage (image ofNamespace : String) (records : List ModelRecord) :
    (resolveByImage image ofNamespace records).Decided := by
  unfold resolveByImage
  split
  · rename_i o ho
    rcases eq_some_or_of_orElse ho with hn | hc
    · exact decided_of_resolveImageInScope hn
    · exact decided_of_resolveImageInScope hc
  · split
    · exact .failed _
    · exact .creating _

theorem decided_resolveCustom (m : CustomModel) (ofNamespace : String)
    (records : List ModelRecord) : (resolveCustom m ofNamespace records).Decided := by
  unfold resolveCustom
  split
  · exact .failed _
  · split
    · exact .failed _
    · split
      · exact .found _
      · exact .creating _

theorem decided_observeModel (service : ServiceObject) (records : List ModelRecord) :
    (observeModel service records).Decided := by
  unfold observeModel
  dsimp only
  split
  · exact .failed _
  · exact decided_resolveByName _ _
  · exact decided_resolveByImage _ _ _
  · exact decided_resolveCustom _ _ _

theorem TemplateObservation.blocking_project_eq_false {o : TemplateObservation} :
    o.project.blocking = false ↔ ∃ t, o.ready? = some t := by
  constructor
  · intro h
    obtain ⟨t, ht, hready, -⟩ := update_of_not_blocking h
    exact ⟨t, ready?_eq_some_iff.2 ⟨ht, decide_eq_true hready⟩⟩
  · rintro ⟨t, h⟩
    obtain ⟨ht, hready⟩ := ready?_eq_some_iff.1 h
    have hs : t.status.status = .ready := of_decide_eq_true hready
    unfold project
    rw [ht]
    simp only [TemplateRecord.project, hs]
    rfl

theorem isSome_of_ready?_observeTemplate {service : ServiceObject} {model : Option ModelRecord}
    {templates : List TemplateRecord} {gpus : List String} {t : TemplateRecord}
    (h : (observeTemplate service model templates gpus).ready? = some t) :
    model.isSome = true := by
  cases model with
  | none =>
    obtain ⟨ht, -⟩ := TemplateObservation.ready?_eq_some_iff.1 h
    rw [outcome_observeTemplate_of_not_ready service rfl] at ht
    cases ht
  | some m => rfl

variable {service : ServiceObject} {snapshot : Snapshot} {policy : Policy}

/-- The caches are looked at if and only if the configuration is right and there is a ready
template. -/
theorem reached_caching_iff (now : Timestamp) (prior : ServiceObject) :
    Component.caching.Reached
        ((observe service snapshot policy).project now prior).blockedBy ↔
      (observe service snapshot policy).config.error = none ∧
        ∃ t, (observe service snapshot policy).template.ready? = some t := by
  rw [Observation.reached_blockedBy_iff, ← ConfigObservation.blocking_project_eq_false,
    ← TemplateObservation.blocking_project_eq_false]
  constructor
  · intro h
    exact ⟨h .config (by decide), h .template (by decide)⟩
  · rintro ⟨hconfig, htemplate⟩ c hc
    cases c with
    | config => exact hconfig
    | model =>
      obtain ⟨t, ht⟩ := TemplateObservation.blocking_project_eq_false.1 htemplate
      exact (decided_observeModel _ _).blocking_project_eq_false.2
        (isSome_of_ready?_observeTemplate ht)
    | template => exact htemplate
    | caching => exact absurd hc (by decide)
    | storage => exact absurd hc (by decide)
    | runtime => exact absurd hc (by decide)
    | routing => exact absurd hc (by decide)

end InferenceReconciler
