import InferenceReconciler.Proofs.PlanEntries

/-!
# Ownership

What is shared belongs to nobody, and what is owned belongs to the service: a whole object in the
owned part of a plan has one owner in its metadata, the service by its name and identifier. A
service that cannot be named as an owner gets no plan with an owned object in it, whichever part
would have had it.
-/

namespace InferenceReconciler

/-- How a part of a plan comes out that may have whole objects of the service: with an owner they
are planned, without one the part fails as the owner does, and where none are called for there is
nothing to fail. -/
inductive OwnedPart (service : ServiceObject) (needed : Prop) :
    Except Fault (List PlannedObject) → Prop where
  | owned {l : List PlannedObject} (r : OwnerReference) (owner : ownerReference service = .ok r)
      (called : needed) (sent : ∃ d ∈ l, d.mode = .wholeObject) : OwnedPart service needed (.ok l)
  | ownerless {f : Fault} (owner : ownerReference service = .error f) (called : needed) :
      OwnedPart service needed (.error f)
  | spared {l : List PlannedObject} (spared : ¬ needed) (patched : ∀ d ∈ l, d.mode ≠ .wholeObject) :
      OwnedPart service needed (.ok l)

namespace OwnedPart

variable {service : ServiceObject} {needed needed' : Prop}

theorem nil (h : ¬ needed) : OwnedPart service needed (.ok []) :=
  .spared h fun _ hd => absurd hd List.not_mem_nil

theorem of_ownedObject (kind : ResourceKind) (name : String) (object : Json) (h : needed) :
    OwnedPart service needed ((ownedObject service kind name object).map ([·])) := by
  unfold ownedObject
  cases hr : ownerReference service with
  | error f => exact .ownerless hr h
  | ok r => exact .owned r hr h ⟨_, List.mem_singleton_self _, rfl⟩

theorem append {x y : Except Fault (List PlannedObject)} (hx : OwnedPart service needed x)
    (hy : OwnedPart service needed' y) :
    OwnedPart service (needed ∨ needed') (do return (← x) ++ (← y)) := by
  cases hx with
  | ownerless owner called => exact .ownerless owner (Or.inl called)
  | owned r owner called sent =>
    cases hy with
    | ownerless owner' called' =>
      rw [owner] at owner'
      cases owner'
    | owned r' owner' called' sent' =>
      obtain ⟨d, hd, hmode⟩ := sent
      exact .owned r owner (Or.inl called) ⟨d, List.mem_append_left _ hd, hmode⟩
    | spared spared patched =>
      obtain ⟨d, hd, hmode⟩ := sent
      exact .owned r owner (Or.inl called) ⟨d, List.mem_append_left _ hd, hmode⟩
  | spared spared patched =>
    cases hy with
    | ownerless owner' called' => exact .ownerless owner' (Or.inr called')
    | owned r' owner' called' sent' =>
      obtain ⟨d, hd, hmode⟩ := sent'
      exact .owned r' owner' (Or.inr called') ⟨d, List.mem_append_right _ hd, hmode⟩
    | spared spared' patched' =>
      refine .spared (fun hor => hor.elim spared spared') ?_
      intro d hd
      rcases List.mem_append.1 hd with hd | hd
      · exact patched d hd
      · exact patched' d hd

theorem exists_ok {x : Except Fault (List PlannedObject)} (h : OwnedPart service needed x)
    {r : OwnerReference} (hr : ownerReference service = .ok r) :
    ∃ l, x = .ok l ∧ ((∃ d ∈ l, d.mode = .wholeObject) ↔ needed) := by
  cases h with
  | owned r' owner called sent => exact ⟨_, rfl, fun _ => called, fun _ => sent⟩
  | ownerless owner called =>
    rw [hr] at owner
    cases owner
  | spared spared patched =>
    refine ⟨_, rfl, ?_, fun hn => absurd hn spared⟩
    rintro ⟨d, hd, hmode⟩
    exact absurd hmode (patched d hd)

theorem eq_error_iff {x : Except Fault (List PlannedObject)} (h : OwnedPart service needed x)
    {f : Fault} (hf : ownerReference service = .error f) (f' : Fault) :
    x = .error f' ↔ f' = f ∧ needed := by
  cases h with
  | owned r owner called sent =>
    rw [hf] at owner
    cases owner
  | ownerless owner called =>
    rw [hf] at owner
    cases owner
    exact ⟨fun he => ⟨(Except.error.inj he).symm, called⟩, fun he => by rw [he.1]⟩
  | spared spared patched => exact ⟨fun he => (by cases he), fun he => absurd he.2 spared⟩

end OwnedPart

namespace Observation

variable (o : Observation) (service : ServiceObject) (policy : Policy)

/-- The resources of the runtime can be computed, for whatever template is ready. -/
def Scales : Prop :=
  ∀ t, o.template.ready? = some t → (runtimeResources service.spec t policy).isOk = true

/-- There is a volume to create, a runtime to send or a route to send. -/
def OwnsWhole : Prop :=
  (o.volumeToCreate?.isSome = true ∨ o.runtimeParts?.isSome = true) ∨
    (o.route.plannable?.filter fun _ => o.runtime.isOpen || o.runtime.exists).isSome = true

variable {o service policy}

theorem ownedPart_plannedVolume :
    OwnedPart service (o.volumeToCreate?.isSome = true) (o.plannedVolume service) := by
  unfold plannedVolume
  split
  · rename_i hnone
    exact .nil (by rw [hnone]; decide)
  · rename_i hsome
    exact .of_ownedObject _ _ _ (by rw [hsome]; rfl)

theorem ownedPart_plannedRoute :
    OwnedPart service ((o.route.plannable?.filter fun _ =>
      o.runtime.isOpen || o.runtime.exists).isSome = true) (o.plannedRoute service) := by
  unfold plannedRoute
  split
  · rename_i hnone
    exact .nil (by rw [hnone]; decide)
  · rename_i hsome
    exact .of_ownedObject _ _ _ (by rw [hsome]; rfl)

theorem exists_runtimeFor {t : TemplateRecord}
    (h : (runtimeResources service.spec t policy).isOk = true) (name : String) (m : ModelRecord)
    (caching : CachingObservation) (config : EffectiveConfig) :
    ∃ runtime, runtimeFor service name m t caching config policy = .ok runtime := by
  obtain ⟨resources, hresources⟩ := exists_of_isOk h
  unfold runtimeFor
  rw [hresources]
  exact ⟨_, rfl⟩

theorem exists_mutableFieldsPatch (hs : o.Scales service policy) (existing : InferenceService) :
    ∃ patch, mutableFieldsPatch service existing o.template.ready? policy = .ok patch := by
  have hcontainers : ∃ containers,
      patchedContainers service existing o.template.ready? policy = .ok containers := by
    unfold patchedContainers
    split
    · exact ⟨_, rfl⟩
    · rename_i t ht
      obtain ⟨resources, hresources⟩ := exists_of_isOk (hs t ht)
      rw [hresources]
      dsimp only
      split <;> exact ⟨_, rfl⟩
  obtain ⟨containers, hcontainers⟩ := hcontainers
  unfold mutableFieldsPatch
  rw [hcontainers]
  exact ⟨_, rfl⟩

theorem ownedPart_plannedRuntime (hs : o.Scales service policy) :
    OwnedPart service (o.runtimeParts?.isSome = true) (o.plannedRuntime service policy) := by
  unfold plannedRuntime
  split
  · rename_i m t hparts
    obtain ⟨runtime, hruntime⟩ := exists_runtimeFor (hs t (runtimeParts?_eq_some hparts).2)
      o.runtime.name m o.caching o.config.effective
    rw [hruntime]
    exact .of_ownedObject _ _ _ (by rw [hparts]; rfl)
  · rename_i existing hparts _
    obtain ⟨patch, hpatch⟩ := exists_mutableFieldsPatch hs existing
    rw [hpatch]
    refine .spared (by rw [hparts]; decide) ?_
    intro d hd hmode
    rw [List.mem_singleton.1 hd] at hmode
    cases hmode
  · rename_i hparts _
    exact .nil (by rw [hparts]; decide)

/-- The owned part of a plan is put together from its parts, and nothing else can fail. -/
theorem exists_ownedPart (hs : o.Scales service policy) (he : o.config.error = none) :
    ∃ x, OwnedPart service o.OwnsWhole x ∧
      o.plan service policy = x.map fun owned => ⟨o.sharedObjects service, owned, o.deletes⟩ := by
  refine ⟨_, (ownedPart_plannedVolume.append (ownedPart_plannedRuntime hs)).append
    ownedPart_plannedRoute, ?_⟩
  unfold plan
  rw [if_neg (by rw [he]; decide)]
  cases o.plannedVolume service with
  | error f => rfl
  | ok volume =>
    cases o.plannedRuntime service policy with
    | error f => rfl
    | ok runtime => cases o.plannedRoute service <;> rfl

end Observation

def ServiceObject.identified (service : ServiceObject) (uid : String) : ServiceObject :=
  { service with metadata := { service.metadata with uid := some uid } }

section

variable {o : Observation} {service : ServiceObject} {policy : Policy}

theorem ownerReference_eq_ok {r : OwnerReference} (h : ownerReference service = .ok r) :
    service.metadata.name = some r.name ∧ service.metadata.uid = some r.uid := by
  unfold ownerReference at h
  split at h
  · rename_i name uid hname huid
    cases h
    exact ⟨hname, huid⟩
  · cases h

theorem ownerReference_of_uid_none (h : service.metadata.uid = none) :
    ownerReference service = .error (.internal "plan" "service has no uid") := by
  unfold ownerReference
  rw [h]
  split
  · rename_i huid
    cases huid
  · rfl

theorem ownerReference_identified {name : String} (h : service.metadata.name = some name)
    (uid : String) : ownerReference (service.identified uid) = .ok ⟨name, uid⟩ := by
  unfold ownerReference ServiceObject.identified
  rw [h]

namespace Observation

/-- A plan for a service that is no owner fails if and only if whole objects of its own are
called for. -/
theorem plan_eq_error_iff (hs : o.Scales service policy) {f : Fault}
    (hf : ownerReference service = .error f) (f' : Fault) :
    o.plan service policy = .error f' ↔ f' = f ∧ o.config.error = none ∧ o.OwnsWhole := by
  by_cases he : o.config.error = none
  · obtain ⟨x, hx, hplan⟩ := exists_ownedPart hs he
    rw [hplan, and_iff_right he, ← hx.eq_error_iff hf f']
    cases x with
    | error f =>
      exact ⟨fun h => congrArg Except.error (Except.error.inj h),
        fun h => congrArg Except.error (Except.error.inj h)⟩
    | ok l => exact ⟨fun h => (by cases h), fun h => (by cases h)⟩
  · rw [plan_of_config_error he]
    exact ⟨fun h => (by cases h), fun h => absurd h.2.1 he⟩

theorem exists_plan (hs : o.Scales service policy) {r : OwnerReference}
    (hr : ownerReference service = .ok r) :
    ∃ plan, o.plan service policy = .ok plan ∧
      ((∃ d ∈ plan.owned, d.mode = .wholeObject) ↔ o.config.error = none ∧ o.OwnsWhole) := by
  by_cases he : o.config.error = none
  · obtain ⟨x, hx, hplan⟩ := exists_ownedPart hs he
    obtain ⟨l, rfl, howned⟩ := hx.exists_ok hr
    exact ⟨_, hplan, howned.trans (and_iff_right he).symm⟩
  · refine ⟨.empty, plan_of_config_error he, ?_, fun h => absurd h.1 he⟩
    rintro ⟨d, hd, -⟩
    cases hd

end Observation

end

/-- The cached service before it has an identifier. -/
def anonymousService : ServiceObject :=
  { cachedService with metadata := { cachedService.metadata with uid := none } }

end InferenceReconciler
