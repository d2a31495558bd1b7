import InferenceReconciler.Proofs.CacheBookkeeping
import InferenceReconciler.Proofs.PlanContents

/-!
# The open gate

When a plan holds a runtime, said in terms of the snapshot: a configuration without a
problem, a ready model, a ready template, and the weights in the place that the service
wants them in. Behind a closed gate a runtime is at most patched, and whatever the gate
does, a plan deletes nothing but failed model caches.
-/

namespace InferenceReconciler

def CacheFetch.sharedStatus? (f : CacheFetch) (t : TemplateRecord) : Option LifecycleStatus :=
  (f.templateCaches.find? fun c =>
    c.displayName = t.name && c.spec.templateName = t.name).map fun c =>
      (c.status.map (·.status)).getD .pending

section

variable (service : ServiceObject) (snapshot : Snapshot) (policy : Policy) (t : TemplateRecord)

/-- A service that only prefers the shared cache goes for it as long as there is one, or the
template wants one, and it has not failed with the budget spent. -/
def GoesForShared : Prop :=
  ((snapshot.caches.sharedStatus? t).isSome = true ∨
    t.spec.caching.any (·.enabled) = true) ∧
  ¬ (snapshot.caches.sharedStatus? t = some .failed ∧
    policy.cacheRetryBudget ≤ service.lastStatus.retryAttempts)

/-- The weights are where the service wants them: in a ready shared cache, or in a volume of
its own that is there. -/
def WeightsInPlace : CachingIntent → Prop
  | .requireShared => snapshot.caches.sharedStatus? t = some .ready
  | .requireDedicated => snapshot.caches.claim.isSome = true
  | .preferShared =>
    (GoesForShared service snapshot policy t → snapshot.caches.sharedStatus? t = some .ready) ∧
    (¬ GoesForShared service snapshot policy t → snapshot.caches.claim.isSome = true)

end

/-- Everything that a runtime of the model and the template needs is there. -/
structure GateOpen (service : ServiceObject) (snapshot : Snapshot) (policy : Policy)
    (m : ModelRecord) (t : TemplateRecord) : Prop where
  config : (observe service snapshot policy).config.error = none
  model : (observe service snapshot policy).model.resolved = some m
  modelReady : m.status = .ready
  template : (observe service snapshot policy).template.outcome = .resolved t
  templateReady : t.status.status = .ready
  weights : ∃ intent, CachingIntent.ofService service.spec = .ok intent ∧
    WeightsInPlace service snapshot policy t intent

section

variable {service : ServiceObject} {snapshot : Snapshot} {policy : Policy} {t : TemplateRecord}

theorem sharedCacheOf?_map_status (ofNamespace : String) (caches : CacheFetch) :
    (sharedCacheOf? t ofNamespace caches.templateCaches).map (·.status) =
      caches.sharedStatus? t := by
  unfold sharedCacheOf? CacheFetch.sharedStatus?
  rw [Option.map_map]
  rfl

theorem any_status_iff {cache : Option SharedCache}
    (hc : cache.map (·.status) = snapshot.caches.sharedStatus? t) (s : LifecycleStatus) :
    (cache.any fun c => c.status = s) = true ↔ snapshot.caches.sharedStatus? t = some s := by
  rw [← hc]
  cases cache with
  | none => simp
  | some c => simp

theorem goesForShared_iff {cache : Option SharedCache}
    (hc : cache.map (·.status) = snapshot.caches.sharedStatus? t) :
    GoesForShared service snapshot policy t ↔
      ((cache.isSome || t.spec.caching.any (·.enabled)) &&
        !((cache.any fun c => c.status = .failed) &&
          decide (policy.cacheRetryBudget ≤ service.lastStatus.retryAttempts))) = true := by
  have hsome : cache.isSome = (snapshot.caches.sharedStatus? t).isSome := by
    rw [← hc, Option.isSome_map]
  unfold GoesForShared
  rw [Bool.and_eq_true, Bool.or_eq_true, Bool.not_eq_true', ← Bool.not_eq_true,
    Bool.and_eq_true, any_status_iff hc, decide_eq_true_eq, hsome]

variable (service policy) in
/-- The shared cache is chosen where it is demanded, and where it is preferred and gone
for. -/
theorem chooseStorage_eq_iff {cache : Option SharedCache}
    (hc : cache.map (·.status) = snapshot.caches.sharedStatus? t) (intent : CachingIntent) :
    chooseStorage intent (cache.isSome || t.spec.caching.any (·.enabled))
        ((cache.any fun c => c.status = .failed) &&
          decide (policy.cacheRetryBudget ≤ service.lastStatus.retryAttempts)) =
        .sharedCache ↔
      intent = .requireShared ∨
        intent = .preferShared ∧ GoesForShared service snapshot policy t := by
  rw [goesForShared_iff hc]
  cases intent with
  | requireShared => simp [chooseStorage]
  | requireDedicated => simp [chooseStorage]
  | preferShared =>
    simp only [chooseStorage, reduceCtorEq, false_or, true_and]
    split
    · rename_i hshared
      exact ⟨fun _ => hshared, fun _ => rfl⟩
    · rename_i hvolume
      exact ⟨fun h => (by cases h), fun h => absurd h hvolume⟩

theorem weightsInPlace_iff_of_shared {intent : CachingIntent}
    (h : intent = .requireShared ∨
      intent = .preferShared ∧ GoesForShared service snapshot policy t) :
    WeightsInPlace service snapshot policy t intent ↔
      snapshot.caches.sharedStatus? t = some .ready := by
  rcases h with rfl | ⟨rfl, hgoes⟩
  · exact Iff.rfl
  · exact ⟨fun hw => hw.1 hgoes, fun hr => ⟨fun _ => hr, fun hn => absurd hgoes hn⟩⟩

theorem weightsInPlace_iff_of_volume {intent : CachingIntent}
    (h : ¬ (intent = .requireShared ∨
      intent = .preferShared ∧ GoesForShared service snapshot policy t)) :
    WeightsInPlace service snapshot policy t intent ↔ snapshot.caches.claim.isSome = true := by
  cases intent with
  | requireShared => exact absurd (Or.inl rfl) h
  | requireDedicated => exact Iff.rfl
  | preferShared =>
    have hvolume : ¬ GoesForShared service snapshot policy t := fun hg => h (Or.inr ⟨rfl, hg⟩)
    exact ⟨fun hw => hw.2 hvolume, fun hv => ⟨fun hg => absurd hg hvolume, fun _ => hv⟩⟩

theorem storageReady_observeCaching (h : t.isReady = true) (model : Option ModelRecord)
    (config : EffectiveConfig) (intent : CachingIntent) :
    (observeCaching service (some t) model snapshot.caches config intent policy).storageReady =
        true ↔ WeightsInPlace service snapshot policy t intent := by
  have hc := sharedCacheOf?_map_status (t := t) (service.metadata.namespace.getD "")
    snapshot.caches
  have hchoice := chooseStorage_eq_iff service policy hc intent
  rw [service.retryAttempts_lastStatus] at hchoice
  simp only [observeCaching, Option.filter_some, h, if_true]
  split
  · rename_i hs
    rw [weightsInPlace_iff_of_shared (hchoice.1 hs), ← any_status_iff hc]
    rfl
  · rename_i hs
    have hvolume : ¬ (intent = .requireShared ∨
        intent = .preferShared ∧ GoesForShared service snapshot policy t) := by
      intro hshared
      rw [hchoice.2 hshared] at hs
      cases hs
    rw [weightsInPlace_iff_of_volume hvolume]
    rfl

theorem intent_of_error_none (h : (observe service snapshot policy).config.error = none) :
    CachingIntent.ofService service.spec =
      .ok (observe service snapshot policy).config.intent := by
  have hproblem : configProblem? service.spec snapshot.configs.reference? = none := h
  cases hof : CachingIntent.ofService service.spec with
  | ok intent => simp only [observe, observeConfig, hof]
  | error p =>
    unfold configProblem? at hproblem
    rw [hof] at hproblem
    dsimp only at hproblem
    split at hproblem <;> cases hproblem

theorem TemplateObservation.ready?_eq_some_iff {o : TemplateObservation} :
    o.ready? = some t ↔ o.outcome = .resolved t ∧ t.isReady = true := by
  unfold ready? resolved?
  rw [Option.filter_eq_some_iff]
  cases o.outcome <;> simp

theorem caching_of_ready {t : TemplateRecord}
    (h : (observe service snapshot policy).template.ready? = some t) :
    (observe service snapshot policy).caching =
      observeCaching service (some t) (observe service snapshot policy).model.resolved
        snapshot.caches (observe service snapshot policy).config.effective
        (observe service snapshot policy).config.intent policy := by
  rw [← h]
  rfl

theorem storageReady_iff
    (ht : (observe service snapshot policy).template.ready? = some t) :
    (observe service snapshot policy).caching.storageReady = true ↔
      WeightsInPlace service snapshot policy t
        (observe service snapshot policy).config.intent := by
  rw [caching_of_ready ht]
  exact storageReady_observeCaching (TemplateObservation.ready?_eq_some_iff.1 ht).2 _ _ _

theorem isOpen_runtime_iff :
    (observe service snapshot policy).runtime.isOpen = true ↔
      ((observe service snapshot policy).model.resolved.any fun m => m.status.isReady) = true ∧
      ((observe service snapshot policy).template.resolved?.any TemplateRecord.isReady) = true ∧
      (observe service snapshot policy).caching.storageReady = true := by
  unfold RuntimeObservation.isOpen
  rw [List.isEmpty_iff]
  exact waitingFor_eq_nil

/-- The observers open the gate if and only if everything is there. -/
theorem gateOpen_iff (he : (observe service snapshot policy).config.error = none)
    {m : ModelRecord} :
    GateOpen service snapshot policy m t ↔
      (observe service snapshot policy).model.resolved = some m ∧
      (observe service snapshot policy).template.ready? = some t ∧
      (observe service snapshot policy).runtime.isOpen = true := by
  have hintent := intent_of_error_none he
  rw [isOpen_runtime_iff]
  constructor
  · intro hgate
    have htready : t.isReady = true := decide_eq_true hgate.templateReady
    have ht := TemplateObservation.ready?_eq_some_iff.2 ⟨hgate.template, htready⟩
    have hresolved : (observe service snapshot policy).template.resolved? = some t := by
      unfold TemplateObservation.resolved?
      rw [hgate.template]
    obtain ⟨intent, hof, hweights⟩ := hgate.weights
    rw [hintent] at hof
    cases hof
    rw [hgate.model, hresolved]
    exact ⟨rfl, ht, decide_eq_true hgate.modelReady, htready, (storageReady_iff ht).2 hweights⟩
  · rintro ⟨hm, ht, hmready, -, hstorage⟩
    obtain ⟨houtcome, htready⟩ := TemplateObservation.ready?_eq_some_iff.1 ht
    rw [hm] at hmready
    exact {
      config := he
      model := hm
      modelReady := of_decide_eq_true hmready
      template := houtcome
      templateReady := of_decide_eq_true htready
      weights := ⟨_, hintent, (storageReady_iff ht).1 hstorage⟩ }

/-- The planner builds a runtime if and only if the gate is open. -/
theorem runtimeParts?_isSome_iff
    (he : (observe service snapshot policy).config.error = none) :
    (observe service snapshot policy).runtimeParts?.isSome = true ↔
      ∃ m t, GateOpen service snapshot policy m t := by
  simp only [gateOpen_iff he]
  unfold Observation.runtimeParts?
  cases (observe service snapshot policy).model.resolved <;>
    cases (observe service snapshot policy).template.ready? <;> simp

theorem failed_of_mem_retryDeletes {name : String}
    (h : name ∈ (observe service snapshot policy).caching.retryDeletes) :
    ∃ c ∈ snapshot.caches.modelCaches, name = c.displayName ∧
      c.status.map (·.status) = some .failed ∧
      ∃ t, (observe service snapshot policy).template.outcome = .resolved t ∧
        t.status.status = .ready ∧
        ∃ source ∈ templateSources t (observe service snapshot policy).model.resolved,
          source.sourceUri = c.spec.sourceUri := by
  obtain ⟨t, ht, hready, hmem⟩ := mem_retryDeletes_observeCaching _ _ _ _ _ _ h
  obtain ⟨houtcome, -⟩ := TemplateObservation.ready?_eq_some_iff.1 ht
  obtain ⟨c, hc, hsource, hfailed, rfl⟩ := mem_failedModelCaches.1 hmem
  exact ⟨c, hc, rfl, hfailed, t, houtcome, of_decide_eq_true hready, hsource⟩

/-- A plan sends the whole runtime if and only if the gate is open. Otherwise it patches the
runtime that is there, and it is empty behind a problem of the configuration. What it
deletes are failed caches of the ready template. -/
theorem plan_respects_gate {plan : Plan}
    (h : (observe service snapshot policy).plan service policy = .ok plan) :
    ((∃ d ∈ plan.objects, d.kind = .inferenceService ∧ d.mode = .wholeObject) ↔
      ∃ m t, GateOpen service snapshot policy m t) ∧
    ((¬ ∃ m t, GateOpen service snapshot policy m t) →
      (observe service snapshot policy).config.error = none →
        (snapshot.runtime.isSome = true →
          ∃ d, plan.ofKind .inferenceService = [d] ∧ d.mode = .mergePatch) ∧
        (snapshot.runtime = none → plan.ofKind .inferenceService = [])) ∧
    ((observe service snapshot policy).config.error ≠ none → plan = .empty) ∧
    ∀ d ∈ plan.deletes, d.kind = .modelCache ∧
      ∃ c ∈ snapshot.caches.modelCaches, d.name = c.displayName ∧
        c.status.map (·.status) = some .failed ∧
        ∃ t, (observe service snapshot policy).template.outcome = .resolved t ∧
          t.status.status = .ready ∧
          ∃ source ∈ templateSources t (observe service snapshot policy).model.resolved,
            source.sourceUri = c.spec.sourceUri := by
  have hempty : (observe service snapshot policy).config.error ≠ none → plan = .empty := by
    intro he
    rw [Observation.plan_of_config_error he] at h
    exact (Except.ok.inj h).symm
  refine ⟨?_, ?_, hempty, ?_⟩
  · by_cases he : (observe service snapshot policy).config.error = none
    · rw [← runtimeParts?_isSome_iff he,
        ← (Observation.runtimeEntries_of_plan he h).exists_whole_iff]
      simp only [Plan.ofKind, List.mem_filter, decide_eq_true_eq, and_assoc]
    · rw [hempty he]
      constructor
      · rintro ⟨d, hd, -⟩
        cases hd
      · rintro ⟨m, t, hgate⟩
        exact absurd hgate.config he
  · intro hclosed he
    rw [← runtimeParts?_isSome_iff he] at hclosed
    have hentries := (Observation.runtimeEntries_of_plan he h).of_closed hclosed
    have hexists : (observe service snapshot policy).runtime.exists = snapshot.runtime.isSome :=
      rfl
    rw [hexists] at hentries
    exact ⟨hentries.1, fun hnone => hentries.2 (by rw [hnone]; rfl)⟩
  · intro d hd
    obtain ⟨hkind, hname⟩ := Observation.deletes_of_plan h d hd
    exact ⟨hkind, failed_of_mem_retryDeletes hname⟩

end

/-- A service that finds its weights in a shared cache. -/
def cachedService : ServiceObject where
  metadata := { Metadata.empty with
    name := some "chat"
    «namespace» := some "default"
    uid := some "7f0c" }
  spec := { (default : ServiceSpec) with model := ⟨some "llama", none, none⟩ }
  status := none

def cachedModel : ModelObject :=
  ⟨{ Metadata.empty with name := some "llama" }, .ofImage "llama:1", some ⟨.ready⟩⟩

def cachedTemplate : TemplateObject where
  metadata := { Metadata.empty with name := some "fast" }
  spec := { TemplateSpec.empty with modelName := "llama" }
  status := some ⟨.ready, [], none⟩

def cachedSnapshot : Snapshot :=
  { (default : Snapshot) with
    models := ⟨[], [cachedModel]⟩
    templates := ⟨[], [cachedTemplate]⟩
    caches := ⟨[⟨{ Metadata.empty with name := some "fast" }, ⟨"fast", .cluster, none, []⟩,
      some ⟨.ready⟩⟩], [], none⟩ }

theorem gateOpen_cachedService :
    GateOpen cachedService cachedSnapshot Policy.standard (.ofObject .cluster cachedModel)
      (.ofObject .cluster cachedTemplate) := by
  have hready : cachedSnapshot.caches.sharedStatus? (.ofObject .cluster cachedTemplate) =
      some .ready := by decide +kernel
  have hgoes : GoesForShared cachedService cachedSnapshot Policy.standard
      (.ofObject .cluster cachedTemplate) := by
    unfold GoesForShared
    rw [hready]
    exact ⟨Or.inl rfl, fun hfailed => by cases hfailed.1⟩
  exact {
    config := by decide +kernel
    model := by decide +kernel
    modelReady := rfl
    template := by decide +kernel
    templateReady := rfl
    weights := ⟨.preferShared, rfl, fun _ => hready, fun hn => absurd hgoes hn⟩ }

theorem plan_sends_cached_runtime :
    ∃ plan, (observe cachedService cachedSnapshot Policy.standard).plan cachedService
        Policy.standard = .ok plan ∧
      ∃ d ∈ plan.objects, d.kind = .inferenceService ∧ d.mode = .wholeObject := by
  have hok : ((observe cachedService cachedSnapshot Policy.standard).plan cachedService
      Policy.standard).isOk = true := by decide +kernel
  cases hplan : (observe cachedService cachedSnapshot Policy.standard).plan cachedService
      Policy.standard with
  | error f =>
    rw [hplan] at hok
    cases hok
  | ok plan =>
    exact ⟨plan, rfl, (plan_respects_gate hplan).1.2 ⟨_, _, gateOpen_cachedService⟩⟩

end InferenceReconciler
