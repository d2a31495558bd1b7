import InferenceReconciler.Proofs.RetryBudget
import InferenceReconciler.Proofs.WrittenStatus

/-!
# Statuses settle

Over a cluster that stays as it is, the passes of a service come to rest. What is fed back
through the status settles in turn: the template is found again from the first pass on, the
references are written by then, and the retries end with their budget. From there on the
projections repeat, and a repeated projection leaves the status as it is at whatever time it
is made, so nothing is written any more.
-/

namespace InferenceReconciler

attribute [ext] ServiceStatus

namespace PassInput

variable {i : PassInput} {s : ServiceStatus}

/-- The pass after this one projects the same. -/
def Repeats (i : PassInput) (s : ServiceStatus) : Prop :=
  ∀ c, (i.observation (i.next s)).projectionOf (i.next s) c = (i.observation s).projectionOf s c

theorem orElse_orElse_self {α : Type} (a b : Option α) : (a <|> (a <|> b)) = (a <|> b) := by
  cases a <;> rfl

theorem Repeats.projections_eq (h : i.Repeats s) :
    (i.observation (i.next s)).projections (i.next s) = (i.observation s).projections s := by
  rw [Observation.projections_eq_map, Observation.projections_eq_map]
  exact List.map_congr_left fun c _ => h c

theorem Repeats.blocker?_eq (h : i.Repeats s) : i.blocker? (i.next s) = i.blocker? s := by
  unfold blocker?
  rw [Observation.blockedBy_project, Observation.blockedBy_project]
  exact congrArg firstBlocker? h.projections_eq

theorem field_next_next_of_repeats {α : Type} {g : ServiceStatus → Option α}
    {u : StatusUpdate → Option α}
    (hg : ∀ p now s, g (Projection.apply p now s) = (u p.update <|> g s))
    (hg' : ∀ (s : ServiceStatus) phase generation,
      g { s with status := phase, observedGeneration := generation } = g s)
    {owner : Component}
    (hu : ∀ (p : Projection) c, p.BelongsTo c → c ≠ owner → u p.update = none)
    (h : i.Repeats s) (later : Timestamp) :
    g ((i.atTime later).next (i.next s)) = g (i.next s) := by
  have hnext : ∀ (j : PassInput) (t : ServiceStatus), g (j.next t) =
      ((if owner.Reached (j.blocker? t)
        then u ((j.observation t).projectionOf t owner).update else none) <|> g t) :=
    fun j t => (j.observation t).field_project j.now (j.service.withStatus t) hg hg'
      fun c => hu _ c ((j.observation t).projectionOf_belongsTo _ c)
  rw [hnext, observation_atTime, blocker?_atTime, h.blocker?_eq, h owner, hnext i s,
    orElse_orElse_self]

/-- A status that was made by the same projections is not changed by them, at whatever time
they are made again. -/
theorem next_next_of_repeats (h : i.Repeats s) (later : Timestamp) :
    (i.atTime later).next (i.next s) = i.next s := by
  have hphase : ((i.atTime later).next (i.next s)).status = (i.next s).status := by
    rw [phase_next, phase_next, observation_atTime, h.projections_eq]
    rfl
  have hconditions : ((i.atTime later).next (i.next s)).conditions = (i.next s).conditions := by
    rw [conditions_next, conditions_next, observation_atTime, h.projections_eq]
    exact applyReports_applyReports i.now _ later
      ((i.observation s).reports_once s).reached
  have hgeneration : ((i.atTime later).next (i.next s)).observedGeneration =
      (i.next s).observedGeneration := by
    rw [observedGeneration_next, observedGeneration_next]
    exact orElse_orElse_self _ _
  exact ServiceStatus.ext hphase hconditions
    (field_next_next_of_repeats (fun _ _ _ => rfl) (fun _ _ _ => rfl)
      (fun _ _ hp => hp.resolvedRuntimeConfig) h later)
    (field_next_next_of_repeats (fun _ _ _ => rfl) (fun _ _ _ => rfl)
      (fun _ _ hp => hp.resolvedModel) h later)
    (field_next_next_of_repeats (fun _ _ _ => rfl) (fun _ _ _ => rfl)
      (fun _ _ hp => hp.resolvedTemplate) h later)
    (field_next_next_of_repeats (fun _ _ _ => rfl) (fun _ _ _ => rfl)
      (fun _ _ hp => hp.cache) h later)
    (field_next_next_of_repeats (fun _ _ _ => rfl) (fun _ _ _ => rfl)
      (fun _ _ hp => hp.routing) h later)
    hgeneration

theorem projectCaching_next (hd : i.snapshot.templates.NamesDistinct)
    (ha : (i.next s).retryAttempts = s.retryAttempts) :
    (i.observation (i.next s)).caching.projectCaching (i.next s).cache =
      (i.observation s).caching.projectCaching s.cache := by
  rw [caching_congr (i.outcome_next hd s) ha, cache_next]
  split
  · cases hc : ((i.observation s).caching.projectCaching s.cache).update.cache with
    | none => rfl
    | some noted =>
      obtain ⟨ref, attempts⟩ := noted
      have href : ref = _ := (CachingObservation.cache_update_projectCaching hc).1
      rw [href]
      exact CachingObservation.projectCaching_noted _ _ _
  · rfl

theorem repeats_of_eq (hd : i.snapshot.templates.NamesDistinct)
    (ha : (i.next s).retryAttempts = s.retryAttempts)
    (hm : (i.next s).resolvedModel = s.resolvedModel)
    (ht : (i.next s).resolvedTemplate = s.resolvedTemplate) : i.Repeats s := by
  have hout := i.outcome_next hd s
  intro c
  cases c with
  | config => rfl
  | model => rfl
  | template => exact project_template_congr hout
  | caching => exact projectCaching_next hd ha
  | storage => exact congrArg CachingObservation.projectStorage (caching_congr hout ha)
  | runtime => exact congrArg RuntimeObservation.project (runtime_congr hout ha)
  | routing => exact congrArg RouteObservation.project (route_congr hm ht)

theorem resolvedModel_next_next (hd : i.snapshot.templates.NamesDistinct) (later : Timestamp) :
    ((i.atTime later).next (i.next s)).resolvedModel = (i.next s).resolvedModel := by
  have hreached : Component.model.Reached (i.blocker? (i.next s)) ↔
      Component.model.Reached (i.blocker? s) :=
    reached_congr_of_le (by decide) (i.outcome_next hd s)
  rw [resolvedModel_next, observation_atTime, blocker?_atTime, resolvedModel_next]
  simp only [hreached]
  exact orElse_orElse_self _ _

theorem resolvedTemplate_next_next (hd : i.snapshot.templates.NamesDistinct)
    (later : Timestamp) :
    ((i.atTime later).next (i.next s)).resolvedTemplate = (i.next s).resolvedTemplate := by
  have hout := i.outcome_next hd s
  have hreached : Component.template.Reached (i.blocker? (i.next s)) ↔
      Component.template.Reached (i.blocker? s) := reached_congr_of_le (by decide) hout
  rw [resolvedTemplate_next, observation_atTime, blocker?_atTime, project_template_congr hout,
    resolvedTemplate_next]
  simp only [hreached]
  exact orElse_orElse_self _ _

end PassInput

theorem writeStatus_not_mem_of_next_eq {i : PassInput} {s : ServiceStatus}
    {client : ClusterClient} (hsnapshot : Snapshot.ofAnswers client.answers = .ok i.snapshot)
    (hs : i.next s = s) (next : ServiceStatus) :
    Effect.writeStatus next ∉
      (reconcile client i.now i.policy (i.service.withStatus s)).effects := by
  intro hmem
  obtain ⟨snapshot, hsnapshot', hnext, hchanged⟩ := changed_of_mem_reconcile hmem
  rw [hsnapshot] at hsnapshot'
  cases hsnapshot'
  have hsame : next = s := hnext.trans hs
  have hunchanged : statusChanged (i.service.withStatus s).status s = false := statusChanged_self s
  rw [hsame, hunchanged] at hchanged
  cases hchanged

section

variable (i : PassInput) (hd : i.snapshot.templates.NamesDistinct) (clock : Nat → Timestamp)
  (start : ServiceStatus)

include hd in
/-- One pass after the first, and after the retries that were left, a status is made that no
pass changes. -/
theorem next_statusAfter_of_le {k : Nat} (hone : 1 ≤ k)
    (hk : i.policy.cacheRetryBudget.toNat - start.retryAttempts.toNat ≤ k) (now : Timestamp) :
    let status := statusAfter (fun j => i.atTime (clock j)) start
    (i.atTime now).next (status (k + 1)) = status (k + 1) := by
  intro status
  have hsucc : ∀ j, status (j + 1) = (i.atTime (clock j)).next (status j) :=
    statusAfter_succ _ start
  obtain ⟨j, rfl⟩ : ∃ j, k = j + 1 := ⟨k - 1, by omega⟩
  have hattempts : ((i.atTime (clock (j + 1))).next (status (j + 1))).retryAttempts =
      (status (j + 1)).retryAttempts := by
    rw [← hsucc]
    exact retryAttempts_settles i hd clock start hk
  have hmodel : ((i.atTime (clock (j + 1))).next (status (j + 1))).resolvedModel =
      (status (j + 1)).resolvedModel := by
    rw [hsucc j]
    exact PassInput.resolvedModel_next_next (i := i.atTime (clock j)) hd (clock (j + 1))
  have htemplate : ((i.atTime (clock (j + 1))).next (status (j + 1))).resolvedTemplate =
      (status (j + 1)).resolvedTemplate := by
    rw [hsucc j]
    exact PassInput.resolvedTemplate_next_next (i := i.atTime (clock j)) hd (clock (j + 1))
  have hrepeats : (i.atTime (clock (j + 1))).Repeats (status (j + 1)) :=
    PassInput.repeats_of_eq hd hattempts hmodel htemplate
  rw [hsucc (j + 1)]
  exact PassInput.next_next_of_repeats hrepeats now

include hd in
/-- Over one cluster, the status stays as it is once a pass has gone by and the retries that
were left are spent: whatever the times of the passes, the next pass makes the same status,
and a reconcile pass writes none. -/
theorem status_settles {k : Nat}
    (hk : max 1 (i.policy.cacheRetryBudget.toNat - start.retryAttempts.toNat) < k) :
    let status := statusAfter (fun j => i.atTime (clock j)) start
    status (k + 1) = status k ∧
      statusChanged (some (status k)) (status (k + 1)) = false ∧
      ∀ client now, Snapshot.ofAnswers client.answers = .ok i.snapshot → ∀ next,
        Effect.writeStatus next ∉
          (reconcile client now i.policy (i.service.withStatus (status k))).effects := by
  intro status
  obtain ⟨j, rfl⟩ : ∃ j, k = j + 1 := ⟨k - 1, by omega⟩
  have hfixed : ∀ now, (i.atTime now).next (status (j + 1)) = status (j + 1) :=
    next_statusAfter_of_le i hd clock start (by omega) (by omega)
  have hnext : status (j + 1 + 1) = status (j + 1) := hfixed (clock (j + 1))
  refine ⟨hnext, ?_, ?_⟩
  · rw [hnext]
    exact statusChanged_self _
  · intro client now hsnapshot next
    exact writeStatus_not_mem_of_next_eq (i := i.atTime now) hsnapshot (hfixed now) next

end

/-- A cluster without nodes that answers with the objects of a snapshot. -/
def Snapshot.client (s : Snapshot) : ClusterClient where
  answers := ⟨.ok s.configs.ofNamespace, .ok s.configs.ofCluster, .ok s.models.ofNamespace,
    .ok s.models.ofCluster, .ok s.templates.ofNamespace, .ok s.templates.ofCluster,
    .ok s.caches.templateCaches, .ok s.caches.modelCaches, .ok s.caches.claim, .ok s.runtime,
    .ok s.pods, .ok [], .ok s.route⟩
  apply := fun _ => .ok ()
  writeStatus := fun _ => .ok ()

/-- A service that demands a shared cache, which has failed and may be made anew twice. -/
def failedCachePass : PassInput :=
  let named (name : String) : Metadata :=
    { Metadata.empty with name := some name, «namespace» := some "default" }
  { service := ⟨named "chat", { (default : ServiceSpec) with
      model := ⟨some "llama", none, none⟩
      cacheModel := some true }, none⟩
    snapshot := { (default : Snapshot) with
      models := ⟨[⟨named "llama", .ofImage "llama:1", some ⟨.ready⟩⟩], []⟩
      templates := ⟨[⟨named "fast", { TemplateSpec.empty with
        modelName := "llama"
        modelSources := [⟨"weights", "hf://llama", none⟩] }, some ⟨.ready, [], none⟩⟩], []⟩
      caches := ⟨[⟨named "fast", ⟨"fast", .namespaced, none, []⟩, some ⟨.failed⟩⟩],
        [⟨named "weights", ⟨"hf://llama", "1Gi", none⟩, some ⟨.failed, none⟩⟩], none⟩ }
    policy := { Policy.standard with cacheRetryBudget := 2 }
    now := .epoch }

/-- Two retries are spent in two passes, the third one reports the failure, and no later one
has anything to write. -/
theorem failed_cache_settles :
    failedCachePass.snapshot.templates.NamesDistinct ∧
    let status := statusAfter (fun minute => failedCachePass.atTime
      ((Timestamp.make? 2025 1 1 0 minute 0 0).getD .epoch)) .initial
    (status 2).retryAttempts = 2 ∧ status 3 ≠ status 2 ∧ status 4 = status 3 ∧
      ∀ next, Effect.writeStatus next ∉ (reconcile failedCachePass.snapshot.client .epoch
        failedCachePass.policy (failedCachePass.service.withStatus (status 3))).effects := by
  have hd : failedCachePass.snapshot.templates.NamesDistinct := ⟨by decide, by decide⟩
  have hsettled := status_settles failedCachePass hd
    (fun minute => (Timestamp.make? 2025 1 1 0 minute 0 0).getD .epoch) .initial (k := 3)
    (by decide)
  exact ⟨hd, by decide +kernel, by decide +kernel, hsettled.1,
    hsettled.2.2 failedCachePass.snapshot.client .epoch rfl⟩

end InferenceReconciler
