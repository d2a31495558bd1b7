import InferenceReconciler.Proofs.OpenGate
import InferenceReconciler.ReconcilePass

/-!
# Effects of a pass

What a pass does to the cluster when calls fail, over all answers of the cluster. The reads come
first, and a pass that cannot decide has done nothing else. A pass that can decide writes its plan
once at most, and the status only behind it. Of the reads, ten have faults that end the pass, the
first of them in the order of the reads; a failed read of pods, nodes or the route is an empty
answer.
-/

namespace InferenceReconciler

/-- The fault that there is in place of a result. -/
def faultOf? {α : Type} : Except Fault α → Option Fault
  | .ok _ => none
  | .error f => some f

theorem faultOf?_eq_some_iff {α : Type} {x : Except Fault α} {f : Fault} :
    faultOf? x = some f ↔ x = .error f := by
  cases x with
  | ok a => exact ⟨fun h => (by cases h), fun h => (by cases h)⟩
  | error f' =>
    exact ⟨fun h => congrArg Except.error (Option.some.inj h),
      fun h => congrArg some (Except.error.inj h)⟩

theorem faultOf?_eq_none_iff {α : Type} {x : Except Fault α} :
    faultOf? x = none ↔ ∃ a, x = .ok a := by
  cases x with
  | ok a => exact ⟨fun _ => ⟨a, rfl⟩, fun _ => rfl⟩
  | error f => exact ⟨fun h => (by cases h), fun ⟨a, h⟩ => (by cases h)⟩

/-- A sequence fails with the first fault, if what comes second fails alike after any result. -/
theorem faultOf?_bind {α β : Type} {x : Except Fault α} {k : α → Except Fault β}
    {rest : Option Fault} (h : ∀ a, faultOf? (k a) = rest) :
    faultOf? (x >>= k) = (faultOf? x).or rest := by
  cases x with
  | ok a => exact h a
  | error f => rfl

theorem findSome?_cons_eq_or {α β : Type} (g : α → Option β) (x : α) (l : List α) :
    (x :: l).findSome? g = (g x).or (l.findSome? g) := by
  rw [List.findSome?_cons]
  cases g x <;> rfl

namespace Answers

variable (a : Answers)

def fault? : Read → Option Fault
  | .runtimeConfig => faultOf? a.runtimeConfig
  | .clusterRuntimeConfig => faultOf? a.clusterRuntimeConfig
  | .models => faultOf? a.models
  | .clusterModels => faultOf? a.clusterModels
  | .templates => faultOf? a.templates
  | .clusterTemplates => faultOf? a.clusterTemplates
  | .templateCaches => faultOf? a.templateCaches
  | .modelCaches => faultOf? a.modelCaches
  | .volumeClaim => faultOf? a.volumeClaim
  | .runtime => faultOf? a.runtime
  | .pods => faultOf? a.pods
  | .nodes => faultOf? a.nodes
  | .route => faultOf? a.route

/-- The first fault among the reads that nothing can be decided without. -/
def coreFault? : Option Fault := (Read.all.filter Read.isCore).findSome? a.fault?

/-- The same answers, with an empty one for each read of pods, nodes or the route that failed. -/
def emptied : Answers :=
  { a with
    pods := .ok (orIfFailed [] a.pods)
    nodes := .ok (orIfFailed [] a.nodes)
    route := .ok (orIfFailed none a.route) }

@[simp] theorem ofAnswers_emptied : Snapshot.ofAnswers a.emptied = Snapshot.ofAnswers a := rfl

theorem faultOf?_ofAnswers : faultOf? (Snapshot.ofAnswers a) = a.coreFault? := by
  have hcore : Read.all.filter Read.isCore =
      [.runtimeConfig, .clusterRuntimeConfig, .models, .clusterModels, .templates,
        .clusterTemplates, .templateCaches, .modelCaches, .volumeClaim, .runtime] := by decide
  unfold coreFault?
  rw [hcore]
  simp only [findSome?_cons_eq_or]
  exact faultOf?_bind fun _ => faultOf?_bind fun _ => faultOf?_bind fun _ => faultOf?_bind fun _ =>
    faultOf?_bind fun _ => faultOf?_bind fun _ => faultOf?_bind fun _ => faultOf?_bind fun _ =>
    faultOf?_bind fun _ => faultOf?_bind fun _ => rfl

variable {a}

theorem ofAnswers_eq_error_iff {f : Fault} :
    Snapshot.ofAnswers a = .error f ↔ a.coreFault? = some f := by
  rw [← a.faultOf?_ofAnswers, faultOf?_eq_some_iff]

theorem exists_ofAnswers_iff :
    (∃ snapshot, Snapshot.ofAnswers a = .ok snapshot) ↔ a.coreFault? = none := by
  rw [← a.faultOf?_ofAnswers, faultOf?_eq_none_iff]

end Answers

namespace Effect

def isRead : Effect → Bool
  | read _ => true
  | _ => false

def isWrite : Effect → Bool
  | apply _ | writeStatus _ => true
  | _ => false

theorem isRead_of_mem_published {events : List Event} {e : Effect}
    (h : e ∈ events.map publish) : e.isRead = false := by
  obtain ⟨event, -, rfl⟩ := List.mem_map.1 h
  rfl

theorem filter_isWrite_published (events : List Event) :
    (events.map publish).filter isWrite = [] := by
  rw [List.filter_eq_nil_iff]
  intro e he
  obtain ⟨event, -, rfl⟩ := List.mem_map.1 he
  exact Bool.false_ne_true

theorem filter_isWrite_reads : (Read.all.map read).filter isWrite = [] := rfl

end Effect

namespace Pass

variable (p : Pass)

def writes : List Effect := p.effects.filter Effect.isWrite

theorem mem_writes_iff {e : Effect} (h : e.isWrite = true) : e ∈ p.writes ↔ e ∈ p.effects := by
  unfold writes
  rw [List.mem_filter]
  exact and_iff_left h

theorem writes_after (effects : List Effect) :
    (p.after effects).writes = effects.filter Effect.isWrite ++ p.writes :=
  List.filter_append _ _

theorem writes_after_reads : (p.after (Read.all.map .read)).writes = p.writes := by
  rw [writes_after, Effect.filter_isWrite_reads, List.nil_append]

/-- The pass carries out a plan and the status after it: what is refused ends it, and the status
is written behind the plan or not at all. -/
structure CarriesOut (client : ClusterClient) (policy : Policy) (prior : Option ServiceStatus)
    (plan : Plan) (next : ServiceStatus) : Prop where
  refused : plan.isEmpty = false → ∀ f, client.apply plan = .error f →
    p.result = .error f ∧ p.writes = [.apply plan]
  applied : plan.isEmpty = true ∨ client.apply plan = .ok () →
    p.writes = (if plan.isEmpty then [] else [.apply plan]) ++
      (if statusChanged prior next then [.writeStatus next] else []) ∧
    p.result = (if statusChanged prior next then client.writeStatus next else .ok ()).map
      fun _ => Requeue.ofPhase policy next.status

theorem CarriesOut.after_reads {p : Pass} {client : ClusterClient} {policy : Policy}
    {prior : Option ServiceStatus} {plan : Plan} {next : ServiceStatus}
    (h : p.CarriesOut client policy prior plan next) :
    (p.after (Read.all.map .read)).CarriesOut client policy prior plan next where
  refused := by
    rw [writes_after_reads]
    exact h.refused
  applied := by
    rw [writes_after_reads]
    exact h.applied

end Pass

section

variable {client : ClusterClient} {now : Timestamp} {policy : Policy} {service : ServiceObject}

theorem writes_writeStatusPass (projected : ProjectedStatus) :
    (writeStatusPass client policy service projected).writes =
      if statusChanged service.status projected.status then [.writeStatus projected.status]
      else [] := by
  unfold writeStatusPass
  dsimp only
  by_cases hc : statusChanged service.status projected.status = true
  · rw [if_pos hc, if_pos hc]
    cases client.writeStatus projected.status with
    | error f => rfl
    | ok =>
      exact congrArg (Effect.writeStatus projected.status :: ·)
        (Effect.filter_isWrite_published _)
  · rw [if_neg hc, if_neg hc]
    rfl

theorem result_writeStatusPass (projected : ProjectedStatus) :
    (writeStatusPass client policy service projected).result =
      (if statusChanged service.status projected.status then client.writeStatus projected.status
        else .ok ()).map fun _ => Requeue.ofPhase policy projected.status.status := by
  unfold writeStatusPass
  dsimp only
  by_cases hc : statusChanged service.status projected.status = true
  · rw [if_pos hc, if_pos hc]
    cases client.writeStatus projected.status <;> rfl
  · rw [if_neg hc, if_neg hc]
    rfl

theorem isRead_of_mem_writeStatusPass {projected : ProjectedStatus} {e : Effect}
    (h : e ∈ (writeStatusPass client policy service projected).effects) : e.isRead = false := by
  unfold writeStatusPass at h
  dsimp only at h
  split at h
  · split at h
    · rw [List.mem_singleton.1 h]
      rfl
    · rcases List.mem_cons.1 h with rfl | hevent
      · rfl
      · exact Effect.isRead_of_mem_published hevent
  · cases h

variable {o : Observation} {plan : Plan}

theorem applyPass_of_isEmpty (h : plan.isEmpty = true) :
    applyPass client now policy service o plan =
      writeStatusPass client policy service (o.project now service) := by
  unfold applyPass
  exact if_pos h

theorem applyPass_of_refused {f : Fault} (h : plan.isEmpty = false)
    (hf : client.apply plan = .error f) :
    applyPass client now policy service o plan =
      ⟨.error f, [.apply plan, .publish (.applyFailed f)]⟩ := by
  unfold applyPass
  dsimp only
  rw [if_neg (Bool.eq_false_iff.1 h), hf]

theorem applyPass_of_applied (h : plan.isEmpty = false) (hok : client.apply plan = .ok ()) :
    applyPass client now policy service o plan =
      (writeStatusPass client policy service (o.project now service)).after
        (.apply plan :: (planEvents plan).map .publish) := by
  unfold applyPass
  dsimp only
  rw [if_neg (Bool.eq_false_iff.1 h), hok]

theorem carriesOut_applyPass :
    (applyPass client now policy service o plan).CarriesOut client policy service.status plan
      (o.project now service).status where
  refused hsome f hf := by
    rw [applyPass_of_refused hsome hf]
    exact ⟨rfl, rfl⟩
  applied happlied := by
    by_cases hempty : plan.isEmpty = true
    · rw [applyPass_of_isEmpty hempty, writes_writeStatusPass, if_pos hempty]
      exact ⟨rfl, result_writeStatusPass _⟩
    · have hsome : plan.isEmpty = false := Bool.eq_false_iff.2 hempty
      rw [applyPass_of_applied hsome (happlied.resolve_left hempty), Pass.writes_after,
        writes_writeStatusPass, if_neg hempty]
      refine ⟨congrArg (· ++ _) ?_, result_writeStatusPass _⟩
      exact congrArg (Effect.apply plan :: ·) (Effect.filter_isWrite_published _)

theorem isRead_of_mem_applyPass {e : Effect}
    (h : e ∈ (applyPass client now policy service o plan).effects) : e.isRead = false := by
  by_cases hempty : plan.isEmpty = true
  · rw [applyPass_of_isEmpty hempty] at h
    exact isRead_of_mem_writeStatusPass h
  · have hsome : plan.isEmpty = false := Bool.eq_false_iff.2 hempty
    cases happly : client.apply plan with
    | error f =>
      rw [applyPass_of_refused hsome happly] at h
      rcases List.mem_cons.1 h with rfl | hevent
      · rfl
      · rw [List.mem_singleton.1 hevent]
        rfl
    | ok =>
      rw [applyPass_of_applied hsome happly] at h
      rcases List.mem_append.1 h with hfirst | hlast
      · rcases List.mem_cons.1 hfirst with rfl | hevent
        · rfl
        · exact Effect.isRead_of_mem_published hevent
      · exact isRead_of_mem_writeStatusPass hlast

variable {snapshot : Snapshot} {f : Fault}

theorem decidePass_of_unread (h : Snapshot.ofAnswers client.answers = .error f) :
    decidePass client now policy service = .ended (.error f) := by
  unfold decidePass
  rw [h]

theorem decidePass_of_undecided (h : Snapshot.ofAnswers client.answers = .ok snapshot)
    (hf : (observe service snapshot policy).plan service policy = .error f) :
    decidePass client now policy service = .ended (.error f) := by
  unfold decidePass
  rw [h]
  dsimp only
  rw [hf]

theorem decidePass_of_plan (h : Snapshot.ofAnswers client.answers = .ok snapshot)
    (hplan : (observe service snapshot policy).plan service policy = .ok plan) :
    decidePass client now policy service =
      applyPass client now policy service (observe service snapshot policy) plan := by
  unfold decidePass
  rw [h]
  dsimp only
  rw [hplan]

theorem isRead_of_mem_decidePass {e : Effect}
    (h : e ∈ (decidePass client now policy service).effects) : e.isRead = false := by
  cases hanswers : Snapshot.ofAnswers client.answers with
  | error f =>
    rw [decidePass_of_unread hanswers] at h
    cases h
  | ok snapshot =>
    cases hplan : (observe service snapshot policy).plan service policy with
    | error f =>
      rw [decidePass_of_undecided hanswers hplan] at h
      cases h
    | ok plan =>
      rw [decidePass_of_plan hanswers hplan] at h
      exact isRead_of_mem_applyPass h

theorem reconcile_of_leftAlone (h : service.metadata.namespace = none ∨
    service.metadata.deletionTimestamp.isSome = true) :
    reconcile client now policy service = .ended (.ok .onChange) := by
  unfold reconcile
  refine if_pos ?_
  rw [Bool.or_eq_true, Option.isNone_iff_eq_none]
  exact h

theorem reconcile_of_present (h : service.metadata.namespace.isSome = true)
    (hkept : service.metadata.deletionTimestamp = none) :
    reconcile client now policy service =
      (decidePass client now policy service).after (Read.all.map .read) := by
  unfold reconcile
  rw [hkept, ← Option.not_isSome, h]
  rfl

/-- All the ways in which a pass can run. -/
inductive Pass.Course (client : ClusterClient) (now : Timestamp) (policy : Policy)
    (service : ServiceObject) (p : Pass) : Prop where
  | leftAlone (ended : p = .ended (.ok .onChange))
  | unread (f : Fault) (unread : Snapshot.ofAnswers client.answers = .error f)
      (ended : p = (Pass.ended (.error f)).after (Read.all.map .read))
  | undecided (snapshot : Snapshot) (f : Fault)
      (answered : Snapshot.ofAnswers client.answers = .ok snapshot)
      (undecided : (observe service snapshot policy).plan service policy = .error f)
      (ended : p = (Pass.ended (.error f)).after (Read.all.map .read))
  | decided (snapshot : Snapshot) (plan : Plan)
      (answered : Snapshot.ofAnswers client.answers = .ok snapshot)
      (planned : (observe service snapshot policy).plan service policy = .ok plan)
      (carried : p = (applyPass client now policy service (observe service snapshot policy)
        plan).after (Read.all.map .read))

theorem course_reconcile (client : ClusterClient) (now : Timestamp) (policy : Policy)
    (service : ServiceObject) :
    (reconcile client now policy service).Course client now policy service := by
  by_cases halone : service.metadata.namespace = none ∨
      service.metadata.deletionTimestamp.isSome = true
  · exact .leftAlone (reconcile_of_leftAlone halone)
  · obtain ⟨hnamespace, hkept⟩ := not_or.1 halone
    rw [reconcile_of_present (Option.isSome_iff_ne_none.2 hnamespace)
      (Option.not_isSome_iff_eq_none.1 hkept)]
    cases hanswers : Snapshot.ofAnswers client.answers with
    | error f => exact .unread f hanswers (by rw [decidePass_of_unread hanswers])
    | ok snapshot =>
      cases hplan : (observe service snapshot policy).plan service policy with
      | error f =>
        exact .undecided snapshot f hanswers hplan (by rw [decidePass_of_undecided hanswers hplan])
      | ok plan =>
        exact .decided snapshot plan hanswers hplan (by rw [decidePass_of_plan hanswers hplan])

theorem reconcile_emptied :
    reconcile { client with answers := client.answers.emptied } now policy service =
      reconcile client now policy service := by
  have hdecide : decidePass { client with answers := client.answers.emptied } now policy service =
      decidePass client now policy service := by
    unfold decidePass
    rw [Answers.ofAnswers_emptied]
    rfl
  unfold reconcile
  rw [hdecide]

end

section

variable (p : Pass) (client : ClusterClient) (policy : Policy) (service : ServiceObject) (f : Fault)

/-- Where the fault of a pass comes from. -/
inductive Pass.FaultOrigin : Prop where
  | coreRead (unread : client.answers.coreFault? = some f)
  | plan (snapshot : Snapshot) (answered : Snapshot.ofAnswers client.answers = .ok snapshot)
      (undecided : (observe service snapshot policy).plan service policy = .error f)
  | apply (plan : Plan) (sent : Effect.apply plan ∈ p.writes)
      (refused : client.apply plan = .error f)
  | writeStatus (next : ServiceStatus) (sent : Effect.writeStatus next ∈ p.writes)
      (refused : client.writeStatus next = .error f)

variable {p client policy service f} {now : Timestamp}

theorem Pass.CarriesOut.origin {prior : Option ServiceStatus} {plan : Plan} {next : ServiceStatus}
    (h : p.CarriesOut client policy prior plan next) (hf : p.result = .error f) :
    p.FaultOrigin client policy service f := by
  have hstatus (happlied : plan.isEmpty = true ∨ client.apply plan = .ok ()) :
      p.FaultOrigin client policy service f := by
    obtain ⟨hwrites, hresult⟩ := h.applied happlied
    rw [hresult] at hf
    by_cases hc : statusChanged prior next = true
    · rw [if_pos hc] at hf hwrites
      cases hwrite : client.writeStatus next with
      | error f' =>
        rw [hwrite] at hf
        cases hf
        refine .writeStatus next ?_ hwrite
        rw [hwrites]
        exact List.mem_append_right _ (List.mem_singleton_self _)
      | ok =>
        rw [hwrite] at hf
        cases hf
    · rw [if_neg hc] at hf
      cases hf
  by_cases hempty : plan.isEmpty = true
  · exact hstatus (Or.inl hempty)
  · cases happly : client.apply plan with
    | error f' =>
      obtain ⟨hresult, hwrites⟩ := h.refused (Bool.eq_false_iff.2 hempty) f' happly
      rw [hresult] at hf
      cases hf
      refine .apply plan ?_ happly
      rw [hwrites]
      exact List.mem_singleton_self _
    | ok => exact hstatus (Or.inr happly)

theorem origin_of_reconcile (hf : (reconcile client now policy service).result = .error f) :
    (reconcile client now policy service).FaultOrigin client policy service f := by
  cases course_reconcile client now policy service with
  | leftAlone ended =>
    rw [ended] at hf
    cases hf
  | unread f' unread ended =>
    rw [ended] at hf
    cases hf
    exact .coreRead (Answers.ofAnswers_eq_error_iff.1 unread)
  | undecided snapshot f' answered undecided ended =>
    rw [ended] at hf
    cases hf
    exact .plan snapshot answered undecided
  | decided snapshot plan answered planned carried =>
    rw [carried] at hf ⊢
    exact carriesOut_applyPass.after_reads.origin hf

end

/-- A pass over a service that is outside any namespace or being deleted does nothing. Any other
pass begins with the reads and reads nothing after them. The first of the ten core reads that
failed, or a plan that cannot be made, is its result, and it did no more than to read; else the
plan is written if it is not empty, and unless that was refused the status is written if it
changed. Failed reads of pods, nodes and the route are empty answers and never the fault of a
pass. -/
theorem pass_fails_before_writing (client : ClusterClient) (now : Timestamp) (policy : Policy)
    (service : ServiceObject) :
    let pass := reconcile client now policy service
    (service.metadata.namespace = none ∨ service.metadata.deletionTimestamp.isSome = true →
      pass.effects = [] ∧ pass.result = .ok .onChange) ∧
    (service.metadata.namespace.isSome = true → service.metadata.deletionTimestamp = none →
      (∃ rest, pass.effects = Read.all.map .read ++ rest ∧ ∀ e ∈ rest, e.isRead = false) ∧
      (∀ f, client.answers.coreFault? = some f →
        pass.result = .error f ∧ pass.effects = Read.all.map .read) ∧
      (client.answers.coreFault? = none →
        ∃ snapshot, Snapshot.ofAnswers client.answers = .ok snapshot ∧
          let o := observe service snapshot policy
          (∀ f, o.plan service policy = .error f →
            pass.result = .error f ∧ pass.effects = Read.all.map .read) ∧
          ∀ plan, o.plan service policy = .ok plan →
            pass.CarriesOut client policy service.status plan (o.project now service).status)) ∧
    (∀ f, pass.result = .error f → pass.FaultOrigin client policy service f) ∧
    reconcile { client with answers := client.answers.emptied } now policy service = pass := by
  intro pass
  refine ⟨fun halone => ?_, fun hnamespace hkept => ?_, fun f => origin_of_reconcile,
    reconcile_emptied⟩
  · have hpass : pass = .ended (.ok .onChange) := reconcile_of_leftAlone halone
    rw [hpass]
    exact ⟨rfl, rfl⟩
  · have hpass : pass = (decidePass client now policy service).after (Read.all.map .read) :=
      reconcile_of_present hnamespace hkept
    rw [hpass]
    refine ⟨⟨_, rfl, fun e => isRead_of_mem_decidePass⟩, fun f hf => ?_, fun hnone => ?_⟩
    · rw [decidePass_of_unread (Answers.ofAnswers_eq_error_iff.2 hf)]
      exact ⟨rfl, List.append_nil _⟩
    · obtain ⟨snapshot, hanswers⟩ := Answers.exists_ofAnswers_iff.2 hnone
      refine ⟨snapshot, hanswers, fun f hf => ?_, fun plan hplan => ?_⟩
      · rw [decidePass_of_undecided hanswers hf]
        exact ⟨rfl, List.append_nil _⟩
      · rw [decidePass_of_plan hanswers hplan]
        exact carriesOut_applyPass.after_reads

/-- A cluster that has the cached service's objects, answers no read that is not needed, and
takes no plan. -/
def refusingClient : ClusterClient where
  answers := {
    runtimeConfig := .ok none
    clusterRuntimeConfig := .ok none
    models := .ok []
    clusterModels := .ok [cachedModel]
    templates := .ok []
    clusterTemplates := .ok [cachedTemplate]
    templateCaches := .ok cachedSnapshot.caches.templateCaches
    modelCaches := .ok []
    volumeClaim := .ok none
    runtime := .ok none
    pods := .error (.request (some 500))
    nodes := .error (.request (some 500))
    route := .error (.request (some 500)) }
  apply _ := .error (.request (some 503))
  writeStatus _ := .ok ()

theorem refused_plan_leaves_status :
    let pass := reconcile refusingClient default Policy.standard cachedService
    pass.result = .error (.request (some 503)) ∧ ∃ plan, pass.writes = [.apply plan] := by
  intro pass
  have hplanned : ((observe cachedService cachedSnapshot Policy.standard).plan cachedService
      Policy.standard).toOption.any (fun p => !p.isEmpty) = true := by
    decide +kernel
  obtain ⟨plan, hplan, hsome⟩ := exists_of_any_toOption hplanned
  have hpass := (pass_fails_before_writing refusingClient default Policy.standard
    cachedService).2.1 rfl rfl
  obtain ⟨snapshot, hanswers, -, hcarries⟩ := hpass.2.2 rfl
  cases hanswers
  rw [Bool.not_eq_true'] at hsome
  obtain ⟨hresult, hwrites⟩ := (hcarries plan hplan).refused hsome _ rfl
  exact ⟨hresult, plan, hwrites⟩

end InferenceReconciler
