import InferenceReconciler.Proofs.PassEffects

/-!
# Plans over failed reads

What a plan owes to the three reads that a pass goes on without. Of pods and the route it owes
nothing: they are only reported on. The nodes say which GPUs there are, and a failed read of them
says that there are none known, which admits every template. So it is as good as a full one where
the template is settled before any is searched for, or where the GPUs that are known keep nothing
out; elsewhere it can move the service to another template.
-/

namespace InferenceReconciler

namespace Observation

variable (o : Observation) (service : ServiceObject) (policy : Policy)

/-- The observation without what serves reports alone. -/
def withoutReports : Observation :=
  { o with
    runtime := { o.runtime with pullFailure := none }
    route := { o.route with existing := none } }

theorem plan_withoutReports : o.withoutReports.plan service policy = o.plan service policy := rfl

end Observation

namespace Snapshot

/-- The snapshot with other pods and another route. -/
def withReports (s : Snapshot) (pods : List Pod) (route : Option RouteObject) : Snapshot :=
  { s with pods := pods, route := route }

theorem withoutReports_observe (s : Snapshot) (service : ServiceObject) (policy : Policy)
    (pods : List Pod) (route : Option RouteObject) :
    (observe service (s.withReports pods route) policy).withoutReports =
      (observe service s policy).withoutReports := rfl

theorem plan_withReports (s : Snapshot) (service : ServiceObject) (policy : Policy)
    (pods : List Pod) (route : Option RouteObject) :
    (observe service (s.withReports pods route) policy).plan service policy =
      (observe service s policy).plan service policy := by
  rw [← Observation.plan_withoutReports, withoutReports_observe, Observation.plan_withoutReports]

end Snapshot

theorem availableOn_of_admitted {gpus : List String} {l : List TemplateRecord}
    (h : ∀ t ∈ l, runsOn gpus t = true) : availableOn gpus l = l := by
  unfold availableOn
  split
  · rfl
  · exact List.filter_eq_self.2 h

theorem missingGpu?_nil (o : TemplateOverrides) : missingGpu? o [] = none := by
  unfold missingGpu?
  rw [Option.filter_eq_none_iff]
  intro wanted _ hwanted
  cases hwanted

section

variable {gpus : List String} {candidates : List TemplateRecord}

theorem selectTemplate_of_admitted (h : ∀ t ∈ candidates, runsOn gpus t = true)
    (overrides : Option TemplateOverrides) :
    selectTemplate candidates overrides gpus = selectTemplate candidates overrides [] := by
  have hcompatible : ∀ t ∈ candidates.filter (fun t => overrides.all fun o => satisfies t.spec o),
      runsOn gpus t = true := fun t ht => h t (List.mem_filter.1 ht).1
  unfold selectTemplate
  dsimp only
  rw [availableOn_of_admitted hcompatible]
  have hunknown (l : List TemplateRecord) : availableOn [] l = l := rfl
  rw [hunknown]
  split
  · rfl
  · split
    · rfl
    · rfl

variable {model : ModelRecord} {templates : List TemplateRecord}

theorem deriveFromBest_of_admitted {o : TemplateOverrides}
    (h : ∀ t ∈ candidates, runsOn gpus t = true) (hmissing : missingGpu? o gpus = none)
    («namespace» : String) :
    deriveFromBest model o candidates templates gpus «namespace» =
      deriveFromBest model o candidates templates [] «namespace» := by
  unfold deriveFromBest
  rw [hmissing, missingGpu?_nil, selectTemplate_of_admitted h]

theorem resolveBest_of_admitted {overrides : Option TemplateOverrides}
    (h : ∀ t ∈ candidatesFor model templates, runsOn gpus t = true)
    (hmissing : ∀ o, overrides = some o → missingGpu? o gpus = none) («namespace» : String) :
    resolveBest model overrides templates gpus «namespace» =
      resolveBest model overrides templates [] «namespace» := by
  unfold resolveBest
  dsimp only
  rw [selectTemplate_of_admitted h]
  cases overrides with
  | none => rfl
  | some o =>
    simp only [Option.bind_some]
    rw [deriveFromBest_of_admitted h (hmissing o rfl)]

end

/-- Why the known GPUs do not decide which template serves a model that is ready. -/
inductive GpusDecideNothing (service : ServiceObject) (model : ModelRecord)
    (templates : List TemplateRecord) (gpus : List String) : Prop where
  | unknown (none_known : gpus = [])
  /-- The template of the status is kept. -/
  | recorded (t : TemplateRecord)
      (kept : recorded? (service.status.bind (·.resolvedTemplate)) model
        (trimmed? service.spec.templateName) service.spec.effectiveOverrides templates = some t)
  | named (name : String) (named : trimmed? service.spec.templateName = some name)
  /-- The nodes have what each candidate is bound to, and what the overrides ask for. -/
  | admitted (candidates : ∀ t ∈ candidatesFor model templates, runsOn gpus t = true)
      (wanted : ∀ o, service.spec.effectiveOverrides = some o → missingGpu? o gpus = none)

theorem observeTemplate_of_undecided {service : ServiceObject} {model : Option ModelRecord}
    {templates : List TemplateRecord} {gpus : List String}
    (h : ∀ m, model = some m → GpusDecideNothing service m templates gpus) :
    observeTemplate service model templates gpus = observeTemplate service model templates [] := by
  unfold observeTemplate
  cases hm : model.filter fun m => m.status.isReady with
  | none => rfl
  | some m =>
    dsimp only
    cases h m (Option.filter_eq_some_iff.1 hm).1 with
    | unknown none_known => rw [none_known]
    | recorded t kept => rw [kept]
    | named name named => rw [named]
    | admitted candidates wanted => rw [resolveBest_of_admitted candidates wanted]

/-- The faults of the reads that a pass goes on without. -/
structure FailedReads where
  pods : Option Fault
  nodes : Option Fault
  route : Option Fault

namespace Answers

variable (a : Answers) (service : ServiceObject) (policy : Policy)

/-- The answers with some of the reads failed. -/
def failing (failed : FailedReads) : Answers :=
  { a with
    pods := failed.pods.elim a.pods .error
    nodes := failed.nodes.elim a.nodes .error
    route := failed.route.elim a.route .error }

def plan : Except Fault Plan := do
  (observe service (← Snapshot.ofAnswers a) policy).plan service policy

end Answers

namespace Snapshot

variable (s : Snapshot)

/-- What is left of a snapshot where some of the reads failed. -/
def failing (failed : FailedReads) : Snapshot :=
  ({ s with gpus := if failed.nodes.isSome then [] else s.gpus } : Snapshot).withReports
    (if failed.pods.isSome then [] else s.pods) (if failed.route.isSome then none else s.route)

theorem ofAnswers_failing (a : Answers) (failed : FailedReads) :
    ofAnswers (a.failing failed) = (fun s => s.failing failed) <$> ofAnswers a := by
  obtain ⟨pods, nodes, route⟩ := failed
  unfold ofAnswers
  simp only [map_bind, map_pure]
  cases pods <;> cases nodes <;> cases route <;> rfl

/-- Without GPUs the observation is the same if known ones decide nothing. -/
theorem observe_of_undecided {s : Snapshot} {service : ServiceObject} {policy : Policy}
    (h : ∀ m, (observe service s policy).model.ready? = some m →
      GpusDecideNothing service m s.templates.records s.gpus) :
    observe service { s with gpus := [] } policy = observe service s policy := by
  have htemplate : observeTemplate service (observeModel service s.models.records).ready?
      s.templates.records s.gpus = observeTemplate service
        (observeModel service s.models.records).ready? s.templates.records [] :=
    observeTemplate_of_undecided h
  unfold observe
  dsimp only
  rw [htemplate]

end Snapshot

section

variable (a : Answers) (service : ServiceObject) (policy : Policy) (failed : FailedReads)

theorem plan_failing :
    (a.failing failed).plan service policy = Snapshot.ofAnswers a >>= fun s =>
      (observe service (s.failing failed) policy).plan service policy := by
  unfold Answers.plan
  rw [Snapshot.ofAnswers_failing, bind_map_left]

theorem plan_failing_nodes :
    (a.failing failed).plan service policy =
      (a.failing ⟨none, failed.nodes, none⟩).plan service policy := by
  rw [plan_failing, plan_failing]
  refine bind_congr fun s => ?_
  unfold Snapshot.failing
  rw [Snapshot.plan_withReports, Snapshot.plan_withReports]

theorem plan_failing_of_undecided (f : Fault)
    (h : ∀ s, Snapshot.ofAnswers a = .ok s → ∀ m, (observe service s policy).model.ready? = some m →
      GpusDecideNothing service m s.templates.records s.gpus) :
    (a.failing ⟨none, some f, none⟩).plan service policy = a.plan service policy := by
  rw [plan_failing]
  unfold Answers.plan
  cases hanswers : Snapshot.ofAnswers a with
  | error f' => rfl
  | ok s =>
    exact congrArg (Observation.plan · service policy)
      (Snapshot.observe_of_undecided (h s hanswers))

end

/-- Failed reads of pods and the route change nothing that is planned, whichever of them failed.
If the nodes could not be read, the plan is the one for a cluster without nodes, and it is that of
the full answers wherever the GPUs that are known do not decide the template. -/
theorem plan_of_failed_reads (a : Answers) (service : ServiceObject) (policy : Policy)
    (failed : FailedReads) :
    (failed.nodes = none → (a.failing failed).plan service policy = a.plan service policy) ∧
    (failed.nodes.isSome = true →
      (a.failing failed).plan service policy =
        ({ a with nodes := .ok [] } : Answers).plan service policy ∧
      ((∀ s, Snapshot.ofAnswers a = .ok s → ∀ m,
          (observe service s policy).model.ready? = some m →
            GpusDecideNothing service m s.templates.records s.gpus) →
        (a.failing failed).plan service policy = a.plan service policy)) := by
  rw [plan_failing_nodes]
  obtain ⟨pods, nodes, route⟩ := failed
  refine ⟨fun hnone => ?_, fun hsome => ?_⟩
  · dsimp only at hnone
    rw [hnone]
    rfl
  · obtain ⟨f, rfl⟩ := Option.isSome_iff_exists.1 hsome
    exact ⟨rfl, plan_failing_of_undecided a service policy f⟩

def mi300Node : Node where
  metadata := { Metadata.empty with
    labels := some (.ofList [(GpuModel.productLabel, "MI300X")]) }

def unreadable : Fault := .request (some 500)

def cachedAnswers : Answers :=
  { refusingClient.answers with pods := .ok [], nodes := .ok [mi300Node], route := .ok none }

theorem cached_plan_without_reads :
    (cachedAnswers.failing ⟨some unreadable, some unreadable, some unreadable⟩).plan cachedService
      Policy.standard = cachedAnswers.plan cachedService Policy.standard := by
  refine ((plan_of_failed_reads cachedAnswers cachedService Policy.standard _).2 rfl).2 ?_
  intro s hs m hm
  cases hs
  have hready : (observeModel cachedService [.ofObject .cluster cachedModel]).ready? =
      some (.ofObject .cluster cachedModel) := by decide +kernel
  cases hm.symm.trans hready
  refine .admitted (List.all_eq_true.1 ?_) fun o ho => ?_
  · decide +kernel
  · cases ho

/-- The cached service's cluster with another template, for devices that no node has. -/
def misfitAnswers : Answers :=
  { cachedAnswers with
    clusterTemplates := .ok [{ cachedTemplate with
      spec := { cachedTemplate.spec with gpuSelector := some ⟨some "MI325X", none, none⟩ } }] }

/-- Nothing is planned on a template that no node can run, until the nodes cannot be read. -/
theorem failed_node_read_plans_misfit :
    (misfitAnswers.failing ⟨none, some unreadable, none⟩).plan cachedService Policy.standard ≠
      misfitAnswers.plan cachedService Policy.standard := by
  have hread : (misfitAnswers.plan cachedService Policy.standard).toOption.map Plan.isEmpty =
      some true := by decide +kernel
  have hunread : ((misfitAnswers.failing ⟨none, some unreadable, none⟩).plan cachedService
      Policy.standard).toOption.map Plan.isEmpty = some false := by decide +kernel
  intro h
  rw [h, hread] at hunread
  cases hunread

end InferenceReconciler
