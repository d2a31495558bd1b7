import InferenceReconciler.GpuModel
import InferenceReconciler.TemplateRecord

/-!
# Selection of a template

The templates of a model are narrowed to those that satisfy the overrides, to those
whose GPU is in the cluster, to the ready ones and to those of the namespace where there
are any, and then ranked. Two that rank equally at the top leave the choice to the user.
-/

namespace InferenceReconciler

/-- Equal apart from blanks around and from the case of ASCII letters. -/
def sameWord (a b : String) : Bool :=
  (trimBlanks a).toList.map Char.toLower = (trimBlanks b).toList.map Char.toLower

/-- Whether a template has what is asked for, if anything is. -/
def wordFits (wanted offered : Option String) : Bool :=
  match wanted, offered with
  | none, _ => true
  | some w, some h => sameWord w h
  | some _, none => false

def gpuFits (spec : TemplateSpec) (gpu : GpuSelector) : Bool :=
  (match gpu.model, spec.gpuModel? with
    | none, _ => true
    | some w, some h => GpuModel.canonical h = GpuModel.canonical w
    | some _, none => false) &&
  (match gpu.count with
    | none => true
    | some n => spec.gpuCount = n) &&
  (match gpu.resourceName with
    | none => true
    | some w => spec.gpuSelector.bind (·.resourceName) = some w)

def satisfies (spec : TemplateSpec) (o : TemplateOverrides) : Bool :=
  wordFits o.metric spec.metric && wordFits o.precision spec.precision &&
    o.gpuSelector.all fun gpu => gpuFits spec gpu

def profileTypes : List String := ["optimized", "preview", "unoptimized"]

def gpuOrder : List String := ["MI325X", "MI300X", "MI250X", "MI210", "A100", "H100"]

def metricOrder : List String := ["latency", "throughput"]

def precisionOrder : List String := ["fp4", "int4", "fp8", "int8", "fp16", "bf16", "fp32"]

/-- The place in an order of preference; what is not in it comes last. -/
def preference (order : List String) (value : Option String) : Nat :=
  match value with
  | some v => order.findIdx fun w => sameWord w v
  | none => order.length

/-- Places by profile type, GPU, metric and precision; the first that differs decides. -/
structure TemplateRank where
  profileType : Nat
  gpu : Nat
  metric : Nat
  precision : Nat
  deriving DecidableEq, Repr

def TemplateRank.compare (a b : TemplateRank) : Ordering :=
  (Ord.compare a.profileType b.profileType).then <|
    (Ord.compare a.gpu b.gpu).then <|
      (Ord.compare a.metric b.metric).then (Ord.compare a.precision b.precision)

/-- What the specification does not say is taken from the discovered profile. -/
def TemplateRecord.rank (t : TemplateRecord) : TemplateRank where
  profileType := preference profileTypes (t.profile?.bind (·.type))
  gpu := preference gpuOrder
    ((t.spec.gpuModel? <|> t.profile?.bind (·.gpu)).map GpuModel.canonical)
  metric := preference metricOrder (t.spec.metric <|> t.profile?.bind (·.metric))
  precision := preference precisionOrder (t.spec.precision <|> t.profile?.bind (·.precision))

/-- The order of ranked templates; names decide between equal ranks. -/
def TemplateRecord.noWorse (a b : TemplateRecord) : Bool :=
  ((a.rank.compare b.rank).then (Ord.compare a.name b.name)).isLE

inductive SelectionOutcome where
  | selected (t : TemplateRecord)
  /-- Candidates there are, but none is ready yet. -/
  | notReady (candidates : Nat)
  | failed (p : Problem)
  deriving DecidableEq

/-- A template bound to no GPU runs on any cluster. -/
def runsOn (gpus : List String) (t : TemplateRecord) : Bool :=
  match t.spec.gpuModel? with
  | none => true
  | some model => gpus.contains (GpuModel.canonical model)

/-- Without knowledge of the nodes every template counts as one that can run. -/
def availableOn (gpus : List String) (l : List TemplateRecord) : List TemplateRecord :=
  if gpus.isEmpty then l else l.filter (runsOn gpus)

/-- The templates of the namespace, or all where there are none. -/
def preferNamespaced (l : List TemplateRecord) : List TemplateRecord :=
  if l.any fun t => t.scope = .namespaced then l.filter fun t => t.scope = .namespaced else l

/-- The best of the ready templates, unless the two best rank equally. -/
def bestOf (ready : List TemplateRecord) : SelectionOutcome :=
  match (preferNamespaced ready).mergeSort TemplateRecord.noWorse with
  | [] => .notReady 0
  | [only] => .selected only
  | first :: second :: _ =>
    if first.rank.compare second.rank = .eq then
      .failed (.provided Reason.templateSelectionAmbiguous
        s!"templates {first.name} and {second.name} rank equally; set spec.templateName")
    else .selected first

/-- The choice among the templates that can run, by the best health among them. -/
def selectByHealth (available : List TemplateRecord) : SelectionOutcome :=
  let ranks := available.map fun t => t.status.status.rank
  let best := ranks.foldl min LifecycleStatus.failed.rank
  if best = LifecycleStatus.ready.rank then bestOf (available.filter TemplateRecord.isReady)
  else if best = LifecycleStatus.failed.rank then
    .failed (.provided Reason.templateSelectionFailed
      s!"all {available.length} candidate templates failed")
  else if best = LifecycleStatus.notAvailable.rank then
    .failed (.provided Reason.templateSelectionFailed
      s!"all {available.length} candidate templates are not available")
  else .notReady available.length

def selectTemplate (candidates : List TemplateRecord) (overrides : Option TemplateOverrides)
    (gpus : List String) : SelectionOutcome :=
  let compatible := candidates.filter fun t => overrides.all fun o => satisfies t.spec o
  let available := availableOn gpus compatible
  if candidates.isEmpty then
    .failed (.provided Reason.templateNotFound "no templates found for the model")
  else if compatible.isEmpty then
    .failed (.validation Reason.validationFailed
      s!"none of the {candidates.length} templates for the model satisfies the overrides")
  else if available.isEmpty then
    let present := ", ".intercalate gpus
    .failed (.provided Reason.templateSelectionFailed
      s!"no template targets a GPU present in the cluster ({present})")
  else selectByHealth available

@[simp] theorem satisfies_empty (spec : TemplateSpec) :
    satisfies spec ⟨none, none, none⟩ = true := rfl

theorem mem_preferNamespaced {t : TemplateRecord} {l : List TemplateRecord}
    (h : t ∈ preferNamespaced l) : t ∈ l := by
  unfold preferNamespaced at h
  split at h
  · exact (List.mem_filter.1 h).1
  · exact h

end InferenceReconciler
