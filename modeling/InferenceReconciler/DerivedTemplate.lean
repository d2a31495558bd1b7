import InferenceReconciler.Labels
import InferenceReconciler.TemplateRecord

/-!
# Derived templates

A template made from a base and the overrides of a service. Its name is the base's, the
fields that are overridden and a digest of all overrides, so equal overrides of one base
share a template.
-/

namespace InferenceReconciler

def overrideFragments (o : TemplateOverrides) : List String :=
  let gpu := match o.gpuSelector with
    | none => []
    | some g => (g.model.map dnsLabel).toList ++ (g.count.map fun n => s!"{n.toNat}gpu").toList
  let fields := gpu ++ (o.precision.map dnsLabel).toList ++ (o.metric.map dnsLabel).toList
  "ovr" :: fields.filter fun f => !f.isEmpty

def overrideSuffix (o : TemplateOverrides) : String :=
  "-".intercalate (overrideFragments o ++ [hashValues [Wire.write o] 8])

/-- The base cut so that the whole fits; overrides too long for that are only hashed.
Without overrides the name is the base's. -/
def derivedTemplateName (base : String) (overrides : Option TemplateOverrides) : String :=
  match overrides.filter fun o => !o.isEmpty with
  | none => base
  | some o =>
    let suffix := overrideSuffix o
    if maxNameLength ≤ suffix.length + 1 then derivedName [base, "ovr"] [Wire.write o]
    else
      let budget := maxNameLength - (suffix.length + 1)
      match dropTrailing isDash ((dnsLabel base).toList.take budget) with
      | [] => suffix
      | cut => String.ofList cut ++ "-" ++ suffix

def GpuSelector.override (base : Option GpuSelector) (g : GpuSelector) : GpuSelector where
  model := g.model <|> base.bind (·.model)
  count := g.count <|> base.bind (·.count)
  resourceName := g.resourceName <|> base.bind (·.resourceName)

def TemplateSpec.override (base : TemplateSpec) (o : TemplateOverrides) : TemplateSpec :=
  { base with
    metric := o.metric <|> base.metric
    precision := o.precision <|> base.precision
    gpuSelector :=
      match o.gpuSelector with
      | none => base.gpuSelector
      | some g => some (GpuSelector.override base.gpuSelector g) }

/-- The label with the text as its value, unless nothing legal is left of it. -/
def labelIfLegal (key text : String) : List (String × String) :=
  match labelValue text with
  | .ok value => [(key, value)]
  | .error _ => []

def derivedTemplate (base : TemplateRecord) (o : TemplateOverrides) («namespace» : String) :
    TemplateObject where
  metadata := { Metadata.empty with
    name := some (derivedTemplateName base.name (some o))
    «namespace» := some «namespace»
    labels := some (.ofList ([
      (Labels.origin, Labels.originDerived),
      (Labels.derivedTemplate, "true"),
      (Labels.managedBy, Labels.manager)] ++
      labelIfLegal Labels.model base.spec.modelName ++ labelIfLegal Labels.template base.name)) }
  spec := base.spec.override o
  status := none

@[simp] theorem derivedTemplateName_none (base : String) : derivedTemplateName base none = base :=
  rfl

end InferenceReconciler
