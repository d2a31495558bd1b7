import InferenceReconciler.RuntimeConfigSpec
import InferenceReconciler.Trimming

/-!
# Layers of configuration

The configuration of a pass is merged from that of the cluster, that of the namespace
and the service's own, each laid over the ones before. A blank text is no setting.
-/

namespace InferenceReconciler

def overlayText (base top : Option String) : Option String := filledIn? top <|> base

def overlayWith {α : Type} (overlay : α → α → α) (base top : Option α) : Option α :=
  match base, top with
  | base, none => base
  | none, some t => some t
  | some b, some t => some (overlay b t)

def StorageConfig.overlay (base top : StorageConfig) : StorageConfig where
  defaultStorageClassName := overlayText base.defaultStorageClassName top.defaultStorageClassName
  pvcHeadroomPercent := top.pvcHeadroomPercent <|> base.pvcHeadroomPercent

/-- A gateway without a name is no setting. -/
def RoutingConfig.overlay (base top : RoutingConfig) : RoutingConfig where
  enabled := top.enabled <|> base.enabled
  gatewayRef := (top.gatewayRef.filter fun g => !g.name.isEmpty) <|> base.gatewayRef
  pathTemplate := overlayText base.pathTemplate top.pathTemplate
  requestTimeout := overlayText base.requestTimeout top.requestTimeout
  annotations := base.annotations.overlay top.annotations

/-- The variables with one set, in place where there is one of its name. -/
def setVariable (v : EnvVar) : List EnvVar → List EnvVar
  | [] => [v]
  | old :: rest =>
    if old.name = v.name then { old with value := v.value } :: rest else old :: setVariable v rest

/-- The upper variables set one after the other. -/
def overlayEnv (base top : List EnvVar) : List EnvVar :=
  top.foldl (fun env v => setVariable v env) base

def RuntimeConfigSpec.overlay (base top : RuntimeConfigSpec) : RuntimeConfigSpec where
  storage := overlayWith StorageConfig.overlay base.storage top.storage
  routing := overlayWith RoutingConfig.overlay base.routing top.routing
  env := overlayEnv base.env top.env

/-- The configuration of all layers there are, the lowest first. -/
def mergeConfig (cluster ofNamespace service : Option RuntimeConfigSpec) : RuntimeConfigSpec :=
  ([cluster, ofNamespace, service].filterMap id).foldl RuntimeConfigSpec.overlay .empty

@[simp] theorem overlayText_none (base : Option String) : overlayText base none = base := rfl

@[simp] theorem overlayWith_none {α : Type} (overlay : α → α → α) (base : Option α) :
    overlayWith overlay base none = base := by
  cases base <;> rfl

@[simp] theorem overlayEnv_nil (base : List EnvVar) : overlayEnv base [] = base := rfl

end InferenceReconciler
