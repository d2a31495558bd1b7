import InferenceReconciler.RuntimeGate
import InferenceReconciler.ServiceSnapshot

/-!
# Queries

The objects a read asks for, and the answers of a cluster that holds its objects as JSON
values.
-/

namespace InferenceReconciler

/-- A set of objects of one kind, whose members satisfy all that is given. -/
structure Query where
  kind : ResourceKind
  «namespace» : Option String
  name : Option String
  /-- A label and its value. -/
  label : Option (String × String)
  deriving DecidableEq, Repr

namespace Query

def metadataText? (object : Json) (key : String) : Option String :=
  ((object.member? "metadata").bind fun m => m.member? key).bind Json.str?

def labelText? (object : Json) (key : String) : Option String :=
  (((object.member? "metadata").bind fun m => m.member? "labels").bind fun l =>
    l.member? key).bind Json.str?

def asksFor (q : Query) (object : Json) : Bool :=
  (q.namespace.all fun n => metadataText? object "namespace" = some n) &&
    (q.name.all fun n => metadataText? object "name" = some n) &&
    (q.label.all fun l => labelText? object l.1 = some l.2)

end Query

/-- The names a pass reads by, which follow from the service. -/
structure ReadKeys where
  «namespace» : String
  config : String
  volume : String
  runtime : String
  route : String
  deriving DecidableEq, Repr

def ReadKeys.of (service : ServiceObject) : ReadKeys where
  «namespace» := service.metadata.namespace.getD ""
  config := service.spec.configName
  volume := temporaryVolumeName service
  runtime := runtimeName service
  route := service.displayName

namespace Read

def query (k : ReadKeys) (r : Read) : Query :=
  match r with
  | runtimeConfig => ⟨r.kind, some k.namespace, some k.config, none⟩
  | clusterRuntimeConfig => ⟨r.kind, none, some k.config, none⟩
  | models | templates | templateCaches | modelCaches => ⟨r.kind, some k.namespace, none, none⟩
  | clusterModels | clusterTemplates | nodes => ⟨r.kind, none, none, none⟩
  | volumeClaim => ⟨r.kind, some k.namespace, some k.volume, none⟩
  | runtime => ⟨r.kind, some k.namespace, some k.runtime, none⟩
  | pods => ⟨r.kind, some k.namespace, none, some (Labels.runtimeOfPod, k.runtime)⟩
  | route => ⟨r.kind, some k.namespace, some k.route, none⟩

end Read

def readAll {α : Type} (read : Json → Option α) (bad : Fault) (objects : List Json) :
    Except Fault (List α) :=
  objects.mapM fun j => match read j with
    | some a => .ok a
    | none => .error bad

def readFirst {α : Type} (read : Json → Option α) (bad : Fault) (objects : List Json) :
    Except Fault (Option α) :=
  (readAll read bad (objects.take 1)).map List.head?

/-- The answers of a cluster that gives objects for each read; `bad` is the fault of one
that cannot be read. -/
def Answers.ofObjects (objects : Read → Except Fault (List Json)) (bad : Read → Fault) :
    Answers where
  runtimeConfig := objects .runtimeConfig >>= readFirst CustomObject.read? (bad .runtimeConfig)
  clusterRuntimeConfig :=
    objects .clusterRuntimeConfig >>= readFirst CustomObject.read? (bad .clusterRuntimeConfig)
  models := objects .models >>= readAll CustomObject.read? (bad .models)
  clusterModels := objects .clusterModels >>= readAll CustomObject.read? (bad .clusterModels)
  templates := objects .templates >>= readAll CustomObject.read? (bad .templates)
  clusterTemplates :=
    objects .clusterTemplates >>= readAll CustomObject.read? (bad .clusterTemplates)
  templateCaches := objects .templateCaches >>= readAll CustomObject.read? (bad .templateCaches)
  modelCaches := objects .modelCaches >>= readAll CustomObject.read? (bad .modelCaches)
  volumeClaim := objects .volumeClaim >>= readFirst Wire.read? (bad .volumeClaim)
  runtime := objects .runtime >>= readFirst Wire.read? (bad .runtime)
  pods := objects .pods >>= readAll Wire.read? (bad .pods)
  nodes := objects .nodes >>= readAll Wire.read? (bad .nodes)
  route := objects .route >>= readFirst Wire.read? (bad .route)

end InferenceReconciler
