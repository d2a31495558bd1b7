import InferenceReconciler.ComponentHealth
import InferenceReconciler.CustomObject

/-!
# Template records

A serving template of either scope, and whether a reference in a status points at it.
-/

namespace InferenceReconciler

structure TemplateRecord where
  name : String
  «namespace» : Option String
  scope : ResourceScope
  uid : Option String
  spec : TemplateSpec
  status : TemplateStatus
  labels : Dict String
  deriving DecidableEq

def TemplateStatus.initial : TemplateStatus := ⟨.pending, [], none⟩

namespace TemplateRecord

instance : Inhabited TemplateRecord := ⟨⟨"", none, .namespaced, none, .empty, .initial, {}⟩⟩

def ofObject (scope : ResourceScope) (o : TemplateObject) : TemplateRecord where
  name := o.displayName
  «namespace» := if scope = .namespaced then o.metadata.namespace else none
  scope := scope
  uid := o.metadata.uid
  spec := o.spec
  status := o.status.getD .initial
  labels := o.metadata.labels.getD {}

def reference (r : TemplateRecord) : ResolvedReference := ⟨r.name, r.namespace, r.scope, r.uid⟩

def profile? (r : TemplateRecord) : Option ProfileMetadata := r.status.profile.map (·.metadata)

def isReady (r : TemplateRecord) : Bool := r.status.status.isReady

/-- Whether two identifiers may belong to one object; an unknown one fits any. -/
def uidsAgree : Option String → Option String → Bool
  | some a, some b => a = b
  | _, _ => true

/-- Whether the reference points at this template. -/
def isReferredBy (r : TemplateRecord) (ref : ResolvedReference) : Bool :=
  r.name = ref.name && r.scope = ref.scope &&
    (r.scope = .cluster || r.namespace = ref.namespace) && uidsAgree r.uid ref.uid

@[simp] theorem isReferredBy_reference (r : TemplateRecord) :
    r.isReferredBy r.reference = true := by
  cases h : r.uid <;> simp [isReferredBy, reference, uidsAgree, h]

end TemplateRecord

structure TemplateFetch where
  ofNamespace : List TemplateObject
  ofCluster : List TemplateObject
  deriving DecidableEq, Inhabited

def TemplateFetch.records (f : TemplateFetch) : List TemplateRecord :=
  f.ofNamespace.map (TemplateRecord.ofObject .namespaced) ++
    f.ofCluster.map (TemplateRecord.ofObject .cluster)

end InferenceReconciler
