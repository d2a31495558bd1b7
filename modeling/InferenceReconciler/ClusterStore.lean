import InferenceReconciler.ClusterQuery

/-!
# Stored objects

The objects of a cluster in the order in which they came. An object is known by its
kind, namespace and name.
-/

namespace InferenceReconciler

structure StoredObject where
  kind : ResourceKind
  body : Json
  deriving Inhabited

namespace StoredObject

def name? (o : StoredObject) : Option String := Query.metadataText? o.body "name"

/-- Whether both are the same object, perhaps in different states. -/
def isSame (a b : StoredObject) : Bool :=
  a.kind = b.kind && a.name? = b.name? &&
    Query.metadataText? a.body "namespace" = Query.metadataText? b.body "namespace"

def isNamed (kind : ResourceKind) (name : String) (o : StoredObject) : Bool :=
  o.kind = kind && o.name? = some name

end StoredObject

abbrev ClusterStore := List StoredObject

namespace ClusterStore

def select (s : ClusterStore) (q : Query) : List Json :=
  (s.filter fun o => o.kind = q.kind && q.asksFor o.body).map (·.body)

def put (new : StoredObject) : ClusterStore → ClusterStore
  | [] => [new]
  | old :: rest => if old.isSame new then new :: rest else old :: put new rest

def delete (kind : ResourceKind) (name : String) (s : ClusterStore) : ClusterStore :=
  s.filter fun o => !o.isNamed kind name

def setStatus (kind : ResourceKind) (name : Option String) (status : Json) (s : ClusterStore) :
    ClusterStore :=
  s.map fun o =>
    if o.kind = kind && name.all (fun n => o.name? = some n) then
      { o with body := o.body.set "status" status }
    else o

@[simp] theorem put_nil (new : StoredObject) : put new [] = [new] := rfl

end ClusterStore

end InferenceReconciler
