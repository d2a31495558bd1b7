import InferenceReconciler.ClusterQuery
import InferenceReconciler.ReconcilePass

/-!
# Requests to the cluster

How reads, planned objects, statuses and events are addressed and sent. A request that
cannot be sent at all is never sent, which is a fault without an answer.
-/

namespace InferenceReconciler

inductive Method where
  | get
  | patch
  | post
  | delete
  deriving DecidableEq, Repr, Inhabited

def Method.text : Method → String
  | get => "GET"
  | patch => "PATCH"
  | post => "POST"
  | delete => "DELETE"

/-- Where a set of objects, one of them or a part of one is served. -/
structure Address where
  apiVersion : String
  plural : String
  «namespace» : Option String
  name : Option String
  part : Option String
  deriving DecidableEq, Repr, Inhabited

namespace Address

/-- Kinds of the core have a root of their own. -/
def root (apiVersion : String) : String := if '/' ∈ apiVersion.toList then "apis" else "api"

def segments (a : Address) : List String :=
  [root a.apiVersion, a.apiVersion] ++
    (a.namespace.toList.flatMap fun n => ["namespaces", n]) ++ [a.plural] ++
    a.name.toList ++ a.part.toList

def path (a : Address) : String := "/" ++ "/".intercalate a.segments

def ofKind (kind : ResourceKind) («namespace» name : Option String) : Address :=
  ⟨kind.apiVersion, kind.plural, «namespace», name, none⟩

end Address

structure Content where
  mediaType : String
  body : Json
  deriving Inhabited

structure Request where
  method : Method
  address : Address
  /-- Only objects with this label are asked for. -/
  label : Option (String × String)
  parameters : List (String × String)
  content : Option Content
  deriving Inhabited

/-- The letters that stand for themselves in a form. -/
def isFormLetter (b : UInt8) : Bool :=
  let c := Char.ofNat b.toNat
  c.isAlphanum || c = '*' || c = '-' || c = '.' || c = '_'

def hexDigit (n : Nat) : Char := (Nat.toDigits 16 n).headD '0' |>.toUpper

def formByte (b : UInt8) : List Char :=
  if isFormLetter b then [Char.ofNat b.toNat]
  else if b = 32 then ['+']
  else ['%', hexDigit (b.toNat / 16), hexDigit (b.toNat % 16)]

def formText (s : String) : String := String.ofList (s.toUTF8.toList.flatMap formByte)

namespace Request

def pairs (r : Request) : List (String × String) :=
  (r.label.map fun l => ("labelSelector", s!"{l.1}={l.2}")).toList ++ r.parameters

def target (r : Request) : String :=
  match r.pairs with
  | [] => r.address.path
  | pairs =>
    let texts := pairs.map fun p => s!"{formText p.1}={formText p.2}"
    r.address.path ++ "?" ++ "&".intercalate texts

def isPathCharacter (c : Char) : Bool :=
  32 < c.toNat && c ≠ '<' && c ≠ '>' && c.toNat ≠ 96

def maxManagerLength : Nat := 128

def managerParameter : String := "fieldManager"

/-- Whether the request can be sent: an object has a name, a path holds legal characters
and the name of a manager is short. -/
def isSendable (r : Request) : Bool :=
  r.address.name.all (fun n => !n.isEmpty) &&
    r.address.path.toList.all isPathCharacter &&
    (r.parameters.lookup managerParameter).all fun m => m.utf8ByteSize ≤ maxManagerLength

def ofQuery (q : Query) : Request :=
  ⟨.get, .ofKind q.kind q.namespace q.name, q.label, [], none⟩

/-- A whole object is applied by force, so its fields become those of the manager. -/
def ofPlanned («namespace» manager : String) (p : PlannedObject) : Request :=
  let address := Address.ofKind p.kind (some «namespace») (some p.name)
  match p.mode with
  | .wholeObject => ⟨.patch, address, none, [("force", "true"), (managerParameter, manager)],
      some ⟨"application/apply-patch+yaml", p.body⟩⟩
  | .mergePatch => ⟨.patch, address, none, [], some ⟨"application/merge-patch+json", p.body⟩⟩

def ofDelete («namespace» : String) (d : PlannedDelete) : Request :=
  ⟨.delete, .ofKind d.kind (some «namespace») (some d.name), none, [],
    some ⟨"application/json", .obj []⟩⟩

def statusPatch (s : ServiceStatus) : Json := .obj [("status", Wire.write s)]

def ofStatus (service : ServiceObject) (manager : String) (s : ServiceStatus) : Request :=
  let address := Address.ofKind .service (some (service.metadata.namespace.getD ""))
    (some service.displayName)
  ⟨.patch, { address with part := some "status" }, none, [(managerParameter, manager)],
    some ⟨"application/merge-patch+json", statusPatch s⟩⟩

def reporter : String := "aim-service-controller"

def regarding (service : ServiceObject) : Json := .record [
  field "apiVersion" ResourceKind.service.apiVersion,
  field "kind" ResourceKind.service.text,
  optionalField "name" service.metadata.name,
  optionalField "namespace" service.metadata.namespace,
  optionalField "uid" service.metadata.uid]

def eventBody (service : ServiceObject) (e : Event) : Json := .record [
  field "action" e.action,
  optionalField "note" e.note,
  field "reason" e.reason,
  field "regarding" (regarding service),
  field "reportingController" reporter,
  field "type" (match e.type with
    | .normal => "Normal"
    | .warning => "Warning")]

def ofEvent (service : ServiceObject) (e : Event) : Request :=
  let address : Address :=
    ⟨"events.k8s.io/v1", "events", some (service.metadata.namespace.getD "default"), none, none⟩
  ⟨.post, address, none, [], some ⟨"application/json", eventBody service e⟩⟩

end Request

end InferenceReconciler
