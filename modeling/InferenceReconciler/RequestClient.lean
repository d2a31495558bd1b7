import InferenceReconciler.ClusterRequest

/-!
# Passes by request

A pass whose calls are requests to a server. A plan is sent in layers: all shared
objects, then all owned ones, then the deletions one by one. A layer starts only when
everything before it was accepted, so no owned object refers to a shared one that was
not written and nothing is deleted after a failed write.
-/

namespace InferenceReconciler

/-- That a server does not do what it is asked. -/
structure Refusal where
  /-- The code of the answer, when there was one. -/
  code : Option Nat
  /-- Whether the server says that the object is not there. -/
  absent : Bool
  deriving DecidableEq, Repr, Inhabited

abbrev ApiServer := Request → Except Refusal Json

/-- A request and what the server answers to it, if it gets there. -/
structure Attempt where
  request : Request
  answer : Except Refusal Json

/-- How an attempt ends: a request that cannot be sent gets no answer. -/
def Attempt.result (a : Attempt) : Except Fault Json :=
  if a.request.isSendable then
    match a.answer with
    | .ok j => .ok j
    | .error refusal => .error (.request refusal.code)
  else .error (.request none)

namespace ApiServer

variable (server : ApiServer)

def send (r : Request) : Except Fault Json := Attempt.result ⟨r, server r⟩

def find? (r : Request) : Except Fault (Option Json) :=
  if r.isSendable then
    match server r with
    | .ok j => .ok (some j)
    | .error refusal =>
      if refusal.absent then .ok none else .error (.request refusal.code)
  else .error (.request none)

/-- The kinds whose objects are taken as they are and fitted to their type afterwards. -/
def isForeign (kind : ResourceKind) : Bool := kind = .inferenceService || kind = .httpRoute

/-- The fault of an object that does not fit; one of a foreign kind is told apart. -/
def misfit (r : Read) : Fault :=
  if isForeign r.kind then .unreadable r.kind.text "the object does not fit its kind"
  else .request none

/-- A foreign object with its metadata in the common form. -/
def withPlainMetadata (object : Json) : Except Fault Json :=
  match Wire.read? (α := Metadata) ((object.member? "metadata").getD (.obj [])) with
  | some m => .ok (object.set "metadata" (Wire.write m))
  | none => .error (.request none)

def listItems (answer : Json) : Except Fault (List Json) :=
  match (answer.member? "items").bind Json.arr? with
  | some items => .ok items
  | none => .error (.request none)

def asRead (r : Read) (object : Json) : Except Fault Json :=
  if isForeign r.kind then withPlainMetadata object else .ok object

def objects (keys : ReadKeys) (r : Read) : Except Fault (List Json) :=
  let request := Request.ofQuery (r.query keys)
  match request.address.name with
  | some _ => do (← find? server request).toList.mapM (asRead r)
  | none => do listItems (← ApiServer.send server request)

/-- What was tried, in the order of the plan, and how it ended. -/
structure Sent where
  tried : List Attempt
  result : Except Fault Unit

namespace Sent

def requests (s : Sent) : List Request := (s.tried.map Attempt.request).filter Request.isSendable

def nothing : Sent := ⟨[], .ok ()⟩

/-- What is sent next, if all went well so far. -/
def thenSend (a : Sent) (next : Sent) : Sent :=
  match a.result with
  | .ok () => ⟨a.tried ++ next.tried, next.result⟩
  | .error _ => a

end Sent

def firstFault : List (Except Fault Json) → Except Fault Unit
  | [] => .ok ()
  | .ok _ :: rest => firstFault rest
  | .error f :: _ => .error f

/-- All requests of a layer, sent side by side. -/
def sendLayer (layer : List Attempt) : Sent := ⟨layer, firstFault (layer.map Attempt.result)⟩

/-- Deletions one after the other, up to the first that fails; an object that is gone
already counts as deleted. -/
def sendDeletes : List Attempt → Sent
  | [] => .nothing
  | a :: rest =>
    match a.result with
    | .ok _ => Sent.thenSend ⟨[a], .ok ()⟩ (sendDeletes rest)
    | .error f =>
      if f.isNotFound then Sent.thenSend ⟨[a], .ok ()⟩ (sendDeletes rest) else ⟨[a], .error f⟩

def sendLayers (shared owned deletes : List Attempt) : Sent :=
  ((sendLayer shared).thenSend (sendLayer owned)).thenSend (sendDeletes deletes)

section

variable (servers : Nat → ApiServer) («namespace» manager : String) (p : Plan)

/-- The requests from a place in a plan on, each with what the server says by the time it is asked. -/
def attemptsFrom (place : Nat) (requests : List Request) : List Attempt :=
  requests.mapIdx fun i r => ⟨r, servers (place + i) r⟩

def sharedAttempts : List Attempt :=
  attemptsFrom servers 0 (p.shared.map (.ofPlanned «namespace» manager))

def ownedAttempts : List Attempt :=
  attemptsFrom servers p.shared.length (p.owned.map (.ofPlanned «namespace» manager))

def deleteAttempts : List Attempt :=
  attemptsFrom servers (p.shared.length + p.owned.length) (p.deletes.map (.ofDelete «namespace»))

def sendPlan : Sent :=
  sendLayers (sharedAttempts servers «namespace» manager p)
    (ownedAttempts servers «namespace» manager p) (deleteAttempts servers «namespace» p)

end

variable (policy : Policy) (service : ServiceObject)

def ofNamespace : String := service.metadata.namespace.getD ""

/-- The server as it answers a pass over the service. -/
def client : ClusterClient where
  answers := .ofObjects (objects server (.of service)) misfit
  apply p := (sendPlan (fun _ => server) (ofNamespace service) policy.fieldManager p).result
  writeStatus s :=
    (ApiServer.send server (.ofStatus service policy.fieldManager s)).map fun _ => ()

def requestsOf (e : Effect) : List Request :=
  match e with
  | .read r => [Request.ofQuery (r.query (.of service))].filter Request.isSendable
  | .apply p => (sendPlan (fun _ => server) (ofNamespace service) policy.fieldManager p).requests
  | .publish e => [Request.ofEvent service e].filter Request.isSendable
  | .writeStatus s =>
    [Request.ofStatus service policy.fieldManager s].filter Request.isSendable

def pass (now : Timestamp) : Pass × List Request :=
  let p := reconcile (client server policy service) now policy service
  (p, p.effects.flatMap (requestsOf server policy service))

def serviceAfter (p : Pass) : ServiceObject :=
  let written := p.effects.findSome? fun
    | .writeStatus s => if ((client server policy service).writeStatus s).isOk then some s else none
    | _ => none
  { service with status := written <|> service.status }

end ApiServer

end InferenceReconciler
