import InferenceReconciler.Proofs.NewSharedObjects
import InferenceReconciler.Proofs.ObjectRoundTrip

/-!
# Arrived objects

What a snapshot holds once the planned objects of an earlier pass are there. Each of them is
read from its body, has got an identifier and perhaps a status, and stands in the place of the
object of its name or at the end. Nothing else has changed, so a lookup that had found nothing
finds exactly the object that arrived.
-/

namespace InferenceReconciler

namespace CustomObject

variable {σ τ : Type} {new : CustomObject σ τ} {l : List (CustomObject σ τ)}

/-- The object as the cluster holds it. -/
def arrived (o : CustomObject σ τ) (uid : Option String) (status : Option τ) :
    CustomObject σ τ where
  metadata := { o.metadata with uid := uid }
  spec := o.spec
  status := status

/-- Whether both are one object, perhaps in different states. -/
def isSame (a b : CustomObject σ τ) : Bool :=
  a.displayName = b.displayName && a.metadata.namespace = b.metadata.namespace

/-- The list with the object in the place of its former state, or at the end. -/
def put (new : CustomObject σ τ) : List (CustomObject σ τ) → List (CustomObject σ τ)
  | [] => [new]
  | old :: rest => if old.isSame new then new :: rest else old :: put new rest

theorem filter_put {p : CustomObject σ τ → Bool} (hnew : p new = true)
    (h : ∀ o ∈ l, p o = false) : (put new l).filter p = [new] := by
  induction l with
  | nil => simp [put, hnew]
  | cons old rest ih =>
    have hold : p old = false := h old List.mem_cons_self
    have hrest : ∀ o ∈ rest, p o = false := fun o ho => h o (List.mem_cons_of_mem _ ho)
    have hnone : rest.filter p = [] := List.filter_eq_nil_iff.2 fun o ho => by simp [hrest o ho]
    unfold put
    split
    · rw [List.filter_cons_of_pos hnew, hnone]
    · rw [List.filter_cons_of_neg (by simp [hold]), ih hrest]

theorem find?_put {p : CustomObject σ τ → Bool} (hnew : p new = true)
    (h : ∀ o ∈ l, p o = false) : (put new l).find? p = some new := by
  rw [← List.head?_filter, filter_put hnew h]
  rfl

theorem put_eq_append (h : ∀ o ∈ l, o.isSame new = false) : put new l = l ++ [new] := by
  induction l with
  | nil => rfl
  | cons old rest ih =>
    have hold : old.isSame new = false := h old List.mem_cons_self
    unfold put
    rw [if_neg (by simp [hold]), ih fun o ho => h o (List.mem_cons_of_mem _ ho),
      List.cons_append]

/-- The list after the objects that are read from bodies have arrived. -/
def putAll [Wire σ] [Wire τ] (bodies : List PlannedObject) (uid : Option String)
    (status : Option τ) (l : List (CustomObject σ τ)) : List (CustomObject σ τ) :=
  (bodies.filterMap fun d => read? d.body).foldl
    (fun l (o : CustomObject σ τ) => put (o.arrived uid status) l) l

theorem putAll_planned [Wire σ] [Wire τ] [LawfulWire σ] {kind : ResourceKind}
    {o : CustomObject σ τ} (hkept : o.metadata.deletionTimestamp = none) (uid : Option String)
    (status : Option τ) :
    putAll [o.planned kind] uid status l = put (o.arrived uid status) l := by
  simp [putAll, read?_body_planned hkept, arrived]

end CustomObject

/-- What the cluster adds to the objects of a plan. -/
structure Arrival where
  uid : Option String
  model : Option StatusReport
  template : Option TemplateStatus
  cache : Option StatusReport
  /-- The temporary volume, as the cluster answers for it. -/
  claim : VolumeClaim

/-- The snapshot with the shared objects and the volume of a plan. -/
def Snapshot.after (s : Snapshot) (p : Plan) (a : Arrival) : Snapshot :=
  { s with
    models.ofNamespace :=
      CustomObject.putAll (p.ofKind .model) a.uid a.model s.models.ofNamespace
    templates.ofNamespace :=
      CustomObject.putAll (p.ofKind .template) a.uid a.template s.templates.ofNamespace
    caches.templateCaches :=
      CustomObject.putAll (p.ofKind .templateCache) a.uid a.cache s.caches.templateCaches
    caches.claim := if p.ofKind .volumeClaim = [] then s.caches.claim else some a.claim }

end InferenceReconciler
