import InferenceReconciler.RequestClient

/-!
# Requests in layers

The requests of a plan are tried in its order. All shared objects are written, whatever becomes of
each of them, and the owned ones only if none of the shared was refused. Deletions go one by one and
stop at the first that fails, but not at one that finds nothing to delete. So the first fault among
what was tried is how a plan ends, and without one all of it was tried.
-/

namespace InferenceReconciler

namespace Attempt

variable {a : Attempt} {f : Fault}

def accepted (a : Attempt) : Bool := a.result.isOk

/-- What went wrong with an attempt. With a deletion of what is gone already nothing did. -/
def fault? (a : Attempt) : Option Fault :=
  match a.result with
  | .ok _ => none
  | .error f => if a.request.method = .delete ∧ f.isNotFound = true then none else some f

theorem fault?_of_write (h : a.request.method ≠ .delete) :
    a.fault? = match a.result with
      | .ok _ => none
      | .error f => some f := by
  simp [fault?, h]

theorem fault?_eq_none_iff (h : a.request.method ≠ .delete) :
    a.fault? = none ↔ a.accepted = true := by
  rw [fault?_of_write h, accepted]
  cases a.result <;> simp [Except.isOk, Except.toBool]

end Attempt

/-- Attempts of which the first that goes wrong does so with the fault. -/
inductive FirstFault (f : Fault) : List Attempt → Prop
  | found (front : List Attempt) (a : Attempt) (rear : List Attempt)
      (hfront : ∀ b ∈ front, b.fault? = none) (ha : a.fault? = some f) :
      FirstFault f (front ++ a :: rear)

section

variable {layer front rear : List Attempt} {a : Attempt} {f : Fault}

theorem findSome?_eq_some_iff : layer.findSome? Attempt.fault? = some f ↔ FirstFault f layer := by
  rw [List.findSome?_eq_some_iff]
  constructor
  · rintro ⟨front, a, rear, rfl, ha, hfront⟩
    exact .found front a rear hfront ha
  · rintro ⟨front, a, rear, hfront, ha⟩
    exact ⟨front, a, rear, rfl, ha, hfront⟩

theorem faultless_or_firstFault (layer : List Attempt) :
    (∀ a ∈ layer, a.fault? = none) ∨ ∃ f, FirstFault f layer := by
  cases h : layer.findSome? Attempt.fault? with
  | none => exact .inl (List.findSome?_eq_none_iff.1 h)
  | some f => exact .inr ⟨f, findSome?_eq_some_iff.1 h⟩

theorem FirstFault.unique {f' : Fault} (h : FirstFault f layer) (h' : FirstFault f' layer) :
    f = f' :=
  Option.some.inj ((findSome?_eq_some_iff.2 h).symm.trans (findSome?_eq_some_iff.2 h'))

theorem FirstFault.exists_mem (h : FirstFault f layer) : ∃ a ∈ layer, a.fault? ≠ none := by
  obtain ⟨front, a, rear, -, ha⟩ := h
  exact ⟨a, List.mem_append_right _ List.mem_cons_self, by simp [ha]⟩

theorem FirstFault.append_left (h : FirstFault f layer) (hfront : ∀ b ∈ front, b.fault? = none) :
    FirstFault f (front ++ layer) := by
  obtain ⟨before, a, rear, hbefore, ha⟩ := h
  rw [← List.append_assoc]
  exact .found _ a rear (List.forall_mem_append.2 ⟨hfront, hbefore⟩) ha

theorem faultless_of_accepted (hwrite : ∀ a ∈ layer, a.request.method ≠ .delete)
    (h : ∀ a ∈ layer, a.accepted = true) : ∀ a ∈ layer, a.fault? = none :=
  fun a ha => (Attempt.fault?_eq_none_iff (hwrite a ha)).2 (h a ha)

theorem exists_firstFault_of_refused (hwrite : ∀ a ∈ layer, a.request.method ≠ .delete)
    (h : ∃ a ∈ layer, a.accepted = false) : ∃ f, FirstFault f layer := by
  obtain ⟨a, ha, hrefused⟩ := h
  refine (faultless_or_firstFault layer).resolve_left fun hnone => ?_
  have hok := (Attempt.fault?_eq_none_iff (hwrite a ha)).1 (hnone a ha)
  exact Bool.false_ne_true (hrefused.symm.trans hok)

namespace ApiServer

theorem firstFault_eq (h : ∀ a ∈ layer, a.request.method ≠ .delete) :
    firstFault (layer.map Attempt.result) =
      match layer.findSome? Attempt.fault? with
      | none => .ok ()
      | some f => .error f := by
  induction layer with
  | nil => rfl
  | cons a rest ih =>
    have hrest := ih fun b hb => h b (List.mem_cons_of_mem a hb)
    rw [List.map_cons, List.findSome?_cons, Attempt.fault?_of_write (h a List.mem_cons_self)]
    cases ha : a.result with
    | ok answer => exact hrest
    | error f => rfl

theorem sendLayer_of_faultless (hwrite : ∀ a ∈ layer, a.request.method ≠ .delete)
    (h : ∀ a ∈ layer, a.fault? = none) : sendLayer layer = ⟨layer, .ok ()⟩ := by
  rw [sendLayer, firstFault_eq hwrite, List.findSome?_eq_none_iff.2 h]

theorem sendLayer_of_firstFault (hwrite : ∀ a ∈ layer, a.request.method ≠ .delete)
    (h : FirstFault f layer) : sendLayer layer = ⟨layer, .error f⟩ := by
  rw [sendLayer, firstFault_eq hwrite, findSome?_eq_some_iff.2 h]

theorem sendDeletes_cons_of_none (hdelete : a.request.method = .delete) (ha : a.fault? = none)
    (rest : List Attempt) :
    sendDeletes (a :: rest) = ⟨a :: (sendDeletes rest).tried, (sendDeletes rest).result⟩ := by
  unfold Attempt.fault? at ha
  rw [sendDeletes]
  cases hresult : a.result with
  | ok answer => rfl
  | error f =>
    rw [hresult] at ha
    have hgone : f.isNotFound = true := by simpa [hdelete] using ha
    dsimp only
    rw [if_pos hgone]
    rfl

theorem sendDeletes_cons_of_some (hdelete : a.request.method = .delete) (ha : a.fault? = some f)
    (rest : List Attempt) : sendDeletes (a :: rest) = ⟨[a], .error f⟩ := by
  unfold Attempt.fault? at ha
  rw [sendDeletes]
  cases hresult : a.result with
  | ok answer =>
    rw [hresult] at ha
    cases ha
  | error f' =>
    rw [hresult] at ha
    obtain ⟨hgone, rfl⟩ : f'.isNotFound = false ∧ f' = f := by simpa [hdelete] using ha
    dsimp only
    rw [if_neg (by simp [hgone])]

theorem sendDeletes_append (hdelete : ∀ b ∈ front, b.request.method = .delete)
    (hfront : ∀ b ∈ front, b.fault? = none) (rest : List Attempt) :
    sendDeletes (front ++ rest) =
      ⟨front ++ (sendDeletes rest).tried, (sendDeletes rest).result⟩ := by
  induction front with
  | nil => rfl
  | cons b front ih =>
    obtain ⟨hb, hothers⟩ := List.forall_mem_cons.1 hfront
    obtain ⟨hmethod, hmethods⟩ := List.forall_mem_cons.1 hdelete
    rw [List.cons_append, sendDeletes_cons_of_none hmethod hb, ih hmethods hothers]
    rfl

theorem sendDeletes_of_faultless (hdelete : ∀ b ∈ layer, b.request.method = .delete)
    (h : ∀ b ∈ layer, b.fault? = none) : sendDeletes layer = ⟨layer, .ok ()⟩ := by
  have hall := sendDeletes_append hdelete h []
  rwa [List.append_nil, sendDeletes, Sent.nothing, List.append_nil] at hall

theorem sendDeletes_of_fault (hdelete : ∀ b ∈ front ++ a :: rear, b.request.method = .delete)
    (hfront : ∀ b ∈ front, b.fault? = none) (ha : a.fault? = some f) :
    sendDeletes (front ++ a :: rear) = ⟨front ++ [a], .error f⟩ := by
  obtain ⟨hmethods, hrest⟩ := List.forall_mem_append.1 hdelete
  rw [sendDeletes_append hmethods hfront,
    sendDeletes_cons_of_some (hrest a List.mem_cons_self) ha]

variable {shared owned deletes : List Attempt}

theorem sendLayers_of_sharedFault (hwrite : ∀ a ∈ shared, a.request.method ≠ .delete)
    (h : FirstFault f shared) : sendLayers shared owned deletes = ⟨shared, .error f⟩ := by
  rw [sendLayers, sendLayer_of_firstFault hwrite h]
  rfl

theorem sendLayers_of_ownedFault (hwrite : ∀ a ∈ shared ++ owned, a.request.method ≠ .delete)
    (hshared : ∀ a ∈ shared, a.fault? = none) (h : FirstFault f owned) :
    sendLayers shared owned deletes = ⟨shared ++ owned, .error f⟩ := by
  obtain ⟨hwriteShared, hwriteOwned⟩ := List.forall_mem_append.1 hwrite
  rw [sendLayers, sendLayer_of_faultless hwriteShared hshared,
    sendLayer_of_firstFault hwriteOwned h]
  rfl

theorem sendLayers_of_written (hwrite : ∀ a ∈ shared ++ owned, a.request.method ≠ .delete)
    (h : ∀ a ∈ shared ++ owned, a.fault? = none) :
    sendLayers shared owned deletes =
      ⟨shared ++ owned ++ (sendDeletes deletes).tried, (sendDeletes deletes).result⟩ := by
  obtain ⟨hwriteShared, hwriteOwned⟩ := List.forall_mem_append.1 hwrite
  obtain ⟨hshared, howned⟩ := List.forall_mem_append.1 h
  rw [sendLayers, sendLayer_of_faultless hwriteShared hshared,
    sendLayer_of_faultless hwriteOwned howned]
  rfl

/-- Either everything was tried and nothing went wrong, or the first fault is the end. -/
theorem sendLayers_cases (hwrite : ∀ a ∈ shared ++ owned, a.request.method ≠ .delete)
    (hdelete : ∀ a ∈ deletes, a.request.method = .delete) :
    (sendLayers shared owned deletes = ⟨shared ++ owned ++ deletes, .ok ()⟩ ∧
        ∀ a ∈ shared ++ owned ++ deletes, a.fault? = none) ∨
      ∃ tried f, sendLayers shared owned deletes = ⟨tried, .error f⟩ ∧ FirstFault f tried := by
  -- The first fault of a layer is the first of all that was tried, as no layer starts behind one.
  have hwriteShared := (List.forall_mem_append.1 hwrite).1
  obtain hshared | ⟨f, hshared⟩ := faultless_or_firstFault shared
  · obtain howned | ⟨f, howned⟩ := faultless_or_firstFault owned
    · have hwrites := List.forall_mem_append.2 ⟨hshared, howned⟩
      rw [sendLayers_of_written hwrite hwrites]
      obtain hdeletes | ⟨f, front, a, rear, hfront, ha⟩ := faultless_or_firstFault deletes
      · rw [sendDeletes_of_faultless hdelete hdeletes]
        exact .inl ⟨rfl, List.forall_mem_append.2 ⟨hwrites, hdeletes⟩⟩
      · rw [sendDeletes_of_fault hdelete hfront ha]
        have hstopped : FirstFault f (front ++ [a]) := .found front a [] hfront ha
        exact .inr ⟨_, f, rfl, hstopped.append_left hwrites⟩
    · exact .inr ⟨_, f, sendLayers_of_ownedFault hwrite hshared howned,
        howned.append_left hshared⟩
  · exact .inr ⟨_, f, sendLayers_of_sharedFault hwriteShared hshared, hshared⟩

theorem sendLayers_ok_iff (hwrite : ∀ a ∈ shared ++ owned, a.request.method ≠ .delete)
    (hdelete : ∀ a ∈ deletes, a.request.method = .delete) :
    (sendLayers shared owned deletes).result = .ok () ↔
      (∀ a ∈ (sendLayers shared owned deletes).tried, a.fault? = none) ∧
        (sendLayers shared owned deletes).tried = shared ++ owned ++ deletes := by
  obtain ⟨heq, hnone⟩ | ⟨tried, f, heq, hfault⟩ := sendLayers_cases hwrite hdelete
  · rw [heq]
    exact iff_of_true rfl ⟨hnone, rfl⟩
  · rw [heq]
    obtain ⟨a, ha, hne⟩ := hfault.exists_mem
    exact iff_of_false nofun fun hall => hne (hall.1 a ha)

theorem sendLayers_error_iff (hwrite : ∀ a ∈ shared ++ owned, a.request.method ≠ .delete)
    (hdelete : ∀ a ∈ deletes, a.request.method = .delete) (f : Fault) :
    (sendLayers shared owned deletes).result = .error f ↔
      FirstFault f (sendLayers shared owned deletes).tried := by
  obtain ⟨heq, hnone⟩ | ⟨tried, f', heq, hfault⟩ := sendLayers_cases hwrite hdelete
  · rw [heq]
    refine iff_of_false nofun fun hfault => ?_
    obtain ⟨a, ha, hne⟩ := hfault.exists_mem
    exact hne (hnone a ha)
  · rw [heq]
    constructor
    · rintro ⟨⟩
      exact hfault
    · intro hfirst
      rw [hfault.unique hfirst]

/-- What is tried of a plan, and how it ends. -/
structure InLayers (shared owned deletes : List Attempt) (sent : Sent) : Prop where
  /-- All shared objects are tried, and nothing else if one of them is refused. -/
  sharedRefused : (∃ a ∈ shared, a.accepted = false) → sent.tried = shared
  /-- Then all owned ones are, and no deletion if one of them is refused. -/
  ownedRefused : (∀ a ∈ shared, a.accepted = true) → (∃ a ∈ owned, a.accepted = false) →
    sent.tried = shared ++ owned
  /-- What is gone already stops no deletion behind it. -/
  deleted : (∀ a ∈ shared ++ owned, a.accepted = true) → (∀ a ∈ deletes, a.fault? = none) →
    sent.tried = shared ++ owned ++ deletes
  /-- Anything else that goes wrong with a deletion does. -/
  stopped : (∀ a ∈ shared ++ owned, a.accepted = true) → ∀ front a rear,
    deletes = front ++ a :: rear → (∀ b ∈ front, b.fault? = none) → a.fault? ≠ none →
      sent.tried = shared ++ owned ++ (front ++ [a])
  ok_iff : sent.result = .ok () ↔
    (∀ a ∈ sent.tried, a.fault? = none) ∧ sent.tried = shared ++ owned ++ deletes
  error_iff : ∀ f, sent.result = .error f ↔ FirstFault f sent.tried

theorem sendLayers_inLayers (hwrite : ∀ a ∈ shared ++ owned, a.request.method ≠ .delete)
    (hdelete : ∀ a ∈ deletes, a.request.method = .delete) :
    InLayers shared owned deletes (sendLayers shared owned deletes) := by
  obtain ⟨hwriteShared, hwriteOwned⟩ := List.forall_mem_append.1 hwrite
  refine ⟨?sharedRefused, ?ownedRefused, ?deleted, ?stopped, sendLayers_ok_iff hwrite hdelete,
    sendLayers_error_iff hwrite hdelete⟩
  case sharedRefused =>
    intro hrefused
    obtain ⟨f, hfault⟩ := exists_firstFault_of_refused hwriteShared hrefused
    rw [sendLayers_of_sharedFault hwriteShared hfault]
  case ownedRefused =>
    intro hshared hrefused
    obtain ⟨f, hfault⟩ := exists_firstFault_of_refused hwriteOwned hrefused
    rw [sendLayers_of_ownedFault hwrite (faultless_of_accepted hwriteShared hshared) hfault]
  case deleted =>
    intro hwrites hdeletes
    rw [sendLayers_of_written hwrite (faultless_of_accepted hwrite hwrites),
      sendDeletes_of_faultless hdelete hdeletes]
  case stopped =>
    rintro hwrites front a rear rfl hfront hne
    obtain ⟨f, ha⟩ := Option.ne_none_iff_exists'.1 hne
    rw [sendLayers_of_written hwrite (faultless_of_accepted hwrite hwrites),
      sendDeletes_of_fault hdelete hfront ha]

end ApiServer

end

namespace ApiServer

section

variable (servers : Nat → ApiServer) («namespace» manager : String) (p : Plan)

theorem request_mem_of_mem_attemptsFrom {place : Nat} {requests : List Request} {a : Attempt}
    (h : a ∈ attemptsFrom servers place requests) : a.request ∈ requests := by
  obtain ⟨i, hi, rfl⟩ := List.mem_mapIdx.1 h
  exact List.getElem_mem hi

theorem method_ofPlanned (o : PlannedObject) :
    (Request.ofPlanned «namespace» manager o).method = .patch := by
  unfold Request.ofPlanned
  cases o.mode <;> rfl

end

def retryPlan : Plan where
  shared := [⟨.templateCache, "fast", .wholeObject, .obj []⟩]
  owned := [⟨.inferenceService, "chat", .wholeObject, .obj []⟩]
  deletes := [⟨.modelCache, "llama"⟩, ⟨.modelCache, "llama"⟩, ⟨.modelCache, "mistral"⟩,
    ⟨.modelCache, "qwen"⟩]

def refusing (codes : List (Nat × Nat)) (place : Nat) : ApiServer := fun _ =>
  match codes.lookup place with
  | some code => .error ⟨some code, false⟩
  | none => .ok (.obj [])

def retried (codes : List (Nat × Nat)) : List (Option String) × Except Fault Unit :=
  let sent := sendPlan (refusing codes) "default" "aim" retryPlan
  (sent.tried.map (·.request.address.name), sent.result)

end ApiServer

end InferenceReconciler
