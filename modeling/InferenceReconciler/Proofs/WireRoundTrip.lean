import InferenceReconciler.CacheSpec
import InferenceReconciler.Proofs.TimestampText
import InferenceReconciler.ServiceStatus

/-!
# Round trips

What is written to JSON is read back. For a record this follows from its fields: a field that
is given is found under its name, one that is left out is read as absent, and no value is
written as `null`, which would be read as absent too.
-/

namespace InferenceReconciler

/-- Values of the type are read back as they were written, and none is written as null. -/
class LawfulWire (α : Type) [Wire α] : Prop where
  read?_write (a : α) : Wire.read? (Wire.write a) = some a
  isNull_write (a : α) : (Wire.write a : Json).isNull = false

variable {α : Type} [Wire α]

theorem LawfulWire.write_inj [LawfulWire α] {a b : α} (h : Wire.write a = Wire.write b) :
    a = b := by
  have hread := LawfulWire.read?_write a
  rw [h, LawfulWire.read?_write] at hread
  exact (Option.some.inj hread).symm

instance [LawfulWire α] : LawfulWire (List α) where
  read?_write l := by
    change (l.map Wire.write).mapM Wire.read? = some l
    induction l with
    | nil => rfl
    | cons a l ih => simp [List.mapM_cons, ih, LawfulWire.read?_write]
  isNull_write _ := rfl

namespace Json

variable (key k : String) (rest : List (Option (String × Json)))

@[simp] theorem member?_record_field (a : α) :
    (record (field k a :: rest)).member? key =
      if key = k then some (Wire.write a) else (record rest).member? key :=
  lookup_entry_cons key k (Wire.write a) _

@[simp] theorem member?_record_optionalField (o : Option α) :
    (record (optionalField k o :: rest)).member? key =
      if key = k then (o.map Wire.write <|> (record rest).member? key)
      else (record rest).member? key := by
  cases o with
  | none => exact (ite_self _).symm
  | some a => exact lookup_entry_cons key k (Wire.write a) _

@[simp] theorem member?_record_listField (l : List α) :
    (record (listField k l :: rest)).member? key =
      if key = k ∧ l ≠ [] then some (Wire.write l) else (record rest).member? key := by
  cases l with
  | nil => exact (if_neg fun h => h.2 rfl).symm
  | cons a l =>
    have hkey : (key = k ∧ a :: l ≠ []) ↔ key = k := and_iff_left (by simp)
    simp only [hkey]
    exact lookup_entry_cons key k (Wire.write (a :: l)) _

end Json

namespace Members

section

variable {m : Members} {key : String}

theorem required_of_lookup [LawfulWire α] {a : α}
    (h : m.lookup key = some (Wire.write a)) : m.required key = some a := by
  unfold required
  rw [h]
  exact LawfulWire.read?_write a

theorem optional_of_lookup_some {j : Json} (h : m.lookup key = some j)
    (hnull : j.isNull = false) : m.optional key = (Wire.read? (α := α) j).map some := by
  unfold optional
  rw [h]
  split
  · rename_i habsent
    cases habsent
  · rename_i habsent
    rw [Option.some.inj habsent] at hnull
    cases hnull
  · rename_i j _ hj
    cases hj
    rfl

theorem optional_of_lookup [LawfulWire α] {o : Option α}
    (h : m.lookup key = o.map Wire.write) : m.optional key = some o := by
  cases o with
  | none =>
    unfold optional
    rw [h]
    rfl
  | some a =>
    rw [optional_of_lookup_some h (LawfulWire.isNull_write a), LawfulWire.read?_write,
      Option.map_some]

theorem orElse_of_lookup [LawfulWire α] {a default : α}
    (h : m.lookup key = some (Wire.write a)) : m.orElse key default = some a := by
  unfold orElse
  rw [h]
  exact LawfulWire.read?_write a

theorem orElse_of_lookup_list [LawfulWire α] {l : List α}
    (h : m.lookup key = if l = [] then none else some (Wire.write l)) :
    m.orElse key [] = some l := by
  by_cases hnil : l = []
  · rw [if_pos hnil] at h
    unfold orElse
    rw [h, hnil]
  · rw [if_neg hnil] at h
    exact orElse_of_lookup h

end

def Holds {ρ : Type} [Wire ρ] (m : Members) (r : ρ) : Prop :=
  ∀ key, m.lookup key = (Wire.write r).member? key

namespace Holds

variable {ρ : Type} [Wire ρ] [LawfulWire α] {m : Members} {r : ρ} {key : String}

omit [LawfulWire α] in
theorem of_write (h : Wire.write r = .obj m) : m.Holds r := by
  intro key
  rw [h]
  rfl

theorem required_eq (h : m.Holds r) (get : ρ → α)
    (hget : ∀ r : ρ, (Wire.write r).member? key = some (Wire.write (get r))) :
    m.required key = some (get r) :=
  required_of_lookup ((h key).trans (hget r))

theorem optional_eq (h : m.Holds r) (get : ρ → Option α)
    (hget : ∀ r : ρ, (Wire.write r).member? key = (get r).map Wire.write) :
    m.optional key = some (get r) :=
  optional_of_lookup ((h key).trans (hget r))

theorem orElse_eq (h : m.Holds r) (get : ρ → α)
    (hget : ∀ r : ρ, (Wire.write r).member? key = some (Wire.write (get r))) {default : α} :
    m.orElse key default = some (get r) :=
  orElse_of_lookup ((h key).trans (hget r))

theorem orElse_list_eq (h : m.Holds r) (get : ρ → List α)
    (hget : ∀ r : ρ, (Wire.write r).member? key =
      if get r = [] then none else some (Wire.write (get r))) :
    m.orElse key [] = some (get r) :=
  orElse_of_lookup_list ((h key).trans (hget r))

end Holds

end Members

instance : LawfulWire String where
  read?_write _ := rfl
  isNull_write _ := rfl

instance : LawfulWire UInt32 where
  read?_write n := by
    have hlt := n.toNat_lt
    simp only [Wire.read?, Wire.write, Wire.readRange, Json.int?, Option.filter_some]
    rw [if_pos (by simp; omega)]
    simp
  isNull_write _ := rfl

instance : LawfulWire Int64 where
  read?_write n := by
    have hlow := n.le_toInt
    have hhigh := n.toInt_lt
    simp only [Wire.read?, Wire.write, Wire.readRange, Json.int?, Option.filter_some]
    rw [if_pos (by simp; omega)]
    simp
  isNull_write _ := rfl

instance : LawfulWire Timestamp where
  read?_write t := by
    simp only [Wire.read?, Wire.write, Json.str?, Option.bind_some, Timestamp.read?_text]
  isNull_write _ := rfl

instance : LawfulWire ServicePhase where
  read?_write p := p.ofText?_text
  isNull_write _ := rfl

instance : LawfulWire ResourceScope where
  read?_write c := c.ofText?_text
  isNull_write _ := rfl

instance : LawfulWire ConditionStatus where
  read?_write c := c.ofText?_text
  isNull_write _ := rfl

theorem Condition.read?_obj {m : Members} {c : Condition}
    (htype : m.required "type" = some c.type) (hstatus : m.required "status" = some c.status)
    (hreason : m.required "reason" = some c.reason)
    (hmessage : m.required "message" = some c.message)
    (htime : m.required "lastTransitionTime" = some c.lastTransitionTime) :
    Wire.read? (.obj m) = some c := by
  simp [Wire.read?, Json.fields?, htype, hstatus, hreason, hmessage, htime]

instance : LawfulWire Condition where
  read?_write c := by
    have h : Members.Holds _ c := .of_write rfl
    exact Condition.read?_obj (h.required_eq (·.type) (by simp [Wire.write]))
      (h.required_eq (·.status) (by simp [Wire.write]))
      (h.required_eq (·.reason) (by simp [Wire.write]))
      (h.required_eq (·.message) (by simp [Wire.write]))
      (h.required_eq (·.lastTransitionTime) (by simp [Wire.write]))
  isNull_write _ := rfl

theorem ResolvedReference.read?_obj {m : Members} {r : ResolvedReference}
    (hname : m.required "name" = some r.name)
    (hnamespace : m.optional "namespace" = some r.namespace)
    (hscope : m.required "scope" = some r.scope) (huid : m.optional "uid" = some r.uid) :
    Wire.read? (.obj m) = some r := by
  simp [Wire.read?, Json.fields?, hname, hnamespace, hscope, huid]

instance : LawfulWire ResolvedReference where
  read?_write r := by
    have h : Members.Holds _ r := .of_write rfl
    exact ResolvedReference.read?_obj (h.required_eq (·.name) (by simp [Wire.write]))
      (h.optional_eq (·.namespace) (by simp [Wire.write]))
      (h.required_eq (·.scope) (by simp [Wire.write]))
      (h.optional_eq (·.uid) (by simp [Wire.write]))
  isNull_write _ := rfl

theorem ServiceCacheStatus.read?_obj {m : Members} {c : ServiceCacheStatus}
    (href : m.optional "templateCacheRef" = some c.templateCacheRef)
    (hattempts : m.orElse "retryAttempts" 0 = some c.retryAttempts) :
    Wire.read? (.obj m) = some c := by
  simp [Wire.read?, Json.fields?, href, hattempts]

instance : LawfulWire ServiceCacheStatus where
  read?_write c := by
    have h : Members.Holds _ c := .of_write rfl
    exact ServiceCacheStatus.read?_obj
      (h.optional_eq (·.templateCacheRef) (by simp [Wire.write]))
      (h.orElse_eq (·.retryAttempts) (by simp [Wire.write]))
  isNull_write _ := rfl

theorem ServiceRoutingStatus.read?_obj {m : Members} {r : ServiceRoutingStatus}
    (hpath : m.optional "path" = some r.path) : Wire.read? (.obj m) = some r := by
  simp [Wire.read?, Json.fields?, hpath]

instance : LawfulWire ServiceRoutingStatus where
  read?_write r := by
    have h : Members.Holds _ r := .of_write rfl
    exact ServiceRoutingStatus.read?_obj (h.optional_eq (·.path) (by simp [Wire.write]))
  isNull_write _ := rfl

theorem ServiceStatus.read?_obj {m : Members} {s : ServiceStatus}
    (hstatus : m.orElse "status" .pending = some s.status)
    (hconditions : m.orElse "conditions" [] = some s.conditions)
    (hconfig : m.optional "resolvedRuntimeConfig" = some s.resolvedRuntimeConfig)
    (hmodel : m.optional "resolvedModel" = some s.resolvedModel)
    (htemplate : m.optional "resolvedTemplate" = some s.resolvedTemplate)
    (hcache : m.optional "cache" = some s.cache)
    (hrouting : m.optional "routing" = some s.routing)
    (hgeneration : m.optional "observedGeneration" = some s.observedGeneration) :
    Wire.read? (.obj m) = some s := by
  simp [Wire.read?, Json.fields?, hstatus, hconditions, hconfig, hmodel, htemplate, hcache,
    hrouting, hgeneration]

instance : LawfulWire ServiceStatus where
  read?_write s := by
    have h : Members.Holds _ s := .of_write rfl
    exact ServiceStatus.read?_obj (h.orElse_eq (·.status) (by simp [Wire.write]))
      (h.orElse_list_eq (·.conditions) (by simp [Wire.write]))
      (h.optional_eq (·.resolvedRuntimeConfig) (by simp [Wire.write]))
      (h.optional_eq (·.resolvedModel) (by simp [Wire.write]))
      (h.optional_eq (·.resolvedTemplate) (by simp [Wire.write]))
      (h.optional_eq (·.cache) (by simp [Wire.write]))
      (h.optional_eq (·.routing) (by simp [Wire.write]))
      (h.optional_eq (·.observedGeneration) (by simp [Wire.write]))
  isNull_write _ := rfl

theorem EnvVar.read?_obj {m : Members} {v : EnvVar} (hname : m.required "name" = some v.name)
    (hvalue : m.orElse "value" "" = some v.value) : Wire.read? (.obj m) = some v := by
  simp [Wire.read?, Json.fields?, hname, hvalue]

instance : LawfulWire EnvVar where
  read?_write v := by
    have h : Members.Holds _ v := .of_write rfl
    exact EnvVar.read?_obj (h.required_eq (·.name) (by simp [Wire.write]))
      (h.orElse_eq (·.value) (by simp [Wire.write]))
  isNull_write _ := rfl

theorem ModelSource.read?_obj {m : Members} {s : ModelSource}
    (hname : m.required "name" = some s.name) (huri : m.required "sourceUri" = some s.sourceUri)
    (hsize : m.optional "size" = some s.size) : Wire.read? (.obj m) = some s := by
  simp [Wire.read?, Json.fields?, hname, huri, hsize]

instance : LawfulWire ModelSource where
  read?_write s := by
    have h : Members.Holds _ s := .of_write rfl
    exact ModelSource.read?_obj (h.required_eq (·.name) (by simp [Wire.write]))
      (h.required_eq (·.sourceUri) (by simp [Wire.write]))
      (h.optional_eq (·.size) (by simp [Wire.write]))
  isNull_write _ := rfl

theorem GpuSelector.read?_obj {m : Members} {g : GpuSelector}
    (hmodel : m.optional "model" = some g.model) (hcount : m.optional "count" = some g.count)
    (hresource : m.optional "resourceName" = some g.resourceName) :
    Wire.read? (.obj m) = some g := by
  simp [Wire.read?, Json.fields?, hmodel, hcount, hresource]

instance : LawfulWire GpuSelector where
  read?_write g := by
    have h : Members.Holds _ g := .of_write rfl
    exact GpuSelector.read?_obj (h.optional_eq (·.model) (by simp [Wire.write]))
      (h.optional_eq (·.count) (by simp [Wire.write]))
      (h.optional_eq (·.resourceName) (by simp [Wire.write]))
  isNull_write _ := rfl

theorem TemplateOverrides.read?_obj {m : Members} {o : TemplateOverrides}
    (hmetric : m.optional "metric" = some o.metric)
    (hprecision : m.optional "precision" = some o.precision)
    (hgpu : m.optional "gpuSelector" = some o.gpuSelector) : Wire.read? (.obj m) = some o := by
  simp [Wire.read?, Json.fields?, hmetric, hprecision, hgpu]

instance : LawfulWire TemplateOverrides where
  read?_write o := by
    have h : Members.Holds _ o := .of_write rfl
    exact TemplateOverrides.read?_obj (h.optional_eq (·.metric) (by simp [Wire.write]))
      (h.optional_eq (·.precision) (by simp [Wire.write]))
      (h.optional_eq (·.gpuSelector) (by simp [Wire.write]))
  isNull_write _ := rfl

theorem TemplateCacheSpec.read?_obj {m : Members} {s : TemplateCacheSpec}
    (hname : m.required "templateName" = some s.templateName)
    (hscope : m.orElse "templateScope" .namespaced = some s.templateScope)
    (hclass : m.optional "storageClassName" = some s.storageClassName)
    (henv : m.orElse "env" [] = some s.env) : Wire.read? (.obj m) = some s := by
  simp [Wire.read?, Json.fields?, hname, hscope, hclass, henv]

instance : LawfulWire TemplateCacheSpec where
  read?_write s := by
    have h : Members.Holds _ s := .of_write rfl
    exact TemplateCacheSpec.read?_obj (h.required_eq (·.templateName) (by simp [Wire.write]))
      (h.orElse_eq (·.templateScope) (by simp [Wire.write]))
      (h.optional_eq (·.storageClassName) (by simp [Wire.write]))
      (h.orElse_list_eq (·.env) (by simp [Wire.write]))
  isNull_write _ := rfl

end InferenceReconciler
