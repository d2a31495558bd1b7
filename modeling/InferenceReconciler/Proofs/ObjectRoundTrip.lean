import InferenceReconciler.Proofs.WireRoundTrip
import InferenceReconciler.ServicePlan

/-!
# Objects read back

A model, a template or a cache that is sent whole is read back as it was planned, without a
status: maps and lists that are left out where they are empty are read as empty ones.
-/

namespace InferenceReconciler

variable {α : Type} [Wire α]

instance [LawfulWire α] : LawfulWire (Dict α) where
  read?_write d := by
    have hmembers : ∀ l : List (String × α), (l.map fun e => (e.1, (Wire.write e.2 : Json))).mapM
        (fun e : String × Json => (Wire.read? e.2).map fun a : α => (e.1, a)) = some l := by
      intro l
      induction l with
      | nil => rfl
      | cons e l ih => simp [List.mapM_cons, ih, LawfulWire.read?_write]
    change ((d.entries.map fun e => (e.1, (Wire.write e.2 : Json))).mapM
      (fun e : String × Json => (Wire.read? e.2).map fun a : α => (e.1, a))).map Dict.ofList =
        some d
    rw [hmembers, Option.map_some, d.ofList_entries]
  isNull_write _ := rfl

theorem Json.member?_record_dictField (key k : String) (rest : List (Option (String × Json)))
    (d : Dict α) :
    (record (dictField k d :: rest)).member? key =
      if key = k ∧ d.entries ≠ [] then some (Wire.write d) else (record rest).member? key := by
  unfold dictField Dict.isEmpty
  cases hentries : d.entries with
  | nil => exact (if_neg fun h => h.2 rfl).symm
  | cons e l =>
    have hkey : (key = k ∧ e :: l ≠ []) ↔ key = k := and_iff_left (List.cons_ne_nil e l)
    simp only [hkey]
    exact lookup_entry_cons key k (Wire.write d) _

namespace Members

theorem orElse_of_lookup_dict [LawfulWire α] {m : Members} {key : String} {d : Dict α}
    (h : m.lookup key = if d.entries = [] then none else some (Wire.write d)) :
    m.orElse key {} = some d := by
  by_cases hnil : d.entries = []
  · have hd : d = {} := Dict.ext hnil
    rw [if_pos hnil] at h
    unfold orElse
    rw [h, hd]
  · rw [if_neg hnil] at h
    exact orElse_of_lookup h

theorem Holds.orElse_dict_eq {ρ : Type} [Wire ρ] [LawfulWire α] {m : Members} {r : ρ}
    {key : String} (h : m.Holds r) (get : ρ → Dict α)
    (hget : ∀ r : ρ, (Wire.write r).member? key =
      if (get r).entries = [] then none else some (Wire.write (get r))) :
    m.orElse key {} = some (get r) :=
  orElse_of_lookup_dict ((h key).trans (hget r))

end Members

instance : LawfulWire Bool where
  read?_write _ := rfl
  isNull_write _ := rfl

theorem SecretReference.read?_obj {m : Members} {s : SecretReference}
    (hname : m.required "name" = some s.name) : Wire.read? (.obj m) = some s := by
  simp [Wire.read?, Json.fields?, hname]

instance : LawfulWire SecretReference where
  read?_write s := by
    have h : Members.Holds _ s := .of_write rfl
    exact SecretReference.read?_obj (h.required_eq (·.name) (by simp [Wire.write]))
  isNull_write _ := rfl

theorem ResourceRequirements.read?_obj {m : Members} {r : ResourceRequirements}
    (hrequests : m.orElse "requests" {} = some r.requests)
    (hlimits : m.orElse "limits" {} = some r.limits) : Wire.read? (.obj m) = some r := by
  simp [Wire.read?, Json.fields?, hrequests, hlimits]

instance : LawfulWire ResourceRequirements where
  read?_write r := by
    have h : Members.Holds _ r := .of_write rfl
    exact ResourceRequirements.read?_obj
      (h.orElse_dict_eq (·.requests) (by simp [Wire.write, Json.member?_record_dictField]))
      (h.orElse_dict_eq (·.limits) (by simp [Wire.write, Json.member?_record_dictField]))
  isNull_write _ := rfl

theorem TemplateCachingConfig.read?_obj {m : Members} {c : TemplateCachingConfig}
    (henabled : m.orElse "enabled" false = some c.enabled)
    (henv : m.orElse "env" [] = some c.env) : Wire.read? (.obj m) = some c := by
  simp [Wire.read?, Json.fields?, henabled, henv]

instance : LawfulWire TemplateCachingConfig where
  read?_write c := by
    have h : Members.Holds _ c := .of_write rfl
    exact TemplateCachingConfig.read?_obj (h.orElse_eq (·.enabled) (by simp [Wire.write]))
      (h.orElse_list_eq (·.env) (by simp [Wire.write]))
  isNull_write _ := rfl

theorem ModelSpec.read?_obj {m : Members} {s : ModelSpec}
    (himage : m.required "image" = some s.image)
    (hsources : m.orElse "modelSources" [] = some s.modelSources)
    (hconfig : m.optional "runtimeConfigName" = some s.runtimeConfigName)
    (hsecrets : m.orElse "imagePullSecrets" [] = some s.imagePullSecrets)
    (henv : m.orElse "env" [] = some s.env)
    (haccount : m.optional "serviceAccountName" = some s.serviceAccountName) :
    Wire.read? (.obj m) = some s := by
  simp [Wire.read?, Json.fields?, himage, hsources, hconfig, hsecrets, henv, haccount]

instance : LawfulWire ModelSpec where
  read?_write s := by
    have h : Members.Holds _ s := .of_write rfl
    exact ModelSpec.read?_obj (h.required_eq (·.image) (by simp [Wire.write]))
      (h.orElse_list_eq (·.modelSources) (by simp [Wire.write]))
      (h.optional_eq (·.runtimeConfigName) (by simp [Wire.write]))
      (h.orElse_list_eq (·.imagePullSecrets) (by simp [Wire.write]))
      (h.orElse_list_eq (·.env) (by simp [Wire.write]))
      (h.optional_eq (·.serviceAccountName) (by simp [Wire.write]))
  isNull_write _ := rfl

theorem TemplateSpec.read?_obj {m : Members} {s : TemplateSpec}
    (hmodel : m.required "modelName" = some s.modelName)
    (hmetric : m.optional "metric" = some s.metric)
    (hprecision : m.optional "precision" = some s.precision)
    (hgpu : m.optional "gpuSelector" = some s.gpuSelector)
    (hresources : m.optional "resources" = some s.resources)
    (henv : m.orElse "env" [] = some s.env)
    (hsources : m.orElse "modelSources" [] = some s.modelSources)
    (hcaching : m.optional "caching" = some s.caching)
    (hsecrets : m.orElse "imagePullSecrets" [] = some s.imagePullSecrets) :
    Wire.read? (.obj m) = some s := by
  simp [Wire.read?, Json.fields?, hmodel, hmetric, hprecision, hgpu, hresources, henv, hsources,
    hcaching, hsecrets]

instance : LawfulWire TemplateSpec where
  read?_write s := by
    have h : Members.Holds _ s := .of_write rfl
    exact TemplateSpec.read?_obj (h.required_eq (·.modelName) (by simp [Wire.write]))
      (h.optional_eq (·.metric) (by simp [Wire.write]))
      (h.optional_eq (·.precision) (by simp [Wire.write]))
      (h.optional_eq (·.gpuSelector) (by simp [Wire.write]))
      (h.optional_eq (·.resources) (by simp [Wire.write]))
      (h.orElse_list_eq (·.env) (by simp [Wire.write]))
      (h.orElse_list_eq (·.modelSources) (by simp [Wire.write]))
      (h.optional_eq (·.caching) (by simp [Wire.write]))
      (h.orElse_list_eq (·.imagePullSecrets) (by simp [Wire.write]))
  isNull_write _ := rfl

theorem Metadata.read?_obj {m : Members} {d : Metadata}
    (hname : m.optional "name" = some d.name)
    (hgenerate : m.optional "generateName" = some d.generateName)
    (hnamespace : m.optional "namespace" = some d.namespace)
    (huid : m.optional "uid" = some d.uid)
    (hgeneration : m.optional "generation" = some d.generation)
    (hlabels : m.optional "labels" = some d.labels)
    (hannotations : m.optional "annotations" = some d.annotations)
    (hdeletion : m.optional "deletionTimestamp" = some d.deletionTimestamp) :
    Wire.read? (.obj m) = some d := by
  simp [Wire.read?, Json.members?, hname, hgenerate, hnamespace, huid, hgeneration, hlabels,
    hannotations, hdeletion]

/-- An instant of removal loses its fractions of a second; without one all is read back. -/
theorem Metadata.read?_write {d : Metadata} (hkept : d.deletionTimestamp = none) :
    Wire.read? (Wire.write d) = some d := by
  have h : Members.Holds _ d := .of_write rfl
  refine Metadata.read?_obj (h.optional_eq (·.name) (by simp [Wire.write]))
    (h.optional_eq (·.generateName) (by simp [Wire.write]))
    (h.optional_eq (·.namespace) (by simp [Wire.write]))
    (h.optional_eq (·.uid) (by simp [Wire.write]))
    (h.optional_eq (·.generation) (by simp [Wire.write]))
    (h.optional_eq (·.labels) (by simp [Wire.write]))
    (h.optional_eq (·.annotations) (by simp [Wire.write])) ?_
  apply Members.optional_of_lookup
  rw [h]
  simp [Wire.write, hkept]

namespace CustomObject

variable {σ τ : Type} [Wire σ] [Wire τ]

theorem exists_body_planned (kind : ResourceKind) (o : CustomObject σ τ) :
    ∃ m : Members, (o.planned kind).body = .obj m := ⟨_, rfl⟩

theorem member?_body_planned (kind : ResourceKind) (o : CustomObject σ τ) :
    (o.planned kind).body.member? "metadata" = some (Wire.write o.metadata) ∧
      (o.planned kind).body.member? "spec" = some (Wire.write o.spec) ∧
      (o.planned kind).body.member? "status" = none := by
  simp [planned, PlannedObject.whole, applyBody, Json.member?_erase, Json.member?_set, write]

/-- What is planned is read back without a status. -/
theorem read?_body_planned [LawfulWire σ] {kind : ResourceKind} {o : CustomObject σ τ}
    (hkept : o.metadata.deletionTimestamp = none) :
    (read? (o.planned kind).body : Option (CustomObject σ τ)) =
      some ⟨o.metadata, o.spec, none⟩ := by
  obtain ⟨m, hm⟩ := exists_body_planned kind o
  obtain ⟨hmetadata, hspec, hstatus⟩ := member?_body_planned kind o
  rw [hm, Json.member?_obj] at hmetadata hspec hstatus
  have hread : m.required "metadata" = some o.metadata := by
    unfold Members.required
    rw [hmetadata]
    exact Metadata.read?_write hkept
  have hnone : m.optional "status" = some (none : Option τ) := by
    unfold Members.optional
    rw [hstatus]
  rw [hm]
  simp [read?, Json.fields?, hread, Members.required_of_lookup hspec, hnone]

end CustomObject

end InferenceReconciler
