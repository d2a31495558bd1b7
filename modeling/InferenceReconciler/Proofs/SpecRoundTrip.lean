import InferenceReconciler.Proofs.ObjectRoundTrip
import InferenceReconciler.Proofs.PlainWire

/-!
# Specifications and statuses read back

The remaining records: the specification of a service with all that it is made of, runtime
configurations, the cache of a model and the status of a template.
-/

namespace InferenceReconciler

instance : LawfulWire Int32 where
  read?_write n := by
    have hlow := n.le_toInt
    have hhigh := n.toInt_lt
    simp only [Wire.read?, Wire.write, Wire.readRange, Json.int?, Option.filter_some]
    rw [if_pos (by simp; omega)]
    simp
  isNull_write _ := rfl

namespace LifecycleStatus

theorem ofCaseName_text (w : LifecycleStatus) : ofCaseName w.text = w := by
  cases w <;> decide

theorem ofCaseName_of_unknown {s : String} (h : ∀ w : LifecycleStatus, s ≠ w.text) :
    ofCaseName s = progressing := by
  have hnone : known.find? (fun w => w.text = s) = none :=
    List.find?_eq_none.2 fun w _ heq => h w (of_decide_eq_true heq).symm
  unfold ofCaseName
  rw [hnone, Option.getD_none]

theorem ofText_of_unknown {s : String} (h : ∀ w : LifecycleStatus, s ≠ w.text) :
    ofText s = progressing := by
  unfold ofText
  rw [if_neg (show s ≠ "Pending" from h pending), if_neg (show s ≠ "Ready" from h ready),
    if_neg (show s ≠ "Degraded" from h degraded), if_neg (show s ≠ "Failed" from h failed),
    if_neg (show s ≠ "NotAvailable" from h notAvailable)]

/-- The reader of objects and the reader of bare words agree on every text. -/
theorem ofCaseName_eq_ofText (s : String) : ofCaseName s = ofText s := by
  by_cases h : ∃ w : LifecycleStatus, s = w.text
  · obtain ⟨w, rfl⟩ := h
    rw [ofCaseName_text, ofText_text]
  · have hunknown : ∀ w : LifecycleStatus, s ≠ w.text := fun w hw => h ⟨w, hw⟩
    rw [ofCaseName_of_unknown hunknown, ofText_of_unknown hunknown]

end LifecycleStatus

instance : LawfulWire LifecycleStatus where
  read?_write s := congrArg some s.ofCaseName_text
  isNull_write _ := rfl

theorem StorageConfig.read?_obj {m : Members} {c : StorageConfig}
    (hclass : m.optional "defaultStorageClassName" = some c.defaultStorageClassName)
    (hheadroom : m.optional "pvcHeadroomPercent" = some c.pvcHeadroomPercent) :
    Wire.read? (.obj m) = some c := by
  simp [Wire.read?, Json.fields?, hclass, hheadroom]

instance : LawfulWire StorageConfig where
  read?_write c := by
    have h : Members.Holds _ c := .of_write rfl
    exact StorageConfig.read?_obj (h.optional_eq (·.defaultStorageClassName) (by simp [Wire.write]))
      (h.optional_eq (·.pvcHeadroomPercent) (by simp [Wire.write]))
  isNull_write _ := rfl

theorem GatewayRef.read?_obj {m : Members} {g : GatewayRef}
    (hname : m.required "name" = some g.name)
    (hnamespace : m.optional "namespace" = some g.namespace)
    (hgroup : m.optional "group" = some g.group) (hkind : m.optional "kind" = some g.kind) :
    Wire.read? (.obj m) = some g := by
  simp [Wire.read?, Json.fields?, hname, hnamespace, hgroup, hkind]

instance : LawfulWire GatewayRef where
  read?_write g := by
    have h : Members.Holds _ g := .of_write rfl
    exact GatewayRef.read?_obj (h.required_eq (·.name) (by simp [Wire.write]))
      (h.optional_eq (·.namespace) (by simp [Wire.write]))
      (h.optional_eq (·.group) (by simp [Wire.write]))
      (h.optional_eq (·.kind) (by simp [Wire.write]))
  isNull_write _ := rfl

theorem RoutingConfig.read?_obj {m : Members} {r : RoutingConfig}
    (henabled : m.optional "enabled" = some r.enabled)
    (hgateway : m.optional "gatewayRef" = some r.gatewayRef)
    (hpath : m.optional "pathTemplate" = some r.pathTemplate)
    (htimeout : m.optional "requestTimeout" = some r.requestTimeout)
    (hannotations : m.orElse "annotations" {} = some r.annotations) :
    Wire.read? (.obj m) = some r := by
  simp [Wire.read?, Json.fields?, henabled, hgateway, hpath, htimeout, hannotations]

instance : LawfulWire RoutingConfig where
  read?_write r := by
    have h : Members.Holds _ r := .of_write rfl
    exact RoutingConfig.read?_obj
      (h.optional_eq (·.enabled) (by simp [Wire.write, Json.member?_record_dictField]))
      (h.optional_eq (·.gatewayRef) (by simp [Wire.write, Json.member?_record_dictField]))
      (h.optional_eq (·.pathTemplate) (by simp [Wire.write, Json.member?_record_dictField]))
      (h.optional_eq (·.requestTimeout) (by simp [Wire.write, Json.member?_record_dictField]))
      (h.orElse_dict_eq (·.annotations) (by simp [Wire.write, Json.member?_record_dictField]))
  isNull_write _ := rfl

theorem RuntimeConfigSpec.read?_obj {m : Members} {c : RuntimeConfigSpec}
    (hstorage : m.optional "storage" = some c.storage)
    (hrouting : m.optional "routing" = some c.routing)
    (henv : m.orElse "env" [] = some c.env) : Wire.read? (.obj m) = some c := by
  simp [Wire.read?, Json.fields?, hstorage, hrouting, henv]

instance : LawfulWire RuntimeConfigSpec where
  read?_write c := by
    have h : Members.Holds _ c := .of_write rfl
    exact RuntimeConfigSpec.read?_obj (h.optional_eq (·.storage) (by simp [Wire.write]))
      (h.optional_eq (·.routing) (by simp [Wire.write]))
      (h.orElse_list_eq (·.env) (by simp [Wire.write]))
  isNull_write _ := rfl

theorem ServiceCachingConfig.read?_obj {m : Members} {c : ServiceCachingConfig}
    (hmode : m.optional "mode" = some c.mode) : Wire.read? (.obj m) = some c := by
  simp [Wire.read?, Json.fields?, hmode]

instance : LawfulWire ServiceCachingConfig where
  read?_write c := by
    have h : Members.Holds _ c := .of_write rfl
    exact ServiceCachingConfig.read?_obj (h.optional_eq (·.mode) (by simp [Wire.write]))
  isNull_write _ := rfl

theorem CustomModel.read?_obj {m : Members} {c : CustomModel}
    (himage : m.required "baseImage" = some c.baseImage)
    (hsources : m.required "modelSources" = some c.modelSources)
    (hgpu : m.optional "gpuSelector" = some c.gpuSelector) : Wire.read? (.obj m) = some c := by
  simp [Wire.read?, Json.fields?, himage, hsources, hgpu]

instance : LawfulWire CustomModel where
  read?_write c := by
    have h : Members.Holds _ c := .of_write rfl
    exact CustomModel.read?_obj (h.required_eq (·.baseImage) (by simp [Wire.write]))
      (h.required_eq (·.modelSources) (by simp [Wire.write]))
      (h.optional_eq (·.gpuSelector) (by simp [Wire.write]))
  isNull_write _ := rfl

theorem ServiceModel.read?_obj {m : Members} {s : ServiceModel}
    (href : m.optional "ref" = some s.ref) (himage : m.optional "image" = some s.image)
    (hcustom : m.optional "custom" = some s.custom) : Wire.read? (.obj m) = some s := by
  simp [Wire.read?, Json.fields?, href, himage, hcustom]

instance : LawfulWire ServiceModel where
  read?_write s := by
    have h : Members.Holds _ s := .of_write rfl
    exact ServiceModel.read?_obj (h.optional_eq (·.ref) (by simp [Wire.write]))
      (h.optional_eq (·.image) (by simp [Wire.write]))
      (h.optional_eq (·.custom) (by simp [Wire.write]))
  isNull_write _ := rfl

theorem ServiceSpec.read?_obj {m : Members} {s : ServiceSpec}
    (hmodel : m.required "model" = some s.model)
    (htemplate : m.optional "templateName" = some s.templateName)
    (hoverrides : m.optional "overrides" = some s.overrides)
    (hcaching : m.optional "caching" = some s.caching)
    (hcache : m.optional "cacheModel" = some s.cacheModel)
    (hreplicas : m.optional "replicas" = some s.replicas)
    (hconfig : m.optional "runtimeConfigName" = some s.runtimeConfigName)
    (hstorage : m.optional "storage" = some s.storage)
    (hrouting : m.optional "routing" = some s.routing)
    (hresources : m.optional "resources" = some s.resources)
    (henv : m.orElse "env" [] = some s.env)
    (hsecrets : m.orElse "imagePullSecrets" [] = some s.imagePullSecrets)
    (haccount : m.optional "serviceAccountName" = some s.serviceAccountName) :
    Wire.read? (.obj m) = some s := by
  refine (Timestamp.bind_of_eq_some hmodel).trans ?_
  refine (Timestamp.bind_of_eq_some htemplate).trans ?_
  refine (Timestamp.bind_of_eq_some hoverrides).trans ?_
  refine (Timestamp.bind_of_eq_some hcaching).trans ?_
  refine (Timestamp.bind_of_eq_some hcache).trans ?_
  refine (Timestamp.bind_of_eq_some hreplicas).trans ?_
  refine (Timestamp.bind_of_eq_some hconfig).trans ?_
  refine (Timestamp.bind_of_eq_some hstorage).trans ?_
  refine (Timestamp.bind_of_eq_some hrouting).trans ?_
  refine (Timestamp.bind_of_eq_some hresources).trans ?_
  refine (Timestamp.bind_of_eq_some henv).trans ?_
  refine (Timestamp.bind_of_eq_some hsecrets).trans ?_
  refine (Timestamp.bind_of_eq_some haccount).trans ?_
  rfl

instance : LawfulWire ServiceSpec where
  read?_write s := by
    have h : Members.Holds _ s := .of_write rfl
    exact ServiceSpec.read?_obj (h.required_eq (·.model) (by simp [Wire.write]))
      (h.optional_eq (·.templateName) (by simp [Wire.write]))
      (h.optional_eq (·.overrides) (by simp [Wire.write]))
      (h.optional_eq (·.caching) (by simp [Wire.write]))
      (h.optional_eq (·.cacheModel) (by simp [Wire.write]))
      (h.optional_eq (·.replicas) (by simp [Wire.write]))
      (h.optional_eq (·.runtimeConfigName) (by simp [Wire.write]))
      (h.optional_eq (·.storage) (by simp [Wire.write]))
      (h.optional_eq (·.routing) (by simp [Wire.write]))
      (h.optional_eq (·.resources) (by simp [Wire.write]))
      (h.orElse_list_eq (·.env) (by simp [Wire.write]))
      (h.orElse_list_eq (·.imagePullSecrets) (by simp [Wire.write]))
      (h.optional_eq (·.serviceAccountName) (by simp [Wire.write]))
  isNull_write _ := rfl

theorem ModelCacheSpec.read?_obj {m : Members} {s : ModelCacheSpec}
    (huri : m.required "sourceUri" = some s.sourceUri)
    (hsize : m.required "size" = some s.size)
    (hclass : m.optional "storageClassName" = some s.storageClassName) :
    Wire.read? (.obj m) = some s := by
  simp [Wire.read?, Json.fields?, huri, hsize, hclass]

instance : LawfulWire ModelCacheSpec where
  read?_write s := by
    have h : Members.Holds _ s := .of_write rfl
    exact ModelCacheSpec.read?_obj (h.required_eq (·.sourceUri) (by simp [Wire.write]))
      (h.required_eq (·.size) (by simp [Wire.write]))
      (h.optional_eq (·.storageClassName) (by simp [Wire.write]))
  isNull_write _ := rfl

theorem ProfileMetadata.read?_obj {m : Members} {p : ProfileMetadata}
    (hgpu : m.optional "gpu" = some p.gpu) (hcount : m.optional "gpuCount" = some p.gpuCount)
    (hmetric : m.optional "metric" = some p.metric)
    (hprecision : m.optional "precision" = some p.precision)
    (htype : m.optional "type" = some p.type) : Wire.read? (.obj m) = some p := by
  simp [Wire.read?, Json.fields?, hgpu, hcount, hmetric, hprecision, htype]

instance : LawfulWire ProfileMetadata where
  read?_write p := by
    have h : Members.Holds _ p := .of_write rfl
    exact ProfileMetadata.read?_obj (h.optional_eq (·.gpu) (by simp [Wire.write]))
      (h.optional_eq (·.gpuCount) (by simp [Wire.write]))
      (h.optional_eq (·.metric) (by simp [Wire.write]))
      (h.optional_eq (·.precision) (by simp [Wire.write]))
      (h.optional_eq (·.type) (by simp [Wire.write]))
  isNull_write _ := rfl

theorem TemplateProfile.read?_obj {m : Members} {p : TemplateProfile}
    (henv : m.orElse "envVars" {} = some p.envVars)
    (hmetadata : m.orElse "metadata" .empty = some p.metadata) :
    Wire.read? (.obj m) = some p := by
  simp [Wire.read?, Json.fields?, henv, hmetadata]

instance : LawfulWire TemplateProfile where
  read?_write p := by
    have h : Members.Holds _ p := .of_write rfl
    exact TemplateProfile.read?_obj
      (h.orElse_dict_eq (·.envVars) (by simp [Wire.write, Json.member?_record_dictField]))
      (h.orElse_eq (·.metadata) (by simp [Wire.write, Json.member?_record_dictField]))
  isNull_write _ := rfl

theorem TemplateStatus.read?_obj {m : Members} {s : TemplateStatus}
    (hstatus : m.orElse "status" .pending = some s.status)
    (hsources : m.orElse "modelSources" [] = some s.modelSources)
    (hprofile : m.optional "profile" = some s.profile) : Wire.read? (.obj m) = some s := by
  simp [Wire.read?, Json.fields?, hstatus, hsources, hprofile]

instance : LawfulWire TemplateStatus where
  read?_write s := by
    have h : Members.Holds _ s := .of_write rfl
    exact TemplateStatus.read?_obj (h.orElse_eq (·.status) (by simp [Wire.write]))
      (h.orElse_list_eq (·.modelSources) (by simp [Wire.write]))
      (h.optional_eq (·.profile) (by simp [Wire.write]))
  isNull_write _ := rfl

theorem LifecycleStatus.read?_of_caseName {j : Json} {s : String} (h : j.caseName? = some s) :
    Wire.read? j = some (ofText s) := by
  rw [← ofCaseName_eq_ofText]
  exact congrArg (Option.map ofCaseName) h

/-- The word for `status` is read as the status, whatever it is, and never decides whether the
object is read. -/
def ReadsStatus (α : Type) [Wire α] (withStatus : α → LifecycleStatus → α) : Prop :=
  ∀ (j word : Json) (s : String), j.member? "status" = some word → word.caseName? = some s →
    Wire.read? j = (Wire.read? (j.erase "status")).map fun a =>
      withStatus a (LifecycleStatus.ofText s)

namespace Members

/-- Members with a word for `status`, and the other ones. -/
structure Words (m others : Members) (s : String) : Prop where
  word : m.orElse "status" LifecycleStatus.pending = some (LifecycleStatus.ofText s)
  absent : others.orElse "status" LifecycleStatus.pending = some .pending
  others : ∀ key, key ≠ "status" → m.lookup key = others.lookup key

variable {m others : Members} {s key : String} {α : Type} [Wire α]

theorem Words.orElse_eq (h : m.Words others s) (hkey : key ≠ "status") (default : α) :
    m.orElse key default = others.orElse key default := by
  unfold orElse
  rw [h.others key hkey]

theorem Words.optional_eq (h : m.Words others s) (hkey : key ≠ "status") :
    (m.optional key : Option (Option α)) = others.optional key := by
  unfold optional
  rw [h.others key hkey]

end Members

theorem exists_words {j word : Json} {s : String} (hword : j.member? "status" = some word)
    (hs : word.caseName? = some s) :
    ∃ m others : Members, j = .obj m ∧ j.erase "status" = .obj others ∧ m.Words others s := by
  cases j with
  | obj m =>
    refine ⟨m, _, rfl, rfl, ?_, ?_, fun key hkey => ?_⟩
    · unfold Members.orElse
      rw [show m.lookup "status" = some word from hword]
      exact LifecycleStatus.read?_of_caseName hs
    · unfold Members.orElse
      rw [Json.lookup_filter_ne, if_pos rfl]
    · rw [Json.lookup_filter_ne, if_neg hkey]
  | _ => cases hword

theorem StatusReport.reads_status : ReadsStatus StatusReport fun _ w => ⟨w⟩ := by
  intro j word s hword hs
  obtain ⟨m, others, rfl, hothers, h⟩ := exists_words hword hs
  rw [hothers]
  simp [Wire.read?, Json.fields?, h.word, h.absent]

theorem ModelCacheStatus.reads_status :
    ReadsStatus ModelCacheStatus fun c w => { c with status := w } := by
  intro j word s hword hs
  obtain ⟨m, others, rfl, hothers, h⟩ := exists_words hword hs
  rw [hothers]
  simp only [Wire.read?, Json.fields?, h.word, h.absent, Option.bind_eq_bind, Option.bind_some]
  rw [h.optional_eq (by decide)]
  cases (others.optional "persistentVolumeClaim" : Option (Option String)) <;> rfl

theorem TemplateStatus.reads_status :
    ReadsStatus TemplateStatus fun t w => { t with status := w } := by
  intro j word s hword hs
  obtain ⟨m, others, rfl, hothers, h⟩ := exists_words hword hs
  rw [hothers]
  simp only [Wire.read?, Json.fields?, h.word, h.absent, Option.bind_eq_bind, Option.bind_some]
  rw [h.orElse_eq (by decide), h.optional_eq (by decide)]
  cases (others.orElse "modelSources" [] : Option (List ModelSource)) with
  | none => rfl
  | some sources => cases (others.optional "profile" : Option (Option TemplateProfile)) <;> rfl

/-- Every value comes back from its wire form and from the text of it, and what was once read is
read again from what is written for it. -/
structure RoundTrips (α : Type) [Wire α] : Prop where
  read?_write (a : α) : Wire.read? (Wire.write a) = some a
  read?_text (a : α) : (Json.read? (Wire.write a).compact).bind Wire.read? = some a
  read?_again (j : Json) (a : α) (h : Wire.read? j = some a) : Wire.read? (Wire.write a) = some a

theorem roundTrips {α : Type} [Wire α] [LawfulWire α] [PlainWire α] : RoundTrips α where
  read?_write := LawfulWire.read?_write
  read?_text a := by
    rw [(PlainWire.plain a).read?_compact, Option.bind_some, LawfulWire.read?_write]
  read?_again _ a _ := LawfulWire.read?_write a

/-- Specifications and statuses come back from the wire as they were written. A word for a status
that nobody knows is read as work in progress, by itself and in every status that has one, and
never keeps an object from being read. -/
theorem specs_round_trip :
    RoundTrips ServiceSpec ∧ RoundTrips ServiceStatus ∧ RoundTrips TemplateSpec ∧
      RoundTrips TemplateStatus ∧ RoundTrips ModelSpec ∧ RoundTrips RuntimeConfigSpec ∧
      RoundTrips TemplateCacheSpec ∧ RoundTrips ModelCacheSpec ∧
      (∀ s : String, Wire.read? (.str s) = some (LifecycleStatus.ofText s)) ∧
      (∀ s : String, (∀ w : LifecycleStatus, s ≠ w.text) →
        LifecycleStatus.ofText s = .progressing) ∧
      ReadsStatus TemplateStatus (fun t w => { t with status := w }) ∧
      ReadsStatus ModelCacheStatus (fun c w => { c with status := w }) ∧
      ReadsStatus StatusReport (fun _ w => ⟨w⟩) :=
  ⟨roundTrips, roundTrips, roundTrips, roundTrips, roundTrips, roundTrips, roundTrips, roundTrips,
    fun _ => LifecycleStatus.read?_of_caseName rfl, fun _ => LifecycleStatus.ofText_of_unknown,
    TemplateStatus.reads_status, ModelCacheStatus.reads_status, StatusReport.reads_status⟩

/-- The status of a template whose controller reports a word from a later time. -/
theorem warming_read_as_progressing :
    Wire.read? (.obj [("status", .str "Warming")]) =
      some (⟨.progressing, [], none⟩ : TemplateStatus) := by
  obtain ⟨-, -, -, -, -, -, -, -, -, hunknown, hread, -, -⟩ := specs_round_trip
  have hword : ∀ w : LifecycleStatus, "Warming" ≠ w.text := by
    intro w
    cases w <;> decide
  rw [hread _ (.str "Warming") "Warming" rfl rfl, hunknown "Warming" hword]
  rfl

end InferenceReconciler
