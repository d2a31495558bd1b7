import InferenceReconciler.CacheSpec
import InferenceReconciler.ModelSpec
import InferenceReconciler.Proofs.JsonTextRoundTrip
import InferenceReconciler.Proofs.OrderedMembers
import InferenceReconciler.ServiceSpec
import InferenceReconciler.ServiceStatus
import InferenceReconciler.TemplateSpec

/-!
# Plain wire forms

Values are written as plain JSON: integers of 64 bits, and records with their members in the order
of the names, each in its place or left out. So the text of what is written is read back.
-/

namespace InferenceReconciler

/-- Values of the type are written as plain JSON. -/
class PlainWire (α : Type) [Wire α] : Prop where
  plain (a : α) : (Wire.write a).Plain

variable {α : Type} [Wire α]

instance : PlainWire String := ⟨.str⟩

instance : PlainWire Bool := ⟨.bool⟩

instance : PlainWire UInt32 where
  plain n := by
    have hlt := n.toNat_lt
    exact .int _ ⟨by omega, by unfold maxUInt64; omega⟩

instance : PlainWire Int32 where
  plain n := by
    have hlow := n.le_toInt
    have hhigh := n.toInt_lt
    exact .int _ ⟨by omega, by unfold maxUInt64; omega⟩

instance : PlainWire Int64 where
  plain n := by
    have hlow := n.le_toInt
    have hhigh := n.toInt_lt
    exact .int _ ⟨by omega, by unfold maxUInt64; omega⟩

instance : PlainWire Timestamp := ⟨fun t => .str t.text⟩

instance : PlainWire LifecycleStatus := ⟨fun s => .str s.text⟩

instance : PlainWire ServicePhase := ⟨fun p => .str p.text⟩

instance : PlainWire ResourceScope := ⟨fun c => .str c.text⟩

instance : PlainWire ConditionStatus := ⟨fun c => .str c.text⟩

instance [PlainWire α] : PlainWire (List α) where
  plain l := by
    refine .arr _ fun j hj => ?_
    obtain ⟨a, -, rfl⟩ := List.mem_map.1 hj
    exact PlainWire.plain a

instance [PlainWire α] : PlainWire (Dict α) where
  plain d := by
    refine .obj _ (List.pairwise_map.2 d.increasing) fun e he => ?_
    obtain ⟨b, -, rfl⟩ := List.mem_map.1 he
    exact PlainWire.plain b.2

/-- A member of that name, or none. -/
def PlainField (name : String) (f : Option (String × Json)) : Prop :=
  ∀ e, f = some e → e.1 = name ∧ e.2.Plain

section

variable [PlainWire α] (key : String)

@[simp] theorem plainField_field (a : α) : PlainField key (field key a) := by
  intro e he
  cases he
  exact ⟨rfl, PlainWire.plain a⟩

@[simp] theorem plainField_optionalField (o : Option α) :
    PlainField key (optionalField key o) := by
  intro e he
  obtain ⟨a, -, rfl⟩ := Option.map_eq_some_iff.1 he
  exact ⟨rfl, PlainWire.plain a⟩

@[simp] theorem plainField_listField (l : List α) : PlainField key (listField key l) := by
  intro e he
  unfold listField at he
  split at he
  · cases he
  · cases he
    exact ⟨rfl, PlainWire.plain l⟩

@[simp] theorem plainField_dictField (d : Dict α) : PlainField key (dictField key d) := by
  intro e he
  unfold dictField at he
  split at he
  · cases he
  · cases he
    exact ⟨rfl, PlainWire.plain d⟩

end

section

variable {names : List String} {fields : List (Option (String × Json))}

theorem plain_of_mem_fields (h : List.Forall₂ PlainField names fields) {e : String × Json}
    (he : e ∈ fields.filterMap id) : e.2.Plain := by
  induction h with
  | nil => cases he
  | @cons name f names fields hf _ ih =>
    obtain ⟨g, hg, hge⟩ := List.mem_filterMap.1 he
    rcases List.mem_cons.1 hg with rfl | hg
    · exact (hf e hge).2
    · exact ih (List.mem_filterMap.2 ⟨g, hg, hge⟩)

theorem plain_record (names : List String) {fields : List (Option (String × Json))}
    (hnames : names.Pairwise (· < ·)) (h : List.Forall₂ PlainField names fields) :
    (Json.record fields).Plain := by
  have hnamed : List.Forall₂ Json.NamedField names fields :=
    h.imp fun _ _ hf e he => (hf e he).1
  exact .obj _ (Json.pairwise_of_namedFields hnamed hnames) fun _ he => plain_of_mem_fields h he

end

instance : PlainWire EnvVar where
  plain v := plain_record ["name", "value"] (by decide) (by simp)

instance : PlainWire ResourceRequirements where
  plain r := plain_record ["limits", "requests"] (by decide) (by simp)

instance : PlainWire SecretReference where
  plain s := plain_record ["name"] (by decide) (by simp)

instance : PlainWire ModelSource where
  plain s := plain_record ["name", "size", "sourceUri"] (by decide) (by simp)

instance : PlainWire GpuSelector where
  plain g := plain_record ["count", "model", "resourceName"] (by decide) (by simp)

instance : PlainWire TemplateOverrides where
  plain o := plain_record ["gpuSelector", "metric", "precision"] (by decide) (by simp)

instance : PlainWire ResolvedReference where
  plain r := plain_record ["name", "namespace", "scope", "uid"] (by decide) (by simp)

instance : PlainWire Condition where
  plain c := plain_record ["lastTransitionTime", "message", "reason", "status", "type"]
    (by decide) (by simp)

instance : PlainWire StorageConfig where
  plain c := plain_record ["defaultStorageClassName", "pvcHeadroomPercent"] (by decide) (by simp)

instance : PlainWire GatewayRef where
  plain g := plain_record ["group", "kind", "name", "namespace"] (by decide) (by simp)

instance : PlainWire RoutingConfig where
  plain r := plain_record
    ["annotations", "enabled", "gatewayRef", "pathTemplate", "requestTimeout"]
    (by decide) (by simp)

instance : PlainWire RuntimeConfigSpec where
  plain c := plain_record ["env", "routing", "storage"] (by decide) (by simp)

instance : PlainWire CustomModel where
  plain c := plain_record ["baseImage", "gpuSelector", "modelSources"] (by decide) (by simp)

instance : PlainWire ServiceModel where
  plain s := plain_record ["custom", "image", "ref"] (by decide) (by simp)

instance : PlainWire ServiceCachingConfig where
  plain c := plain_record ["mode"] (by decide) (by simp)

instance : PlainWire ServiceSpec where
  plain s := plain_record
    ["cacheModel", "caching", "env", "imagePullSecrets", "model", "overrides", "replicas",
      "resources", "routing", "runtimeConfigName", "serviceAccountName", "storage",
      "templateName"]
    (by decide) (by simp)

instance : PlainWire ServiceCacheStatus where
  plain c := plain_record ["retryAttempts", "templateCacheRef"] (by decide) (by simp)

instance : PlainWire ServiceRoutingStatus where
  plain r := plain_record ["path"] (by decide) (by simp)

instance : PlainWire ServiceStatus where
  plain s := plain_record
    ["cache", "conditions", "observedGeneration", "resolvedModel", "resolvedRuntimeConfig",
      "resolvedTemplate", "routing", "status"]
    (by decide) (by simp)

instance : PlainWire TemplateCachingConfig where
  plain c := plain_record ["enabled", "env"] (by decide) (by simp)

instance : PlainWire TemplateSpec where
  plain s := plain_record
    ["caching", "env", "gpuSelector", "imagePullSecrets", "metric", "modelName", "modelSources",
      "precision", "resources"]
    (by decide) (by simp)

instance : PlainWire ProfileMetadata where
  plain p := plain_record ["gpu", "gpuCount", "metric", "precision", "type"] (by decide) (by simp)

instance : PlainWire TemplateProfile where
  plain p := plain_record ["envVars", "metadata"] (by decide) (by simp)

instance : PlainWire TemplateStatus where
  plain s := plain_record ["modelSources", "profile", "status"] (by decide) (by simp)

instance : PlainWire ModelSpec where
  plain s := plain_record
    ["env", "image", "imagePullSecrets", "modelSources", "runtimeConfigName",
      "serviceAccountName"]
    (by decide) (by simp)

instance : PlainWire TemplateCacheSpec where
  plain s := plain_record ["env", "storageClassName", "templateName", "templateScope"]
    (by decide) (by simp)

instance : PlainWire ModelCacheSpec where
  plain s := plain_record ["size", "sourceUri", "storageClassName"] (by decide) (by simp)

end InferenceReconciler
