import InferenceReconciler.Proofs.Ownership
import Mathlib.Data.List.Nodup

/-!
# Labels of a runtime

The reconciler has labels of its own on a runtime: two that name the reconciler and six that say
what is served. The six are written over the labels of the service, the two are not, and so a
service can name another manager of its runtime. Everything else that a service is labelled with
is kept, and nothing is added.
-/

namespace InferenceReconciler

def legalLabel? (text : String) : Option String := (labelValue text).toOption

theorem labelIfLegal_eq (key text : String) :
    labelIfLegal key text = (legalLabel? text).toList.map fun value => (key, value) := by
  unfold labelIfLegal legalLabel?
  cases labelValue text <;> rfl

namespace Dict

theorem find?_foldl_labelIfLegal (d : Dict String) (key k : String) (text : Option String) :
    ((text.toList.flatMap (labelIfLegal key)).foldl (fun d e => d.insert e.1 e.2) d).find? k =
      if k = key then (text.bind legalLabel? <|> d.find? k) else d.find? k := by
  cases text with
  | none => exact (ite_self _).symm
  | some t =>
    rw [Option.toList_some, List.flatMap_singleton, labelIfLegal_eq, Option.bind_some]
    cases legalLabel? t with
    | none => exact (ite_self _).symm
    | some value => exact find?_insert d k key value

theorem find?_ofList_labelIfLegal {texts : List (String × Option String)}
    (h : (texts.map Prod.fst).Nodup) (k : String) :
    (ofList (texts.flatMap fun (key, text) => text.toList.flatMap (labelIfLegal key))).find? k =
      (texts.lookup k).join.bind legalLabel? := by
  have hover : ∀ d : Dict String,
      ((texts.flatMap fun (key, text) => text.toList.flatMap (labelIfLegal key)).foldl
        (fun d e => d.insert e.1 e.2) d).find? k =
          ((texts.lookup k).join.bind legalLabel? <|> d.find? k) := by
    induction texts with
    | nil => exact fun d => rfl
    | cons e rest ih =>
      obtain ⟨key, text⟩ := e
      obtain ⟨hkey, hrest⟩ := List.nodup_cons.1 h
      intro d
      rw [List.flatMap_cons, List.foldl_append, ih hrest, find?_foldl_labelIfLegal,
        lookup_entry_cons]
      by_cases hk : k = key
      · have hnone : rest.lookup k = none := by
          rw [List.lookup_eq_none_iff]
          intro e he
          refine bne_iff_ne.2 fun heq => hkey ?_
          rw [← hk, heq]
          exact List.mem_map.2 ⟨e, he, rfl⟩
        rw [if_pos hk, if_pos hk, hnone]
        rfl
      · rw [if_neg hk, if_neg hk]
  rw [ofList, hover, find?_empty]
  cases (texts.lookup k).join.bind legalLabel? <;> rfl

end Dict

/-- The labels that name the reconciler. -/
def standardKeys : List String := [Labels.appName, Labels.managedBy]

/-- What the reconciler has to say of a runtime, by the label for it. -/
def operatorTexts (service : ServiceObject) (model : ModelRecord) (template : TemplateRecord) :
    List (String × Option String) :=
  [(Labels.appName, some "aim-service"),
    (Labels.managedBy, some Labels.manager),
    (Labels.component, some "inference"),
    (Labels.template, some template.name),
    (Labels.model, some model.name),
    (Labels.service, some service.displayName),
    (Labels.metric, template.spec.metric <|> template.profile?.bind (·.metric)),
    (Labels.precision, template.spec.precision <|> template.profile?.bind (·.precision))]

/-- The value that the reconciler has for a label, unless it is none of its own or nothing legal
is left of the text for it. -/
def operatorLabel? (service : ServiceObject) (model : ModelRecord) (template : TemplateRecord)
    (key : String) : Option String :=
  ((operatorTexts service model template).lookup key).join.bind legalLabel?

section

variable (service : ServiceObject) (model : ModelRecord) (template : TemplateRecord)

theorem nodup_operatorTexts : ((operatorTexts service model template).map Prod.fst).Nodup := by
  change [Labels.appName, Labels.managedBy, Labels.component, Labels.template, Labels.model,
    Labels.service, Labels.metric, Labels.precision].Nodup
  decide

theorem operatorLabel?_appName :
    operatorLabel? service model template Labels.appName = some "aim-service" := by
  have hlegal : legalLabel? "aim-service" = some "aim-service" := rfl
  exact hlegal

theorem operatorLabel?_managedBy :
    operatorLabel? service model template Labels.managedBy = some Labels.manager := by
  have hlegal : legalLabel? Labels.manager = some Labels.manager := rfl
  exact hlegal

theorem find?_standardLabels (key : String) :
    PlainMetadata.standardLabels.find? key =
      if key ∈ standardKeys then operatorLabel? service model template key else none := by
  unfold PlainMetadata.standardLabels
  rw [Dict.find?_ofList]
  by_cases hname : key = Labels.appName
  · subst hname
    rw [operatorLabel?_appName]
    rfl
  · by_cases hmanager : key = Labels.managedBy
    · subst hmanager
      rw [operatorLabel?_managedBy]
      rfl
    · simp [standardKeys, List.findRev?, hname, hmanager, Ne.symm hname, Ne.symm hmanager]

theorem find?_systemLabels (key : String) :
    (Dict.ofList (systemLabels service model template)).find? key =
      if key ∈ standardKeys then none else operatorLabel? service model template key := by
  have hkeys := (nodup_operatorTexts service model template).sublist
    ((List.drop_sublist 2 _).map Prod.fst)
  refine (Dict.find?_ofList_labelIfLegal hkeys key).trans ?_
  by_cases hname : key = Labels.appName
  · subst hname
    rfl
  · by_cases hmanager : key = Labels.managedBy
    · subst hmanager
      rfl
    · have hnot : key ∉ standardKeys := by simp [standardKeys, hname, hmanager]
      rw [if_neg hnot]
      unfold operatorLabel? operatorTexts
      rw [lookup_entry_cons, lookup_entry_cons, if_neg hname, if_neg hmanager]
      rfl

end

section

variable {service : ServiceObject} {name : String} {model : ModelRecord}
  {template : TemplateRecord} {caching : CachingObservation} {config : EffectiveConfig}
  {policy : Policy} {runtime : InferenceService}

theorem labels_of_runtimeFor
    (h : runtimeFor service name model template caching config policy = .ok runtime) :
    runtime.metadata.labels = runtimeLabels service model template := by
  obtain ⟨resources, -, h⟩ := exists_of_bind_eq_ok h
  injection h with hruntime
  rw [← hruntime, InferenceService.ofSpec]

/-- Under the labels that name the reconciler the service has the say, under all others the
reconciler. -/
theorem find?_labels_of_runtimeFor
    (h : runtimeFor service name model template caching config policy = .ok runtime)
    (key : String) :
    runtime.metadata.labels.find? key =
      if key ∈ standardKeys then
        (service.metadata.label? key <|> operatorLabel? service model template key)
      else (operatorLabel? service model template key <|> service.metadata.label? key) := by
  have hservice : (service.metadata.labels.getD {}).find? key = service.metadata.label? key := by
    unfold Metadata.label?
    cases service.metadata.labels <;> rfl
  rw [labels_of_runtimeFor h, runtimeLabels, Dict.find?_overlay, Dict.find?_overlay, hservice,
    find?_systemLabels, find?_standardLabels service model template]
  split
  · rfl
  · cases operatorLabel? service model template key <;> cases service.metadata.label? key <;> rfl

/-- The labels that say what is served hold what the reconciler has for them, whatever the service
is labelled with. Of the two that name the reconciler the service takes the one that it sets
itself. All other labels are those of the service. So all the labels of the reconciler hold its
values exactly if the service does not set one of the two to something else. -/
theorem operator_labels_win_unless_standard
    (h : runtimeFor service name model template caching config policy = .ok runtime) :
    let shown := runtime.metadata.labels.find?
    let given := service.metadata.label?
    let own := operatorLabel? service model template
    (∀ key, key ∉ standardKeys → ∀ value, own key = some value → shown key = some value) ∧
      (∀ key ∈ standardKeys, shown key = (given key <|> own key)) ∧
      (∀ key, own key = none → shown key = given key) ∧
      ((∀ key value, own key = some value → shown key = some value) ↔
        ∀ key ∈ standardKeys, ∀ value, given key = some value → own key = some value) := by
  intro shown given own
  have hserved : ∀ key, key ∉ standardKeys → shown key = (own key <|> given key) := by
    intro key hkey
    exact (find?_labels_of_runtimeFor h key).trans (if_neg hkey)
  have hstandard : ∀ key ∈ standardKeys, shown key = (given key <|> own key) := by
    intro key hkey
    exact (find?_labels_of_runtimeFor h key).trans (if_pos hkey)
  have hwins : ∀ key, key ∉ standardKeys → ∀ value, own key = some value →
      shown key = some value := by
    intro key hkey value hvalue
    rw [hserved key hkey, hvalue]
    rfl
  refine ⟨hwins, hstandard, fun key hnone => ?_, fun hall key hkey value hgiven => ?_,
    fun hsame key value hvalue => ?_⟩
  · by_cases hkey : key ∈ standardKeys
    · rw [hstandard key hkey, hnone]
      cases given key <;> rfl
    · rw [hserved key hkey, hnone]
      rfl
  · have hown : ∃ kept, own key = some kept := by
      simp only [standardKeys, List.mem_cons, List.not_mem_nil, or_false] at hkey
      rcases hkey with rfl | rfl
      · exact ⟨_, operatorLabel?_appName service model template⟩
      · exact ⟨_, operatorLabel?_managedBy service model template⟩
    obtain ⟨kept, hkept⟩ := hown
    have hshown := hall key kept hkept
    rw [hstandard key hkey, hgiven] at hshown
    rw [hkept]
    exact hshown.symm
  · by_cases hkey : key ∈ standardKeys
    · rw [hstandard key hkey]
      cases hgiven : given key with
      | none => exact hvalue
      | some other => exact (hsame key hkey other hgiven).symm.trans hvalue
    · exact hwins key hkey value hvalue

end

def labelledService : ServiceObject :=
  { cachedService with
    metadata := { cachedService.metadata with
      labels := some (.ofList [("team", "ML"), (Labels.component, "chat-ui"),
        (Labels.managedBy, "Helm")]) } }

theorem exists_runtimeFor_labelledService :
    ∃ runtime, runtimeFor labelledService "chat" (.ofObject .cluster cachedModel)
      (.ofObject .cluster cachedTemplate) (observe cachedService cachedSnapshot
        Policy.standard).caching ⟨default, 10⟩ Policy.standard = .ok runtime := by
  have hscales : (runtimeResources labelledService.spec (.ofObject .cluster cachedTemplate)
      Policy.standard).isOk = true := by decide +kernel
  exact Observation.exists_runtimeFor hscales _ _ _ _

theorem component_wins_beside_team :
    ∃ runtime, runtimeFor labelledService "chat" (.ofObject .cluster cachedModel)
        (.ofObject .cluster cachedTemplate) (observe cachedService cachedSnapshot
          Policy.standard).caching ⟨default, 10⟩ Policy.standard = .ok runtime ∧
      runtime.metadata.labels.find? Labels.component = some "inference" ∧
      runtime.metadata.labels.find? "team" = some "ML" := by
  obtain ⟨runtime, hbuilt⟩ := exists_runtimeFor_labelledService
  obtain ⟨hwins, -, hkept, -⟩ := operator_labels_win_unless_standard hbuilt
  refine ⟨runtime, hbuilt, ?_, ?_⟩
  · exact hwins _ (by decide) "inference" rfl
  · exact (hkept "team" rfl).trans rfl

theorem manager_overruled_by_service :
    ∃ runtime, runtimeFor labelledService "chat" (.ofObject .cluster cachedModel)
        (.ofObject .cluster cachedTemplate) (observe cachedService cachedSnapshot
          Policy.standard).caching ⟨default, 10⟩ Policy.standard = .ok runtime ∧
      operatorLabel? labelledService (.ofObject .cluster cachedModel)
        (.ofObject .cluster cachedTemplate) Labels.managedBy = some "aim-controller" ∧
      runtime.metadata.labels.find? Labels.managedBy = some "Helm" := by
  obtain ⟨runtime, hbuilt⟩ := exists_runtimeFor_labelledService
  refine ⟨runtime, hbuilt, operatorLabel?_managedBy _ _ _, ?_⟩
  rw [find?_labels_of_runtimeFor hbuilt, if_pos (by decide)]
  rfl

end InferenceReconciler
