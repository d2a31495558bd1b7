import InferenceReconciler.Proofs.FittedNames
import InferenceReconciler.RouteResolution
import InferenceReconciler.RuntimeObject
import InferenceReconciler.WeightStorage

/-!
# Names of what a service owns

The runtime and the temporary volume of a service have names that are labels, whatever the service
is called. The route leads to the predictor of the runtime by the name of the runtime and ten
characters more, for which that name leaves no room: what it asks for is too long exactly if a
letter or digit stands at one of the places 49 to 58 of the name of the service.
-/

namespace InferenceReconciler

theorem length_dropTrailing_le_iff {α : Type} (p : α → Bool) {l : List α} {n : ℕ} :
    (dropTrailing p l).length ≤ n ↔ ∀ a ∈ l.drop n, p a = true := by
  obtain ⟨dropped, hl, hdropped⟩ := exists_append_dropTrailing p l
  have hback : l.drop n =
      (dropTrailing p l).drop n ++ dropped.drop (n - (dropTrailing p l).length) := by
    conv_lhs => rw [hl, List.drop_append]
  constructor
  · intro hle a ha
    rw [hback, List.drop_eq_nil_of_le hle, List.nil_append] at ha
    exact hdropped a (List.mem_of_mem_drop ha)
  · intro hall
    by_contra hlong
    have hne : (dropTrailing p l).drop n ≠ [] := by
      rw [Ne, List.drop_eq_nil_iff]
      exact hlong
    have hlast : p (((dropTrailing p l).drop n).getLast hne) = false := by
      rw [List.getLast_drop]
      exact eq_false_of_getLast?_dropTrailing p (List.getLast?_eq_some_getLast _)
    have hmem := List.mem_append_left (dropped.drop (n - (dropTrailing p l).length))
      (List.getLast_mem hne)
    rw [← hback] at hmem
    exact Bool.false_ne_true (hlast.symm.trans (hall _ hmem))

theorem isDash_dashForDot_iff {c : Char} : isDash (dashForDot c) = true ↔ c = '-' ∨ c = '.' := by
  unfold isDash dashForDot
  split
  · rename_i hdot
    simp [hdot]
  · rename_i hdot
    simp [hdot]

theorem length_keptBase_le_iff {room n : ℕ} {name : String} :
    (keptBase room name).length ≤ n ↔
      ∀ c ∈ (name.toList.take room).drop n, c = '-' ∨ c = '.' := by
  unfold keptBase
  rw [length_dropTrailing_le_iff, ← List.map_take, ← List.map_drop, List.forall_mem_map]
  simp only [isDash_dashForDot_iff]

section

variable {options : NameOptions} {hashed : List Json}

theorem isDomainLabel_derivedNameWith_of_hashed (hh : hashed ≠ []) (hl : options.hashLength ≠ 0)
    (parts : List String) : isDomainLabel (derivedNameWith options parts hashed).toList = true := by
  have hdigest : nameDigest options hashed = some (hashValues hashed options.hashLength) :=
    nameDigest_eq_some_iff.2 ⟨hh, hl, rfl⟩
  refine (isDomainLabel_derivedNameWith options parts hashed).resolve_left fun hempty => ?_
  rw [derivedNameWith_eq, hdigest] at hempty
  have hlabel := isDomainLabel_of_nameDigest hdigest
  rcases joinParts_some _ (hashValues hashed options.hashLength) with hname | ⟨stem, hname⟩
  · rw [← hname, hempty] at hlabel
    cases hlabel
  · have hlength := congrArg String.length (hname.symm.trans hempty)
    simp only [String.length_append, String.length_empty] at hlength
    have hdash : "-".length = 1 := rfl
    omega

/-- A name of one part and four digits of digest leaves fifty-eight letters to the part. -/
theorem derivedNameWith_single (s : String) (hashed : Json) :
    derivedNameWith (.withHashLength 4) [s] [hashed] =
      String.ofList (cutPart 58 s) ++ "-" ++ hashValues [hashed] 4 := by
  have hdigest : (hashValues [hashed] 4).length = 4 := length_shortHash _ 4
  have hroom : ∀ q : List Char, joinedLength (some (hashValues [hashed] 4)) [q] ≤ maxNameLength ↔
      q.length ≤ 58 := by
    intro q
    simp only [joinedLength, List.flatten_cons, List.flatten_nil, List.append_nil,
      List.length_cons, List.length_nil, hdigest, maxNameLength]
    omega
  have hfitted : fitParts (some (hashValues [hashed] 4)) maxNameLength
      ([s].map namePart).flatten.length [namePart s] = [cutPart 58 s] :=
    fitParts_cons (fun q hq => absurd hq List.not_mem_nil) hroom (dropTrailing_namePart s)
      (by simp)
  have hkept : ∀ p ∈ [cutPart 58 s], p ≠ [] := by
    rintro p hp rfl
    exact cutPart_ne_nil (by decide) s (List.mem_singleton.1 hp).symm
  calc derivedNameWith (.withHashLength 4) [s] [hashed]
      = joinParts (fitParts (some (hashValues [hashed] 4)) maxNameLength
          ([s].map namePart).flatten.length [namePart s]) (some (hashValues [hashed] 4)) := rfl
    _ = joinParts [cutPart 58 s] (some (hashValues [hashed] 4)) := by rw [hfitted]
    _ = String.ofList (cutPart 58 s) ++ "-" ++ hashValues [hashed] 4 := by
      unfold joinParts
      rw [filter_of_ne_nil hkept]
      rfl

end

def RouteObject.backendNames (r : RouteObject) : List String :=
  (r.spec.rules.flatMap (·.backendRefs)).map (·.name)

/-- The service in front of the predictor of the runtime. -/
def predictorName (service : ServiceObject) : String := runtimeName service ++ "-predictor"

section

variable (service : ServiceObject)

theorem backendNames_routeFor (path : String) (gateway : GatewayRef) (config : EffectiveConfig) :
    (routeFor service path gateway (runtimeName service) config).backendNames =
      [predictorName service] := rfl

theorem isDomainLabel_runtimeName : isDomainLabel (runtimeName service).toList = true := by
  unfold runtimeName
  exact isDomainLabel_derivedNameWith_of_hashed (List.cons_ne_nil _ _) (by decide) _

theorem isDomainLabel_temporaryVolumeName :
    isDomainLabel (temporaryVolumeName service).toList = true := by
  unfold temporaryVolumeName derivedName
  exact isDomainLabel_derivedNameWith_of_hashed (List.cons_ne_nil _ _) (by decide) _

theorem isDomainLabel_predictorName : isDomainLabel (predictorName service).toList = true := by
  have hpredictor : isDomainLabel "predictor".toList = true := by decide
  have hname : (predictorName service).toList =
      (runtimeName service).toList ++ '-' :: "predictor".toList := by
    unfold predictorName
    rw [String.toList_append]
    rfl
  rw [hname]
  exact isDomainLabel_append_dash (isDomainLabel_runtimeName service) hpredictor

theorem length_runtimeName_le : (runtimeName service).length ≤ 63 := by
  unfold runtimeName
  refine Nat.le_trans (length_derivedNameWith_le _ _ _) (Nat.max_le.2 ⟨Nat.le_refl _, ?_⟩)
  exact Nat.le_trans (digestLength_le _ _) (by decide)

theorem length_temporaryVolumeName_le : (temporaryVolumeName service).length ≤ 63 := by
  unfold temporaryVolumeName derivedName
  refine Nat.le_trans (length_derivedNameWith_le _ _ _) (Nat.max_le.2 ⟨Nat.le_refl _, ?_⟩)
  exact Nat.le_trans (digestLength_le _ _) (by decide)

end

section

variable {service : ServiceObject} {name : String}

theorem runtimeName_eq (hname : service.displayName = name) (h : NameLetters name.toList) :
    ∃ digest : String, digest.length = 4 ∧
      runtimeName service = String.ofList (keptBase 58 name) ++ "-" ++ digest := by
  have hkept : cutPart 58 name = keptBase 58 name := by
    unfold cutPart
    rw [namePart_eq h]
    exact dropTrailing_take_keptBase (by decide) name
  unfold runtimeName
  rw [hname, derivedNameWith_single, hkept]
  exact ⟨_, length_shortHash _ 4, rfl⟩

theorem length_predictorName_le_iff (hname : service.displayName = name)
    (h : NameLetters name.toList) :
    (predictorName service).length ≤ 63 ↔
      ∀ c ∈ (name.toList.take 58).drop 48, c = '-' ∨ c = '.' := by
  obtain ⟨digest, hdigest, hruntime⟩ := runtimeName_eq hname h
  have hpredictor : "-predictor".length = 10 := rfl
  have hdash : "-".length = 1 := rfl
  rw [← length_keptBase_le_iff]
  unfold predictorName
  rw [hruntime, String.length_append, String.length_append, String.length_append,
    String.length_ofList, hdigest, hpredictor, hdash]
  omega

/-- Of a service with a legal name the runtime and the temporary volume have legal names. That of
the service its route leads to is a label and is too long exactly if a letter or digit stands
between the 48th and the 59th place of the name of the service. -/
theorem owned_names_legal_but_backend (hname : service.metadata.name = some name)
    (hlegal : isObjectName name = true) :
    (isDomainLabel (runtimeName service).toList = true ∧ (runtimeName service).length ≤ 63) ∧
      (isDomainLabel (temporaryVolumeName service).toList = true ∧
        (temporaryVolumeName service).length ≤ 63) ∧
      (∀ path gateway config,
        (routeFor service path gateway (runtimeName service) config).backendNames =
          [predictorName service]) ∧
      isDomainLabel (predictorName service).toList = true ∧
      ((predictorName service).length ≤ 63 ↔
        ∀ c ∈ (name.toList.take 58).drop 48, c = '-' ∨ c = '.') := by
  have hdisplay : service.displayName = name := by
    unfold CustomObject.displayName Metadata.displayName
    rw [hname]
    rfl
  exact ⟨⟨isDomainLabel_runtimeName service, length_runtimeName_le service⟩,
    ⟨isDomainLabel_temporaryVolumeName service, length_temporaryVolumeName_le service⟩,
    backendNames_routeFor service, isDomainLabel_predictorName service,
    length_predictorName_le_iff hdisplay (.of_isObjectName hlegal)⟩

end

def namedService (name : String) : ServiceObject :=
  { (default : ServiceObject) with
    metadata := { Metadata.empty with
      name := some name
      «namespace» := some "default"
      uid := some "0c7f8a52-6d1e-4b3a-9c55-2f6a1be1d0aa" } }

/-- A name of forty-eight characters leaves room for the predictor. -/
def roomyName : String := "llama-3-1-405b-instruct-mi300x-fp8-throughput-eu"

theorem backend_of_roomy_name :
    isObjectName roomyName = true ∧
      (isDomainLabel (runtimeName (namedService roomyName)).toList = true ∧
        (runtimeName (namedService roomyName)).length ≤ 63) ∧
      (isDomainLabel (temporaryVolumeName (namedService roomyName)).toList = true ∧
        (temporaryVolumeName (namedService roomyName)).length ≤ 63) ∧
      isDomainLabel (predictorName (namedService roomyName)).toList = true ∧
      (predictorName (namedService roomyName)).length ≤ 63 := by
  have hlegal : isObjectName roomyName = true := by decide +kernel
  have hname : (namedService roomyName).metadata.name = some roomyName := rfl
  obtain ⟨hruntime, hvolume, -, hlabel, hiff⟩ := owned_names_legal_but_backend hname hlegal
  have hrest : (roomyName.toList.take 58).drop 48 = [] := by decide +kernel
  exact ⟨hlegal, hruntime, hvolume, hlabel, hiff.2 (by simp [hrest])⟩

/-- One of fifty does not. -/
def crampedName : String := "meta-llama-3-1-405b-instruct-mi300x-fp8-throughput"

theorem backend_of_cramped_name_illegal :
    isObjectName crampedName = true ∧
      ∃ backend ∈ (routeFor (namedService crampedName)
          "/default/0c7f8a52-6d1e-4b3a-9c55-2f6a1be1d0aa" ⟨"public", none, none, none⟩
          (runtimeName (namedService crampedName)) default).backendNames,
        63 < backend.length := by
  have hlegal : isObjectName crampedName = true := by decide +kernel
  have hletter : 'u' ∈ (crampedName.toList.take 58).drop 48 := by decide +kernel
  have hcramped : ¬ ∀ c ∈ (crampedName.toList.take 58).drop 48, c = '-' ∨ c = '.' :=
    fun hall => absurd (hall _ hletter) (by decide)
  have hdisplay : (namedService crampedName).displayName = crampedName := rfl
  have hlong : ¬ (predictorName (namedService crampedName)).length ≤ 63 :=
    mt (length_predictorName_le_iff hdisplay (.of_isObjectName hlegal)).1 hcramped
  exact ⟨hlegal, _, List.mem_singleton_self _, Nat.lt_of_not_le hlong⟩

end InferenceReconciler
