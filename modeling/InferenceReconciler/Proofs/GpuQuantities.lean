import InferenceReconciler.Proofs.OverriddenRuntime
import InferenceReconciler.Proofs.Ownership

/-!
# Quantities of GPUs

How many GPUs the serving container requests and how many it is granted. Resources that are made
for it name one count on both sides. Explicit resources stand as they are, entry by entry, and the
GPUs are added to a side that does not name them. So the two sides agree if neither was given a
quantity of GPUs, and if both were they agree as far as the given quantities do.
-/

namespace InferenceReconciler

/-- The side of some resources holds what was explicitly given for it, and besides that at most
the GPUs, which it names in any case. -/
structure Dict.Completes (side explicit : Dict String) (gpu : String) : Prop where
  named : (side.find? gpu).isSome = true
  kept : ∀ key quantity, explicit.find? key = some quantity → side.find? key = some quantity
  others : ∀ key, key ≠ gpu → side.find? key = explicit.find? key

section

variable (explicit : Dict String) (gpu count : String)

theorem Dict.find?_insertIfNew_self :
    (explicit.insertIfNew gpu count).find? gpu = some ((explicit.find? gpu).getD count) := by
  rw [find?_insertIfNew, if_pos rfl]

variable {explicit gpu} in
theorem Dict.find?_insertIfNew_of_absent (h : explicit.find? gpu = none) :
    (explicit.insertIfNew gpu count).find? gpu = some count := by
  rw [find?_insertIfNew_self, h, Option.getD_none]

variable {explicit gpu} in
theorem Dict.insertIfNew_of_named (h : (explicit.find? gpu).isSome = true) :
    explicit.insertIfNew gpu count = explicit := if_pos h

theorem Dict.completes_insertIfNew : (explicit.insertIfNew gpu count).Completes explicit gpu := by
  constructor
  · rw [find?_insertIfNew_self, Option.isSome_some]
  · intro key quantity hgiven
    rw [find?_insertIfNew]
    split
    · rename_i hkey
      rw [← hkey, hgiven, Option.getD_some]
    · exact hgiven
  · intro key hkey
    rw [find?_insertIfNew, if_neg hkey]

end

theorem Dict.isEmpty_of_named {d : Dict String} {key : String}
    (h : (d.find? key).isSome = true) : d.isEmpty = false := by
  cases hempty : d.isEmpty with
  | false => rfl
  | true =>
    rw [Dict.find?, List.isEmpty_iff.1 hempty] at h
    cases h

/-- What the serving container requests and what it is limited to. -/
def InferenceService.Supplies (runtime : InferenceService) (requests limits : Dict String) :
    Prop :=
  ∃ container, runtime.spec.predictor.containers = [container] ∧
    container.name = servingContainer ∧
    container.resources = some { limits := some limits, requests := some requests }

section

variable {service : ServiceObject} {name : String} {m : ModelRecord} {t : TemplateRecord}
  {caching : CachingObservation} {config : EffectiveConfig} {policy : Policy}
  {runtime : InferenceService}

theorem named_of_runtimeResources {r : ResourceRequirements}
    (h : runtimeResources service.spec t policy = .ok r) :
    (r.requests.find? (gpuResourceName t policy)).isSome = true ∧
      (r.limits.find? (gpuResourceName t policy)).isSome = true := by
  unfold runtimeResources at h
  cases he : explicitResources? service.spec t.spec with
  | some e =>
    rw [he] at h
    cases h
    exact ⟨(Dict.completes_insertIfNew _ _ _).named, (Dict.completes_insertIfNew _ _ _).named⟩
  | none =>
    rw [he] at h
    obtain ⟨hrequests, hlimits⟩ := find?_of_defaultResources h
    exact ⟨by rw [hrequests, Option.isSome_some], by rw [hlimits, Option.isSome_some]⟩

theorem supplies_of_runtimeFor
    (h : runtimeFor service name m t caching config policy = .ok runtime) :
    ∃ r, runtimeResources service.spec t policy = .ok r ∧
      runtime.Supplies r.requests r.limits := by
  obtain ⟨r, container, hr, hcontainers, hserving, hresources⟩ := resources_of_runtimeFor h
  obtain ⟨hrequests, hlimits⟩ := named_of_runtimeResources hr
  refine ⟨r, hr, container, hcontainers, hserving, ?_⟩
  rw [hresources, ResourceRequirements.inContainer, Dict.isEmpty_of_named hrequests,
    Dict.isEmpty_of_named hlimits]
  rfl

/-- The GPUs stand on both sides of the resources, with one count where none was explicitly given.
What was given stands as it is, so two given quantities agree in the container exactly if they
were given alike. -/
theorem gpus_alike_unless_given_apart
    (h : runtimeFor service name m t caching config policy = .ok runtime) :
    let gpu := gpuResourceName t policy
    let count := toString (runtimeGpuCount t).toNat
    ∃ requests limits, runtime.Supplies requests limits ∧
      (explicitResources? service.spec t.spec = none →
        requests.find? gpu = some count ∧ limits.find? gpu = some count) ∧
      ∀ e, explicitResources? service.spec t.spec = some e →
        requests.Completes e.requests gpu ∧ limits.Completes e.limits gpu ∧
        (e.requests.find? gpu = none ∧ e.limits.find? gpu = none →
          requests.find? gpu = some count ∧ limits.find? gpu = some count) ∧
        ((e.requests.find? gpu).isSome = true ∧ (e.limits.find? gpu).isSome = true →
          (requests.find? gpu = limits.find? gpu ↔
            e.requests.find? gpu = e.limits.find? gpu)) := by
  intro gpu count
  obtain ⟨r, hr, hsupplies⟩ := supplies_of_runtimeFor h
  unfold runtimeResources at hr
  refine ⟨r.requests, r.limits, hsupplies, ?_, ?_⟩
  · intro hnone
    rw [hnone] at hr
    exact find?_of_defaultResources hr
  · intro e he
    rw [he] at hr
    cases hr
    refine ⟨Dict.completes_insertIfNew _ _ _, Dict.completes_insertIfNew _ _ _, ?_, ?_⟩
    · rintro ⟨hnoRequest, hnoLimit⟩
      exact ⟨Dict.find?_insertIfNew_of_absent count hnoRequest,
        Dict.find?_insertIfNew_of_absent count hnoLimit⟩
    · rintro ⟨hrequest, hlimit⟩
      have hrequests := Dict.insertIfNew_of_named count hrequest
      have hlimits := Dict.insertIfNew_of_named count hlimit
      exact Eq.congr (congrArg (Dict.find? · gpu) hrequests) (congrArg (Dict.find? · gpu) hlimits)

end

def serviceGiven (requests limits : List (String × String)) : ServiceObject :=
  { cachedService with
    spec := { cachedService.spec with resources := some ⟨.ofList requests, .ofList limits⟩ } }

def runtimeGiven (requests limits : List (String × String)) : Except Fault InferenceService :=
  runtimeFor (serviceGiven requests limits) "chat" (.ofObject .cluster cachedModel)
    (.ofObject .cluster cachedTemplate) (.waiting .preferShared) default Policy.standard

theorem processors_given_gpus_alike :
    ∃ runtime requests limits, runtimeGiven [("cpu", "2")] [] = .ok runtime ∧
      runtime.Supplies requests limits ∧ requests.find? "cpu" = some "2" ∧
      limits.find? "cpu" = none ∧ requests.find? "amd.com/gpu" = some "1" ∧
      limits.find? "amd.com/gpu" = some "1" := by
  obtain ⟨runtime, hbuilt⟩ : ∃ runtime, runtimeGiven [("cpu", "2")] [] = .ok runtime :=
    Observation.exists_runtimeFor rfl _ _ _ _
  obtain ⟨requests, limits, hsupplies, -, hgiven⟩ := gpus_alike_unless_given_apart hbuilt
  obtain ⟨hrequests, hlimits, hneither, -⟩ := hgiven _ rfl
  obtain ⟨hrequested, hlimited⟩ := hneither ⟨rfl, rfl⟩
  exact ⟨runtime, requests, limits, hbuilt, hsupplies, hrequests.kept "cpu" "2" rfl,
    hlimits.others "cpu" (by decide), hrequested, hlimited⟩

/-- A service that asks for four GPUs and limits itself to two has both in its runtime. -/
theorem gpus_given_apart :
    ∃ runtime requests limits,
      runtimeGiven [("amd.com/gpu", "4")] [("amd.com/gpu", "2")] = .ok runtime ∧
      runtime.Supplies requests limits ∧
      gpuResourceName (.ofObject .cluster cachedTemplate) Policy.standard = "amd.com/gpu" ∧
      requests.find? "amd.com/gpu" = some "4" ∧ limits.find? "amd.com/gpu" = some "2" := by
  obtain ⟨runtime, hbuilt⟩ : ∃ runtime,
      runtimeGiven [("amd.com/gpu", "4")] [("amd.com/gpu", "2")] = .ok runtime :=
    Observation.exists_runtimeFor rfl _ _ _ _
  obtain ⟨r, hr, hsupplies⟩ := supplies_of_runtimeFor hbuilt
  cases hr
  exact ⟨runtime, _, _, hbuilt, hsupplies, rfl, rfl, rfl⟩

end InferenceReconciler
