import InferenceReconciler.Proofs.MemberPaths
import InferenceReconciler.Proofs.OrderedMembers
import InferenceReconciler.Proofs.Ownership
import InferenceReconciler.Proofs.WireRoundTrip

/-!
# Updates behind a closed gate

While the gate is closed an existing runtime is kept up to date by a merge patch. What the patch
leaves is the stored object with the replicas and the resources of a runtime that is built anew.
Nothing else of it is changed, known here or not. The containers are sent whole, with every field
that a container has.
-/

namespace InferenceReconciler

namespace Json

def mapItems (f : Json → Json) : Json → Json
  | arr items => arr (items.map f)
  | j => j

/-- The stored object with so many replicas of its predictor, no fewer and no more. -/
def withReplicas (stored : Json) (replicas : Int32) : Json :=
  stored.mapAt (fun predictor =>
    (predictor.set "maxReplicas" (Wire.write replicas)).set "minReplicas" (Wire.write replicas))
    ["spec", "predictor"]

def servingWith (resources : PodFields.Resources) (container : Json) : Json :=
  if (container.member? "name").bind str? = some servingContainer then
    container.set "resources" (Wire.write resources)
  else container

/-- The stored object with the resources of every container that serves replaced. -/
def withServingResources (stored : Json) (resources : PodFields.Resources) : Json :=
  stored.mapAt (mapItems (servingWith resources)) ["spec", "predictor", "containers"]

end Json

theorem PodFields.Container.isOrdered (c : Container) : (Wire.write c).IsOrdered :=
  Json.isOrdered_record
    ["args", "command", "env", "envFrom", "image", "imagePullPolicy", "lifecycle",
      "livenessProbe", "name", "ports", "readinessProbe", "resizePolicy", "resources",
      "restartPolicy", "securityContext", "startupProbe", "stdin", "stdinOnce",
      "terminationMessagePath", "terminationMessagePolicy", "tty", "volumeDevices",
      "volumeMounts", "workingDir"]
    (by decide) (by simp)

namespace InferenceService

theorem Predictor.isOrdered (p : Predictor) : (Wire.write p).IsOrdered :=
  Json.isOrdered_record
    ["affinity", "containers", "imagePullSecrets", "maxReplicas", "minReplicas",
      "serviceAccountName", "volumes"]
    (by decide) (by simp)

theorem Spec.isOrdered (s : Spec) : (Wire.write s).IsOrdered :=
  Json.isOrdered_record ["predictor"] (by decide) (by simp)

theorem isOrdered (s : InferenceService) : (Wire.write s).IsOrdered :=
  Json.isOrdered_record ["apiVersion", "kind", "metadata", "spec", "status"]
    (by decide) (by simp)

def scaledTo (s : InferenceService) (replicas : Int32) : InferenceService :=
  { s with spec.predictor := { s.spec.predictor with
      minReplicas := some replicas
      maxReplicas := some replicas } }

def withResources (s : InferenceService) (resources : PodFields.Resources) : InferenceService :=
  { s with spec.predictor := { s.spec.predictor with
      containers := withServingResources resources s.spec.predictor.containers } }

def serves (s : InferenceService) : Bool :=
  s.spec.predictor.containers.any fun c => c.name = servingContainer

/-- The runtime has one container, and so many replicas of it with these resources. -/
structure Runs (s : InferenceService) (replicas : Int32) (resources : PodFields.Resources) :
    Prop where
  container : ∃ c, s.spec.predictor.containers = [c] ∧ c.name = servingContainer ∧
    c.resources = some resources
  minReplicas : s.spec.predictor.minReplicas = some replicas
  maxReplicas : s.spec.predictor.maxReplicas = some replicas

/-- The stored object has the containers of the runtime as they are written, whatever else it
has. -/
def ContainersStoredIn (s : InferenceService) (stored : Json) : Prop :=
  stored.at? ["spec", "predictor", "containers"] = some (Wire.write s.spec.predictor.containers)

/-- What the patch of the mutable fields makes of the stored object of a runtime. -/
def updated (existing : InferenceService) (stored : Json) (service : ServiceObject)
    (template : Option TemplateRecord) (policy : Policy) : Except Fault Json :=
  (mutableFieldsPatch service existing template policy).map stored.mergePatch

section

variable (s : InferenceService)

theorem member?_spec : (Wire.write s).member? "spec" = some (Wire.write s.spec) := by
  simp [Wire.write]

theorem Spec.member?_predictor (s : Spec) :
    (Wire.write s).member? "predictor" = some (Wire.write s.predictor) := by
  simp [Wire.write]

theorem Predictor.member?_containers (p : Predictor) :
    (Wire.write p).member? "containers" = some (Wire.write p.containers) := by
  simp [Wire.write]

theorem containersStoredIn_write : s.ContainersStoredIn (Wire.write s) := by
  unfold ContainersStoredIn Json.at? Json.at? Json.at? Json.at?
  rw [member?_spec, Option.bind_some, Spec.member?_predictor, Option.bind_some,
    Predictor.member?_containers, Option.bind_some]

/-- What is done to the written predictor is done to the predictor of the written runtime. -/
theorem mapAt_predictor {f : Json → Json} {p : Predictor}
    (h : f (Wire.write s.spec.predictor) = Wire.write p) :
    (Wire.write s).mapAt f ["spec", "predictor"] =
      Wire.write { s with spec.predictor := p } := by
  have hspec : (Wire.write s.spec).set "predictor" (Wire.write p) = Wire.write (Spec.mk p) :=
    s.spec.isOrdered.set_eq (Spec.isOrdered _) (Spec.member?_predictor _) fun k hk => by
      simp [Wire.write, hk]
  simp only [Json.mapAt]
  rw [member?_spec, Option.getD_some, Spec.member?_predictor, Option.getD_some, h, hspec]
  exact s.isOrdered.set_eq (isOrdered _) (member?_spec _) fun k hk => by simp [Wire.write, hk]

theorem withReplicas_write (replicas : Int32) :
    (Wire.write s).withReplicas replicas = Wire.write (s.scaledTo replicas) := by
  refine s.mapAt_predictor (((s.spec.predictor.isOrdered.set _ _).set _ _).ext
    (Predictor.isOrdered _) fun key => ?_)
  rw [Json.member?_set, Json.member?_set]
  by_cases hmin : key = "minReplicas"
  · subst hmin
    simp [Wire.write]
  by_cases hmax : key = "maxReplicas"
  · subst hmax
    simp [Wire.write]
  · simp [Wire.write, hmin, hmax]

/-- The resources are the only field of a container that changes, and only of one that serves. -/
theorem servingWith_write (resources : PodFields.Resources) (c : PodFields.Container) :
    (Wire.write c).servingWith resources =
      Wire.write
        (if c.name = servingContainer then { c with resources := some resources } else c) := by
  have hname : (Wire.write c).member? "name" = some (.str c.name) := by simp [Wire.write]
  unfold Json.servingWith
  rw [hname, Option.bind_some, Json.str?_str]
  by_cases hserves : c.name = servingContainer
  · rw [if_pos (congrArg some hserves), if_pos hserves]
    exact c.isOrdered.set_eq (PodFields.Container.isOrdered _) (by simp [Wire.write])
      fun k hk => by simp [Wire.write, hk]
  · rw [if_neg fun h => hserves (Option.some.inj h), if_neg hserves]

theorem mapItems_servingWith_write (resources : PodFields.Resources)
    (l : List PodFields.Container) :
    (Wire.write l).mapItems (Json.servingWith resources) =
      Wire.write (withServingResources resources l) := by
  have hmap : (l.map Wire.write).map (Json.servingWith resources) =
      (withServingResources resources l).map Wire.write := by
    unfold withServingResources
    rw [List.map_map, List.map_map]
    exact List.map_congr_left fun c _ => servingWith_write resources c
  exact congrArg Json.arr hmap

theorem withServingResources_write (resources : PodFields.Resources) :
    (Wire.write s).withServingResources resources = Wire.write (s.withResources resources) := by
  refine s.mapAt_predictor (f := Json.mapAt _ ["containers"]) ?_
  simp only [Json.mapAt]
  rw [Predictor.member?_containers, Option.getD_some, mapItems_servingWith_write]
  exact s.spec.predictor.isOrdered.set_eq (Predictor.isOrdered _)
    (Predictor.member?_containers _) fun k hk => by simp [Wire.write, hk]

end

def predictorPatch (containers : Option (List PodFields.Container)) (replicas : Int32) : Json :=
  .record [
    optionalField "containers" containers,
    field "maxReplicas" replicas,
    field "minReplicas" replicas]

def patchedPredictor (containers : Option (List PodFields.Container)) (replicas : Int32)
    (predictor : Json) : Json :=
  let withContainers := match containers with
    | none => predictor
    | some l => predictor.set "containers" (Wire.write l)
  (withContainers.set "maxReplicas" (Wire.write replicas)).set "minReplicas"
    (Wire.write replicas)

theorem mergePatch_predictorPatch (containers : Option (List PodFields.Container))
    (replicas : Int32) (predictor : Json) :
    predictor.mergePatch (predictorPatch containers replicas) =
      patchedPredictor containers replicas predictor := by
  have hreplicas : ∀ target : Json, target.mergePatch (Wire.write replicas) =
      Wire.write replicas := fun target => by simp [Wire.write, Json.mergePatch]
  have hbounds : ∀ target : Json,
      target.mergePatch (.record [field "maxReplicas" replicas, field "minReplicas" replicas]) =
        patchedPredictor none replicas target := fun target => by
    unfold field
    rw [Json.mergePatch_record_cons _ _ rfl, hreplicas, Json.mergePatch_record_cons _ _ rfl,
      hreplicas, Json.mergePatch_set_record_nil]
    rfl
  cases containers with
  | none => exact hbounds predictor
  | some l =>
    have hlist : ∀ target : Json, target.mergePatch (Wire.write l) = Wire.write l :=
      fun target => Json.mergePatch_arr target _
    refine (Json.mergePatch_record_cons _ _ rfl _).trans ?_
    rw [hlist, hbounds]
    rfl

section

variable (existing : InferenceService) (stored : Json) (service : ServiceObject)
  (policy : Policy)

theorem updated_eq (template : Option TemplateRecord) :
    existing.updated stored service template policy =
      (patchedContainers service existing template policy).map fun containers =>
        stored.mapAt (patchedPredictor containers service.spec.replicaCount)
          ["spec", "predictor"] := by
  unfold updated mutableFieldsPatch
  cases patchedContainers service existing template policy with
  | error problem => rfl
  | ok containers =>
    have hmerge : stored.mergePatch (.onlyAt ["spec", "predictor"]
        (predictorPatch containers service.spec.replicaCount)) =
          stored.mapAt (patchedPredictor containers service.spec.replicaCount)
            ["spec", "predictor"] := by
      rw [Json.mergePatch_onlyAt _ _ rfl]
      simp only [mergePatch_predictorPatch]
    exact congrArg Except.ok hmerge

theorem updated_none :
    existing.updated stored service none policy =
      .ok (stored.withReplicas service.spec.replicaCount) :=
  updated_eq existing stored service policy none

variable (t : TemplateRecord)

theorem patchedContainers_some :
    patchedContainers service existing (some t) policy =
      if existing.serves then
        (runtimeResources service.spec t policy).map fun r =>
          some (withServingResources r.inContainer existing.spec.predictor.containers)
      else .ok none := rfl

theorem updated_of_not_serves (h : existing.serves = false) :
    existing.updated stored service (some t) policy =
      .ok (stored.withReplicas service.spec.replicaCount) := by
  rw [updated_eq, patchedContainers_some, h]
  rfl

variable {existing stored}

theorem updated_of_serves (hstored : existing.ContainersStoredIn stored)
    (hserves : existing.serves = true) {r : ResourceRequirements}
    (hr : runtimeResources service.spec t policy = .ok r) :
    existing.updated stored service (some t) policy =
      .ok ((stored.withServingResources r.inContainer).withReplicas
        service.spec.replicaCount) := by
  have hpath := stored.at?_append ["spec", "predictor"] ["containers"]
  obtain ⟨predictor, hpredictor, hmember⟩ :=
    Option.bind_eq_some_iff.1 (hpath.symm.trans hstored)
  rw [Json.at?_singleton] at hmember
  have hset : predictor.mapAt (Json.mapItems (Json.servingWith r.inContainer)) ["containers"] =
      predictor.set "containers" (Wire.write
        (withServingResources r.inContainer existing.spec.predictor.containers)) := by
    simp only [Json.mapAt]
    rw [hmember, Option.getD_some, mapItems_servingWith_write]
  rw [updated_eq, patchedContainers_some, hserves, hr]
  refine congrArg Except.ok ?_
  -- Both sides only look at the predictor, and there they set the same.
  refine (Json.mapAt_congr hpredictor ?_).trans (Json.mapAt_mapAt _
    (Json.mapAt (Json.mapItems (Json.servingWith r.inContainer)) ["containers"]) _ _).symm
  rw [hset]
  rfl

variable {service policy t}

theorem updated_of_error {problem : Fault}
    (h : runtimeResources service.spec t policy = .error problem) :
    existing.updated stored service (some t) policy =
      if existing.serves then .error problem
      else .ok (stored.withReplicas service.spec.replicaCount) := by
  cases hserves : existing.serves with
  | true =>
    rw [updated_eq, patchedContainers_some, hserves, h]
    rfl
  | false => exact updated_of_not_serves existing stored service policy t hserves

theorem updated_write_of_runs {runtime : InferenceService} {r : ResourceRequirements}
    (hr : runtimeResources service.spec t policy = .ok r)
    (hruns : runtime.Runs service.spec.replicaCount r.inContainer) :
    runtime.updated (Wire.write runtime) service none policy = .ok (Wire.write runtime) ∧
      runtime.updated (Wire.write runtime) service (some t) policy =
        .ok (Wire.write runtime) := by
  obtain ⟨⟨c, hcontainers, hname, hresources⟩, hmin, hmax⟩ := hruns
  have hscaled : runtime.scaledTo service.spec.replicaCount = runtime := by
    obtain ⟨_, _, _, ⟨⟨_, _, _, _, _, _, _⟩⟩, _⟩ := runtime
    cases hmin
    cases hmax
    rfl
  have hwith : runtime.withResources r.inContainer = runtime := by
    unfold withResources withServingResources
    rw [hcontainers, List.map_singleton, if_pos hname, ← hresources, ← hcontainers]
  have hserves : runtime.serves = true := by
    unfold serves
    rw [hcontainers, List.any_cons, decide_eq_true hname, Bool.true_or]
  constructor
  · rw [updated_none, withReplicas_write, hscaled]
  · rw [updated_of_serves service policy t runtime.containersStoredIn_write hserves hr,
      withServingResources_write, hwith, withReplicas_write, hscaled]

end

/-- The update behind a closed gate sets the replicas and, with a ready template, the resources of
the containers that serve, and leaves all else of the stored object as it is: the written form of
the runtime, or any other object that has its containers. It sets them to those of a runtime that
is built anew, which it leaves as it is; where none can be built, the resources are what fails. -/
theorem updated_as_built (existing : InferenceService) (service : ServiceObject)
    (policy : Policy) :
    existing.ContainersStoredIn (Wire.write existing) ∧
      ∀ stored : Json, existing.ContainersStoredIn stored →
        existing.updated stored service none policy =
            .ok (stored.withReplicas service.spec.replicaCount) ∧
          ∀ (t : TemplateRecord) (name : String) (m : ModelRecord)
            (caching : CachingObservation) (config : EffectiveConfig),
            match runtimeFor service name m t caching config policy with
            | .ok runtime =>
              ∃ resources, runtime.Runs service.spec.replicaCount resources ∧
                existing.updated stored service (some t) policy =
                  (if existing.serves then
                    .ok ((stored.withServingResources resources).withReplicas
                      service.spec.replicaCount)
                  else .ok (stored.withReplicas service.spec.replicaCount)) ∧
                runtime.updated (Wire.write runtime) service none policy =
                  .ok (Wire.write runtime) ∧
                runtime.updated (Wire.write runtime) service (some t) policy =
                  .ok (Wire.write runtime)
            | .error problem =>
              existing.updated stored service (some t) policy =
                if existing.serves then .error problem
                else .ok (stored.withReplicas service.spec.replicaCount) := by
  refine ⟨existing.containersStoredIn_write, fun stored hstored =>
    ⟨updated_none existing stored service policy, fun t name m caching config => ?_⟩⟩
  unfold runtimeFor
  cases hr : runtimeResources service.spec t policy with
  | error problem => exact updated_of_error hr
  | ok r =>
    refine ⟨r.inContainer, ⟨⟨_, rfl, rfl, rfl⟩, rfl, rfl⟩, ?_,
      updated_write_of_runs hr ⟨⟨_, rfl, rfl, rfl⟩, rfl, rfl⟩⟩
    cases hserves : existing.serves with
    | true => exact updated_of_serves service policy t hstored hserves hr
    | false => exact updated_of_not_serves existing stored service policy t hserves

/-- A runtime whose container is probed and reads a variable from a secret. -/
def probedRuntime : InferenceService :=
  .ofSpec (.standard "chat" "default") {
    predictor := { (default : Predictor) with
      containers := [{
        name := servingContainer
        env := some [{
          name := "HF_TOKEN"
          valueFrom := some { secretKeyRef := some { key := "token", name := "hub" } } }]
        livenessProbe := some {
          httpGet := some { path := some "/health", port := .name "http" } } }] } }

/-- The stored form of the runtime, with a field of its predictor that is not known here. -/
def storedProbed : Json :=
  (Wire.write probedRuntime).mapAt (·.set "tolerations" (.arr [])) ["spec", "predictor"]

theorem updated_probedRuntime :
    probedRuntime.ContainersStoredIn storedProbed ∧
      ∃ resources,
        probedRuntime.updated storedProbed cachedService
            (some (.ofObject .cluster cachedTemplate)) Policy.standard =
          .ok ((storedProbed.withServingResources resources).withReplicas 1) := by
  have hstored : probedRuntime.ContainersStoredIn storedProbed := rfl
  have hscales : (runtimeResources cachedService.spec (.ofObject .cluster cachedTemplate)
      Policy.standard).isOk = true := by decide +kernel
  obtain ⟨runtime, hbuilt⟩ := Observation.exists_runtimeFor hscales "chat"
    (.ofObject .cluster cachedModel) (.waiting .preferShared) default
  have hupdated := ((updated_as_built probedRuntime cachedService Policy.standard).2
    storedProbed hstored).2 (.ofObject .cluster cachedTemplate) "chat"
      (.ofObject .cluster cachedModel) (.waiting .preferShared) default
  rw [hbuilt] at hupdated
  obtain ⟨resources, -, hserving, -⟩ := hupdated
  exact ⟨hstored, resources, hserving⟩

end InferenceService

end InferenceReconciler
