import InferenceReconciler.Proofs.CreatedObjects
import InferenceReconciler.Proofs.ObjectRoundTrip
import InferenceReconciler.Proofs.SentRuntime

/-!
# Entries of a plan

What the body of an entry says of the object it is sent for. All whole objects go through the same
two steps, `applyBody` and `withOwner`, and what these do to a named object is shown once; that the
built objects are named is then all that an entry has to show. Every part of a plan is of one kind.
-/

namespace InferenceReconciler

namespace Metadata

variable (m : Metadata)

@[simp] theorem member?_write_name : (Wire.write m : Json).member? "name" = m.name.map .str := by
  simp [Wire.write]

@[simp] theorem member?_write_ownerReferences :
    (Wire.write m : Json).member? "ownerReferences" = none := by
  simp [Wire.write]

end Metadata

namespace PlainMetadata

variable (m : PlainMetadata)

@[simp] theorem member?_write_name :
    (Wire.write m : Json).member? "name" = some (.str m.name) := by
  simp [Wire.write, Json.member?_record_dictField]

@[simp] theorem member?_write_ownerReferences :
    (Wire.write m : Json).member? "ownerReferences" = none := by
  simp [Wire.write, Json.member?_record_dictField]

end PlainMetadata

/-- The object has the name in its metadata, and no owner. -/
def Json.Named (object : Json) (name : String) : Prop :=
  ∃ members, object.member? "metadata" = some (.obj members) ∧
    (obj members).member? "name" = some (.str name) ∧
    (obj members).member? "ownerReferences" = none

theorem named_of_metadata {object : Json} {m : Metadata} {name : String}
    (h : object.member? "metadata" = some (Wire.write m)) (hname : m.name = some name) :
    object.Named name :=
  ⟨_, h, m.member?_write_name.trans (congrArg (Option.map Json.str) hname),
    m.member?_write_ownerReferences⟩

theorem named_of_plainMetadata {object : Json} {m : PlainMetadata}
    (h : object.member? "metadata" = some (Wire.write m)) : object.Named m.name :=
  ⟨_, h, m.member?_write_name, m.member?_write_ownerReferences⟩

theorem CustomObject.named_write {σ τ : Type} [Wire σ] [Wire τ] (kind : ResourceKind)
    {o : CustomObject σ τ} {name : String} (h : o.metadata.name = some name) :
    (o.write kind).Named name :=
  named_of_metadata (m := o.metadata) (by simp [write]) h

theorem VolumeClaim.named_write {c : VolumeClaim} {name : String}
    (h : c.metadata.name = some name) : Json.Named (Wire.write c) name :=
  named_of_metadata (m := c.metadata) (by simp [Wire.write]) h

theorem InferenceService.named_write (s : InferenceService) :
    Json.Named (Wire.write s) s.metadata.name :=
  named_of_plainMetadata (m := s.metadata) (by simp [Wire.write])

theorem RouteObject.named_write (r : RouteObject) : Json.Named (Wire.write r) r.metadata.name :=
  named_of_plainMetadata (m := r.metadata) (by simp [Wire.write])

theorem member?_applyBody (kind : ResourceKind) (object : Json) (key : String) :
    (applyBody kind object).member? key =
      if key = "status" then none
      else if key = "kind" then some (.str kind.text)
      else if key = "apiVersion" then some (.str kind.apiVersion)
      else object.member? key := by
  unfold applyBody
  rw [Json.member?_erase, Json.member?_set, Json.member?_set]

theorem member?_withOwner {r : OwnerReference} {body : Json} {members : List (String × Json)}
    (h : body.member? "metadata" = some (.obj members)) (key : String) :
    (withOwner r body).member? key =
      if key = "metadata" then
        some ((Json.obj members).set "ownerReferences" (.arr [r.json]))
      else body.member? key := by
  unfold withOwner
  rw [h]
  exact Json.member?_set _ _ _ _

namespace PlannedObject

def metadata? (d : PlannedObject) (key : String) : Option Json :=
  (d.body.member? "metadata").bind fun m => m.member? key

/-- The body says under which interface, kind and name it is sent, and it reports nothing. -/
structure Identified (d : PlannedObject) : Prop where
  apiVersion : d.body.member? "apiVersion" = some (.str d.kind.resource.apiVersion)
  kind : d.body.member? "kind" = some (.str d.kind.resource.kind)
  name : d.metadata? "name" = some (.str d.name)
  status : d.body.member? "status" = none

theorem metadata?_eq {d : PlannedObject} {m : Json} (h : d.body.member? "metadata" = some m)
    (key : String) : d.metadata? key = m.member? key := by
  unfold metadata?
  rw [h, Option.bind_some]

variable {kind : ResourceKind} {name : String} {object : Json}

theorem identified_whole (h : object.Named name) :
    (whole kind name object).Identified ∧
      (whole kind name object).metadata? "ownerReferences" = none := by
  obtain ⟨members, hmetadata, hname, howners⟩ := h
  have hbody := member?_applyBody kind object
  have hkept : (whole kind name object).body.member? "metadata" = some (.obj members) :=
    (hbody "metadata").trans hmetadata
  refine ⟨⟨hbody "apiVersion", hbody "kind", ?_, hbody "status"⟩, ?_⟩
  · rw [metadata?_eq hkept]
    exact hname
  · rw [metadata?_eq hkept]
    exact howners

theorem identified_owned {service : ServiceObject} {d : PlannedObject} (h : object.Named name)
    (hd : ownedObject service kind name object = .ok d) :
    d.Identified ∧ ∃ r, ownerReference service = .ok r ∧
      d.metadata? "ownerReferences" = some (.arr [r.json]) := by
  obtain ⟨r, hr, rfl⟩ := exists_of_map_eq_ok hd
  obtain ⟨members, hmetadata, hname, -⟩ := h
  have hbody := member?_applyBody kind object
  have howned := member?_withOwner (r := r) ((hbody "metadata").trans hmetadata)
  have hset (key : String) :=
    Json.member?_set (.obj members) "ownerReferences" key (.arr [r.json])
  refine ⟨⟨(howned "apiVersion").trans (hbody "apiVersion"), (howned "kind").trans (hbody "kind"),
    ?_, (howned "status").trans (hbody "status")⟩, r, hr, ?_⟩
  · rw [metadata?_eq (howned "metadata")]
    exact (hset "name").trans hname
  · rw [metadata?_eq (howned "metadata")]
    exact hset "ownerReferences"

end PlannedObject

/-- An entry of a plan that belongs to the service. -/
inductive OwnedEntry (service : ServiceObject) (d : PlannedObject) : Prop where
  /-- A named object is sent whole and with its owner. -/
  | whole (object : Json) (named : object.Named d.name) (mode : d.mode = .wholeObject)
      (owned : ownedObject service d.kind d.name object = .ok d) : OwnedEntry service d
  /-- A patch says nothing of a kind or an owner. -/
  | patch (mode : d.mode = .mergePatch) (kind : d.body.member? "kind" = none)
      (metadata : d.body.member? "metadata" = none) : OwnedEntry service d

namespace OwnedEntry

variable {service : ServiceObject} {d : PlannedObject}

theorem identified_of_whole (h : OwnedEntry service d) (hmode : d.mode = .wholeObject) :
    d.Identified ∧ ∃ r, ownerReference service = .ok r ∧
      d.metadata? "ownerReferences" = some (.arr [r.json]) := by
  cases h with
  | whole object named mode owned => exact PlannedObject.identified_owned named owned
  | patch mode kind metadata =>
    rw [hmode] at mode
    cases mode

theorem bare_of_patch (h : OwnedEntry service d) (hmode : d.mode = .mergePatch) :
    d.body.member? "kind" = none ∧ d.metadata? "ownerReferences" = none := by
  cases h with
  | whole object named mode owned =>
    rw [hmode] at mode
    cases mode
  | patch mode kind metadata =>
    refine ⟨kind, ?_⟩
    unfold PlannedObject.metadata?
    rw [metadata, Option.bind_none]

end OwnedEntry

theorem ownedEntry_of_ownedObject {service : ServiceObject} {kind : ResourceKind} {name : String}
    {object : Json} {d : PlannedObject} (hnamed : object.Named name)
    (h : ownedObject service kind name object = .ok d) : OwnedEntry service d := by
  obtain ⟨rfl, rfl, hmode⟩ := ownedObject_eq_ok h
  exact .whole object hnamed hmode h

theorem name_of_runtimeFor {service : ServiceObject} {name : String} {m : ModelRecord}
    {t : TemplateRecord} {caching : CachingObservation} {config : EffectiveConfig}
    {policy : Policy} {runtime : InferenceService}
    (h : runtimeFor service name m t caching config policy = .ok runtime) :
    runtime.metadata.name = name := by
  obtain ⟨resources, -, h⟩ := exists_of_bind_eq_ok h
  cases h
  rfl

theorem member?_mutableFieldsPatch {service : ServiceObject} {existing : InferenceService}
    {template : Option TemplateRecord} {policy : Policy} {patch : Json}
    (h : mutableFieldsPatch service existing template policy = .ok patch) {key : String}
    (hkey : key ≠ "spec") : patch.member? key = none := by
  obtain ⟨containers, -, h⟩ := exists_of_bind_eq_ok h
  cases h
  exact (lookup_entry_cons key "spec" _ []).trans (if_neg hkey)

namespace Observation

variable {o : Observation} {service : ServiceObject} {policy : Policy} {l : List PlannedObject}

theorem ownedEntry_of_plannedVolume (h : o.plannedVolume service = .ok l) :
    ∀ d ∈ l, OwnedEntry service d := by
  unfold plannedVolume at h
  split at h
  · cases h
    exact fun d hd => by cases hd
  · obtain ⟨volume, hvolume, rfl⟩ := exists_of_map_eq_ok h
    intro d hd
    rw [List.mem_singleton.1 hd]
    exact ownedEntry_of_ownedObject (VolumeClaim.named_write rfl) hvolume

theorem ownedEntry_of_plannedRuntime (h : o.plannedRuntime service policy = .ok l) :
    ∀ d ∈ l, OwnedEntry service d := by
  unfold plannedRuntime at h
  split at h
  · obtain ⟨runtime, hbuilt, h⟩ := exists_of_bind_eq_ok h
    obtain ⟨entry, hentry, h⟩ := exists_of_bind_eq_ok h
    cases h
    intro d hd
    rw [List.mem_singleton.1 hd]
    exact ownedEntry_of_ownedObject (name_of_runtimeFor hbuilt ▸ runtime.named_write) hentry
  · obtain ⟨patch, hpatch, h⟩ := exists_of_bind_eq_ok h
    cases h
    intro d hd
    rw [List.mem_singleton.1 hd]
    exact .patch rfl (member?_mutableFieldsPatch hpatch (by decide))
      (member?_mutableFieldsPatch hpatch (by decide))
  · cases h
    exact fun d hd => by cases hd

theorem ownedEntry_of_plannedRoute (hname : o.route.name = service.displayName)
    (h : o.plannedRoute service = .ok l) : ∀ d ∈ l, OwnedEntry service d := by
  unfold plannedRoute at h
  split at h
  · cases h
    exact fun d hd => by cases hd
  · obtain ⟨route, hroute, rfl⟩ := exists_of_map_eq_ok h
    intro d hd
    rw [List.mem_singleton.1 hd]
    exact ownedEntry_of_ownedObject (hname ▸ RouteObject.named_write _) hroute

theorem ownedEntry_of_plan {plan : Plan} (hname : o.route.name = service.displayName)
    (h : o.plan service policy = .ok plan) : ∀ d ∈ plan.owned, OwnedEntry service d := by
  by_cases he : o.config.error = none
  · obtain ⟨volume, runtime, route, hvolume, hruntime, hroute, rfl⟩ := plan_eq_ok he h
    intro d hd
    rcases List.mem_append.1 hd with hfirst | hlast
    · rcases List.mem_append.1 hfirst with hd | hd
      · exact ownedEntry_of_plannedVolume hvolume d hd
      · exact ownedEntry_of_plannedRuntime hruntime d hd
    · exact ownedEntry_of_plannedRoute hname hroute d hlast
  · rw [plan_of_config_error he] at h
    cases h
    exact fun d hd => by cases hd

/-- A shared object is sent whole, under its name and without an owner. -/
theorem identified_of_mem_shared {snapshot : Snapshot} {plan : Plan} {d : PlannedObject}
    (h : (observe service snapshot policy).plan service policy = .ok plan)
    (hd : d ∈ plan.shared) :
    d.mode = .wholeObject ∧ d.Identified ∧ d.metadata? "ownerReferences" = none := by
  cases sharedEntry_of_plan h hd with
  | model object created =>
    have hname : object.metadata.name = some object.displayName := by
      cases ModelMissing.of_toCreate created <;> rfl
    exact ⟨rfl, PlannedObject.identified_whole (CustomObject.named_write _ hname)⟩
  | template object created =>
    obtain ⟨base, -, overrides, -, rfl⟩ := derives_of_toCreate? created
    exact ⟨rfl, PlannedObject.identified_whole (CustomObject.named_write _ rfl)⟩
  | cache t ready created =>
    exact ⟨rfl, PlannedObject.identified_whole (CustomObject.named_write _ rfl)⟩

theorem kinds_planned {σ τ : Type} [Wire σ] [Wire τ] (kind : ResourceKind)
    (x : Option (CustomObject σ τ)) :
    ((x.map (CustomObject.planned kind)).toList.map (·.kind)).Sublist [kind] := by
  cases x with
  | none => exact List.nil_sublist _
  | some object => exact List.Sublist.refl _

theorem kinds_singleton {d : PlannedObject} {kind : ResourceKind} (h : d.kind = kind) :
    ([d].map (·.kind)).Sublist [kind] := by
  subst h
  exact List.Sublist.refl [d.kind]

theorem kinds_of_map_eq_ok {x : Except Fault PlannedObject} {kind : ResourceKind}
    (hx : x.map ([·]) = .ok l) (h : ∀ d ∈ l, d.kind = kind) :
    (l.map (·.kind)).Sublist [kind] := by
  obtain ⟨d, -, rfl⟩ := exists_of_map_eq_ok hx
  exact kinds_singleton (h d (List.mem_singleton_self _))

theorem kinds_plannedVolume (h : o.plannedVolume service = .ok l) :
    (l.map (·.kind)).Sublist [.volumeClaim] := by
  have hkinds := kind_of_mem_plannedVolume h
  unfold plannedVolume at h
  split at h
  · cases h
    exact List.nil_sublist _
  · exact kinds_of_map_eq_ok h hkinds

theorem kinds_plannedRoute (h : o.plannedRoute service = .ok l) :
    (l.map (·.kind)).Sublist [.httpRoute] := by
  have hkinds := kind_of_mem_plannedRoute h
  unfold plannedRoute at h
  split at h
  · cases h
    exact List.nil_sublist _
  · exact kinds_of_map_eq_ok h hkinds

theorem RuntimeEntries.kinds (h : o.RuntimeEntries l) :
    (l.map (·.kind)).Sublist [.inferenceService] := by
  cases h with
  | whole d parts kind mode => exact kinds_singleton kind
  | patch d parts present kind mode => exact kinds_singleton kind
  | none parts absent => exact List.nil_sublist _

/-- The kinds of a plan stand in the order in which their parts are planned, each once at most. -/
theorem kinds_of_plan {plan : Plan} (h : o.plan service policy = .ok plan) :
    (plan.objects.map (·.kind)).Sublist
      [.model, .template, .templateCache, .volumeClaim, .inferenceService, .httpRoute] := by
  by_cases he : o.config.error = none
  · obtain ⟨volume, runtime, route, hvolume, hruntime, hroute, rfl⟩ := plan_eq_ok he h
    have hruntimes := (runtimeEntries_of_plannedRuntime hruntime).kinds
    have hshared := ((kinds_planned .model o.model.toCreate).append
      (kinds_planned .template o.template.toCreate?)).append
        (kinds_planned .templateCache (o.cacheToCreate? service))
    have howned := ((kinds_plannedVolume hvolume).append hruntimes).append
      (kinds_plannedRoute hroute)
    simpa [Plan.objects, sharedObjects] using hshared.append howned
  · rw [plan_of_config_error he] at h
    cases h
    exact List.nil_sublist _

end Observation

end InferenceReconciler
