import InferenceReconciler.ClusterRequest
import InferenceReconciler.Proofs.BlockedProjection
import InferenceReconciler.Proofs.PatchedRecords
import InferenceReconciler.Proofs.StatusSettles

/-!
# Statuses written back

A status is sent as a merge patch over the stored one. What is read afterwards is the status
that was sent, except that a reference keeps the namespace and the identifier of the one
before where it has none of its own: everything else that was set in a status is set in the
next one too.
-/

namespace InferenceReconciler

theorem patchedTo_string : Wire.PatchedTo fun (new : String) _ => new :=
  Wire.patchedTo_new (by simp [Wire.write])

theorem patchedTo_uint32 : Wire.PatchedTo fun (new : UInt32) _ => new :=
  Wire.patchedTo_new (by simp [Wire.write, Json.mergePatch])

theorem patchedTo_int64 : Wire.PatchedTo fun (new : Int64) _ => new :=
  Wire.patchedTo_new (by simp [Wire.write, Json.mergePatch])

theorem patchedTo_scope : Wire.PatchedTo fun (new : ResourceScope) _ => new :=
  Wire.patchedTo_new (by simp [Wire.write])

theorem patchedTo_phase : Wire.PatchedTo fun (new : ServicePhase) _ => new :=
  Wire.patchedTo_new (by simp [Wire.write])

namespace ResolvedReference

theorem isOrdered (r : ResolvedReference) : (Wire.write r).IsOrdered :=
  Json.isOrdered_record ["name", "namespace", "scope", "uid"] (by decide) (by simp)

/-- A reference put onto a stored one: a namespace or an identifier that is not given stays. -/
def onto (new : ResolvedReference) (old : Option ResolvedReference) : ResolvedReference :=
  { new with
    «namespace» := new.namespace <|> old.bind (·.namespace)
    uid := new.uid <|> old.bind (·.uid) }

theorem patchedTo_onto : Wire.PatchedTo onto := by
  intro new old
  obtain ⟨m, hm, h⟩ := Members.exists_patchedBy new.isOrdered old
  rw [hm]
  exact read?_obj
    (h.required_eq patchedTo_string (·.name) (by simp [Wire.write]))
    (h.optional_new_eq patchedTo_string (·.namespace) (by simp [Wire.write]))
    (h.required_eq patchedTo_scope (·.scope) (by simp [Wire.write]))
    (h.optional_new_eq patchedTo_string (·.uid) (by simp [Wire.write]))

end ResolvedReference

namespace ServiceCacheStatus

theorem isOrdered (c : ServiceCacheStatus) : (Wire.write c).IsOrdered :=
  Json.isOrdered_record ["retryAttempts", "templateCacheRef"] (by decide) (by simp)

def onto (new : ServiceCacheStatus) (old : Option ServiceCacheStatus) : ServiceCacheStatus :=
  { new with
    templateCacheRef :=
      Wire.patchOption .onto new.templateCacheRef (old.bind (·.templateCacheRef)) }

theorem patchedTo_onto : Wire.PatchedTo onto := by
  intro new old
  obtain ⟨m, hm, h⟩ := Members.exists_patchedBy new.isOrdered old
  rw [hm]
  exact read?_obj
    (h.optional_eq ResolvedReference.patchedTo_onto (·.templateCacheRef)
      (by simp [Wire.write]))
    (h.orElse_eq patchedTo_uint32 (·.retryAttempts) (by simp [Wire.write]))

end ServiceCacheStatus

namespace ServiceRoutingStatus

theorem isOrdered (r : ServiceRoutingStatus) : (Wire.write r).IsOrdered :=
  Json.isOrdered_record ["path"] (by decide) (by simp)

def onto (new : ServiceRoutingStatus) (old : Option ServiceRoutingStatus) :
    ServiceRoutingStatus :=
  ⟨new.path <|> old.bind (·.path)⟩

theorem patchedTo_onto : Wire.PatchedTo onto := by
  intro new old
  obtain ⟨m, hm, h⟩ := Members.exists_patchedBy new.isOrdered old
  rw [hm]
  exact read?_obj
    (h.optional_new_eq patchedTo_string (·.path) (by simp [Wire.write]))

end ServiceRoutingStatus

namespace ServiceStatus

theorem isOrdered (s : ServiceStatus) : (Wire.write s).IsOrdered :=
  Json.isOrdered_record
    ["cache", "conditions", "observedGeneration", "resolvedModel", "resolvedRuntimeConfig",
      "resolvedTemplate", "routing", "status"]
    (by decide) (by simp)

/-- A status put onto a stored one: nothing is taken away by not being given. -/
def onto (new : ServiceStatus) (old : Option ServiceStatus) : ServiceStatus where
  status := new.status
  conditions :=
    if new.conditions = [] then (old.map (·.conditions)).getD [] else new.conditions
  resolvedRuntimeConfig :=
    Wire.patchOption .onto new.resolvedRuntimeConfig (old.bind (·.resolvedRuntimeConfig))
  resolvedModel := Wire.patchOption .onto new.resolvedModel (old.bind (·.resolvedModel))
  resolvedTemplate :=
    Wire.patchOption .onto new.resolvedTemplate (old.bind (·.resolvedTemplate))
  cache := Wire.patchOption .onto new.cache (old.bind (·.cache))
  routing := Wire.patchOption .onto new.routing (old.bind (·.routing))
  observedGeneration := new.observedGeneration <|> old.bind (·.observedGeneration)

theorem patchedTo_onto : Wire.PatchedTo onto := by
  intro new old
  obtain ⟨m, hm, h⟩ := Members.exists_patchedBy new.isOrdered old
  have href := ResolvedReference.patchedTo_onto
  rw [hm]
  exact read?_obj
    (h.orElse_eq patchedTo_phase (·.status) (by simp [Wire.write]))
    (h.orElse_list_eq (·.conditions) (by simp [Wire.write]))
    (h.optional_eq href (·.resolvedRuntimeConfig) (by simp [Wire.write]))
    (h.optional_eq href (·.resolvedModel) (by simp [Wire.write]))
    (h.optional_eq href (·.resolvedTemplate) (by simp [Wire.write]))
    (h.optional_eq ServiceCacheStatus.patchedTo_onto (·.cache)
      (by simp [Wire.write]))
    (h.optional_eq ServiceRoutingStatus.patchedTo_onto (·.routing)
      (by simp [Wire.write]))
    (h.optional_new_eq patchedTo_int64 (·.observedGeneration)
      (by simp [Wire.write]))

end ServiceStatus

namespace CustomObject

variable {σ τ : Type} [Wire σ] [Wire τ]

theorem read?_obj_eq_some_iff {m : Members} {o : CustomObject σ τ} :
    CustomObject.read? (.obj m) = some o ↔
      m.required "metadata" = some o.metadata ∧ m.required "spec" = some o.spec ∧
        m.optional "status" = some o.status := by
  simp only [CustomObject.read?, Json.fields?, Option.bind_eq_bind, Option.bind_some,
    Option.bind_eq_some_iff]
  constructor
  · rintro ⟨metadata, hmetadata, spec, hspec, status, hstatus, ho⟩
    cases ho
    exact ⟨hmetadata, hspec, hstatus⟩
  · rintro ⟨hmetadata, hspec, hstatus⟩
    exact ⟨_, hmetadata, _, hspec, _, hstatus, rfl⟩

end CustomObject

/-- A service whose status is patched reads as one with the new status on top of the old one. -/
theorem read?_statusPatch {stored : Members} {service : ServiceObject}
    (hread : CustomObject.read? (.obj stored) = some service)
    (hstatus : stored.lookup "status" = service.status.map Wire.write) (s : ServiceStatus) :
    CustomObject.read? ((Json.obj stored).mergePatch (Request.statusPatch s)) =
      some (service.withStatus (s.onto service.status)) := by
  obtain ⟨hmetadata, hspec, -⟩ := CustomObject.read?_obj_eq_some_iff.1 hread
  obtain ⟨m, hm, hlookup⟩ := Json.exists_mergePatch_obj (.obj stored)
    (show (List.map Prod.fst [("status", Wire.write s)]).Nodup by simp)
  have hmetadata' : m.lookup "metadata" = stored.lookup "metadata" := hlookup "metadata"
  have hspec' : m.lookup "spec" = stored.lookup "spec" := hlookup "spec"
  have hstatus' : m.lookup "status" =
      Json.patchedMember (service.status.map Wire.write) ((some s).map Wire.write) := by
    rw [hlookup, Json.member?_obj, hstatus]
    rfl
  unfold Request.statusPatch
  rw [hm]
  refine CustomObject.read?_obj_eq_some_iff.2 ⟨?_, ?_, ?_⟩
  · unfold Members.required
    rw [hmetadata']
    exact hmetadata
  · unfold Members.required
    rw [hspec']
    exact hspec
  · exact Members.optional_of_patched ServiceStatus.patchedTo_onto hstatus'

theorem orElse_eq_left_iff {α : Type} {a b : Option α} :
    (a <|> b) = a ↔ (b.isSome = true → a.isSome = true) := by
  cases a <;> cases b <;> simp

/-- A reference gives whatever an older one gives. -/
def ResolvedReference.Covers (new old : Option ResolvedReference) : Prop :=
  ∀ r ∈ new, ∀ o ∈ old,
    (o.namespace.isSome = true → r.namespace.isSome = true) ∧
      (o.uid.isSome = true → r.uid.isSome = true)

/-- Over one that is kept, a reference is read as it was sent if and only if it covers the old
one. -/
theorem ResolvedReference.patchOption_onto_eq_self_iff {new old : Option ResolvedReference}
    (h : old.isSome = true → new.isSome = true) :
    Wire.patchOption onto new old = new ↔ Covers new old := by
  cases new with
  | none =>
    cases old with
    | none => simp [Wire.patchOption, Covers]
    | some o => exact absurd (h rfl) (by decide)
  | some r =>
    cases old with
    | none => simp [Wire.patchOption, Covers, onto]
    | some o =>
      have honto : onto r (some o) = r ↔
          (r.namespace <|> o.namespace) = r.namespace ∧ (r.uid <|> o.uid) = r.uid := by
        obtain ⟨name, ofNamespace, scope, uid⟩ := r
        simp [onto]
      simp only [Wire.patchOption, Option.some.injEq, honto, orElse_eq_left_iff, Covers,
        Option.mem_def, forall_eq']

theorem ServiceCacheStatus.patchOption_onto_eq_self_iff {new old : Option ServiceCacheStatus}
    (h : old.isSome = true → new.isSome = true)
    (href : (old.bind (·.templateCacheRef)).isSome = true →
      (new.bind (·.templateCacheRef)).isSome = true) :
    Wire.patchOption onto new old = new ↔
      ResolvedReference.Covers (new.bind (·.templateCacheRef))
        (old.bind (·.templateCacheRef)) := by
  rw [← ResolvedReference.patchOption_onto_eq_self_iff href]
  cases new with
  | none =>
    cases old with
    | none => simp [Wire.patchOption]
    | some o => exact absurd (h rfl) (by decide)
  | some c =>
    obtain ⟨ref, attempts⟩ := c
    simp [Wire.patchOption, onto]

theorem ServiceRoutingStatus.patchOption_onto_self (r : Option ServiceRoutingStatus) :
    Wire.patchOption onto r r = r := by
  cases r with
  | none => rfl
  | some r =>
    obtain ⟨path⟩ := r
    cases path <;> rfl

/-- A status gives whatever the references of an older one give. -/
structure ServiceStatus.Covers (new old : ServiceStatus) : Prop where
  resolvedRuntimeConfig :
    ResolvedReference.Covers new.resolvedRuntimeConfig old.resolvedRuntimeConfig
  resolvedModel : ResolvedReference.Covers new.resolvedModel old.resolvedModel
  resolvedTemplate : ResolvedReference.Covers new.resolvedTemplate old.resolvedTemplate
  templateCacheRef : ResolvedReference.Covers new.templateCacheRef? old.templateCacheRef?

theorem RouteObservation.path_of_update {o : RouteObservation} {r : ServiceRoutingStatus}
    (h : o.project.update.routing = some r) : r.path.isSome = true := by
  unfold project projectPath at h
  split at h
  · split at h
    · cases h
    · cases h
    · split at h
      · cases h
      · split at h
        · cases h
        · cases h
          rfl
  · cases h

theorem ConfigObservation.exists_report (o : ConfigObservation) :
    ∃ h, o.project.report = .health h := by
  unfold project
  split <;> exact ⟨_, rfl⟩

namespace PassInput

variable (i : PassInput) (s : ServiceStatus)

theorem conditions_next_ne_nil : (i.next s).conditions ≠ [] := by
  obtain ⟨health, hhealth⟩ := (i.observation s).config.exists_report
  have hreached : Component.config.Reached (i.blocker? s) :=
    (i.reached_blocker?_iff s .config).2 fun d hd => absurd hd (Nat.not_lt_zero _)
  obtain ⟨c, hc, -⟩ := (i.observation s).shows_of_reached i.now (i.service.withStatus s)
    hreached hhealth
  exact List.ne_nil_of_mem hc

/-- A path that was written is overwritten by a path only. -/
theorem routing_onto_next :
    Wire.patchOption .onto (i.next s).routing s.routing = (i.next s).routing := by
  rw [routing_next]
  split
  · cases hupdate : (i.observation s).route.project.update.routing with
    | none => exact ServiceRoutingStatus.patchOption_onto_self _
    | some r =>
      have hpath := RouteObservation.path_of_update hupdate
      have honto : r.onto s.routing = r :=
        congrArg ServiceRoutingStatus.mk (orElse_eq_left_iff.2 fun _ => hpath)
      exact congrArg some honto
  · exact ServiceRoutingStatus.patchOption_onto_self _

theorem onto_next_eq_self_iff :
    (i.next s).onto (some s) = i.next s ↔ (i.next s).Covers s := by
  have hkept := i.keptIn_next s
  have hcache : s.cache.isSome = true → (i.next s).cache.isSome = true := by
    intro h
    rw [cache_next]
    exact isSome_orElse_right h
  have hgeneration :
      ((i.next s).observedGeneration <|> s.observedGeneration) =
        (i.next s).observedGeneration := by
    rw [orElse_eq_left_iff, observedGeneration_next]
    exact isSome_orElse_right
  have hconfig := ResolvedReference.patchOption_onto_eq_self_iff hkept.resolvedRuntimeConfig
  have hmodel := ResolvedReference.patchOption_onto_eq_self_iff hkept.resolvedModel
  have htemplate := ResolvedReference.patchOption_onto_eq_self_iff hkept.resolvedTemplate
  have href := ServiceCacheStatus.patchOption_onto_eq_self_iff hcache hkept.templateCacheRef
  rw [ServiceStatus.ext_iff]
  simp only [ServiceStatus.onto, Option.bind_some, if_neg (i.conditions_next_ne_nil s),
    hgeneration, routing_onto_next, hconfig, hmodel, htemplate, href, true_and, and_true]
  exact ⟨fun ⟨h₁, h₂, h₃, h₄⟩ => ⟨h₁, h₂, h₃, h₄⟩,
    fun h => ⟨h.resolvedRuntimeConfig, h.resolvedModel, h.resolvedTemplate, h.templateCacheRef⟩⟩

end PassInput

/-- The status that a pass writes over a stored one is read back with the namespaces and
identifiers that its references do not give taken from the old ones, and so as it was sent if
and only if its references cover the old ones. -/
theorem written_status_read_back (i : PassInput) (s : ServiceStatus) {stored : Members}
    (hread : CustomObject.read? (.obj stored) = some (i.service.withStatus s))
    (hstatus : stored.lookup "status" = some (Wire.write s)) :
    let written := (Json.obj stored).mergePatch (Request.statusPatch (i.next s))
    CustomObject.read? written = some (i.service.withStatus ((i.next s).onto (some s))) ∧
    (CustomObject.read? written = some (i.service.withStatus (i.next s)) ↔
      (i.next s).Covers s) := by
  intro written
  have hwritten : CustomObject.read? written =
      some (i.service.withStatus ((i.next s).onto (some s))) :=
    read?_statusPatch hread hstatus (i.next s)
  refine ⟨hwritten, ?_⟩
  rw [hwritten, Option.some.injEq, ← i.onto_next_eq_self_iff s]
  exact ⟨fun h => Option.some.inj (congrArg CustomObject.status h), fun h => by rw [h]⟩

def llamaService : ServiceObject where
  metadata := { Metadata.empty with name := some "chat", «namespace» := some "default" }
  spec := { (default : ServiceSpec) with model := ⟨some "llama", none, none⟩ }
  status := none

def storedService (s : ServiceStatus) : Members :=
  [("metadata", Wire.write llamaService.metadata), ("spec", Wire.write llamaService.spec),
    ("status", Wire.write s)]

theorem lookup_storedService (s : ServiceStatus) :
    (storedService s).lookup "status" = some (Wire.write s) := rfl

theorem read?_storedService (s : ServiceStatus) :
    CustomObject.read? (.obj (storedService s)) = some (llamaService.withStatus s) := by
  have hmetadata : Wire.read? (Wire.write llamaService.metadata) =
      some llamaService.metadata := by decide +kernel
  have hspec : Wire.read? (Wire.write llamaService.spec) = some llamaService.spec := by
    decide +kernel
  exact CustomObject.read?_obj_eq_some_iff.2 ⟨hmetadata, hspec,
    Members.optional_of_lookup (lookup_storedService s)⟩

def clusterModelPass : PassInput where
  service := llamaService
  snapshot := { (default : Snapshot) with
    models := ⟨[], [⟨{ Metadata.empty with name := some "llama", uid := some "9d41" },
      .ofImage "llama:1", some ⟨.ready⟩⟩]⟩ }
  policy := .standard
  now := .epoch

theorem first_status_read_back :
    CustomObject.read? ((Json.obj (storedService .initial)).mergePatch
        (Request.statusPatch (clusterModelPass.next .initial))) =
      some (llamaService.withStatus (clusterModelPass.next .initial)) := by
  obtain ⟨-, hiff⟩ := written_status_read_back clusterModelPass .initial
    (read?_storedService .initial) (lookup_storedService .initial)
  refine hiff.2 ⟨?_, ?_, ?_, ?_⟩ <;>
  · intro r _ o ho
    cases ho

def namespacedModelStatus : ServiceStatus :=
  { ServiceStatus.initial with
    resolvedModel := some ⟨"llama", some "default", .namespaced, some "5c2e"⟩ }

/-- A reference to a model of the cluster that is written over one to a model of the namespace
is read back with that namespace, and the next pass finds the status changed again. -/
theorem moved_model_keeps_namespace :
    let sent := clusterModelPass.next namespacedModelStatus
    ∃ stored, CustomObject.read? ((Json.obj (storedService namespacedModelStatus)).mergePatch
        (Request.statusPatch sent)) = some (llamaService.withStatus stored) ∧
      sent.resolvedModel = some ⟨"llama", none, .cluster, some "9d41"⟩ ∧
      stored.resolvedModel = some ⟨"llama", some "default", .cluster, some "9d41"⟩ ∧
      statusChanged (some stored) (clusterModelPass.next stored) = true := by
  intro sent
  refine ⟨sent.onto (some namespacedModelStatus), ?_, by decide +kernel, by decide +kernel,
    by decide +kernel⟩
  exact read?_statusPatch (read?_storedService _) (lookup_storedService _) sent

end InferenceReconciler
