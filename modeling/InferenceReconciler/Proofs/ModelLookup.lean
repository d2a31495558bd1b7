import Mathlib.Data.List.Find
import Mathlib.Data.List.Nodup
import InferenceReconciler.Proofs.NewSharedObjects

/-!
# Model lookup

Which record a service gets for its model. A name and an image are looked for in the namespace
first, and the cluster counts only where nothing of the namespace matches; of an image there has to
be one record in the scope that counts. A description is looked for by the name made of it, in the
namespace only. Where a scope holds a name once, none of this depends on the order of the records.
-/

namespace InferenceReconciler

/-- The scope that counts, where a record matches: that of the namespace, or that of the cluster
if no record of the namespace does. -/
structure FirstScope (fits : ModelRecord → Prop) (records : List ModelRecord)
    (scope : ResourceScope) : Prop where
  held : ∃ r ∈ records, r.scope = scope ∧ fits r
  unshadowed : scope = .cluster → ∀ r ∈ records, r.scope = .namespaced → ¬ fits r

namespace FirstScope

variable {fits : ModelRecord → Prop} {records : List ModelRecord} {scope scope' : ResourceScope}

theorem unique (h : FirstScope fits records scope) (h' : FirstScope fits records scope') :
    scope = scope' := by
  obtain ⟨r, hr, hscope, hfits⟩ := h.held
  obtain ⟨r', hr', hscope', hfits'⟩ := h'.held
  cases scope with
  | namespaced =>
    cases scope' with
    | namespaced => rfl
    | cluster => exact absurd hfits (h'.unshadowed rfl r hr hscope)
  | cluster =>
    cases scope' with
    | namespaced => exact absurd hfits' (h.unshadowed rfl r' hr' hscope')
    | cluster => rfl

theorem exists_of_fits {r : ModelRecord} (hr : r ∈ records) (hfits : fits r) :
    ∃ scope, FirstScope fits records scope := by
  by_cases hns : ∃ r ∈ records, r.scope = .namespaced ∧ fits r
  · exact ⟨.namespaced, hns, fun h => by cases h⟩
  · have hnone : ∀ r ∈ records, r.scope = .namespaced → ¬ fits r :=
      fun r' hr' hscope' hfits' => hns ⟨r', hr', hscope', hfits'⟩
    refine ⟨.cluster, ⟨r, hr, ?_, hfits⟩, fun _ => hnone⟩
    cases hscope : r.scope with
    | namespaced => exact absurd hfits (hnone r hr hscope)
    | cluster => rfl

end FirstScope

def ModelObservation.reason? (o : ModelObservation) : Option String := o.error.map (·.reason)

/-- What a name is resolved to. -/
structure NameLookup (name : String) (records : List ModelRecord) (o : ModelObservation) :
    Prop where
  resolved : ∀ r, o.resolved = some r →
    r ∈ records ∧ r.name = name ∧ FirstScope (·.name = name) records r.scope
  found : o.resolved.isSome = true ↔ ∃ r ∈ records, r.name = name
  missing : o.reason? = some Reason.modelNotFound ↔ ∀ r ∈ records, r.name ≠ name

section

variable {records : List ModelRecord} {scope : ResourceScope} {name : String} {r : ModelRecord}

theorem named_of_find?
    (h : (records.find? fun r => r.scope = scope && r.name = name) = some r) :
    r ∈ records ∧ r.scope = scope ∧ r.name = name := by
  have hfits := List.find?_some h
  simp only [Bool.and_eq_true, decide_eq_true_eq] at hfits
  exact ⟨List.mem_of_find?_eq_some h, hfits⟩

theorem find?_named_eq_none_iff :
    (records.find? fun r => r.scope = scope && r.name = name) = none ↔
      ∀ r ∈ records, r.scope = scope → r.name ≠ name := by
  simp [List.find?_eq_none]

theorem nameLookup_found (hr : r ∈ records) (hname : r.name = name)
    (hfirst : FirstScope (·.name = name) records r.scope) :
    NameLookup name records (.found r) where
  resolved := by
    rintro r' ⟨⟩
    exact ⟨hr, hname, hfirst⟩
  found := iff_of_true rfl ⟨r, hr, hname⟩
  missing := iff_of_false nofun fun h => h r hr hname

theorem nameLookup_resolveByName (name : String) (records : List ModelRecord) :
    NameLookup name records (resolveByName name records) := by
  unfold resolveByName
  dsimp only
  cases hns : records.find? fun r => r.scope = .namespaced && r.name = name with
  | some r =>
    obtain ⟨hr, hscope, hname⟩ := named_of_find? hns
    refine nameLookup_found hr hname ⟨⟨r, hr, rfl, hname⟩, fun h => ?_⟩
    cases hscope.symm.trans h
  | none =>
    have hshadow := find?_named_eq_none_iff.1 hns
    cases hcl : records.find? fun r => r.scope = .cluster && r.name = name with
    | some r =>
      obtain ⟨hr, -, hname⟩ := named_of_find? hcl
      exact nameLookup_found hr hname ⟨⟨r, hr, rfl, hname⟩, fun _ => hshadow⟩
    | none =>
      have hnone : ∀ r ∈ records, r.name ≠ name := by
        intro r hr
        cases hscope : r.scope with
        | namespaced => exact hshadow r hr hscope
        | cluster => exact find?_named_eq_none_iff.1 hcl r hr hscope
      exact {
        resolved := nofun
        found := iff_of_false nofun fun ⟨r, hr, hname⟩ => hnone r hr hname
        missing := iff_of_true rfl hnone }

end

/-- What an image is resolved to. A planned record is for the image as it was asked for. -/
structure ImageLookup (image ofNamespace : String) (records : List ModelRecord)
    (o : ModelObservation) : Prop where
  resolved : ∀ r, o.resolved = some r ↔
    ∃ scope, FirstScope (trimBlanks ·.spec.image = image) records scope ∧
      recordsOfImage image scope records = [r]
  ambiguous : o.reason? = some Reason.multipleModelsFound ↔
    ∃ scope, FirstScope (trimBlanks ·.spec.image = image) records scope ∧
      2 ≤ (recordsOfImage image scope records).length
  planned : o.toCreate.isSome = true ↔
    (∀ r ∈ records, trimBlanks r.spec.image ≠ image) ∧
      ∃ parts, ImageReference.parse image = .ok parts
  made : ∀ object, o.toCreate = some object →
    object.spec = .ofImage image ∧ object.metadata.namespace = some ofNamespace
  unparsed : o.reason? = some Reason.invalidImageReference ↔
    (∀ r ∈ records, trimBlanks r.spec.image ≠ image) ∧
      ∃ fault, ImageReference.parse image = .error fault

section

variable {records : List ModelRecord} {scope : ResourceScope} {image : String} {r : ModelRecord}

theorem mem_recordsOfImage_iff :
    r ∈ recordsOfImage image scope records ↔
      r ∈ records ∧ r.scope = scope ∧ trimBlanks r.spec.image = image := by
  simp [recordsOfImage]

theorem resolveImageInScope_of_nil (h : recordsOfImage image scope records = []) :
    resolveImageInScope image scope records = none := by
  unfold resolveImageInScope
  rw [h]

theorem resolveImageInScope_of_one (h : recordsOfImage image scope records = [r]) :
    resolveImageInScope image scope records = some (.found r) := by
  unfold resolveImageInScope
  rw [h]

theorem resolveImageInScope_of_many (h : 2 ≤ (recordsOfImage image scope records).length) :
    ∃ message, resolveImageInScope image scope records =
      some (.failed (.provided Reason.multipleModelsFound message)) := by
  unfold resolveImageInScope
  split
  · rename_i hnil
    rw [hnil] at h
    exact absurd h (by decide)
  · rename_i r hone
    rw [hone] at h
    exact absurd h (by simp)
  · exact ⟨_, rfl⟩

/-- What an image is resolved to is settled in the scope that counts. -/
theorem resolveByImage_of_firstScope {ofNamespace : String} {o : ModelObservation}
    (hfirst : FirstScope (trimBlanks ·.spec.image = image) records scope)
    (h : resolveImageInScope image scope records = some o) :
    resolveByImage image ofNamespace records = o := by
  unfold resolveByImage
  cases scope with
  | namespaced =>
    rw [h]
    rfl
  | cluster =>
    have hnil : recordsOfImage image .namespaced records = [] :=
      List.eq_nil_iff_forall_not_mem.2 fun r hr => by
        obtain ⟨hmem, hscope, himage⟩ := mem_recordsOfImage_iff.1 hr
        exact hfirst.unshadowed rfl r hmem hscope himage
    rw [resolveImageInScope_of_nil hnil, h]
    rfl

theorem resolveByImage_of_unknown (ofNamespace : String)
    (h : ∀ r ∈ records, trimBlanks r.spec.image ≠ image) :
    resolveByImage image ofNamespace records =
      match autoModelName image with
      | .error p => .failed p
      | .ok name => .creating (modelForImage name ofNamespace image) := by
  have hnone : ∀ scope, resolveImageInScope image scope records = none := fun scope =>
    resolveImageInScope_of_nil <| List.eq_nil_iff_forall_not_mem.2 fun r hr =>
      h r (mem_recordsOfImage_iff.1 hr).1 (mem_recordsOfImage_iff.1 hr).2.2
  unfold resolveByImage
  rw [hnone, hnone]
  rfl

theorem parseImage_map_cases (image : String) (nameOf : ImageReference → String) :
    (∃ parts, ImageReference.parse image = .ok parts ∧
        (parseImage image).map nameOf = .ok (nameOf parts)) ∨
      ∃ fault message, ImageReference.parse image = .error fault ∧
        (parseImage image).map nameOf =
          .error (.validation Reason.invalidImageReference message) := by
  unfold parseImage
  cases ImageReference.parse image with
  | ok parts => exact .inl ⟨parts, rfl, rfl⟩
  | error fault => exact .inr ⟨fault, _, rfl, rfl⟩

theorem imageLookup_of_firstScope {ofNamespace : String}
    (hfirst : FirstScope (trimBlanks ·.spec.image = image) records scope) :
    ImageLookup image ofNamespace records (resolveByImage image ofNamespace records) := by
  obtain ⟨r, hr, hscope, himage⟩ := hfirst.held
  have hknown : ¬ ∀ r ∈ records, trimBlanks r.spec.image ≠ image := fun h => h r hr himage
  have hreasons : Reason.multipleModelsFound ≠ Reason.invalidImageReference := by decide
  -- only one scope counts, so what is asked of some such scope is asked of this one
  have hscoped : ∀ {p : ResourceScope → Prop},
      (∃ s, FirstScope (trimBlanks ·.spec.image = image) records s ∧ p s) ↔ p scope :=
    ⟨fun ⟨_, hs, hp⟩ => hfirst.unique hs ▸ hp, fun hp => ⟨scope, hfirst, hp⟩⟩
  have hmem : r ∈ recordsOfImage image scope records :=
    mem_recordsOfImage_iff.2 ⟨hr, hscope, himage⟩
  match hmatches : recordsOfImage image scope records with
  | [] =>
    rw [hmatches] at hmem
    cases hmem
  | [one] =>
    rw [resolveByImage_of_firstScope hfirst (resolveImageInScope_of_one hmatches)]
    exact {
      resolved := fun r => by
        rw [hscoped, hmatches]
        exact ⟨fun h => congrArg (· :: []) (Option.some.inj h), fun h => by cases h; rfl⟩
      ambiguous := by
        rw [hscoped, hmatches]
        exact iff_of_false nofun (by simp)
      planned := iff_of_false nofun fun h => hknown h.1
      made := fun _ h => by cases h
      unparsed := iff_of_false nofun fun h => hknown h.1 }
  | one :: two :: more =>
    have hmany : 2 ≤ (recordsOfImage image scope records).length := by simp [hmatches]
    obtain ⟨message, hfailed⟩ := resolveImageInScope_of_many hmany
    rw [resolveByImage_of_firstScope hfirst hfailed]
    exact {
      resolved := fun r => by
        rw [hscoped, hmatches]
        exact iff_of_false nofun nofun
      ambiguous := iff_of_true rfl (hscoped.2 hmany)
      planned := iff_of_false nofun fun h => hknown h.1
      made := fun _ h => by cases h
      unparsed := iff_of_false (fun h => hreasons (Option.some.inj h)) fun h => hknown h.1 }

theorem imageLookup_of_unknown {ofNamespace : String}
    (hunknown : ∀ r ∈ records, trimBlanks r.spec.image ≠ image) :
    ImageLookup image ofNamespace records (resolveByImage image ofNamespace records) := by
  have hscoped : ∀ {p : ResourceScope → Prop},
      ¬ ∃ s, FirstScope (trimBlanks ·.spec.image = image) records s ∧ p s := by
    rintro p ⟨s, hs, -⟩
    obtain ⟨r, hr, -, himage⟩ := hs.held
    exact hunknown r hr himage
  have hreasons : Reason.invalidImageReference ≠ Reason.multipleModelsFound := by decide
  rw [resolveByImage_of_unknown ofNamespace hunknown]
  unfold autoModelName
  obtain ⟨parts, hparse, hname⟩ | ⟨fault, message, hparse, hname⟩ := parseImage_map_cases image _
  · rw [hname]
    exact {
      resolved := fun r => iff_of_false nofun hscoped
      ambiguous := iff_of_false nofun hscoped
      planned := iff_of_true rfl ⟨hunknown, parts, hparse⟩
      made := by
        rintro object ⟨⟩
        exact ⟨rfl, rfl⟩
      unparsed := iff_of_false nofun fun ⟨_, _, hfault⟩ => by cases hparse.symm.trans hfault }
  · rw [hname]
    exact {
      resolved := fun r => iff_of_false nofun hscoped
      ambiguous := iff_of_false (fun h => hreasons (Option.some.inj h)) hscoped
      planned := iff_of_false nofun fun ⟨_, _, hparts⟩ => by cases hparse.symm.trans hparts
      made := fun _ h => by cases h
      unparsed := iff_of_true rfl ⟨hunknown, fault, hparse⟩ }

theorem imageLookup_resolveByImage (image ofNamespace : String) (records : List ModelRecord) :
    ImageLookup image ofNamespace records (resolveByImage image ofNamespace records) := by
  by_cases hknown : ∃ r ∈ records, trimBlanks r.spec.image = image
  · obtain ⟨r, hr, himage⟩ := hknown
    have hfirst : ∃ scope, FirstScope (trimBlanks ·.spec.image = image) records scope :=
      FirstScope.exists_of_fits hr himage
    obtain ⟨scope, hfirst⟩ := hfirst
    exact imageLookup_of_firstScope hfirst
  · exact imageLookup_of_unknown fun r hr himage => hknown ⟨r, hr, himage⟩

end

/-- What a description is resolved to. -/
structure DescriptionLookup (m : CustomModel) (ofNamespace : String) (records : List ModelRecord)
    (o : ModelObservation) : Prop where
  unsourced : o.reason? = some Reason.invalidSpec ↔ m.modelSources = []
  unparsed : o.reason? = some Reason.invalidImageReference ↔
    m.modelSources ≠ [] ∧ ∃ fault, ImageReference.parse m.baseImage = .error fault
  refused : o.error.isSome = true ↔
    m.modelSources = [] ∨ ∃ fault, ImageReference.parse m.baseImage = .error fault
  resolved : ∀ r, o.resolved = some r →
    r ∈ records ∧ r.scope = .namespaced ∧ customModelName m = .ok r.name
  found : o.resolved.isSome = true ↔
    m.modelSources ≠ [] ∧ ∃ r ∈ records, r.scope = .namespaced ∧ customModelName m = .ok r.name
  planned : ∀ object, o.toCreate = some object ↔
    m.modelSources ≠ [] ∧ ∃ name, customModelName m = .ok name ∧
      (∀ r ∈ records, r.scope = .namespaced → r.name ≠ name) ∧
      object = modelForDescription name ofNamespace m

section

variable {m : CustomModel} {ofNamespace : String} {records : List ModelRecord}

theorem descriptionLookup_unsourced (h : m.modelSources = []) (message : String) :
    DescriptionLookup m ofNamespace records
      (.failed (.validation Reason.invalidSpec message)) := by
  have hreasons : Reason.invalidSpec ≠ Reason.invalidImageReference := by decide
  exact {
    unsourced := iff_of_true rfl h
    unparsed := iff_of_false (fun hreason => hreasons (Option.some.inj hreason)) fun h' => h'.1 h
    refused := iff_of_true rfl (.inl h)
    resolved := fun _ hr => by cases hr
    found := iff_of_false nofun fun h' => h'.1 h
    planned := fun _ => iff_of_false nofun fun h' => h'.1 h }

theorem descriptionLookup_unparsed (hsources : m.modelSources ≠ []) {fault : Fault}
    (h : ImageReference.parse m.baseImage = .error fault) {message : String}
    (hname : customModelName m = .error (.validation Reason.invalidImageReference message)) :
    DescriptionLookup m ofNamespace records
      (.failed (.validation Reason.invalidImageReference message)) := by
  have hreasons : Reason.invalidImageReference ≠ Reason.invalidSpec := by decide
  exact {
    unsourced := iff_of_false (fun hreason => hreasons (Option.some.inj hreason)) hsources
    unparsed := iff_of_true rfl ⟨hsources, fault, h⟩
    refused := iff_of_true rfl (.inr ⟨fault, h⟩)
    resolved := fun _ hr => by cases hr
    found := iff_of_false nofun fun ⟨_, _, _, _, hother⟩ => by cases hname.symm.trans hother
    planned := fun _ => iff_of_false nofun fun ⟨_, _, hother, _⟩ => by
      cases hname.symm.trans hother }

theorem descriptionLookup_named (hsources : m.modelSources ≠ []) {parts : ImageReference}
    (h : ImageReference.parse m.baseImage = .ok parts) {name : String}
    (hname : customModelName m = .ok name) :
    DescriptionLookup m ofNamespace records
      (match records.find? fun r => r.scope = .namespaced && r.name = name with
        | some r => .found r
        | none => .creating (modelForDescription name ofNamespace m)) := by
  have hparsed : ¬ ∃ fault, ImageReference.parse m.baseImage = .error fault :=
    fun ⟨_, hfault⟩ => by cases h.symm.trans hfault
  have hother : ∀ {name'}, customModelName m = .ok name' → name' = name :=
    fun h' => Except.ok.inj (h'.symm.trans hname)
  have hrefused : ¬ (m.modelSources = [] ∨
      ∃ fault, ImageReference.parse m.baseImage = .error fault) :=
    fun h' => h'.elim hsources hparsed
  cases hfind : records.find? fun r => r.scope = .namespaced && r.name = name with
  | some r =>
    obtain ⟨hr, hscope, rfl⟩ := named_of_find? hfind
    exact {
      unsourced := iff_of_false nofun hsources
      unparsed := iff_of_false nofun fun h' => hparsed h'.2
      refused := iff_of_false nofun hrefused
      resolved := by
        rintro r' ⟨⟩
        exact ⟨hr, hscope, hname⟩
      found := iff_of_true rfl ⟨hsources, r, hr, hscope, hname⟩
      planned := fun _ => iff_of_false nofun fun ⟨_, _, hname', hfree, _⟩ =>
        hfree r hr hscope (hother hname').symm }
  | none =>
    have hfree := find?_named_eq_none_iff.1 hfind
    exact {
      unsourced := iff_of_false nofun hsources
      unparsed := iff_of_false nofun fun h' => hparsed h'.2
      refused := iff_of_false nofun hrefused
      resolved := fun _ hr => by cases hr
      found := iff_of_false nofun fun ⟨_, r, hr, hscope, hname'⟩ =>
        hfree r hr hscope (hother hname')
      planned := by
        intro object
        constructor
        · rintro ⟨⟩
          exact ⟨hsources, name, hname, hfree, rfl⟩
        · rintro ⟨-, name', hname', -, rfl⟩
          rw [hother hname']
          rfl }

theorem descriptionLookup_resolveCustom (m : CustomModel) (ofNamespace : String)
    (records : List ModelRecord) :
    DescriptionLookup m ofNamespace records (resolveCustom m ofNamespace records) := by
  unfold resolveCustom
  by_cases hsources : m.modelSources = []
  · rw [if_pos (by simpa using hsources)]
    exact descriptionLookup_unsourced hsources _
  · rw [if_neg (by simpa using hsources)]
    obtain ⟨parts, hparse, hname⟩ | ⟨fault, message, hparse, hname⟩ :=
      parseImage_map_cases m.baseImage fun parts => derivedName [parts.name, "custom"] m.hashed
    · change customModelName m = _ at hname
      rw [hname]
      exact descriptionLookup_named hsources hparse hname
    · change customModelName m = _ at hname
      rw [hname]
      exact descriptionLookup_unparsed hsources hparse hname

end

/-- The same choice. Only the text of a problem that lists the records of an image may differ. -/
inductive SameChoice : ModelObservation → ModelObservation → Prop where
  | refl (o : ModelObservation) : SameChoice o o
  | ambiguous (message message' : String) :
      SameChoice (.failed (.provided Reason.multipleModelsFound message))
        (.failed (.provided Reason.multipleModelsFound message'))

section

variable {records records' : List ModelRecord}

theorem find?_named_perm (hunique : (records.map fun r => (r.scope, r.name)).Nodup)
    (hperm : records.Perm records') (scope : ResourceScope) (name : String) :
    (records.find? fun r => r.scope = scope && r.name = name) =
      records'.find? fun r => r.scope = scope && r.name = name := by
  refine List.find?_eq_find?_of_perm hperm fun r hr r' hr' => ?_
  simp only [Set.mem_ofPred_eq, Bool.and_eq_true, decide_eq_true_eq] at hr hr'
  obtain ⟨hmem, hscope, hname⟩ := hr
  obtain ⟨hmem', hscope', hname'⟩ := hr'
  exact List.inj_on_of_nodup_map hunique hmem hmem'
    (Prod.ext (hscope.trans hscope'.symm) (hname.trans hname'.symm))

/-- What one scope makes of an image, from the records with the image in whatever order. -/
theorem resolveImageInScope_perm (hperm : records.Perm records') (image : String)
    (scope : ResourceScope) :
    Option.Rel SameChoice (resolveImageInScope image scope records)
      (resolveImageInScope image scope records') := by
  have hmatches : (recordsOfImage image scope records).Perm (recordsOfImage image scope records') :=
    hperm.filter _
  match h : recordsOfImage image scope records with
  | [] =>
    rw [h] at hmatches
    rw [resolveImageInScope_of_nil h, resolveImageInScope_of_nil hmatches.nil_eq.symm]
    exact .none
  | [r] =>
    rw [h] at hmatches
    rw [resolveImageInScope_of_one h, resolveImageInScope_of_one hmatches.symm.eq_singleton]
    exact .some (.refl _)
  | one :: two :: more =>
    have hmany : 2 ≤ (recordsOfImage image scope records).length := by simp [h]
    obtain ⟨message, hfailed⟩ := resolveImageInScope_of_many hmany
    obtain ⟨message', hfailed'⟩ := resolveImageInScope_of_many (hmatches.length_eq ▸ hmany)
    rw [hfailed, hfailed']
    exact .some (.ambiguous message message')

theorem resolveByImage_perm (hperm : records.Perm records') (image ofNamespace : String) :
    SameChoice (resolveByImage image ofNamespace records)
      (resolveByImage image ofNamespace records') := by
  have hns := resolveImageInScope_perm hperm image .namespaced
  have hcl := resolveImageInScope_perm hperm image .cluster
  unfold resolveByImage
  generalize resolveImageInScope image .namespaced records = ns at hns ⊢
  generalize resolveImageInScope image .namespaced records' = ns' at hns ⊢
  generalize resolveImageInScope image .cluster records = cl at hcl ⊢
  generalize resolveImageInScope image .cluster records' = cl' at hcl ⊢
  cases hns with
  | some hsame => exact hsame
  | none =>
    cases hcl with
    | some hsame => exact hsame
    | none => exact .refl _

theorem observeModel_perm (hunique : (records.map fun r => (r.scope, r.name)).Nodup)
    (hperm : records.Perm records') (service : ServiceObject) :
    SameChoice (observeModel service records) (observeModel service records') := by
  unfold observeModel
  dsimp only
  cases ModelSelector.ofSpec service.spec.model with
  | error p => exact .refl _
  | ok selector =>
    cases selector with
    | byName name =>
      have hfind := find?_named_perm hunique hperm
      simp only [resolveByName, hfind]
      exact .refl _
    | byImage image => exact resolveByImage_perm hperm image _
    | custom m =>
      have hfind := find?_named_perm hunique hperm
      simp only [resolveCustom, hfind]
      exact .refl _

end

/-- What a service gets for its model, by the one way in which it says which. -/
def ModelLookup (service : ServiceObject) (records : List ModelRecord) (o : ModelObservation) :
    Prop :=
  match trimmed? service.spec.model.ref, trimmed? service.spec.model.image,
    service.spec.model.custom with
  | some name, none, none => NameLookup name records o
  | none, some image, none => ImageLookup image service.home records o
  | none, none, some m => DescriptionLookup m service.home records o
  | _, _, _ => o.reason? = some Reason.invalidSpec

theorem modelLookup_observeModel (service : ServiceObject) (records : List ModelRecord) :
    ModelLookup service records (observeModel service records) := by
  unfold ModelLookup observeModel ModelSelector.ofSpec
  match trimmed? service.spec.model.ref, trimmed? service.spec.model.image,
    service.spec.model.custom with
  | some name, none, none => exact nameLookup_resolveByName name records
  | none, some image, none => exact imageLookup_resolveByImage image _ records
  | none, none, some m => exact descriptionLookup_resolveCustom m _ records
  | none, none, none => rfl
  | some _, some _, none => rfl
  | some _, none, some _ => rfl
  | none, some _, some _ => rfl
  | some _, some _, some _ => rfl

theorem ModelObservation.Decided.count_eq_one {o : ModelObservation} (h : o.Decided) :
    [o.resolved.isSome, o.toCreate.isSome, o.error.isSome].count true = 1 := by
  cases h <;> rfl

/-- The lookup of a model is exact, for records of any kind and number: a service gets the record
that it names, by the way it takes, or one is planned for it, or there is a problem, and only one of
these. If a scope holds a name once, the choice does not depend on the order of the records. -/
theorem model_lookup_exact (service : ServiceObject) (records : List ModelRecord) :
    ModelLookup service records (observeModel service records) ∧
      [(observeModel service records).resolved.isSome,
        (observeModel service records).toCreate.isSome,
        (observeModel service records).error.isSome].count true = 1 ∧
      ((records.map fun r => (r.scope, r.name)).Nodup → ∀ records', records.Perm records' →
        SameChoice (observeModel service records) (observeModel service records')) :=
  ⟨modelLookup_observeModel service records, (decided_observeModel service records).count_eq_one,
    fun hunique _ hperm => observeModel_perm hunique hperm service⟩

/-- A model of the namespace goes before one of the cluster, whichever comes first in the list and
whether it is asked for by its name or by its image. -/
theorem own_llama_before_shared :
    let own : ModelRecord :=
      ⟨"llama", some "default", .namespaced, none, .ofImage " llama:1 ", .ready⟩
    let shared : ModelRecord := .ofObject .cluster cachedModel
    (observeModel cachedService [shared, own]).resolved = some own ∧
      SameChoice (observeModel cachedService [shared, own])
        (observeModel cachedService [own, shared]) ∧
      (observeModel imageService [shared, own]).resolved = some own := by
  intro own shared
  obtain ⟨-, -, horder⟩ := model_lookup_exact cachedService [shared, own]
  obtain ⟨hlookup, -, -⟩ := model_lookup_exact imageService [shared, own]
  have himage : ImageLookup "llama:1" "default" [shared, own]
      (observeModel imageService [shared, own]) := hlookup
  have hfirst : FirstScope (trimBlanks ·.spec.image = "llama:1") [shared, own] .namespaced :=
    ⟨⟨own, by simp, rfl, by decide +kernel⟩, fun h => by cases h⟩
  exact ⟨by decide +kernel, horder (by decide) _ (.swap own shared []),
    (himage.resolved own).2 ⟨.namespaced, hfirst, by decide +kernel⟩⟩

end InferenceReconciler
