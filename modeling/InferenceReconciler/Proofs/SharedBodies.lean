import InferenceReconciler.Proofs.NameDigests
import InferenceReconciler.Proofs.NewSharedObjects
import InferenceReconciler.Proofs.ObjectRoundTrip

/-!
# Bodies of shared objects

Two services of one namespace may plan a shared object of the same name. A model and a derived
template hold nothing but what their names are made from, so the two bodies are the same, unless
the digest in the name fails to tell two images, descriptions or overrides apart, or a template
is derived from two bases. A cache also holds the storage class and the variables of the service
that plans it, and is the same exactly where these are. Only bodies that differ make the order
in which both plans are sent matter.
-/

namespace InferenceReconciler

namespace ModelSelector

def hashed : ModelSelector → List Json
  | byName _ => []
  | byImage image => [.str image]
  | custom m => m.hashed

def hashLength : ModelSelector → Nat
  | byName _ => 0
  | byImage _ => 4
  | custom _ => 8

end ModelSelector

theorem CustomModel.hashed_inj {m m' : CustomModel} (h : m.hashed = m'.hashed) :
    m.baseImage = m'.baseImage ∧ m.modelSources = m'.modelSources := by
  simp only [hashed, List.cons.injEq, Json.str.injEq, and_true] at h
  obtain ⟨himage, hsources, -⟩ := h
  exact ⟨himage, LawfulWire.write_inj hsources⟩

section

variable {a b : ServiceObject} {ra rb : List ModelRecord} {x y : ModelObject}

theorem ModelMissing.eq_or_collide (h : ModelMissing a ra x) (h' : ModelMissing b rb y)
    (hhome : a.home = b.home) (hname : x.displayName = y.displayName) :
    x = y ∨ ∃ s s', ModelSelector.ofSpec a.spec.model = .ok s ∧
      ModelSelector.ofSpec b.spec.model = .ok s' ∧
      DigestsCollide s.hashLength s.hashed s'.hashed := by
  cases h with
  | image image name selected named unknown =>
    have hdigest := endsInDigest_autoModelName named
    cases h' with
    | image image' name' selected' named' unknown' =>
      cases hname
      rcases hdigest.eq_or_collide (endsInDigest_autoModelName named') with heq | hcollide
      · cases heq
        exact Or.inl (by rw [hhome])
      · exact Or.inr ⟨_, _, selected, selected', hcollide⟩
    | description m name' selected' sourced named' unknown' =>
      -- The digest of an image has four digits, that of a description eight.
      cases hname
      have hlength := hdigest.length_eq (endsInDigest_customModelName named') (by decide)
        (by decide)
      cases hlength
  | description m name selected sourced named unknown =>
    have hdigest := endsInDigest_customModelName named
    cases h' with
    | image image' name' selected' named' unknown' =>
      cases hname
      have hlength := hdigest.length_eq (endsInDigest_autoModelName named') (by decide)
        (by decide)
      cases hlength
    | description m' name' selected' sourced named' unknown' =>
      cases hname
      rcases hdigest.eq_or_collide (endsInDigest_customModelName named') with heq | hcollide
      · obtain ⟨himage, hsources⟩ := CustomModel.hashed_inj heq
        refine Or.inl ?_
        unfold modelForDescription
        rw [hhome, himage, hsources]
      · exact Or.inr ⟨_, _, selected, selected', hcollide⟩

end

theorem isEmpty_of_effectiveOverrides {s : ServiceSpec} {o : TemplateOverrides}
    (h : s.effectiveOverrides = some o) : o.isEmpty = false := by
  have hfilter := (Option.filter_eq_some_iff.1 h).2
  simpa using hfilter

theorem overrides_eq_or_collide {o o' : TemplateOverrides} {base base' : String}
    (ho : o.isEmpty = false) (ho' : o'.isEmpty = false)
    (h : derivedTemplateName base (some o) = derivedTemplateName base' (some o')) :
    o = o' ∨ DigestsCollide 8 [Wire.write o] [Wire.write o'] := by
  have hdigest := endsInDigest_derivedTemplateName ho base
  rw [h] at hdigest
  rcases hdigest.eq_or_collide (endsInDigest_derivedTemplateName ho' base') with heq | hcollide
  · exact Or.inl (LawfulWire.write_inj (List.cons.inj heq).1)
  · exact Or.inr hcollide

def downloadEnv (service : ServiceObject) (t : TemplateRecord) : List EnvVar :=
  mergeEnv [(t.spec.caching.map (·.env)).getD [], service.spec.env]

/-- Caches of one name differ in the scope of the template, the storage class and the variables,
and in nothing else. -/
theorem body_templateCacheFor_eq_iff {a b : ServiceObject} {t u : TemplateRecord}
    {ca cb : EffectiveConfig} (hhome : a.metadata.namespace = b.metadata.namespace)
    (hname : t.name = u.name) :
    ((templateCacheFor a t ca).planned .templateCache).body =
        ((templateCacheFor b u cb).planned .templateCache).body ↔
      t.scope = u.scope ∧ ca.storageClass? = cb.storageClass? ∧
        downloadEnv a t = downloadEnv b u := by
  constructor
  · intro h
    have hmember := congrArg (fun j : Json => j.member? "spec") h
    simp only [CustomObject.member?_body_planned, Option.some.injEq] at hmember
    have hspec := LawfulWire.write_inj hmember
    exact ⟨congrArg (·.templateScope) hspec, congrArg (·.storageClassName) hspec,
      congrArg (·.env) hspec⟩
  · rintro ⟨hscope, hclass, henv⟩
    have hcache : templateCacheFor a t ca = templateCacheFor b u cb := by
      unfold downloadEnv at henv
      unfold templateCacheFor
      rw [hhome, hname, hscope, hclass, henv]
    rw [hcache]

/-- What is stored after an object was sent: the object under its kind and name. -/
def PlannedObject.stored (d : PlannedObject) (held : ResourceKind → String → Option Json) :
    ResourceKind → String → Option Json :=
  fun kind name => if d.kind = kind ∧ d.name = name then some d.body else held kind name

/-- What is stored after the shared objects of a plan were sent, one after the other. -/
def Plan.sharedStored (p : Plan) (held : ResourceKind → String → Option Json) :
    ResourceKind → String → Option Json :=
  p.shared.foldl (fun held d => d.stored held) held

theorem PlannedObject.stored_stored (d : PlannedObject)
    (held : ResourceKind → String → Option Json) : d.stored (d.stored held) = d.stored held := by
  funext kind name
  unfold stored
  split <;> rfl

theorem PlannedObject.stored_comm_iff {d e : PlannedObject} :
    (∀ held, d.stored (e.stored held) = e.stored (d.stored held)) ↔
      (d.kind = e.kind → d.name = e.name → d.body = e.body) := by
  constructor
  · intro h hkind hname
    have hstored := congrFun (congrFun (h fun _ _ => none) e.kind) e.name
    simpa [stored, hkind, hname] using hstored
  · intro h held
    funext kind name
    unfold stored
    by_cases hd : d.kind = kind ∧ d.name = name
    · by_cases he : e.kind = kind ∧ e.name = name
      · rw [if_pos hd, if_pos he, h (hd.1.trans he.1.symm) (hd.2.trans he.2.symm)]
      · rw [if_pos hd, if_neg he, if_pos hd]
    · rw [if_neg hd, if_neg hd]

theorem foldl_stored_of_eq {d : PlannedObject} (held : ResourceKind → String → Option Json) :
    ∀ {l : List PlannedObject}, l ≠ [] → (∀ e ∈ l, e = d) →
      l.foldl (fun held d => d.stored held) held = d.stored held
  | [], hne, _ => absurd rfl hne
  | [e], _, h => by
    rw [h e List.mem_cons_self]
    rfl
  | e :: f :: rest, _, h => by
    have hrest : ∀ e' ∈ f :: rest, e' = d := fun e' he' => h e' (List.mem_cons_of_mem _ he')
    rw [List.foldl_cons, foldl_stored_of_eq _ (List.cons_ne_nil f rest) hrest,
      h e List.mem_cons_self, PlannedObject.stored_stored]

/-- Plans of one shared object each may be sent in either order if and only if they agree on the
body under a common kind and name. -/
theorem sharedStored_comm_iff {p q : Plan} (hp : ∀ d ∈ p.shared, ∀ d' ∈ p.shared, d = d')
    (hq : ∀ e ∈ q.shared, ∀ e' ∈ q.shared, e = e') :
    (∀ held, p.sharedStored (q.sharedStored held) = q.sharedStored (p.sharedStored held)) ↔
      ∀ d ∈ p.shared, ∀ e ∈ q.shared, d.kind = e.kind → d.name = e.name → d.body = e.body := by
  by_cases hpnil : p.shared = []
  · simp [Plan.sharedStored, hpnil]
  by_cases hqnil : q.shared = []
  · simp [Plan.sharedStored, hqnil]
  obtain ⟨d, hd⟩ := List.exists_mem_of_ne_nil _ hpnil
  obtain ⟨e, he⟩ := List.exists_mem_of_ne_nil _ hqnil
  have hpstored : ∀ held, p.sharedStored held = d.stored held := fun held =>
    foldl_stored_of_eq held hpnil fun d' hd' => hp d' hd' d hd
  have hqstored : ∀ held, q.sharedStored held = e.stored held := fun held =>
    foldl_stored_of_eq held hqnil fun e' he' => hq e' he' e he
  simp only [hpstored, hqstored]
  rw [PlannedObject.stored_comm_iff]
  constructor
  · intro h d' hd' e' he'
    rw [hp d' hd' d hd, hq e' he' e he]
    exact h
  · intro h
    exact h d hd e he

/-- Two different images or descriptions have one digest. -/
def NewModelsCollide (a b : ServiceObject) : Prop :=
  ∃ s s', ModelSelector.ofSpec a.spec.model = .ok s ∧ ModelSelector.ofSpec b.spec.model = .ok s' ∧
    DigestsCollide s.hashLength s.hashed s'.hashed

/-- Two different overrides have one digest. -/
def OverridesCollide (a b : ServiceObject) : Prop :=
  ∃ o o', a.spec.effectiveOverrides = some o ∧ b.spec.effectiveOverrides = some o' ∧
    DigestsCollide 8 [Wire.write o] [Wire.write o']

section

variable {a b : ServiceObject} {snapshot : Snapshot} {policy : Policy} {d e : PlannedObject}

theorem body_eq_of_model (hhome : a.home = b.home)
    (hd : (observe a snapshot policy).SharedEntry a d)
    (he : (observe b snapshot policy).SharedEntry b e) (hkind : d.kind = e.kind)
    (hname : d.name = e.name) (hmodel : d.kind = .model) :
    d.body = e.body ∨ NewModelsCollide a b := by
  cases hd with
  | template => cases hmodel
  | cache => cases hmodel
  | model x created =>
    cases he with
    | template => cases hkind
    | cache => cases hkind
    | model y created' =>
      have hx : ModelMissing a snapshot.models.records x := .of_toCreate created
      have hy : ModelMissing b snapshot.models.records y := .of_toCreate created'
      rcases hx.eq_or_collide hy hhome hname with rfl | hcollide
      · exact Or.inl rfl
      · exact Or.inr hcollide

theorem body_eq_of_template (hhome : a.home = b.home)
    (hd : (observe a snapshot policy).SharedEntry a d)
    (he : (observe b snapshot policy).SharedEntry b e) (hkind : d.kind = e.kind)
    (hname : d.name = e.name) (htemplate : d.kind = .template) :
    d.body = e.body ∨ OverridesCollide a b ∨
      ∃ base ∈ snapshot.templates.records, ∃ base' ∈ snapshot.templates.records, base ≠ base' ∧
        ∃ o, d = (derivedTemplate base o a.home).planned .template ∧
          e = (derivedTemplate base' o b.home).planned .template := by
  cases hd with
  | model => cases htemplate
  | cache => cases htemplate
  | template x created =>
    cases he with
    | model => cases hkind
    | cache => cases hkind
    | template y created' =>
      obtain ⟨base, hbase, o, hderives, rfl⟩ := derives_of_toCreate? created
      obtain ⟨base', hbase', o', hderives', rfl⟩ := derives_of_toCreate? created'
      have ho := isEmpty_of_effectiveOverrides hderives.overrides
      have ho' := isEmpty_of_effectiveOverrides hderives'.overrides
      rcases overrides_eq_or_collide ho ho' hname with rfl | hcollide
      · by_cases hsame : base = base'
        · exact Or.inl (by rw [hsame, hhome])
        · exact Or.inr (Or.inr ⟨base, hbase, base', hbase', hsame, o, rfl, rfl⟩)
      · exact Or.inr (Or.inl ⟨o, o', hderives.overrides, hderives'.overrides, hcollide⟩)

theorem body_eq_iff_of_cache (hnamespace : a.metadata.namespace = b.metadata.namespace)
    (hd : (observe a snapshot policy).SharedEntry a d)
    (he : (observe b snapshot policy).SharedEntry b e) (hkind : d.kind = e.kind)
    (hname : d.name = e.name) (hcache : d.kind = .templateCache) :
    ∃ t u, (observe a snapshot policy).template.ready? = some t ∧
      (observe b snapshot policy).template.ready? = some u ∧
      (d.body = e.body ↔ t.scope = u.scope ∧
        (observe a snapshot policy).config.effective.storageClass? =
          (observe b snapshot policy).config.effective.storageClass? ∧
        downloadEnv a t = downloadEnv b u) := by
  cases hd with
  | model => cases hcache
  | template => cases hcache
  | cache t ready created =>
    cases he with
    | model => cases hkind
    | template => cases hkind
    | cache u ready' created' =>
      exact ⟨t, u, ready, ready', body_templateCacheFor_eq_iff hnamespace hname⟩

/-- What two services of a namespace plan under one kind and name is the same, apart from digests
that collide, from templates derived from different bases, and from caches whose storage class
or variables differ. The order in which both plans are sent matters only where they differ. -/
theorem shared_bodies_of_one_name {p q : Plan}
    (hnamespace : a.metadata.namespace = b.metadata.namespace)
    (hp : (observe a snapshot policy).plan a policy = .ok p)
    (hq : (observe b snapshot policy).plan b policy = .ok q) :
    (∀ d ∈ p.shared, ∀ e ∈ q.shared, d.kind = e.kind → d.name = e.name →
      (d.kind = .model → d.body = e.body ∨ NewModelsCollide a b) ∧
      (d.kind = .template → d.body = e.body ∨ OverridesCollide a b ∨
        ∃ base ∈ snapshot.templates.records, ∃ base' ∈ snapshot.templates.records,
          base ≠ base' ∧ ∃ o, d = (derivedTemplate base o a.home).planned .template ∧
            e = (derivedTemplate base' o b.home).planned .template) ∧
      (d.kind = .templateCache → ∃ t u, (observe a snapshot policy).template.ready? = some t ∧
        (observe b snapshot policy).template.ready? = some u ∧
        (d.body = e.body ↔ t.scope = u.scope ∧
          (observe a snapshot policy).config.effective.storageClass? =
            (observe b snapshot policy).config.effective.storageClass? ∧
          downloadEnv a t = downloadEnv b u))) ∧
    ((∀ held, p.sharedStored (q.sharedStored held) = q.sharedStored (p.sharedStored held)) ↔
      ∀ d ∈ p.shared, ∀ e ∈ q.shared, d.kind = e.kind → d.name = e.name →
        d.body = e.body) := by
  have hhome : a.home = b.home := congrArg (·.getD "") hnamespace
  constructor
  · intro d hd e he hkind hname
    have hentry := Observation.sharedEntry_of_plan hp hd
    have hentry' := Observation.sharedEntry_of_plan hq he
    exact ⟨body_eq_of_model hhome hentry hentry' hkind hname,
      body_eq_of_template hhome hentry hentry' hkind hname,
      body_eq_iff_of_cache hnamespace hentry hentry' hkind hname⟩
  · apply sharedStored_comm_iff
    · intro d hd d' hd'
      exact sharedEntry_unique (Observation.sharedEntry_of_plan hp hd)
        (Observation.sharedEntry_of_plan hp hd')
    · intro e he e' he'
      exact sharedEntry_unique (Observation.sharedEntry_of_plan hq he)
        (Observation.sharedEntry_of_plan hq he')

end

def uncachedSnapshot : Snapshot := { misnamedCacheSnapshot with caches := default }

def otherService (env : List EnvVar) : ServiceObject where
  metadata := { Metadata.empty with
    name := some "talk"
    «namespace» := some "default"
    uid := some "8a1d" }
  spec := { cachedService.spec with env := env }
  status := none

theorem cache_planned_alike :
    ∃ p q, (observe cachedService uncachedSnapshot Policy.standard).plan cachedService
        Policy.standard = .ok p ∧
      (observe (otherService []) uncachedSnapshot Policy.standard).plan (otherService [])
        Policy.standard = .ok q ∧
      ∃ d ∈ p.shared, ∃ e ∈ q.shared, d.kind = e.kind ∧ d.name = e.name ∧ d.body = e.body := by
  have ht : (observe cachedService uncachedSnapshot Policy.standard).template.ready? =
      some (.ofObject .cluster cachingTemplate) := by decide +kernel
  have hu : (observe (otherService []) uncachedSnapshot Policy.standard).template.ready? =
      some (.ofObject .cluster cachingTemplate) := by decide +kernel
  obtain ⟨p, hp, hd⟩ := exists_planned_cache (by decide +kernel) (by decide +kernel) ht
    (by decide +kernel)
  obtain ⟨q, hq, he⟩ := exists_planned_cache (by decide +kernel) (by decide +kernel) hu
    (by decide +kernel)
  have hnamespace : cachedService.metadata.namespace = (otherService []).metadata.namespace := rfl
  obtain ⟨-, -, hcache⟩ := (shared_bodies_of_one_name hnamespace hp hq).1 _ hd _ he rfl rfl
  obtain ⟨t, u, ht', hu', hbody⟩ := hcache rfl
  cases ht'.symm.trans ht
  cases hu'.symm.trans hu
  have henv : downloadEnv cachedService (.ofObject .cluster cachingTemplate) =
      downloadEnv (otherService []) (.ofObject .cluster cachingTemplate) := by decide +kernel
  exact ⟨p, q, hp, hq, _, hd, _, he, rfl, rfl, hbody.2 ⟨rfl, rfl, henv⟩⟩

/-- A variable of the other service makes it plan another cache of the same name. -/
theorem cache_planned_differently :
    ∃ p q, (observe cachedService uncachedSnapshot Policy.standard).plan cachedService
        Policy.standard = .ok p ∧
      (observe (otherService [⟨"HF_HOME", "/data"⟩]) uncachedSnapshot Policy.standard).plan
        (otherService [⟨"HF_HOME", "/data"⟩]) Policy.standard = .ok q ∧
      ∃ d ∈ p.shared, ∃ e ∈ q.shared, d.kind = e.kind ∧ d.name = e.name ∧ d.body ≠ e.body := by
  have ht : (observe cachedService uncachedSnapshot Policy.standard).template.ready? =
      some (.ofObject .cluster cachingTemplate) := by decide +kernel
  have hu : (observe (otherService [⟨"HF_HOME", "/data"⟩]) uncachedSnapshot
      Policy.standard).template.ready? = some (.ofObject .cluster cachingTemplate) := by
    decide +kernel
  obtain ⟨p, hp, hd⟩ := exists_planned_cache (by decide +kernel) (by decide +kernel) ht
    (by decide +kernel)
  obtain ⟨q, hq, he⟩ := exists_planned_cache (by decide +kernel) (by decide +kernel) hu
    (by decide +kernel)
  have henv : downloadEnv cachedService (.ofObject .cluster cachingTemplate) ≠
      downloadEnv (otherService [⟨"HF_HOME", "/data"⟩]) (.ofObject .cluster cachingTemplate) := by
    decide +kernel
  have hnamespace : cachedService.metadata.namespace =
      (otherService [⟨"HF_HOME", "/data"⟩]).metadata.namespace := rfl
  refine ⟨p, q, hp, hq, _, hd, _, he, rfl, rfl, fun hbody => ?_⟩
  exact henv ((body_templateCacheFor_eq_iff hnamespace rfl).1 hbody).2.2

end InferenceReconciler
