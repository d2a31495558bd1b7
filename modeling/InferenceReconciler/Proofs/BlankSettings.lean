import InferenceReconciler.ConfigResolution
import InferenceReconciler.Proofs.LayeredSettings

/-!
# Settings that are blank

A blank text, and a gateway without a name, is laid over nothing. Whether it is there makes no
difference to a setting that some layer fills in. Where no layer does, the lowest layer with the
part that the setting is in is taken over whole, and what is blank in it comes out.
-/

namespace InferenceReconciler

variable {σ α : Type}

/-- A value is kept or, if it does not count, taken away. -/
def MayClear (counts : α → Bool) (before after : Option α) : Prop :=
  after = before ∨ after = none ∧ before.filter counts = none

structure StorageConfig.Cleared (before after : StorageConfig) : Prop where
  storageClass : MayClear (fun v => !isBlankText v)
    before.defaultStorageClassName after.defaultStorageClassName
  headroom : after.pvcHeadroomPercent = before.pvcHeadroomPercent

structure RoutingConfig.Cleared (before after : RoutingConfig) : Prop where
  enabled : after.enabled = before.enabled
  gateway : MayClear (fun g => !g.name.isEmpty) before.gatewayRef after.gatewayRef
  pathTemplate : MayClear (fun v => !isBlankText v) before.pathTemplate after.pathTemplate
  requestTimeout : MayClear (fun v => !isBlankText v) before.requestTimeout after.requestTimeout
  annotations : after.annotations = before.annotations

/-- The same configuration, but for blank settings that are no longer there. -/
structure RuntimeConfigSpec.Cleared (before after : RuntimeConfigSpec) : Prop where
  storage : Option.Rel StorageConfig.Cleared before.storage after.storage
  routing : Option.Rel RoutingConfig.Cleared before.routing after.routing
  env : after.env = before.env

theorem MayClear.filter_eq {counts : α → Bool} {before after : Option α}
    (h : MayClear counts before after) : after.filter counts = before.filter counts := by
  rcases h with rfl | ⟨rfl, hbefore⟩
  · rfl
  · exact hbefore.symm

theorem MayClear.overlay {counts : α → Bool} {base base' top top' : Option α}
    (hbase : MayClear counts base base') (htop : MayClear counts top top') :
    MayClear counts (top.filter counts <|> base) (top'.filter counts <|> base') := by
  rw [htop.filter_eq]
  cases top.filter counts with
  | none => exact hbase
  | some v => exact .inl rfl

theorem StorageConfig.Cleared.overlay {base base' top top' : StorageConfig}
    (hbase : base.Cleared base') (htop : top.Cleared top') :
    (base.overlay top).Cleared (base'.overlay top') where
  storageClass := hbase.storageClass.overlay htop.storageClass
  headroom := by
    unfold StorageConfig.overlay
    rw [hbase.headroom, htop.headroom]

theorem RoutingConfig.Cleared.overlay {base base' top top' : RoutingConfig}
    (hbase : base.Cleared base') (htop : top.Cleared top') :
    (base.overlay top).Cleared (base'.overlay top') where
  enabled := by
    unfold RoutingConfig.overlay
    rw [hbase.enabled, htop.enabled]
  gateway := hbase.gateway.overlay htop.gateway
  pathTemplate := hbase.pathTemplate.overlay htop.pathTemplate
  requestTimeout := hbase.requestTimeout.overlay htop.requestTimeout
  annotations := by
    unfold RoutingConfig.overlay
    rw [hbase.annotations, htop.annotations]

theorem rel_overlayWith {overlay : α → α → α} {r : α → α → Prop}
    (h : ∀ {base base' top top'}, r base base' → r top top' →
      r (overlay base top) (overlay base' top'))
    {base base' top top' : Option α} (hbase : Option.Rel r base base')
    (htop : Option.Rel r top top') :
    Option.Rel r (overlayWith overlay base top) (overlayWith overlay base' top') := by
  cases hbase with
  | none => cases htop with
    | none => exact .none
    | some ht => exact .some ht
  | some hb => cases htop with
    | none => exact .some hb
    | some ht => exact .some (h hb ht)

theorem layerEnv_eq_of_cleared {layer layer' : Option RuntimeConfigSpec}
    (h : Option.Rel RuntimeConfigSpec.Cleared layer layer') : layerEnv layer' = layerEnv layer := by
  cases h with
  | none => rfl
  | some hc => exact hc.env

/-- Some layer fills the setting in, or the lowest layer with its part has kept what it has. -/
def ConfigSetting.FilledInOrKept (x : ConfigSetting σ α)
    (cluster cluster' ofNamespace ofNamespace' service service' : Option RuntimeConfigSpec) :
    Prop :=
  (x.highest? cluster ofNamespace service).isSome = true ∨
    x.lowest? cluster' ofNamespace' service' = x.lowest? cluster ofNamespace service

section Layers

variable {cluster cluster' ofNamespace ofNamespace' service service' : Option RuntimeConfigSpec}
  (hcluster : Option.Rel RuntimeConfigSpec.Cleared cluster cluster')
  (hnamespace : Option.Rel RuntimeConfigSpec.Cleared ofNamespace ofNamespace')
  (hservice : Option.Rel RuntimeConfigSpec.Cleared service service')

include hcluster hnamespace hservice

theorem ConfigPart.rel_layered (p : ConfigPart σ) {r : σ → σ → Prop}
    (hoverlay : ∀ {base base' top top'}, r base base' → r top top' →
      r (p.overlay base top) (p.overlay base' top'))
    (hpart : ∀ {c c' : RuntimeConfigSpec}, c.Cleared c' →
      Option.Rel r (p.part? c) (p.part? c')) :
    Option.Rel r (p.layered cluster ofNamespace service)
      (p.layered cluster' ofNamespace' service') := by
  have hbind : ∀ {layer layer' : Option RuntimeConfigSpec},
      Option.Rel RuntimeConfigSpec.Cleared layer layer' →
      Option.Rel r (layer.bind p.part?) (layer'.bind p.part?) := by
    intro layer layer' h
    cases h with
    | none => exact .none
    | some hc => exact hpart hc
  exact rel_overlayWith hoverlay
    (rel_overlayWith hoverlay (hbind hcluster) (hbind hnamespace)) (hbind hservice)

theorem cleared_mergeConfig :
    (mergeConfig cluster ofNamespace service).Cleared
      (mergeConfig cluster' ofNamespace' service') := by
  constructor
  case storage =>
    change Option.Rel _ (ConfigPart.storage.part? _) (ConfigPart.storage.part? _)
    rw [ConfigPart.part?_mergeConfig, ConfigPart.part?_mergeConfig]
    exact ConfigPart.storage.rel_layered hcluster hnamespace hservice
      StorageConfig.Cleared.overlay (·.storage)
  case routing =>
    change Option.Rel _ (ConfigPart.routing.part? _) (ConfigPart.routing.part? _)
    rw [ConfigPart.part?_mergeConfig, ConfigPart.part?_mergeConfig]
    exact ConfigPart.routing.rel_layered hcluster hnamespace hservice
      RoutingConfig.Cleared.overlay (·.routing)
  case env =>
    rw [env_mergeConfig, env_mergeConfig, layerEnv_eq_of_cleared hcluster,
      layerEnv_eq_of_cleared hnamespace, layerEnv_eq_of_cleared hservice]

theorem ConfigSetting.value?_mergeConfig_eq_iff (x : ConfigSetting σ α) {r : σ → σ → Prop}
    (hpart : ∀ {c c' : RuntimeConfigSpec}, c.Cleared c' →
      Option.Rel r (x.part.part? c) (x.part.part? c'))
    (hfield : ∀ {a a'}, r a a' → MayClear x.counts (x.field? a) (x.field? a')) :
    x.value? (mergeConfig cluster' ofNamespace' service') =
        x.value? (mergeConfig cluster ofNamespace service) ↔
      x.FilledInOrKept cluster cluster' ofNamespace ofNamespace' service service' := by
  have hinForce : ∀ {c c' : RuntimeConfigSpec}, c.Cleared c' → x.inForce? c' = x.inForce? c := by
    intro c c' hc
    have hrel := hpart hc
    unfold inForce? value?
    generalize x.part.part? c = a, x.part.part? c' = a' at hrel
    cases hrel with
    | none => rfl
    | some ha => exact (hfield ha).filter_eq
  have hmerged : x.highest? cluster' ofNamespace' service' =
      x.highest? cluster ofNamespace service := by
    rw [← inForce?_mergeConfig, ← inForce?_mergeConfig]
    exact hinForce (cleared_mergeConfig hcluster hnamespace hservice)
  unfold FilledInOrKept
  rw [value?_mergeConfig, value?_mergeConfig, hmerged]
  cases x.highest? cluster ofNamespace service with
  | some v => exact iff_of_true rfl (.inl rfl)
  | none => simp

end Layers

namespace EffectiveConfig

variable (c : EffectiveConfig)

theorem storageClass?_eq : c.storageClass? = ConfigSetting.storageClass.value? c.spec := rfl

theorem gatewayRef?_eq : c.gatewayRef? = ConfigSetting.gateway.value? c.spec := rfl

theorem pathTemplate_routing :
    c.routing.pathTemplate = ConfigSetting.pathTemplate.value? c.spec := by
  change (c.spec.routing.getD .empty).pathTemplate = c.spec.routing.bind (·.pathTemplate)
  cases c.spec.routing <;> rfl

theorem requestTimeout_routing :
    c.routing.requestTimeout = ConfigSetting.requestTimeout.value? c.spec := by
  change (c.spec.routing.getD .empty).requestTimeout = c.spec.routing.bind (·.requestTimeout)
  cases c.spec.routing <;> rfl

end EffectiveConfig

/-- Taking blank settings away from the layers changes what comes of a setting in one case only:
no layer fills it in, and it is taken away from the lowest layer with its part. -/
theorem blank_settings_lost_at_the_bottom
    {cluster cluster' ofNamespace ofNamespace' service service' : Option RuntimeConfigSpec}
    (hcluster : Option.Rel RuntimeConfigSpec.Cleared cluster cluster')
    (hnamespace : Option.Rel RuntimeConfigSpec.Cleared ofNamespace ofNamespace')
    (hservice : Option.Rel RuntimeConfigSpec.Cleared service service') (headroom : UInt32) :
    let before : EffectiveConfig := ⟨mergeConfig cluster ofNamespace service, headroom⟩
    let after : EffectiveConfig := ⟨mergeConfig cluster' ofNamespace' service', headroom⟩
    before.spec.Cleared after.spec ∧
    (after.storageClass? = before.storageClass? ↔
      ConfigSetting.storageClass.FilledInOrKept
        cluster cluster' ofNamespace ofNamespace' service service') ∧
    (after.gatewayRef? = before.gatewayRef? ↔
      ConfigSetting.gateway.FilledInOrKept
        cluster cluster' ofNamespace ofNamespace' service service') ∧
    (after.routing.pathTemplate = before.routing.pathTemplate ↔
      ConfigSetting.pathTemplate.FilledInOrKept
        cluster cluster' ofNamespace ofNamespace' service service') ∧
    (after.routing.requestTimeout = before.routing.requestTimeout ↔
      ConfigSetting.requestTimeout.FilledInOrKept
        cluster cluster' ofNamespace ofNamespace' service service') := by
  intro before after
  rw [after.storageClass?_eq, before.storageClass?_eq, after.gatewayRef?_eq,
    before.gatewayRef?_eq, after.pathTemplate_routing, before.pathTemplate_routing,
    after.requestTimeout_routing, before.requestTimeout_routing]
  refine ⟨cleared_mergeConfig hcluster hnamespace hservice, ?_, ?_, ?_, ?_⟩
  · exact ConfigSetting.storageClass.value?_mergeConfig_eq_iff hcluster hnamespace hservice
      (r := StorageConfig.Cleared) (fun h => h.storage)
      (fun h => by simpa only [ConfigSetting.storageClass] using h.storageClass)
  · exact ConfigSetting.gateway.value?_mergeConfig_eq_iff hcluster hnamespace hservice
      (r := RoutingConfig.Cleared) (fun h => h.routing)
      (fun h => by simpa only [ConfigSetting.gateway] using h.gateway)
  · exact ConfigSetting.pathTemplate.value?_mergeConfig_eq_iff hcluster hnamespace hservice
      (r := RoutingConfig.Cleared) (fun h => h.routing)
      (fun h => by simpa only [ConfigSetting.pathTemplate] using h.pathTemplate)
  · exact ConfigSetting.requestTimeout.value?_mergeConfig_eq_iff hcluster hnamespace hservice
      (r := RoutingConfig.Cleared) (fun h => h.routing)
      (fun h => by simpa only [ConfigSetting.requestTimeout] using h.requestTimeout)

/-- Where the cluster has a storage class, a blank one of the namespace may come or go. -/
theorem blank_class_above_another :
    let fast : RuntimeConfigSpec := ⟨some ⟨some "fast", none⟩, none, []⟩
    let blank : RuntimeConfigSpec := ⟨some ⟨some " ", none⟩, none, []⟩
    let bare : RuntimeConfigSpec := ⟨some ⟨none, none⟩, none, []⟩
    let before : EffectiveConfig := ⟨mergeConfig (some fast) (some blank) none, 10⟩
    let after : EffectiveConfig := ⟨mergeConfig (some fast) (some bare) none, 10⟩
    blank.Cleared bare ∧ before.storageClass? = some "fast" ∧
      after.storageClass? = before.storageClass? := by
  intro fast blank bare before after
  have hfast : fast.Cleared fast := ⟨.some ⟨.inl rfl, rfl⟩, .none, rfl⟩
  have hblank : blank.Cleared bare := ⟨.some ⟨.inr ⟨rfl, by decide⟩, rfl⟩, .none, rfl⟩
  have hsame := (blank_settings_lost_at_the_bottom (.some hfast) (.some hblank) .none 10).2.1
  exact ⟨hblank, by decide, hsame.2 (.inl (by decide))⟩

/-- Settings of the service that are blank come out, as the service alone has their parts. -/
theorem blank_settings_of_service_alone :
    let blank : RuntimeConfigSpec :=
      ⟨some ⟨some " ", none⟩,
        some ⟨some true, some ⟨"", none, none, none⟩, some " ", some "\t", {}⟩, []⟩
    let bare : RuntimeConfigSpec :=
      ⟨some ⟨none, none⟩, some ⟨some true, none, none, none, {}⟩, []⟩
    let before : EffectiveConfig := ⟨mergeConfig none none (some blank), 10⟩
    let after : EffectiveConfig := ⟨mergeConfig none none (some bare), 10⟩
    blank.Cleared bare ∧
      before.storageClass? = some " " ∧ after.storageClass? = none ∧
      before.gatewayRef? = some ⟨"", none, none, none⟩ ∧ after.gatewayRef? = none ∧
      before.routing.pathTemplate = some " " ∧ after.routing.pathTemplate = none ∧
      before.routing.requestTimeout = some "\t" ∧ after.routing.requestTimeout = none := by
  intro blank bare before after
  refine ⟨⟨.some ⟨.inr ⟨rfl, by decide⟩, rfl⟩, .some ⟨rfl, .inr ⟨rfl, by decide⟩,
    .inr ⟨rfl, by decide⟩, .inr ⟨rfl, by decide⟩, rfl⟩, rfl⟩, ?_⟩
  decide

end InferenceReconciler
