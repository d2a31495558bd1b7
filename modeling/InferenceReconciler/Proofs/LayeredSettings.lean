import InferenceReconciler.ConfigLayers
import InferenceReconciler.Proofs.VariableLists

/-!
# Settings in layers

A setting has the value of the highest layer that says something by it. Where no layer does, it
has what stands in the lowest layer with the part of the configuration that the setting is in, as
that layer found nothing to be laid over. To merge merged layers is to merge the layers.
-/

namespace InferenceReconciler

variable {σ α : Type}

theorem filter_true (value : Option α) : value.filter (fun _ => true) = value := by
  cases value <;> rfl

theorem filter_or_self (p : α → Bool) (value : Option α) :
    (value.filter p).or value = value := by
  cases value with
  | none => rfl
  | some v =>
    rw [Option.filter_some]
    split <;> rfl

theorem filter_or_filter (p : α → Bool) (top base : Option α) :
    ((top.filter p).or base).filter p = (top.filter p).or (base.filter p) := by
  cases top with
  | none => rfl
  | some v =>
    rw [Option.filter_some]
    split
    · rename_i h
      rw [Option.some_or, Option.some_or, Option.filter_some, if_pos h]
    · rfl

theorem overlayText_assoc (a b c : Option String) :
    overlayText (overlayText a b) c = overlayText a (overlayText b c) := by
  simp [overlayText, filledIn?, filter_or_filter, Option.or_assoc]

theorem overlayText_self (a : Option String) : overlayText a a = a := by
  simp [overlayText, filledIn?, filter_or_self]

theorem StorageConfig.overlay_assoc (a b c : StorageConfig) :
    (a.overlay b).overlay c = a.overlay (b.overlay c) := by
  simp [StorageConfig.overlay, overlayText_assoc, Option.or_assoc]

theorem StorageConfig.overlay_self (a : StorageConfig) : a.overlay a = a := by
  simp [StorageConfig.overlay, overlayText_self]

theorem RoutingConfig.overlay_assoc (a b c : RoutingConfig) :
    (a.overlay b).overlay c = a.overlay (b.overlay c) := by
  simp [RoutingConfig.overlay, overlayText_assoc, Dict.overlay_overlay, Option.or_assoc,
    filter_or_filter]

theorem RoutingConfig.overlay_self (a : RoutingConfig) : a.overlay a = a := by
  simp [RoutingConfig.overlay, overlayText_self, Dict.overlay_self, filter_or_self]

theorem overlayWith_none_left (overlay : σ → σ → σ) (top : Option σ) :
    overlayWith overlay none top = top := by
  cases top <;> rfl

/-- A part of the configuration that a layer may have. -/
structure ConfigPart (σ : Type) where
  part? : RuntimeConfigSpec → Option σ
  overlay : σ → σ → σ
  part?_empty : part? .empty = none
  part?_overlay (base top : RuntimeConfigSpec) :
    part? (base.overlay top) = overlayWith overlay (part? base) (part? top)
  overlay_assoc (a b c : σ) : overlay (overlay a b) c = overlay a (overlay b c)
  overlay_self (a : σ) : overlay a a = a

namespace ConfigPart

def storage : ConfigPart StorageConfig where
  part? := (·.storage)
  overlay := StorageConfig.overlay
  part?_empty := rfl
  part?_overlay _ _ := rfl
  overlay_assoc := StorageConfig.overlay_assoc
  overlay_self := StorageConfig.overlay_self

def routing : ConfigPart RoutingConfig where
  part? := (·.routing)
  overlay := RoutingConfig.overlay
  part?_empty := rfl
  part?_overlay _ _ := rfl
  overlay_assoc := RoutingConfig.overlay_assoc
  overlay_self := RoutingConfig.overlay_self

variable (p : ConfigPart σ) (cluster ofNamespace service : Option RuntimeConfigSpec)

/-- The part of the layers, laid over each other. -/
def layered : Option σ :=
  overlayWith p.overlay (overlayWith p.overlay (cluster.bind p.part?) (ofNamespace.bind p.part?))
    (service.bind p.part?)

theorem part?_mergeConfig :
    p.part? (mergeConfig cluster ofNamespace service) =
      p.layered cluster ofNamespace service := by
  cases cluster <;> cases ofNamespace <;> cases service <;>
    simp [mergeConfig, layered, p.part?_overlay, p.part?_empty, overlayWith_none_left]

theorem overlayWith_assoc (a b c : Option σ) :
    overlayWith p.overlay (overlayWith p.overlay a b) c =
      overlayWith p.overlay a (overlayWith p.overlay b c) := by
  cases a <;> cases b <;> cases c <;> first | rfl | exact congrArg some (p.overlay_assoc _ _ _)

theorem overlayWith_self (a : Option σ) : overlayWith p.overlay a a = a := by
  cases a with
  | none => rfl
  | some part => exact congrArg some (p.overlay_self part)

theorem part?_lower_layers :
    p.part? (mergeConfig (some (mergeConfig cluster ofNamespace none)) service none) =
      p.part? (mergeConfig cluster ofNamespace service) := by
  simp [part?_mergeConfig, layered]

theorem part?_upper_layers :
    p.part? (mergeConfig cluster none (some (mergeConfig none ofNamespace service))) =
      p.part? (mergeConfig cluster ofNamespace service) := by
  simp [part?_mergeConfig, layered, overlayWith_none_left, overlayWith_assoc]

theorem part?_same_layers (layer : Option RuntimeConfigSpec) :
    p.part? (mergeConfig layer layer layer) = p.part? (mergeConfig layer none none) := by
  simp [part?_mergeConfig, layered, overlayWith_self]

end ConfigPart

/-- Something to be set in one part of the configuration, and which values of it count when the
part is laid over another. -/
structure ConfigSetting (σ α : Type) where
  part : ConfigPart σ
  field? : σ → Option α
  counts : α → Bool
  field?_overlay (base top : σ) :
    field? (part.overlay base top) = ((field? top).filter counts <|> field? base)

namespace ConfigSetting

def storageClass : ConfigSetting StorageConfig String where
  part := .storage
  field? := (·.defaultStorageClassName)
  counts v := !isBlankText v
  field?_overlay _ _ := rfl

def headroom : ConfigSetting StorageConfig UInt32 where
  part := .storage
  field? := (·.pvcHeadroomPercent)
  counts _ := true
  field?_overlay _ _ := by rw [filter_true]; rfl

def enabled : ConfigSetting RoutingConfig Bool where
  part := .routing
  field? := (·.enabled)
  counts _ := true
  field?_overlay _ _ := by rw [filter_true]; rfl

def gateway : ConfigSetting RoutingConfig GatewayRef where
  part := .routing
  field? := (·.gatewayRef)
  counts g := !g.name.isEmpty
  field?_overlay _ _ := rfl

def pathTemplate : ConfigSetting RoutingConfig String where
  part := .routing
  field? := (·.pathTemplate)
  counts v := !isBlankText v
  field?_overlay _ _ := rfl

def requestTimeout : ConfigSetting RoutingConfig String where
  part := .routing
  field? := (·.requestTimeout)
  counts v := !isBlankText v
  field?_overlay _ _ := rfl

def annotation (key : String) : ConfigSetting RoutingConfig String where
  part := .routing
  field? r := r.annotations.find? key
  counts _ := true
  field?_overlay _ _ := by
    rw [filter_true]
    exact Dict.find?_overlay _ _ key

variable (x : ConfigSetting σ α)

def value? (c : RuntimeConfigSpec) : Option α := (x.part.part? c).bind x.field?

def inForce? (c : RuntimeConfigSpec) : Option α := (x.value? c).filter x.counts

variable (cluster ofNamespace service : Option RuntimeConfigSpec)

def highest? : Option α :=
  service.bind x.inForce? <|> ofNamespace.bind x.inForce? <|> cluster.bind x.inForce?

/-- What the lowest layer with the part of the setting says, counting or not. -/
def lowest? : Option α :=
  (cluster.bind x.part.part? <|> ofNamespace.bind x.part.part? <|>
    service.bind x.part.part?).bind x.field?

theorem bind_inForce? (layer : Option RuntimeConfigSpec) :
    layer.bind x.inForce? = ((layer.bind x.part.part?).bind x.field?).filter x.counts := by
  cases layer <;> rfl

theorem value?_mergeConfig :
    x.value? (mergeConfig cluster ofNamespace service) =
      (x.highest? cluster ofNamespace service <|> x.lowest? cluster ofNamespace service) := by
  unfold value? highest? lowest?
  rw [x.part.part?_mergeConfig, ConfigPart.layered, bind_inForce?, bind_inForce?, bind_inForce?]
  generalize cluster.bind x.part.part? = c, ofNamespace.bind x.part.part? = n,
    service.bind x.part.part? = s
  cases c <;> cases n <;> cases s <;>
    simp [overlayWith, x.field?_overlay, filter_or_self, Option.or_assoc]

/-- Of the values that count, the one of the highest layer comes out. -/
theorem inForce?_mergeConfig :
    x.inForce? (mergeConfig cluster ofNamespace service) =
      x.highest? cluster ofNamespace service := by
  unfold inForce? value? highest?
  rw [x.part.part?_mergeConfig, ConfigPart.layered, bind_inForce?, bind_inForce?, bind_inForce?]
  generalize cluster.bind x.part.part? = c, ofNamespace.bind x.part.part? = n,
    service.bind x.part.part? = s
  cases c <;> cases n <;> cases s <;> simp [overlayWith, x.field?_overlay, filter_or_filter]

end ConfigSetting

def layerEnv (layer : Option RuntimeConfigSpec) : List EnvVar := (layer.map (·.env)).getD []

theorem env_mergeConfig (cluster ofNamespace service : Option RuntimeConfigSpec) :
    (mergeConfig cluster ofNamespace service).env =
      settledEnv (layerEnv cluster ++ layerEnv ofNamespace ++ layerEnv service) := by
  unfold settledEnv
  rw [overlayEnv_append, overlayEnv_append]
  cases cluster <;> cases ofNamespace <;> cases service <;> rfl

theorem lastValue?_mergeConfig (name : String)
    (cluster ofNamespace service : Option RuntimeConfigSpec) :
    lastValue? name (mergeConfig cluster ofNamespace service).env =
      (lastValue? name (layerEnv service) <|> lastValue? name (layerEnv ofNamespace) <|>
        lastValue? name (layerEnv cluster)) := by
  rw [env_mergeConfig, lastValue?_settledEnv, lastValue?_append, lastValue?_append]

theorem settledEnv_settledEnv_append (env env' : List EnvVar) :
    settledEnv (settledEnv env ++ env') = settledEnv (env ++ env') := by
  have hsettled : overlayEnv [] (settledEnv env) = settledEnv env :=
    settledEnv_of_nodup (nodup_settledEnv env)
  change overlayEnv [] _ = overlayEnv [] _
  rw [overlayEnv_append, overlayEnv_append, hsettled]
  rfl

theorem settledEnv_append_settledEnv (env env' : List EnvVar) :
    settledEnv (env ++ settledEnv env') = settledEnv (env ++ env') := by
  change overlayEnv [] _ = overlayEnv [] _
  rw [overlayEnv_append, overlayEnv_append]
  exact overlayEnv_settledEnv (nodup_settledEnv env) env'

theorem settledEnv_append_self (env : List EnvVar) : settledEnv (env ++ env) = settledEnv env := by
  change overlayEnv [] _ = _
  rw [overlayEnv_append]
  exact overlayEnv_settledEnv_self env

theorem eq_of_parts {a b : RuntimeConfigSpec}
    (hpart : ∀ {σ : Type} (p : ConfigPart σ), p.part? a = p.part? b) (henv : a.env = b.env) :
    a = b := by
  obtain ⟨storage, routing, env⟩ := a
  cases hpart .storage
  cases hpart .routing
  cases henv
  rfl

theorem mergeConfig_lower_layers (cluster ofNamespace service : Option RuntimeConfigSpec) :
    mergeConfig (some (mergeConfig cluster ofNamespace none)) service none =
      mergeConfig cluster ofNamespace service := by
  apply eq_of_parts fun p => p.part?_lower_layers cluster ofNamespace service
  have hmerged : layerEnv (some (mergeConfig cluster ofNamespace none)) =
      settledEnv (layerEnv cluster ++ layerEnv ofNamespace ++ []) :=
    env_mergeConfig cluster ofNamespace none
  rw [env_mergeConfig, env_mergeConfig, hmerged, List.append_nil, List.append_assoc,
    settledEnv_settledEnv_append, ← List.append_assoc]
  exact congrArg settledEnv (List.append_nil _)

theorem mergeConfig_upper_layers (cluster ofNamespace service : Option RuntimeConfigSpec) :
    mergeConfig cluster none (some (mergeConfig none ofNamespace service)) =
      mergeConfig cluster ofNamespace service := by
  apply eq_of_parts fun p => p.part?_upper_layers cluster ofNamespace service
  have hmerged : layerEnv (some (mergeConfig none ofNamespace service)) =
      settledEnv (layerEnv ofNamespace ++ layerEnv service) :=
    env_mergeConfig none ofNamespace service
  have hnone : layerEnv none = [] := rfl
  rw [env_mergeConfig, env_mergeConfig, hmerged, hnone, List.append_nil,
    settledEnv_append_settledEnv, List.append_assoc]

theorem mergeConfig_same_layers (layer : Option RuntimeConfigSpec) :
    mergeConfig layer layer layer = mergeConfig layer none none := by
  apply eq_of_parts fun p => p.part?_same_layers layer
  have hnone : layerEnv none = [] := rfl
  rw [env_mergeConfig, env_mergeConfig, ← settledEnv_settledEnv_append, settledEnv_append_self,
    settledEnv_settledEnv_append, settledEnv_append_self, hnone, List.append_nil, List.append_nil]

/-- The merged layers say by a setting what the highest layer in which it counts says; where it
counts in none, the lowest layer with its part speaks, and nothing that counts is made up. -/
def ConfigSetting.TakenFrom (x : ConfigSetting σ α) (merged : RuntimeConfigSpec)
    (cluster ofNamespace service : Option RuntimeConfigSpec) : Prop :=
  x.value? merged =
      (x.highest? cluster ofNamespace service <|> x.lowest? cluster ofNamespace service) ∧
    x.inForce? merged = x.highest? cluster ofNamespace service

theorem ConfigSetting.takenFrom_mergeConfig (x : ConfigSetting σ α)
    (cluster ofNamespace service : Option RuntimeConfigSpec) :
    x.TakenFrom (mergeConfig cluster ofNamespace service) cluster ofNamespace service :=
  ⟨x.value?_mergeConfig cluster ofNamespace service,
    x.inForce?_mergeConfig cluster ofNamespace service⟩

/-- Every setting of the configuration, and its variables, as the layers have them. -/
structure RuntimeConfigSpec.MergedFrom (merged : RuntimeConfigSpec)
    (cluster ofNamespace service : Option RuntimeConfigSpec) : Prop where
  storageClass : ConfigSetting.storageClass.TakenFrom merged cluster ofNamespace service
  headroom : ConfigSetting.headroom.TakenFrom merged cluster ofNamespace service
  enabled : ConfigSetting.enabled.TakenFrom merged cluster ofNamespace service
  gateway : ConfigSetting.gateway.TakenFrom merged cluster ofNamespace service
  pathTemplate : ConfigSetting.pathTemplate.TakenFrom merged cluster ofNamespace service
  requestTimeout : ConfigSetting.requestTimeout.TakenFrom merged cluster ofNamespace service
  annotation : ∀ key, (ConfigSetting.annotation key).TakenFrom merged cluster ofNamespace service
  envValue : ∀ name, lastValue? name merged.env =
    (lastValue? name (layerEnv service) <|> lastValue? name (layerEnv ofNamespace) <|>
      lastValue? name (layerEnv cluster))
  envNames : variableNames merged.env =
    (variableNames (layerEnv cluster ++ layerEnv ofNamespace ++ layerEnv service)).eraseDups
  envDistinct : (variableNames merged.env).Nodup

theorem mergedFrom_mergeConfig (cluster ofNamespace service : Option RuntimeConfigSpec) :
    (mergeConfig cluster ofNamespace service).MergedFrom cluster ofNamespace service := by
  constructor
  case envValue => exact fun name => lastValue?_mergeConfig name cluster ofNamespace service
  case envNames => rw [env_mergeConfig, variableNames_settledEnv]
  case envDistinct =>
    rw [env_mergeConfig]
    exact nodup_settledEnv _
  case annotation => exact fun key => ConfigSetting.takenFrom_mergeConfig _ _ _ _
  all_goals exact ConfigSetting.takenFrom_mergeConfig _ _ _ _

/-- Configurations are merged from layers by precedence alone: how the layers are grouped does not
matter, and a layer that comes again changes nothing. -/
theorem layers_merge_by_precedence (cluster ofNamespace service : Option RuntimeConfigSpec) :
    (mergeConfig cluster ofNamespace service).MergedFrom cluster ofNamespace service ∧
      mergeConfig (some (mergeConfig cluster ofNamespace none)) service none =
        mergeConfig cluster ofNamespace service ∧
      mergeConfig cluster none (some (mergeConfig none ofNamespace service)) =
        mergeConfig cluster ofNamespace service ∧
      ∀ layer, mergeConfig layer layer layer = mergeConfig layer none none :=
  ⟨mergedFrom_mergeConfig cluster ofNamespace service,
    mergeConfig_lower_layers cluster ofNamespace service,
    mergeConfig_upper_layers cluster ofNamespace service, mergeConfig_same_layers⟩

end InferenceReconciler
