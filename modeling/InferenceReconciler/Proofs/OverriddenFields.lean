import InferenceReconciler.Proofs.DerivedOnce

/-!
# Overridden fields

Overrides and the template they are laid over are seen as the values of the same few fields, and
laying over is to take the value of the overrides where there is one. What a template is besides
these fields, and whether it has a GPU selector at all, is settled apart from them. From this view
follow the laws: laying over twice is laying over once, and overrides that set different fields can
be laid over in either order.
-/

namespace InferenceReconciler

/-- A field that overrides can set. -/
inductive OverrideField where
  | metric
  | precision
  | gpuModel
  | gpuCount
  | gpuResource
  deriving DecidableEq

inductive FieldValue where
  | text (s : String)
  | number (n : UInt32)
  deriving DecidableEq

def TemplateOverrides.value? (o : TemplateOverrides) : OverrideField → Option FieldValue
  | .metric => o.metric.map .text
  | .precision => o.precision.map .text
  | .gpuModel => (o.gpuSelector.bind (·.model)).map .text
  | .gpuCount => (o.gpuSelector.bind (·.count)).map .number
  | .gpuResource => (o.gpuSelector.bind (·.resourceName)).map .text

namespace TemplateSpec

/-- What a template offers in the place of overrides. -/
def offered (s : TemplateSpec) : TemplateOverrides := ⟨s.metric, s.precision, s.gpuSelector⟩

def value? (s : TemplateSpec) (f : OverrideField) : Option FieldValue := s.offered.value? f

def offering (s : TemplateSpec) (o : TemplateOverrides) : TemplateSpec :=
  { s with metric := o.metric, precision := o.precision, gpuSelector := o.gpuSelector }

end TemplateSpec

theorem TemplateOverrides.eq_of_values {o o' : TemplateOverrides}
    (hvalue : ∀ f, o.value? f = o'.value? f)
    (hselector : o.gpuSelector.isSome = o'.gpuSelector.isSome) : o = o' := by
  have htext : Function.Injective FieldValue.text := fun _ _ h => FieldValue.text.inj h
  have hnumber : Function.Injective FieldValue.number := fun _ _ h => FieldValue.number.inj h
  have hmetric := Option.map_injective htext (hvalue .metric)
  have hprecision := Option.map_injective htext (hvalue .precision)
  have hmodel := Option.map_injective htext (hvalue .gpuModel)
  have hcount := Option.map_injective hnumber (hvalue .gpuCount)
  have hresource := Option.map_injective htext (hvalue .gpuResource)
  obtain ⟨metric, precision, selector⟩ := o
  obtain ⟨metric', precision', selector'⟩ := o'
  cases hmetric
  cases hprecision
  cases selector with
  | none =>
    cases selector' with
    | none => rfl
    | some g' => cases hselector
  | some g =>
    cases selector' with
    | none => cases hselector
    | some g' =>
      obtain ⟨model, count, resource⟩ := g
      obtain ⟨model', count', resource'⟩ := g'
      cases hmodel
      cases hcount
      cases hresource
      rfl

section

variable (s : TemplateSpec) (o o' : TemplateOverrides)

theorem bind_gpuSelector_override {α : Type} {part : GpuSelector → Option α}
    (h : ∀ base g, part (GpuSelector.override base g) = (part g).or (base.bind part)) :
    (s.override o).gpuSelector.bind part =
      (o.gpuSelector.bind part).or (s.gpuSelector.bind part) := by
  unfold TemplateSpec.override
  cases o.gpuSelector with
  | none => rfl
  | some g => exact h s.gpuSelector g

theorem value?_override (f : OverrideField) :
    (s.override o).value? f = (o.value? f).or (s.value? f) := by
  have hpart : ∀ {α : Type} (x : Option α) (y : Option α), (x <|> y) = x.or y :=
    fun x y => Option.orElse_eq_or
  unfold TemplateSpec.value? TemplateSpec.offered
  cases f with
  | metric => exact (congrArg _ (hpart _ _)).trans Option.map_or
  | precision => exact (congrArg _ (hpart _ _)).trans Option.map_or
  | gpuModel =>
    exact (congrArg _ (bind_gpuSelector_override s o fun _ _ => hpart _ _)).trans Option.map_or
  | gpuCount =>
    exact (congrArg _ (bind_gpuSelector_override s o fun _ _ => hpart _ _)).trans Option.map_or
  | gpuResource =>
    exact (congrArg _ (bind_gpuSelector_override s o fun _ _ => hpart _ _)).trans Option.map_or

theorem isSome_gpuSelector_override :
    (s.override o).gpuSelector.isSome = (o.gpuSelector.isSome || s.gpuSelector.isSome) := by
  unfold TemplateSpec.override
  cases o.gpuSelector with
  | none => rfl
  | some g => rfl

theorem offering_override (offered : TemplateOverrides) :
    (s.override o).offering offered = s.offering offered := rfl

variable {s} in
/-- Templates are the same if they offer the same values, both with a selector or both without,
and are the same besides. -/
theorem TemplateSpec.eq_of_values {s' : TemplateSpec}
    (hrest : s.offering s'.offered = s') (hvalue : ∀ f, s.value? f = s'.value? f)
    (hselector : s.gpuSelector.isSome = s'.gpuSelector.isSome) : s = s' := by
  have hoffered : s.offered = s'.offered := TemplateOverrides.eq_of_values hvalue hselector
  calc s = s.offering s.offered := rfl
    _ = s.offering s'.offered := by rw [hoffered]
    _ = s' := hrest

theorem override_override_self : (s.override o).override o = s.override o := by
  refine TemplateSpec.eq_of_values rfl (fun f => ?_) ?_
  · rw [value?_override, value?_override, ← Option.or_assoc, Option.or_self]
  · rw [isSome_gpuSelector_override, isSome_gpuSelector_override, ← Bool.or_assoc, Bool.or_self]

variable {o o'} in
theorem override_override_comm (h : ∀ f, o.value? f = none ∨ o'.value? f = none) :
    (s.override o).override o' = (s.override o').override o := by
  refine TemplateSpec.eq_of_values rfl (fun f => ?_) ?_
  · simp only [value?_override]
    rcases h f with hnone | hnone
    · rw [hnone, Option.none_or, Option.none_or]
    · rw [hnone, Option.none_or, Option.none_or]
  · simp only [isSome_gpuSelector_override]
    rw [Bool.or_left_comm]

/-- What is laid over a template is satisfied by it. Nothing more comes of laying it over twice,
nor of the order if two sets of overrides share no field. The fields that are not set are as they
were, in the GPU selector too, which is there if it was there or the overrides have one. -/
theorem overrides_laid_over :
    satisfies (s.override o) o = true ∧
      (s.override o).override o = s.override o ∧
      (∀ o', (∀ f, o.value? f = none ∨ o'.value? f = none) →
        (s.override o).override o' = (s.override o').override o) ∧
      (∀ f v, o.value? f = some v → (s.override o).value? f = some v) ∧
      (∀ f, o.value? f = none → (s.override o).value? f = s.value? f) ∧
      (s.override o).gpuSelector.isSome = (o.gpuSelector.isSome || s.gpuSelector.isSome) ∧
      (s.override o).offering s.offered = s := by
  refine ⟨satisfies_override s o, override_override_self s o,
    fun o' h => override_override_comm s h, fun f v hset => ?_, fun f hunset => ?_,
    isSome_gpuSelector_override s o, offering_override s o s.offered⟩
  · rw [value?_override, hset, Option.some_or]
  · rw [value?_override, hunset, Option.none_or]

end

/-- A count on top of a template for eight GPUs of a model, and a model in the place of its own: the
selector is kept as far as neither sets it. -/
theorem count_and_model_laid_over :
    let base : TemplateSpec :=
      { TemplateSpec.empty with gpuSelector := some ⟨some "MI250X", some 8, some "amd.com/gpu"⟩ }
    let count : TemplateOverrides := ⟨none, none, some ⟨none, some 4, none⟩⟩
    let model : TemplateOverrides := ⟨none, none, some ⟨some "mi300x", none, none⟩⟩
    (base.override count).override model = (base.override model).override count ∧
      (base.override count).value? .gpuModel = some (.text "MI250X") ∧
      ((base.override count).override model).gpuSelector =
        some ⟨some "mi300x", some 4, some "amd.com/gpu"⟩ := by
  intro base count model
  obtain ⟨-, -, hcomm, -, hkept, -⟩ := overrides_laid_over base count
  have hdisjoint : ∀ f, count.value? f = none ∨ model.value? f = none := by
    intro f
    cases f <;> decide
  exact ⟨hcomm model hdisjoint, hkept .gpuModel rfl, rfl⟩

end InferenceReconciler
