import InferenceReconciler.Proofs.OverriddenRuntime
import Mathlib.Data.List.Nodup

/-!
# Placement on nodes

A node is counted under a GPU model by what its labels mean: an identifier in any spelling, else the
product, else the family, each folded to a canonical name. A runtime is placed by what the labels
say: one label, letter for letter. So a node that is counted can host a runtime for its model
exactly if it has the label that placement reads, in the spelling of the catalogue.
-/

namespace InferenceReconciler

namespace PodFields

/-- Whether the labels of a node have the key, with one of the values. `In` is the one operator
that placement writes. -/
def NodeRequirement.holdsOf (r : NodeRequirement) (labels : Dict String) : Bool :=
  r.operator = "In" && (labels.find? r.key).any fun value => (r.values.getD []).contains value

/-- Whether all expressions of a term hold. A term without any matches no node. -/
def NodeTerm.holdsOf (t : NodeTerm) (labels : Dict String) : Bool :=
  let expressions := t.matchExpressions.getD []
  !expressions.isEmpty && expressions.all fun r => r.holdsOf labels

/-- Whether one of the terms holds. -/
def NodeSelector.holdsOf (s : NodeSelector) (labels : Dict String) : Bool :=
  s.nodeSelectorTerms.any fun t => t.holdsOf labels

/-- Whether a node of these labels has what the affinity requires. -/
def Affinity.admits (a : Affinity) (labels : Dict String) : Bool :=
  (a.nodeAffinity.bind (·.requiredDuringSchedulingIgnoredDuringExecution)).all fun s =>
    s.holdsOf labels

theorem Affinity.admits_ofLabel {key : String} {values : List String} {labels : Dict String} :
    (Affinity.ofLabel key values).admits labels = true ↔
      ∃ value ∈ values, labels.find? key = some value := by
  have hadmits : (Affinity.ofLabel key values).admits labels =
      (labels.find? key).any fun value => values.contains value := by
    simp [Affinity.admits, Affinity.ofLabel, NodeSelector.holdsOf, NodeTerm.holdsOf,
      NodeRequirement.holdsOf]
  rw [hadmits]
  cases labels.find? key with
  | none => simp
  | some found => simp [eq_comm]

theorem Affinity.ofLabel_inj {key key' : String} {values values' : List String}
    (h : Affinity.ofLabel key values = Affinity.ofLabel key' values') :
    key = key' ∧ values = values' := by
  simpa [Affinity.ofLabel] using h

end PodFields

namespace GpuModel

theorem eq_of_mem_devices {d e : String × String} (hd : d ∈ devices) (he : e ∈ devices)
    (h : d.1 = e.1) : d = e := by
  have hnodup : (devices.map (·.1)).Nodup := by decide
  exact List.inj_on_of_nodup_map hnodup hd he h

theorem ofDeviceId?_of_mem {d : String × String} (h : d ∈ devices) :
    ofDeviceId? d.1 = some d.2 := by
  have hread : ∀ d ∈ devices, ofDeviceId? d.1 = some d.2 := by decide +kernel
  exact hread d h

theorem mem_deviceIds_iff {model id : String} :
    id ∈ deviceIds model ↔ (id, canonical model) ∈ devices := by
  unfold deviceIds
  generalize canonical model = name
  simp only [List.mem_map, List.mem_filter, decide_eq_true_eq]
  constructor
  · rintro ⟨d, ⟨hmem, rfl⟩, rfl⟩
    exact hmem
  · exact fun hmem => ⟨(id, name), ⟨hmem, rfl⟩, rfl⟩

theorem ofNodeLabels?_of_device {labels : Dict String} {d : String × String} (hd : d ∈ devices)
    (hlabel : labels.find? deviceIdLabel = some d.1) : ofNodeLabels? labels = some d.2 := by
  unfold ofNodeLabels?
  rw [hlabel, Option.bind_some, ofDeviceId?_of_mem hd]

end GpuModel

theorem gpuAffinity_of_known {model : String} (h : GpuModel.deviceIds model ≠ []) :
    gpuAffinity model = .ofLabel GpuModel.deviceIdLabel (GpuModel.deviceIds model) := by
  unfold gpuAffinity
  split
  · rename_i hnil
    exact absurd hnil h
  · rfl

theorem gpuAffinity_of_unknown {model : String} (h : GpuModel.deviceIds model = []) :
    gpuAffinity model = .ofLabel GpuModel.productLabel [GpuModel.canonical model] := by
  unfold gpuAffinity
  rw [h]

/-- Names lead to the same nodes exactly if they are names of one model. -/
theorem gpuAffinity_eq_iff {a b : String} :
    gpuAffinity a = gpuAffinity b ↔ GpuModel.canonical a = GpuModel.canonical b := by
  refine ⟨fun h => ?_, gpuAffinity_congr⟩
  have hlabels : GpuModel.productLabel ≠ GpuModel.deviceIdLabel := by decide
  by_cases ha : GpuModel.deviceIds a = [] <;> by_cases hb : GpuModel.deviceIds b = []
  · rw [gpuAffinity_of_unknown ha, gpuAffinity_of_unknown hb] at h
    exact List.head_eq_of_cons_eq (PodFields.Affinity.ofLabel_inj h).2
  · rw [gpuAffinity_of_unknown ha, gpuAffinity_of_known hb] at h
    exact absurd (PodFields.Affinity.ofLabel_inj h).1 hlabels
  · rw [gpuAffinity_of_known ha, gpuAffinity_of_unknown hb] at h
    exact absurd (PodFields.Affinity.ofLabel_inj h).1.symm hlabels
  · rw [gpuAffinity_of_known ha, gpuAffinity_of_known hb] at h
    obtain ⟨id, hid⟩ := List.exists_mem_of_ne_nil _ ha
    have hid' : id ∈ GpuModel.deviceIds b := (PodFields.Affinity.ofLabel_inj h).2 ▸ hid
    have hsame := GpuModel.eq_of_mem_devices (GpuModel.mem_deviceIds_iff.1 hid)
      (GpuModel.mem_deviceIds_iff.1 hid') (rfl : id = id)
    exact (Prod.mk.inj hsame).2

theorem admits_gpuAffinity_of_known {labels : Dict String} {model : String}
    (h : GpuModel.deviceIds model ≠ []) :
    (gpuAffinity model).admits labels = true ↔
      ∃ id ∈ GpuModel.deviceIds model, labels.find? GpuModel.deviceIdLabel = some id := by
  rw [gpuAffinity_of_known h, PodFields.Affinity.admits_ofLabel]

theorem admits_gpuAffinity_of_unknown {labels : Dict String} {model : String}
    (h : GpuModel.deviceIds model = []) :
    (gpuAffinity model).admits labels = true ↔
      labels.find? GpuModel.productLabel = some (GpuModel.canonical model) := by
  rw [gpuAffinity_of_unknown h, PodFields.Affinity.admits_ofLabel]
  simp only [List.mem_singleton, exists_eq_left]

/-- A node says what its GPU is in the words of placement: an identifier as the catalogue has it,
or, for a model that the catalogue does not have, the canonical name as the product. -/
inductive SpelledOut (labels : Dict String) (model : String) : Prop where
  | device (id : String) (label : labels.find? GpuModel.deviceIdLabel = some id)
      (known : id ∈ GpuModel.devices.map (·.1)) : SpelledOut labels model
  | product (unknown : GpuModel.deviceIds model = [])
      (label : labels.find? GpuModel.productLabel = some (GpuModel.canonical model)) :
      SpelledOut labels model

/-- A node that is counted under a model can host a runtime for it exactly if it says so in the
words of placement. -/
theorem counted_node_hosts_iff {labels : Dict String} {model : String}
    (h : GpuModel.ofNodeLabels? labels = some (GpuModel.canonical model)) :
    (gpuAffinity model).admits labels = true ↔ SpelledOut labels model := by
  constructor
  · intro hadmits
    by_cases hunknown : GpuModel.deviceIds model = []
    · exact .product hunknown ((admits_gpuAffinity_of_unknown hunknown).1 hadmits)
    · obtain ⟨id, hid, hlabel⟩ := (admits_gpuAffinity_of_known hunknown).1 hadmits
      exact .device id hlabel (List.mem_map_of_mem (GpuModel.mem_deviceIds_iff.1 hid))
  · intro hspelled
    cases hspelled with
    | device id hlabel hid =>
      obtain ⟨d, hd, rfl⟩ := List.mem_map.1 hid
      have hmodel : d.2 = GpuModel.canonical model :=
        Option.some.inj ((GpuModel.ofNodeLabels?_of_device hd hlabel).symm.trans h)
      have hmem : d.1 ∈ GpuModel.deviceIds model := by
        rw [GpuModel.mem_deviceIds_iff, ← hmodel]
        exact hd
      exact (admits_gpuAffinity_of_known (List.ne_nil_of_mem hmem)).2 ⟨d.1, hmem, hlabel⟩
    | product hunknown hlabel => exact (admits_gpuAffinity_of_unknown hunknown).2 hlabel

theorem device_hosts_its_model :
    let labels := Dict.ofList
      [(GpuModel.deviceIdLabel, "74a1"), (GpuModel.productLabel, "something else")]
    GpuModel.ofNodeLabels? labels = some (GpuModel.canonical "mi-300x") ∧
      (gpuAffinity "mi-300x").admits labels = true := by
  intro labels
  have hcounted : GpuModel.ofNodeLabels? labels = some (GpuModel.canonical "mi-300x") := by
    decide +kernel
  exact ⟨hcounted, (counted_node_hosts_iff hcounted).2 (.device "74a1" rfl (by decide))⟩

/-- The node is counted under the model and can host no runtime for it. -/
structure CountedInVain (labels : Dict String) (model : String) : Prop where
  counted : GpuModel.ofNodeLabels? labels = some (GpuModel.canonical model)
  refused : (gpuAffinity model).admits labels = false

/-- A node is counted in vain by its product where its model has identifiers, by an identifier in
another spelling, by a product in another spelling, and by its family. -/
theorem counted_nodes_in_vain :
    CountedInVain (.ofList [(GpuModel.productLabel, "MI300X")]) "MI300X" ∧
      CountedInVain (.ofList [(GpuModel.deviceIdLabel, "0x74A1")]) "MI300X" ∧
      CountedInVain (.ofList [(GpuModel.productLabel, "h100")]) "H100" ∧
      CountedInVain (.ofList [(GpuModel.familyLabel, "H100")]) "H100" :=
  ⟨⟨by decide +kernel, by decide +kernel⟩, ⟨by decide +kernel, by decide +kernel⟩,
    ⟨by decide +kernel, by decide +kernel⟩, ⟨by decide +kernel, by decide +kernel⟩⟩

end InferenceReconciler
