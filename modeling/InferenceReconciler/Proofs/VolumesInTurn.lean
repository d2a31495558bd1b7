import InferenceReconciler.Proofs.LegalNames
import InferenceReconciler.Proofs.VolumeNames

/-!
# Volumes in turn

The volumes of a runtime are made one after the other: the shared memory, the temporary volume if
there is one, and a volume for each cached source in the order of the sources. Each source gets the
first of its names that no volume before it has, which is its own name if that is free. The search
for it comes to an end, and the name is a label of a domain as long as its number leaves room for a
letter. The container mounts the volumes in the same order.
-/

namespace InferenceReconciler

/-- The name is one that a volume may have. -/
def IsVolumeName (name : String) : Prop :=
  isDomainLabel name.toList = true ∧ name.length ≤ maxNameLength

theorem isVolumeName_volumeBase (source : String) : IsVolumeName (volumeBase source) := by
  unfold volumeBase
  dsimp only
  split
  · exact ⟨by decide, by decide⟩
  · rename_i hne
    refine ⟨isDomainLabel_dnsLabel fun hempty => hne (String.isEmpty_iff.2 hempty), ?_⟩
    rw [← String.length_toList, toList_dnsLabel]
    exact length_dnsLabelLetters_le _

/-- A number of at most 61 digits leaves room for the dash and a letter. -/
theorem isVolumeName_numberedVolume {base : String} (hbase : IsVolumeName base) {n : ℕ}
    (hn : n < 10 ^ 61) : IsVolumeName (numberedVolume base n) := by
  have hdigits : (Nat.toDigits 10 n).length ≤ 61 :=
    (Nat.length_toDigits_le_iff (by decide) (by decide)).2 hn
  have hsuffix : s!"-{n}".toList = '-' :: Nat.toDigits 10 n := by simp [toString, Nat.repr]
  have hlength : s!"-{n}".length = (Nat.toDigits 10 n).length + 1 := by
    rw [← String.length_toList, hsuffix, List.length_cons]
  obtain ⟨hall, ⟨c, rest, hcons, hc⟩, -⟩ := isDomainLabel_iff.1 hbase.1
  obtain ⟨room, hroom⟩ : ∃ room, maxNameLength - s!"-{n}".length = room + 1 :=
    ⟨maxNameLength - s!"-{n}".length - 1, by unfold maxNameLength; omega⟩
  have hstem : isDomainLabel (dropTrailing isDash (base.toList.take (room + 1))) = true := by
    refine isDomainLabel_dropTrailing (fun d hd => hall d (List.mem_of_mem_take hd))
      ⟨c, rest.take room, ?_, hc⟩
    rw [hcons, List.take_succ_cons]
  have hnumber : isDomainLabel (Nat.toDigits 10 n) = true :=
    isDomainLabel_of_letters (by simp) fun d hd =>
      isNameLetter_of_isDigit (Nat.isDigit_of_mem_toDigits (by decide) (by decide) hd)
  have hname : (numberedVolume base n).toList =
      dropTrailing isDash (base.toList.take (room + 1)) ++ '-' :: Nat.toDigits 10 n := by
    unfold numberedVolume
    rw [String.toList_append, String.toList_ofList, hsuffix, hroom]
  constructor
  · rw [hname]
    exact isDomainLabel_append_dash hstem hnumber
  · have hcut := Nat.le_trans (length_dropTrailing_le isDash (base.toList.take (room + 1)))
      (List.length_take_le (room + 1) base.toList)
    rw [← String.length_toList, hname, List.length_append, List.length_cons]
    unfold maxNameLength at hroom ⊢
    omega

theorem FirstFree.isVolumeName {source name : String} {taken : List String}
    (h : FirstFree (volumeBase source) taken name) (hfew : taken.length + 1 < 10 ^ 61) :
    IsVolumeName name := by
  obtain ⟨k, hk, rfl, -⟩ := h
  cases k with
  | zero => exact isVolumeName_volumeBase source
  | succ k => exact isVolumeName_numberedVolume (isVolumeName_volumeBase source) (by omega)

theorem isVolumeName_of_mem_cacheVolumeNames {taken : List String}
    (h : sharedMemoryVolume ∈ taken) {mounts : List CacheMount}
    (hfew : taken.length + mounts.length < 10 ^ 61) {name : String}
    (hname : name ∈ cacheVolumeNames taken mounts) : IsVolumeName name := by
  induction mounts generalizing taken with
  | nil => cases hname
  | cons m rest ih =>
    rw [List.length_cons] at hfew
    rcases List.mem_cons.1 hname with rfl | hrest
    · exact (firstFree_freeVolumeName m.sourceName h).isVolumeName (by omega)
    · refine ih (List.mem_cons_of_mem _ h) ?_ hrest
      rw [List.length_cons]
      omega

theorem cacheVolumeNames_append_cons {taken : List String} (h : sharedMemoryVolume ∈ taken)
    (before : List CacheMount) (m : CacheMount) (after : List CacheMount) :
    ∃ name later, cacheVolumeNames taken (before ++ m :: after) =
        cacheVolumeNames taken before ++ name :: later ∧
      FirstFree (volumeBase m.sourceName) (cacheVolumeNames taken before ++ taken) name := by
  induction before generalizing taken with
  | nil => exact ⟨_, _, rfl, firstFree_freeVolumeName m.sourceName h⟩
  | cons b before ih =>
    obtain ⟨name, later, hnames, hfirst⟩ :=
      ih (List.mem_cons_of_mem (freeVolumeName b.sourceName taken) h)
    exact ⟨name, later, congrArg (_ :: ·) hnames, hfirst.perm List.perm_middle⟩

/-- The volumes that do not depend on the sources. -/
def fixedVolumes (temporaryClaim : Option String) (policy : Policy) : List PodFields.Volume :=
  ⟨some ⟨some "Memory", some policy.shmSize⟩, sharedMemoryVolume, none⟩ ::
    temporaryClaim.toList.map (claimVolume modelStorageVolume)

section

variable (temporaryClaim : Option String) (mounts : List CacheMount) (policy : Policy)

theorem volumes_runtimeVolumes :
    (runtimeVolumes temporaryClaim mounts policy).volumes =
      fixedVolumes temporaryClaim policy ++
        ((cacheVolumeNames (fixedVolumeNames temporaryClaim) mounts).zip mounts).map fun e =>
          claimVolume e.1 e.2.claimName := rfl

theorem mount_names_runtimeVolumes :
    (runtimeVolumes temporaryClaim mounts policy).mounts.map (·.name) =
      (runtimeVolumes temporaryClaim mounts policy).volumes.map (·.name) := by
  unfold runtimeVolumes
  simp only [List.map_cons, List.map_append, List.map_map]
  rfl

theorem claims_cacheVolumes (taken : List String) :
    (((cacheVolumeNames taken mounts).zip mounts).map fun e =>
        claimVolume e.1 e.2.claimName).map (·.persistentVolumeClaim) =
      mounts.map fun m => some ⟨m.claimName, none⟩ := by
  conv_rhs => rw [← map_snd_zip_cacheVolumeNames mounts taken]
  rw [List.map_map, List.map_map]
  rfl

theorem isVolumeName_of_mem_runtimeVolumes (h : mounts.length + 2 < 10 ^ 61) {name : String}
    (hname : name ∈ (runtimeVolumes temporaryClaim mounts policy).volumes.map (·.name)) :
    IsVolumeName name := by
  have hshared : IsVolumeName sharedMemoryVolume := ⟨by decide, by decide⟩
  have hstorage : IsVolumeName modelStorageVolume := ⟨by decide, by decide⟩
  rw [names_runtimeVolumes] at hname
  rcases List.mem_append.1 hname with hfixed | hcached
  · rcases List.mem_cons.1 hfixed with rfl | htemporary
    · exact hshared
    · obtain ⟨claim, -, rfl⟩ := List.mem_map.1 htemporary
      exact hstorage
  · have hlength : (fixedVolumeNames temporaryClaim).length ≤ 2 := by
      cases temporaryClaim <;> simp [fixedVolumeNames]
    exact isVolumeName_of_mem_cacheVolumeNames
      (sharedMemoryVolume_mem_fixedVolumeNames temporaryClaim) (by omega) hcached

variable {mounts} in
/-- The volume of a source comes after those of the sources before it, and has the first of the
names of its source that none of them has. -/
theorem exists_volume_in_turn {before after : List CacheMount} {m : CacheMount}
    (h : mounts = before ++ m :: after) :
    ∃ name later, (runtimeVolumes temporaryClaim mounts policy).volumes =
        (runtimeVolumes temporaryClaim before policy).volumes ++
          claimVolume name m.claimName :: later ∧
      FirstFree (volumeBase m.sourceName)
        ((runtimeVolumes temporaryClaim before policy).volumes.map (·.name)) name := by
  subst h
  obtain ⟨name, later, hnames, hfirst⟩ := cacheVolumeNames_append_cons
    (sharedMemoryVolume_mem_fixedVolumeNames temporaryClaim) before m after
  refine ⟨name, (later.zip after).map fun e => claimVolume e.1 e.2.claimName, ?_, ?_⟩
  · rw [volumes_runtimeVolumes, volumes_runtimeVolumes, hnames,
      List.zip_append (length_cacheVolumeNames _ _), List.zip_cons_cons, List.map_append,
      List.map_cons, List.append_assoc]
  · rw [names_runtimeVolumes]
    exact hfirst.perm (List.perm_append_comm.trans
      ((List.perm_append_singleton _ _).append_right _))

end

/-- The volumes of a runtime are the shared memory, the temporary volume if there is one, and one
for each source in order with the claim of the source. No two share a name. All names are labels of
at most 63 letters, where only a list too long for any memory would run out of numbers. Each source
gets the first of its names that is free, and its own name if that is. The container mounts the
volumes in their order. -/
theorem volumes_named_in_turn (temporaryClaim : Option String) (mounts : List CacheMount)
    (policy : Policy) :
    let made := runtimeVolumes temporaryClaim mounts policy
    let names := made.volumes.map (·.name)
    names.Nodup ∧
    (mounts.length + 2 < 10 ^ 61 → ∀ name ∈ names, IsVolumeName name) ∧
    made.mounts.map (·.name) = names ∧
    (∃ cached, made.volumes = fixedVolumes temporaryClaim policy ++ cached ∧
      cached.map (·.persistentVolumeClaim) = mounts.map fun m => some ⟨m.claimName, none⟩) ∧
    ∀ before m after, mounts = before ++ m :: after →
      let earlier := (runtimeVolumes temporaryClaim before policy).volumes
      ∃ name later, made.volumes = earlier ++ claimVolume name m.claimName :: later ∧
        FirstFree (volumeBase m.sourceName) (earlier.map (·.name)) name ∧
        (volumeBase m.sourceName ∉ earlier.map (·.name) → name = volumeBase m.sourceName) := by
  intro made names
  refine ⟨nodup_names_runtimeVolumes temporaryClaim mounts policy, ?_,
    mount_names_runtimeVolumes temporaryClaim mounts policy, ?_, ?_⟩
  · intro hfew name hname
    exact isVolumeName_of_mem_runtimeVolumes temporaryClaim mounts policy hfew hname
  · exact ⟨_, volumes_runtimeVolumes temporaryClaim mounts policy,
      claims_cacheVolumes mounts _⟩
  · intro before m after hmounts earlier
    obtain ⟨name, later, hvolumes, hfirst⟩ :=
      exists_volume_in_turn temporaryClaim policy hmounts
    exact ⟨name, later, hvolumes, hfirst, hfirst.eq_base⟩

def weightsTwice : List CacheMount :=
  [⟨"Llama.Weights", "a-claim"⟩, ⟨"llama_weights", "b-claim"⟩]

theorem weights_twice_in_turn :
    weightsTwice.length + 2 < 10 ^ 61 ∧
      (runtimeVolumes none weightsTwice Policy.standard).volumes.map (·.name) =
        ["dshm", "llama-weights", "llama-weights-2"] ∧
      ∀ name ∈ ["dshm", "llama-weights", "llama-weights-2"], IsVolumeName name := by
  have hfew : weightsTwice.length + 2 < 10 ^ 61 := by decide
  have hnames : (runtimeVolumes none weightsTwice Policy.standard).volumes.map (·.name) =
      ["dshm", "llama-weights", "llama-weights-2"] := by decide +kernel
  obtain ⟨-, hlegal, -⟩ := volumes_named_in_turn none weightsTwice Policy.standard
  exact ⟨hfew, hnames, fun name hname => hlegal hfew name (hnames ▸ hname)⟩

end InferenceReconciler
