import InferenceReconciler.Proofs.NameDigests
import InferenceReconciler.RuntimeVolumes
import Mathlib.Data.List.Nodup
import Mathlib.Data.List.Perm.Subperm

/-!
# Names of volumes

No two volumes of a runtime share a name. A name with a number can be told from every other
number, so as many numbered names as there are names taken cannot all be taken: the name of the
shared memory is taken from the start and has no number. Each cached source therefore has a
volume with its claim, and the container mounts that volume and no other in its directory.
-/

namespace InferenceReconciler

theorem dash_not_mem_toDigits (n : Nat) : '-' ∉ Nat.toDigits 10 n := by
  intro h
  have hdigit := Nat.isDigit_of_mem_toDigits (by decide) (by decide) h
  exact absurd hdigit (by decide)

theorem toList_numberedVolume (base : String) (n : Nat) :
    ∃ stem, (numberedVolume base n).toList = stem ++ '-' :: Nat.toDigits 10 n := by
  refine ⟨dropTrailing isDash (base.toList.take (maxNameLength - s!"-{n}".length)), ?_⟩
  have hsuffix : s!"-{n}".toList = '-' :: Nat.toDigits 10 n := by simp [toString, Nat.repr]
  unfold numberedVolume
  rw [String.toList_append, String.toList_ofList, hsuffix]

theorem numberedVolume_injective (base : String) : Function.Injective (numberedVolume base) := by
  intro m n h
  obtain ⟨stem, hm⟩ := toList_numberedVolume base m
  obtain ⟨stem', hn⟩ := toList_numberedVolume base n
  have hdigits : Nat.toDigits 10 m = Nat.toDigits 10 n :=
    eq_of_append_dash_eq (dash_not_mem_toDigits m) (dash_not_mem_toDigits n)
      (hm.symm.trans ((congrArg String.toList h).trans hn))
  rw [← Nat.ofDigitChars_ten_toDigits (n := m), hdigits, Nat.ofDigitChars_ten_toDigits]

theorem numberedVolume_ne_sharedMemoryVolume (base : String) (n : Nat) :
    numberedVolume base n ≠ sharedMemoryVolume := by
  intro h
  obtain ⟨stem, hstem⟩ := toList_numberedVolume base n
  have hdash : '-' ∈ (numberedVolume base n).toList := by
    rw [hstem]
    exact List.mem_append_right _ List.mem_cons_self
  rw [h] at hdash
  exact absurd hdash (by decide)

/-- Of the numbered names that are tried one is not taken. -/
theorem exists_numberedVolume_not_mem (base : String) {taken : List String}
    (h : sharedMemoryVolume ∈ taken) :
    ∃ name ∈ (List.range taken.length).map (fun i => numberedVolume base (i + 2)),
      name ∉ taken := by
  by_contra hall
  have hsubset : (List.range taken.length).map (fun i => numberedVolume base (i + 2)) ⊆ taken := by
    intro name hname
    by_contra hfree
    exact hall ⟨name, hname, hfree⟩
  have hnodup : ((List.range taken.length).map fun i => numberedVolume base (i + 2)).Nodup := by
    refine List.nodup_range.map ?_
    intro i j hij
    have hsucc := numberedVolume_injective base hij
    omega
  -- All of them would be all the names taken, and the shared memory is not among them.
  have hperm := (hnodup.subperm hsubset).perm_of_length_le (by simp)
  obtain ⟨i, -, hi⟩ := List.mem_map.1 (hperm.mem_iff.2 h)
  exact numberedVolume_ne_sharedMemoryVolume base (i + 2) hi

/-- The names that are tried for a source, one after the other. -/
def volumeCandidate (base : String) : ℕ → String
  | 0 => base
  | k + 1 => numberedVolume base (k + 2)

/-- A search among the candidates ends at the name: it is free and all before it are taken, which
are no more than there are names taken. -/
def FirstFree (base : String) (taken : List String) (name : String) : Prop :=
  ∃ k ≤ taken.length, volumeCandidate base k = name ∧ name ∉ taken ∧
    ∀ j < k, volumeCandidate base j ∈ taken

theorem volumeNames_eq (base : String) (n : ℕ) :
    volumeNames base n = (List.range (n + 1)).map (volumeCandidate base) := by
  rw [List.range_succ_eq_map, List.map_cons, List.map_map]
  rfl

namespace FirstFree

variable {base name : String} {taken taken' : List String}

theorem not_mem (h : FirstFree base taken name) : name ∉ taken := by
  obtain ⟨k, -, -, hfree, -⟩ := h
  exact hfree

/-- In which order the names were taken does not matter. -/
theorem perm (h : FirstFree base taken name) (hperm : taken.Perm taken') :
    FirstFree base taken' name := by
  obtain ⟨k, hle, hk, hfree, hbefore⟩ := h
  exact ⟨k, hperm.length_eq ▸ hle, hk, fun htaken => hfree (hperm.mem_iff.2 htaken),
    fun j hj => hperm.mem_iff.1 (hbefore j hj)⟩

theorem eq_base (h : FirstFree base taken name) (hbase : base ∉ taken) : name = base := by
  obtain ⟨k, -, rfl, -, hbefore⟩ := h
  cases k with
  | zero => rfl
  | succ k => exact absurd (hbefore 0 (Nat.succ_pos k)) hbase

end FirstFree

theorem firstFree_freeVolumeName (source : String) {taken : List String}
    (h : sharedMemoryVolume ∈ taken) :
    FirstFree (volumeBase source) taken (freeVolumeName source taken) := by
  obtain ⟨other, hother, hfree⟩ := exists_numberedVolume_not_mem (volumeBase source) h
  have hsome : ((volumeNames (volumeBase source) taken.length).find? fun name =>
      !taken.contains name).isSome = true := by
    rw [List.find?_isSome]
    exact ⟨other, List.mem_cons_of_mem _ hother, by simpa using hfree⟩
  obtain ⟨name, hname⟩ := Option.isSome_iff_exists.1 hsome
  have hfound : freeVolumeName source taken = name := by
    unfold freeVolumeName
    dsimp only
    rw [hname, Option.getD_some]
  obtain ⟨hnot, k, hk, hat, hbefore⟩ := List.find?_eq_some_iff_getElem.1 hname
  simp only [volumeNames_eq, List.getElem_map, List.getElem_range] at hat hbefore
  rw [volumeNames_eq, List.length_map, List.length_range] at hk
  rw [hfound]
  exact ⟨k, Nat.le_of_lt_succ hk, hat, by simpa using hnot, fun j hj => by simpa using hbefore j hj⟩

theorem freeVolumeName_not_mem (source : String) {taken : List String}
    (h : sharedMemoryVolume ∈ taken) : freeVolumeName source taken ∉ taken :=
  (firstFree_freeVolumeName source h).not_mem

theorem cacheVolumeNames_fresh {taken : List String} (h : sharedMemoryVolume ∈ taken)
    (mounts : List CacheMount) :
    (cacheVolumeNames taken mounts).Nodup ∧
      ∀ name ∈ cacheVolumeNames taken mounts, name ∉ taken := by
  induction mounts generalizing taken with
  | nil => exact ⟨List.nodup_nil, fun name hname => by cases hname⟩
  | cons m rest ih =>
    obtain ⟨hnodup, hfresh⟩ := ih (List.mem_cons_of_mem (freeVolumeName m.sourceName taken) h)
    refine ⟨List.nodup_cons.2 ⟨fun hmem => hfresh _ hmem List.mem_cons_self, hnodup⟩, ?_⟩
    intro name hname
    rcases List.mem_cons.1 hname with rfl | hname
    · exact freeVolumeName_not_mem m.sourceName h
    · exact fun htaken => hfresh name hname (List.mem_cons_of_mem _ htaken)

section

variable (temporaryClaim : Option String) (mounts : List CacheMount) (policy : Policy)

/-- The names that are taken before the cached sources get theirs. -/
def fixedVolumeNames (temporaryClaim : Option String) : List String :=
  (temporaryClaim.toList.map fun _ => modelStorageVolume) ++ [sharedMemoryVolume]

theorem sharedMemoryVolume_mem_fixedVolumeNames :
    sharedMemoryVolume ∈ fixedVolumeNames temporaryClaim :=
  List.mem_append_right _ (List.mem_singleton_self _)

theorem map_snd_zip_cacheVolumeNames (taken : List String) :
    ((cacheVolumeNames taken mounts).zip mounts).map Prod.snd = mounts :=
  List.map_snd_zip (Nat.le_of_eq (length_cacheVolumeNames taken mounts).symm)

theorem names_runtimeVolumes :
    (runtimeVolumes temporaryClaim mounts policy).volumes.map (·.name) =
      sharedMemoryVolume :: (temporaryClaim.toList.map fun _ => modelStorageVolume) ++
        cacheVolumeNames (fixedVolumeNames temporaryClaim) mounts := by
  have hzip : ((cacheVolumeNames (fixedVolumeNames temporaryClaim) mounts).zip mounts).map
      (fun e => (claimVolume e.1 e.2.claimName).name) =
        cacheVolumeNames (fixedVolumeNames temporaryClaim) mounts :=
    List.map_fst_zip (Nat.le_of_eq (length_cacheVolumeNames _ _))
  unfold runtimeVolumes
  simp only [List.map_cons, List.map_append, List.map_map, List.cons_append]
  exact congrArg (fun l => sharedMemoryVolume ::
    ((temporaryClaim.toList.map fun _ => modelStorageVolume) ++ l)) hzip

theorem nodup_names_runtimeVolumes :
    ((runtimeVolumes temporaryClaim mounts policy).volumes.map (·.name)).Nodup := by
  have hshared := sharedMemoryVolume_mem_fixedVolumeNames temporaryClaim
  obtain ⟨hnodup, hfresh⟩ := cacheVolumeNames_fresh hshared mounts
  have hfixed : (sharedMemoryVolume ::
      (temporaryClaim.toList.map fun _ => modelStorageVolume)).Nodup := by
    cases temporaryClaim with
    | none => exact List.nodup_singleton _
    | some claim => simp [sharedMemoryVolume, modelStorageVolume]
  rw [names_runtimeVolumes]
  refine List.nodup_append'.2 ⟨hfixed, hnodup, ?_⟩
  intro name hname hcache
  apply hfresh name hcache
  rcases List.mem_cons.1 hname with rfl | hstorage
  · exact hshared
  · exact List.mem_append_left _ hstorage

variable {mounts} in
theorem exists_volume_of_mem {m : CacheMount} (h : m ∈ mounts) :
    ∃ name, claimVolume name m.claimName ∈
        (runtimeVolumes temporaryClaim mounts policy).volumes ∧
      volumeMount (cacheMountPath policy.cacheMountRoot m.sourceName) name ∈
        (runtimeVolumes temporaryClaim mounts policy).mounts := by
  have hsnd := map_snd_zip_cacheVolumeNames mounts (fixedVolumeNames temporaryClaim)
  obtain ⟨⟨name, m⟩, hpair, rfl⟩ := List.mem_map.1 (hsnd.symm ▸ h)
  exact ⟨_, List.mem_append_right _ (List.mem_map_of_mem hpair),
    List.mem_append_right _ (List.mem_map_of_mem hpair)⟩

variable {mounts policy} in
theorem exists_mount_of_claim {mount : PodFields.VolumeMount} {v : PodFields.Volume}
    {claim : String} (hmount : mount ∈ (runtimeVolumes none mounts policy).mounts)
    (hv : v ∈ (runtimeVolumes none mounts policy).volumes) (hname : v.name = mount.name)
    (hclaim : v.persistentVolumeClaim = some ⟨claim, none⟩) :
    ∃ m ∈ mounts, m.claimName = claim ∧
      mount.mountPath = cacheMountPath policy.cacheMountRoot m.sourceName := by
  have hnodup := nodup_names_runtimeVolumes none mounts policy
  rcases List.mem_cons.1 hmount with rfl | hmount
  · have hfirst : (⟨some ⟨some "Memory", some policy.shmSize⟩, sharedMemoryVolume, none⟩ :
        PodFields.Volume) ∈ (runtimeVolumes none mounts policy).volumes := List.mem_cons_self
    rw [List.inj_on_of_nodup_map hnodup hv hfirst hname] at hclaim
    cases hclaim
  · obtain ⟨e, he, rfl⟩ := List.mem_map.1 hmount
    have hvolume : claimVolume e.1 e.2.claimName ∈
        (runtimeVolumes none mounts policy).volumes :=
      List.mem_append_right _ (List.mem_map_of_mem he)
    rw [List.inj_on_of_nodup_map hnodup hv hvolume hname] at hclaim
    refine ⟨e.2, (List.of_mem_zip he).2, ?_, rfl⟩
    injection hclaim with hsource
    exact congrArg PodFields.ClaimSource.claimName hsource

end

end InferenceReconciler
