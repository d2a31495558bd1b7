import InferenceReconciler.PodFields
import InferenceReconciler.Policy
import InferenceReconciler.WeightStorage

/-!
# Volumes of a runtime

Shared memory, the temporary volume if there is one, and one volume for each cached
source. A volume is named after its source; a name that is taken gets a number from two
on.
-/

namespace InferenceReconciler

def sharedMemoryVolume : String := "dshm"

def modelStorageVolume : String := "model-storage"

def volumeBase (source : String) : String :=
  let name := dnsLabel source
  if name.isEmpty then "cache" else name

/-- The base with a number, cut to the length of a name. -/
def numberedVolume (base : String) (n : Nat) : String :=
  let suffix := s!"-{n}"
  let stem := dropTrailing isDash (base.toList.take (maxNameLength - suffix.length))
  String.ofList stem ++ suffix

/-- The base and its numbered names, one more of them than there are names taken. -/
def volumeNames (base : String) (taken : Nat) : List String :=
  base :: (List.range taken).map fun i => numberedVolume base (i + 2)

def freeVolumeName (source : String) (taken : List String) : String :=
  let base := volumeBase source
  ((volumeNames base taken.length).find? fun name => !taken.contains name).getD base

def cacheVolumeNames (taken : List String) : List CacheMount → List String
  | [] => []
  | m :: rest =>
    let name := freeVolumeName m.sourceName taken
    name :: cacheVolumeNames (name :: taken) rest

@[simp] theorem length_cacheVolumeNames (taken : List String) (mounts : List CacheMount) :
    (cacheVolumeNames taken mounts).length = mounts.length := by
  induction mounts generalizing taken with
  | nil => rfl
  | cons m rest ih => simp [cacheVolumeNames, ih]

def claimVolume (name claim : String) : PodFields.Volume := ⟨none, name, some ⟨claim, none⟩⟩

def volumeMount (path name : String) : PodFields.VolumeMount where
  mountPath := path
  name := name

def cacheMountPath (root source : String) : String :=
  String.ofList (dropTrailing (· = '/') root.toList) ++ "/" ++ source

/-- Volumes, and where the serving container mounts them, in the same order. -/
structure RuntimeVolumes where
  volumes : List PodFields.Volume
  mounts : List PodFields.VolumeMount
  deriving DecidableEq

def runtimeVolumes (temporaryClaim : Option String) (mounts : List CacheMount)
    (policy : Policy) : RuntimeVolumes :=
  let temporary := temporaryClaim.toList
  let taken := (temporary.map fun _ => modelStorageVolume) ++ [sharedMemoryVolume]
  let named := (cacheVolumeNames taken mounts).zip mounts
  { volumes :=
      ⟨some ⟨some "Memory", some policy.shmSize⟩, sharedMemoryVolume, none⟩ ::
        temporary.map (claimVolume modelStorageVolume) ++
        named.map fun e => claimVolume e.1 e.2.claimName
    mounts :=
      volumeMount "/dev/shm" sharedMemoryVolume ::
        temporary.map (fun _ => volumeMount policy.cacheMountRoot modelStorageVolume) ++
        named.map fun e => volumeMount (cacheMountPath policy.cacheMountRoot e.2.sourceName) e.1 }

end InferenceReconciler
