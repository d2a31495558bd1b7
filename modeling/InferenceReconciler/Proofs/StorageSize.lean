import InferenceReconciler.WeightStorage
import Mathlib.Algebra.Order.Floor.Div
import Mathlib.Data.List.Forall2

/-!
# Size of the storage

The temporary volume of a service is made as small as it may be: so many GiB that the weights and
the headroom fit, and no GiB more. The size is rounded up twice on the way, to whole bytes and to
whole GiB, which comes to the same as rounding up once. The sizes of the sources have 64 bits each
and the machine adds them up in 128, which suffice for as many sources as anybody has.
-/

namespace InferenceReconciler

theorem ceilDiv_le_iff {a b g : Nat} (hb : 0 < b) : ceilDiv a b ≤ g ↔ a ≤ g * b := by
  rw [Nat.mul_comm]
  exact ceilDiv_le_iff_le_mul hb

theorem ceilDiv_le (a : Nat) {b : Nat} (hb : 0 < b) : ceilDiv a b ≤ a :=
  (ceilDiv_le_iff hb).2 (Nat.le_mul_of_pos_right a hb)

/-- Rounding up to whole bytes first makes no difference to the GiB. -/
theorem ceilDiv_bytes_le_iff {a g : Nat} :
    ceilDiv (ceilDiv a 100) bytesPerGi ≤ g ↔ a ≤ g * 2 ^ 30 * 100 := by
  rw [ceilDiv_le_iff (by decide), ceilDiv_le_iff (by decide)]
  rfl

/-- The GiB for some bytes are the least that hold them with headroom, as far as 64 bits go. -/
theorem giWithHeadroom_eq {total : Nat} (htotal : 0 < total) (headroom : Nat) :
    ∃ least, IsLeast {gi | total * (100 + headroom) ≤ gi * 2 ^ 30 * 100} least ∧ 1 ≤ least ∧
      (least - 1) * 2 ^ 30 * 100 < total * (100 + headroom) ∧
      giWithHeadroom total headroom = min least (2 ^ 64 - 1) := by
  let least := ceilDiv (ceilDiv (total * (100 + headroom)) 100) bytesPerGi
  have hiff : ∀ gi, least ≤ gi ↔ total * (100 + headroom) ≤ gi * 2 ^ 30 * 100 :=
    fun gi => ceilDiv_bytes_le_iff
  have hscaled : 0 < total * (100 + headroom) := Nat.mul_pos htotal (by omega)
  have hpositive : 1 ≤ least := by
    by_contra hzero
    have hfits := (hiff 0).1 (by omega)
    omega
  refine ⟨least, ⟨(hiff least).1 (Nat.le_refl _), fun gi hgi => (hiff gi).2 hgi⟩, hpositive,
    ?_, ?_⟩
  · apply Nat.lt_of_not_le
    intro hless
    have hle := (hiff (least - 1)).2 hless
    omega
  · change max (min least (2 ^ 64 - 1)) 1 = min least (2 ^ 64 - 1)
    omega

/-- The size of the source is given, can be read, and is this positive number of bytes. -/
structure ModelSource.Measures (s : ModelSource) (bytes : Nat) : Prop where
  read : ∃ size, trimmed? s.size = some size ∧ parseBytes size = .ok bytes
  positive : 0 < bytes

theorem parseBytes_le {quantity : String} {bytes : Nat} (h : parseBytes quantity = .ok bytes) :
    bytes ≤ maxUInt64 := by
  unfold parseBytes at h
  generalize splitQuantity (trimBlanks quantity).toList = parts at h
  obtain ⟨number, suffix, multiplier⟩ := parts
  dsimp only at h
  cases hwhole : wholeNumber? number with
  | some n =>
    rw [hwhole] at h
    dsimp only at h
    by_cases hle : n * multiplier ≤ maxUInt64
    · rw [if_pos hle] at h
      cases h
      exact hle
    · rw [if_neg hle] at h
      cases h
  | none =>
    rw [hwhole] at h
    cases hamount : amount? number with
    | some x =>
      rw [hamount] at h
      cases h
      exact Magnitude.ceilCapped_le _ _
    | none =>
      rw [hamount] at h
      cases h

namespace ModelSource

variable {s : ModelSource} {bytes : Nat}

theorem sized_eq_ok_iff {x : SizedSource} :
    s.sized = .ok x ↔ x.name = s.name ∧
      match trimmed? s.size with
      | some size => parseBytes size = .ok x.bytes
      | none => x.bytes = 0 := by
  obtain ⟨name, bytes⟩ := x
  unfold sized
  cases trimmed? s.size with
  | none => simp [eq_comm]
  | some size =>
    dsimp only
    cases parseBytes size with
    | error f => simp [Except.map]
    | ok b => simp [Except.map, eq_comm]

theorem measures_iff : s.Measures bytes ↔ s.sized = .ok ⟨s.name, bytes⟩ ∧ 0 < bytes := by
  rw [sized_eq_ok_iff]
  constructor
  · rintro ⟨⟨size, hsize, hbytes⟩, hpositive⟩
    rw [hsize]
    exact ⟨⟨rfl, hbytes⟩, hpositive⟩
  · rintro ⟨⟨-, hsized⟩, hpositive⟩
    cases hsize : trimmed? s.size with
    | none =>
      rw [hsize] at hsized
      exact absurd hsized (Nat.ne_of_gt hpositive)
    | some size =>
      rw [hsize] at hsized
      exact ⟨⟨size, hsize, hsized⟩, hpositive⟩

theorem bytes_le_of_sized {x : SizedSource} (h : s.sized = .ok x) : x.bytes ≤ maxUInt64 := by
  obtain ⟨-, hsized⟩ := sized_eq_ok_iff.1 h
  cases hsize : trimmed? s.size with
  | none =>
    rw [hsize] at hsized
    exact Nat.le_trans (Nat.le_of_eq hsized) (Nat.zero_le _)
  | some size =>
    rw [hsize] at hsized
    exact parseBytes_le hsized

end ModelSource

theorem mapM_eq_ok_iff {α β ε : Type} {f : α → Except ε β} {l : List α} {results : List β} :
    l.mapM f = .ok results ↔ List.Forall₂ (fun a b => f a = .ok b) l results := by
  induction l generalizing results with
  | nil =>
    rw [List.forall₂_nil_left_iff]
    exact ⟨fun h => (Except.ok.inj h).symm, fun h => congrArg Except.ok h.symm⟩
  | cons a rest ih =>
    rw [List.mapM_cons, List.forall₂_cons_left_iff]
    constructor
    · intro h
      cases ha : f a with
      | error e =>
        rw [ha] at h
        cases h
      | ok b =>
        rw [ha] at h
        cases hrest : rest.mapM f with
        | error e =>
          rw [hrest] at h
          cases h
        | ok others =>
          rw [hrest] at h
          cases h
          exact ⟨b, others, rfl, ih.1 hrest, rfl⟩
    · rintro ⟨b, others, hb, hrest, rfl⟩
      rw [hb, ih.2 hrest]
      rfl

theorem exists_of_forall₂_right {α β : Type} {R : α → β → Prop} {l : List α} {results : List β}
    (h : List.Forall₂ R l results) {b : β} (hb : b ∈ results) : ∃ a ∈ l, R a b := by
  induction h with
  | nil => cases hb
  | cons hab hrest ih =>
    rcases List.mem_cons.1 hb with rfl | hmem
    · exact ⟨_, List.mem_cons_self, hab⟩
    · obtain ⟨a, ha, hrel⟩ := ih hmem
      exact ⟨a, List.mem_cons_of_mem _ ha, hrel⟩

theorem requiredStorageGi_eq_ok_iff {sources : List SizedSource} {headroom gi : Nat} :
    requiredStorageGi sources headroom = .ok gi ↔
      sources ≠ [] ∧ (∀ s ∈ sources, 0 < s.bytes) ∧
        gi = giWithHeadroom (totalBytes sources) headroom := by
  unfold requiredStorageGi
  by_cases hempty : sources = []
  · simp [hempty]
  · rw [if_neg (by simpa using hempty)]
    cases hunsized : sources.find? fun s => s.bytes == 0 with
    | some s =>
      have hzero := List.find?_some hunsized
      have hmem := List.mem_of_find?_eq_some hunsized
      constructor
      · intro h
        cases h
      · rintro ⟨-, hpositive, -⟩
        exact absurd (hpositive s hmem) (by simpa using hzero)
    | none =>
      have hpositive : ∀ s ∈ sources, 0 < s.bytes := by
        intro s hs
        have hne := List.find?_eq_none.1 hunsized s hs
        exact Nat.pos_of_ne_zero (by simpa using hne)
      constructor
      · intro h
        exact ⟨hempty, hpositive, (Except.ok.inj h).symm⟩
      · rintro ⟨-, -, rfl⟩
        rfl

theorem forall₂_measures_iff {sources : List ModelSource} {sizes : List Nat} :
    List.Forall₂ ModelSource.Measures sources sizes ↔
      ∃ sized, sources.mapM ModelSource.sized = .ok sized ∧ (∀ x ∈ sized, 0 < x.bytes) ∧
        sized.map (·.bytes) = sizes := by
  simp only [mapM_eq_ok_iff]
  induction sources generalizing sizes with
  | nil =>
    simp only [List.forall₂_nil_left_iff]
    constructor
    · rintro rfl
      exact ⟨[], rfl, List.forall_mem_nil _, rfl⟩
    · rintro ⟨sized, rfl, -, rfl⟩
      rfl
  | cons s rest ih =>
    simp only [List.forall₂_cons_left_iff]
    constructor
    · rintro ⟨bytes, others, hs, hrest, rfl⟩
      obtain ⟨hsized, hpositive⟩ := ModelSource.measures_iff.1 hs
      obtain ⟨sized, hall, hpositives, rfl⟩ := ih.1 hrest
      exact ⟨_, ⟨_, sized, hsized, hall, rfl⟩,
        List.forall_mem_cons.2 ⟨hpositive, hpositives⟩, rfl⟩
    · rintro ⟨_, ⟨x, sized, hsized, hall, rfl⟩, hpositives, rfl⟩
      obtain ⟨hpositive, hrest⟩ := List.forall_mem_cons.1 hpositives
      have hname : x = ⟨s.name, x.bytes⟩ := by
        rw [← (ModelSource.sized_eq_ok_iff.1 hsized).1]
      refine ⟨x.bytes, sized.map (·.bytes), ?_, ih.2 ⟨sized, hall, hrest, rfl⟩, rfl⟩
      exact ModelSource.measures_iff.2 ⟨hname ▸ hsized, hpositive⟩

theorem exists_sizes_iff {sources : List ModelSource} :
    (∃ sizes, List.Forall₂ ModelSource.Measures sources sizes) ↔
      ∀ s ∈ sources, ∃ bytes, s.Measures bytes := by
  induction sources with
  | nil => exact ⟨fun _ => List.forall_mem_nil _, fun _ => ⟨[], .nil⟩⟩
  | cons s rest ih =>
    rw [List.forall_mem_cons, ← ih]
    constructor
    · rintro ⟨_, _ | ⟨hs, hrest⟩⟩
      exact ⟨⟨_, hs⟩, _, hrest⟩
    · rintro ⟨⟨bytes, hs⟩, sizes, hrest⟩
      exact ⟨bytes :: sizes, .cons hs hrest⟩

theorem totalBytes_eq_sum (sized : List SizedSource) :
    totalBytes sized = (sized.map (·.bytes)).sum := by
  induction sized with
  | nil => rfl
  | cons x rest ih => rw [totalBytes, ih, List.map_cons, List.sum_cons]

theorem storageSizeGi_eq_ok_iff {sources : List ModelSource} {headroom : UInt32} {gi : Nat} :
    storageSizeGi sources headroom = .ok gi ↔
      sources ≠ [] ∧ ∃ sizes, List.Forall₂ ModelSource.Measures sources sizes ∧
        gi = giWithHeadroom sizes.sum headroom.toNat := by
  have hok : storageSizeGi sources headroom = .ok gi ↔
      ∃ sized, sources.mapM ModelSource.sized = .ok sized ∧
        requiredStorageGi sized headroom.toNat = .ok gi := by
    unfold storageSizeGi
    cases sources.mapM ModelSource.sized with
    | error f => simp [Except.bind]
    | ok sized =>
      simp only [Except.bind, Except.ok.injEq, exists_eq_left']
      cases requiredStorageGi sized headroom.toNat with
      | error f => simp
      | ok found => simp
  have hempty : ∀ sized, sources.mapM ModelSource.sized = .ok sized →
      (sized ≠ [] ↔ sources ≠ []) := by
    intro sized hsized
    have hlength := (mapM_eq_ok_iff.1 hsized).length_eq
    rw [← List.length_pos_iff, ← List.length_pos_iff, hlength]
  rw [hok]
  constructor
  · rintro ⟨sized, hsized, hrequired⟩
    obtain ⟨hne, hpositive, rfl⟩ := requiredStorageGi_eq_ok_iff.1 hrequired
    exact ⟨(hempty sized hsized).1 hne, _, forall₂_measures_iff.2 ⟨sized, hsized, hpositive, rfl⟩,
      by rw [totalBytes_eq_sum]⟩
  · rintro ⟨hne, sizes, hsizes, rfl⟩
    obtain ⟨sized, hsized, hpositive, rfl⟩ := forall₂_measures_iff.1 hsizes
    refine ⟨sized, hsized, requiredStorageGi_eq_ok_iff.2 ⟨(hempty sized hsized).2 hne, hpositive,
      ?_⟩⟩
    rw [totalBytes_eq_sum]

def within128? (n : Nat) : Option Nat := if n < 2 ^ 128 then some n else none

theorem within128?_of_lt {n : Nat} (h : n < 2 ^ 128) : within128? n = some n := if_pos h

/-- The sizes added up one after the other, in 128 bits. One that is unknown ends the sum. -/
def sumIn128? (total : Nat) : List SizedSource → Option (Except Fault Nat)
  | [] => some (.ok total)
  | s :: rest =>
    if s.bytes = 0 then
      some (.error (.invalid s!"model source {quoted s.name} has no size specified"))
    else (within128? (total + s.bytes)).bind fun total => sumIn128? total rest

/-- The GiB for some bytes with headroom, in 128 bits. There are none where a step overflows. -/
def giIn128? (total headroom : Nat) : Option Nat :=
  (within128? (100 + headroom)).bind fun percent =>
  (within128? (total * percent)).bind fun scaled =>
  (within128? (ceilDiv scaled 100)).bind fun bytes =>
  (within128? (ceilDiv bytes bytesPerGi)).map fun gi => max (min gi maxUInt64) 1

/-- The storage for the sources in GiB, in 128 bits from one step to the next. -/
def requiredStorageGiIn128? (sources : List SizedSource) (headroom : Nat) :
    Option (Except Fault Nat) :=
  if sources.isEmpty then some (.error (.invalid "no model sources to size storage for"))
  else
    (sumIn128? 0 sources).bind fun
      | .error f => some (.error f)
      | .ok total => (giIn128? total headroom).map .ok

theorem sumIn128?_eq {total : Nat} {sources : List SizedSource}
    (h : total + totalBytes sources < 2 ^ 128) :
    sumIn128? total sources = some
      (match sources.find? fun s => s.bytes == 0 with
        | some s => .error (.invalid s!"model source {quoted s.name} has no size specified")
        | none => .ok (total + totalBytes sources)) := by
  induction sources generalizing total with
  | nil => rfl
  | cons s rest ih =>
    rw [totalBytes] at h
    by_cases hzero : s.bytes = 0
    · rw [sumIn128?, if_pos hzero, List.find?_cons_of_pos (by simpa using hzero)]
    · rw [sumIn128?, if_neg hzero, List.find?_cons_of_neg (by simpa using hzero),
        within128?_of_lt (by omega), Option.bind_some, ih (by omega), totalBytes, Nat.add_assoc]

theorem totalBytes_le {sources : List SizedSource} (h : ∀ s ∈ sources, s.bytes ≤ maxUInt64) :
    totalBytes sources ≤ sources.length * maxUInt64 := by
  induction sources with
  | nil => exact Nat.zero_le _
  | cons s rest ih =>
    obtain ⟨hs, hrest⟩ := List.forall_mem_cons.1 h
    have hsum := ih hrest
    rw [totalBytes, List.length_cons, Nat.succ_mul]
    omega

theorem giIn128?_eq {total headroom : Nat} (htotal : total < 2 ^ 95)
    (hheadroom : headroom < 2 ^ 32) :
    giIn128? total headroom = some (giWithHeadroom total headroom) := by
  -- The sum has 95 bits and the percentage 33; what is rounded up afterwards does not grow.
  have hscaled : total * (100 + headroom) < 2 ^ 128 := by
    have hlt : total * (100 + headroom) < 2 ^ 95 * 2 ^ 33 :=
      Nat.mul_lt_mul_of_lt_of_le htotal (by omega) (Nat.two_pow_pos 33)
    rwa [← Nat.pow_add] at hlt
  have hbytes : ceilDiv (total * (100 + headroom)) 100 < 2 ^ 128 :=
    Nat.lt_of_le_of_lt (ceilDiv_le _ (by decide)) hscaled
  have hgi : ceilDiv (ceilDiv (total * (100 + headroom)) 100) bytesPerGi < 2 ^ 128 :=
    Nat.lt_of_le_of_lt (ceilDiv_le _ (by decide)) hbytes
  unfold giIn128? giWithHeadroom
  rw [within128?_of_lt (by omega), Option.bind_some, within128?_of_lt hscaled, Option.bind_some,
    within128?_of_lt hbytes, Option.bind_some, within128?_of_lt hgi, Option.map_some]

/-- No step overflows for fewer than `2 ^ 31` sources, whatever the sizes and the headroom. -/
theorem requiredStorageGiIn128?_eq {sources : List SizedSource} {headroom : Nat}
    (hfew : sources.length < 2 ^ 31) (hsizes : ∀ s ∈ sources, s.bytes ≤ maxUInt64)
    (hheadroom : headroom < 2 ^ 32) :
    requiredStorageGiIn128? sources headroom = some (requiredStorageGi sources headroom) := by
  have htotal : totalBytes sources < 2 ^ 95 := by
    have hle := totalBytes_le hsizes
    have hmany : sources.length * maxUInt64 ≤ (2 ^ 31 - 1) * maxUInt64 :=
      Nat.mul_le_mul_right _ (by omega)
    unfold maxUInt64 at hle hmany
    omega
  unfold requiredStorageGiIn128? requiredStorageGi
  by_cases hempty : sources.isEmpty = true
  · rw [if_pos hempty, if_pos hempty]
  · rw [if_neg hempty, if_neg hempty, sumIn128?_eq (by omega), Option.bind_some, Nat.zero_add]
    cases sources.find? fun s => s.bytes == 0 with
    | some s => rfl
    | none =>
      dsimp only
      rw [giIn128?_eq htotal hheadroom, Option.map_some]

/-- The storage for some sources has a size if and only if there are sources and each of them is
measured. It is then the least number of GiB that hold the measured bytes with the headroom, or
what 64 bits hold at most, and computing it in 128 bits overflows nowhere. -/
theorem storage_size_least (sources : List ModelSource) (headroom : UInt32)
    (hfew : sources.length < 2 ^ 31) :
    ((∃ gi, storageSizeGi sources headroom = .ok gi) ↔
      sources ≠ [] ∧ ∀ s ∈ sources, ∃ bytes, s.Measures bytes) ∧
    (∀ sizes, sources ≠ [] → List.Forall₂ ModelSource.Measures sources sizes →
      ∃ least, IsLeast {gi | sizes.sum * (100 + headroom.toNat) ≤ gi * 2 ^ 30 * 100} least ∧
        1 ≤ least ∧ (least - 1) * 2 ^ 30 * 100 < sizes.sum * (100 + headroom.toNat) ∧
        storageSizeGi sources headroom = .ok (min least (2 ^ 64 - 1))) ∧
    ∀ sized, sources.mapM ModelSource.sized = .ok sized →
      requiredStorageGiIn128? sized headroom.toNat =
        some (requiredStorageGi sized headroom.toNat) := by
  refine ⟨?_, ?_, ?_⟩
  · rw [← exists_sizes_iff]
    constructor
    · rintro ⟨gi, h⟩
      obtain ⟨hne, sizes, hsizes, -⟩ := storageSizeGi_eq_ok_iff.1 h
      exact ⟨hne, sizes, hsizes⟩
    · rintro ⟨hne, sizes, hsizes⟩
      exact ⟨_, storageSizeGi_eq_ok_iff.2 ⟨hne, sizes, hsizes, rfl⟩⟩
  · intro sizes hne hsizes
    have hpositive : 0 < sizes.sum := by
      cases hsizes with
      | nil => exact absurd rfl hne
      | cons hs hrest =>
        rw [List.sum_cons]
        exact Nat.add_pos_left hs.positive _
    obtain ⟨least, hleast, hone, hless, hgi⟩ :=
      giWithHeadroom_eq hpositive headroom.toNat
    refine ⟨least, hleast, hone, hless, ?_⟩
    exact storageSizeGi_eq_ok_iff.2 ⟨hne, sizes, hsizes, hgi.symm⟩
  · intro sized hsized
    have hall := mapM_eq_ok_iff.1 hsized
    apply requiredStorageGiIn128?_eq (hall.length_eq ▸ hfew)
    · intro x hx
      obtain ⟨s, -, hs⟩ := exists_of_forall₂_right hall hx
      exact ModelSource.bytes_le_of_sized hs
    · exact headroom.toNat_lt

theorem nineteen_gi_for_two_sources :
    let sources : List ModelSource :=
      [⟨"weights", "hf://llama", some "16Gi"⟩, ⟨"adapter", "hf://tuned", some " 512Mi "⟩]
    let sized : List SizedSource := [⟨"weights", 17179869184⟩, ⟨"adapter", 536870912⟩]
    sources.length < 2 ^ 31 ∧ storageSizeGi sources 10 = .ok 19 ∧
      sources.mapM ModelSource.sized = .ok sized ∧
      requiredStorageGiIn128? sized 10 = some (requiredStorageGi sized 10) := by
  intro sources sized
  obtain ⟨-, hsize, hwide⟩ := storage_size_least sources 10 (by decide)
  have hsized : sources.mapM ModelSource.sized = .ok sized := by decide +kernel
  refine ⟨by decide, ?_, hsized, hwide sized hsized⟩
  have hmeasures : List.Forall₂ ModelSource.Measures sources [17179869184, 536870912] :=
    .cons ⟨⟨"16Gi", by decide +kernel, by decide +kernel⟩, by decide⟩
      (.cons ⟨⟨"512Mi", by decide +kernel, by decide +kernel⟩, by decide⟩ .nil)
  obtain ⟨least, hleast, -, -, hstorage⟩ := hsize _ (by decide) hmeasures
  have hnineteen : IsLeast {gi | [17179869184, 536870912].sum * (100 + (10 : UInt32).toNat) ≤
      gi * 2 ^ 30 * 100} 19 := by
    constructor
    · decide
    · intro gi hgi
      change 17716740096 * 110 ≤ gi * 2 ^ 30 * 100 at hgi
      omega
  rw [hstorage, hleast.unique hnineteen]
  rfl

end InferenceReconciler
