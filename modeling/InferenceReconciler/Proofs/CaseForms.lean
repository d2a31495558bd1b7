import InferenceReconciler.Proofs.OverriddenRuntime
import Mathlib.Data.List.Basic

/-!
# Capital and small forms

The tables of letter case lead from each letter to its other form and no further: a letter that is
a capital form of another has no capital form but itself, and a capital form is a blank only where
the letter is one. So a text in capitals stays as it is, trimmed or not. No small form is a capital
of ASCII.
-/

namespace InferenceReconciler

/-- A row holds every `step`-th code from `first` to `last`, and shifts them all alike. -/
abbrev CaseRow := Nat × Nat × Nat × Int

namespace CaseRow

def Holds (row : CaseRow) (n : Nat) : Prop :=
  row.1 ≤ n ∧ n ≤ row.2.1 ∧ (n - row.1) % row.2.2.1 = 0

def image (row : CaseRow) (n : Nat) : Nat := n + row.2.2.2.toNat - (-row.2.2.2).toNat

theorem image_eq (row : CaseRow) (n : Nat) : row.image n = (n + row.2.2.2).toNat := by
  unfold image
  omega

/-- Whether the row leads to no code between two codes, as all its own are shifted past them. -/
def avoids (row : CaseRow) (first last : Nat) : Bool :=
  Nat.blt (row.image row.2.1) first || Nat.blt last (row.image row.1)

/-- Whether the row leads to no code of another: it leads past all of them or, where the other has
every second code, to codes between them. -/
def stepsPast (row other : CaseRow) : Bool :=
  row.avoids other.1 other.2.1 ||
    ((row.2.2.1 == 2 || row.1 == row.2.1) && other.2.2.1 == 2 &&
      (row.image row.1 + other.1) % 2 == 1)

variable {row other : CaseRow} {n first last : Nat}

theorem image_bounds (h : row.Holds n) :
    row.image row.1 ≤ row.image n ∧ row.image n ≤ row.image row.2.1 := by
  obtain ⟨hfirst, hlast, -⟩ := h
  unfold image
  omega

theorem outside_of_avoids (h : row.Holds n) (havoids : row.avoids first last = true) :
    row.image n < first ∨ last < row.image n := by
  simp only [avoids, Bool.or_eq_true, Nat.blt_eq] at havoids
  obtain ⟨hfirst, hlast⟩ := image_bounds h
  omega

theorem not_holds_of_stepsPast (h : row.Holds n) (hshift : (-row.2.2.2).toNat ≤ row.1)
    (hpast : row.stepsPast other = true) : ¬ other.Holds (row.image n) := by
  rintro ⟨hfirst, hlast, hstep⟩
  rw [stepsPast, Bool.or_eq_true] at hpast
  rcases hpast with havoids | hsteps
  · have hout := outside_of_avoids h havoids
    omega
  · simp only [Bool.and_eq_true, Bool.or_eq_true, beq_iff_eq] at hsteps
    obtain ⟨⟨heven, htwo⟩, hodd⟩ := hsteps
    obtain ⟨hlow, hhigh, hn⟩ := h
    have hn' : (n - row.1) % 2 = 0 := by
      rcases heven with heven | hsingle
      · rwa [heven] at hn
      · omega
    rw [htwo] at hstep
    unfold image at hstep hodd hfirst
    omega

end CaseRow

theorem holds_of_caseShift? {table : List CaseRow} {n : Nat} {shift : Int}
    (h : caseShift? table n = some shift) : ∃ row ∈ table, row.Holds n ∧ shift = row.2.2.2 := by
  obtain ⟨⟨first, last, step, d⟩, hrow, hshift⟩ := List.exists_of_findSome?_eq_some h
  dsimp only at hshift
  split at hshift
  · rename_i hholds
    simp only [Bool.and_eq_true, decide_eq_true_eq, beq_iff_eq, and_assoc] at hholds
    exact ⟨_, hrow, hholds, (Option.some.inj hshift).symm⟩
  · cases hshift

theorem caseShift?_eq_none {table : List CaseRow} {n : Nat}
    (h : ∀ row ∈ table, ¬ row.Holds n) : caseShift? table n = none := by
  rw [caseShift?, List.findSome?_eq_none_iff]
  rintro ⟨first, last, step, d⟩ hrow
  refine if_neg fun hholds => h _ hrow ?_
  simpa only [CaseRow.Holds, Bool.and_eq_true, decide_eq_true_eq, beq_iff_eq, and_assoc] using hholds

/-- A letter is mapped by an expansion, by a row that holds it, or to itself. -/
theorem mem_mapCase {shifts : List CaseRow} {expansions : List (Nat × List Nat)} {c d : Char}
    (h : d ∈ mapCase shifts expansions c) :
    (∃ e ∈ expansions, ∃ code ∈ e.2, d = Char.ofNat code) ∨
      (∃ row ∈ shifts, row.Holds c.toNat ∧ d = Char.ofNat (row.image c.toNat)) ∨
      d = c ∧ mapCase shifts expansions c = [c] := by
  cases hcodes : expansions.lookup c.toNat with
  | some codes =>
    rw [mapCase, hcodes] at h
    obtain ⟨code, hcode, rfl⟩ := List.mem_map.1 h
    exact .inl ⟨_, mem_of_lookup_eq_some hcodes, code, hcode, rfl⟩
  | none =>
    cases hshift : caseShift? shifts c.toNat with
    | some shift =>
      rw [mapCase, hcodes, hshift] at h
      obtain ⟨row, hrow, hholds, rfl⟩ := holds_of_caseShift? hshift
      refine .inr (.inl ⟨row, hrow, hholds, ?_⟩)
      rw [row.image_eq]
      exact List.mem_singleton.1 h
    | none =>
      rw [mapCase, hcodes, hshift] at h
      refine .inr (.inr ⟨List.mem_singleton.1 h, ?_⟩)
      rw [mapCase, hcodes, hshift]

/-- Whether a letter has no other capital form and is no blank. -/
def isCapitalForm (c : Char) : Bool := upperLetters c == [c] && !isBlank c

/-- The blanks that are no characters of ASCII, from code to code. -/
def farBlanks : List (Nat × Nat) :=
  [(0x80, 0xA0), (0x1680, 0x1680), (0x2000, 0x205F), (0x3000, 0x3000)]

theorem farBlanks_of_isBlank {c : Char} (h : isBlank c = true) :
    c.toNat < 128 ∨ ∃ blanks ∈ farBlanks, blanks.1 ≤ c.toNat ∧ c.toNat ≤ blanks.2 := by
  simp only [isBlank, Bool.or_eq_true, Bool.and_eq_true, decide_eq_true_eq, beq_iff_eq] at h
  simp only [farBlanks, List.mem_cons, List.not_mem_nil, or_false, or_and_right, exists_or,
    exists_eq_left]
  omega

/-- What is to be seen of a row without a look at each of its codes: that it leads to capitals,
of ASCII from a single code only. -/
def CaseRow.leadsToCapitals (row : CaseRow) : Bool :=
  Nat.ble (-row.2.2.2).toNat row.1 && row.avoids 0xD800 0xDFFF &&
    Nat.blt (row.image row.2.1) 0x110000 &&
    (row.avoids 0 127 || row.1 == row.2.1 && isCapitalForm (Char.ofNat (row.image row.1))) &&
    (upperExpansions.all fun e => row.avoids e.1 e.1) &&
    (upperShifts.all fun other => row.stepsPast other) &&
    farBlanks.all fun blanks => row.avoids blanks.1 blanks.2

set_option maxRecDepth 10000 in
theorem leadsToCapitals_of_mem_upperShifts :
    ∀ row ∈ upperShifts, CaseRow.leadsToCapitals row = true := by
  decide +kernel

theorem isCapitalForm_of_mem_upperExpansions :
    ∀ e ∈ upperExpansions, ∀ code ∈ e.2, isCapitalForm (Char.ofNat code) = true := by
  decide +kernel

theorem toNat_ofNat_of_valid {n : Nat} (h : n < 0xD800 ∨ 0xDFFF < n ∧ n < 0x110000) :
    (Char.ofNat n).toNat = n := by
  have hvalid : n.isValidChar := h
  rw [Char.ofNat, dif_pos hvalid]
  rfl

theorem CaseRow.isCapitalForm_of_holds {row : CaseRow} {n : Nat} (h : row.Holds n)
    (hleads : row.leadsToCapitals = true) : isCapitalForm (Char.ofNat (row.image n)) = true := by
  simp only [leadsToCapitals, Bool.and_eq_true, Bool.or_eq_true, Nat.ble_eq, Nat.blt_eq,
    List.all_eq_true, beq_iff_eq] at hleads
  obtain ⟨⟨⟨⟨⟨⟨hshift, hsurrogates⟩, hlimit⟩, hascii⟩, hexpansions⟩, hshifts⟩, hblanks⟩ := hleads
  obtain havoids | ⟨hsingle, hcapital⟩ := hascii
  · have hcode : (Char.ofNat (row.image n)).toNat = row.image n := by
      have hout := outside_of_avoids h hsurrogates
      have hbound := (image_bounds h).2
      exact toNat_ofNat_of_valid (by omega)
    have hfar : ¬ row.image n < 128 := by
      have hout := outside_of_avoids h havoids
      omega
    have hlookup : upperExpansions.lookup (row.image n) = none := by
      refine List.lookup_eq_none_iff.2 fun e he => ?_
      have hout := outside_of_avoids h (hexpansions e he)
      exact bne_iff_ne.2 (by omega)
    have hnone : caseShift? upperShifts (row.image n) = none :=
      caseShift?_eq_none fun other hother => not_holds_of_stepsPast h hshift (hshifts other hother)
    have hblank : isBlank (Char.ofNat (row.image n)) = false := by
      refine Bool.eq_false_iff.2 fun hblank => ?_
      obtain hlow | ⟨blanks, hmem, hfirst, hlast⟩ := farBlanks_of_isBlank hblank
      · exact hfar (hcode ▸ hlow)
      · have hout := outside_of_avoids h (hblanks blanks hmem)
        omega
    rw [isCapitalForm, hblank, upperLetters, hcode, if_neg hfar, mapCase, hcode, hlookup, hnone]
    simp
  · have hn : n = row.1 := by
      have hbounds := h
      unfold Holds at hbounds
      omega
    rw [hn]
    exact hcapital

theorem capital_of_mem_upperLetters {c d : Char} (h : d ∈ upperLetters c) :
    upperLetters d = [d] ∧ (isBlank d = true → isBlank c = true) := by
  have hform : ∀ e, isCapitalForm e = true →
      upperLetters e = [e] ∧ (isBlank e = true → isBlank c = true) := by
    intro e he
    simp only [isCapitalForm, Bool.and_eq_true, beq_iff_eq, Bool.not_eq_true'] at he
    exact ⟨he.1, fun hblank => absurd hblank (by simp [he.2])⟩
  by_cases hascii : c.toNat < 128
  · have hc : upperLetters c.toUpper = [c.toUpper] ∧
        (isBlank c.toUpper = true → isBlank c = true) :=
      forall_ascii c hascii (by decide +kernel)
    rw [upperLetters_of_lt hascii, List.mem_singleton] at h
    rwa [← h] at hc
  · have hfar : upperLetters c = mapCase upperShifts upperExpansions c := if_neg hascii
    rw [hfar] at h
    obtain ⟨e, he, code, hcode, rfl⟩ | ⟨row, hrow, hholds, rfl⟩ | ⟨rfl, hsame⟩ := mem_mapCase h
    · exact hform _ (isCapitalForm_of_mem_upperExpansions e he code hcode)
    · exact hform _ (CaseRow.isCapitalForm_of_holds hholds
        (leadsToCapitals_of_mem_upperShifts row hrow))
    · exact ⟨hfar.trans hsame, id⟩

theorem toList_uppercase (s : String) : (uppercase s).toList = s.toList.flatMap upperLetters :=
  String.toList_ofList

def InCapitals (l : List Char) : Prop := ∀ c ∈ l, upperLetters c = [c]

theorem inCapitals_uppercase (s : String) : InCapitals (uppercase s).toList := by
  intro d hd
  rw [toList_uppercase] at hd
  obtain ⟨c, -, hmem⟩ := List.mem_flatMap.1 hd
  exact (capital_of_mem_upperLetters hmem).1

theorem InCapitals.uppercase_eq {s : String} (h : InCapitals s.toList) : uppercase s = s := by
  apply String.toList_inj.1
  rw [toList_uppercase]
  exact (List.flatMap_congr h).trans (List.flatMap_singleton' s.toList)

theorem InCapitals.of_subset {l part : List Char} (h : InCapitals l) (hsub : part ⊆ l) :
    InCapitals part := fun c hc => h c (hsub hc)

theorem isUpper_ofNat {n : Nat} (h : 90 < n) : (Char.ofNat n).isUpper = false := by
  by_cases hvalid : n.isValidChar
  · rw [Char.ofNat, dif_pos hvalid]
    refine Bool.eq_false_iff.2 fun hupper => ?_
    have hle := UInt32.le_iff_toNat_le.1 (of_decide_eq_true hupper).2
    exact absurd hle (Nat.not_le.2 h)
  · rw [Char.ofNat, dif_neg hvalid]
    rfl

theorem avoids_capitals_of_mem_lowerShifts : ∀ row ∈ lowerShifts, CaseRow.avoids row 0 90 = true := by
  decide +kernel

theorem isUpper_of_mem_lowerLetters {c d : Char} (h : d ∈ lowerLetters c) :
    d.isUpper = false := by
  by_cases hascii : c.toNat < 128
  · have hc : c.toLower.isUpper = false := forall_ascii c hascii (by decide)
    rw [lowerLetters_of_lt hascii, List.mem_singleton] at h
    rwa [← h] at hc
  · have hfar : lowerLetters c = mapCase lowerShifts lowerExpansions c := if_neg hascii
    rw [hfar] at h
    obtain ⟨e, he, code, hcode, rfl⟩ | ⟨row, hrow, hholds, rfl⟩ | ⟨rfl, -⟩ := mem_mapCase h
    · have hall : ∀ e ∈ lowerExpansions, ∀ code ∈ e.2, 90 < code := by decide
      exact isUpper_ofNat (hall e he code hcode)
    · have hout := CaseRow.outside_of_avoids hholds (avoids_capitals_of_mem_lowerShifts row hrow)
      exact isUpper_ofNat (by omega)
    · rw [← Char.ofNat_toNat d]
      exact isUpper_ofNat (by omega)

end InferenceReconciler
