import InferenceReconciler.ByteQuantity
import InferenceReconciler.Proofs.RoundedNumbers
import InferenceReconciler.Proofs.TrimmedLists
import Mathlib.Data.List.TakeWhile

/-!
# Quantities of whole numbers

A quantity of digits alone and perhaps a suffix. What is computed from a number of 64 bits is exact
or refused. A longer number is no such number any more and is read like a fraction: its bytes are
cut off at 64 bits and its multiples lose their last digits, until it is too large for that as well.
-/

namespace InferenceReconciler

open Magnitude (overflowBound)

section

variable {digits : List Char} (hdigits : ∀ c ∈ digits, c.isDigit = true)
  {unit : String × Nat} (hunit : unit ∈ ("", 1) :: quantitySuffixes)

include hdigits

/-- What holds no digit ends a number with a suffix only if it ends the suffix. -/
theorem suffix_digits_append_iff {ending suffix : List Char}
    (hending : ∀ c ∈ ending, c.isDigit = false) :
    ending <:+ digits ++ suffix ↔ ending <:+ suffix := by
  constructor
  · intro h
    rcases Nat.le_total ending.length suffix.length with hshort | hlong
    · exact List.suffix_of_suffix_length_le h (List.suffix_append digits suffix) hshort
    · obtain ⟨before, rfl⟩ :=
        List.suffix_of_suffix_length_le (List.suffix_append digits suffix) h hlong
      cases before with
      | nil => exact List.suffix_refl suffix
      | cons c rest =>
        have hdigit := hdigits c
          ((List.suffix_append_self_iff.1 h).subset List.mem_cons_self)
        rw [hending c (List.mem_append_left suffix List.mem_cons_self)] at hdigit
        cases hdigit
  · intro h
    exact h.trans (List.suffix_append digits suffix)

omit hdigits in
include hunit in
theorem isDigit_isBlank_of_mem_suffix {c : Char} (hc : c ∈ unit.1.toList) :
    c.isDigit = false ∧ isBlank c = false := by
  have hletters : ∀ unit ∈ ("", 1) :: quantitySuffixes,
      (unit.1.toList.all fun c => !c.isDigit && !isBlank c) = true := by decide +kernel
  simpa using List.all_eq_true.1 (hletters unit hunit) c hc

omit hdigits in
include hunit in
theorem eq_of_suffix_of_mem {other : String × Nat} (hother : other ∈ quantitySuffixes)
    (h : other.1.toList <:+ unit.1.toList) : other = unit := by
  have hdistinct : ∀ other ∈ quantitySuffixes, ∀ unit ∈ ("", 1) :: quantitySuffixes,
      other.1.toList <:+ unit.1.toList → other = unit := by decide +kernel
  exact hdistinct other hother unit hunit h

include hunit

theorem withoutSuffix?_digits_append {other : String × Nat} (hother : other ∈ quantitySuffixes) :
    withoutSuffix? other.1.toList (digits ++ unit.1.toList) =
      if other = unit then some digits else none := by
  have hsuffix : other.1.toList.isSuffixOf (digits ++ unit.1.toList) = true ↔ other = unit := by
    rw [List.isSuffixOf_iff_suffix, suffix_digits_append_iff hdigits fun c hc =>
      (isDigit_isBlank_of_mem_suffix (List.mem_cons_of_mem _ hother) hc).1]
    constructor
    · exact eq_of_suffix_of_mem hunit hother
    · rintro rfl
      exact List.suffix_refl _
  unfold withoutSuffix?
  by_cases heq : other = unit
  · rw [if_pos (hsuffix.2 heq), if_pos heq, heq, List.length_append, Nat.add_sub_cancel,
      List.take_left]
  · rw [if_neg fun h => heq (hsuffix.1 h), if_neg heq]

theorem splitQuantity_digits_append :
    splitQuantity (digits ++ unit.1.toList) = (digits, unit.1, unit.2) := by
  have hparts : ∀ other ∈ quantitySuffixes,
      ((withoutSuffix? other.1.toList (digits ++ unit.1.toList)).map fun number =>
        (number, other.1, other.2)) =
        if other = unit then some (digits, unit.1, unit.2) else none := by
    intro other hother
    rw [withoutSuffix?_digits_append hdigits hunit hother]
    by_cases heq : other = unit
    · rw [if_pos heq, if_pos heq, heq, Option.map_some]
    · rw [if_neg heq, if_neg heq, Option.map_none]
  unfold splitQuantity
  split
  · rename_i parts hfound
    obtain ⟨other, hother, hsome⟩ := List.exists_of_findSome?_eq_some hfound
    have hsplit := (hparts other hother).symm.trans hsome
    split at hsplit
    · exact (Option.some.inj hsplit).symm
    · cases hsplit
  · rename_i hfound
    rcases List.mem_cons.1 hunit with rfl | hmem
    · exact Prod.ext (List.append_nil digits) rfl
    · have hnone := (hparts unit hmem).symm.trans (List.findSome?_eq_none_iff.1 hfound unit hmem)
      rw [if_pos rfl] at hnone
      cases hnone

theorem trimBlanks_digits_append :
    trimBlanks (String.ofList digits ++ unit.1) = String.ofList digits ++ unit.1 := by
  apply String.toList_inj.1
  rw [toList_trimBlanks, String.toList_append, String.toList_ofList]
  apply dropAround_of_forall_eq_false
  intro c hc
  rcases List.mem_append.1 hc with hdigit | hletter
  · exact isBlank_eq_false_of_isDigit (hdigits c hdigit)
  · exact (isDigit_isBlank_of_mem_suffix hunit hletter).2

/-- Thousandths are no unit of a whole number with a suffix. -/
theorem withoutSuffix?_thousandths :
    withoutSuffix? ['m'] (digits ++ unit.1.toList) = none := by
  have hnone : ∀ unit ∈ ("", 1) :: quantitySuffixes, ¬ ['m'] <:+ unit.1.toList := by
    decide +kernel
  unfold withoutSuffix?
  rw [if_neg]
  have hletter : ∀ c ∈ ['m'], c.isDigit = false := fun c hc => by
    rw [List.mem_singleton.1 hc]
    rfl
  rw [List.isSuffixOf_iff_suffix, suffix_digits_append_iff hdigits hletter]
  exact hnone unit hunit

end

section

variable {digits : List Char} (hne : digits ≠ []) (hdigits : ∀ c ∈ digits, c.isDigit = true)

include hne hdigits

theorem wholeNumber?_digits :
    wholeNumber? digits =
      if Nat.ofDigitChars 10 digits 0 < 2 ^ 64 then some (Nat.ofDigitChars 10 digits 0)
      else none := by
  have hread : (digits.isEmpty || !digits.all Char.isDigit) = false := by
    rw [List.all_eq_true.2 hdigits, Bool.not_true, Bool.or_false]
    exact List.isEmpty_eq_false_iff.2 hne
  have hbound : ∀ n, n ≤ maxUInt64 ↔ n < 2 ^ 64 := fun n => Nat.lt_succ_iff.symm
  unfold wholeNumber?
  split
  · cases hdigits '+' List.mem_cons_self
  · dsimp only
    rw [hread, if_neg Bool.false_ne_true]
    simp only [hbound]

theorem decimalText?_digits :
    decimalText? digits = some (.ofNat (Nat.ofDigitChars 10 digits 0)) := by
  have hguard : (!(digits.isEmpty && List.isEmpty ([] : List Char))) = true := by
    rw [List.isEmpty_eq_false_iff.2 hne]
    rfl
  unfold decimalText?
  split
  rename_i negative unsigned hsign
  have hunsigned : negative = false ∧ unsigned = digits := by
    split at hsign
    · cases hdigits '-' List.mem_cons_self
    · cases hdigits '+' List.mem_cons_self
    · cases hsign
      exact ⟨rfl, rfl⟩
  obtain ⟨rfl, rfl⟩ := hunsigned
  dsimp only
  rw [List.takeWhile_eq_self_iff.2 hdigits, List.dropWhile_eq_nil_iff.2 hdigits]
  dsimp only
  rw [hguard, List.append_nil]
  exact congrArg (fun x => some (Binary64.mk false x)) (Magnitude.ofDecimal_whole _)

theorem amount?_digits :
    amount? digits =
      if Nat.ofDigitChars 10 digits 0 < overflowBound then
        some (.ofNat (Nat.ofDigitChars 10 digits 0))
      else none := by
  unfold amount?
  rw [decimalText?_digits hne hdigits, Option.filter_some]
  have hamount : ((Binary64.ofNat (Nat.ofDigitChars 10 digits 0)).isFinite &&
      !(Binary64.ofNat (Nat.ofDigitChars 10 digits 0)).isNegative) = true ↔
      Nat.ofDigitChars 10 digits 0 < overflowBound := by
    rw [← Magnitude.isFinite_ofRatio_one_iff]
    exact Iff.of_eq (congrArg (· = true) (Bool.and_true _))
  simp only [hamount]

end

theorem ceilCapped_mulNat {n m : Nat} (hn : 2 ^ 64 ≤ n) (hm : 0 < m) :
    ((Binary64.ofNat n).mulNat m).magnitude.ceilCapped maxUInt64 = 2 ^ 64 - 1 := by
  have hfactor : (Magnitude.ofRatio n 1).AtLeast (2 ^ 64) :=
    Magnitude.ofRatio_atLeast Nat.one_pos (by omega)
  have hunit : (Magnitude.ofRatio m 1).AtLeast (2 ^ 0) :=
    Magnitude.ofRatio_atLeast Nat.one_pos (by omega)
  apply Magnitude.ceilCapped_of_atLeast
  intro a b hratio
  have hle : 2 ^ 64 * b ≤ a := hfactor.mul hunit a b hratio
  exact Nat.le_trans (Nat.mul_le_mul_right b (by decide)) hle

theorem positionalText_mulNat_zero {n : Nat} (hn : n < overflowBound) :
    ((Binary64.ofNat n).mulNat 0).positionalText = ['0'] := by
  have hfinite := (Magnitude.isFinite_ofRatio_one_iff n).2 hn
  have hzero : (Magnitude.ofRatio n 1).mul (Magnitude.ofRatio 0 1) = Magnitude.zero := by
    rw [Magnitude.ofRatio_zero]
    cases hx : Magnitude.ofRatio n 1 with
    | finite m e =>
      unfold Magnitude.mul Magnitude.zero
      rw [Magnitude.toRatio_finite, Magnitude.toRatio_finite]
      dsimp only
      rw [Nat.zero_mul, Nat.mul_zero, Magnitude.ofRatio_zero]
      rfl
    | infinite =>
      rw [hx] at hfinite
      cases hfinite
  unfold Binary64.mulNat Binary64.ofNat
  dsimp only
  rw [hzero]
  rfl

section

variable {digits : List Char} (hne : digits ≠ []) (hdigits : ∀ c ∈ digits, c.isDigit = true)
  {suffix : String} {m : Nat} (hsuffix : (suffix, m) ∈ ("", 1) :: quantitySuffixes)

include hne hdigits hsuffix

theorem parseBytes_digits_append :
    parseBytes (String.ofList digits ++ suffix) =
      let n := Nat.ofDigitChars 10 digits 0
      let quantity := String.ofList digits ++ suffix
      if n < 2 ^ 64 then
        if n * m < 2 ^ 64 then .ok (n * m)
        else .error (.invalid s!"quantity '{quantity}' overflows")
      else if n < overflowBound then .ok (2 ^ 64 - 1)
      else .error (.invalid s!"invalid quantity '{quantity}' (expected e.g., '128Mi', '1Gi')") := by
  have hm : 0 < m := by
    have hpositive : ∀ unit ∈ ("", 1) :: quantitySuffixes, 0 < unit.2 := by decide
    exact hpositive _ hsuffix
  have hbound : Nat.ofDigitChars 10 digits 0 * m ≤ maxUInt64 ↔
      Nat.ofDigitChars 10 digits 0 * m < 2 ^ 64 := Nat.lt_succ_iff.symm
  unfold parseBytes
  rw [trimBlanks_digits_append hdigits hsuffix, String.toList_append, String.toList_ofList,
    splitQuantity_digits_append hdigits hsuffix]
  dsimp only
  rw [wholeNumber?_digits hne hdigits]
  by_cases hwhole : Nat.ofDigitChars 10 digits 0 < 2 ^ 64
  · rw [if_pos hwhole, if_pos hwhole]
    simp only [hbound]
  · rw [if_neg hwhole, if_neg hwhole, amount?_digits hne hdigits]
    by_cases hfinite : Nat.ofDigitChars 10 digits 0 < overflowBound
    · rw [if_pos hfinite, if_pos hfinite]
      exact congrArg Except.ok (ceilCapped_mulNat (Nat.le_of_not_lt hwhole) hm)
    · rw [if_neg hfinite, if_neg hfinite]

theorem scaleQuantity_digits_append (k : Nat) :
    scaleQuantity (String.ofList digits ++ suffix) k =
      let n := Nat.ofDigitChars 10 digits 0
      let quantity := String.ofList digits ++ suffix
      if n < 2 ^ 64 then
        if n * k < 2 ^ 64 then .ok (toString (n * k) ++ suffix)
        else .error (.invalid s!"quantity '{quantity}' overflows")
      else if n < overflowBound then
        .ok (String.ofList ((Binary64.ofNat n).mulNat k).positionalText ++ suffix)
      else .error (.invalid s!"invalid quantity '{quantity}'") := by
  have hbound : Nat.ofDigitChars 10 digits 0 * k ≤ maxUInt64 ↔
      Nat.ofDigitChars 10 digits 0 * k < 2 ^ 64 := Nat.lt_succ_iff.symm
  unfold scaleQuantity
  rw [trimBlanks_digits_append hdigits hsuffix]
  dsimp only
  rw [String.toList_append, String.toList_ofList,
    withoutSuffix?_thousandths hdigits hsuffix, splitQuantity_digits_append hdigits hsuffix]
  dsimp only
  rw [wholeNumber?_digits hne hdigits]
  by_cases hwhole : Nat.ofDigitChars 10 digits 0 < 2 ^ 64
  · rw [if_pos hwhole, if_pos hwhole]
    simp only [hbound]
    rfl
  · rw [if_neg hwhole, if_neg hwhole, amount?_digits hne hdigits]
    by_cases hfinite : Nat.ofDigitChars 10 digits 0 < overflowBound
    · rw [if_pos hfinite, if_pos hfinite]
    · rw [if_neg hfinite, if_neg hfinite]

end

/-- A whole number of 64 bits with a suffix is turned into bytes and multiplied exactly, or refused
where the result has more than 64 bits. A longer number comes to the most bytes there are, and its
multiples other than zero are rounded, as long as binary64 reaches that far. -/
theorem whole_quantities_exact_within_64_bits (digits : List Char) (hne : digits ≠ [])
    (hdigits : ∀ c ∈ digits, c.isDigit = true) {suffix : String} {m : Nat}
    (hsuffix : (suffix, m) ∈ ("", 1) :: quantitySuffixes) (k : UInt64) :
    let n := Nat.ofDigitChars 10 digits 0
    let quantity := String.ofList digits ++ suffix
    (n < 2 ^ 64 →
      parseBytes quantity = (if n * m < 2 ^ 64 then .ok (n * m)
        else .error (.invalid s!"quantity '{quantity}' overflows")) ∧
      scaleQuantity quantity k.toNat =
        (if n * k.toNat < 2 ^ 64 then .ok (toString (n * k.toNat) ++ suffix)
        else .error (.invalid s!"quantity '{quantity}' overflows"))) ∧
    (2 ^ 64 ≤ n → n < overflowBound →
      parseBytes quantity = .ok (2 ^ 64 - 1) ∧
      scaleQuantity quantity k.toNat =
        .ok (String.ofList ((Binary64.ofNat n).mulNat k.toNat).positionalText ++ suffix) ∧
      scaleQuantity quantity 0 = .ok ("0" ++ suffix)) ∧
    (overflowBound ≤ n →
      parseBytes quantity = .error
        (.invalid s!"invalid quantity '{quantity}' (expected e.g., '128Mi', '1Gi')") ∧
      scaleQuantity quantity k.toNat = .error (.invalid s!"invalid quantity '{quantity}'")) := by
  intro n quantity
  have hbytes := parseBytes_digits_append hne hdigits hsuffix
  have hscale := scaleQuantity_digits_append hne hdigits hsuffix
  refine ⟨fun hwhole => ?_, fun hlong hfinite => ?_, fun hinfinite => ?_⟩
  · exact ⟨hbytes.trans (if_pos hwhole), (hscale _).trans (if_pos hwhole)⟩
  · have hwhole : ¬ n < 2 ^ 64 := Nat.not_lt.2 hlong
    refine ⟨hbytes.trans ((if_neg hwhole).trans (if_pos hfinite)),
      (hscale _).trans ((if_neg hwhole).trans (if_pos hfinite)), ?_⟩
    refine (hscale 0).trans ((if_neg hwhole).trans ((if_pos hfinite).trans ?_))
    exact congrArg (fun text => Except.ok (String.ofList text ++ suffix))
      (positionalText_mulNat_zero hfinite)
  · have hwhole : ¬ n < 2 ^ 64 := by
      have hlong := Magnitude.two_pow_le_overflowBound (by decide : 64 ≤ 1023)
      omega
    have hfinite : ¬ n < overflowBound := Nat.not_lt.2 hinfinite
    exact ⟨hbytes.trans ((if_neg hwhole).trans (if_neg hfinite)),
      (hscale _).trans ((if_neg hwhole).trans (if_neg hfinite))⟩

theorem tebibytes_up_to_64_bits :
    parseBytes "16777215Ti" = .ok 18446742974197923840 ∧
      parseBytes "16777216Ti" =
        .error (.invalid "quantity '16777216Ti' overflows") ∧
      scaleQuantity "16777216Ti" 1099511627775 = .ok "18446744073692774400Ti" := by
  have hunit : ("Ti", 1099511627776) ∈ ("", 1) :: quantitySuffixes := by decide
  have hfits := whole_quantities_exact_within_64_bits "16777215".toList (by decide +kernel)
    (List.all_eq_true.1 (by decide +kernel)) hunit 1
  have hoverflows := whole_quantities_exact_within_64_bits "16777216".toList (by decide +kernel)
    (List.all_eq_true.1 (by decide +kernel)) hunit 1099511627775
  have hvalue : Nat.ofDigitChars 10 "16777215".toList 0 = 16777215 ∧
      Nat.ofDigitChars 10 "16777216".toList 0 = 16777216 := by decide +kernel
  have htext : ("16777215" : String) ++ "Ti" = "16777215Ti" ∧
      ("16777216" : String) ++ "Ti" = "16777216Ti" := by decide +kernel
  simp only [String.ofList_toList, hvalue, htext] at hfits hoverflows
  obtain ⟨hbytes, hscaled⟩ := hoverflows.1 (by decide)
  refine ⟨(hfits.1 (by decide)).1.trans (if_pos (by decide)),
    hbytes.trans ((if_neg (by decide)).trans ?_), hscaled.trans ((if_pos (by decide)).trans ?_)⟩
  · decide +kernel
  · decide +kernel

/-- The first number of more than 64 bits is taken for one byte less, and once it is no longer
itself. -/
theorem long_quantity_rounded :
    Nat.ofDigitChars 10 "18446744073709551616".toList 0 = 2 ^ 64 ∧
      parseBytes "18446744073709551616" = .ok 18446744073709551615 ∧
      scaleQuantity "18446744073709551616" 1 = .ok "18446744073709552000" := by
  decide +kernel

end InferenceReconciler
