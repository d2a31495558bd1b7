import InferenceReconciler.Proofs.TrimmedLists
import InferenceReconciler.Timestamp
import Mathlib.Algebra.Group.Nat.Defs

/-!
# Timestamps read back

The printed form of an instant is read as the same instant. Each part is read off the front
of the text, whatever stands behind it, as long as that does not go on with a digit; the parts
are then put together in the order of the text.
-/

namespace InferenceReconciler

namespace Timestamp

theorem isDigit_of_mem_padded {width n : Nat} {c : Char} (h : c ∈ padded width n) :
    c.isDigit = true := by
  unfold padded at h
  rcases List.mem_append.1 h with hzero | hdigit
  · rw [List.eq_of_mem_replicate hzero]
    decide
  · exact Nat.isDigit_of_mem_toDigits (by decide) (by decide) hdigit

theorem padded_ne_nil (width n : Nat) : padded width n ≠ [] := by
  unfold padded
  exact List.append_ne_nil_of_right_ne_nil _ Nat.toDigits_ne_nil

theorem ofDigitChars_padded (width n : Nat) : Nat.ofDigitChars 10 (padded width n) 0 = n := by
  unfold padded
  rw [Nat.ofDigitChars_append, Nat.ofDigitChars_replicate_zero, Nat.mul_zero,
    Nat.ofDigitChars_ten_toDigits]

theorem length_padded {width n : Nat} (hw : 0 < width) (h : n < 10 ^ width) :
    (padded width n).length = width := by
  have hlength := (Nat.length_toDigits_le_iff (by decide) hw).2 h
  unfold padded
  rw [List.length_append, List.length_replicate]
  omega

/-- A text that does not start with a digit. -/
def EndsNumber (rest : List Char) : Prop := rest.takeWhile Char.isDigit = []

theorem endsNumber_cons {c : Char} (h : c.isDigit = false) (rest : List Char) :
    EndsNumber (c :: rest) := by
  unfold EndsNumber
  rw [List.takeWhile_cons_of_neg (by rw [h]; decide)]

theorem readDigits_padded {limit width n : Nat} {rest : List Char}
    (hlimit : (padded width n).length ≤ limit) (hrest : EndsNumber rest) :
    readDigits limit (padded width n ++ rest) = some (n, rest) := by
  have htake : (padded width n ++ rest).takeWhile Char.isDigit = padded width n := by
    rw [List.takeWhile_append_of_pos fun c hc => isDigit_of_mem_padded hc, hrest,
      List.append_nil]
  have hne : (padded width n).isEmpty = false := by
    simpa using padded_ne_nil width n
  unfold readDigits
  rw [htake, List.take_of_length_le hlimit]
  simp only [hne, Bool.false_eq_true, if_false, ofDigitChars_padded, List.drop_left]

theorem skipSpace_cons {c : Char} (h : isBlank c = false) (rest : List Char) :
    skipSpace (c :: rest) = c :: rest :=
  List.dropWhile_cons_of_neg (by rw [h]; decide)

theorem exists_cons_padded (width n : Nat) :
    ∃ c cs, padded width n = c :: cs ∧ c.isDigit = true := by
  obtain ⟨c, cs, hcons⟩ := List.exists_cons_of_ne_nil (padded_ne_nil width n)
  exact ⟨c, cs, hcons, isDigit_of_mem_padded (hcons ▸ List.mem_cons_self)⟩

theorem skipSpace_padded (width n : Nat) (rest : List Char) :
    skipSpace (padded width n ++ rest) = padded width n ++ rest := by
  obtain ⟨c, cs, hcons, hdigit⟩ := exists_cons_padded width n
  rw [hcons, List.cons_append]
  exact skipSpace_cons (isBlank_eq_false_of_isDigit hdigit) _

theorem readPart_padded {n : Nat} {rest : List Char} (h : n < 100) (hrest : EndsNumber rest) :
    readPart (padded 2 n ++ rest) = some (n, rest) := by
  unfold readPart
  rw [skipSpace_padded]
  exact readDigits_padded (Nat.le_of_eq (length_padded (by decide) h)) hrest

theorem readMark_self {c : Char} (h : isBlank c = false) (rest : List Char) :
    readMark c (c :: rest) = some rest := by
  unfold readMark
  rw [skipSpace_cons h]
  exact if_pos rfl

theorem readYear_yearText (year : Int) {rest : List Char} (hrest : EndsNumber rest) :
    readYear (yearText year ++ rest) = some (year, rest) := by
  unfold yearText
  by_cases hshort : 0 ≤ year ∧ year ≤ 9999
  · have hlimit : (padded 4 year.toNat).length ≤ 4 :=
      Nat.le_of_eq (length_padded (by decide) (by omega))
    obtain ⟨c, cs, hcons, hdigit⟩ := exists_cons_padded 4 year.toNat
    rw [if_pos hshort]
    unfold readYear
    rw [skipSpace_padded]
    split
    · rename_i hminus
      rw [hcons, List.cons_append] at hminus
      cases hminus
      cases hdigit
    · rename_i hplus
      rw [hcons, List.cons_append] at hplus
      cases hplus
      cases hdigit
    · rw [readDigits_padded hlimit hrest, Option.map_some]
      dsimp only
      rw [Int.toNat_of_nonneg hshort.1]
  · have hlimit : (padded 4 year.natAbs).length ≤ (padded 4 year.natAbs ++ rest).length := by
      rw [List.length_append]
      exact Nat.le_add_right _ _
    rw [if_neg hshort]
    unfold readYear
    by_cases hneg : year < 0
    · rw [if_pos hneg, List.cons_append, skipSpace_cons (by decide)]
      simp only [readDigits_padded hlimit hrest, Option.map_some]
      congr 2
      omega
    · rw [if_neg hneg, List.cons_append, skipSpace_cons (by decide)]
      simp only [readDigits_padded hlimit hrest, Option.map_some]
      congr 2
      omega

theorem readFraction_padded {width n : Nat} {rest : List Char} (hw : 0 < width)
    (hnine : width ≤ 9) (h : n < 10 ^ width) (hrest : EndsNumber rest) :
    readFraction ('.' :: padded width n ++ rest) = some (n * 10 ^ (9 - width), rest) := by
  have hlength := length_padded hw h
  have hread : readDigits 9 (padded width n ++ rest) = some (n, rest) :=
    readDigits_padded (Nat.le_trans (Nat.le_of_eq hlength) hnine) hrest
  have hcount : (padded width n ++ rest).length - rest.length = width := by
    rw [List.length_append, hlength, Nat.add_sub_cancel]
  have hdrop : rest.dropWhile Char.isDigit = rest := by
    have hsplit := List.takeWhile_append_dropWhile (p := Char.isDigit) (l := rest)
    rwa [hrest, List.nil_append] at hsplit
  simp only [readFraction, List.cons_append, hread, Option.bind_eq_bind, Option.bind_some, hcount,
    hdrop]
  rfl

theorem readFraction_fractionText {n : Nat} (h : n < 1000000000) :
    readFraction (fractionText n ++ ['Z']) = some (n, ['Z']) := by
  have hrest : EndsNumber ['Z'] := endsNumber_cons (by decide) []
  unfold fractionText
  split
  · rename_i hzero
    rw [hzero]
    rfl
  · split
    · rw [readFraction_padded (by decide) (by decide) (by omega) hrest]
      congr 2
      omega
    · split
      · rw [readFraction_padded (by decide) (by decide) (by omega) hrest]
        congr 2
        omega
      · rw [readFraction_padded (by decide) (by decide) (by omega) hrest]
        congr 2
        omega

theorem endsNumber_fractionText (n : Nat) : EndsNumber (fractionText n ++ ['Z']) := by
  unfold fractionText
  split
  · exact endsNumber_cons (by decide) _
  · split
    · exact endsNumber_cons (by decide) _
    · split <;> exact endsNumber_cons (by decide) _

theorem atOffset?_zero (t : Timestamp) : t.atOffset? 0 = some t := by
  have hhour := t.hour_lt
  have hminute := t.minute_lt
  have hday : ((t.hour : Int) * 60 + t.minute - 0) % 1440 = t.hour * 60 + t.minute := by omega
  have hnat : ((t.hour : Int) * 60 + t.minute).toNat = t.hour * 60 + t.minute := by omega
  unfold atOffset?
  dsimp only
  rw [if_neg (by omega), if_neg (by omega), hday, hnat,
    show (t.hour * 60 + t.minute) / 60 = t.hour by omega,
    show (t.hour * 60 + t.minute) % 60 = t.minute by omega]
  exact make?_self t

theorem month_lt (t : Timestamp) : t.month < 100 := by
  have hmonth := t.month_range
  omega

theorem day_lt (t : Timestamp) : t.day < 100 := by
  have hday := t.day_range.2
  have hdays : daysInMonth t.year t.month ≤ 31 := by
    unfold daysInMonth
    split
    · split <;> decide
    · split <;> decide
  omega

theorem bind_of_eq_some {α β : Type} {x : Option α} {a : α} {f : α → Option β}
    (h : x = some a) : (x >>= f) = f a := by
  rw [h]
  rfl

/-- What is printed is read back, to the nanosecond. -/
theorem read?_text (t : Timestamp) : read? t.text = some t := by
  have hmark : ∀ c : Char, c.isDigit = false → ∀ rest, EndsNumber (c :: rest) :=
    fun _ h rest => endsNumber_cons h rest
  have hhour : t.hour < 100 := Nat.lt_trans t.hour_lt (by decide)
  have hminute : t.minute < 100 := Nat.lt_trans t.minute_lt (by decide)
  have hsecond : t.second < 100 := Nat.lt_of_le_of_lt t.second_le (by decide)
  have hoffset : readOffset ['Z'] = some (0, []) := by decide
  have htext : t.text.toList =
      yearText t.year ++ '-' :: (padded 2 t.month ++ '-' :: (padded 2 t.day ++
        'T' :: (padded 2 t.hour ++ ':' :: (padded 2 t.minute ++
          ':' :: (padded 2 t.second ++ (fractionText t.nanosecond ++ ['Z'])))))) := by
    simp only [text, wholeSecondsText, String.toList_ofList, List.append_assoc,
      List.cons_append]
  unfold read?
  rw [htext]
  refine (bind_of_eq_some (readYear_yearText t.year (hmark '-' rfl _))).trans ?_
  refine (bind_of_eq_some (readMark_self (by decide) _)).trans ?_
  refine (bind_of_eq_some (readPart_padded t.month_lt (hmark '-' rfl _))).trans ?_
  refine (bind_of_eq_some (readMark_self (by decide) _)).trans ?_
  refine (bind_of_eq_some (readPart_padded t.day_lt (hmark 'T' rfl _))).trans ?_
  refine (bind_of_eq_some (readPart_padded hhour (hmark ':' rfl _))).trans ?_
  refine (bind_of_eq_some (readMark_self (by decide) _)).trans ?_
  refine (bind_of_eq_some (readPart_padded hminute (hmark ':' rfl _))).trans ?_
  refine (bind_of_eq_some (readMark_self (by decide) _)).trans ?_
  refine (bind_of_eq_some (readPart_padded hsecond (endsNumber_fractionText _))).trans ?_
  refine (bind_of_eq_some (readFraction_fractionText t.nanosecond_lt)).trans ?_
  refine (bind_of_eq_some hoffset).trans ?_
  refine (bind_of_eq_some (make?_self t)).trans ?_
  exact t.atOffset?_zero

end Timestamp

end InferenceReconciler
