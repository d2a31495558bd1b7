import InferenceReconciler.JsonText
import Mathlib.Data.Nat.Basic
import Mathlib.Data.Option.Basic

/-!
# Numbers and strings read back

The text of a whole number of 64 bits is read as that number in front of whatever ends it, and
the text of a string as that string, whichever of its characters are escaped.
-/

namespace InferenceReconciler

theorem isDigit_of_mem_digits {n : ℕ} {c : Char} (h : c ∈ Nat.toDigits 10 n) :
    c.isDigit = true := Nat.isDigit_of_mem_toDigits (by decide) (by decide) h

theorem exists_cons_digits (n : ℕ) : ∃ c cs, Nat.toDigits 10 n = c :: cs :=
  List.exists_cons_of_ne_nil Nat.toDigits_ne_nil

theorem eq_zero_of_head_digits {n : ℕ} (h : (Nat.toDigits 10 n).head? = some '0') : n = 0 := by
  induction n using Nat.strong_induction_on with
  | h n ih =>
    by_cases hlt : n < 10
    · rw [Nat.toDigits_of_lt_base hlt] at h
      exact Nat.digitChar_eq_zero.1 (Option.some.inj h)
    · obtain ⟨c, cs, hcons⟩ := exists_cons_digits (n / 10)
      rw [Nat.toDigits_of_base_le (by decide) (Nat.le_of_not_lt hlt), hcons] at h
      have hzero := ih (n / 10) (by omega) (by rw [hcons]; exact h)
      omega

theorem appendDigits_eq {digits : List Char} {significand : ℕ}
    (h : Nat.ofDigitChars 10 digits significand ≤ maxUInt64) :
    appendDigits significand digits = (Nat.ofDigitChars 10 digits significand, 0) := by
  induction digits generalizing significand with
  | nil => rfl
  | cons c digits ih =>
    have hnext : significand * 10 + (c.toNat - '0'.toNat) ≤
        Nat.ofDigitChars 10 (c :: digits) significand := by
      rw [Nat.ofDigitChars_cons, Nat.mul_comm significand, Nat.ofDigitChars_eq_ofDigitChars_zero]
      have hpos : 0 < 10 ^ digits.length := Nat.pow_pos (by decide)
      exact Nat.le_trans (Nat.le_mul_of_pos_left _ hpos) (Nat.le_add_right _ _)
    rw [Nat.ofDigitChars_cons] at h
    unfold appendDigits
    dsimp only
    rw [if_neg (Nat.not_lt.2 (Nat.le_trans hnext (by rwa [Nat.ofDigitChars_cons]))),
      Nat.mul_comm significand, ih h, Nat.ofDigitChars_cons]

/-- What may stand behind a value: nothing, or what goes on in the list or object around it. -/
def EndsValue (rest : List Char) : Prop :=
  ∀ c tail, rest = c :: tail → c = ',' ∨ c = ']' ∨ c = '\x7d'

theorem endsValue_cons {c : Char} {tail : List Char} (h : c = ',' ∨ c = ']' ∨ c = '\x7d') :
    EndsValue (c :: tail) := by
  intro d tail' heq
  cases heq
  exact h

theorem takeWhile_digits {n : ℕ} {rest : List Char} (h : EndsValue rest) :
    (Nat.toDigits 10 n ++ rest).takeWhile Char.isDigit = Nat.toDigits 10 n := by
  rw [List.takeWhile_append_of_pos fun c hc => isDigit_of_mem_digits hc]
  cases rest with
  | nil => exact List.append_nil _
  | cons c tail =>
    rcases h c tail rfl with rfl | rfl | rfl <;>
      exact List.append_nil _

theorem dropWhile_digits {n : ℕ} {rest : List Char} (h : EndsValue rest) :
    (Nat.toDigits 10 n ++ rest).dropWhile Char.isDigit = rest := by
  rw [List.dropWhile_append_of_pos fun c hc => isDigit_of_mem_digits hc]
  cases rest with
  | nil => rfl
  | cons c tail => rcases h c tail rfl with rfl | rfl | rfl <;> rfl

theorem readUnsigned_digits {n : ℕ} {rest : List Char} (negative : Bool) (hn : n ≤ maxUInt64)
    (hrest : EndsValue rest) :
    readUnsigned negative (Nat.toDigits 10 n ++ rest) = some (wholeNumber negative n, rest) := by
  have hdigits : appendDigits 0 (Nat.toDigits 10 n) = (n, 0) := by
    have hvalue : Nat.ofDigitChars 10 (Nat.toDigits 10 n) 0 = n := Nat.ofDigitChars_ten_toDigits
    rw [appendDigits_eq (by rwa [hvalue]), hvalue]
  have hleading : ((Nat.toDigits 10 n).isEmpty ||
      (decide ((Nat.toDigits 10 n).head? = some '0') &&
        decide (1 < (Nat.toDigits 10 n).length))) = false := by
    have hne : (Nat.toDigits 10 n).isEmpty = false := by simp
    rw [hne, Bool.false_or, Bool.and_eq_false_iff, decide_eq_false_iff_not,
      decide_eq_false_iff_not]
    by_cases hzero : n = 0
    · exact Or.inr (by rw [hzero]; decide)
    · exact Or.inl fun h => hzero (eq_zero_of_head_digits h)
  unfold readUnsigned
  simp only [takeWhile_digits hrest, dropWhile_digits hrest, hdigits, hleading]
  cases rest with
  | nil => rfl
  | cons c tail => rcases hrest c tail rfl with rfl | rfl | rfl <;> rfl

theorem readNumber_integerDigits {n : ℤ} {rest : List Char}
    (hn : -9223372036854775808 ≤ n ∧ n ≤ maxUInt64) (hrest : EndsValue rest) :
    readNumber (integerDigits n ++ rest) = some (.int n, rest) := by
  unfold integerDigits
  by_cases hneg : n < 0
  · have hwhole : wholeNumber true n.natAbs = .int n := by
      unfold wholeNumber maxInt64
      rw [if_pos rfl, if_neg (by omega)]
      exact congrArg Json.int (by omega)
    rw [if_pos hneg, List.cons_append, ← hwhole]
    exact readUnsigned_digits true (by unfold maxUInt64; omega) hrest
  · have hwhole : wholeNumber false n.natAbs = .int n := by
      unfold wholeNumber
      rw [if_neg (by decide)]
      exact congrArg Json.int (by omega)
    obtain ⟨c, cs, hcons⟩ := exists_cons_digits n.natAbs
    have hdigit : c.isDigit = true := isDigit_of_mem_digits (hcons ▸ List.mem_cons_self)
    rw [if_neg hneg, ← hwhole, ← readUnsigned_digits false (by omega) hrest, hcons,
      List.cons_append]
    unfold readNumber
    split
    · rename_i hminus
      cases hminus
      cases hdigit
    · rfl

/-- A character in front of what is read as `units`. -/
def beforeUnits (n : ℕ) (units : Option (List ℕ × List Char)) : Option (List ℕ × List Char) :=
  units.map fun p => (n :: p.1, p.2)

theorem readStringUnits_simple {c : Char} {n : ℕ} (hu : c ≠ 'u') (h : simpleEscape? c = some n)
    (rest : List Char) :
    readStringUnits ('\\' :: c :: rest) = beforeUnits n (readStringUnits rest) := by
  rw [readStringUnits, h]
  · cases readStringUnits rest <;> rfl
  · intro a b c d rest' heq _
    exact hu heq

theorem readStringUnits_hex {a b c d : Char} {n : ℕ} (h : hexNumber? a b c d = some n)
    (rest : List Char) :
    readStringUnits ('\\' :: 'u' :: a :: b :: c :: d :: rest) =
      beforeUnits n (readStringUnits rest) := by
  rw [readStringUnits, h]
  cases readStringUnits rest <;> rfl

theorem readStringUnits_plain {c : Char} (hquote : c ≠ '"') (hslash : c ≠ '\\')
    (hcontrol : 32 ≤ c.toNat) (rest : List Char) :
    readStringUnits (c :: rest) = beforeUnits c.toNat (readStringUnits rest) := by
  have hguard : (guard (32 ≤ c.toNat) : Option Unit) = some () := if_pos hcontrol
  rw [readStringUnits, hguard]
  · cases readStringUnits rest <;> rfl
  · exact hquote
  · intro a b c d rest' heq _
    exact hslash heq
  · intro a rest' heq _
    exact hslash heq

theorem hexValue?_digitChar : ∀ d < 16, hexValue? d.digitChar = some d := by
  decide

theorem hexNumber?_eq {a : Char} {high low n : ℕ} (ha : hexValue? a = some high)
    (hlow : low < 16) (hn : n = high * 16 + low) :
    hexNumber? '0' '0' a low.digitChar = some n := by
  have hzero : hexValue? '0' = some 0 := by decide
  unfold hexNumber?
  rw [hzero, ha, hexValue?_digitChar low hlow, hn]
  simp

theorem readStringUnits_control {c : Char} (h : c.toNat < 32) (rest : List Char) :
    readStringUnits ((if c.toNat < 16 then ['\\', 'u', '0', '0', '0'] ++ hexDigits c.toNat
      else ['\\', 'u', '0', '0'] ++ hexDigits c.toNat) ++ rest) =
        beforeUnits c.toNat (readStringUnits rest) := by
  by_cases hsmall : c.toNat < 16
  · have hdigits : hexDigits c.toNat = [c.toNat.digitChar] := Nat.toDigits_of_lt_base hsmall
    have hnumber : hexNumber? '0' '0' '0' c.toNat.digitChar = some c.toNat :=
      hexNumber?_eq (show hexValue? '0' = some 0 by decide) hsmall (by omega)
    rw [if_pos hsmall, hdigits]
    exact readStringUnits_hex hnumber rest
  · have hdigits : hexDigits c.toNat = ['1', (c.toNat - 16).digitChar] := by
      have hhigh : c.toNat / 16 = 1 := by omega
      have hlow : c.toNat % 16 = c.toNat - 16 := by omega
      unfold hexDigits
      rw [Nat.toDigits_of_base_le (by decide) (Nat.le_of_not_lt hsmall), hhigh, hlow]
      rfl
    have hnumber : hexNumber? '0' '0' '1' (c.toNat - 16).digitChar = some c.toNat :=
      hexNumber?_eq (show hexValue? '1' = some 1 by decide) (by omega) (by omega)
    rw [if_neg hsmall, hdigits]
    exact readStringUnits_hex hnumber rest

theorem readStringUnits_escapedLetter (c : Char) (rest : List Char) :
    readStringUnits (escapedLetter c ++ rest) = beforeUnits c.toNat (readStringUnits rest) := by
  by_cases hquote : c = '"'
  · rw [hquote]
    exact readStringUnits_simple (by decide) rfl rest
  by_cases hslash : c = '\\'
  · rw [hslash]
    exact readStringUnits_simple (by decide) rfl rest
  unfold escapedLetter
  rw [if_neg hquote, if_neg hslash]
  split
  · rename_i hc
    rw [hc]
    exact readStringUnits_simple (by decide) rfl rest
  split
  · rename_i hc
    rw [hc]
    exact readStringUnits_simple (by decide) rfl rest
  split
  · rename_i hc
    rw [hc]
    exact readStringUnits_simple (by decide) rfl rest
  split
  · rename_i hc
    exact readStringUnits_simple (by decide) (by rw [hc]; rfl) rest
  split
  · rename_i hc
    exact readStringUnits_simple (by decide) (by rw [hc]; rfl) rest
  by_cases hcontrol : c.toNat < 32
  · rw [if_pos hcontrol]
    exact readStringUnits_control hcontrol rest
  · rw [if_neg (by omega), if_neg hcontrol]
    exact readStringUnits_plain hquote hslash (Nat.le_of_not_lt hcontrol) rest

theorem readStringUnits_text (cs rest : List Char) :
    readStringUnits (cs.flatMap escapedLetter ++ '"' :: rest) = some (cs.map Char.toNat, rest) := by
  induction cs with
  | nil => rw [List.flatMap_nil, List.nil_append, readStringUnits, List.map_nil]
  | cons c cs ih =>
    rw [List.flatMap_cons, List.append_assoc, readStringUnits_escapedLetter, ih]
    rfl

theorem joinSurrogates_toNat (cs : List Char) : joinSurrogates (cs.map Char.toNat) = some cs := by
  induction cs with
  | nil => rfl
  | cons c cs ih =>
    have hvalid : c.toNat < 0xD800 ∨ 0xE000 ≤ c.toNat := by
      rcases c.valid with h | h
      · exact Or.inl h
      · exact Or.inr h.1
    cases cs with
    | nil =>
      rw [List.map_cons, List.map_nil, joinSurrogates, if_neg (by omega), Char.ofNat_toNat]
    | cons d cs =>
      rw [List.map_cons] at ih
      rw [List.map_cons, List.map_cons, joinSurrogates, if_neg (by omega), if_neg (by omega), ih,
        Option.map_some, Char.ofNat_toNat]

theorem readString_text (s : String) (rest : List Char) :
    readString (s.toList.flatMap escapedLetter ++ '"' :: rest) = some (s, rest) := by
  unfold readString
  rw [readStringUnits_text]
  simp [joinSurrogates_toNat]

end InferenceReconciler
