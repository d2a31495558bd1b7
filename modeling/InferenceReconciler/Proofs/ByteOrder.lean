import InferenceReconciler.Dict
import Mathlib.Algebra.Order.Ring.Nat

/-!
# The order of the bytes of a text

Texts compare character by character. In UTF-8 a greater character has the greater bytes, as a
longer encoding begins with a greater byte and the bytes after it carry six bits each, the most
significant first. So texts compare as their bytes do.
-/

namespace InferenceReconciler

def utf8Bytes (s : String) : List UInt8 := s.toUTF8.data.toList

def continuationCount (n : Nat) : Nat :=
  if n ≤ 0x7f then 0 else if n ≤ 0x7ff then 1 else if n ≤ 0xffff then 2 else 3

def leadByte (n : Nat) : Nat :=
  if n ≤ 0x7f then n
  else if n ≤ 0x7ff then n / 64 + 0xc0
  else if n ≤ 0xffff then n / 4096 + 0xe0
  else n / 262144 + 0xf0

def continuationBytes : Nat → Nat → List UInt8
  | 0, _ => []
  | k + 1, n => UInt8.ofNat (n / 64 ^ k % 64 + 0x80) :: continuationBytes k n

theorem char_toNat_lt (c : Char) : c.toNat < 0x110000 := by
  have hvalid := c.valid
  change Nat.isValidChar c.toNat at hvalid
  unfold Nat.isValidChar at hvalid
  omega

theorem utf8EncodeChar_eq (c : Char) :
    String.utf8EncodeChar c =
      UInt8.ofNat (leadByte c.toNat) :: continuationBytes (continuationCount c.toNat) c.toNat := by
  have hbound := char_toNat_lt c
  have hval : c.val.toNat = c.toNat := rfl
  unfold leadByte continuationCount
  simp only [String.utf8EncodeChar, hval]
  generalize c.toNat = n at hbound
  by_cases h1 : n ≤ 0x7f
  · simp only [if_pos h1, continuationBytes]
  · by_cases h2 : n ≤ 0x7ff
    · have hlead : n / 64 % 0x20 = n / 64 := Nat.mod_eq_of_lt (by omega)
      simp [h1, h2, continuationBytes, hlead]
    · by_cases h3 : n ≤ 0xffff
      · have hlead : n / 4096 % 0x10 = n / 4096 := Nat.mod_eq_of_lt (by omega)
        simp [h1, h2, h3, continuationBytes, hlead]
      · have hlead : n / 262144 % 0x08 = n / 262144 := Nat.mod_eq_of_lt (by omega)
        simp [h1, h2, h3, continuationBytes, hlead]

theorem ofNat_cons_lt {a b : Nat} {xs ys : List UInt8} (hb : b < 256)
    (h : a < b ∨ a = b ∧ xs < ys) : UInt8.ofNat a :: xs < UInt8.ofNat b :: ys := by
  rw [List.cons_lt_cons_iff]
  rcases h with hlt | ⟨rfl, hrest⟩
  · left
    have ha : a < 256 := Nat.lt_trans hlt hb
    rwa [UInt8.lt_iff_toNat_lt, UInt8.toNat_ofNat_of_lt' ha, UInt8.toNat_ofNat_of_lt' hb]
  · exact .inr ⟨rfl, hrest⟩

theorem digits_lt {a b x y base : Nat} (hb : b < base) (h : a + base * x < b + base * y) : x < y ∨ x = y ∧ a < b := by
  rcases Nat.lt_trichotomy x y with hxy | rfl | hyx
  · exact .inl hxy
  · exact .inr ⟨rfl, Nat.lt_of_add_lt_add_right h⟩
  · have hmul : base * (y + 1) ≤ base * x := Nat.mul_le_mul_left base hyx
    rw [Nat.mul_add, Nat.mul_one] at hmul
    omega

theorem continuationBytes_lt {k m n : Nat} (h : m % 64 ^ k < n % 64 ^ k) (xs ys : List UInt8) :
    continuationBytes k m ++ xs < continuationBytes k n ++ ys := by
  induction k with
  | zero =>
    rw [Nat.pow_zero, Nat.mod_one, Nat.mod_one] at h
    cases h
  | succ k ih =>
    have hpos : 0 < 64 ^ k := Nat.pow_pos (by decide)
    rw [Nat.mod_pow_succ, Nat.mod_pow_succ] at h
    have hdigit : n / 64 ^ k % 64 < 64 := Nat.mod_lt _ (by decide)
    refine ofNat_cons_lt (by omega) ?_
    rcases digits_lt (Nat.mod_lt n hpos) h with hlt | ⟨heq, hrest⟩
    · exact .inl (Nat.add_lt_add_right hlt _)
    · exact .inr ⟨congrArg (· + 0x80) heq, ih hrest⟩

theorem leadByte_lt {m n : Nat} (h : m < n) (hn : n < 0x110000) :
    leadByte m < leadByte n ∨ leadByte m = leadByte n ∧
      continuationCount m = continuationCount n ∧
      m % 64 ^ continuationCount m < n % 64 ^ continuationCount m := by
  unfold leadByte continuationCount
  split_ifs <;> omega

theorem utf8EncodeChar_append_lt {c d : Char} (h : c < d) (xs ys : List UInt8) :
    String.utf8EncodeChar c ++ xs < String.utf8EncodeChar d ++ ys := by
  have hlt : c.toNat < d.toNat := UInt32.lt_iff_toNat_lt.1 (Char.lt_def.1 h)
  have hbyte : leadByte d.toNat < 256 := by
    have hbound := char_toNat_lt d
    unfold leadByte
    split_ifs <;> omega
  rw [utf8EncodeChar_eq, utf8EncodeChar_eq]
  refine ofNat_cons_lt hbyte ?_
  rcases leadByte_lt hlt (char_toNat_lt d) with hlead | ⟨hlead, hcount, hrest⟩
  · exact .inl hlead
  · rw [← hcount]
    exact .inr ⟨hlead, continuationBytes_lt hrest xs ys⟩

theorem utf8Bytes_eq (s : String) : utf8Bytes s = s.toList.flatMap String.utf8EncodeChar := by
  unfold utf8Bytes String.toUTF8
  rw [← String.utf8Encode_toList]
  exact List.toList_data_toByteArray

theorem flatMap_utf8EncodeChar_lt {l l' : List Char} (h : l < l') :
    l.flatMap String.utf8EncodeChar < l'.flatMap String.utf8EncodeChar := by
  induction l generalizing l' with
  | nil =>
    cases l' with
    | nil => exact absurd h (List.lt_irrefl [])
    | cons d rest' =>
      rw [List.flatMap_cons, utf8EncodeChar_eq]
      exact List.nil_lt_cons _ _
  | cons c rest ih =>
    cases l' with
    | nil => cases h
    | cons d rest' =>
      rw [List.flatMap_cons, List.flatMap_cons]
      rcases List.cons_lt_cons_iff.1 h with hlt | ⟨rfl, hrest⟩
      · exact utf8EncodeChar_append_lt hlt _ _
      · exact List.append_left_lt (ih hrest)

theorem utf8Bytes_lt_of_lt {s t : String} (h : s < t) : utf8Bytes s < utf8Bytes t := by
  rw [utf8Bytes_eq, utf8Bytes_eq]
  exact flatMap_utf8EncodeChar_lt (String.lt_iff.1 h)

theorem utf8Bytes_lt_iff {s t : String} : utf8Bytes s < utf8Bytes t ↔ s < t := by
  refine ⟨fun h => Decidable.byContradiction fun hnot => ?_, utf8Bytes_lt_of_lt⟩
  by_cases hlt : t < s
  · exact List.lt_asymm h (utf8Bytes_lt_of_lt hlt)
  · rw [eq_of_not_lt_of_not_lt hnot hlt] at h
    exact List.lt_irrefl _ h

end InferenceReconciler
