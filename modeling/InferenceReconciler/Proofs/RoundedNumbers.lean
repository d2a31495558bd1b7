import InferenceReconciler.Binary64
import Mathlib.Algebra.Order.Ring.Nat

/-!
# Rounding of whole numbers

What rounding to binary64 does to numbers that are too long for the significand. The result never
falls below a power of two that the number has reached, and it is finite exactly below the midpoint
between the largest finite number and `2 ^ 1024`, which itself rounds up.
-/

namespace InferenceReconciler

namespace Magnitude

theorem toRatio_finite (m : Nat) (e : Int) :
    (finite m e).toRatio = some (m * 2 ^ e.toNat, 2 ^ (-e).toNat) := by
  dsimp only [toRatio]
  by_cases he : 0 ≤ e
  · rw [if_pos he, Int.toNat_eq_zero.2 (by omega : -e ≤ 0)]
    rfl
  · rw [if_neg he, Int.toNat_eq_zero.2 (by omega : e ≤ 0), Nat.pow_zero, Nat.mul_one]
    rfl

theorem scaleRatio_eq (num den : Nat) (e : Int) :
    scaleRatio num den e = (num * 2 ^ (-e).toNat, den * 2 ^ e.toNat) := by
  unfold scaleRatio
  by_cases he : 0 ≤ e
  · rw [if_pos he, Int.toNat_eq_zero.2 (by omega : -e ≤ 0), Nat.pow_zero, Nat.mul_one]
    rfl
  · rw [if_neg he, Int.toNat_eq_zero.2 (by omega : e ≤ 0), Nat.pow_zero, Nat.mul_one]
    rfl

/-- The magnitude is no smaller than this, as no infinite one is. -/
def AtLeast (x : Magnitude) (r : Nat) : Prop := ∀ a b, x.toRatio = some (a, b) → r * b ≤ a

theorem atLeast_infinite (r : Nat) : infinite.AtLeast r := by
  intro a b h
  cases h

theorem atLeast_finite_iff {m : Nat} {e : Int} {r : Nat} :
    (finite m e).AtLeast r ↔ r * 2 ^ (-e).toNat ≤ m * 2 ^ e.toNat := by
  unfold AtLeast
  rw [toRatio_finite]
  constructor
  · intro h
    exact h _ _ rfl
  · intro h a b hab
    cases hab
    exact h

theorem pos_of_toRatio {x : Magnitude} {a b : Nat} (h : x.toRatio = some (a, b)) : 0 < b := by
  cases x with
  | finite m e =>
    rw [toRatio_finite] at h
    cases h
    exact Nat.two_pow_pos _
  | infinite => cases h

theorem ceilCapped_of_atLeast {x : Magnitude} {bound : Nat} (h : x.AtLeast bound) :
    x.ceilCapped bound = bound := by
  unfold ceilCapped
  cases hratio : x.toRatio with
  | none => rfl
  | some ratio =>
    obtain ⟨a, b⟩ := ratio
    have hpos : 0 < b := pos_of_toRatio hratio
    have hle : bound * b ≤ a := h a b hratio
    apply Nat.min_eq_left
    rw [Nat.le_div_iff_mul_le hpos]
    omega

theorem eq_infinite_of_isFinite {x : Magnitude} (h : x.isFinite = false) : x = infinite := by
  cases x with
  | finite m e => cases h
  | infinite => rfl

/-- The significand rounded at an exponent, before a carry is looked at. -/
def significandAt (num den : Nat) (e : Int) : Nat :=
  roundHalfEven (num * 2 ^ (-e).toNat) (den * 2 ^ e.toNat)

/-- The magnitude of a rounded significand, which may have become one bit too long. -/
def carried (m : Nat) (e : Int) : Magnitude :=
  let (m, e) := if m = Nat.pow 2 53 then (Nat.pow 2 52, e + 1) else (m, e)
  if 971 < e then .infinite else .finite m e

theorem significandAt_one (n k : Nat) :
    significandAt n 1 ((k + 1 : Nat) : Int) = roundHalfEven n (2 * 2 ^ k) := by
  unfold significandAt
  rw [Int.toNat_natCast, Int.toNat_eq_zero.2 (by omega), Nat.pow_zero, Nat.mul_one, Nat.one_mul,
    Nat.pow_succ']

theorem ofRatio_eq {num : Nat} (hnum : num ≠ 0) (den : Nat) :
    ofRatio num den =
      carried (significandAt num den (exponentFor num den)) (exponentFor num den) := by
  unfold ofRatio
  rw [if_neg hnum]
  dsimp only
  rw [scaleRatio_eq]
  rfl

theorem carried_atLeast {m : Nat} {e : Int} {r : Nat}
    (h : r * 2 ^ (-e).toNat ≤ m * 2 ^ e.toNat) : (carried m e).AtLeast r := by
  have hfinite : ∀ {m : Nat} {e : Int}, r * 2 ^ (-e).toNat ≤ m * 2 ^ e.toNat →
      (if 971 < e then infinite else finite m e).AtLeast r := by
    intro m e h
    split
    · exact atLeast_infinite r
    · exact atLeast_finite_iff.2 h
  unfold carried
  by_cases hcarry : m = Nat.pow 2 53
  · rw [if_pos hcarry]
    apply hfinite
    change m = 2 ^ 53 at hcarry
    change r * 2 ^ (-(e + 1)).toNat ≤ 2 ^ 52 * 2 ^ (e + 1).toNat
    subst hcarry
    by_cases he : 0 ≤ e
    · rw [Int.toNat_eq_zero.2 (by omega : -e ≤ 0)] at h
      rw [Int.toNat_eq_zero.2 (by omega : -(e + 1) ≤ 0), (by omega : (e + 1).toNat = e.toNat + 1),
        Nat.pow_succ]
      omega
    · rw [Int.toNat_eq_zero.2 (by omega : e ≤ 0), (by omega : (-e).toNat = (-(e + 1)).toNat + 1),
        Nat.pow_succ, ← Nat.mul_assoc] at h
      rw [Int.toNat_eq_zero.2 (by omega : e + 1 ≤ 0)]
      omega
  · rw [if_neg hcarry]
    exact hfinite h

theorem exponentFor_le (num den : Nat) :
    exponentFor num den ≤ max ((num.log2 : Int) - den.log2 - 52) (-1073) := by
  unfold exponentFor
  dsimp only
  split <;> omega

theorem mul_two_pow_exponentFor_le {num den : Nat} (hnum : num ≠ 0)
    (hpos : 0 < exponentFor num den) : den * 2 ^ (exponentFor num den).toNat ≤ num := by
  have hle := exponentFor_le num den
  have hden : den < 2 ^ (den.log2 + 1) := Nat.lt_log2_self
  have hexponent : den.log2 + 1 + (exponentFor num den).toNat ≤ num.log2 := by omega
  calc den * 2 ^ (exponentFor num den).toNat
      ≤ 2 ^ (den.log2 + 1) * 2 ^ (exponentFor num den).toNat :=
        Nat.mul_le_mul_right _ (Nat.le_of_lt hden)
    _ = 2 ^ (den.log2 + 1 + (exponentFor num den).toNat) := (Nat.pow_add ..).symm
    _ ≤ 2 ^ num.log2 := Nat.pow_le_pow_right (by decide) hexponent
    _ ≤ num := Nat.log2_self_le hnum

/-- For a number of 54 bits or more the exponent leaves 53 of them. -/
theorem exponentFor_one {n : Nat} (hlong : 53 ≤ n.log2) :
    exponentFor n 1 = (n.log2 : Int) - 52 := by
  have hne : n ≠ 0 := by
    rintro rfl
    exact absurd hlong (by decide)
  have hexponent : max ((n.log2 : Int) - ((1 : Nat).log2 : Nat) - 53) (-1074) =
      ((n.log2 - 53 : Nat) : Int) := by
    have hone : (1 : Nat).log2 = 0 := by decide
    omega
  have hfirst : Nat.pow 2 53 ≤ n / 2 ^ (n.log2 - 53) := by
    change 2 ^ 53 ≤ n / 2 ^ (n.log2 - 53)
    rw [Nat.le_div_iff_mul_le (Nat.two_pow_pos _), ← Nat.pow_add, Nat.add_sub_cancel' hlong]
    exact Nat.log2_self_le hne
  unfold exponentFor
  dsimp only
  rw [hexponent, scaleRatio_eq, Int.toNat_natCast, Int.toNat_eq_zero.2 (by omega), Nat.pow_zero,
    Nat.mul_one, Nat.one_mul]
  dsimp only
  rw [if_pos hfirst]
  omega

theorem ofRatio_atLeast {num den j : Nat} (hden : 0 < den) (h : 2 ^ j * den ≤ num) :
    (ofRatio num den).AtLeast (2 ^ j) := by
  have hnum : num ≠ 0 := by
    have hpos : 0 < 2 ^ j * den := Nat.mul_pos (Nat.two_pow_pos j) hden
    omega
  rw [ofRatio_eq hnum]
  apply carried_atLeast
  have hunit := @mul_two_pow_exponentFor_le num den hnum
  generalize exponentFor num den = e at hunit ⊢
  have hfloor : num * 2 ^ (-e).toNat / (den * 2 ^ e.toNat) ≤ significandAt num den e :=
    le_roundHalfEven _ _
  have hscale : 0 < den * 2 ^ e.toNat := Nat.mul_pos hden (Nat.two_pow_pos _)
  by_cases hej : e.toNat ≤ j
  · -- The power of two is a whole number of units, and no unit below the number is lost.
    have hunits : 2 ^ (j - e.toNat) * 2 ^ (-e).toNat ≤ significandAt num den e := by
      refine Nat.le_trans ((Nat.le_div_iff_mul_le hscale).2 ?_) hfloor
      calc 2 ^ (j - e.toNat) * 2 ^ (-e).toNat * (den * 2 ^ e.toNat)
          = 2 ^ (j - e.toNat) * 2 ^ e.toNat * den * 2 ^ (-e).toNat := by ac_rfl
        _ = 2 ^ j * den * 2 ^ (-e).toNat := by rw [← Nat.pow_add, Nat.sub_add_cancel hej]
        _ ≤ num * 2 ^ (-e).toNat := Nat.mul_le_mul_right _ h
    calc 2 ^ j * 2 ^ (-e).toNat
        = 2 ^ (j - e.toNat) * 2 ^ e.toNat * 2 ^ (-e).toNat := by
          rw [← Nat.pow_add 2 (j - e.toNat), Nat.sub_add_cancel hej]
      _ = 2 ^ (j - e.toNat) * 2 ^ (-e).toNat * 2 ^ e.toNat := Nat.mul_right_comm ..
      _ ≤ significandAt num den e * 2 ^ e.toNat := Nat.mul_le_mul_right _ hunits
  · have hone : 1 ≤ significandAt num den e := by
      refine Nat.le_trans ((Nat.le_div_iff_mul_le hscale).2 ?_) hfloor
      rw [Nat.one_mul, Int.toNat_eq_zero.2 (by omega : -e ≤ 0), Nat.pow_zero, Nat.mul_one]
      exact hunit (by omega)
    rw [Int.toNat_eq_zero.2 (by omega : -e ≤ 0), Nat.pow_zero, Nat.mul_one]
    calc 2 ^ j ≤ 2 ^ e.toNat := Nat.pow_le_pow_right (by decide) (by omega)
      _ ≤ significandAt num den e * 2 ^ e.toNat := Nat.le_mul_of_pos_left _ hone

theorem AtLeast.mul {x y : Magnitude} {i j : Nat} (hx : x.AtLeast (2 ^ i))
    (hy : y.AtLeast (2 ^ j)) : (x.mul y).AtLeast (2 ^ (i + j)) := by
  unfold Magnitude.mul
  cases hxr : x.toRatio with
  | none => exact atLeast_infinite _
  | some xr =>
    cases hyr : y.toRatio with
    | none => exact atLeast_infinite _
    | some yr =>
      obtain ⟨a, b⟩ := xr
      obtain ⟨c, d⟩ := yr
      apply ofRatio_atLeast (Nat.mul_pos (pos_of_toRatio hxr) (pos_of_toRatio hyr))
      calc 2 ^ (i + j) * (b * d) = 2 ^ i * b * (2 ^ j * d) := by
            rw [Nat.pow_add]
            ac_rfl
        _ ≤ a * c := Nat.mul_le_mul (hx a b hxr) (hy c d hyr)

/-- The least whole number that rounds to infinity: half a unit above the largest finite one. -/
def overflowBound : Nat := 2 ^ 1024 - 2 ^ 970

/-- Rounding carries into the next power of two exactly from the last midpoint on, where the tie
goes up because the significand below it is odd. -/
theorem roundHalfEven_eq_carry_iff {n half : Nat} (hhalf : 0 < half)
    (hlt : n < 2 ^ 53 * (2 * half)) :
    roundHalfEven n (2 * half) = 2 ^ 53 ↔ 2 ^ 53 * (2 * half) - half ≤ n := by
  have hdivision : 2 * half * (n / (2 * half)) + n % (2 * half) = n := Nat.div_add_mod _ _
  have hmod : n % (2 * half) < 2 * half := Nat.mod_lt _ (by omega)
  have hquotient : n / (2 * half) < 2 ^ 53 := by
    rw [Nat.div_lt_iff_lt_mul (by omega)]
    exact hlt
  unfold roundHalfEven
  generalize n / (2 * half) = q at hdivision hquotient ⊢
  generalize n % (2 * half) = r at hdivision hmod ⊢
  dsimp only
  by_cases hlast : q = 2 ^ 53 - 1
  · subst hlast
    split <;> rename_i hup <;> simp only [Bool.or_eq_true, decide_eq_true_eq, Bool.and_eq_true,
      beq_iff_eq] at hup <;> omega
  · have hbelow : 2 * half * q ≤ 2 * half * (2 ^ 53 - 2) := Nat.mul_le_mul_left _ (by omega)
    split <;> omega

theorem isFinite_carried_iff (m : Nat) (e : Int) :
    (carried m e).isFinite = true ↔ (if m = 2 ^ 53 then e + 1 else e) ≤ 971 := by
  have hlast : ∀ (m : Nat) (e : Int),
      (if 971 < e then infinite else finite m e).isFinite = true ↔ e ≤ 971 := by
    intro m e
    split
    · exact iff_of_false Bool.false_ne_true (by omega)
    · exact iff_of_true rfl (by omega)
  have hpow : Nat.pow 2 53 = 2 ^ 53 := rfl
  unfold carried
  rw [hpow]
  by_cases hcarry : m = 2 ^ 53
  · rw [if_pos hcarry, if_pos hcarry]
    exact hlast ..
  · rw [if_neg hcarry, if_neg hcarry]
    exact hlast ..

theorem overflowBound_eq : overflowBound = 2 ^ 53 * (2 * 2 ^ 970) - 2 ^ 970 := by
  decide +kernel

theorem two_pow_le_overflowBound {k : Nat} (hk : k ≤ 1023) : 2 ^ k ≤ overflowBound :=
  Nat.le_trans (Nat.pow_le_pow_right (by decide) hk) (by decide +kernel)

theorem overflowBound_le_two_pow {k : Nat} (hk : 1024 ≤ k) : overflowBound ≤ 2 ^ k :=
  Nat.le_trans (by decide +kernel) (Nat.pow_le_pow_right (by decide) hk)

theorem overflowBound_le_ten_pow : overflowBound ≤ 10 ^ 400 := by
  decide +kernel

theorem isFinite_ofRatio_one_iff (n : Nat) :
    (ofRatio n 1).isFinite = true ↔ n < overflowBound := by
  by_cases hzero : n = 0
  · rw [hzero, ofRatio_zero]
    exact iff_of_true rfl (Nat.lt_of_lt_of_le (Nat.two_pow_pos 0)
      (two_pow_le_overflowBound (Nat.zero_le _)))
  have hself : 2 ^ n.log2 ≤ n := Nat.log2_self_le hzero
  have hnext : n < 2 ^ (n.log2 + 1) := Nat.lt_log2_self
  rw [ofRatio_eq hzero, isFinite_carried_iff]
  rcases Nat.lt_trichotomy n.log2 1023 with hshort | hedge | hlong
  · have hle := exponentFor_le n 1
    refine iff_of_true ?_ (Nat.lt_of_lt_of_le hnext (two_pow_le_overflowBound hshort))
    split <;> omega
  · obtain ⟨k, hk⟩ : ∃ k, n.log2 = 53 + k := ⟨n.log2 - 53, by omega⟩
    have hbound : 2 ^ 53 * (2 * 2 ^ k) - 2 ^ k = overflowBound := by
      rw [overflowBound_eq, (by omega : k = 970)]
    have hlt : n < 2 ^ 53 * (2 * 2 ^ k) := by
      rwa [hk, Nat.add_assoc, Nat.pow_add 2 53, (Nat.pow_succ' : 2 ^ (k + 1) = 2 * 2 ^ k)] at hnext
    have hcarry := roundHalfEven_eq_carry_iff (Nat.two_pow_pos k) hlt
    have hexponent : exponentFor n 1 = ((k + 1 : Nat) : Int) := by
      rw [exponentFor_one (by omega)]
      omega
    rw [hbound] at hcarry
    rw [hexponent, significandAt_one]
    by_cases hm : roundHalfEven n (2 * 2 ^ k) = 2 ^ 53
    · rw [if_pos hm]
      exact iff_of_false (by omega) (Nat.not_lt.2 (hcarry.1 hm))
    · rw [if_neg hm]
      exact iff_of_true (by omega) (Nat.lt_of_not_le fun hle => hm (hcarry.2 hle))
  · rw [exponentFor_one (by omega)]
    refine iff_of_false ?_ (Nat.not_lt.2 (Nat.le_trans (overflowBound_le_two_pow hlong) hself))
    split <;> omega

theorem ofDecimal_whole (n : Nat) : ofDecimal n 0 = ofRatio n 1 := by
  unfold ofDecimal
  by_cases hzero : n = 0
  · rw [if_pos hzero, hzero, ofRatio_zero]
  rw [if_neg hzero]
  dsimp only
  by_cases hlong : 400 < (Nat.toDigits 10 n).length
  · have hlarge : 10 ^ 400 ≤ n := by
      apply Nat.le_of_not_lt
      intro hsmall
      have hle := (Nat.length_toDigits_le_iff (by decide) (by decide)).2 hsmall
      omega
    have hinfinite : ofRatio n 1 = infinite := by
      apply eq_infinite_of_isFinite
      rw [← Bool.not_eq_true, isFinite_ofRatio_one_iff]
      exact Nat.not_lt.2 (Nat.le_trans overflowBound_le_ten_pow hlarge)
    rw [if_pos (by omega), hinfinite]
  · rw [if_neg (by omega), if_neg (by omega), if_pos (Int.le_refl 0)]
    exact congrArg (ofRatio · 1) (Nat.mul_one n)

end Magnitude

end InferenceReconciler
