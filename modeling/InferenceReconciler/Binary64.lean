/-!
# Binary floating point

Binary64 numbers as exact dyadic rationals. Every operation takes the exact rational
result and rounds it once, to the nearest number and to the even one on a tie.
-/

namespace InferenceReconciler

/-- A magnitude `m * 2 ^ e`, or one beyond the largest finite number. -/
inductive Magnitude where
  | finite (m : Nat) (e : Int)
  | infinite
  deriving DecidableEq, Repr, Inhabited

structure Binary64 where
  negative : Bool
  magnitude : Magnitude
  deriving DecidableEq, Repr, Inhabited

/-- The quotient rounded to the nearest integer, ties to even. -/
def roundHalfEven (num den : Nat) : Nat :=
  let q := num / den
  let r := num % den
  if den < 2 * r || (2 * r == den && q % 2 == 1) then q + 1 else q

theorem le_roundHalfEven (num den : Nat) : num / den ≤ roundHalfEven num den := by
  unfold roundHalfEven
  grind

def scaleRatio (num den : Nat) (e : Int) : Nat × Nat :=
  if 0 ≤ e then (num, den * Nat.pow 2 e.toNat) else (num * Nat.pow 2 (-e).toNat, den)

namespace Magnitude

def zero : Magnitude := .finite 0 (-1074)

/-- The smallest exponent of a number with at most 53 bits near `num / den`. -/
def exponentFor (num den : Nat) : Int :=
  let k : Int := (num.log2 : Int) - den.log2
  let e := max (k - 53) (-1074)
  let (a, b) := scaleRatio num den e
  if Nat.pow 2 53 ≤ a / b then e + 1 else e

def ofRatio (num den : Nat) : Magnitude :=
  if num = 0 then zero else
    let e := exponentFor num den
    let (a, b) := scaleRatio num den e
    let m := roundHalfEven a b
    let (m, e) := if m = Nat.pow 2 53 then (Nat.pow 2 52, e + 1) else (m, e)
    if 971 < e then .infinite else .finite m e

@[simp] theorem ofRatio_zero (den : Nat) : ofRatio 0 den = zero := by simp [ofRatio]

def toRatio : Magnitude → Option (Nat × Nat)
  | .finite m e =>
    if 0 ≤ e then some (m * Nat.pow 2 e.toNat, 1) else some (m, Nat.pow 2 (-e).toNat)
  | .infinite => none

def isFinite : Magnitude → Bool
  | .finite .. => true
  | .infinite => false

def mul (x y : Magnitude) : Magnitude :=
  match x.toRatio, y.toRatio with
  | some (a, b), some (c, d) => ofRatio (a * c) (b * d)
  | _, _ => .infinite

def div (x y : Magnitude) : Magnitude :=
  match x.toRatio, y.toRatio with
  | some (a, b), some (c, d) => if c = 0 then .infinite else ofRatio (a * d) (b * c)
  | _, _ => .infinite

/-- The least integer that is not below, capped at `bound`. -/
def ceilCapped (bound : Nat) (x : Magnitude) : Nat :=
  match x.toRatio with
  | some (a, b) => min bound ((a + b - 1) / b)
  | none => bound

theorem ceilCapped_le (bound : Nat) (x : Magnitude) : x.ceilCapped bound ≤ bound := by
  unfold ceilCapped
  split
  · exact Nat.min_le_left ..
  · exact Nat.le_refl _

/-- The number nearest to `digits * 10 ^ exponent`. Exponents beyond the range of the
format are settled by their size alone, so no power grows with the text it came from. -/
def ofDecimal (digits : Nat) (exponent : Int) : Magnitude :=
  if digits = 0 then zero
  else
    let top := ((Nat.toDigits 10 digits).length : Int) + exponent
    if 400 < top then .infinite
    else if top < -400 then zero
    else if 0 ≤ exponent then ofRatio (digits * Nat.pow 10 exponent.toNat) 1
    else ofRatio digits (Nat.pow 10 (-exponent).toNat)

end Magnitude

namespace Binary64

def ofNat (n : Nat) : Binary64 := ⟨false, .ofRatio n 1⟩

def isFinite (x : Binary64) : Bool := x.magnitude.isFinite

def isNegative (x : Binary64) : Bool :=
  x.negative && (match x.magnitude with
    | .finite m _ => m != 0
    | .infinite => true)

def mulNat (x : Binary64) (n : Nat) : Binary64 :=
  ⟨x.negative, x.magnitude.mul (.ofRatio n 1)⟩

end Binary64

end InferenceReconciler
