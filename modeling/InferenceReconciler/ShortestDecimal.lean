import InferenceReconciler.Binary64

/-!
# Shortest decimals

The decimal with the fewest digits that rounds back to a given binary64 number, the
nearest one of those. For each digit count only the two grid points around the number
can round back, so they are tried for one digit, two digits and so on up to seventeen.
-/

namespace InferenceReconciler

/-- `digits * 10 ^ exponent`, with no zero at the end of `digits`. -/
structure Decimal where
  digits : Nat
  exponent : Int
  deriving DecidableEq, Repr, Inhabited

def powerAtMost (t : Int) (a b : Nat) : Bool :=
  if 0 ≤ t then b * Nat.pow 10 t.toNat ≤ a else b ≤ a * Nat.pow 10 (-t).toNat

/-- The exponent `t` with `10 ^ t ≤ a / b < 10 ^ (t + 1)`. -/
def decimalOrder (a b : Nat) : Int :=
  let guess := (((a.log2 : Int) - b.log2) * 30103).fdiv 100000
  if powerAtMost (guess + 1) a b then guess + 1
  else if powerAtMost guess a b then guess
  else guess - 1

/-- The numbers that round to `m * 2 ^ e` reach from `low` to `high` quarters of `2 ^ e`. -/
def roundingInterval (m : Nat) (e : Int) : Nat × Nat :=
  (if m = Nat.pow 2 52 ∧ -1074 < e then 4 * m - 1 else 4 * m - 2, 4 * m + 2)

/-- Whether `d * 10 ^ t` rounds to `m * 2 ^ e`; the ends of the interval do when `m` is even. -/
def roundsTo (m : Nat) (e : Int) (d : Nat) (t : Int) : Bool :=
  let (low, high) := roundingInterval m e
  -- all of them in units of `2 ^ (e - 2)`, cleared of denominators
  let (a, b) := if 0 ≤ t then (d * Nat.pow 10 t.toNat, 1) else (d, Nat.pow 10 (-t).toNat)
  let (a, b) := scaleRatio a b (e - 2)
  if m % 2 = 0 then low * b ≤ a && a ≤ high * b else low * b < a && a < high * b

def withoutTrailingZeros : Nat → Nat → Int → Decimal
  | 0, d, t => ⟨d, t⟩
  | fuel + 1, d, t =>
    if d ≠ 0 ∧ d % 10 = 0 then withoutTrailingZeros fuel (d / 10) (t + 1) else ⟨d, t⟩

/-- The nearer of the two grid points `d` and `d + 1` around `num / den`. -/
def nearerPoint (num den d : Nat) : Nat :=
  if 2 * (num - d * den) < den then d else d + 1

def shortestFrom (m : Nat) (e : Int) (a b : Nat) (order : Int) : Nat → Nat → Decimal
  | 0, _ => ⟨0, 0⟩
  | fuel + 1, count =>
    let t := order + 1 - count
    let (num, den) := if 0 ≤ t then (a, b * Nat.pow 10 t.toNat) else (a * Nat.pow 10 (-t).toNat, b)
    let d := num / den
    let below := roundsTo m e d t
    let above := roundsTo m e (d + 1) t
    if below || above then
      let best := if below && above then nearerPoint num den d else if below then d else d + 1
      withoutTrailingZeros 20 best t
    else shortestFrom m e a b order fuel (count + 1)

/-- The shortest decimal of a finite magnitude; zero is `0 * 10 ^ 0`. -/
def shortestDecimal (m : Nat) (e : Int) : Decimal :=
  if m = 0 then ⟨0, 0⟩ else
    match (Magnitude.finite m e).toRatio with
    | some (a, b) => shortestFrom m e a b (decimalOrder a b) 17 1
    | none => ⟨0, 0⟩

namespace Decimal

def digitText (x : Decimal) : List Char := Nat.toDigits 10 x.digits

/-- Positional notation without an exponent and without a point after whole numbers. -/
def positional (x : Decimal) : List Char :=
  let s := x.digitText
  let point := (s.length : Int) + x.exponent
  if 0 ≤ x.exponent then s ++ List.replicate x.exponent.toNat '0'
  else if 0 < point then s.take point.toNat ++ '.' :: s.drop point.toNat
  else '0' :: '.' :: List.replicate (-point).toNat '0' ++ s

/-- Notation that tells a number from a whole one: a point from `1e-5` up to below `1e16`,
an exponent otherwise. -/
def marked (x : Decimal) : List Char :=
  let s := x.digitText
  let point := (s.length : Int) + x.exponent
  if 0 ≤ x.exponent ∧ point ≤ 16 then x.positional ++ ['.', '0']
  else if -5 < point ∧ point ≤ 16 then x.positional
  else
    let power := point - 1
    let powerText := (if power < 0 then ['-'] else []) ++ Nat.toDigits 10 power.natAbs
    match s with
    | [] => []
    | [c] => c :: 'e' :: powerText
    | c :: rest => c :: '.' :: rest ++ 'e' :: powerText

end Decimal

namespace Binary64

def signText (x : Binary64) : List Char := if x.negative then ['-'] else []

/-- The shortest text that reads back, written without an exponent. -/
def positionalText (x : Binary64) : List Char :=
  x.signText ++ match x.magnitude with
    | .finite m e => (shortestDecimal m e).positional
    | .infinite => ['i', 'n', 'f']

/-- The shortest text that reads back, never one of a whole number. -/
def markedText (x : Binary64) : List Char :=
  x.signText ++ match x.magnitude with
    | .finite m e => if m = 0 then ['0', '.', '0'] else (shortestDecimal m e).marked
    | .infinite => ['n', 'u', 'l', 'l']

end Binary64

end InferenceReconciler
