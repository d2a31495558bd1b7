import InferenceReconciler.Fault
import InferenceReconciler.JsonText
import InferenceReconciler.Trimming

/-!
# Quantities

Amounts as texts such as `32Gi`, `500M` or `4`. A whole number is computed exactly and
refused when it overflows 64 bits; any other number is rounded as binary64 numbers are,
up to the next whole byte.
-/

namespace InferenceReconciler

def bytesPerGi : Nat := 1073741824

/-- The suffixes and what they multiply by, in the order in which they are tried. -/
def quantitySuffixes : List (String × Nat) := [
  ("Ki", Nat.pow 2 10), ("Mi", Nat.pow 2 20), ("Gi", Nat.pow 2 30),
  ("Ti", Nat.pow 2 40), ("Pi", Nat.pow 2 50), ("Ei", Nat.pow 2 60),
  ("k", Nat.pow 10 3), ("M", Nat.pow 10 6), ("G", Nat.pow 10 9),
  ("T", Nat.pow 10 12), ("P", Nat.pow 10 15), ("E", Nat.pow 10 18)]

def withoutSuffix? (suffix s : List Char) : Option (List Char) :=
  if suffix.isSuffixOf s then some (s.take (s.length - suffix.length)) else none

def splitQuantity (s : List Char) : List Char × String × Nat :=
  match quantitySuffixes.findSome? fun (suffix, m) =>
      (withoutSuffix? suffix.toList s).map fun number => (number, suffix, m) with
  | some parts => parts
  | none => (s, "", 1)

/-- A whole number of at most 64 bits; a plus sign may stand before it. -/
def wholeNumber? (s : List Char) : Option Nat :=
  let digits := match s with
    | '+' :: rest => rest
    | s => s
  if digits.isEmpty || !digits.all Char.isDigit then none
  else
    let n := Nat.ofDigitChars 10 digits 0
    if n ≤ maxUInt64 then some n else none

/-- A decimal number with an optional sign, fraction and exponent, rounded. -/
def decimalText? (s : List Char) : Option Binary64 := do
  let (negative, s) := match s with
    | '-' :: rest => (true, rest)
    | '+' :: rest => (false, rest)
    | s => (false, s)
  let whole := s.takeWhile Char.isDigit
  let rest := s.dropWhile Char.isDigit
  let (fraction, rest) := match rest with
    | '.' :: rest => (rest.takeWhile Char.isDigit, rest.dropWhile Char.isDigit)
    | rest => ([], rest)
  guard !(whole.isEmpty && fraction.isEmpty)
  let (exponent, rest) ← match rest with
    | 'e' :: rest | 'E' :: rest => readExponent rest
    | rest => some (0, rest)
  guard rest.isEmpty
  let digits := Nat.ofDigitChars 10 (whole ++ fraction) 0
  return ⟨negative, .ofDecimal digits (exponent - fraction.length)⟩

/-- A number a quantity may hold: finite and not below zero. -/
def amount? (s : List Char) : Option Binary64 :=
  (decimalText? s).filter fun x => x.isFinite && !x.isNegative

/-- The bytes of a quantity, a fraction counting as a whole one. -/
def parseBytes (quantity : String) : Except Fault Nat :=
  let (number, _, multiplier) := splitQuantity (trimBlanks quantity).toList
  match wholeNumber? number with
  | some n =>
    if n * multiplier ≤ maxUInt64 then .ok (n * multiplier)
    else .error (.invalid s!"quantity '{quantity}' overflows")
  | none =>
    match amount? number with
    | some x => .ok ((x.mulNat multiplier).magnitude.ceilCapped maxUInt64)
    | none => .error (.invalid
        s!"invalid quantity '{quantity}' (expected e.g., '128Mi', '1Gi')")

def scaleQuantity (text : String) (factor : Nat) : Except Fault String :=
  let quantity := trimBlanks text
  let (number, suffix) := match withoutSuffix? ['m'] quantity.toList with
    | some number => (number, "m")
    | none =>
      let (number, suffix, _) := splitQuantity quantity.toList
      (number, suffix)
  match wholeNumber? number with
  | some n =>
    if n * factor ≤ maxUInt64 then .ok s!"{n * factor}{suffix}"
    else .error (.invalid s!"quantity '{quantity}' overflows")
  | none =>
    match amount? number with
    | some x => .ok (String.ofList (x.mulNat factor).positionalText ++ suffix)
    | none => .error (.invalid s!"invalid quantity '{quantity}'")

def giText (gi : Nat) : String := s!"{gi}Gi"

/-- A named size in bytes; zero stands for an unknown one. -/
structure SizedSource where
  name : String
  bytes : Nat
  deriving DecidableEq, Repr

def ceilDiv (a b : Nat) : Nat := (a + b - 1) / b

/-- The GiB that hold `total` bytes and `headroom` percent on top, at least one. -/
def giWithHeadroom (total headroom : Nat) : Nat :=
  max (min (ceilDiv (ceilDiv (total * (100 + headroom)) 100) bytesPerGi) maxUInt64) 1

def totalBytes : List SizedSource → Nat
  | [] => 0
  | s :: rest => s.bytes + totalBytes rest

/-- The GiB that hold all sources with headroom; one without a size leaves it unknown. -/
def requiredStorageGi (sources : List SizedSource) (headroom : Nat) : Except Fault Nat :=
  if sources.isEmpty then .error (.invalid "no model sources to size storage for")
  else
    match sources.find? fun s => s.bytes == 0 with
    | some s => .error (.invalid s!"model source {quoted s.name} has no size specified")
    | none => .ok (giWithHeadroom (totalBytes sources) headroom)

end InferenceReconciler
