import InferenceReconciler.Dict
import InferenceReconciler.JsonValue
import InferenceReconciler.QuotedText
import InferenceReconciler.ShortestDecimal

/-!
# JSON texts

The compact text of a value and the reader of JSON texts. The printer writes no blanks,
keeps characters beyond ASCII as they are and escapes quotes, backslashes and controls.
The reader takes any JSON text; of members with one name it keeps the last, and it
orders members by name.

A number without fraction or exponent is whole when it fits in 64 bits, signed or
unsigned; any other number is read as the product or quotient of its first nineteen or
so digits, rounded, and a power of ten, rounded again.
-/

namespace InferenceReconciler

def integerDigits (n : Int) : List Char :=
  if n < 0 then '-' :: Nat.toDigits 10 n.natAbs else Nat.toDigits 10 n.natAbs

def escapedLetter (c : Char) : List Char :=
  if c = '"' then ['\\', '"']
  else if c = '\\' then ['\\', '\\']
  else if c = '\n' then ['\\', 'n']
  else if c = '\r' then ['\\', 'r']
  else if c = '\t' then ['\\', 't']
  else if c.toNat = 8 then ['\\', 'b']
  else if c.toNat = 12 then ['\\', 'f']
  else if c.toNat < 16 then ['\\', 'u', '0', '0', '0'] ++ hexDigits c.toNat
  else if c.toNat < 32 then ['\\', 'u', '0', '0'] ++ hexDigits c.toNat
  else [c]

def stringText (s : String) : List Char :=
  '"' :: s.toList.flatMap escapedLetter ++ ['"']

mutual

def Json.text : Json → List Char
  | .null => ['n', 'u', 'l', 'l']
  | .bool true => ['t', 'r', 'u', 'e']
  | .bool false => ['f', 'a', 'l', 's', 'e']
  | .int n => integerDigits n
  | .real x => x.markedText
  | .str s => stringText s
  | .arr [] => ['[', ']']
  | .arr (item :: rest) => '[' :: item.text ++ Json.itemsText rest ++ [']']
  | .obj [] => ['\x7b', '\x7d']
  | .obj ((k, v) :: rest) =>
    '\x7b' :: stringText k ++ ':' :: v.text ++ Json.membersText rest ++ ['\x7d']

def Json.itemsText : List Json → List Char
  | [] => []
  | item :: rest => ',' :: item.text ++ Json.itemsText rest

def Json.membersText : List (String × Json) → List Char
  | [] => []
  | (k, v) :: rest => ',' :: stringText k ++ ':' :: v.text ++ Json.membersText rest

end

def Json.compact (j : Json) : String := String.ofList j.text

def isJsonBlank (c : Char) : Bool := c == ' ' || c == '\n' || c == '\r' || c == '\t'

def skipBlanks (s : List Char) : List Char := s.dropWhile isJsonBlank

def hexValue? (c : Char) : Option Nat :=
  if '0' ≤ c ∧ c ≤ '9' then some (c.toNat - '0'.toNat)
  else if 'a' ≤ c ∧ c ≤ 'f' then some (c.toNat - 'a'.toNat + 10)
  else if 'A' ≤ c ∧ c ≤ 'F' then some (c.toNat - 'A'.toNat + 10)
  else none

def hexNumber? (a b c d : Char) : Option Nat := do
  return ((((← hexValue? a) * 16 + (← hexValue? b)) * 16 + (← hexValue? c)) * 16 + (← hexValue? d))

def simpleEscape? (c : Char) : Option Nat :=
  if c = '"' then some 34
  else if c = '\\' then some 92
  else if c = '/' then some 47
  else if c = 'b' then some 8
  else if c = 'f' then some 12
  else if c = 'n' then some 10
  else if c = 'r' then some 13
  else if c = 't' then some 9
  else none

/-- The numbers of the characters up to the closing quote, and the rest after it. A pair
of surrogates stands as two numbers. -/
def readStringUnits : List Char → Option (List Nat × List Char)
  | [] => none
  | '"' :: rest => some ([], rest)
  | '\\' :: 'u' :: a :: b :: c :: d :: rest => do
    let n ← hexNumber? a b c d
    let (units, rest) ← readStringUnits rest
    return (n :: units, rest)
  | '\\' :: c :: rest => do
    let n ← simpleEscape? c
    let (units, rest) ← readStringUnits rest
    return (n :: units, rest)
  | c :: rest => do
    guard (32 ≤ c.toNat)
    let (units, rest) ← readStringUnits rest
    return (c.toNat :: units, rest)

/-- Characters from their numbers; a surrogate is read with its partner or not at all. -/
def joinSurrogates : List Nat → Option (List Char)
  | [] => some []
  | [n] => if 0xD800 ≤ n ∧ n < 0xE000 then none else some [Char.ofNat n]
  | n :: m :: rest =>
    if 0xD800 ≤ n ∧ n < 0xDC00 then
      if 0xDC00 ≤ m ∧ m < 0xE000 then
        (joinSurrogates rest).map
          (Char.ofNat (0x10000 + (n - 0xD800) * 0x400 + (m - 0xDC00)) :: ·)
      else none
    else if 0xDC00 ≤ n ∧ n < 0xE000 then none
    else (joinSurrogates (m :: rest)).map (Char.ofNat n :: ·)

def readString (s : List Char) : Option (String × List Char) := do
  let (units, rest) ← readStringUnits s
  return (String.ofList (← joinSurrogates units), rest)

def maxUInt64 : Nat := 18446744073709551615

def maxInt64 : Nat := 9223372036854775807

/-- A significand with more digits appended as long as it stays within 64 bits, and the
number of digits that did not fit. -/
def appendDigits (significand : Nat) : List Char → Nat × Nat
  | [] => (significand, 0)
  | c :: rest =>
    let next := significand * 10 + (c.toNat - '0'.toNat)
    if maxUInt64 < next then (significand, (c :: rest).length) else appendDigits next rest

def scaledDown : Nat → Magnitude → Nat → Magnitude
  | 0, x, _ => x
  | fuel + 1, x, power =>
    if power ≤ 308 then x.div (.ofRatio (Nat.pow 10 power) 1)
    else if x = .zero then x
    else scaledDown fuel (x.div (.ofRatio (Nat.pow 10 308) 1)) (power - 308)

def decimalNumber? (negative : Bool) (significand : Nat) (exponent : Int) : Option Json :=
  let x := Magnitude.ofRatio significand 1
  if 0 ≤ exponent then
    if 308 < exponent then if significand = 0 then some (.real ⟨negative, x⟩) else none
    else
      let y := x.mul (.ofRatio (Nat.pow 10 exponent.toNat) 1)
      if y.isFinite then some (.real ⟨negative, y⟩) else none
  else some (.real ⟨negative, scaledDown 4 x exponent.natAbs⟩)

def wholeNumber (negative : Bool) (n : Nat) : Json :=
  if negative then
    if n = 0 ∨ maxInt64 + 1 < n then .real ⟨true, .ofRatio n 1⟩ else .int (-n)
  else .int n

/-- An exponent sign and digits after the letter. -/
def readExponent (s : List Char) : Option (Int × List Char) :=
  let (negative, s) := match s with
    | '+' :: rest => (false, rest)
    | '-' :: rest => (true, rest)
    | s => (false, s)
  let digits := s.takeWhile Char.isDigit
  if digits.isEmpty then none
  else
    let n := Nat.ofDigitChars 10 digits 0
    some (if negative then -n else n, s.dropWhile Char.isDigit)

/-- Exponents are followed up to 2 ^ 31; one beyond that settles the number by its sign. -/
def exponentNumber? (negative : Bool) (significand : Nat) (shift exponent : Int) :
    Option Json :=
  if Nat.pow 2 31 ≤ exponent.natAbs then
    if significand ≠ 0 ∧ 0 < exponent then none else some (.real ⟨negative, .zero⟩)
  else decimalNumber? negative significand (shift + exponent)

def readNumberTail (negative : Bool) (significand : Nat) (shift : Int) (isWhole : Bool)
    (s : List Char) : Option (Json × List Char) :=
  match s with
  | 'e' :: rest | 'E' :: rest => do
    let (exponent, rest) ← readExponent rest
    return (← exponentNumber? negative significand shift exponent, rest)
  | s =>
    if isWhole then some (wholeNumber negative significand, s)
    else (decimalNumber? negative significand shift).map fun j => (j, s)

/-- A number after its sign: digits, then a fraction or exponent or neither. -/
def readUnsigned (negative : Bool) (s : List Char) : Option (Json × List Char) :=
  let digits := s.takeWhile Char.isDigit
  let rest := s.dropWhile Char.isDigit
  if digits.isEmpty || (digits.head? = some '0' && 1 < digits.length) then none
  else
    let (significand, dropped) := appendDigits 0 digits
    match rest with
    | '.' :: rest =>
      let fraction := rest.takeWhile Char.isDigit
      let rest := rest.dropWhile Char.isDigit
      if fraction.isEmpty then none
      else
        let (significand, unused) := appendDigits significand fraction
        readNumberTail negative significand (dropped - (fraction.length - unused : Nat)) false rest
    | rest => readNumberTail negative significand dropped (dropped = 0) rest

def readNumber : List Char → Option (Json × List Char)
  | '-' :: rest => readUnsigned true rest
  | s => readUnsigned false s

mutual

def readValue : Nat → List Char → Option (Json × List Char)
  | 0, _ => none
  | fuel + 1, s =>
    match skipBlanks s with
    | 'n' :: 'u' :: 'l' :: 'l' :: rest => some (.null, rest)
    | 't' :: 'r' :: 'u' :: 'e' :: rest => some (.bool true, rest)
    | 'f' :: 'a' :: 'l' :: 's' :: 'e' :: rest => some (.bool false, rest)
    | '"' :: rest => (readString rest).map fun (t, rest) => (.str t, rest)
    | '[' :: rest =>
      match skipBlanks rest with
      | ']' :: rest => some (.arr [], rest)
      | rest => (readItems fuel rest).map fun (items, rest) => (.arr items, rest)
    | '\x7b' :: rest =>
      match skipBlanks rest with
      | '\x7d' :: rest => some (.obj [], rest)
      | rest => (readMembers fuel rest).map fun (members, rest) =>
          (.obj (Dict.ofList members).entries, rest)
    | s => readNumber s

def readItems : Nat → List Char → Option (List Json × List Char)
  | 0, _ => none
  | fuel + 1, s => do
    let (item, rest) ← readValue fuel s
    match skipBlanks rest with
    | ']' :: rest => some ([item], rest)
    | ',' :: rest =>
      let (items, rest) ← readItems fuel rest
      some (item :: items, rest)
    | _ => none

def readMembers : Nat → List Char → Option (List (String × Json) × List Char)
  | 0, _ => none
  | fuel + 1, s =>
    match skipBlanks s with
    | '"' :: rest => do
      let (key, rest) ← readString rest
      match skipBlanks rest with
      | ':' :: rest =>
        let (value, rest) ← readValue fuel rest
        match skipBlanks rest with
        | '\x7d' :: rest => some ([(key, value)], rest)
        | ',' :: rest =>
          let (members, rest) ← readMembers fuel rest
          some ((key, value) :: members, rest)
        | _ => none
      | _ => none
    | _ => none

end

def Json.read? (s : String) : Option Json := do
  let cs := s.toList
  let (j, rest) ← readValue (cs.length + 1) cs
  guard (skipBlanks rest).isEmpty
  return j

end InferenceReconciler
