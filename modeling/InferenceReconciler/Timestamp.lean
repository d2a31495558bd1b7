import InferenceReconciler.Trimming
import InferenceReconciler.WireForm

/-!
# Timestamps

Instants in civil time at offset zero, to the nanosecond. The reader takes a date, one
of `T`, `t` and a blank, a time and an offset; blanks may stand before each number and
after the last, and the time is moved to offset zero. The printer writes `Z` and as
many digits of the fraction as are needed in groups of three.
-/

namespace InferenceReconciler

def isLeapYear (year : Int) : Bool := year % 4 = 0 && (year % 100 ≠ 0 || year % 400 = 0)

def daysInMonth (year : Int) (month : Nat) : Nat :=
  if month = 2 then if isLeapYear year then 29 else 28
  else if month = 4 || month = 6 || month = 9 || month = 11 then 30
  else 31

def firstYear : Int := -262143

def lastYear : Int := 262142

/-- Second 60 is a leap second, which may end any minute. -/
structure Timestamp where
  year : Int
  month : Nat
  day : Nat
  hour : Nat
  minute : Nat
  second : Nat
  nanosecond : Nat
  year_range : firstYear ≤ year ∧ year ≤ lastYear
  month_range : 1 ≤ month ∧ month ≤ 12
  day_range : 1 ≤ day ∧ day ≤ daysInMonth year month
  hour_lt : hour < 24
  minute_lt : minute < 60
  second_le : second ≤ 60
  nanosecond_lt : nanosecond < 1000000000
  deriving DecidableEq

namespace Timestamp

def make? (year : Int) (month day hour minute second nanosecond : Nat) : Option Timestamp :=
  if h : (firstYear ≤ year ∧ year ≤ lastYear) ∧ (1 ≤ month ∧ month ≤ 12) ∧
      (1 ≤ day ∧ day ≤ daysInMonth year month) ∧ hour < 24 ∧ minute < 60 ∧ second ≤ 60 ∧
      nanosecond < 1000000000 then
    some ⟨year, month, day, hour, minute, second, nanosecond,
      h.1, h.2.1, h.2.2.1, h.2.2.2.1, h.2.2.2.2.1, h.2.2.2.2.2.1, h.2.2.2.2.2.2⟩
  else none

theorem make?_self (t : Timestamp) :
    make? t.year t.month t.day t.hour t.minute t.second t.nanosecond = some t := by
  unfold make?
  rw [dif_pos ⟨t.year_range, t.month_range, t.day_range, t.hour_lt, t.minute_lt, t.second_le,
    t.nanosecond_lt⟩]

/-- The first instant of the civil count in use today. -/
def epoch : Timestamp where
  year := 1970
  month := 1
  day := 1
  hour := 0
  minute := 0
  second := 0
  nanosecond := 0
  year_range := by decide
  month_range := by decide
  day_range := by decide
  hour_lt := by decide
  minute_lt := by decide
  second_le := by decide
  nanosecond_lt := by decide

instance : Inhabited Timestamp := ⟨epoch⟩

def padded (width n : Nat) : List Char :=
  let digits := Nat.toDigits 10 n
  List.replicate (width - digits.length) '0' ++ digits

def yearText (year : Int) : List Char :=
  if 0 ≤ year ∧ year ≤ 9999 then padded 4 year.toNat
  else (if year < 0 then '-' else '+') :: padded 4 year.natAbs

def fractionText (n : Nat) : List Char :=
  if n = 0 then []
  else if n % 1000000 = 0 then '.' :: padded 3 (n / 1000000)
  else if n % 1000 = 0 then '.' :: padded 6 (n / 1000)
  else '.' :: padded 9 n

def wholeSecondsText (t : Timestamp) : List Char :=
  yearText t.year ++ '-' :: padded 2 t.month ++ '-' :: padded 2 t.day ++
    'T' :: padded 2 t.hour ++ ':' :: padded 2 t.minute ++ ':' :: padded 2 t.second

def text (t : Timestamp) : String :=
  String.ofList (t.wholeSecondsText ++ fractionText t.nanosecond ++ ['Z'])

def textInSeconds (t : Timestamp) : String :=
  String.ofList (t.wholeSecondsText ++ ['Z'])

def skipSpace (s : List Char) : List Char := s.dropWhile isBlank

/-- At most `width` digits and at least one. -/
def readDigits (width : Nat) (s : List Char) : Option (Nat × List Char) :=
  let digits := (s.takeWhile Char.isDigit).take width
  if digits.isEmpty then none
  else some (Nat.ofDigitChars 10 digits 0, s.drop digits.length)

def readPart (s : List Char) : Option (Nat × List Char) :=
  readDigits 2 (skipSpace s)

/-- A year has up to four digits, or a sign and any number of them. -/
def readYear (s : List Char) : Option (Int × List Char) :=
  match skipSpace s with
  | '-' :: rest => (readDigits rest.length rest).map fun (n, rest) => (-(n : Int), rest)
  | '+' :: rest => (readDigits rest.length rest).map fun (n, rest) => ((n : Int), rest)
  | s => (readDigits 4 s).map fun (n, rest) => ((n : Int), rest)

def readMark (c : Char) (s : List Char) : Option (List Char) :=
  match skipSpace s with
  | x :: rest => if x = c then some rest else none
  | [] => none

/-- A fraction of a second in nanoseconds; digits after the ninth are dropped. -/
def readFraction (s : List Char) : Option (Nat × List Char) :=
  match s with
  | '.' :: rest => do
    let (n, after) ← readDigits 9 rest
    let read := rest.length - after.length
    return (n * Nat.pow 10 (9 - read), after.dropWhile Char.isDigit)
  | s => some (0, s)

def isColonOrSpace (c : Char) : Bool := c = ':' || isBlank c

/-- Whether the text starts with the three letters that name offset zero. -/
def startsWithUtc (s : List Char) : Bool :=
  (s.take 3).map Char.toUpper = ['U', 'T', 'C']

/-- An offset in minutes. -/
def readOffset (s : List Char) : Option (Int × List Char) :=
  let s := skipSpace s
  if startsWithUtc s then some (0, s.drop 3)
  else
    match s with
    | 'Z' :: rest | 'z' :: rest => some (0, rest)
    | sign :: a :: b :: rest => do
      guard (sign = '+' ∨ sign = '-' ∨ sign = '\u2212')
      guard (a.isDigit ∧ b.isDigit)
      match rest.dropWhile isColonOrSpace with
      | c :: d :: rest =>
        guard (c.isDigit ∧ d.isDigit)
        let hours := Nat.ofDigitChars 10 [a, b] 0
        let minutes := Nat.ofDigitChars 10 [c, d] 0
        guard (minutes < 60 ∧ hours < 24)
        let total : Int := hours * 60 + minutes
        return (if sign = '+' then total else -total, rest)
      | _ => none
    | _ => none

def previousDay (year : Int) (month day : Nat) : Int × Nat × Nat :=
  if 1 < day then (year, month, day - 1)
  else if 1 < month then (year, month - 1, daysInMonth year (month - 1))
  else (year - 1, 12, 31)

def nextDay (year : Int) (month day : Nat) : Int × Nat × Nat :=
  if day < daysInMonth year month then (year, month, day + 1)
  else if month < 12 then (year, month + 1, 1)
  else (year + 1, 1, 1)

/-- The instant of a local time at an offset of less than a day. -/
def atOffset? (offset : Int) (t : Timestamp) : Option Timestamp :=
  let minutes : Int := t.hour * 60 + t.minute - offset
  let (year, month, day) :=
    if minutes < 0 then previousDay t.year t.month t.day
    else if 1440 ≤ minutes then nextDay t.year t.month t.day
    else (t.year, t.month, t.day)
  let inDay := (minutes % 1440).toNat
  make? year month day (inDay / 60) (inDay % 60) t.second t.nanosecond

def read? (s : String) : Option Timestamp := do
  let (year, s) ← readYear s.toList
  let (month, s) ← readPart (← readMark '-' s)
  let (day, s) ← readPart (← readMark '-' s)
  let s ← match s with
    | 'T' :: rest | 't' :: rest | ' ' :: rest => some rest
    | _ => none
  let (hour, s) ← readPart s
  let (minute, s) ← readPart (← readMark ':' s)
  let (second, s) ← readPart (← readMark ':' s)
  let (nanosecond, s) ← readFraction s
  let (offset, s) ← readOffset s
  guard (skipSpace s).isEmpty
  let time ← make? year month day hour minute second nanosecond
  time.atOffset? offset

instance : Wire Timestamp where
  read? j := j.str?.bind read?
  write t := .str t.text

end Timestamp

end InferenceReconciler
