import InferenceReconciler.Fault
import InferenceReconciler.JsonText
import InferenceReconciler.LetterCase
import InferenceReconciler.Sha256
import InferenceReconciler.Trimming

/-!
# Names of objects

Legal names and label values made from arbitrary texts, and names that are a function
of what an object is made from: readable parts first, then a digest of the inputs. The
longest part gives way until the name fits, so the digest is always whole.
-/

namespace InferenceReconciler

def maxNameLength : Nat := 63

def maxLabelValueLength : Nat := 63

def isNameLetter (c : Char) : Bool := ('a' ≤ c && c ≤ 'z') || ('0' ≤ c && c ≤ '9')

def isDash (c : Char) : Bool := c = '-'

def isSeparator (c : Char) : Bool := c = '_' || c = '.' || c = '-'

def dashUnlessName (c : Char) : Char := if isNameLetter c || isDash c then c else '-'

def dnsLabelLetters (s : List Char) : List Char :=
  dropTrailing isDash ((dropAround isDash (s.map dashUnlessName)).take maxNameLength)

/-- The text in small letters with a dash for every other character, cut to a domain
label; empty when no letter or digit is left. -/
def dnsLabel (s : String) : String :=
  String.ofList (dnsLabelLetters (lowercase s).toList)

/-- One underscore for each run of characters that a label value cannot hold. -/
def joinRuns (inRun : Bool) : List Char → List Char
  | [] => []
  | c :: rest =>
    if isNameLetter c || isSeparator c then c :: joinRuns false rest
    else if inRun then joinRuns true rest
    else '_' :: joinRuns true rest

def labelValueLetters (s : List Char) : List Char :=
  dropAround isSeparator ((dropAround isSeparator (joinRuns false s)).take maxLabelValueLength)

/-- The text as a label value; a text with no letter or digit has none. -/
def labelValue (s : String) : Except Fault String :=
  match labelValueLetters (lowercase s).toList with
  | [] => .error (.invalid s!"label value {quoted s} is empty after sanitization")
  | letters => .ok (String.ofList letters)

/-- One dash for each run of characters that are no letter or digit. -/
def dashRuns (afterDash : Bool) : List Char → List Char
  | [] => []
  | c :: rest =>
    if isNameLetter c then c :: dashRuns false rest
    else if afterDash then dashRuns true rest
    else '-' :: dashRuns true rest

def nameComponent (s : String) : String :=
  String.ofList (dropAround isDash (dashRuns false (lowercase s).toList))

@[simp] theorem toList_dnsLabel (s : String) :
    (dnsLabel s).toList = dnsLabelLetters (lowercase s).toList := by simp [dnsLabel]

theorem length_dnsLabelLetters_le (s : List Char) : (dnsLabelLetters s).length ≤ maxNameLength := by
  exact Nat.le_trans (length_dropTrailing_le isDash _) (List.length_take_le ..)

/-- How much of a digest a name ends in, and how long it may get. -/
structure NameOptions where
  hashLength : Nat
  maxLength : Nat
  deriving DecidableEq, Repr

def NameOptions.withHashLength (n : Nat) : NameOptions := ⟨n, maxNameLength⟩

def NameOptions.standard : NameOptions := .withHashLength 8

def shortHash (input : String) (length : Nat) : String :=
  String.ofList ((Sha256.hexDigest input.toUTF8.toList).take length)

/-- The compact texts of the values with a bar between them, the text that is hashed. -/
def hashInput (values : List Json) : String :=
  "|".intercalate (values.map Json.compact)

def hashValues (values : List Json) (length : Nat) : String :=
  shortHash (hashInput values) length

/-- What stands for a part of which nothing legal is left. -/
def emptyPart : String := "part"

def namePart (s : String) : List Char :=
  match dnsLabelLetters (lowercase s).toList with
  | [] => emptyPart.toList
  | letters => letters

/-- The length of the parts with a dash after each, the digest included; the last dash
is not counted where no digest follows. -/
def joinedLength (hash : Option String) (parts : List (List Char)) : Nat :=
  let base := parts.flatten.length + parts.length
  match hash with
  | some h => base + h.length
  | none => base - 1

/-- The parts with the first one of `n` letters shorter by a letter and by the dashes
that come to stand at its end. -/
def shortenPart (n : Nat) : List (List Char) → List (List Char)
  | [] => []
  | p :: rest =>
    if p.length = n then dropTrailing isDash p.dropLast :: rest else p :: shortenPart n rest

def longest (parts : List (List Char)) : Nat := (parts.map List.length).foldl max 0

/-- The parts cut until the name fits or nothing is left to cut. Each step takes a
letter, so as many steps as there are letters are enough. -/
def fitParts (hash : Option String) (maxLength : Nat) : Nat → List (List Char) → List (List Char)
  | 0, parts => parts
  | fuel + 1, parts =>
    if joinedLength hash parts ≤ maxLength then parts
    else fitParts hash maxLength fuel (shortenPart (longest parts) parts)

def derivedNameWith (options : NameOptions) (parts : List String) (hashed : List Json) : String :=
  let letters := parts.map namePart
  let hash :=
    if hashed.isEmpty || options.hashLength == 0 then none
    else some (hashValues hashed options.hashLength)
  let fitted := fitParts hash options.maxLength letters.flatten.length letters
  let segments := (fitted.filter fun p => !p.isEmpty).map String.ofList
  "-".intercalate (segments ++ hash.toList)

/-- The name for the parts and the hashed inputs, eight digits of digest at most
sixty-three characters long. -/
def derivedName (parts : List String) (hashed : List Json) : String :=
  derivedNameWith .standard parts hashed

theorem length_shortHash (input : String) (length : Nat) :
    (shortHash input length).length = min length 64 := by
  simp [shortHash]

end InferenceReconciler
