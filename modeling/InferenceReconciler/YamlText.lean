import InferenceReconciler.JsonText

/-!
# YAML documents

A value as a block of lines. Lists stand at the column of their key, members of a record
two columns behind it. A text is written plain where no reader could take it for
anything else.
-/

namespace InferenceReconciler

namespace Yaml

/-- The words that stand for something other than themselves. -/
def reservedWords : List String :=
  ["null", "~", "true", "false", "yes", "no", "on", "off", "y", "n"]

/-- The characters that open something when they come first. -/
def indicators : List Char :=
  ['#', ',', '[', ']', '\x7b', '\x7d', '&', '*', '!', '|', '>', '\'', '"', '%', '@', '\x60']

def startsLikeNumber : List Char → Bool
  | c :: d :: _ => c.isDigit || ((c = '+' || c = '-' || c = '.') && d.isDigit)
  | [c] => c.isDigit
  | [] => false

/-- Whether a mark that ends a plain text comes up: a colon before a blank, or a number
sign behind one. -/
def holdsBreak : List Char → Bool
  | ':' :: ' ' :: _ => true
  | [':'] => true
  | ' ' :: '#' :: _ => true
  | _ :: rest => holdsBreak rest
  | [] => false

def startsLikeMark : List Char → Bool
  | c :: rest =>
    c = ' ' || c ∈ indicators ||
      ((c = '-' || c = '?' || c = ':') && rest.head?.all (· = ' '))
  | [] => true

def isPrinted (c : Char) : Bool := 32 ≤ c.toNat && c.toNat ≠ 127

def isPlain (s : String) : Bool :=
  let letters := s.toList
  letters.all isPrinted && !startsLikeMark letters && !startsLikeNumber letters &&
    !holdsBreak letters && letters.getLast? ≠ some ' ' &&
    String.ofList (letters.map Char.toLower) ∉ reservedWords

def text (s : String) : String :=
  let letters := s.toList
  if isPlain s then s
  else if letters.all isPrinted then
    "'" ++ String.ofList (letters.flatMap fun c => if c = '\'' then ['\'', '\''] else [c]) ++ "'"
  else (Json.str s).compact

def item : List String → List String
  | [] => []
  | first :: rest => ("- " ++ first) :: rest.map ("  " ++ ·)

/-- Where the lines of a value stand beside its key. -/
inductive Layout where
  | besideKey
  | belowKey
  | indented

def layout : Json → Layout
  | .arr (_ :: _) => .belowKey
  | .obj (_ :: _) => .indented
  | _ => .besideKey

def member (key : String) (layout : Layout) (lines : List String) : List String :=
  match layout with
  | .besideKey => [text key ++ ": " ++ "".intercalate lines]
  | .belowKey => (text key ++ ":") :: lines
  | .indented => (text key ++ ":") :: lines.map ("  " ++ ·)

mutual

def lines : Json → List String
  | .arr (first :: rest) => item (lines first) ++ itemLines rest
  | .obj ((key, value) :: rest) => member key (layout value) (lines value) ++ memberLines rest
  | .str s => [text s]
  | j => [j.compact]

def itemLines : List Json → List String
  | [] => []
  | j :: rest => item (lines j) ++ itemLines rest

def memberLines : List (String × Json) → List String
  | [] => []
  | (key, value) :: rest => member key (layout value) (lines value) ++ memberLines rest

end

def document (j : Json) : String := String.join ((lines j).map (· ++ "\n"))

def stream (documents : List Json) : String :=
  "---\n".intercalate (documents.map document)

@[simp] theorem lines_str (s : String) : lines (.str s) = [text s] := by simp [lines]

end Yaml

end InferenceReconciler
