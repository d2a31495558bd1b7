import InferenceReconciler.ImageReference
import InferenceReconciler.PathField

/-!
# Templates of route paths

A template is literal text with placeholders between braces. It is read once from left
to right: what a placeholder stands for is put into the path as it is and never read as
a template, and the leftmost fault is the one that counts.
-/

namespace InferenceReconciler

namespace PathTemplate

inductive Piece where
  | literal (text : List Char)
  | placeholder (expression : List Char)
  deriving DecidableEq, Repr

/-- The pieces of a template up to the first fault of its braces, if there is one. -/
structure Scan where
  pieces : List Piece
  fault : Option PathFault
  deriving DecidableEq, Repr

def isBrace (c : Char) : Bool := c = '\x7b' || c = '\x7d'

def byteLength : List Char → Nat
  | [] => 0
  | c :: rest => c.utf8Size + byteLength rest

theorem byteLength_append (a b : List Char) :
    byteLength (a ++ b) = byteLength a + byteLength b := by
  induction a with
  | nil => exact (Nat.zero_add _).symm
  | cons c rest ih => rw [List.cons_append, byteLength, byteLength, ih, Nat.add_assoc]

theorem byteLength_eq (l : List Char) : byteLength l = (String.ofList l).utf8ByteSize := by
  induction l with
  | nil => rfl
  | cons c rest ih =>
    have hcons : String.ofList (c :: rest) = String.singleton c ++ String.ofList rest := by
      apply String.toList_inj.1
      simp
    rw [byteLength, hcons, String.utf8ByteSize_append, String.utf8ByteSize_singleton, ih]

theorem byteLength_toList (s : String) : byteLength s.toList = s.utf8ByteSize := by
  rw [byteLength_eq, String.ofList_toList]

theorem byteLength_le_of_sublist {a b : List Char} (h : a.Sublist b) :
    byteLength a ≤ byteLength b := by
  induction h with
  | slnil => exact Nat.le_refl _
  | cons c _ ih => exact Nat.le_trans ih (Nat.le_add_left _ _)
  | cons_cons c _ ih => exact Nat.add_le_add_left ih _

/-- What is wrong with the text between the braces of a placeholder at `place`. -/
def expressionFault? (place : Nat) (expression : List Char) : Option PathFault :=
  if '\x7b' ∈ expression then
    some (.unexpectedBrace '\x7b' (place + 1 + byteLength (expression.takeWhile (· ≠ '\x7b'))))
  else if (dropAround isBlank expression).isEmpty then some (.emptyExpression place)
  else none

/-- The pieces of the rest of a template that begins at byte `place`. -/
def scan (place : Nat) (s : List Char) : Scan :=
  let text := s.takeWhile fun c => !isBrace c
  let braceAt := place + byteLength text
  match _ : s.dropWhile fun c => !isBrace c with
  | [] => ⟨[.literal text], none⟩
  | brace :: after =>
    if brace = '\x7d' then ⟨[.literal text], some (.unexpectedBrace '\x7d' braceAt)⟩
    else
      let expression := after.takeWhile (· ≠ '\x7d')
      match _ : after.dropWhile (· ≠ '\x7d') with
      | [] => ⟨[.literal text], some (.unterminated braceAt)⟩
      | _ :: rest =>
        match expressionFault? braceAt expression with
        | some fault => ⟨[.literal text], some fault⟩
        | none =>
          let scanned := scan (braceAt + 2 + byteLength expression) rest
          ⟨.literal text :: .placeholder expression :: scanned.pieces, scanned.fault⟩
termination_by s.length
decreasing_by
  have hs := (List.dropWhile_sublist fun c => !isBrace c : (s.dropWhile _).Sublist s).length_le
  have ha := (List.dropWhile_sublist (· ≠ '\x7d') : (after.dropWhile _).Sublist after).length_le
  rw [‹s.dropWhile _ = _›] at hs
  rw [‹after.dropWhile _ = _›] at ha
  simp only [List.length_cons] at hs ha
  omega

/-- What stands in the path for a field: an annotation as it is, and every other value as
a domain label. -/
def fieldText (field : PathField) (value : String) : String :=
  match field with
  | .annotated _ => trimBlanks value
  | _ => dnsLabel (trimBlanks value)

def Piece.text (service : ServiceObject) : Piece → Except PathFault String
  | literal s => .ok (String.ofList s)
  | placeholder expression => do
    let field ← PathField.parse (String.ofList expression)
    return fieldText field (← field.value service)

end PathTemplate

def renderPath (template : String) (service : ServiceObject) : Except PathFault String := do
  let scanned := PathTemplate.scan 0 template.toList
  let texts ← scanned.pieces.mapM (PathTemplate.Piece.text service)
  match scanned.fault with
  | some fault => throw fault
  | none => return String.join texts

/-- The segments between slashes of which anything legal is left, as domain labels. -/
def pathSegments (path : List Char) : List String :=
  ((splitAll '/' path).map fun s => dnsLabel (trimBlanks (String.ofList s))).filter
    fun s => !s.isEmpty

/-- The path with a slash at its start, none at its end and legal segments between. The
limit holds for the text before its segments are made legal. -/
def normalizePath (path : String) (limit : Nat) : Except PathFault String :=
  let letters := dropAround isBlank path.toList
  if letters.isEmpty then .error .emptyPath
  else
    let rooted := if letters.head? = some '/' then letters else '/' :: letters
    let trimmed := dropTrailing (· = '/') rooted
    if limit < PathTemplate.byteLength trimmed then
      .error (.tooLong (String.ofList trimmed) limit)
    else .ok ("/" ++ "/".intercalate (pathSegments trimmed))

/-- The path of a service for which no template is set. -/
def defaultPathTemplate : String := "/\x7b.metadata.namespace\x7d/\x7b.metadata.uid\x7d"

def routePath (service : ServiceObject) (template : Option String) (limit : Nat) :
    Except PathFault String := do
  let template := (trimmed? template).getD defaultPathTemplate
  normalizePath (← renderPath template service) limit

end InferenceReconciler
