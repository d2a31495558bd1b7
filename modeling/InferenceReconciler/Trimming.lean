/-!
# Trimming

Cutting the characters of a class off either end of a text. `isBlank` is the
White_Space class of Unicode, which decides when a field counts as not filled in.
-/

namespace InferenceReconciler

/-- The White_Space characters of Unicode. -/
def isBlank (c : Char) : Bool :=
  let n := c.toNat
  (9 ≤ n && n ≤ 13) || n == 0x20 || n == 0x85 || n == 0xA0 || n == 0x1680 ||
  (0x2000 ≤ n && n ≤ 0x200A) || n == 0x2028 || n == 0x2029 || n == 0x202F || n == 0x205F ||
  n == 0x3000

variable {α : Type} (p : α → Bool)

/-- The list without the elements of the class at its end. -/
def dropTrailing (l : List α) : List α :=
  (l.reverse.dropWhile p).reverse

/-- The list without the elements of the class at either end. -/
def dropAround (l : List α) : List α :=
  dropTrailing p (l.dropWhile p)

theorem length_dropTrailing_le (l : List α) : (dropTrailing p l).length ≤ l.length := by
  unfold dropTrailing
  rw [List.length_reverse]
  exact Nat.le_trans (List.dropWhile_sublist p).length_le (Nat.le_of_eq List.length_reverse)

def trimBlanks (s : String) : String :=
  String.ofList (dropAround isBlank s.toList)

/-- A text of blanks only counts as not filled in. -/
def isBlankText (s : String) : Bool :=
  (trimBlanks s).isEmpty

/-- The text, unless nothing but blanks is in it. -/
def filledIn? (s : Option String) : Option String :=
  s.filter fun t => !isBlankText t

/-- The trimmed text, unless nothing is left of it. -/
def trimmed? (s : Option String) : Option String :=
  (s.map trimBlanks).filter fun t => !t.isEmpty

end InferenceReconciler
