import InferenceReconciler.EscapedCharacters
import InferenceReconciler.LetterCaseTables

/-!
# Letter case

Full case mapping of texts. One letter may become several, and a capital sigma takes
its final form after a letter and before the end of its word.
-/

namespace InferenceReconciler

def caseShift? (table : List (Nat × Nat × Nat × Int)) (n : Nat) : Option Int :=
  table.findSome? fun (first, last, step, shift) =>
    if first ≤ n && n ≤ last && (n - first) % step == 0 then some shift else none

/-- The letters that a table maps `c` to; `c` itself where it has no entry. -/
def mapCase (shifts : List (Nat × Nat × Nat × Int)) (expansions : List (Nat × List Nat))
    (c : Char) : List Char :=
  match expansions.lookup c.toNat with
  | some codes => codes.map Char.ofNat
  | none =>
    match caseShift? shifts c.toNat with
    | some shift => [Char.ofNat (c.toNat + shift).toNat]
    | none => [c]

def lowerLetters (c : Char) : List Char :=
  if c.toNat < 128 then [c.toLower] else mapCase lowerShifts lowerExpansions c

def upperLetters (c : Char) : List Char :=
  if c.toNat < 128 then [c.toUpper] else mapCase upperShifts upperExpansions c

/-- Whether the next character that is not skipped over is a letter with case. -/
def startsCased (l : List Char) : Bool :=
  match l.dropWhile (inRanges caseIgnorableRanges) with
  | [] => false
  | c :: _ => inRanges casedRanges c

def lowerSigma (before after : List Char) : Char :=
  if startsCased before && !startsCased after then 'ς' else 'σ'

/-- Lower case of a word whose letters before this point are `before`, nearest first. -/
def lowerFrom (before : List Char) : List Char → List Char
  | [] => []
  | c :: rest =>
    (if c = 'Σ' then [lowerSigma before rest] else lowerLetters c) ++ lowerFrom (c :: before) rest

def lowercase (s : String) : String :=
  String.ofList (lowerFrom [] s.toList)

def uppercase (s : String) : String :=
  String.ofList (s.toList.flatMap upperLetters)

@[simp] theorem lowerFrom_nil (before : List Char) : lowerFrom before [] = [] := rfl

theorem lowerLetters_of_lt {c : Char} (h : c.toNat < 128) : lowerLetters c = [c.toLower] := by
  simp [lowerLetters, h]

theorem lowerFrom_eq_self {l : List Char} (h : ∀ c ∈ l, c.toNat < 128 ∧ c.toLower = c)
    (before : List Char) : lowerFrom before l = l := by
  induction l generalizing before with
  | nil => rfl
  | cons c rest ih =>
    obtain ⟨hascii, hlower⟩ := h c List.mem_cons_self
    have hne : c ≠ 'Σ' := by
      rintro rfl
      exact absurd hascii (by decide)
    have hrest := ih (fun d hd => h d (List.mem_cons_of_mem _ hd)) (c :: before)
    rw [lowerFrom, if_neg hne, lowerLetters_of_lt hascii, hlower, hrest, List.singleton_append]

theorem lowercase_eq_self {s : String} (h : ∀ c ∈ s.toList, c.toNat < 128 ∧ c.toLower = c) :
    lowercase s = s := by
  unfold lowercase
  rw [lowerFrom_eq_self h, String.ofList_toList]

@[elab_as_elim]
theorem forall_ascii {p : Char → Prop} (c : Char) (hc : c.toNat < 128)
    (h : ∀ n < 128, p (Char.ofNat n)) : p c := by
  have hp := h c.toNat hc
  rwa [Char.ofNat_toNat] at hp

theorem upperLetters_of_lt {c : Char} (h : c.toNat < 128) : upperLetters c = [c.toUpper] := by
  simp [upperLetters, h]

end InferenceReconciler
