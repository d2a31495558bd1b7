import InferenceReconciler.ModelResolution
import InferenceReconciler.Proofs.PlainWire
import InferenceReconciler.Proofs.WireRoundTrip

/-!
# Texts that are hashed

The text of a value tells the value, also with more behind it: a literal and a string end by
themselves, a list and an object at their closing bracket, and a whole number at what is no digit.
So a list of values is told by their texts with bars between them, whatever bars, quotes and
brackets stand in strings, and two descriptions of a model or two sets of overrides are hashed
from different texts. Numbers with a fraction are left out.
-/

namespace InferenceReconciler

namespace Json

/-- What the first character of a text tells of the value. -/
inductive Opening where
  | null
  | bool (b : Bool)
  | number
  | string
  | list
  | record
  deriving DecidableEq

def opening : Json → Opening
  | .null => .null
  | .bool b => .bool b
  | .int _ | .real _ => .number
  | .str _ => .string
  | .arr _ => .list
  | .obj _ => .record

def openingOf? (c : Char) : Option Opening :=
  if c.isDigit ∨ c = '-' then some .number
  else match c with
    | 'n' => some .null
    | 't' => some (.bool true)
    | 'f' => some (.bool false)
    | '"' => some .string
    | '[' => some .list
    | '\x7b' => some .record
    | _ => none

/-- Values in which no number has a fraction. The members of an object may stand in any order, so
also in that of their names, in which a map has them. -/
inductive Exact : Json → Prop
  | null : Exact .null
  | bool (b : Bool) : Exact (.bool b)
  | int (n : ℤ) : Exact (.int n)
  | str (s : String) : Exact (.str s)
  | arr (items : List Json) (h : ∀ j ∈ items, Exact j) : Exact (.arr items)
  | obj (members : List (String × Json)) (h : ∀ e ∈ members, Exact e.2) : Exact (.obj members)

theorem Plain.exact {j : Json} (h : j.Plain) : j.Exact := by
  induction h with
  | null => exact .null
  | bool b => exact .bool b
  | int n hn => exact .int n
  | str s => exact .str s
  | arr items h ih => exact .arr items ih
  | obj members hkeys h ih => exact .obj members ih

/-- The text starts like a value of that kind. -/
def Opens (o : Opening) (text : List Char) : Prop :=
  ∃ c cs, text = c :: cs ∧ openingOf? c = some o

theorem Exact.opens {j : Json} (h : j.Exact) : Opens j.opening j.text := by
  cases h with
  | null => exact ⟨_, _, rfl, rfl⟩
  | bool b => cases b <;> exact ⟨_, _, rfl, rfl⟩
  | int n =>
    obtain ⟨c, cs, hcons, hstart⟩ := startsNumber_integerDigits n
    exact ⟨c, cs, hcons, if_pos hstart⟩
  | str s => exact ⟨_, _, rfl, rfl⟩
  | arr items h => cases items <;> exact ⟨_, _, rfl, rfl⟩
  | obj members h => cases members <;> exact ⟨_, _, rfl, rfl⟩

theorem Opens.unique {o o' : Opening} {text text' rest rest' : List Char} (h : Opens o text)
    (h' : Opens o' text') (heq : text ++ rest = text' ++ rest') : o = o' := by
  obtain ⟨c, cs, rfl, hc⟩ := h
  obtain ⟨c', cs', rfl, hc'⟩ := h'
  cases (List.cons.inj heq).1
  exact Option.some.inj (hc.symm.trans hc')

/-- A text with which no value goes on and none starts. -/
def OpensNone (rest : List Char) : Prop := ∀ c ∈ rest.head?, openingOf? c = none

theorem opensNone_cons {c : Char} (h : openingOf? c = none) (rest : List Char) :
    OpensNone (c :: rest) := by
  rintro _ ⟨⟩
  exact h

theorem OpensNone.ne_append {o : Opening} {rest text tail : List Char} (hrest : OpensNone rest)
    (h : Opens o text) : rest ≠ text ++ tail := by
  rintro rfl
  obtain ⟨c, cs, rfl, hc⟩ := h
  cases hc.symm.trans (hrest c rfl)

theorem OpensNone.takeWhile_digits {rest : List Char} (h : OpensNone rest) :
    rest.takeWhile Char.isDigit = [] := by
  cases rest with
  | nil => rfl
  | cons c rest =>
    refine List.takeWhile_cons_of_neg fun hdigit => ?_
    cases (if_pos (Or.inl hdigit)).symm.trans (h c rfl)

end Json

open Json

section

variable {α : Type} (text : α → List Char) (P : α → Prop)

/-- In front of texts that open no value, the text of `a` is no other's. -/
def Told (a : α) : Prop :=
  ∀ b, P b → ∀ rest rest', OpensNone rest → OpensNone rest' →
    text a ++ rest = text b ++ rest' → a = b ∧ rest = rest'

def markedTexts (mark : Char) (l : List α) : List Char := l.flatMap fun a => mark :: text a

def joinedTexts (mark : Char) : List α → List Char
  | [] => []
  | a :: l => text a ++ markedTexts text mark l

end

section

variable {α : Type} {text : α → List Char} {P : α → Prop} {mark : Char}

@[simp] theorem markedTexts_nil : markedTexts text mark [] = [] := rfl

@[simp] theorem markedTexts_cons (a : α) (l : List α) :
    markedTexts text mark (a :: l) = mark :: (text a ++ markedTexts text mark l) := rfl

@[simp] theorem joinedTexts_cons (a : α) (l : List α) :
    joinedTexts text mark (a :: l) = text a ++ markedTexts text mark l := rfl

theorem opensNone_markedTexts (hmark : openingOf? mark = none) {rest : List Char}
    (h : OpensNone rest) (l : List α) : OpensNone (markedTexts text mark l ++ rest) := by
  cases l with
  | nil => exact h
  | cons a l => exact opensNone_cons hmark _

/-- What may stand behind texts with a mark: neither one more of them nor a value. -/
structure EndsTexts (mark : Char) (rest : List Char) : Prop where
  opensNone : OpensNone rest
  mark_ne : rest.head? ≠ some mark

variable {l l' : List α} {rest rest' : List Char}

theorem eq_of_markedTexts (hmark : openingOf? mark = none) (htold : ∀ a ∈ l, Told text P a)
    (hP : ∀ a ∈ l', P a) (hrest : EndsTexts mark rest) (hrest' : EndsTexts mark rest')
    (h : markedTexts text mark l ++ rest = markedTexts text mark l' ++ rest') :
    l = l' ∧ rest = rest' := by
  induction l generalizing l' with
  | nil =>
    cases l' with
    | nil => exact ⟨rfl, h⟩
    | cons b l' => exact absurd (congrArg List.head? h) hrest.mark_ne
  | cons a l ih =>
    cases l' with
    | nil => exact absurd (congrArg List.head? h.symm) hrest'.mark_ne
    | cons b l' =>
      simp only [markedTexts_cons, List.cons_append, List.append_assoc, List.cons.injEq,
        true_and] at h
      obtain ⟨rfl, htail⟩ := htold a List.mem_cons_self b (hP b List.mem_cons_self) _ _
        (opensNone_markedTexts hmark hrest.opensNone l)
        (opensNone_markedTexts hmark hrest'.opensNone l') h
      obtain ⟨rfl, hend⟩ := ih (fun c hc => htold c (List.mem_cons_of_mem _ hc))
        (fun c hc => hP c (List.mem_cons_of_mem _ hc)) htail
      exact ⟨rfl, hend⟩

/-- So do texts with a mark between them, for an empty list is not taken for the text of a value. -/
theorem eq_of_joinedTexts (hmark : openingOf? mark = none)
    (hopens : ∀ a, P a → ∃ o, Opens o (text a)) (htold : ∀ a ∈ l, Told text P a)
    (hPl : ∀ a ∈ l, P a) (hPl' : ∀ a ∈ l', P a) (hrest : EndsTexts mark rest)
    (hrest' : EndsTexts mark rest')
    (h : joinedTexts text mark l ++ rest = joinedTexts text mark l' ++ rest') :
    l = l' ∧ rest = rest' := by
  cases l with
  | nil =>
    cases l' with
    | nil => exact ⟨rfl, h⟩
    | cons b l' =>
      obtain ⟨o, ho⟩ := hopens b (hPl' b List.mem_cons_self)
      rw [joinedTexts_cons, List.append_assoc] at h
      exact absurd h (hrest.opensNone.ne_append ho)
  | cons a l =>
    cases l' with
    | nil =>
      obtain ⟨o, ho⟩ := hopens a (hPl a List.mem_cons_self)
      rw [joinedTexts_cons, List.append_assoc] at h
      exact absurd h.symm (hrest'.opensNone.ne_append ho)
    | cons b l' => exact eq_of_markedTexts hmark htold hPl' hrest hrest' (congrArg (mark :: ·) h)

end

theorem toDigits_append_inj {m n : ℕ} {rest rest' : List Char} (hrest : OpensNone rest)
    (hrest' : OpensNone rest')
    (h : Nat.toDigits 10 m ++ rest = Nat.toDigits 10 n ++ rest') : m = n ∧ rest = rest' := by
  have hdigits : ∀ (k : ℕ) (tail : List Char), OpensNone tail →
      (Nat.toDigits 10 k ++ tail).takeWhile Char.isDigit = Nat.toDigits 10 k := by
    intro k tail htail
    rw [List.takeWhile_append_of_pos fun c hc => isDigit_of_mem_digits hc,
      htail.takeWhile_digits, List.append_nil]
  have hsame : Nat.toDigits 10 m = Nat.toDigits 10 n := by
    rw [← hdigits m rest hrest, h, hdigits n rest' hrest']
  have hvalue := congrArg (fun digits => Nat.ofDigitChars 10 digits 0) hsame
  simp only [Nat.ofDigitChars_ten_toDigits] at hvalue
  rw [hsame] at h
  exact ⟨hvalue, List.append_cancel_left h⟩

theorem integerDigits_append_inj {m n : ℤ} {rest rest' : List Char} (hrest : OpensNone rest)
    (hrest' : OpensNone rest') (h : integerDigits m ++ rest = integerDigits n ++ rest') :
    m = n ∧ rest = rest' := by
  have hminus : ∀ (k : ℕ) (tail tail' : List Char), Nat.toDigits 10 k ++ tail ≠ '-' :: tail' := by
    intro k tail tail' heq
    obtain ⟨c, cs, hcons⟩ := exists_cons_digits k
    have hdigit : c.isDigit = true := isDigit_of_mem_digits (hcons ▸ List.mem_cons_self)
    rw [hcons, List.cons_append] at heq
    cases (List.cons.inj heq).1
    cases hdigit
  unfold integerDigits at h
  split at h <;> split at h
  · obtain ⟨habs, hend⟩ := toDigits_append_inj hrest hrest' (List.cons.inj h).2
    exact ⟨by omega, hend⟩
  · exact absurd h.symm (hminus _ _ _)
  · exact absurd h (hminus _ _ _)
  · obtain ⟨habs, hend⟩ := toDigits_append_inj hrest hrest' h
    exact ⟨by omega, hend⟩

theorem stringText_append_inj {s t : String} {rest rest' : List Char}
    (h : stringText s ++ rest = stringText t ++ rest') : s = t ∧ rest = rest' := by
  obtain ⟨cs, hcs, hread⟩ := readString_stringText s rest
  obtain ⟨cs', hcs', hread'⟩ := readString_stringText t rest'
  rw [hcs, hcs'] at h
  cases h
  cases hread.symm.trans hread'
  exact ⟨rfl, rfl⟩

namespace Json

def memberText (e : String × Json) : List Char := stringText e.1 ++ ':' :: e.2.text

theorem itemsText_eq (items : List Json) : itemsText items = markedTexts text ',' items := by
  induction items with
  | nil => rfl
  | cons item items ih => rw [itemsText, ih, markedTexts_cons, List.cons_append]

theorem membersText_eq (members : List (String × Json)) :
    membersText members = markedTexts memberText ',' members := by
  induction members with
  | nil => rfl
  | cons e members ih =>
    obtain ⟨key, value⟩ := e
    simp [membersText, ih, memberText]

theorem text_arr (items : List Json) :
    (arr items).text = '[' :: (joinedTexts text ',' items ++ [']']) := by
  cases items with
  | nil => rfl
  | cons item items => simp [text, itemsText_eq]

theorem text_obj (members : List (String × Json)) :
    (obj members).text = '\x7b' :: (joinedTexts memberText ',' members ++ ['\x7d']) := by
  cases members with
  | nil => rfl
  | cons e members => simp [text, membersText_eq, memberText]

theorem opens_memberText (e : String × Json) : Opens .string (memberText e) :=
  ⟨_, _, rfl, by decide⟩

theorem told_memberText {e : String × Json} (h : Told text Exact e.2) :
    Told memberText (fun e => e.2.Exact) e := by
  intro e' he' rest rest' hrest hrest' heq
  unfold memberText at heq
  rw [List.append_assoc, List.append_assoc] at heq
  obtain ⟨hkey, htail⟩ := stringText_append_inj heq
  obtain ⟨hvalue, hend⟩ := h e'.2 he' rest rest' hrest hrest' (List.cons.inj htail).2
  exact ⟨Prod.ext hkey hvalue, hend⟩

theorem endsTexts_bracket (rest : List Char) : EndsTexts ',' (']' :: rest) :=
  ⟨opensNone_cons (by decide) rest, by simp⟩

theorem endsTexts_brace (rest : List Char) : EndsTexts ',' ('\x7d' :: rest) :=
  ⟨opensNone_cons (by decide) rest, by simp⟩

/-- The text of a value tells the value and where the text ends. -/
theorem Exact.told {j : Json} (h : j.Exact) : Told text Exact j := by
  -- The first character leaves one kind of value; a list or an object is told by its parts.
  induction h with
  | null =>
    intro j' h' rest rest' hrest hrest' heq
    have hopening := Exact.null.opens.unique h'.opens heq
    cases h' <;> cases hopening
    exact ⟨rfl, List.append_cancel_left heq⟩
  | bool b =>
    intro j' h' rest rest' hrest hrest' heq
    have hopening := (Exact.bool b).opens.unique h'.opens heq
    cases h' <;> cases hopening
    exact ⟨rfl, List.append_cancel_left heq⟩
  | int n =>
    intro j' h' rest rest' hrest hrest' heq
    have hopening := (Exact.int n).opens.unique h'.opens heq
    cases h' <;> cases hopening
    obtain ⟨hn, hend⟩ := integerDigits_append_inj hrest hrest' heq
    exact ⟨congrArg Json.int hn, hend⟩
  | str s =>
    intro j' h' rest rest' hrest hrest' heq
    have hopening := (Exact.str s).opens.unique h'.opens heq
    cases h' <;> cases hopening
    obtain ⟨hs, hend⟩ := stringText_append_inj heq
    exact ⟨congrArg Json.str hs, hend⟩
  | arr items h ih =>
    intro j' h' rest rest' hrest hrest' heq
    have hopening := (Exact.arr items h).opens.unique h'.opens heq
    cases h' <;> cases hopening
    case arr items' h' =>
    simp only [text_arr, List.cons_append, List.append_assoc, List.nil_append, List.cons.injEq,
      true_and] at heq
    obtain ⟨hitems, hend⟩ := eq_of_joinedTexts (by decide) (fun j hj => ⟨_, hj.opens⟩) ih h h'
      (endsTexts_bracket rest) (endsTexts_bracket rest') heq
    exact ⟨congrArg Json.arr hitems, (List.cons.inj hend).2⟩
  | obj members h ih =>
    intro j' h' rest rest' hrest hrest' heq
    have hopening := (Exact.obj members h).opens.unique h'.opens heq
    cases h' <;> cases hopening
    case obj members' h' =>
    simp only [text_obj, List.cons_append, List.append_assoc, List.nil_append, List.cons.injEq,
      true_and] at heq
    obtain ⟨hmembers, hend⟩ := eq_of_joinedTexts (by decide) (fun e _ => ⟨_, opens_memberText e⟩)
      (fun e he => told_memberText (ih e he)) h h' (endsTexts_brace rest) (endsTexts_brace rest')
      heq
    exact ⟨congrArg Json.obj hmembers, (List.cons.inj hend).2⟩

end Json

theorem toList_hashInput (values : List Json) :
    (hashInput values).toList = joinedTexts Json.text '|' values := by
  cases values with
  | nil => rfl
  | cons j values =>
    unfold hashInput
    induction values generalizing j with
    | nil => simp [Json.compact]
    | cons j' values ih =>
      rw [List.map_cons, List.map_cons, String.intercalate_cons_cons, String.toList_append,
        String.toList_append, ← List.map_cons, ih]
      simp [Json.compact]

theorem eq_of_hashInput {values values' : List Json} (h : ∀ j ∈ values, j.Exact)
    (h' : ∀ j ∈ values', j.Exact) (heq : hashInput values = hashInput values') :
    values = values' := by
  have hends : EndsTexts '|' [] := ⟨by rintro _ ⟨⟩, by simp⟩
  have htexts := congrArg String.toList heq
  rw [toList_hashInput, toList_hashInput, ← List.append_nil (joinedTexts _ _ values),
    ← List.append_nil (joinedTexts _ _ values')] at htexts
  exact (eq_of_joinedTexts (by decide) (fun j hj => ⟨_, hj.opens⟩) (fun j hj => (h j hj).told) h h'
    hends hends htexts).1

section

variable {α : Type} [Wire α]

theorem exact_write [PlainWire α] (a : α) : (Wire.write a).Exact := (PlainWire.plain a).exact

theorem exact_write_option [PlainWire α] (o : Option α) : (Wire.write o).Exact := by
  cases o with
  | none => exact .null
  | some a => exact exact_write a

theorem write_option_inj [LawfulWire α] {o o' : Option α} (h : Wire.write o = Wire.write o') :
    o = o' := by
  have hnull : ∀ a : α, Wire.write a ≠ Json.null := by
    intro a ha
    have hnot := LawfulWire.isNull_write a
    rw [ha] at hnot
    cases hnot
  cases o with
  | none =>
    cases o' with
    | none => rfl
    | some a' => exact absurd h.symm (hnull a')
  | some a =>
    cases o' with
    | none => exact absurd h (hnull a)
    | some a' => exact congrArg some (LawfulWire.write_inj h)

end

theorem CustomModel.exact_hashed (m : CustomModel) : ∀ j ∈ m.hashed, j.Exact := by
  intro j hj
  simp only [hashed, List.mem_cons, List.not_mem_nil, or_false] at hj
  rcases hj with rfl | rfl | rfl
  · exact .str m.baseImage
  · exact exact_write m.modelSources
  · exact exact_write_option m.gpuSelector

theorem CustomModel.eq_of_hashed {m m' : CustomModel} (h : m.hashed = m'.hashed) : m = m' := by
  simp only [hashed, List.cons.injEq, Json.str.injEq, and_true] at h
  obtain ⟨himage, hsources, hselector⟩ := h
  obtain ⟨baseImage, modelSources, gpuSelector⟩ := m
  cases himage
  cases LawfulWire.write_inj hsources
  cases write_option_inj hselector
  rfl

/-- The text that is hashed tells the values: whole numbers, literals, strings of any characters,
lists and objects. So do the texts that the names of derived templates and of models described in
place are hashed from. -/
theorem hash_inputs_told :
    (∀ values values' : List Json, (∀ j ∈ values, j.Exact) → (∀ j ∈ values', j.Exact) →
      hashInput values = hashInput values' → values = values') ∧
    (∀ o o' : TemplateOverrides, o ≠ o' →
      hashInput [Wire.write o] ≠ hashInput [Wire.write o']) ∧
    ∀ m m' : CustomModel, m ≠ m' → hashInput m.hashed ≠ hashInput m'.hashed := by
  refine ⟨fun values values' h h' heq => eq_of_hashInput h h' heq, ?_, ?_⟩
  · intro o o' hne heq
    have hwritten := eq_of_hashInput (by simpa using exact_write o) (by simpa using exact_write o')
      heq
    exact hne (LawfulWire.write_inj (List.cons.inj hwritten).1)
  · intro m m' hne heq
    exact hne (CustomModel.eq_of_hashed (eq_of_hashInput m.exact_hashed m'.exact_hashed heq))

/-- A string with quotes and a bar is not hashed like the strings at both sides of the bar, nor are
overrides or descriptions that have one text in another field. -/
theorem hash_inputs_told_of_bar :
    hashInput [.str "a\"|\"b"] ≠ hashInput [.str "a", .str "b"] ∧
    hashInput [Wire.write (⟨some "fp8", none, none⟩ : TemplateOverrides)] ≠
      hashInput [Wire.write (⟨none, some "fp8", none⟩ : TemplateOverrides)] ∧
    hashInput (CustomModel.hashed ⟨"vllm:1|null", [], none⟩) ≠
      hashInput (CustomModel.hashed ⟨"vllm:1|null", [], some ⟨none, none, none⟩⟩) := by
  refine ⟨fun heq => ?_, hash_inputs_told.2.1 _ _ (by decide),
    hash_inputs_told.2.2 _ _ (by decide)⟩
  have hlists := hash_inputs_told.1 _ _ (by simp [Exact.str]) (by simp [Exact.str]) heq
  exact absurd (congrArg List.length hlists) (by decide)

end InferenceReconciler
