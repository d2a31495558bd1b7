import InferenceReconciler.PathTemplate
import InferenceReconciler.Proofs.FieldSpellings
import InferenceReconciler.Proofs.TrimmedLists

/-!
# Reading a path template

How a template is read: its text up to the first brace, then what belongs to that brace, then the
rest. Plain text before a template goes into the path as it is. A placeholder either is at fault or
puts its own text before the path of what follows.
-/

namespace InferenceReconciler.PathTemplate

def IsPlain (s : List Char) : Prop := ∀ c ∈ s, isBrace c = false

instance (s : List Char) : Decidable (IsPlain s) :=
  decidable_of_iff (s.all (fun c => !isBrace c) = true) (by simp [IsPlain])

theorem isBrace_eq_false_iff {c : Char} : isBrace c = false ↔ c ≠ '\x7b' ∧ c ≠ '\x7d' := by
  simp [isBrace]

theorem isBrace_opening : isBrace '\x7b' = true := rfl

theorem isBrace_closing : isBrace '\x7d' = true := rfl

theorem isPlain_nil : IsPlain [] := by
  intro c hc
  cases hc

theorem isPlain_append {a b : List Char} (ha : IsPlain a) (hb : IsPlain b) : IsPlain (a ++ b) :=
  fun c hc => (List.mem_append.1 hc).elim (ha c) (hb c)

theorem IsPlain.not_isBrace {s : List Char} (h : IsPlain s) :
    ∀ c ∈ s, (!isBrace c) = true := by
  intro c hc
  rw [h c hc]
  rfl

theorem IsPlain.not_mem {s : List Char} (h : IsPlain s) : '\x7b' ∉ s ∧ '\x7d' ∉ s :=
  ⟨fun hmem => Bool.noConfusion ((h _ hmem).symm.trans isBrace_opening),
    fun hmem => Bool.noConfusion ((h _ hmem).symm.trans isBrace_closing)⟩

theorem isPlain_of_not_mem {s : List Char} (hopening : '\x7b' ∉ s) (hclosing : '\x7d' ∉ s) :
    IsPlain s :=
  fun _ hc => isBrace_eq_false_iff.2
    ⟨fun heq => hopening (heq ▸ hc), fun heq => hclosing (heq ▸ hc)⟩

section

variable {text e after rest : List Char} (place : Nat)

theorem takeWhile_plain (h : IsPlain text) {brace : Char} (hbrace : isBrace brace = true)
    (rest : List Char) :
    (text ++ brace :: rest).takeWhile (fun c => !isBrace c) = text := by
  rw [List.takeWhile_append_of_pos h.not_isBrace, List.takeWhile_cons_of_neg (by simp [hbrace]),
    List.append_nil]

theorem dropWhile_plain (h : IsPlain text) {brace : Char} (hbrace : isBrace brace = true)
    (rest : List Char) :
    (text ++ brace :: rest).dropWhile (fun c => !isBrace c) = brace :: rest := by
  rw [List.dropWhile_append_of_pos h.not_isBrace, List.dropWhile_cons_of_neg (by simp [hbrace])]

theorem ne_closing (h : '\x7d' ∉ e) : ∀ c ∈ e, decide (c ≠ '\x7d') = true :=
  fun _ hc => decide_eq_true fun heq => h (heq ▸ hc)

theorem takeWhile_expression (h : '\x7d' ∉ e) :
    (e ++ '\x7d' :: rest).takeWhile (fun c => decide (c ≠ '\x7d')) = e := by
  rw [List.takeWhile_append_of_pos (ne_closing h), List.takeWhile_cons_of_neg (by simp),
    List.append_nil]

theorem dropWhile_expression (h : '\x7d' ∉ e) :
    (e ++ '\x7d' :: rest).dropWhile (fun c => decide (c ≠ '\x7d')) = '\x7d' :: rest := by
  rw [List.dropWhile_append_of_pos (ne_closing h), List.dropWhile_cons_of_neg (by simp)]

theorem scan_of_plain (h : IsPlain text) : scan place text = ⟨[.literal text], none⟩ := by
  have htake : text.takeWhile (fun c => !isBrace c) = text := by
    rw [← List.append_nil text, List.takeWhile_append_of_pos h.not_isBrace, List.takeWhile_nil]
  have hdrop : text.dropWhile (fun c => !isBrace c) = [] := by
    rw [← List.append_nil text, List.dropWhile_append_of_pos h.not_isBrace, List.dropWhile_nil]
  rw [scan]
  split
  · rw [htake]
  · rename_i hrest
    rw [hdrop] at hrest
    cases hrest

theorem scan_closing (h : IsPlain text) :
    scan place (text ++ '\x7d' :: rest) =
      ⟨[.literal text], some (.unexpectedBrace '\x7d' (place + byteLength text))⟩ := by
  have hdrop := dropWhile_plain h isBrace_closing rest
  rw [scan]
  split
  · rename_i hrest
    rw [hdrop] at hrest
    cases hrest
  · rename_i hrest
    rw [hdrop] at hrest
    cases hrest
    rw [if_pos rfl, takeWhile_plain h isBrace_closing]

theorem scan_unterminated (h : IsPlain text) (hafter : '\x7d' ∉ after) :
    scan place (text ++ '\x7b' :: after) =
      ⟨[.literal text], some (.unterminated (place + byteLength text))⟩ := by
  have hdrop := dropWhile_plain h isBrace_opening after
  have hnone : after.dropWhile (fun c => decide (c ≠ '\x7d')) = [] := by
    rw [← List.append_nil after, List.dropWhile_append_of_pos (ne_closing hafter),
      List.dropWhile_nil]
  rw [scan]
  split
  · rename_i hrest
    rw [hdrop] at hrest
    cases hrest
  · rename_i hrest
    rw [hdrop] at hrest
    cases hrest
    rw [if_neg (by decide), takeWhile_plain h isBrace_opening]
    dsimp only
    split
    · rfl
    · rename_i hsome
      rw [hnone] at hsome
      cases hsome

theorem scan_placeholder (h : IsPlain text) (he : '\x7d' ∉ e) (rest : List Char) :
    scan place (text ++ '\x7b' :: (e ++ '\x7d' :: rest)) =
      match expressionFault? (place + byteLength text) e with
      | some fault => ⟨[.literal text], some fault⟩
      | none =>
        let scanned := scan (place + byteLength text + 2 + byteLength e) rest
        ⟨.literal text :: .placeholder e :: scanned.pieces, scanned.fault⟩ := by
  have hdrop := dropWhile_plain h isBrace_opening (e ++ '\x7d' :: rest)
  rw [scan]
  split
  · rename_i hrest
    rw [hdrop] at hrest
    cases hrest
  · rename_i hrest
    rw [hdrop] at hrest
    cases hrest
    rw [if_neg (by decide), takeWhile_plain h isBrace_opening]
    dsimp only
    split
    · rename_i hnone
      rw [dropWhile_expression he] at hnone
      cases hnone
    · rename_i hsome
      rw [dropWhile_expression he] at hsome
      cases hsome
      cases hfault : expressionFault? (place + byteLength text) e with
      | none => simp only [takeWhile_expression he, hfault]
      | some fault => simp only [takeWhile_expression he, hfault]

end

/-- How a template goes on: its first brace, and what belongs to it. -/
inductive Shape : List Char → Prop
  | plain {text : List Char} (h : IsPlain text) : Shape text
  | closing {text rest : List Char} (h : IsPlain text) : Shape (text ++ '\x7d' :: rest)
  | unterminated {text after : List Char} (h : IsPlain text) (hafter : '\x7d' ∉ after) :
      Shape (text ++ '\x7b' :: after)
  | placeholder {text e rest : List Char} (h : IsPlain text) (he : '\x7d' ∉ e) :
      Shape (text ++ '\x7b' :: (e ++ '\x7d' :: rest))

theorem shape (s : List Char) : Shape s := by
  have hs : s = s.takeWhile (fun c => !isBrace c) ++ s.dropWhile (fun c => !isBrace c) :=
    List.takeWhile_append_dropWhile.symm
  have hplain : IsPlain (s.takeWhile fun c => !isBrace c) := by
    intro c hc
    simpa using List.all_eq_true.1 List.all_takeWhile c hc
  cases hrest : s.dropWhile (fun c => !isBrace c) with
  | nil =>
    rw [hrest, List.append_nil] at hs
    exact .plain (hs ▸ hplain)
  | cons brace rest =>
    have hbrace : isBrace brace = true := by
      simpa using eq_false_of_dropWhile_eq_cons _ hrest
    rw [hrest] at hs
    rw [hs]
    by_cases hclosing : brace = '\x7d'
    · rw [hclosing]
      exact .closing hplain
    · obtain rfl : brace = '\x7b' := by simpa [isBrace, hclosing] using hbrace
      by_cases hend : '\x7d' ∈ rest
      · obtain ⟨e, others, rfl, he⟩ := List.eq_append_cons_of_mem hend
        exact .placeholder hplain he
      · exact .unterminated hplain hend

section

variable (service : ServiceObject)

def joined (scanned : Scan) : Except PathFault String := do
  let texts ← scanned.pieces.mapM (Piece.text service)
  match scanned.fault with
  | some fault => throw fault
  | none => return String.join texts

/-- The path of the rest of a template that begins at byte `place`. -/
def renderFrom (place : Nat) (s : List Char) : Except PathFault String :=
  joined service (scan place s)

theorem joined_cons (p : Piece) (pieces : List Piece) (fault : Option PathFault) :
    joined service ⟨p :: pieces, fault⟩ =
      p.text service >>= fun text => (joined service ⟨pieces, fault⟩).map (text ++ ·) := by
  unfold joined
  dsimp only
  rw [List.mapM_cons]
  cases p.text service with
  | error f => rfl
  | ok text =>
    cases pieces.mapM (Piece.text service) with
    | error f => rfl
    | ok texts =>
      cases fault with
      | some f => rfl
      | none => exact congrArg Except.ok String.join_cons

theorem joined_literal (l : List Char) (pieces : List Piece) (fault : Option PathFault) :
    joined service ⟨.literal l :: pieces, fault⟩ =
      (joined service ⟨pieces, fault⟩).map (String.ofList l ++ ·) :=
  joined_cons service (.literal l) pieces fault

theorem joined_literal_append (a l : List Char) (pieces : List Piece) (fault : Option PathFault) :
    joined service ⟨.literal (a ++ l) :: pieces, fault⟩ =
      (joined service ⟨.literal l :: pieces, fault⟩).map (String.ofList a ++ ·) := by
  rw [joined_literal, joined_literal, String.ofList_append]
  cases joined service ⟨pieces, fault⟩ with
  | error f => rfl
  | ok text => exact congrArg Except.ok (String.append_assoc ..)

theorem joined_literal_nil (pieces : List Piece) (fault : Option PathFault) :
    joined service ⟨.literal [] :: pieces, fault⟩ = joined service ⟨pieces, fault⟩ := by
  rw [joined_literal]
  cases joined service ⟨pieces, fault⟩ with
  | error f => rfl
  | ok text => exact congrArg Except.ok (String.empty_append ..)

variable {service} in
theorem renderFrom_append {a : List Char} (ha : IsPlain a) (place : Nat) (s : List Char) :
    renderFrom service place (a ++ s) =
      (renderFrom service (place + byteLength a) s).map (String.ofList a ++ ·) := by
  unfold renderFrom
  cases shape s with
  | plain h => rw [scan_of_plain _ (isPlain_append ha h), scan_of_plain _ h, joined_literal_append]
  | closing h =>
    rw [← List.append_assoc, scan_closing _ (isPlain_append ha h), scan_closing _ h,
      joined_literal_append, byteLength_append, Nat.add_assoc]
  | unterminated h hafter =>
    rw [← List.append_assoc, scan_unterminated _ (isPlain_append ha h) hafter,
      scan_unterminated _ h hafter, joined_literal_append, byteLength_append, Nat.add_assoc]
  | placeholder h he =>
    rw [← List.append_assoc, scan_placeholder _ (isPlain_append ha h) he,
      scan_placeholder _ h he, byteLength_append, ← Nat.add_assoc]
    split
    · exact joined_literal_append ..
    · exact joined_literal_append ..

end

theorem expressionFault?_nested {before : List Char} (place : Nat) (h : '\x7b' ∉ before)
    (after : List Char) :
    expressionFault? place (before ++ '\x7b' :: after) =
      some (.unexpectedBrace '\x7b' (place + 1 + byteLength before)) := by
  have hall : ∀ c ∈ before, decide (c ≠ '\x7b') = true := fun c hc =>
    decide_eq_true fun heq => h (heq ▸ hc)
  have hbefore : (before ++ '\x7b' :: after).takeWhile (fun c => decide (c ≠ '\x7b')) = before := by
    rw [List.takeWhile_append_of_pos hall, List.takeWhile_cons_of_neg (by simp), List.append_nil]
  unfold expressionFault?
  rw [if_pos (List.mem_append_right _ List.mem_cons_self), hbefore]

theorem expressionFault?_empty {e : List Char} (place : Nat) (h : ∀ c ∈ e, isBlank c = true) :
    expressionFault? place e = some (.emptyExpression place) := by
  have hopening : '\x7b' ∉ e := fun hmem => absurd (h _ hmem) (by decide)
  have hempty : (dropAround isBlank e).isEmpty = true := by
    rw [List.isEmpty_iff, dropAround_eq_nil_iff]
    exact h
  unfold expressionFault?
  rw [if_neg hopening, if_pos hempty]

theorem expressionFault?_eq_none {e : List Char} (place : Nat) (h : '\x7b' ∉ e)
    (hfilled : ∃ c ∈ e, isBlank c = false) : expressionFault? place e = none := by
  have hempty : ¬ (dropAround isBlank e).isEmpty = true := by
    rw [List.isEmpty_iff, dropAround_eq_nil_iff]
    intro hblank
    obtain ⟨c, hc, hnot⟩ := hfilled
    exact Bool.false_ne_true (hnot.symm.trans (hblank c hc))
  unfold expressionFault?
  rw [if_neg h, if_neg hempty]

theorem filled_of_mem_spellings {e : List Char} {field : PathField}
    (h : trimBlanks (String.ofList e) ∈ field.spellings) : ∃ c ∈ e, isBlank c = false := by
  by_contra hblank
  have hall : ∀ c ∈ e, isBlank c = true := by simpa using hblank
  have hempty : trimBlanks (String.ofList e) = "" := by
    rw [trimBlanks, String.toList_ofList, (dropAround_eq_nil_iff isBlank).2 hall]
  rw [hempty] at h
  exact field.empty_not_mem_spellings h

section

variable {service : ServiceObject} {e : List Char} (place : Nat)

theorem renderFrom_fault {fault : PathFault} (he : '\x7d' ∉ e)
    (h : expressionFault? place e = some fault) (rest : List Char) :
    renderFrom service place ('\x7b' :: e ++ '\x7d' :: rest) = .error fault := by
  have hfault : expressionFault? (place + byteLength []) e = some fault := h
  have hscan := scan_placeholder place isPlain_nil he rest
  rw [hfault] at hscan
  exact (congrArg (joined service) hscan).trans (joined_literal_nil service [] (some fault))

theorem renderFrom_placeholder (hplain : IsPlain e) (hfilled : ∃ c ∈ e, isBlank c = false)
    (rest : List Char) :
    renderFrom service place ('\x7b' :: e ++ '\x7d' :: rest) =
      (Piece.placeholder e).text service >>= fun text =>
        (renderFrom service (place + 2 + byteLength e) rest).map (text ++ ·) := by
  have hnone : expressionFault? (place + byteLength []) e = none :=
    expressionFault?_eq_none place hplain.not_mem.1 hfilled
  have hscan := scan_placeholder place isPlain_nil hplain.not_mem.2 rest
  rw [hnone] at hscan
  refine (congrArg (joined service) hscan).trans ?_
  rw [joined_literal_nil, joined_cons]
  rfl

theorem text_placeholder :
    (Piece.placeholder e).text service = PathField.parse (String.ofList e) >>= fun field =>
      (field.value service).map (fieldText field) := by
  change (PathField.parse (String.ofList e) >>= fun field => _) = _
  refine congrArg (PathField.parse (String.ofList e) >>= ·) (funext fun field => ?_)
  cases field.value service <;> rfl

theorem text_placeholder_of_named {field : PathField}
    (h : trimBlanks (String.ofList e) ∈ field.spellings) :
    (Piece.placeholder e).text service = (field.value service).map (fieldText field) := by
  rw [text_placeholder, PathField.parse_eq_ok_iff.2 h]
  rfl

theorem text_placeholder_of_unnamed
    (h : ∀ field : PathField, trimBlanks (String.ofList e) ∉ field.spellings) :
    (Piece.placeholder e).text service =
      .error (.unsupported (trimBlanks (String.ofList e))) := by
  rw [text_placeholder, PathField.parse_eq_error h]
  rfl

end

end InferenceReconciler.PathTemplate
