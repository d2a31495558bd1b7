import InferenceReconciler.Proofs.DerivedNames
import InferenceReconciler.Proofs.TemplateScan
import Mathlib.Data.List.Forall2

/-!
# The grammar of path templates

A template is literal text and placeholders in any order. It has a path exactly if it can be taken
apart into pieces that each stand for a text, and the path is these texts one after the other.
Otherwise the fault is that of the piece that comes next where all pieces before it stand for
something, and its place is how many bytes there are before the brace in question.
-/

namespace InferenceReconciler.PathTemplate

def Piece.source : Piece → List Char
  | literal s => s
  | placeholder expression => '\x7b' :: expression ++ ['\x7d']

def sourceOf (pieces : List Piece) : List Char := pieces.flatMap Piece.source

/-- What a piece stands for in the path of a service: literal text for itself, a placeholder for
the value of the field that it names. -/
inductive Piece.Gives (service : ServiceObject) : Piece → String → Prop
  | literal {s : List Char} (plain : IsPlain s) : Gives service (.literal s) (String.ofList s)
  | placeholder {e : List Char} {field : PathField} {value : String} (plain : IsPlain e)
      (named : trimBlanks (String.ofList e) ∈ field.spellings)
      (read : field.value service = .ok value) :
      Gives service (.placeholder e) (fieldText field value)

/-- The place of what stands behind a text, counted in bytes. -/
def placeAfter (s : List Char) : Nat := (String.ofList s).utf8ByteSize

/-- The fault of the piece that a template goes on with after what was read. -/
inductive FaultAfter (service : ServiceObject) (read : List Char) : List Char → PathFault → Prop
  | closing {rest : List Char} :
      FaultAfter service read ('\x7d' :: rest) (.unexpectedBrace '\x7d' (placeAfter read))
  | unterminated {after : List Char} (open_ended : '\x7d' ∉ after) :
      FaultAfter service read ('\x7b' :: after) (.unterminated (placeAfter read))
  | nested {before after rest : List Char} (plain : IsPlain before) (unclosed : '\x7d' ∉ after) :
      FaultAfter service read ('\x7b' :: before ++ '\x7b' :: after ++ '\x7d' :: rest)
        (.unexpectedBrace '\x7b' (placeAfter (read ++ '\x7b' :: before)))
  | empty {e rest : List Char} (blank : ∀ c ∈ e, isBlank c = true) :
      FaultAfter service read ('\x7b' :: e ++ '\x7d' :: rest) (.emptyExpression (placeAfter read))
  | unsupported {e rest : List Char} (plain : IsPlain e) (filled : ∃ c ∈ e, isBlank c = false)
      (unnamed : ∀ field : PathField, trimBlanks (String.ofList e) ∉ field.spellings) :
      FaultAfter service read ('\x7b' :: e ++ '\x7d' :: rest)
        (.unsupported (trimBlanks (String.ofList e)))
  | unread {e rest : List Char} {field : PathField} {fault : PathFault} (plain : IsPlain e)
      (named : trimBlanks (String.ofList e) ∈ field.spellings)
      (failed : field.value service = .error fault) :
      FaultAfter service read ('\x7b' :: e ++ '\x7d' :: rest) fault

section

variable {service : ServiceObject}

theorem source_placeholder_append (e rest : List Char) :
    (Piece.placeholder e).source ++ rest = '\x7b' :: e ++ '\x7d' :: rest := by
  simp [Piece.source]

theorem renderFrom_piece {p : Piece} {text : String} (h : p.Gives service text) (place : Nat)
    (rest : List Char) :
    renderFrom service place (p.source ++ rest) =
      (renderFrom service (place + byteLength p.source) rest).map (text ++ ·) := by
  cases h with
  | literal plain => exact renderFrom_append plain place rest
  | @placeholder e field value plain named read =>
    have hlength : place + byteLength (Piece.placeholder e).source = place + 2 + byteLength e := by
      have hbraces : byteLength (Piece.placeholder e).source = 1 + (byteLength e + 1) :=
        congrArg (1 + ·) (byteLength_append e ['\x7d'])
      omega
    rw [source_placeholder_append, renderFrom_placeholder place plain
      (filled_of_mem_spellings named), text_placeholder_of_named named, read, hlength]
    rfl

theorem sourceOf_cons (p : Piece) (pieces : List Piece) :
    sourceOf (p :: pieces) = p.source ++ sourceOf pieces := List.flatMap_cons

theorem renderFrom_sourceOf {pieces : List Piece} {texts : List String}
    (h : List.Forall₂ (Piece.Gives service) pieces texts) (place : Nat) (rest : List Char) :
    renderFrom service place (sourceOf pieces ++ rest) =
      (renderFrom service (place + byteLength (sourceOf pieces)) rest).map
        (String.join texts ++ ·) := by
  induction h generalizing place with
  | nil =>
    change renderFrom service place rest = (renderFrom service place rest).map _
    cases renderFrom service place rest with
    | error f => rfl
    | ok text => exact congrArg Except.ok (String.empty_append ..).symm
  | @cons p text pieces texts hp _ ih =>
    rw [sourceOf_cons, List.append_assoc, renderFrom_piece hp, ih, byteLength_append,
      ← Nat.add_assoc, String.join_cons]
    cases renderFrom service (place + byteLength p.source + byteLength (sourceOf pieces)) rest with
    | error f => rfl
    | ok out => exact congrArg Except.ok (String.append_assoc ..).symm

theorem placeAfter_eq (s : List Char) : placeAfter s = byteLength s := (byteLength_eq s).symm

theorem renderFrom_of_faultAfter {read rest : List Char} {fault : PathFault}
    (h : FaultAfter service read rest fault) :
    renderFrom service (byteLength read) rest = .error fault := by
  have hfirst : ∀ fault : PathFault, joined service ⟨[.literal []], some fault⟩ = .error fault :=
    fun fault => joined_literal_nil service [] (some fault)
  cases h with
  | @closing rest =>
    rw [placeAfter_eq]
    exact (congrArg (joined service) (scan_closing _ isPlain_nil)).trans (hfirst _)
  | unterminated hafter =>
    rw [placeAfter_eq]
    exact (congrArg (joined service) (scan_unterminated _ isPlain_nil hafter)).trans (hfirst _)
  | @nested before after rest plain unclosed =>
    have hclosing : '\x7d' ∉ before ++ '\x7b' :: after := by
      simp [plain.not_mem.2, unclosed]
    have hplace : placeAfter (read ++ '\x7b' :: before) =
        byteLength read + 1 + byteLength before := by
      rw [placeAfter_eq, byteLength_append, Nat.add_assoc]
      rfl
    rw [hplace]
    have hrender : renderFrom service (byteLength read)
        ('\x7b' :: (before ++ '\x7b' :: after) ++ '\x7d' :: rest) = .error _ :=
      renderFrom_fault _ hclosing (expressionFault?_nested _ plain.not_mem.1 after) rest
    simpa using hrender
  | @empty e rest blank =>
    have hclosing : '\x7d' ∉ e := fun hmem => absurd (blank _ hmem) (by decide)
    rw [placeAfter_eq]
    exact renderFrom_fault _ hclosing (expressionFault?_empty _ blank) rest
  | unsupported plain filled unnamed =>
    rw [renderFrom_placeholder _ plain filled, text_placeholder_of_unnamed unnamed]
    rfl
  | unread plain named failed =>
    rw [renderFrom_placeholder _ plain (filled_of_mem_spellings named),
      text_placeholder_of_named named, failed]
    rfl

theorem FaultAfter.append {read rest back : List Char} {fault : PathFault}
    (h : FaultAfter service read rest fault) (hback : '\x7d' ∉ back) :
    FaultAfter service read (rest ++ back) fault := by
  cases h with
  | closing => exact .closing
  | @unterminated after open_ended =>
    have hboth : '\x7d' ∉ after ++ back := by
      rw [List.mem_append, not_or]
      exact ⟨open_ended, hback⟩
    exact .unterminated hboth
  | nested plain unclosed => simpa using FaultAfter.nested plain unclosed
  | empty blank => simpa using FaultAfter.empty blank
  | unsupported plain filled unnamed => simpa using FaultAfter.unsupported plain filled unnamed
  | unread plain named failed => simpa using FaultAfter.unread plain named failed

/-- What a placeholder without braces in it comes to: it stands for something or it is at
fault. -/
theorem gives_or_faultAfter {e : List Char} (plain : IsPlain e) (read rest : List Char) :
    (∃ text, (Piece.placeholder e).Gives service text) ∨
      ∃ fault, FaultAfter service read ('\x7b' :: e ++ '\x7d' :: rest) fault := by
  by_cases hblank : ∀ c ∈ e, isBlank c = true
  · exact .inr ⟨_, .empty hblank⟩
  · by_cases hnamed : ∃ field : PathField, trimBlanks (String.ofList e) ∈ field.spellings
    · obtain ⟨field, hfield⟩ := hnamed
      cases hvalue : field.value service with
      | ok value => exact .inl ⟨_, .placeholder plain hfield hvalue⟩
      | error fault => exact .inr ⟨fault, .unread plain hfield hvalue⟩
    · have hfilled : ∃ c ∈ e, isBlank c = false := by simpa using hblank
      exact .inr ⟨_, .unsupported plain hfilled (not_exists.1 hnamed)⟩

/-- A template can be read up to its end or to a fault. -/
theorem exists_readUpTo (read s : List Char) :
    ∃ pieces texts rest, s = sourceOf pieces ++ rest ∧
      List.Forall₂ (Piece.Gives service) pieces texts ∧
      (rest = [] ∨ ∃ fault, FaultAfter service (read ++ sourceOf pieces) rest fault) := by
  induction hn : s.length using Nat.strong_induction_on generalizing read s with
  | _ n ih =>
    subst hn
    have hsource : ∀ text, sourceOf [.literal text] = text := fun text => List.append_nil text
    cases shape s with
    | plain h =>
      exact ⟨[.literal s], _, [], by rw [hsource, List.append_nil], .cons (.literal h) .nil,
        .inl rfl⟩
    | @closing text rest h =>
      exact ⟨[.literal text], _, _, by rw [hsource], .cons (.literal h) .nil, .inr ⟨_, .closing⟩⟩
    | @unterminated text after h hafter =>
      exact ⟨[.literal text], _, _, by rw [hsource], .cons (.literal h) .nil,
        .inr ⟨_, .unterminated hafter⟩⟩
    | @placeholder text e rest h he =>
      by_cases hopening : '\x7b' ∈ e
      · obtain ⟨before, after, rfl, hbefore⟩ := List.eq_append_cons_of_mem hopening
        simp only [List.mem_append, List.mem_cons, not_or] at he
        refine ⟨[.literal text], _, '\x7b' :: before ++ '\x7b' :: after ++ '\x7d' :: rest, ?_,
          .cons (.literal h) .nil, .inr ⟨_, .nested (isPlain_of_not_mem hbefore he.1) he.2.2⟩⟩
        rw [hsource]
        simp
      · obtain ⟨given, hgiven⟩ | ⟨fault, hfault⟩ := @gives_or_faultAfter service e
          (isPlain_of_not_mem hopening he) (read ++ sourceOf [.literal text]) rest
        · obtain ⟨pieces, texts, last, hrest, hpieces, hlast⟩ := ih rest.length
            (by simp only [List.length_append, List.length_cons]; omega)
            (read ++ sourceOf [.literal text, .placeholder e]) rest rfl
          have hcons : sourceOf (.literal text :: .placeholder e :: pieces) =
              sourceOf [.literal text, .placeholder e] ++ sourceOf pieces := by
            simp [sourceOf]
          refine ⟨.literal text :: .placeholder e :: pieces, _, last, ?_,
            .cons (.literal h) (.cons hgiven hpieces), ?_⟩
          · rw [sourceOf_cons, sourceOf_cons, List.append_assoc, List.append_assoc, ← hrest,
              source_placeholder_append]
            rfl
          · rw [hcons, ← List.append_assoc]
            exact hlast
        · exact ⟨[.literal text], _, _, by rw [hsource]; rfl, .cons (.literal h) .nil,
            .inr ⟨fault, hfault⟩⟩

theorem renderFrom_nil (place : Nat) : renderFrom service place [] = .ok "" :=
  congrArg (joined service) (scan_of_plain place isPlain_nil)

theorem renderFrom_of_pieces {pieces : List Piece} {texts : List String}
    (h : List.Forall₂ (Piece.Gives service) pieces texts) :
    renderFrom service 0 (sourceOf pieces) = .ok (String.join texts) := by
  rw [← List.append_nil (sourceOf pieces), renderFrom_sourceOf h, renderFrom_nil]
  exact congrArg Except.ok (String.append_empty ..)

theorem renderFrom_of_isPlain {s : List Char} (h : IsPlain s) (place : Nat) :
    renderFrom service place s = .ok (String.ofList s) := by
  rw [← List.append_nil s, renderFrom_append h, renderFrom_nil, List.append_nil]
  exact congrArg Except.ok (String.append_empty ..)

theorem renderFrom_of_fault {pieces : List Piece} {texts : List String} {rest : List Char}
    {fault : PathFault} (h : List.Forall₂ (Piece.Gives service) pieces texts)
    (hfault : FaultAfter service (sourceOf pieces) rest fault) :
    renderFrom service 0 (sourceOf pieces ++ rest) = .error fault := by
  rw [renderFrom_sourceOf h, Nat.zero_add, renderFrom_of_faultAfter hfault]
  rfl

theorem exists_pieces_of_renderFrom {s : List Char} {out : String}
    (h : renderFrom service 0 s = .ok out) :
    ∃ pieces texts, s = sourceOf pieces ∧ List.Forall₂ (Piece.Gives service) pieces texts ∧
      out = String.join texts := by
  obtain ⟨pieces, texts, rest, rfl, hpieces, rfl | ⟨fault, hfault⟩⟩ := @exists_readUpTo service [] s
  · rw [List.append_nil, renderFrom_of_pieces hpieces] at h
    exact ⟨pieces, texts, List.append_nil _, hpieces, (Except.ok.inj h).symm⟩
  · rw [renderFrom_of_fault hpieces hfault] at h
    cases h

theorem renderFrom_append_of_ok {s : List Char} {out : String}
    (h : renderFrom service 0 s = .ok out) (place : Nat) (rest : List Char) :
    renderFrom service place (s ++ rest) =
      (renderFrom service (place + byteLength s) rest).map (out ++ ·) := by
  obtain ⟨pieces, texts, rfl, hpieces, rfl⟩ := exists_pieces_of_renderFrom h
  exact renderFrom_sourceOf hpieces place rest

theorem exists_renderFrom_of_append {read s back : List Char} {out : String} (hback : '\x7d' ∉ back)
    (h : renderFrom service (byteLength read) (s ++ back) = .ok out) :
    ∃ raw, renderFrom service 0 s = .ok raw := by
  obtain ⟨pieces, texts, rest, rfl, hpieces, rfl | ⟨fault, hfault⟩⟩ :=
    @exists_readUpTo service read s
  · exact ⟨_, by rw [List.append_nil, renderFrom_of_pieces hpieces]⟩
  · rw [List.append_assoc, renderFrom_sourceOf hpieces, ← byteLength_append,
      renderFrom_of_faultAfter (hfault.append hback)] at h
    cases h

end

theorem allowed_of_mem_dnsLabel {text : String} {c : Char} (h : c ∈ (dnsLabel text).toList) :
    isNameLetter c = true ∨ c = '-' := by
  rw [toList_dnsLabel] at h
  have hkept := (dropAround_sublist isDash _).subset
    (List.mem_of_mem_take (mem_of_mem_dropTrailing isDash h))
  obtain ⟨d, -, rfl⟩ := List.mem_map.1 hkept
  exact (isNameLetter_or_isDash_dashUnlessName d).imp_right of_decide_eq_true

theorem not_separator_of_allowed {c : Char} (h : isNameLetter c = true ∨ c = '-') :
    c ≠ '/' ∧ isBrace c = false := by
  refine ⟨?_, isBrace_eq_false_iff.2 ⟨?_, ?_⟩⟩
  · rintro rfl
    exact absurd h (by decide)
  · rintro rfl
    exact absurd h (by decide)
  · rintro rfl
    exact absurd h (by decide)

theorem fieldText_cases (field : PathField) (value : String) :
    (∃ key, field = .annotated key) ∧ fieldText field value = trimBlanks value ∨
      (∀ key, field ≠ .annotated key) ∧ fieldText field value = dnsLabel (trimBlanks value) := by
  cases field with
  | annotated key => exact .inl ⟨⟨key, rfl⟩, rfl⟩
  | _ => exact .inr ⟨fun key h => (by cases h), rfl⟩

/-- A template has a path exactly if it can be taken apart into pieces that each stand for a text,
and the path is these texts in their order. It has a fault exactly if that is the fault of the
first piece that stands for nothing, at the byte of the template where its brace is. Annotations
go into the path as they are but for blanks around them, and all other values as labels, which
have neither slashes nor braces. -/
theorem rendered_exactly_by_pieces (template : String) (service : ServiceObject) :
    (∀ path, renderPath template service = .ok path ↔
        ∃ pieces texts, template.toList = sourceOf pieces ∧
          List.Forall₂ (Piece.Gives service) pieces texts ∧ path = String.join texts) ∧
      (∀ fault, renderPath template service = .error fault ↔
        ∃ pieces texts rest, template.toList = sourceOf pieces ++ rest ∧
          List.Forall₂ (Piece.Gives service) pieces texts ∧
          FaultAfter service (sourceOf pieces) rest fault) ∧
      ∀ field value,
        (∃ key, field = .annotated key) ∧ fieldText field value = trimBlanks value ∨
          (∀ key, field ≠ .annotated key) ∧ fieldText field value = dnsLabel (trimBlanks value) ∧
            ∀ c ∈ (fieldText field value).toList,
              (isNameLetter c = true ∨ c = '-') ∧ c ≠ '/' ∧ isBrace c = false := by
  have hrender : renderPath template service = renderFrom service 0 template.toList := rfl
  refine ⟨fun path => ⟨fun hok => exists_pieces_of_renderFrom hok, ?_⟩,
    fun fault => ⟨fun herror => ?_, ?_⟩, fun field value => ?_⟩
  · rintro ⟨pieces, texts, htemplate, hpieces, rfl⟩
    rw [hrender, htemplate, renderFrom_of_pieces hpieces]
  · obtain ⟨pieces, texts, rest, htemplate, hpieces, hrest⟩ :=
      @exists_readUpTo service [] template.toList
    rw [hrender, htemplate] at herror
    rcases hrest with rfl | ⟨other, hother⟩
    · rw [List.append_nil, renderFrom_of_pieces hpieces] at herror
      cases herror
    · rw [renderFrom_of_fault hpieces hother] at herror
      cases herror
      exact ⟨pieces, texts, rest, htemplate, hpieces, hother⟩
  · rintro ⟨pieces, texts, rest, htemplate, hpieces, hfault⟩
    rw [hrender, htemplate, renderFrom_of_fault hpieces hfault]
  · refine (fieldText_cases field value).imp_right fun ⟨hother, htext⟩ => ⟨hother, htext, ?_⟩
    intro c hc
    rw [htext] at hc
    exact ⟨allowed_of_mem_dnsLabel hc, not_separator_of_allowed (allowed_of_mem_dnsLabel hc)⟩

def annotatedService : ServiceObject where
  metadata := { Metadata.empty with
    name := some "Chat"
    annotations := some (.ofList [("brace", " \x7b.metadata.uid\x7d ")]) }
  spec := default
  status := none

/-- The annotation goes into the path as it is, and a place behind a letter of two bytes counts
both. -/
theorem annotation_not_read_again :
    renderPath "/é\x7b.metadata.annotations[\"brace\"]\x7d" annotatedService =
        .ok "/é\x7b.metadata.uid\x7d" ∧
      renderPath "/é\x7b .metadata.name \x7d/\x7b \x7d\x7b" annotatedService =
        .error (.emptyExpression 22) := by
  have hliteral : ∀ s : List Char, IsPlain s →
      Piece.Gives annotatedService (.literal s) (String.ofList s) := fun _ hs => .literal hs
  have hannotation : Piece.Gives annotatedService
      (.placeholder ".metadata.annotations[\"brace\"]".toList)
        (fieldText (.annotated "brace") " \x7b.metadata.uid\x7d ") :=
    .placeholder (by decide) (List.mem_cons_of_mem _ List.mem_cons_self) rfl
  have hname : Piece.Gives annotatedService (.placeholder " .metadata.name ".toList)
      (fieldText .name "Chat") :=
    .placeholder (by decide) (List.mem_singleton.2 rfl) rfl
  constructor
  · refine ((rendered_exactly_by_pieces _ annotatedService).1 _).2
      ⟨[.literal "/é".toList, .placeholder ".metadata.annotations[\"brace\"]".toList], _,
        by decide, .cons (hliteral _ (by decide)) (.cons hannotation .nil), rfl⟩
  · refine ((rendered_exactly_by_pieces _ annotatedService).2.1 _).2
      ⟨[.literal "/é".toList, .placeholder " .metadata.name ".toList, .literal ['/']], _,
        "\x7b \x7d\x7b".toList, by decide,
        .cons (hliteral _ (by decide)) (.cons hname (.cons (hliteral _ (by decide)) .nil)), ?_⟩
    exact @FaultAfter.empty annotatedService
      (sourceOf [.literal "/é".toList, .placeholder " .metadata.name ".toList, .literal ['/']])
      [' '] ['\x7b'] (List.forall_mem_singleton.2 rfl)

end InferenceReconciler.PathTemplate
