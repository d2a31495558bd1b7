import InferenceReconciler.ImageReference
import InferenceReconciler.Proofs.PathSegments

/-!
# Parts of image references

A reference is taken apart at its first at sign, at the last colon of its last piece and at its
slashes. A colon in front of the last slash is that of a port, and one behind an at sign separates
the algorithm of a digest from its value. So what a reference is put together from is found in it
again, and there is no reference but where nothing names the image or nothing stands where a tag or
a digest is announced.
-/

namespace InferenceReconciler

section

variable {c : Char} {front rear s : List Char}

theorem splitFirst?_append (h : c ∉ front) (rear : List Char) :
    splitFirst? c (front ++ c :: rear) = some (front, rear) := by
  have hfront : ∀ x ∈ front, decide (x ≠ c) = true := by
    intro x hx
    exact decide_eq_true fun heq => h (heq ▸ hx)
  have htake : (front ++ c :: rear).takeWhile (· ≠ c) = front := by
    rw [List.takeWhile_append_of_pos hfront, List.takeWhile_cons_of_neg (by simp),
      List.append_nil]
  have hdrop : (front ++ c :: rear).dropWhile (· ≠ c) = c :: rear := by
    rw [List.dropWhile_append_of_pos hfront, List.dropWhile_cons_of_neg (by simp)]
  unfold splitFirst?
  rw [hdrop, htake]

theorem splitFirst?_of_not_mem (h : c ∉ s) : splitFirst? c s = none := by
  have hall : ∀ x ∈ s, decide (x ≠ c) = true := by
    intro x hx
    exact decide_eq_true fun heq => h (heq ▸ hx)
  have hdrop : s.dropWhile (· ≠ c) = [] := by
    rw [← List.append_nil s, List.dropWhile_append_of_pos hall, List.dropWhile_nil]
  unfold splitFirst?
  rw [hdrop]

theorem splitLast?_append (h : c ∉ rear) (front : List Char) :
    splitLast? c (front ++ c :: rear) = some (front, rear) := by
  have hreverse : (front ++ c :: rear).reverse = rear.reverse ++ c :: front.reverse := by simp
  unfold splitLast?
  rw [hreverse, splitFirst?_append (by simpa using h), Option.map_some]
  simp only [List.reverse_reverse]

theorem splitLast?_of_not_mem (h : c ∉ s) : splitLast? c s = none := by
  unfold splitLast?
  rw [splitFirst?_of_not_mem (by simpa using h), Option.map_none]

theorem splitAll_joinWith {pieces : List (List Char)} (h : ∀ piece ∈ pieces, c ∉ piece)
    (hne : pieces ≠ []) : splitAll c (joinWith c pieces) = pieces := by
  rw [splitAll_eq_splitOn]
  exact List.splitOn_intercalate c h hne

theorem mem_joinWith {x : Char} {pieces : List (List Char)} (h : x ∈ joinWith c pieces) :
    x = c ∨ ∃ piece ∈ pieces, x ∈ piece := by
  unfold joinWith at h
  induction pieces with
  | nil => cases h
  | cons piece pieces ih =>
    cases pieces with
    | nil => exact .inr ⟨piece, List.mem_cons_self, by simpa using h⟩
    | cons next others =>
      rw [List.intercalate_cons_cons, List.append_assoc, List.mem_append,
        List.singleton_append, List.mem_cons] at h
      rcases h with hpiece | rfl | hrest
      · exact .inr ⟨piece, List.mem_cons_self, hpiece⟩
      · exact .inl rfl
      · obtain heq | ⟨other, hmem, hother⟩ := ih hrest
        · exact .inl heq
        · exact .inr ⟨other, List.mem_cons_of_mem _ hmem, hother⟩

end

/-- What stands behind the last slash of a text, or the whole of it. -/
inductive LastPiece : List Char → List Char → Prop
  | whole (last : List Char) (h : '/' ∉ last) : LastPiece last last
  | behind (front last : List Char) (h : '/' ∉ last) : LastPiece (front ++ '/' :: last) last

theorem exists_lastPiece (s : List Char) : ∃ last, LastPiece s last := by
  obtain ⟨front, last, hlast, rfl | rfl⟩ := exists_last_piece '/' s
  · exact ⟨_, .whole _ hlast⟩
  · exact ⟨_, .behind _ _ hlast⟩

theorem LastPiece.ne_nil {s last : List Char} (h : LastPiece s last) (hne : last ≠ []) :
    s ≠ [] := by
  cases h with
  | whole _ h => exact hne
  | behind front _ h => simp

theorem LastPiece.splitAll_append {s last : List Char} (h : LastPiece s last) :
    ∃ pieces, ∀ extra, '/' ∉ extra → splitAll '/' (s ++ extra) = pieces ++ [last ++ extra] := by
  cases h with
  | whole _ h => exact ⟨[], fun extra hextra => splitAll_of_not_mem (by simp [h, hextra])⟩
  | behind front _ h =>
    refine ⟨splitAll '/' front, fun extra hextra => ?_⟩
    have hlast : '/' ∉ last ++ extra := by simp [h, hextra]
    rw [List.append_assoc, List.cons_append, splitAll_append_cons, splitAll_of_not_mem hlast]

theorem LastPiece.splitAll {s last : List Char} (h : LastPiece s last) :
    ∃ pieces, splitAll '/' s = pieces ++ [last] := by
  obtain ⟨pieces, hpieces⟩ := h.splitAll_append
  refine ⟨pieces, ?_⟩
  have hsplit := hpieces [] List.not_mem_nil
  rwa [List.append_nil, List.append_nil] at hsplit

theorem LastPiece.exists_last_colon {s last : List Char} (h : LastPiece s last)
    (hcolon : ':' ∈ last) :
    ∃ front rear, s = front ++ ':' :: rear ∧ '/' ∉ rear ∧ ':' ∉ rear := by
  obtain ⟨name, rear, hrear, rfl | rfl⟩ := exists_last_piece ':' last
  · exact absurd hcolon hrear
  · cases h with
    | whole _ h => exact ⟨name, rear, rfl, fun hmem => h (by simp [hmem]), hrear⟩
    | behind front _ h =>
      exact ⟨front ++ '/' :: name, rear, by simp, fun hmem => h (by simp [hmem]), hrear⟩

theorem lastPiece_joinWith {last : List Char} (h : '/' ∉ last) (pieces : List (List Char)) :
    LastPiece (joinWith '/' (pieces ++ [last])) last := by
  unfold joinWith
  induction pieces with
  | nil =>
    rw [List.nil_append, List.intercalate_singleton]
    exact .whole last h
  | cons piece pieces ih =>
    obtain ⟨next, others, hcons⟩ := List.exists_cons_of_ne_nil (List.concat_ne_nil last pieces)
    rw [hcons] at ih
    rw [List.cons_append, hcons, List.intercalate_cons_cons, List.append_assoc,
      List.singleton_append]
    generalize ['/'].intercalate (next :: others) = joined at ih
    cases ih with
    | whole _ h => exact .behind piece last h
    | behind front _ h =>
      rw [← List.cons_append, ← List.append_assoc]
      exact .behind _ last h

namespace ImageReference

/-- A text that has something behind the reference, or nothing and the default tag. -/
inductive Tagged : List Char → List Char → List Char → Prop
  | plain (s last : List Char) (hat : '@' ∉ s) (hlast : LastPiece s last) (hcolon : ':' ∉ last) :
      Tagged s s defaultTag.toList
  | tag (reference tag : List Char) (hat : '@' ∉ reference ++ ':' :: tag) (hslash : '/' ∉ tag)
      (hcolon : ':' ∉ tag) (hne : tag ≠ []) : Tagged (reference ++ ':' :: tag) reference tag
  | digest (reference algorithm value : List Char) (hat : '@' ∉ reference)
      (hcolon : ':' ∉ algorithm) (hne : value ≠ []) :
      Tagged (reference ++ '@' :: (algorithm ++ ':' :: value)) reference (value.take 6)

/-- A text in which nothing stands where a tag or a digest is announced. -/
inductive Untagged : List Char → Prop
  | noTag (reference : List Char) (hat : '@' ∉ reference) : Untagged (reference ++ [':'])
  | noDigest (reference digest : List Char) (hat : '@' ∉ reference) (hcolon : ':' ∉ digest) :
      Untagged (reference ++ '@' :: digest)
  | emptyDigest (reference algorithm : List Char) (hat : '@' ∉ reference)
      (hcolon : ':' ∉ algorithm) : Untagged (reference ++ '@' :: (algorithm ++ [':']))

theorem tagged_or_untagged (s : List Char) :
    (∃ reference tag, Tagged s reference tag) ∨ Untagged s := by
  by_cases hat : '@' ∈ s
  · obtain ⟨reference, digest, rfl, hreference⟩ := List.eq_append_cons_of_mem hat
    by_cases hcolon : ':' ∈ digest
    · obtain ⟨algorithm, value, rfl, halgorithm⟩ := List.eq_append_cons_of_mem hcolon
      cases value with
      | nil => exact .inr (.emptyDigest reference algorithm hreference halgorithm)
      | cons d value =>
        exact .inl ⟨_, _, .digest reference algorithm _ hreference halgorithm
          (List.cons_ne_nil d value)⟩
    · exact .inr (.noDigest reference digest hreference hcolon)
  · obtain ⟨last, hlast⟩ := exists_lastPiece s
    by_cases hcolon : ':' ∈ last
    · obtain ⟨reference, tag, rfl, hslash, htag⟩ := hlast.exists_last_colon hcolon
      cases tag with
      | nil => exact .inr (.noTag reference fun hmem => hat (List.mem_append_left _ hmem))
      | cons t tag =>
        exact .inl ⟨_, _, .tag reference _ hat hslash htag (List.cons_ne_nil t tag)⟩
    · exact .inl ⟨_, _, .plain s last hat hlast hcolon⟩

section

variable {image : String} {reference tag : List Char}

theorem splitTag_of_colon (himage : image.toList = reference ++ ':' :: tag)
    (hat : '@' ∉ image.toList) (hslash : '/' ∉ tag) (hcolon : ':' ∉ tag) :
    splitTag image =
      if tag = [] then .error (.invalid s!"image {quoted image} has an empty tag")
      else .ok (reference, tag) := by
  unfold splitTag
  rw [splitFirst?_of_not_mem hat, himage]
  obtain ⟨last, hlast⟩ := exists_lastPiece reference
  cases hlast with
  | whole _ h =>
    have hnone : splitLast? '/' (reference ++ ':' :: tag) = none :=
      splitLast?_of_not_mem (by simp [h, hslash])
    simp only [hnone, splitLast?_append hcolon]
    cases tag <;> rfl
  | behind front _ h =>
    have hpieces : front ++ '/' :: last ++ ':' :: tag = front ++ '/' :: (last ++ ':' :: tag) := by
      simp
    have hlast : '/' ∉ last ++ ':' :: tag := by simp [h, hslash]
    simp only [hpieces, splitLast?_append hlast, splitLast?_append hcolon]
    cases tag with
    | nil => rfl
    | cons t tag => simp

theorem splitTag_of_tagged (h : Tagged image.toList reference tag) :
    splitTag image = .ok (reference, tag) := by
  generalize hs : image.toList = s at h
  cases h with
  | plain _ last hat hlast hcolon =>
    unfold splitTag
    rw [hs, splitFirst?_of_not_mem hat]
    cases hlast with
    | whole _ h =>
      simp only [splitLast?_of_not_mem h, splitLast?_of_not_mem hcolon]
    | behind front _ h =>
      simp only [splitLast?_append h, splitLast?_of_not_mem hcolon]
  | tag _ _ hat hslash hcolon hne =>
    rw [splitTag_of_colon hs (hs ▸ hat) hslash hcolon, if_neg hne]
  | digest _ algorithm value hat hcolon hne =>
    unfold splitTag
    rw [hs, splitFirst?_append hat]
    simp only [splitFirst?_append hcolon]

theorem splitTag_of_untagged (h : Untagged image.toList) :
    ∃ message, splitTag image = .error (.invalid message) := by
  generalize hs : image.toList = s at h
  cases h with
  | noTag reference hat =>
    have hnone : '@' ∉ image.toList := by simp [hs, hat]
    rw [splitTag_of_colon hs hnone List.not_mem_nil List.not_mem_nil, if_pos rfl]
    exact ⟨_, rfl⟩
  | noDigest reference digest hat hcolon =>
    unfold splitTag
    rw [hs, splitFirst?_append hat]
    simp only [splitFirst?_of_not_mem hcolon]
    exact ⟨_, rfl⟩
  | emptyDigest reference algorithm hat hcolon =>
    unfold splitTag
    rw [hs, splitFirst?_append hat]
    simp only [splitFirst?_append hcolon]
    exact ⟨_, rfl⟩

end

section

variable {text : String} {reference tag name : List Char} {registry : String}
  {path : List (List Char)}

theorem splitRegistry_cons {segments : List (List Char)} (first : List Char)
    (hne : segments ≠ []) : splitRegistry (first :: segments) =
      if isRegistry first then (String.ofList first, segments)
      else (defaultRegistry, first :: segments) := by
  cases segments with
  | nil => exact absurd rfl hne
  | cons second rest => rfl

/-- Whether the first piece is a registry does not depend on the last one. -/
theorem exists_splitRegistry (pieces : List (List Char)) :
    ∃ registry path, ∀ last, splitRegistry (pieces ++ [last]) = (registry, path ++ [last]) := by
  cases pieces with
  | nil => exact ⟨defaultRegistry, [], fun _ => rfl⟩
  | cons first rest =>
    by_cases hfirst : isRegistry first = true
    · refine ⟨String.ofList first, rest, fun last => ?_⟩
      rw [List.cons_append, splitRegistry_cons first (List.concat_ne_nil last rest), if_pos hfirst]
    · refine ⟨defaultRegistry, first :: rest, fun last => ?_⟩
      rw [List.cons_append, splitRegistry_cons first (List.concat_ne_nil last rest), if_neg hfirst]

theorem parse_of_blank (h : trimBlanks text = "") :
    ∃ message, parse text = .error (.invalid message) := by
  unfold parse
  rw [h]
  exact ⟨_, rfl⟩

theorem parse_of_untagged (hne : trimBlanks text ≠ "") (h : Untagged (trimBlanks text).toList) :
    ∃ message, parse text = .error (.invalid message) := by
  obtain ⟨message, hmessage⟩ := splitTag_of_untagged h
  have hempty : (trimBlanks text).isEmpty = false := by simpa using hne
  unfold parse
  simp only [hempty, hmessage]
  exact ⟨message, rfl⟩

theorem parse_of_tagged (hne : trimBlanks text ≠ "")
    (h : Tagged (trimBlanks text).toList reference tag)
    (hregistry : splitRegistry (splitAll '/' reference) = (registry, path ++ [name])) :
    parse text =
      if name = [] then .error (.invalid s!"image {quoted (trimBlanks text)} has no name")
      else .ok {
        registry
        repository := String.ofList (joinWith '/' path)
        name := nameComponent (String.ofList name)
        tag := nameComponent (String.ofList tag) } := by
  have hempty : (trimBlanks text).isEmpty = false := by simpa using hne
  unfold parse
  simp only [hempty, splitTag_of_tagged h, bind, Except.bind, hregistry]
  cases name with
  | nil => simp [throw, throwThe, MonadExceptOf.throw]
  | cons n name => simp [pure, Except.pure]

/-- A text that is no reference. -/
inductive Malformed : List Char → Prop
  | empty : Malformed []
  | untagged {s : List Char} (h : Untagged s) : Malformed s
  | unnamed {s reference tag : List Char} (h : Tagged s reference tag)
      (hname : LastPiece reference []) : Malformed s

theorem parse_of_malformed (h : Malformed (trimBlanks text).toList) :
    ∃ message, parse text = .error (.invalid message) := by
  by_cases hblank : trimBlanks text = ""
  · exact parse_of_blank hblank
  generalize hs : (trimBlanks text).toList = s at h
  cases h with
  | empty => exact absurd (String.toList_eq_nil_iff.1 hs) hblank
  | untagged h => exact parse_of_untagged hblank (hs ▸ h)
  | unnamed h hname =>
    obtain ⟨pieces, hpieces⟩ := hname.splitAll
    obtain ⟨registry, path, hregistry⟩ := exists_splitRegistry pieces
    rw [parse_of_tagged hblank (hs ▸ h) (hpieces ▸ hregistry []), if_pos rfl]
    exact ⟨_, rfl⟩

theorem exists_parse_of_not_malformed (h : ¬ Malformed (trimBlanks text).toList) :
    ∃ parts, parse text = .ok parts := by
  have hblank : trimBlanks text ≠ "" := by
    intro hempty
    rw [hempty] at h
    exact h .empty
  obtain ⟨reference, tag, htagged⟩ | huntagged := tagged_or_untagged (trimBlanks text).toList
  · obtain ⟨last, hlast⟩ := exists_lastPiece reference
    obtain ⟨pieces, hpieces⟩ := hlast.splitAll
    obtain ⟨registry, path, hregistry⟩ := exists_splitRegistry pieces
    have hne : last ≠ [] := by
      rintro rfl
      exact h (.unnamed htagged hlast)
    rw [parse_of_tagged hblank htagged (hpieces ▸ hregistry last), if_neg hne]
    exact ⟨_, rfl⟩
  · exact absurd (.untagged huntagged) h

theorem parse_blanks {before after : String} (hbefore : ∀ c ∈ before.toList, isBlank c = true)
    (hafter : ∀ c ∈ after.toList, isBlank c = true) (text : String) :
    parse (before ++ text ++ after) = parse text := by
  have htrim : trimBlanks (before ++ text ++ after) = trimBlanks text := by
    apply String.toList_inj.1
    rw [toList_trimBlanks, toList_trimBlanks, String.toList_append, String.toList_append,
      dropAround_append_of_forall isBlank hafter, dropAround_forall_append isBlank hbefore]
  unfold parse
  rw [htrim]

end

/-- The text holds neither a blank nor one of the marks. -/
def Clean (marks : List Char) (text : String) : Prop :=
  ∀ c ∈ text.toList, isBlank c = false ∧ c ∉ marks

instance (marks : List Char) (text : String) : Decidable (Clean marks text) :=
  List.decidableBAll (fun c => isBlank c = false ∧ c ∉ marks) text.toList

theorem Clean.not_mem {marks : List Char} {text : String} {c : Char} (h : Clean marks text)
    (hc : c ∈ marks) : c ∉ text.toList := fun hmem => (h c hmem).2 hc

theorem Clean.mono {marks marks' : List Char} {text : String} (h : Clean marks text)
    (hsub : ∀ c ∈ marks', c ∈ marks) : Clean marks' text :=
  fun c hc => ⟨(h c hc).1, fun hmark => (h c hc).2 (hsub c hmark)⟩

/-- What stands behind the name of an image. -/
inductive Ending where
  | none
  | tag (text : String)
  | digest (algorithm value : String)

namespace Ending

def text : Ending → String
  | none => ""
  | tag t => ":" ++ t
  | digest algorithm value => "@" ++ algorithm ++ ":" ++ value

/-- The tag as it is read: nothing stands for the default, and a digest for its first letters. -/
def readTag : Ending → String
  | none => "latest"
  | tag t => nameComponent t
  | digest _ value => nameComponent (String.ofList (value.toList.take 6))

def WellFormed : Ending → Prop
  | none => True
  | tag t => t ≠ "" ∧ Clean ['/', ':', '@'] t
  | digest algorithm value => Clean [':', '@'] algorithm ∧ value ≠ "" ∧ Clean ['@'] value

theorem WellFormed.isBlank_text {ending : Ending} (h : ending.WellFormed) :
    ∀ c ∈ ending.text.toList, isBlank c = false := by
  intro c hc
  cases ending with
  | none => cases hc
  | tag t =>
    simp only [text, String.toList_append, List.mem_append] at hc
    rcases hc with hmark | ht
    · rw [List.mem_singleton.1 hmark]
      decide
    · exact (h.2 c ht).1
  | digest algorithm value =>
    simp only [text, String.toList_append, List.mem_append, or_assoc] at hc
    rcases hc with hmark | halgorithm | hmark | hvalue
    · rw [List.mem_singleton.1 hmark]
      decide
    · exact (h.1 c halgorithm).1
    · rw [List.mem_singleton.1 hmark]
      decide
    · exact (h.2.2 c hvalue).1

theorem WellFormed.tagged_digest {algorithm value : String} {reference : List Char}
    (h : (digest algorithm value).WellFormed) (hat : '@' ∉ reference) :
    Tagged (reference ++ (digest algorithm value).text.toList) reference
      (value.toList.take 6) := by
  obtain ⟨halgorithm, hne, -⟩ := h
  have htext : (digest algorithm value).text.toList =
      '@' :: (algorithm.toList ++ ':' :: value.toList) := by
    simp [text]
  rw [htext]
  exact .digest _ _ _ hat (halgorithm.not_mem (by simp)) (by simpa using hne)

theorem WellFormed.tagged {ending : Ending} {reference last : List Char} (h : ending.WellFormed)
    (hat : '@' ∉ reference) (hlast : LastPiece reference last) (hcolon : ':' ∉ last) :
    ∃ tag, Tagged (reference ++ ending.text.toList) reference tag ∧
      nameComponent (String.ofList tag) = ending.readTag := by
  cases ending with
  | none =>
    refine ⟨defaultTag.toList, ?_, show nameComponent "latest" = "latest" by decide +kernel⟩
    have htext : reference ++ none.text.toList = reference := List.append_nil _
    rw [htext]
    exact .plain _ _ hat hlast hcolon
  | tag t =>
    obtain ⟨hne, hclean⟩ := h
    refine ⟨t.toList, ?_, congrArg nameComponent String.ofList_toList⟩
    have htext : (tag t).text.toList = ':' :: t.toList := by simp [text]
    rw [htext]
    have hmark : '@' ∉ t.toList := hclean.not_mem (by simp)
    exact .tag _ _ (by simp [hat, hmark]) (hclean.not_mem (by simp)) (hclean.not_mem (by simp))
      (by simpa using hne)
  | digest algorithm value => exact ⟨_, h.tagged_digest hat, rfl⟩

end Ending

/-- The components of a reference, as they are written. -/
structure Written where
  registry : Option String
  path : List String
  name : String
  ending : Ending

namespace Written

variable {w : Written}

def pieces (w : Written) : List String := w.registry.toList ++ (w.path ++ [w.name])

def text (w : Written) : String := "/".intercalate w.pieces ++ w.ending.text

/-- By a dot, a colon or its name a registry is told from the start of a path. -/
structure WellFormed (w : Written) : Prop where
  registry : ∀ r ∈ w.registry,
    Clean ['/', '@'] r ∧ ('.' ∈ r.toList ∨ ':' ∈ r.toList ∨ r = "localhost")
  segments : ∀ s ∈ w.path ++ [w.name], s ≠ "" ∧ Clean ['/', ':', '@'] s
  first : w.registry = none → ∀ s ∈ w.path.head?, '.' ∉ s.toList ∧ s ≠ "localhost"
  ending : w.ending.WellFormed

theorem WellFormed.clean_pieces (h : w.WellFormed) : ∀ s ∈ w.pieces, Clean ['/', '@'] s := by
  intro s hs
  rcases List.mem_append.1 hs with hregistry | hsegment
  · exact (h.registry s (Option.mem_toList.1 hregistry)).1
  · exact (h.segments s hsegment).2.mono (by simp)

def letters (w : Written) : List Char := joinWith '/' (w.pieces.map String.toList)

theorem toList_text (w : Written) : w.text.toList = w.letters ++ w.ending.text.toList := by
  unfold text
  rw [String.toList_append, String.toList_intercalate]
  rfl

theorem WellFormed.of_mem_letters (h : w.WellFormed) {c : Char} (hc : c ∈ w.letters) :
    isBlank c = false ∧ c ≠ '@' := by
  obtain rfl | ⟨piece, hpiece, hmem⟩ := mem_joinWith hc
  · decide
  · obtain ⟨s, hs, rfl⟩ := List.mem_map.1 hpiece
    have hclean := h.clean_pieces s hs c hmem
    exact ⟨hclean.1, fun heq => hclean.2 (by simp [heq])⟩

theorem WellFormed.trimBlanks_text (h : w.WellFormed) : trimBlanks w.text = w.text := by
  apply String.toList_inj.1
  rw [toList_trimBlanks]
  apply dropAround_of_forall_eq_false
  intro c hc
  rw [toList_text, List.mem_append] at hc
  rcases hc with hletter | hending
  · exact (h.of_mem_letters hletter).1
  · exact h.ending.isBlank_text c hending

theorem WellFormed.clean_name (h : w.WellFormed) : w.name ≠ "" ∧ Clean ['/', ':', '@'] w.name :=
  h.segments w.name (List.mem_append_right _ List.mem_cons_self)

theorem WellFormed.lastPiece (h : w.WellFormed) : LastPiece w.letters w.name.toList := by
  have hpieces : w.pieces.map String.toList =
      (w.registry.toList ++ w.path).map String.toList ++ [w.name.toList] := by
    simp [pieces]
  unfold letters
  rw [hpieces]
  exact lastPiece_joinWith (h.clean_name.2.not_mem (by simp)) _

theorem WellFormed.tagged (h : w.WellFormed) :
    ∃ tag, Tagged w.text.toList w.letters tag ∧
      nameComponent (String.ofList tag) = w.ending.readTag := by
  rw [toList_text]
  exact h.ending.tagged (fun hmem => (h.of_mem_letters hmem).2 rfl) h.lastPiece
    (h.clean_name.2.not_mem (by simp))

theorem isRegistry_iff {segment : String} : isRegistry segment.toList = true ↔
    '.' ∈ segment.toList ∨ ':' ∈ segment.toList ∨ segment = "localhost" := by
  have hlocal : segment.toList = "localhost".toList ↔ segment = "localhost" := String.toList_inj
  simp only [isRegistry, Bool.or_eq_true, List.contains_iff_mem, beq_iff_eq, hlocal, or_assoc]

theorem WellFormed.splitRegistry (h : w.WellFormed) :
    splitRegistry (splitAll '/' w.letters) =
      (w.registry.getD defaultRegistry, w.path.map String.toList ++ [w.name.toList]) := by
  have hsplit : splitAll '/' w.letters = w.pieces.map String.toList := by
    refine splitAll_joinWith (fun piece hpiece => ?_) (by simp [pieces])
    obtain ⟨s, hs, rfl⟩ := List.mem_map.1 hpiece
    exact (h.clean_pieces s hs).not_mem (by simp)
  have hsegments : (w.path ++ [w.name]).map String.toList =
      w.path.map String.toList ++ [w.name.toList] := by simp
  rw [hsplit]
  unfold pieces
  cases hregistry : w.registry with
  | none =>
    rw [Option.toList_none, List.nil_append, hsegments]
    cases hpath : w.path with
    | nil => rfl
    | cons first rest =>
      obtain ⟨hdot, hlocal⟩ := h.first hregistry first (by simp [hpath])
      have hcolon : ':' ∉ first.toList :=
        (h.segments first (by simp [hpath])).2.not_mem (by simp)
      have hnot : ¬ isRegistry first.toList = true := by
        rw [isRegistry_iff]
        rintro (hmem | hmem | heq)
        · exact hdot hmem
        · exact hcolon hmem
        · exact hlocal heq
      rw [List.map_cons, List.cons_append, splitRegistry_cons _ (List.concat_ne_nil _ _),
        if_neg hnot]
      rfl
  | some r =>
    have hr := isRegistry_iff.2 (h.registry r hregistry).2
    rw [Option.toList_some, List.singleton_append, List.map_cons, hsegments,
      splitRegistry_cons _ (List.concat_ne_nil _ _), if_pos hr, String.ofList_toList]
    rfl

/-- What a reference was put together from is read of it. -/
theorem WellFormed.parse_text (h : w.WellFormed) :
    parse w.text = .ok {
      registry := w.registry.getD "docker.io"
      repository := "/".intercalate w.path
      name := nameComponent w.name
      tag := w.ending.readTag } := by
  obtain ⟨tag, htagged, htag⟩ := h.tagged
  have hname : w.name.toList ≠ [] := by simpa using h.clean_name.1
  have hne : w.text ≠ "" := by
    intro hempty
    have hletters := (List.append_eq_nil_iff.1 (w.toList_text ▸ congrArg String.toList hempty)).1
    exact h.lastPiece.ne_nil hname hletters
  have hrepository : String.ofList (joinWith '/' (w.path.map String.toList)) =
      "/".intercalate w.path := by
    apply String.toList_inj.1
    rw [String.toList_ofList, String.toList_intercalate]
    rfl
  rw [← h.trimBlanks_text] at hne htagged
  rw [parse_of_tagged hne htagged h.splitRegistry, if_neg hname, hrepository, htag,
    String.ofList_toList]
  rfl

end Written

/-- A reference is read as the registry, path, name and tag or digest that it was put together
from, and blanks around it do not matter. Any text is read but where nothing is left of it, where
nothing stands for the tag or the digest that it announces, or where its last piece is empty. -/
theorem image_references_read_back :
    (∀ w : Written, w.WellFormed → parse w.text = .ok {
      registry := w.registry.getD "docker.io"
      repository := "/".intercalate w.path
      name := nameComponent w.name
      tag := w.ending.readTag }) ∧
    (∀ before after : String, (∀ c ∈ before.toList, isBlank c = true) →
      (∀ c ∈ after.toList, isBlank c = true) → ∀ text : String,
        parse (before ++ text ++ after) = parse text) ∧
    ∀ text : String,
      (Malformed (trimBlanks text).toList → ∃ message, parse text = .error (.invalid message)) ∧
      (¬ Malformed (trimBlanks text).toList → ∃ parts, parse text = .ok parts) :=
  ⟨fun _ h => h.parse_text, fun _ _ hbefore hafter text => parse_blanks hbefore hafter text,
    fun _ => ⟨parse_of_malformed, exists_parse_of_not_malformed⟩⟩

def hosted : Written where
  registry := some "localhost:5000"
  path := ["team", "Models"]
  name := "Qwen_2.5"
  ending := .digest "sha256" "ABCdef12"

theorem image_reference_with_port_read_back :
    parse " localhost:5000/team/Models/Qwen_2.5@sha256:ABCdef12\n" = .ok {
      registry := "localhost:5000"
      repository := "team/Models"
      name := "qwen-2-5"
      tag := "abcdef" } ∧
    (∃ message, parse "localhost:5000/team/" = .error (.invalid message)) ∧
    ∃ parts, parse "nginx" = .ok parts := by
  obtain ⟨hread, hblanks, htexts⟩ := image_references_read_back
  have hwell : hosted.WellFormed := {
    registry := by decide
    segments := by decide
    first := nofun
    ending := show Clean _ _ ∧ _ ≠ _ ∧ Clean _ _ by decide }
  have hnginx : parse "nginx" = .ok ⟨"docker.io", "", "nginx", "latest"⟩ := by decide +kernel
  refine ⟨?_, (htexts _).1 ?_, (htexts _).2 fun hmalformed => ?_⟩
  · have htext : " " ++ hosted.text ++ "\n" =
        " localhost:5000/team/Models/Qwen_2.5@sha256:ABCdef12\n" := by decide +kernel
    have hblank : isBlankText " " = true ∧ isBlankText "\n" = true := by decide
    rw [← htext, hblanks " " "\n" (isBlankText_iff.1 hblank.1) (isBlankText_iff.1 hblank.2),
      hread hosted hwell]
    decide +kernel
  · exact .unnamed (.plain _ [] (by decide) (.behind "localhost:5000/team".toList [] (by decide))
      (by decide)) (.behind "localhost:5000/team".toList [] (by decide))
  · obtain ⟨message, herror⟩ := (htexts _).1 hmalformed
    cases hnginx.symm.trans herror

end ImageReference

end InferenceReconciler
