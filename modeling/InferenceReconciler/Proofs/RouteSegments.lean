import InferenceReconciler.Proofs.NormalPaths
import Mathlib.Data.List.TakeWhile

/-!
# Segments of rendered paths

Let a template have a literal text with a letter or digit, or a placeholder, behind each of its
slashes. Its path has a segment for every literal text, and for every placeholder of which the value
has a letter or digit. A value with neither, as an empty label has, is not refused: its segment is
left out, and the path is one that other services have, the root where no segment remains.
-/

namespace InferenceReconciler

theorem isDash_dashUnlessName (c : Char) : isDash (dashUnlessName c) = !isNameLetter c := by
  unfold dashUnlessName
  cases hletter : isNameLetter c with
  | false =>
    rw [Bool.false_or]
    split
    · assumption
    · rfl
  | true =>
    rw [Bool.true_or, if_pos rfl, isDash_of_isNameLetter hletter]
    rfl

theorem dnsLabelLetters_eq_nil_iff {s : List Char} :
    dnsLabelLetters s = [] ↔ ∀ c ∈ s, isNameLetter c = false := by
  have hdashes : (s.map dashUnlessName).dropWhile isDash = [] ↔
      ∀ c ∈ s, isNameLetter c = false := by
    simp only [List.dropWhile_eq_nil_iff, List.forall_mem_map, isDash_dashUnlessName,
      Bool.not_eq_true']
  rw [dnsLabelLetters_eq, ← hdashes]
  cases hdrop : (s.map dashUnlessName).dropWhile isDash with
  | nil => exact iff_of_true rfl rfl
  | cons first rest =>
    have hfirst := eq_false_of_dropWhile_eq_cons isDash hdrop
    have hcut : (first :: rest).take maxNameLength = first :: rest.take (maxNameLength - 1) := rfl
    rw [hcut, dropTrailing_cons_of_neg isDash hfirst]
    exact iff_of_false (List.cons_ne_nil _ _) (List.cons_ne_nil _ _)

/-- Whether a text has a letter or digit that a label can hold, once it is in small letters. -/
def HasNameLetter (text : String) : Prop := ∃ c ∈ (lowercase text).toList, isNameLetter c = true

theorem dnsLabel_ne_empty_iff {text : String} : dnsLabel text ≠ "" ↔ HasNameLetter text := by
  rw [Ne, ← String.toList_inj, toList_dnsLabel, String.toList_empty, dnsLabelLetters_eq_nil_iff]
  simp [HasNameLetter]

theorem kept_of_isAlphanum {c : Char} (h : c.isAlphanum = true) :
    c.toNat < 128 ∧ isBlank c = false ∧ isNameLetter c.toLower = true := by
  have hascii : c.toNat < 128 := by
    have hcases : ((c.isUpper || c.isLower) || c.isDigit) = true := h
    simp only [Bool.or_eq_true] at hcases
    rcases hcases with (hupper | hlower) | hdigit
    · have hle := UInt32.le_iff_toNat_le.1 (of_decide_eq_true hupper).2
      exact Nat.lt_of_le_of_lt hle (by decide)
    · have hle := UInt32.le_iff_toNat_le.1
        (of_decide_eq_true (Bool.and_eq_true_iff.1 hlower).2)
      exact Nat.lt_of_le_of_lt hle (by decide)
    · exact Nat.lt_of_le_of_lt (Char.isDigit_iff_toNat.1 hdigit).2 (by decide)
  have hc : c.isAlphanum = true → isBlank c = false ∧ isNameLetter c.toLower = true :=
    forall_ascii c hascii (by decide)
  exact ⟨hascii, hc h⟩

theorem exists_nameLetter_lowerFrom {l : List Char} {c : Char} (hc : c ∈ l)
    (h : c.isAlphanum = true) (before : List Char) :
    ∃ d ∈ lowerFrom before l, isNameLetter d = true := by
  induction l generalizing before with
  | nil => cases hc
  | cons x rest ih =>
    rw [lowerFrom]
    rcases List.mem_cons.1 hc with rfl | hrest
    · obtain ⟨hascii, -, hletter⟩ := kept_of_isAlphanum h
      have hne : c ≠ 'Σ' := by
        rintro rfl
        exact absurd hascii (by decide)
      rw [if_neg hne, lowerLetters_of_lt hascii]
      exact ⟨c.toLower, List.mem_cons_self, hletter⟩
    · obtain ⟨d, hd, hletter⟩ := ih hrest (x :: before)
      exact ⟨d, List.mem_append_right _ hd, hletter⟩

theorem hasNameLetter_trimBlanks {s : List Char} {c : Char} (hc : c ∈ s)
    (h : c.isAlphanum = true) : HasNameLetter (trimBlanks (String.ofList s)) := by
  obtain ⟨front, back, hs, hfront, hback⟩ := exists_append_dropAround isBlank s
  obtain ⟨-, hblank, -⟩ := kept_of_isAlphanum h
  have hkept : c ∈ dropAround isBlank s := by
    rw [hs] at hc
    simp only [List.mem_append] at hc
    rcases hc with (hc | hc) | hc
    · exact absurd (hfront c hc) (by simp [hblank])
    · exact hc
    · exact absurd (hback c hc) (by simp [hblank])
  obtain ⟨d, hd, hletter⟩ := exists_nameLetter_lowerFrom hkept h []
  refine ⟨d, ?_, hletter⟩
  rw [lowercase, String.toList_ofList, toList_trimBlanks, String.toList_ofList]
  exact hd

namespace PathTemplate

/-- A piece that stands alone between two slashes: a literal text with a letter or digit of ASCII
in it, or a placeholder for a field that is no annotation. -/
def Piece.IsSegment : Piece → Prop
  | literal s => IsPlain s ∧ '/' ∉ s ∧ ∃ c ∈ s, c.isAlphanum = true
  | placeholder e => IsPlain e ∧ ∀ key, PathField.parse (String.ofList e) ≠ .ok (.annotated key)

/-- Whether a letter or digit is left of what stands in the path for the piece. -/
def Piece.HasLetter (service : ServiceObject) : Piece → Prop
  | literal s => HasNameLetter (trimBlanks (String.ofList s))
  | placeholder e => ∃ (field : PathField) (value : String),
      trimBlanks (String.ofList e) ∈ field.spellings ∧ field.value service = .ok value ∧
        HasNameLetter (trimBlanks value)

def segmentTemplate (pieces : List Piece) : List Char := pieces.flatMap fun p => '/' :: p.source

section

variable {service : ServiceObject} {p : Piece} {text : String}

theorem no_slash_dnsLabel (value : String) : '/' ∉ (dnsLabel value).toList :=
  fun hmem => (not_separator_of_allowed (allowed_of_mem_dnsLabel hmem)).1 rfl

/-- What stands in the path for the piece is between two slashes, and a segment is left of it if it
has a letter or digit. -/
theorem Piece.Gives.segment (hform : p.IsSegment) (h : p.Gives service text) :
    '/' ∉ text.toList ∧ (dnsLabel (trimBlanks text) ≠ "" ↔ p.HasLetter service) := by
  cases h with
  | literal plain =>
    rw [String.toList_ofList]
    exact ⟨hform.2.1, dnsLabel_ne_empty_iff⟩
  | @placeholder e field value plain named read =>
    have hparse : PathField.parse (String.ofList e) = .ok field := PathField.parse_eq_ok_iff.2 named
    have htext : fieldText field value = dnsLabel (trimBlanks value) := by
      rcases fieldText_cases field value with ⟨⟨key, rfl⟩, -⟩ | ⟨-, htext⟩
      · exact absurd hparse (hform.2 key)
      · exact htext
    have hlabel : dnsLabel (trimBlanks (dnsLabel (trimBlanks value))) =
        dnsLabel (trimBlanks value) := by
      by_cases hempty : dnsLabel (trimBlanks value) = ""
      · rw [hempty, dnsLabel_trimBlanks_empty]
      · exact (isRouteSegment_dnsLabel hempty).trimmedLabel_eq
    rw [htext, hlabel, dnsLabel_ne_empty_iff]
    refine ⟨no_slash_dnsLabel _, fun hletter => ⟨field, value, named, read, hletter⟩, ?_⟩
    rintro ⟨field', value', named', read', hletter⟩
    obtain rfl := PathField.eq_of_mem_spellings named named'
    obtain rfl := Except.ok.inj (read.symm.trans read')
    exact hletter

theorem exists_text_of_renderFrom (hform : p.IsSegment) {read rest : List Char} {out : String}
    (h : renderFrom service (byteLength read) (p.source ++ rest) = .ok out) :
    ∃ text behind, p.Gives service text ∧
      renderFrom service (byteLength (read ++ p.source)) rest = .ok behind ∧
        out = text ++ behind := by
  have hgives : ∃ text, p.Gives service text := by
    cases p with
    | literal s => exact ⟨_, .literal hform.1⟩
    | placeholder e =>
      refine (gives_or_faultAfter hform.1 read rest).resolve_right ?_
      rintro ⟨fault, hfault⟩
      rw [source_placeholder_append, renderFrom_of_faultAfter hfault] at h
      cases h
  obtain ⟨text, htext⟩ := hgives
  rw [renderFrom_piece htext, ← byteLength_append] at h
  obtain ⟨behind, hbehind, hout⟩ := exists_of_map_eq_ok h
  exact ⟨text, behind, htext, hbehind, hout.symm⟩

end

def slashed (texts : List String) : String := String.join (texts.map ("/" ++ ·))

theorem toList_slashed (texts : List String) :
    (slashed texts).toList = (texts.map String.toList).flatMap fun text => '/' :: text := by
  induction texts with
  | nil => rfl
  | cons text rest ih =>
    have hcons : slashed (text :: rest) = "/" ++ text ++ slashed rest := String.join_cons ..
    rw [hcons, String.toList_append, String.toList_append, ih]
    rfl

theorem segmentTemplate_cons (p : Piece) (pieces : List Piece) :
    segmentTemplate (p :: pieces) = ['/'] ++ (p.source ++ segmentTemplate pieces) :=
  List.flatMap_cons

theorem renderFrom_slash {service : ServiceObject} (place : Nat) (s : List Char) :
    renderFrom service place (['/'] ++ s) = (renderFrom service (place + 1) s).map ("/" ++ ·) :=
  renderFrom_append (by decide) place s

theorem exists_texts_of_renderFrom {service : ServiceObject} {pieces : List Piece}
    (hform : ∀ p ∈ pieces, p.IsSegment) {read : List Char} {out : String}
    (h : renderFrom service (byteLength read) (segmentTemplate pieces) = .ok out) :
    ∃ texts, List.Forall₂ (Piece.Gives service) pieces texts ∧ out = slashed texts := by
  induction pieces generalizing read out with
  | nil =>
    have hempty := (renderFrom_nil (byteLength read)).symm.trans h
    cases hempty
    exact ⟨[], .nil, rfl⟩
  | cons p pieces ih =>
    have hplace : byteLength read + 1 = byteLength (read ++ ['/']) :=
      (byteLength_append read ['/']).symm
    rw [segmentTemplate_cons, renderFrom_slash, hplace] at h
    obtain ⟨behind, hbehind, rfl⟩ := exists_of_map_eq_ok h
    obtain ⟨text, others, htext, hothers, rfl⟩ :=
      exists_text_of_renderFrom (hform p List.mem_cons_self) hbehind
    obtain ⟨texts, htexts, rfl⟩ := ih (fun q hq => hform q (List.mem_cons_of_mem _ hq)) hothers
    refine ⟨text :: texts, .cons htext htexts, ?_⟩
    exact (String.append_assoc ..).symm.trans (String.join_cons ..).symm

theorem renderFrom_segmentTemplate {service : ServiceObject} {pieces : List Piece}
    {texts : List String} (h : List.Forall₂ (Piece.Gives service) pieces texts) (place : Nat) :
    renderFrom service place (segmentTemplate pieces) = .ok (slashed texts) := by
  induction h generalizing place with
  | nil => exact renderFrom_nil place
  | cons hp _ ih =>
    rw [segmentTemplate_cons, renderFrom_slash, renderFrom_piece hp, ih]
    exact congrArg Except.ok ((String.append_assoc ..).symm.trans (String.join_cons ..).symm)

theorem Piece.hasLetter_literal {service : ServiceObject} {s : List Char}
    (h : (Piece.literal s).IsSegment) : (Piece.literal s).HasLetter service := by
  obtain ⟨-, -, c, hc, halphanum⟩ := h
  exact hasNameLetter_trimBlanks hc halphanum

theorem labels_of_texts {service : ServiceObject} {pieces : List Piece} {texts : List String}
    (h : List.Forall₂ (Piece.Gives service) pieces texts) (hform : ∀ p ∈ pieces, p.IsSegment) :
    (∀ text ∈ texts, '/' ∉ text.toList) ∧
      ((∀ text ∈ texts, dnsLabel (trimBlanks text) ≠ "") ↔ ∀ p ∈ pieces, p.HasLetter service) := by
  induction h with
  | nil => simp
  | cons hp _ ih =>
    rw [List.forall_mem_cons] at hform
    obtain ⟨hslash, hletter⟩ := hp.segment hform.1
    obtain ⟨hslashes, hletters⟩ := ih hform.2
    simp only [List.forall_mem_cons]
    exact ⟨⟨hslash, hslashes⟩, and_congr hletter hletters⟩

end PathTemplate

/-- The texts between the slashes of a path, but for empty ones. -/
def segmentsOf (path : String) : List String :=
  ((splitAll '/' path.toList).map String.ofList).filter fun s => !s.isEmpty

/-- The labels of the texts, but for empty ones. -/
def keptLabels (texts : List String) : List String :=
  (texts.map fun text => dnsLabel (trimBlanks text)).filter fun s => !s.isEmpty

theorem segmentsOf_routeOf {segments : List String} (h : ∀ s ∈ segments, IsRouteSegment s) :
    segmentsOf (routeOf segments) = segments := by
  by_cases hne : segments = []
  · subst hne
    decide
  · have hnames : (segments.map String.toList).map String.ofList = segments := by
      rw [List.map_map]
      exact (List.map_congr_left fun s _ => String.ofList_toList).trans (List.map_id _)
    rw [segmentsOf, splitAll_routeOf h hne, List.map_cons, hnames,
      List.filter_cons_of_neg (by decide), filter_of_isRouteSegment h]

section

open PathTemplate

variable {texts : List String}

theorem pathSegments_slashed (h : ∀ text ∈ texts, '/' ∉ text.toList) :
    pathSegments (slashed texts).toList = keptLabels texts := by
  have hslash : ∀ letters ∈ texts.map String.toList, '/' ∉ letters := by
    intro letters hletters
    obtain ⟨text, htext, rfl⟩ := List.mem_map.1 hletters
    exact h text htext
  have hlabel : (segmentLabel ∘ String.toList) = fun text => dnsLabel (trimBlanks text) := by
    funext text
    rw [Function.comp, segmentLabel, String.ofList_toList]
  rw [toList_slashed, pathSegments_flatMap hslash, List.map_map, hlabel]
  rfl

theorem length_keptLabels_eq_iff :
    (keptLabels texts).length = texts.length ↔
      ∀ text ∈ texts, dnsLabel (trimBlanks text) ≠ "" := by
  have hlength : (texts.map fun text => dnsLabel (trimBlanks text)).length = texts.length :=
    List.length_map _
  rw [keptLabels, ← hlength, List.length_filter_eq_length_iff, List.forall_mem_map]
  simp

theorem normalizePath_slashed {limit : Nat} (hne : texts ≠ [])
    (h : ∀ text ∈ texts, '/' ∉ text.toList) (hlimit : (slashed texts).utf8ByteSize ≤ limit) :
    normalizePath (slashed texts) limit = .ok (routeOf (keptLabels texts)) := by
  obtain ⟨rest, hrest⟩ : ∃ rest, (slashed texts).toList = '/' :: rest := by
    obtain ⟨text, others, rfl⟩ := List.exists_cons_of_ne_nil hne
    exact ⟨_, toList_slashed _⟩
  have hfilled : ¬isBlankText (slashed texts) = true := by
    rw [isBlankText_iff, hrest]
    exact fun hall => absurd (hall '/' List.mem_cons_self) (by decide)
  have hfits := Nat.le_trans (byteLength_checkedLetters_le hrest) hlimit
  rw [normalizePath_eq, if_neg hfilled, if_neg (Nat.not_lt.2 hfits), pathSegments_slashed h]

end

section

open PathTemplate

variable {service : ServiceObject} {limit : Nat}

theorem isPlain_of_blank {blanks : List Char} (h : ∀ c ∈ blanks, isBlank c = true) :
    IsPlain blanks :=
  isPlain_of_not_mem (fun hmem => absurd (h _ hmem) (by decide))
    fun hmem => absurd (h _ hmem) (by decide)

/-- Blanks around a template are around its path. -/
theorem renderFrom_between_blanks {front back s : List Char} {out : String}
    (hfront : ∀ c ∈ front, isBlank c = true) (hback : ∀ c ∈ back, isBlank c = true) :
    renderFrom service 0 (front ++ (s ++ back)) = .ok out ↔
      ∃ raw, renderFrom service 0 s = .ok raw ∧
        out = String.ofList front ++ (raw ++ String.ofList back) := by
  have hplain := isPlain_of_blank hback
  have hall : ∀ raw, renderFrom service 0 s = .ok raw →
      renderFrom service 0 (front ++ (s ++ back)) =
        .ok (String.ofList front ++ (raw ++ String.ofList back)) := by
    intro raw hraw
    rw [renderFrom_append (isPlain_of_blank hfront), renderFrom_append_of_ok hraw,
      renderFrom_of_isPlain hplain]
    rfl
  constructor
  · intro h
    obtain ⟨raw, hraw⟩ : ∃ raw, renderFrom service 0 s = .ok raw := by
      rw [renderFrom_append (isPlain_of_blank hfront), Nat.zero_add] at h
      obtain ⟨behind, hbehind, -⟩ := exists_of_map_eq_ok h
      exact exists_renderFrom_of_append hplain.not_mem.2 hbehind
    exact ⟨raw, hraw, Except.ok.inj (h.symm.trans (hall raw hraw))⟩
  · rintro ⟨raw, hraw, rfl⟩
    exact hall raw hraw

theorem routePath_eq_ok_iff {template path : String} (hfilled : isBlankText template = false) :
    routePath service (some template) limit = .ok path ↔
      ∃ out, renderFrom service 0 template.toList = .ok out ∧
        normalizePath out limit = .ok path := by
  obtain ⟨front, back, htemplate, hfront, hback⟩ :=
    exists_append_dropAround isBlank template.toList
  have htrimmed : ∀ raw : String,
      normalizePath (String.ofList front ++ (raw ++ String.ofList back)) limit =
        normalizePath raw limit := by
    intro raw
    refine normalizePath_congr ?_ limit
    rw [String.toList_append, String.toList_append, String.toList_ofList, String.toList_ofList,
      dropAround_forall_append isBlank hfront, dropAround_append_of_forall isBlank hback]
  have hroute : routePath service (some template) limit =
      (renderFrom service 0 (trimBlanks template).toList).bind fun raw =>
        normalizePath raw limit := by
    rw [routePath_eq, trimmed?_of_filled hfilled]
    rfl
  rw [hroute, htemplate, ← toList_trimBlanks, List.append_assoc]
  simp only [renderFrom_between_blanks hfront hback]
  constructor
  · intro h
    obtain ⟨raw, hraw, hpath⟩ := exists_of_bind_eq_ok h
    exact ⟨_, ⟨raw, hraw, rfl⟩, (htrimmed raw).trans hpath⟩
  · rintro ⟨_, ⟨raw, hraw, rfl⟩, hpath⟩
    rw [hraw]
    exact (htrimmed raw).symm.trans hpath

variable {pieces : List Piece}

theorem isBlankText_segmentTemplate (hne : pieces ≠ []) :
    isBlankText (String.ofList (segmentTemplate pieces)) = false := by
  obtain ⟨p, others, rfl⟩ := List.exists_cons_of_ne_nil hne
  rw [Bool.eq_false_iff, Ne, isBlankText_iff, String.toList_ofList]
  exact fun hall => absurd (hall '/' (List.mem_append_left _ List.mem_cons_self)) (by decide)

theorem routePath_segmentTemplate (hne : pieces ≠ []) (hform : ∀ p ∈ pieces, p.IsSegment)
    {texts : List String} (htexts : List.Forall₂ (Piece.Gives service) pieces texts)
    (hlimit : (slashed texts).utf8ByteSize ≤ limit) :
    routePath service (some (String.ofList (segmentTemplate pieces))) limit =
      .ok (routeOf (keptLabels texts)) := by
  have hnonempty : texts ≠ [] := by
    rintro rfl
    exact hne (List.forall₂_nil_right_iff.1 htexts)
  rw [routePath_eq_ok_iff (isBlankText_segmentTemplate hne), String.toList_ofList]
  exact ⟨_, renderFrom_segmentTemplate htexts 0,
    normalizePath_slashed hnonempty (labels_of_texts htexts hform).1 hlimit⟩

end

open PathTemplate in
/-- A template of segments gives a path of the labels that are not empty. There are as many of them
as the template has segments exactly if every value that is put into the path has a letter or digit.
No value without one is refused: the path is there if each placeholder stands for a value and what
they make up is within the limit. -/
theorem segment_for_each_letter (service : ServiceObject) {pieces : List Piece} (limit : Nat)
    (hne : pieces ≠ []) (hform : ∀ p ∈ pieces, p.IsSegment) :
    (∀ path, routePath service (some (String.ofList (segmentTemplate pieces))) limit = .ok path →
        (∃ texts, List.Forall₂ (Piece.Gives service) pieces texts ∧
          path = routeOf (keptLabels texts)) ∧
        ((segmentsOf path).length = pieces.length ↔
          ∀ e, .placeholder e ∈ pieces → (Piece.placeholder e).HasLetter service)) ∧
      ∀ texts, List.Forall₂ (Piece.Gives service) pieces texts →
        (slashed texts).utf8ByteSize ≤ limit →
          routePath service (some (String.ofList (segmentTemplate pieces))) limit =
            .ok (routeOf (keptLabels texts)) := by
  refine ⟨fun path hroute => ?_, fun texts => routePath_segmentTemplate hne hform⟩
  rw [routePath_eq_ok_iff (isBlankText_segmentTemplate hne), String.toList_ofList] at hroute
  obtain ⟨out, hout, hpath⟩ := hroute
  obtain ⟨texts, htexts, rfl⟩ := @exists_texts_of_renderFrom service pieces hform [] out hout
  obtain ⟨hslashes, hlabels⟩ := labels_of_texts htexts hform
  have hsegments := pathSegments_slashed hslashes
  obtain ⟨rfl, -⟩ := eq_routeOf_of_normalizePath hpath
  rw [hsegments]
  have hvalid : ∀ s ∈ keptLabels texts, IsRouteSegment s :=
    fun s hs => isRouteSegment_of_mem_pathSegments (hsegments ▸ hs)
  refine ⟨⟨texts, htexts, rfl⟩, ?_⟩
  rw [segmentsOf_routeOf hvalid, htexts.length_eq, length_keptLabels_eq_iff, hlabels]
  constructor
  · exact fun hall e he => hall _ he
  · intro hall p hp
    cases p with
    | literal s => exact Piece.hasLetter_literal (hform _ hp)
    | placeholder e => exact hall e hp

section

open PathTemplate

def teamService (team : String) : ServiceObject where
  metadata := { Metadata.empty with
    «namespace» := some "default"
    uid := some "7f0c"
    labels := some (.ofList [("team", team)]) }
  spec := default
  status := none

def teamPieces : List Piece :=
  [.placeholder ".metadata.namespace".toList, .placeholder ".metadata.labels['team']".toList]

theorem isSegment_of_mem_teamPieces : ∀ p ∈ teamPieces, p.IsSegment := by
  have hnamespace : PathField.parse ".metadata.namespace" = .ok .ofNamespace := rfl
  have hteam : PathField.parse ".metadata.labels['team']" = .ok (.labelled "team") := rfl
  intro p hp
  simp only [teamPieces, List.mem_cons, List.not_mem_nil, or_false] at hp
  rcases hp with rfl | rfl
  · refine ⟨by decide, fun key => ?_⟩
    rw [String.ofList_toList, hnamespace]
    nofun
  · refine ⟨by decide, fun key => ?_⟩
    rw [String.ofList_toList, hteam]
    nofun

theorem gives_namespace (team : String) :
    (Piece.placeholder ".metadata.namespace".toList).Gives (teamService team)
      (fieldText .ofNamespace "default") :=
  .placeholder (by decide) (List.mem_singleton.2 rfl) rfl

theorem gives_team (team : String) :
    (Piece.placeholder ".metadata.labels['team']".toList).Gives (teamService team)
      (fieldText (.labelled "team") team) :=
  .placeholder (by decide) List.mem_cons_self rfl

theorem segment_for_team :
    routePath (teamService " ML ") (some (String.ofList (segmentTemplate teamPieces))) 200 =
        .ok "/default/ml" ∧
      (segmentsOf "/default/ml").length = teamPieces.length := by
  obtain ⟨hpath, hgiven⟩ := segment_for_each_letter (teamService " ML ") 200
    (List.cons_ne_nil _ _) isSegment_of_mem_teamPieces
  have hroute := hgiven _ (.cons (gives_namespace _) (.cons (gives_team _) .nil)) (by decide)
  have hlabels : routeOf (keptLabels [fieldText .ofNamespace "default",
      fieldText (.labelled "team") " ML "]) = "/default/ml" := rfl
  rw [hlabels] at hroute
  refine ⟨hroute, (hpath _ hroute).2.2 fun e he => ?_⟩
  simp only [List.mem_cons, Piece.placeholder.injEq, List.not_mem_nil, or_false] at he
  rcases he with rfl | rfl
  · exact ⟨.ofNamespace, "default", List.mem_singleton.2 rfl, rfl, 'd', List.mem_cons_self, rfl⟩
  · exact ⟨.labelled "team", " ML ", List.mem_cons_self, rfl, 'm', List.mem_cons_self, rfl⟩

/-- A team without a letter leaves the path of the namespace, which all such services share, and
the root where nothing else is in the template. -/
theorem team_without_letter_vanishes :
    (∀ p ∈ teamPieces, p.IsSegment) ∧
      routePath (teamService "") (some (String.ofList (segmentTemplate teamPieces))) 200 =
        .ok "/default" ∧
      (segmentsOf "/default").length ≠ teamPieces.length ∧
      routePath (teamService "_") (some (String.ofList (segmentTemplate (teamPieces.drop 1)))) 200 =
        .ok "/" := by
  have hlabels : routeOf (keptLabels [fieldText .ofNamespace "default",
      fieldText (.labelled "team") ""]) = "/default" := rfl
  have hnone : routeOf (keptLabels [fieldText (.labelled "team") "_"]) = "/" := rfl
  have hlast : ∀ p ∈ teamPieces.drop 1, p.IsSegment :=
    fun p hp => isSegment_of_mem_teamPieces p (List.mem_of_mem_drop hp)
  refine ⟨isSegment_of_mem_teamPieces, ?_, by decide, ?_⟩
  · rw [← hlabels]
    exact routePath_segmentTemplate (List.cons_ne_nil _ _) isSegment_of_mem_teamPieces
      (.cons (gives_namespace _) (.cons (gives_team _) .nil)) (by decide)
  · rw [← hnone]
    exact routePath_segmentTemplate (List.cons_ne_nil _ _) hlast (.cons (gives_team _) .nil)
      (by decide)

end

end InferenceReconciler
