import InferenceReconciler.ModelResolution
import InferenceReconciler.Proofs.ImageParts
import InferenceReconciler.Proofs.SanitizedTexts

/-!
# Images with a tag and a digest

A tag alone and a digest alone leave the name of an image as it is. A digest takes the place of the
tag, though, and a tag in front of it stays in the last piece of the reference. So it is read as the
end of the name, and so is it in the name of the record for the image. What stands for the digest
may be any text.
-/

namespace InferenceReconciler

/-- The letters of a component: those between the first letter or digit and the last. -/
def componentLetters (l : List Char) : List Char := dropTrailing isDash (dashRuns true l)

/-- Two components with a dash between them, unless one is empty. -/
def joinComponents (front rear : String) : String :=
  if front = "" then rear else if rear = "" then front else front ++ "-" ++ rear

theorem joinComponents_eq_left_iff {front rear : String} :
    joinComponents front rear = front ↔ rear = "" := by
  unfold joinComponents
  split
  · rename_i hfront
    rw [hfront]
  · split
    · rename_i hrear
      exact iff_of_true rfl hrear
    · rename_i hrear
      refine iff_of_false (fun heq => ?_) hrear
      have hlength := congrArg String.length heq
      have hdash : "-".length = 1 := rfl
      rw [String.length_append, String.length_append, hdash] at hlength
      omega

section

variable {l : List Char}

theorem isNameLetter_dashUnlessName (c : Char) :
    isNameLetter (dashUnlessName c) = isNameLetter c := by
  unfold dashUnlessName
  split
  · rfl
  · rename_i hc
    rw [Bool.or_eq_true, not_or] at hc
    rw [Bool.eq_false_iff.2 hc.1]
    rfl

theorem dashRuns_map (afterDash : Bool) (l : List Char) :
    dashRuns afterDash (l.map dashUnlessName) = dashRuns afterDash l := by
  induction l generalizing afterDash with
  | nil => rfl
  | cons c rest ih =>
    rw [List.map_cons, dashRuns, dashRuns, isNameLetter_dashUnlessName, ih, ih]
    split
    · rename_i hc
      rw [dashUnlessName, hc]
      rfl
    · rfl

theorem dropWhile_dashRuns (l : List Char) :
    (dashRuns true l).dropWhile isDash = dashRuns true l := by
  induction l with
  | nil => rfl
  | cons c rest ih =>
    rw [dashRuns]
    split
    · rename_i hc
      exact List.dropWhile_cons_of_neg (by simp [isDash_of_isNameLetter hc])
    · exact ih

theorem dropAround_dashRuns (l : List Char) :
    dropAround isDash (dashRuns false l) = componentLetters l := by
  have hafter : ∀ l, dropAround isDash (dashRuns true l) = componentLetters l := by
    intro l
    rw [dropAround, dropWhile_dashRuns]
    rfl
  cases l with
  | nil => rfl
  | cons c rest =>
    rw [← hafter, dashRuns, dashRuns]
    split
    · rfl
    · exact dropAround_cons_of_pos isDash rfl _

def behindDash : List Char → List Char
  | [] => []
  | letters => '-' :: letters

theorem componentLetters_cons_of_letter {c : Char} (hc : isNameLetter c = true) (l : List Char) :
    componentLetters (c :: l) = c :: dropTrailing isDash (dashRuns false l) := by
  rw [componentLetters, dashRuns, if_pos hc,
    dropTrailing_cons_of_neg isDash (isDash_of_isNameLetter hc)]

theorem componentLetters_cons_of_mark {c : Char} (hc : isNameLetter c = false) (l : List Char) :
    componentLetters (c :: l) = componentLetters l := by
  rw [componentLetters, dashRuns, if_neg (by simp [hc])]
  rfl

theorem dropTrailing_dashRuns_cons_of_mark {c : Char} (hc : isNameLetter c = false)
    (l : List Char) :
    dropTrailing isDash (dashRuns false (c :: l)) = behindDash (componentLetters l) := by
  rw [dashRuns, if_neg (by simp [hc]), if_neg Bool.false_ne_true,
    dropTrailing_cons_of_pos isDash rfl]
  unfold componentLetters
  cases dropTrailing isDash (dashRuns true l) <;> rfl

theorem componentLetters_append {mark : Char} (hmark : isNameLetter mark = false)
    (front rear : List Char) :
    componentLetters (front ++ mark :: rear) =
        (if componentLetters front = [] then componentLetters rear
          else componentLetters front ++ behindDash (componentLetters rear)) ∧
      dropTrailing isDash (dashRuns false (front ++ mark :: rear)) =
        dropTrailing isDash (dashRuns false front) ++ behindDash (componentLetters rear) := by
  -- Behind a letter a run of marks is written as a dash and in front of the first one it is not, so
  -- both ways to go on are followed at once.
  induction front with
  | nil =>
    exact ⟨componentLetters_cons_of_mark hmark rear, dropTrailing_dashRuns_cons_of_mark hmark rear⟩
  | cons c front ih =>
    obtain ⟨hfirst, hafter⟩ := ih
    rw [List.cons_append]
    by_cases hc : isNameLetter c = true
    · have hkept : ∀ l, dropTrailing isDash (dashRuns false (c :: l)) =
          c :: dropTrailing isDash (dashRuns false l) := by
        intro l
        rw [dashRuns, if_pos hc, dropTrailing_cons_of_neg isDash (isDash_of_isNameLetter hc)]
      rw [componentLetters_cons_of_letter hc, componentLetters_cons_of_letter hc, hkept, hkept,
        hafter, if_neg (List.cons_ne_nil _ _)]
      exact ⟨rfl, rfl⟩
    · have hdash : isNameLetter c = false := Bool.eq_false_iff.2 hc
      rw [componentLetters_cons_of_mark hdash, componentLetters_cons_of_mark hdash,
        dropTrailing_dashRuns_cons_of_mark hdash, dropTrailing_dashRuns_cons_of_mark hdash, hfirst]
      refine ⟨rfl, ?_⟩
      cases componentLetters front with
      | nil => rfl
      | cons d letters => rfl

/-- What a letter is to a name, in small letters. A capital sigma is none in either small form. -/
def folded (c : Char) : List Char :=
  if c = 'Σ' then ['-'] else (lowerLetters c).map dashUnlessName

theorem map_lowerFrom (before l : List Char) :
    (lowerFrom before l).map dashUnlessName = l.flatMap folded := by
  induction l generalizing before with
  | nil => rfl
  | cons c rest ih =>
    rw [lowerFrom, List.map_append, ih, List.flatMap_cons]
    congr 1
    unfold folded
    split
    · rw [List.map_singleton, lowerSigma]
      split <;> rfl
    · rfl

end

theorem toList_nameComponent_folded (s : String) :
    (nameComponent s).toList = componentLetters (s.toList.flatMap folded) := by
  rw [toList_nameComponent, ← dashRuns_map, lowercase, String.toList_ofList, map_lowerFrom,
    dropAround_dashRuns]

theorem nameComponent_append_colon (front rear : String) :
    nameComponent (front ++ ":" ++ rear) =
      joinComponents (nameComponent front) (nameComponent rear) := by
  have hcolon : folded ':' = ['-'] := by decide
  have hletters : (front ++ ":" ++ rear).toList.flatMap folded =
      front.toList.flatMap folded ++ '-' :: rear.toList.flatMap folded := by
    simp [List.flatMap_append, hcolon]
  have hempty : ∀ s, componentLetters (s.toList.flatMap folded) = [] ↔ nameComponent s = "" := by
    intro s
    rw [← toList_nameComponent_folded, String.toList_eq_nil_iff]
  apply String.toList_inj.1
  rw [toList_nameComponent_folded, hletters, (componentLetters_append (by decide) _ _).1]
  unfold joinComponents
  by_cases hfront : nameComponent front = ""
  · rw [if_pos ((hempty front).2 hfront), if_pos hfront, toList_nameComponent_folded]
  · rw [if_neg (mt (hempty front).1 hfront), if_neg hfront]
    by_cases hrear : nameComponent rear = ""
    · rw [(hempty rear).2 hrear, if_pos hrear, toList_nameComponent_folded]
      exact List.append_nil _
    · rw [if_neg hrear, String.toList_append, String.toList_append, toList_nameComponent_folded,
        toList_nameComponent_folded, List.append_assoc]
      congr 1
      have hne := mt (hempty rear).1 hrear
      cases hcons : componentLetters (rear.toList.flatMap folded) with
      | nil => exact absurd hcons hne
      | cons c letters => rfl

theorem autoModelName_of_parse {image registry repository name tag : String}
    (h : ImageReference.parse image = .ok ⟨registry, repository, name, tag⟩) :
    autoModelName image =
      .ok (derivedNameWith (.withHashLength 4) [name, tag] [.str image]) := by
  unfold autoModelName parseImage
  rw [h]
  rfl

namespace ImageReference

/-- A reference that names an image and nothing behind it. -/
structure IsBare (p : String) : Prop where
  trimmed : trimBlanks p = p
  unpinned : '@' ∉ p.toList
  untagged : ∃ last, LastPiece p.toList last ∧ ':' ∉ last ∧ last ≠ []

section

variable {p : String}

theorem IsBare.ne_empty (h : IsBare p) : p ≠ "" := by
  obtain ⟨last, hlast, -, hne⟩ := h.untagged
  exact fun hempty => hlast.ne_nil hne (congrArg String.toList hempty)

theorem IsBare.trimBlanks_append (h : IsBare p) {behind : String}
    (hbehind : ∀ c ∈ behind.toList, isBlank c = false) :
    trimBlanks (p ++ behind) = p ++ behind := by
  have htrimmed : dropAround isBlank p.toList = p.toList := by
    rw [← toList_trimBlanks, h.trimmed]
  obtain ⟨hfirst, hlast⟩ := (dropAround_eq_self_iff isBlank).1 htrimmed
  have hne : p.toList ≠ [] := mt String.toList_eq_nil_iff.1 h.ne_empty
  apply String.toList_inj.1
  rw [toList_trimBlanks, String.toList_append, dropAround_eq_self_iff]
  refine ⟨fun c hc => hfirst c ?_, fun c hc => ?_⟩
  · rwa [List.head?_append_of_ne_nil _ hne] at hc
  · by_cases hnil : behind.toList = []
    · rw [hnil, List.append_nil] at hc
      exact hlast c hc
    · rw [List.getLast?_append_of_ne_nil _ hnil] at hc
      exact hbehind c (List.mem_of_getLast? hc)

/-- What is put behind a reference changes the name and the tag alone, and the name only by what
stands in front of a digest. -/
def ReadsBehind (p registry repository : String) (last : List Char) : Prop :=
  ∀ extra behind tag, '/' ∉ extra → (∀ c ∈ behind.toList, isBlank c = false) →
    Tagged (p.toList ++ behind.toList) (p.toList ++ extra) tag →
      parse (p ++ behind) = .ok {
        registry
        repository
        name := nameComponent (String.ofList (last ++ extra))
        tag := nameComponent (String.ofList tag) }

theorem IsBare.exists_readsBehind (h : IsBare p) :
    ∃ registry repository last, ReadsBehind p registry repository last := by
  obtain ⟨last, hlast, -, hne⟩ := h.untagged
  obtain ⟨pieces, hpieces⟩ := hlast.splitAll_append
  obtain ⟨registry, path, hregistry⟩ := exists_splitRegistry pieces
  refine ⟨registry, String.ofList (joinWith '/' path), last,
    fun extra behind tag hextra hbehind htagged => ?_⟩
  have htrim := h.trimBlanks_append hbehind
  have himage : trimBlanks (p ++ behind) ≠ "" := by
    rw [htrim, Ne, String.append_eq_empty_iff]
    exact fun hempty => h.ne_empty hempty.1
  have hsplit : splitRegistry (splitAll '/' (p.toList ++ extra)) =
      (registry, path ++ [last ++ extra]) := by
    rw [hpieces extra hextra, hregistry]
  rw [← String.toList_append, ← htrim] at htagged
  rw [parse_of_tagged himage htagged hsplit,
    if_neg (List.append_ne_nil_of_left_ne_nil hne extra)]

namespace ReadsBehind

variable {registry repository : String} {last : List Char}

theorem parse_ending (hreads : ReadsBehind p registry repository last) (h : IsBare p)
    {ending : Ending} (hwell : ending.WellFormed) :
    parse (p ++ ending.text) =
      .ok ⟨registry, repository, nameComponent (String.ofList last), ending.readTag⟩ := by
  obtain ⟨piece, hpiece, hcolon, -⟩ := h.untagged
  obtain ⟨tag, htagged, htag⟩ := hwell.tagged h.unpinned hpiece hcolon
  have hread := hreads [] ending.text tag List.not_mem_nil hwell.isBlank_text
    ((List.append_nil _).symm ▸ htagged)
  rwa [List.append_nil, htag] at hread

/-- A digest is looked for first, so a tag in front of it is left in the last piece. -/
theorem parse_tag_digest (hreads : ReadsBehind p registry repository last) (h : IsBare p)
    {t algorithm value : String} (ht : (Ending.tag t).WellFormed)
    (hdigest : (Ending.digest algorithm value).WellFormed) :
    parse (p ++ ":" ++ t ++ "@" ++ algorithm ++ ":" ++ value) = .ok {
      registry
      repository
      name := joinComponents (nameComponent (String.ofList last)) (nameComponent t)
      tag := nameComponent (String.ofList (value.toList.take 6)) } := by
  have hpinned : p ++ ":" ++ t ++ "@" ++ algorithm ++ ":" ++ value =
      p ++ ((Ending.tag t).text ++ (Ending.digest algorithm value).text) := by
    simp only [Ending.text, String.append_assoc]
  have hslash : '/' ∉ (Ending.tag t).text.toList := by
    simp [Ending.text, ht.2.not_mem (c := '/') (by simp)]
  have hat : '@' ∉ p.toList ++ (Ending.tag t).text.toList := by
    simp [Ending.text, h.unpinned, ht.2.not_mem (c := '@') (by simp)]
  have hblank : ∀ c ∈ ((Ending.tag t).text ++ (Ending.digest algorithm value).text).toList,
      isBlank c = false := by
    intro c hc
    rw [String.toList_append, List.mem_append] at hc
    exact hc.elim (ht.isBlank_text c) (hdigest.isBlank_text c)
  have htagged := hdigest.tagged_digest hat
  rw [List.append_assoc, ← String.toList_append] at htagged
  have hname : nameComponent (String.ofList (last ++ (Ending.tag t).text.toList)) =
      joinComponents (nameComponent (String.ofList last)) (nameComponent t) := by
    rw [← nameComponent_append_colon, String.ofList_append, String.ofList_toList, Ending.text,
      String.append_assoc]
  rw [hpinned, hreads _ _ _ hslash hblank htagged, hname]

end ReadsBehind

/-- Behind the name of an image a tag alone or a digest alone is read as the tag. With both, the
tag is read as the end of the name, which stays the name of the image only if nothing of the tag
enters names of objects, and the name of the record for the image begins with it. The digest may
have any text for its value. -/
theorem tag_in_name_of_pinned_image (h : IsBare p) :
    ∃ parts, parse p = .ok parts ∧
      (∀ ending : Ending, ending.WellFormed →
        parse (p ++ ending.text) = .ok { parts with tag := ending.readTag }) ∧
      ∀ t algorithm value, (Ending.tag t).WellFormed → (Ending.digest algorithm value).WellFormed →
        let pinned := p ++ ":" ++ t ++ "@" ++ algorithm ++ ":" ++ value
        let name := joinComponents parts.name (nameComponent t)
        let tag := nameComponent (String.ofList (value.toList.take 6))
        parse pinned = .ok { parts with name, tag } ∧
          (name = parts.name ↔ nameComponent t = "") ∧
          autoModelName pinned =
            .ok (derivedNameWith (.withHashLength 4) [name, tag] [.str pinned]) := by
  obtain ⟨registry, repository, last, hreads⟩ := h.exists_readsBehind
  refine ⟨⟨registry, repository, nameComponent (String.ofList last), "latest"⟩, ?_,
    fun ending hwell => hreads.parse_ending h hwell, fun t algorithm value ht hdigest => ?_⟩
  · have hbare := hreads.parse_ending h (show Ending.none.WellFormed from trivial)
    rwa [Ending.text, String.append_empty] at hbare
  · have hboth := hreads.parse_tag_digest h ht hdigest
    have hauto := autoModelName_of_parse hboth
    dsimp only
    exact ⟨hboth, joinComponents_eq_left_iff, hauto⟩

end

/-- The colon of a port is in no name, and that of the tag is a dash in it. -/
theorem pinned_team_image_named_with_tag :
    parse "localhost:5000/team/Qwen" = .ok ⟨"localhost:5000", "team", "qwen", "latest"⟩ ∧
      parse "localhost:5000/team/Qwen:V2.5" =
        .ok ⟨"localhost:5000", "team", "qwen", "v2-5"⟩ ∧
      parse "localhost:5000/team/Qwen:V2.5@sha256:ABCdef12" =
        .ok ⟨"localhost:5000", "team", "qwen-v2-5", "abcdef"⟩ := by
  have hbare : IsBare "localhost:5000/team/Qwen" := {
    trimmed := by decide
    unpinned := by decide
    untagged := ⟨"Qwen".toList, .behind "localhost:5000/team".toList _ (by decide), by decide,
      by decide⟩ }
  have htag : (Ending.tag "V2.5").WellFormed := show _ ≠ _ ∧ Clean _ _ by decide
  have hdigest : (Ending.digest "sha256" "ABCdef12").WellFormed :=
    show Clean _ _ ∧ _ ≠ _ ∧ Clean _ _ by decide
  obtain ⟨parts, hparse, hending, hpinned⟩ := tag_in_name_of_pinned_image hbare
  have hparts : parse "localhost:5000/team/Qwen" =
      .ok ⟨"localhost:5000", "team", "qwen", "latest"⟩ := by
    decide +kernel
  cases hparts.symm.trans hparse
  have htagged := hending (.tag "V2.5") htag
  obtain ⟨hboth, -, -⟩ := hpinned "V2.5" "sha256" "ABCdef12" htag hdigest
  have htag : (Ending.tag "V2.5").readTag = "v2-5" := by decide +kernel
  have hname : joinComponents "qwen" (nameComponent "V2.5") = "qwen-v2-5" := by decide +kernel
  have hvalue : nameComponent (String.ofList ("ABCdef12".toList.take 6)) = "abcdef" := by
    decide +kernel
  rw [htag] at htagged
  rw [hname, hvalue] at hboth
  exact ⟨hparts, htagged, hboth⟩

/-- A reference with a tag and a digest does not have the name that it has without them, and letters
that are no digits of a digest are read as one. -/
theorem pinned_image_not_named_alone :
    (∃ bare pinned, parse "ghcr.io/org/llama" = .ok bare ∧
        parse "ghcr.io/org/llama:v1@sha256:abcdef123" = .ok pinned ∧
        bare.name = "llama" ∧ pinned.name = "llama-v1") ∧
      parse "llama@sha256:xyz" = .ok ⟨"docker.io", "", "llama", "xyz"⟩ :=
  ⟨⟨⟨"ghcr.io", "org", "llama", "latest"⟩, ⟨"ghcr.io", "org", "llama-v1", "abcdef"⟩,
    by decide +kernel⟩, by decide +kernel⟩

end ImageReference

end InferenceReconciler
