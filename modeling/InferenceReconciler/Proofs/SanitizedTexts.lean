import InferenceReconciler.Proofs.CaseForms
import InferenceReconciler.Proofs.RouteSegments
import Mathlib.Data.List.Chain

/-!
# Texts made legal

Of any text a label of a domain, a component of a name and a value of a label can be made. Each
consists of small letters, digits and the marks of its kind, and no mark stands at either end. What
is legal already stays as it is, so making a text legal twice is making it legal once. A cut at the
longest length may bring marks to the end, which are dropped after it; only a text without a letter
or digit has no value.
-/

namespace InferenceReconciler

/-- A component of a name: small letters, digits and dashes, with no dash at either end and no two
side by side. -/
structure IsNameComponent (s : String) : Prop where
  framed : s = "" ∨ Framed isDash s.toList
  single : s.toList.IsChain fun a b => ¬ (a = '-' ∧ b = '-')

/-- A value of a label: small letters, digits, dots, dashes and underscores, no more than
sixty-three, with a letter or digit at either end. -/
structure IsLabelValue (s : String) : Prop where
  framed : Framed isSeparator s.toList
  length_le : s.length ≤ 63

theorem isSeparator_of_isNameLetter {c : Char} (h : isNameLetter c = true) :
    isSeparator c = false := by
  have hmark : ∀ mark, isNameLetter mark = false → c ≠ mark := by
    rintro _ hmark rfl
    exact absurd h (by simp [hmark])
  simp [isSeparator, hmark '_' (by decide), hmark '.' (by decide), hmark '-' (by decide)]

theorem lowercase_of_framed {p : Char → Bool} {s : String} (h : Framed p s.toList)
    (hp : ∀ c, p c = true → c.toNat < 128 ∧ c.toLower = c) : lowercase s = s := by
  apply lowercase_eq_self
  intro c hc
  rcases h.allowed c hc with hletter | hmark
  · exact small_of_isNameLetter hletter
  · exact hp c hmark

theorem small_of_isSeparator {c : Char} (h : isSeparator c = true) :
    c.toNat < 128 ∧ c.toLower = c := by
  simp only [isSeparator, Bool.or_eq_true, decide_eq_true_eq] at h
  rcases h with (rfl | rfl) | rfl <;> decide

section

variable {l : List Char}

theorem allowed_of_mem_dashRuns {afterDash : Bool} {c : Char} (h : c ∈ dashRuns afterDash l) :
    isNameLetter c = true ∨ isDash c = true := by
  induction l generalizing afterDash with
  | nil => cases h
  | cons x rest ih =>
    rw [dashRuns] at h
    split at h
    · rename_i hletter
      rcases List.mem_cons.1 h with rfl | hrest
      · exact .inl hletter
      · exact ih hrest
    · split at h
      · exact ih h
      · rcases List.mem_cons.1 h with rfl | hrest
        · exact .inr rfl
        · exact ih hrest

/-- Behind a dash no dash is written, and behind anything else no more than one. -/
theorem isChain_cons_dashRuns {afterDash : Bool} {x : Char} (h : afterDash = true ∨ x ≠ '-')
    (l : List Char) :
    (x :: dashRuns afterDash l).IsChain fun a b => ¬ (a = '-' ∧ b = '-') := by
  induction l generalizing afterDash x with
  | nil => exact .singleton x
  | cons c rest ih =>
    rw [dashRuns]
    split
    · rename_i hletter
      have hc : c ≠ '-' := by
        rintro rfl
        exact absurd hletter (by decide)
      exact .cons_cons (fun hboth => hc hboth.2) (ih (.inr hc))
    · split
      · exact ih (.inl rfl)
      · rename_i hafter
        have hx : x ≠ '-' := h.resolve_left hafter
        exact .cons_cons (fun hboth => hx hboth.1) (ih (.inl rfl))

theorem isChain_dashRuns (l : List Char) :
    (dashRuns false l).IsChain fun a b => ¬ (a = '-' ∧ b = '-') :=
  (isChain_cons_dashRuns (.inr (by decide : 'a' ≠ '-')) l).tail

theorem dashRuns_eq_self {afterDash : Bool} {x : Char} (hafter : afterDash = true → x = '-')
    (hallowed : ∀ c ∈ l, isNameLetter c = true ∨ isDash c = true)
    (hsingle : (x :: l).IsChain fun a b => ¬ (a = '-' ∧ b = '-')) : dashRuns afterDash l = l := by
  induction l generalizing afterDash x with
  | nil => rfl
  | cons c rest ih =>
    obtain ⟨hfirst, hrest⟩ := List.isChain_cons_cons.1 hsingle
    have hothers : ∀ d ∈ rest, isNameLetter d = true ∨ isDash d = true :=
      fun d hd => hallowed d (List.mem_cons_of_mem _ hd)
    rw [dashRuns]
    rcases hallowed c List.mem_cons_self with hletter | hdash
    · rw [if_pos hletter, ih (fun hfalse => absurd hfalse Bool.false_ne_true) hothers hrest]
    · have hc : c = '-' := of_decide_eq_true hdash
      have hnot : ¬ afterDash = true := fun htrue => hfirst ⟨hafter htrue, hc⟩
      subst hc
      rw [if_neg (by decide), if_neg hnot, ih (fun _ => rfl) hothers hrest]

end

theorem toList_nameComponent (s : String) :
    (nameComponent s).toList = dropAround isDash (dashRuns false (lowercase s).toList) :=
  String.toList_ofList

theorem isNameComponent_nameComponent (s : String) : IsNameComponent (nameComponent s) where
  framed := by
    rw [← String.toList_inj, toList_nameComponent]
    exact framed_dropAround fun c hc => allowed_of_mem_dashRuns hc
  single := by
    rw [toList_nameComponent]
    obtain ⟨front, back, hl, -, -⟩ :=
      exists_append_dropAround isDash (dashRuns false (lowercase s).toList)
    have hchain := isChain_dashRuns (lowercase s).toList
    rw [hl] at hchain
    exact hchain.left_of_append.right_of_append

theorem IsNameComponent.nameComponent_eq {s : String} (h : IsNameComponent s) :
    nameComponent s = s := by
  obtain ⟨rfl | hframed, hsingle⟩ := h
  · rfl
  · have hcase := lowercase_of_framed hframed fun c hc => by
      cases of_decide_eq_true hc
      decide
    have hruns : dashRuns false s.toList = s.toList := by
      refine dashRuns_eq_self (x := 'a') (fun hfalse => absurd hfalse Bool.false_ne_true)
        hframed.allowed ?_
      obtain ⟨c, rest, hcons, -⟩ := hframed.first
      rw [hcons] at hsingle ⊢
      exact .cons_cons (fun hboth => absurd hboth.1 (by decide)) hsingle
    apply String.toList_inj.1
    rw [toList_nameComponent, hcase, hruns,
      hframed.dropAround_eq fun c hc => isDash_of_isNameLetter hc]

section

variable {s : List Char}

theorem allowed_of_mem_joinRuns {inRun : Bool} {c : Char} (h : c ∈ joinRuns inRun s) :
    isNameLetter c = true ∨ isSeparator c = true := by
  induction s generalizing inRun with
  | nil => cases h
  | cons x rest ih =>
    rw [joinRuns] at h
    split at h
    · rename_i hkept
      rcases List.mem_cons.1 h with rfl | hrest
      · exact Bool.or_eq_true_iff.1 hkept
      · exact ih hrest
    · split at h
      · exact ih h
      · rcases List.mem_cons.1 h with rfl | hrest
        · exact .inr rfl
        · exact ih hrest

theorem mem_joinRuns_iff {c : Char} (hc : isNameLetter c = true) (inRun : Bool) :
    c ∈ joinRuns inRun s ↔ c ∈ s := by
  induction s generalizing inRun with
  | nil => rfl
  | cons x rest ih =>
    rw [joinRuns]
    split
    · rw [List.mem_cons, List.mem_cons, ih]
    · rename_i hx
      have hmark : c ≠ '_' := by
        rintro rfl
        exact absurd hc (by decide)
      have hne : c ≠ x := by
        rintro rfl
        exact hx (by rw [hc, Bool.true_or])
      split
      · rw [ih, List.mem_cons, or_iff_right hne]
      · rw [List.mem_cons, ih, List.mem_cons, or_iff_right hmark, or_iff_right hne]

theorem joinRuns_eq_self {inRun : Bool}
    (h : ∀ c ∈ s, isNameLetter c = true ∨ isSeparator c = true) : joinRuns inRun s = s := by
  induction s generalizing inRun with
  | nil => rfl
  | cons x rest ih =>
    have hx := Bool.or_eq_true_iff.2 (h x List.mem_cons_self)
    rw [joinRuns, if_pos hx, ih fun c hc => h c (List.mem_cons_of_mem _ hc)]

theorem framed_labelValueLetters (h : labelValueLetters s ≠ []) :
    Framed isSeparator (labelValueLetters s) :=
  (framed_dropAround fun _ hc => allowed_of_mem_joinRuns
    ((dropAround_sublist isSeparator _).subset (List.mem_of_mem_take hc))).resolve_left h

theorem length_labelValueLetters_le (s : List Char) : (labelValueLetters s).length ≤ 63 :=
  (dropAround_sublist isSeparator _).length_le.trans (List.length_take_le maxLabelValueLength _)

/-- The first letter that is kept is still there once the value is cut. -/
theorem labelValueLetters_eq_nil_iff :
    labelValueLetters s = [] ↔ ∀ c ∈ s, isNameLetter c = false := by
  unfold labelValueLetters
  rw [dropAround_eq_nil_iff]
  constructor
  · intro hcut c hc
    by_contra hletter
    rw [Bool.not_eq_false] at hletter
    have hmem : c ∈ joinRuns false s := (mem_joinRuns_iff hletter false).2 hc
    have hallowed : ∀ d ∈ joinRuns false s, isNameLetter d = true ∨ isSeparator d = true :=
      fun _ hd => allowed_of_mem_joinRuns hd
    rcases framed_dropAround hallowed with hnil | hframed
    · have hmark := (dropAround_eq_nil_iff isSeparator).1 hnil c hmem
      rw [isSeparator_of_isNameLetter hletter] at hmark
      cases hmark
    · obtain ⟨first, rest, hcons, hfirst⟩ := hframed.first
      have hmark := hcut first (by rw [hcons]; exact List.mem_cons_self)
      rw [isSeparator_of_isNameLetter hfirst] at hmark
      cases hmark
  · intro hnone c hc
    have hmem := (dropAround_sublist isSeparator _).subset (List.mem_of_mem_take hc)
    refine (allowed_of_mem_joinRuns hmem).resolve_left fun hletter => ?_
    rw [hnone c ((mem_joinRuns_iff hletter false).1 hmem)] at hletter
    cases hletter

end

section

variable {s : String}

theorem isUpper_of_mem_lowercase {c : Char} (h : c ∈ (lowercase s).toList) : c.isUpper = false := by
  have hall : ∀ l before : List Char, ∀ d ∈ lowerFrom before l, d.isUpper = false := by
    intro l
    induction l with
    | nil => exact fun _ d hd => absurd hd List.not_mem_nil
    | cons x rest ih =>
      intro before d hd
      rw [lowerFrom] at hd
      rcases List.mem_append.1 hd with hd | hd
      · split at hd
        · rw [List.mem_singleton.1 hd, lowerSigma]
          split <;> decide
        · exact isUpper_of_mem_lowerLetters hd
      · exact ih _ d hd
  rw [lowercase, String.toList_ofList] at h
  exact hall s.toList [] c h

theorem hasNameLetter_iff : HasNameLetter s ↔ ∃ c ∈ (lowercase s).toList, c.isAlphanum = true := by
  have hclass : ∀ c ∈ (lowercase s).toList, c.isAlphanum = isNameLetter c := by
    intro c hc
    have hsmall : c.isAlphanum = (c.isUpper || c.isLower || c.isDigit) := rfl
    rw [hsmall, isUpper_of_mem_lowercase hc]
    rfl
  exact exists_congr fun c => and_congr_right fun hc => by rw [hclass c hc]

theorem labelValueLetters_ne_nil_iff :
    labelValueLetters (lowercase s).toList ≠ [] ↔ HasNameLetter s := by
  rw [Ne, labelValueLetters_eq_nil_iff]
  simp [HasNameLetter]

theorem labelValue_of_not_hasNameLetter (h : ¬ HasNameLetter s) :
    labelValue s = .error (.invalid s!"label value {quoted s} is empty after sanitization") := by
  have hnil := not_ne_iff.1 (mt labelValueLetters_ne_nil_iff.1 h)
  unfold labelValue
  rw [hnil]

theorem exists_labelValue (h : HasNameLetter s) :
    ∃ value, labelValue s = .ok value ∧ IsLabelValue value := by
  have hne := labelValueLetters_ne_nil_iff.2 h
  refine ⟨String.ofList (labelValueLetters (lowercase s).toList), ?_, ?_, ?_⟩
  · unfold labelValue
    split
    · exact absurd ‹_› hne
    · rfl
  · rw [String.toList_ofList]
    exact framed_labelValueLetters hne
  · rw [String.length_ofList]
    exact length_labelValueLetters_le _

theorem IsLabelValue.labelValue_eq (h : IsLabelValue s) : labelValue s = .ok s := by
  have hcase := lowercase_of_framed h.framed fun c hc => small_of_isSeparator hc
  have hframed := h.framed.dropAround_eq fun c hc => isSeparator_of_isNameLetter hc
  have hletters : labelValueLetters s.toList = s.toList := by
    unfold labelValueLetters
    have hlength : s.toList.length ≤ maxLabelValueLength := h.length_le
    rw [joinRuns_eq_self h.framed.allowed, hframed, List.take_of_length_le hlength, hframed]
  unfold labelValue
  rw [hcase, hletters]
  split
  · rename_i hnil
    obtain ⟨c, rest, hcons, -⟩ := h.framed.first
    cases hnil.symm.trans hcons
  · rw [String.ofList_toList]

end

/-- What a text is made into is legal, and it is what it is made into again; what is legal already
stays as it is. A label may come out empty, and so may a component; a text has no value for a label
exactly if no letter or digit of ASCII is in its small form. -/
theorem sanitized_texts_legal (text : String) :
    ((dnsLabel text = "" ∨
          isDomainLabel (dnsLabel text).toList = true ∧ (dnsLabel text).length ≤ 63) ∧
        dnsLabel (dnsLabel text) = dnsLabel text ∧
        (isDomainLabel text.toList = true → text.length ≤ 63 → dnsLabel text = text)) ∧
      (IsNameComponent (nameComponent text) ∧
        nameComponent (nameComponent text) = nameComponent text ∧
        (IsNameComponent text → nameComponent text = text)) ∧
      (labelValue text =
            .error (.invalid s!"label value {quoted text} is empty after sanitization") ↔
          ¬ ∃ c ∈ (lowercase text).toList, c.isAlphanum = true) ∧
        ((∃ c ∈ (lowercase text).toList, c.isAlphanum = true) → ∃ value,
          labelValue text = .ok value ∧ IsLabelValue value ∧ labelValue value = .ok value) ∧
        (IsLabelValue text → labelValue text = .ok text) := by
  rw [← hasNameLetter_iff]
  refine ⟨⟨?_, ?_, fun hlabel hlength => IsRouteSegment.dnsLabel_eq ⟨hlabel, hlength⟩⟩,
    ⟨isNameComponent_nameComponent text, (isNameComponent_nameComponent text).nameComponent_eq,
      IsNameComponent.nameComponent_eq⟩,
    ⟨fun herror hletter => ?_, labelValue_of_not_hasNameLetter⟩, fun hletter => ?_,
    IsLabelValue.labelValue_eq⟩
  · exact or_iff_not_imp_left.2 isRouteSegment_dnsLabel
  · by_cases hempty : dnsLabel text = ""
    · rw [hempty]
      rfl
    · exact (isRouteSegment_dnsLabel hempty).dnsLabel_eq
  · obtain ⟨value, hvalue, -⟩ := exists_labelValue hletter
    cases herror.symm.trans hvalue
  · obtain ⟨value, hvalue, hlegal⟩ := exists_labelValue hletter
    exact ⟨value, hvalue, hlegal, hlegal.labelValue_eq⟩

/-- A text of which the cut at the longest length leaves a mark at the end. -/
def overlongText : String := String.ofList (List.replicate 62 'A' ++ "/b".toList)

/-- The mark is gone in the value, and the value is a label and a component too. -/
theorem overlong_text_cut :
    ∃ value, labelValue overlongText = .ok value ∧ value.length = 62 ∧
      labelValue value = .ok value ∧ dnsLabel value = value ∧ nameComponent value = value := by
  have hletter : ∃ c ∈ (lowercase overlongText).toList, c.isAlphanum = true :=
    ⟨'b', by decide +kernel, by decide⟩
  obtain ⟨-, -, -, hvalue, -⟩ := sanitized_texts_legal overlongText
  obtain ⟨value, hlabel, hlegal, -⟩ := hvalue hletter
  have hcut : labelValue overlongText = .ok (String.ofList (List.replicate 62 'a')) := by
    decide +kernel
  cases hcut.symm.trans hlabel
  obtain ⟨⟨-, -, hdns⟩, ⟨-, -, hcomponent⟩, -, -, hkept⟩ :=
    sanitized_texts_legal (String.ofList (List.replicate 62 'a'))
  have hdomain : isDomainLabel (String.ofList (List.replicate 62 'a')).toList = true := by
    decide +kernel
  refine ⟨_, hlabel, by decide +kernel, hkept hlegal, hdns hdomain (by decide +kernel),
    hcomponent ?_⟩
  obtain ⟨hallowed, hfirst, hlast⟩ := isDomainLabel_iff.1 hdomain
  exact ⟨.inr ⟨hallowed, hfirst, hlast⟩, by decide +kernel⟩

end InferenceReconciler
