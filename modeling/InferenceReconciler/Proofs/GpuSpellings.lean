import InferenceReconciler.Proofs.CaseForms
import InferenceReconciler.Proofs.RouteSegments

/-!
# Spellings of GPU models

The vendor's names are taken off the front of a text before the gaps in it are closed. So a gap in
front of such a name keeps it in the canonical name: the name is not taken off until the canonical
name is read once more. A blank is no such gap, and so all spellings of a model fold to one name
but those with a dash or an underscore between the names of the vendor. Exactly the canonical names
that still begin with a name of the vendor, or have a blank at an end, are not canonical themselves.
-/

namespace InferenceReconciler

namespace GpuModel

section

variable {word s rest : List Char}

theorem dropCopies_of_le (hword : word ≠ []) {fuel fuel' : Nat} (h : s.length ≤ fuel)
    (h' : s.length ≤ fuel') : dropCopies word fuel s = dropCopies word fuel' s := by
  have hkept : ∀ n, dropCopies word n [] = [] := by
    intro n
    cases n with
    | zero => rfl
    | succ n =>
      obtain ⟨c, rest, rfl⟩ := List.exists_cons_of_ne_nil hword
      exact if_neg (by simp)
  induction fuel generalizing fuel' s with
  | zero =>
    rw [List.eq_nil_of_length_eq_zero (Nat.le_zero.1 h), hkept, hkept]
  | succ fuel ih =>
    cases fuel' with
    | zero => rw [List.eq_nil_of_length_eq_zero (Nat.le_zero.1 h'), hkept, hkept]
    | succ fuel' =>
      rw [dropCopies, dropCopies]
      split
      · have hlength := List.length_pos_iff.2 hword
        exact ih (by rw [List.length_drop]; omega) (by rw [List.length_drop]; omega)
      · rfl

variable {name : String}

theorem withoutCopies_append (hname : name ≠ "") (s : List Char) :
    withoutCopies name (name.toList ++ s) = withoutCopies name s := by
  have hword : name.toList ≠ [] := mt String.toList_eq_nil_iff.1 hname
  have hpos := List.length_pos_iff.2 hword
  obtain ⟨n, hn⟩ : ∃ n, (name.toList ++ s).length = n + 1 :=
    ⟨(name.toList ++ s).length - 1, by rw [List.length_append]; omega⟩
  have hle : s.length ≤ n := by
    rw [List.length_append] at hn
    omega
  have hprefix : name.toList.isPrefixOf (name.toList ++ s) = true :=
    List.isPrefixOf_iff_prefix.2 (List.prefix_append _ s)
  rw [withoutCopies, hn, dropCopies, if_pos hprefix, List.drop_left]
  exact dropCopies_of_le hword hle (Nat.le_refl _)

theorem withoutCopies_of_no_copy (h : ¬ name.toList <+: s) : withoutCopies name s = s := by
  have hprefix : ¬ name.toList.isPrefixOf s = true := mt List.isPrefixOf_iff_prefix.1 h
  unfold withoutCopies
  cases s.length with
  | zero => rfl
  | succ n => exact if_neg hprefix

theorem withoutCopies_suffix (name : String) (s : List Char) : withoutCopies name s <:+ s := by
  unfold withoutCopies
  induction s.length generalizing s with
  | zero => exact List.suffix_refl s
  | succ n ih =>
    rw [dropCopies]
    split
    · exact (ih _).trans (List.drop_suffix _ s)
    · exact List.suffix_refl s

theorem withoutCopies_eq_self_iff (hname : name ≠ "") :
    withoutCopies name s = s ↔ ¬ name.toList <+: s := by
  refine ⟨fun h => ?_, withoutCopies_of_no_copy⟩
  rintro ⟨rest, rfl⟩
  rw [withoutCopies_append hname] at h
  have hlength := (withoutCopies_suffix name rest).length_le
  have hpos := List.length_pos_iff.2 (mt String.toList_eq_nil_iff.1 hname)
  rw [h, List.length_append] at hlength
  omega

end

section

variable {l : List Char}

theorem withoutVendor_suffix (l : List Char) : withoutVendor l <:+ l :=
  (List.dropWhile_suffix _).trans ((withoutCopies_suffix _ _).trans
    ((List.dropWhile_suffix _).trans (withoutCopies_suffix _ l)))

/-- A trimmed text keeps all its letters exactly if it begins with no name of the vendor. -/
theorem withoutVendor_eq_self_iff (h : dropAround isBlank l = l) :
    withoutVendor l = l ↔ ¬ "AMD".toList <+: l ∧ ¬ "INSTINCT".toList <+: l := by
  have hblank : l.dropWhile isBlank = l := by
    have hfirst := ((dropAround_eq_self_iff isBlank).1 h).1
    cases l with
    | nil => rfl
    | cons c rest => exact List.dropWhile_cons_of_neg (by simp [hfirst c rfl])
  constructor
  · intro hself
    have hinner := (List.dropWhile_suffix isBlank).trans
      (withoutCopies_suffix "INSTINCT" ((withoutCopies "AMD" l).dropWhile isBlank))
    have houter : l <:+ (withoutCopies "AMD" l).dropWhile isBlank := by
      unfold withoutVendor at hself
      rwa [hself] at hinner
    have hvendor : withoutCopies "AMD" l = l :=
      (withoutCopies_suffix "AMD" l).eq_of_length_le
        (houter.trans (List.dropWhile_suffix isBlank)).length_le
    have hbrand : withoutCopies "INSTINCT" l = l := by
      unfold withoutVendor at hself
      rw [hvendor, hblank] at hself
      refine (withoutCopies_suffix "INSTINCT" l).eq_of_length_le ?_
      conv_lhs => rw [← hself]
      exact (List.dropWhile_suffix isBlank).length_le
    exact ⟨(withoutCopies_eq_self_iff (by decide)).1 hvendor,
      (withoutCopies_eq_self_iff (by decide)).1 hbrand⟩
  · rintro ⟨hvendor, hbrand⟩
    unfold withoutVendor
    rw [withoutCopies_of_no_copy hvendor, hblank, withoutCopies_of_no_copy hbrand, hblank]

end

/-- What is left of a text in capitals, without the vendor's names in front and without gaps. -/
def bareLetters (s : String) : List Char :=
  (withoutVendor (uppercase (trimBlanks s)).toList).filter fun c => !isGap c

def fullName (l : List Char) : String := (fullNames.lookup (String.ofList l)).getD (String.ofList l)

theorem canonical_eq (s : String) :
    canonical s =
      if bareLetters s = [] then uppercase (trimBlanks s) else fullName (bareLetters s) := by
  unfold canonical fullName bareLetters
  dsimp only
  simp only [String.isEmpty_iff, String.ofList_eq_empty_iff]

/-- Letters of a canonical name that are read as they are: no blank stands at either end, and no
name of the vendor in front of anything else. -/
structure Settled (l : List Char) : Prop where
  trimmed : dropAround isBlank l = l
  vendor : withoutVendor l = [] ∨ ¬ "AMD".toList <+: l ∧ ¬ "INSTINCT".toList <+: l

instance (l : List Char) : Decidable (Settled l) :=
  decidable_of_iff (dropAround isBlank l = l ∧
    (withoutVendor l = [] ∨ ¬ "AMD".toList <+: l ∧ ¬ "INSTINCT".toList <+: l))
    ⟨fun h => ⟨h.1, h.2⟩, fun h => ⟨h.trimmed, h.vendor⟩⟩

theorem settled_of_mem_fullNames :
    ∀ e ∈ fullNames, Settled e.1.toList ∧ Settled e.2.toList ∧ canonical e.2 = e.2 := by
  decide +kernel

theorem fullName_of_lookup {l : List Char} {full : String}
    (h : fullNames.lookup (String.ofList l) = some full) : fullName l = full := by
  unfold fullName
  rw [h, Option.getD_some]

theorem fullName_of_none {l : List Char} (h : fullNames.lookup (String.ofList l) = none) :
    fullName l = String.ofList l := by
  unfold fullName
  rw [h, Option.getD_none]

theorem trimBlanks_uppercase (s : String) :
    trimBlanks (uppercase (trimBlanks s)) = uppercase (trimBlanks s) := by
  have hends := (dropAround_eq_self_iff isBlank).1 (dropAround_dropAround isBlank s.toList)
  apply String.toList_inj.1
  rw [toList_trimBlanks, toList_uppercase, toList_trimBlanks, dropAround_eq_self_iff]
  generalize dropAround isBlank s.toList = l at hends
  have hcapital : ∀ c, isBlank c = false → ∀ d ∈ upperLetters c, isBlank d = false := by
    intro c hc d hd
    refine Bool.eq_false_iff.2 fun hblank => ?_
    rw [(capital_of_mem_upperLetters hd).2 hblank] at hc
    cases hc
  constructor
  · intro d hd
    cases l with
    | nil => cases hd
    | cons c rest =>
      obtain ⟨first, others, hletters⟩ := List.exists_cons_of_ne_nil (upperLetters_ne_nil c)
      rw [List.flatMap_cons, hletters] at hd
      cases hd
      exact hcapital c (hends.1 c rfl) d (by simp [hletters])
  · intro d hd
    cases hlast : l.getLast? with
    | none =>
      rw [List.getLast?_eq_none_iff.1 hlast] at hd
      cases hd
    | some c =>
      obtain ⟨front, rfl⟩ := List.getLast?_eq_some_iff.1 hlast
      rw [List.flatMap_append, List.flatMap_singleton,
        List.getLast?_append_of_ne_nil _ (upperLetters_ne_nil c)] at hd
      exact hcapital c (hends.2 c hlast) d (List.mem_of_getLast? hd)

theorem bareLetters_ofList {l : List Char} (hcapitals : InCapitals l)
    (hgap : ∀ c ∈ l, isGap c = false) :
    uppercase (trimBlanks (String.ofList l)) = String.ofList (dropAround isBlank l) ∧
      bareLetters (String.ofList l) = withoutVendor (dropAround isBlank l) := by
  have htrim : trimBlanks (String.ofList l) = String.ofList (dropAround isBlank l) := by
    rw [trimBlanks, String.toList_ofList]
  have hpart : dropAround isBlank l ⊆ l := (dropAround_sublist isBlank l).subset
  have hupper : uppercase (trimBlanks (String.ofList l)) =
      String.ofList (dropAround isBlank l) := by
    rw [htrim]
    apply InCapitals.uppercase_eq
    rw [String.toList_ofList]
    exact hcapitals.of_subset hpart
  refine ⟨hupper, ?_⟩
  rw [bareLetters, hupper, String.toList_ofList, List.filter_eq_self]
  intro c hc
  rw [hgap c (hpart ((withoutVendor_suffix _).subset hc)), Bool.not_false]

theorem canonical_ofList_eq_self_iff {l : List Char} (hcapitals : InCapitals l)
    (hgap : ∀ c ∈ l, isGap c = false) (hshort : fullNames.lookup (String.ofList l) = none) :
    canonical (String.ofList l) = String.ofList l ↔ Settled l := by
  obtain ⟨hupper, hbare⟩ := bareLetters_ofList hcapitals hgap
  rw [canonical_eq, hupper, hbare]
  constructor
  · intro hself
    split at hself
    · rename_i hnone
      have htrimmed : dropAround isBlank l = l := String.ofList_inj.1 hself
      rw [htrimmed] at hnone
      exact ⟨htrimmed, .inl hnone⟩
    · cases hlookup : fullNames.lookup
          (String.ofList (withoutVendor (dropAround isBlank l))) with
      | some full =>
        rw [fullName_of_lookup hlookup] at hself
        have hsettled := (settled_of_mem_fullNames _ (mem_of_lookup_eq_some hlookup)).2.1
        rwa [hself, String.toList_ofList] at hsettled
      | none =>
        rw [fullName_of_none hlookup, String.ofList_inj] at hself
        have htrimmed : dropAround isBlank l = l :=
          (dropAround_sublist isBlank l).eq_of_length_le (by
            conv_lhs => rw [← hself]
            exact (withoutVendor_suffix _).length_le)
        rw [htrimmed] at hself
        exact ⟨htrimmed, .inr ((withoutVendor_eq_self_iff htrimmed).1 hself)⟩
  · rintro ⟨htrimmed, hnone | hvendor⟩
    · rw [htrimmed, if_pos hnone]
    · rw [htrimmed, (withoutVendor_eq_self_iff htrimmed).2 hvendor, fullName_of_none hshort]
      exact ite_self _

theorem canonical_canonical_iff (s : String) :
    canonical (canonical s) = canonical s ↔ Settled (bareLetters s) := by
  have hcapitals : InCapitals (bareLetters s) :=
    (inCapitals_uppercase (trimBlanks s)).of_subset
      fun c hc => (withoutVendor_suffix _).subset (List.mem_filter.1 hc).1
  have hgap : ∀ c ∈ bareLetters s, isGap c = false := by
    intro c hc
    simpa using (List.mem_filter.1 hc).2
  by_cases hnone : bareLetters s = []
  · have hagain : uppercase (trimBlanks (uppercase (trimBlanks s))) = uppercase (trimBlanks s) := by
      rw [trimBlanks_uppercase]
      exact (inCapitals_uppercase _).uppercase_eq
    have hbare : bareLetters (uppercase (trimBlanks s)) = [] := by
      rw [bareLetters, hagain]
      exact hnone
    have hfirst : canonical s = uppercase (trimBlanks s) := by rw [canonical_eq, if_pos hnone]
    rw [hfirst, canonical_eq, if_pos hbare, hagain, hnone]
    exact iff_of_true rfl (by decide)
  · have hfirst : canonical s = fullName (bareLetters s) := by rw [canonical_eq, if_neg hnone]
    cases hlookup : fullNames.lookup (String.ofList (bareLetters s)) with
    | some full =>
      obtain ⟨hsettled, -, hself⟩ := settled_of_mem_fullNames _ (mem_of_lookup_eq_some hlookup)
      rw [String.toList_ofList] at hsettled
      rw [hfirst, fullName_of_lookup hlookup]
      exact iff_of_true hself hsettled
    | none =>
      rw [hfirst, fullName_of_none hlookup]
      exact canonical_ofList_eq_self_iff hcapitals hgap hlookup

/-- How a model is written: the vendor's names that stand before it, each with the gap behind it. -/
structure Spelling where
  vendor : Option (List Char)
  brand : Option (List Char)
  model : List Char

namespace Spelling

/-- The spelling from the second name of the vendor on. -/
def branded (w : Spelling) : List Char :=
  (w.brand.elim [] fun gap => "INSTINCT".toList ++ gap) ++ w.model

def letters (w : Spelling) : List Char :=
  (w.vendor.elim [] fun gap => "AMD".toList ++ gap) ++ w.branded

/-- The gaps are of spaces, dashes and underscores, and the model is a word of letters and digits
that begins with no name of the vendor itself. -/
structure WellFormed (w : Spelling) : Prop where
  gaps : ∀ gap, w.vendor = some gap ∨ w.brand = some gap → ∀ c ∈ gap, isGap c = true
  named : w.model ≠ []
  model : ∀ c ∈ w.model, c.isAlphanum = true
  apart : ¬ "AMD".toList <+: w.model.map Char.toUpper ∧
    ¬ "INSTINCT".toList <+: w.model.map Char.toUpper

/-- Whether there is nothing but spaces between the names of the vendor. -/
def IsSpaced (w : Spelling) : Prop :=
  ∀ gap ∈ w.vendor, w.brand.isSome = true → ∀ c ∈ gap, c = ' '

instance (w : Spelling) : Decidable w.IsSpaced :=
  match h : w.vendor with
  | none => .isTrue (by simp [IsSpaced, h])
  | some gap => decidable_of_iff (w.brand.isSome = true → gap.all (· = ' ') = true)
      (by simp [IsSpaced, h])

end Spelling

section

theorem head?_vendor : "AMD".toList.head? = some 'A' := by decide

theorem head?_brand : "INSTINCT".toList.head? = some 'I' := by decide

theorem not_prefix_of_head? {word l : List Char} {x : Char} (hword : word.head? = some x)
    (hl : ∀ c ∈ l.head?, c ≠ x) : ¬ word <+: l := by
  obtain ⟨rest, rfl⟩ := List.head?_eq_some_iff.1 hword
  rintro ⟨behind, rfl⟩
  exact hl x rfl rfl

variable {gap l : List Char}

theorem isBlank_of_isGap {c : Char} (h : isGap c = true) : isBlank c = true ↔ c = ' ' := by
  simp only [isGap, Bool.or_eq_true, decide_eq_true_eq] at h
  rcases h with (rfl | rfl) | rfl <;> decide

theorem not_prefix_gap_append {word : List Char} {x : Char} (hword : word.head? = some x)
    (hx : isGap x = false) (hgap : ∀ c ∈ gap, isGap c = true) (h : ¬ word <+: l) :
    ¬ word <+: gap ++ l := by
  cases gap with
  | nil => exact h
  | cons c rest =>
    refine not_prefix_of_head? hword fun d hd heq => ?_
    cases hd
    rw [← heq, hgap c List.mem_cons_self] at hx
    cases hx

theorem dropWhile_gap_append (h : ∀ c ∈ l.head?, isBlank c = false) :
    (gap ++ l).dropWhile isBlank = gap.dropWhile isBlank ++ l := by
  have hl : l.dropWhile isBlank = l := dropWhile_eq_self isBlank h
  rw [List.dropWhile_append]
  split
  · rename_i hempty
    rw [List.isEmpty_iff.1 hempty, hl, List.nil_append]
  · rfl

theorem filter_gap_append (hgap : ∀ c ∈ gap, isGap c = true) :
    (gap ++ l).filter (fun c => !isGap c) = l.filter fun c => !isGap c := by
  have hnone : gap.filter (fun c => !isGap c) = [] := by
    rw [List.filter_eq_nil_iff]
    intro c hc
    simp [hgap c hc]
  rw [List.filter_append, hnone, List.nil_append]

end

/-- A word that begins with no name of the vendor and has no blank or gap in it. -/
structure IsBare (l : List Char) : Prop where
  head : ∀ c ∈ l.head?, isBlank c = false
  plain : ∀ c ∈ l, isGap c = false
  apart : ¬ "AMD".toList <+: l ∧ ¬ "INSTINCT".toList <+: l

theorem IsBare.filter_eq {l : List Char} (h : IsBare l) : l.filter (fun c => !isGap c) = l :=
  List.filter_eq_self.2 fun c hc => by rw [h.plain c hc, Bool.not_false]

theorem filter_withoutCopies_of_gap {c : Char} {rest l : List Char} (hc : isBlank c = false)
    (hgap : ∀ d ∈ c :: rest, isGap d = true) :
    ((withoutCopies "INSTINCT" (c :: rest ++ l)).dropWhile isBlank).filter (fun c => !isGap c) =
      l.filter fun c => !isGap c := by
  have hfront : (c :: rest ++ l).dropWhile isBlank = c :: rest ++ l :=
    List.dropWhile_cons_of_neg (by simp [hc])
  have hname : ¬ "INSTINCT".toList <+: c :: rest ++ l := by
    refine not_prefix_of_head? head?_brand fun d hd heq => ?_
    cases hd
    exact absurd (hgap c List.mem_cons_self) (by rw [heq]; decide)
  rw [withoutCopies_of_no_copy hname, hfront, filter_gap_append hgap]

namespace Spelling

variable {w : Spelling}

theorem branded_apart (hbare : IsBare w.model) :
    ¬ "AMD".toList <+: w.branded ∧ ∀ c ∈ w.branded.head?, isBlank c = false := by
  unfold branded
  cases w.brand with
  | none => exact ⟨hbare.apart.1, hbare.head⟩
  | some gap =>
    refine ⟨not_prefix_of_head? head?_vendor fun c hc => ?_, fun c hc => ?_⟩
    · cases hc
      decide
    · cases hc
      decide

theorem filter_branded (hbare : IsBare w.model)
    (hgaps : ∀ gap, w.vendor = some gap ∨ w.brand = some gap → ∀ c ∈ gap, isGap c = true) :
    w.branded.filter (fun c => !isGap c) =
      if w.brand.isSome then "INSTINCT".toList ++ w.model else w.model := by
  unfold branded
  cases hbrand : w.brand with
  | none =>
    rw [Option.elim_none, List.nil_append, hbare.filter_eq]
    rfl
  | some gap =>
    rw [Option.elim_some, List.append_assoc, List.filter_append,
      filter_gap_append (hgaps gap (.inr hbrand)), hbare.filter_eq]
    rfl

theorem filter_withoutCopies_branded (hbare : IsBare w.model)
    (hgaps : ∀ gap, w.vendor = some gap ∨ w.brand = some gap → ∀ c ∈ gap, isGap c = true) :
    ((withoutCopies "INSTINCT" w.branded).dropWhile isBlank).filter (fun c => !isGap c) =
      w.model := by
  have hclosed : ∀ gap, (∀ c ∈ gap, isGap c = true) →
      ((gap ++ w.model).dropWhile isBlank).filter (fun c => !isGap c) = w.model := by
    intro gap hgap
    rw [dropWhile_gap_append hbare.head, filter_gap_append fun c hc =>
      hgap c ((List.dropWhile_suffix isBlank).subset hc), hbare.filter_eq]
  unfold branded
  cases hbrand : w.brand with
  | none =>
    rw [Option.elim_none, List.nil_append, withoutCopies_of_no_copy hbare.apart.2]
    exact hclosed [] (fun c hc => absurd hc List.not_mem_nil)
  | some gap =>
    have hgap := hgaps gap (.inr hbrand)
    rw [Option.elim_some, List.append_assoc, withoutCopies_append (by decide),
      withoutCopies_of_no_copy (not_prefix_gap_append head?_brand (by decide) hgap hbare.apart.2)]
    exact hclosed gap hgap

/-- A dash or an underscore behind the first name of the vendor keeps the second. -/
theorem filter_withoutVendor_letters (hbare : IsBare w.model)
    (hgaps : ∀ gap, w.vendor = some gap ∨ w.brand = some gap → ∀ c ∈ gap, isGap c = true) :
    (withoutVendor w.letters).filter (fun c => !isGap c) =
      if w.IsSpaced then w.model else "INSTINCT".toList ++ w.model := by
  obtain ⟨hvendorless, hhead⟩ := branded_apart hbare
  unfold withoutVendor letters
  cases hvendor : w.vendor with
  | none =>
    have hspaced : w.IsSpaced := by simp [IsSpaced, hvendor]
    rw [Option.elim_none, List.nil_append, withoutCopies_of_no_copy hvendorless,
      dropWhile_eq_self isBlank hhead, filter_withoutCopies_branded hbare hgaps, if_pos hspaced]
  | some gap =>
    have hgap := hgaps gap (.inl hvendor)
    have hspaced : w.IsSpaced ↔ (w.brand.isSome = true → ∀ c ∈ gap, c = ' ') := by
      simp [IsSpaced, hvendor]
    rw [Option.elim_some, List.append_assoc, withoutCopies_append (by decide),
      withoutCopies_of_no_copy (not_prefix_gap_append head?_vendor (by decide) hgap hvendorless),
      dropWhile_gap_append hhead]
    -- What is left of the gap decides: after spaces alone the second name is found, and behind
    -- anything else it is not looked for.
    cases hrest : gap.dropWhile isBlank with
    | nil =>
      have hspaces : ∀ c ∈ gap, c = ' ' := fun c hc =>
        (isBlank_of_isGap (hgap c hc)).1 (List.dropWhile_eq_nil_iff.1 hrest c hc)
      rw [List.nil_append, filter_withoutCopies_branded hbare hgaps,
        if_pos (hspaced.2 fun _ => hspaces)]
    | cons c rest =>
      have hmem : c :: rest ⊆ gap := hrest ▸ (List.dropWhile_suffix isBlank).subset
      have hc : isBlank c = false := eq_false_of_dropWhile_eq_cons isBlank hrest
      have hkept : ∀ d ∈ c :: rest, isGap d = true := fun d hd => hgap d (hmem hd)
      have hunspaced : ¬ ∀ d ∈ gap, d = ' ' := by
        intro hall
        have hblank := (isBlank_of_isGap (hkept c List.mem_cons_self)).2
          (hall c (hmem List.mem_cons_self))
        exact Bool.false_ne_true (hc.symm.trans hblank)
      rw [filter_withoutCopies_of_gap hc hkept, filter_branded hbare hgaps]
      by_cases hbrand : w.brand.isSome = true
      · rw [if_pos hbrand, if_neg fun h => hunspaced (hspaced.1 h hbrand)]
      · rw [if_neg hbrand, if_pos (hspaced.2 fun h => absurd h hbrand)]

def capitals (w : Spelling) : Spelling := { w with model := w.model.map Char.toUpper }

theorem toUpper_of_isGap {c : Char} (h : isGap c = true) : c.toUpper = c := by
  simp only [isGap, Bool.or_eq_true, decide_eq_true_eq] at h
  rcases h with (rfl | rfl) | rfl <;> decide

theorem toUpper_of_isAlphanum {c : Char} (h : c.isAlphanum = true) :
    c.toUpper.toNat < 128 ∧ isBlank c.toUpper = false ∧ isGap c.toUpper = false := by
  have hc : c.isAlphanum = true →
      c.toUpper.toNat < 128 ∧ isBlank c.toUpper = false ∧ isGap c.toUpper = false :=
    forall_ascii c (kept_of_isAlphanum h).1 (by decide)
  exact hc h

theorem lt_of_toUpper_lt {c : Char} (h : c.toUpper.toNat < 128) : c.toNat < 128 := by
  unfold Char.toUpper at h
  split at h
  · rename_i hlower
    exact Nat.lt_of_le_of_lt (UInt32.le_iff_toNat_le.1 hlower.2) (by decide)
  · exact h

namespace WellFormed

theorem map_letters (h : w.WellFormed) : w.letters.map Char.toUpper = w.capitals.letters := by
  have hgap : ∀ gap, w.vendor = some gap ∨ w.brand = some gap → gap.map Char.toUpper = gap := by
    intro gap hmem
    conv_rhs => rw [← List.map_id gap]
    exact List.map_congr_left fun c hc => toUpper_of_isGap (h.gaps gap hmem c hc)
  have hvendor : "AMD".toList.map Char.toUpper = "AMD".toList := by decide
  have hbrand : "INSTINCT".toList.map Char.toUpper = "INSTINCT".toList := by decide
  have hpart : ∀ (name : List Char) (part : Option (List Char)), name.map Char.toUpper = name →
      (∀ gap, part = some gap → gap.map Char.toUpper = gap) →
        (part.elim [] fun gap => name ++ gap).map Char.toUpper =
          part.elim [] fun gap => name ++ gap := by
    intro name part hname hpart
    cases part with
    | none => rfl
    | some gap => rw [Option.elim_some, List.map_append, hname, hpart gap rfl]
  unfold letters branded capitals
  rw [List.map_append, List.map_append, hpart _ _ hvendor fun gap hg => hgap gap (.inl hg),
    hpart _ _ hbrand fun gap hg => hgap gap (.inr hg)]

theorem isBare (h : w.WellFormed) : IsBare w.capitals.model where
  head := by
    intro c hc
    obtain ⟨d, hd, rfl⟩ := List.mem_map.1 (List.mem_of_head? hc)
    exact (toUpper_of_isAlphanum (h.model d hd)).2.1
  plain := by
    intro c hc
    obtain ⟨d, hd, rfl⟩ := List.mem_map.1 hc
    exact (toUpper_of_isAlphanum (h.model d hd)).2.2
  apart := h.apart

theorem lt_of_mem_letters (h : w.WellFormed) : ∀ c ∈ w.capitals.letters, c.toNat < 128 := by
  have hpart : ∀ (name : List Char) (part : Option (List Char)),
      (name.all fun c => c.toNat < 128) = true →
        (∀ gap, part = some gap → ∀ c ∈ gap, isGap c = true) →
          ∀ c ∈ part.elim [] fun gap => name ++ gap, c.toNat < 128 := by
    intro name part hname hpart c hc
    cases part with
    | none => cases hc
    | some gap =>
      rcases List.mem_append.1 hc with hc | hc
      · exact of_decide_eq_true (List.all_eq_true.1 hname c hc)
      · have hgap := hpart gap rfl c hc
        simp only [isGap, Bool.or_eq_true, decide_eq_true_eq] at hgap
        rcases hgap with (rfl | rfl) | rfl <;> decide
  intro c hc
  unfold letters branded at hc
  rcases List.mem_append.1 hc with hc | hc
  · exact hpart "AMD".toList w.vendor (by decide) (fun gap hg => h.gaps gap (.inl hg)) c hc
  · rcases List.mem_append.1 hc with hc | hc
    · exact hpart "INSTINCT".toList w.brand (by decide) (fun gap hg => h.gaps gap (.inr hg)) c hc
    · obtain ⟨d, hd, rfl⟩ := List.mem_map.1 hc
      exact (toUpper_of_isAlphanum (h.model d hd)).1

theorem trimmed_letters (h : w.WellFormed) :
    dropAround isBlank w.capitals.letters = w.capitals.letters := by
  refine (dropAround_eq_self_iff isBlank).2 ⟨fun c hc => ?_, fun c hc => ?_⟩
  · unfold letters branded at hc
    cases hvendor : w.capitals.vendor with
    | some gap =>
      rw [hvendor] at hc
      cases hc
      decide
    | none =>
      cases hbrand : w.capitals.brand with
      | some gap =>
        rw [hvendor, hbrand] at hc
        cases hc
        decide
      | none =>
        rw [hvendor, hbrand] at hc
        exact h.isBare.head c hc
  · have hne : w.capitals.model ≠ [] := mt List.map_eq_nil_iff.1 h.named
    unfold letters branded at hc
    rw [List.getLast?_append_of_ne_nil _ (List.append_ne_nil_of_right_ne_nil _ hne),
      List.getLast?_append_of_ne_nil _ hne] at hc
    obtain ⟨d, hd, rfl⟩ := List.mem_map.1 (List.mem_of_getLast? hc)
    exact (toUpper_of_isAlphanum (h.model d hd)).2.1

/-- In whatever case a model is spelled, what is left of the spelling is the model in capitals,
unless the second name of the vendor is kept before it. -/
theorem canonical_eq (h : w.WellFormed) {s : String}
    (hs : s.toList.map Char.toUpper = w.letters.map Char.toUpper) :
    canonical s = fullName (if w.IsSpaced then w.capitals.model
      else "INSTINCT".toList ++ w.capitals.model) := by
  rw [h.map_letters] at hs
  have hascii : ∀ c ∈ s.toList, c.toNat < 128 := by
    intro c hc
    exact lt_of_toUpper_lt (h.lt_of_mem_letters _ (hs ▸ List.mem_map_of_mem hc))
  have hblank : ∀ c ∈ s.toList, isBlank c.toUpper = false → isBlank c = false :=
    fun c hc => forall_ascii c (hascii c hc) (by decide +kernel)
  have htrim : trimBlanks s = s := by
    have hends := (dropAround_eq_self_iff isBlank).1 h.trimmed_letters
    rw [← hs, List.head?_map, List.getLast?_map] at hends
    apply String.toList_inj.1
    rw [toList_trimBlanks, dropAround_eq_self_iff]
    exact ⟨fun c hc => hblank c (List.mem_of_head? hc) (hends.1 _ (Option.mem_map_of_mem _ hc)),
      fun c hc => hblank c (List.mem_of_getLast? hc) (hends.2 _ (Option.mem_map_of_mem _ hc))⟩
  have hupper : (uppercase (trimBlanks s)).toList = w.capitals.letters := by
    rw [htrim, toList_uppercase, ← hs]
    exact (List.flatMap_congr fun c hc => upperLetters_of_lt (hascii c hc)).trans
      (List.flatMap_pure_eq_map _ _)
  have hbare : bareLetters s = if w.IsSpaced then w.capitals.model
      else "INSTINCT".toList ++ w.capitals.model := by
    rw [bareLetters, hupper]
    exact filter_withoutVendor_letters h.isBare h.gaps
  have hne : bareLetters s ≠ [] := by
    have hmodel : w.capitals.model ≠ [] := mt List.map_eq_nil_iff.1 h.named
    rw [hbare]
    split
    · exact hmodel
    · exact List.append_ne_nil_of_right_ne_nil _ hmodel
  rw [GpuModel.canonical_eq, if_neg hne, hbare]

theorem alone (h : w.WellFormed) : WellFormed ⟨none, none, w.model⟩ where
  gaps := by
    rintro gap (hgap | hgap) <;> cases hgap
  named := h.named
  model := h.model
  apart := h.apart

end WellFormed

theorem length_fullName (l : List Char) :
    l.length ≤ (fullName l).length ∧ (fullName l).length ≤ l.length + 1 := by
  cases hlookup : fullNames.lookup (String.ofList l) with
  | none =>
    rw [fullName_of_none hlookup, String.length_ofList]
    exact ⟨Nat.le_refl _, Nat.le_succ _⟩
  | some full =>
    have hall : ∀ e ∈ fullNames, e.2.length = e.1.length + 1 := by decide
    have hlength : full.length = (String.ofList l).length + 1 :=
      hall _ (mem_of_lookup_eq_some hlookup)
    rw [String.length_ofList] at hlength
    rw [fullName_of_lookup hlookup]
    omega

theorem WellFormed.canonical_eq_iff (h : w.WellFormed) {s : String}
    (hs : s.toList.map Char.toUpper = w.letters.map Char.toUpper) :
    canonical s = canonical (String.ofList w.model) ↔ w.IsSpaced := by
  have halone : canonical (String.ofList w.model) = fullName w.capitals.model := by
    have hspaced : IsSpaced ⟨none, none, w.model⟩ := by simp [IsSpaced]
    have hletters : (String.ofList w.model).toList.map Char.toUpper =
        (Spelling.letters ⟨none, none, w.model⟩).map Char.toUpper := by
      rw [String.toList_ofList]
      rfl
    rw [h.alone.canonical_eq hletters, if_pos hspaced]
    rfl
  rw [h.canonical_eq hs, halone]
  by_cases hspaced : w.IsSpaced
  · rw [if_pos hspaced]
    exact iff_of_true rfl hspaced
  · rw [if_neg hspaced]
    refine iff_of_false (fun heq => ?_) hspaced
    have hlong := (length_fullName ("INSTINCT".toList ++ w.capitals.model)).1
    have hshort := (length_fullName w.capitals.model).2
    have hname : "INSTINCT".toList.length = 8 := by decide
    rw [heq, List.length_append, hname] at hlong
    omega

end Spelling

/-- A canonical name is its own canonical name exactly if the letters it is made of are settled,
and a spelling of a model, in any case, has the canonical name of the model alone exactly if there
is nothing but spaces between the names of the vendor in it. -/
theorem spellings_folded_iff (s : String) :
    (canonical (canonical s) = canonical s ↔ Settled (bareLetters s)) ∧
      ∀ w : Spelling, w.WellFormed → s.toList.map Char.toUpper = w.letters.map Char.toUpper →
        (canonical s = canonical (String.ofList w.model) ↔ w.IsSpaced) :=
  ⟨canonical_canonical_iff s, fun _ h hs => h.canonical_eq_iff hs⟩

/-- With a space between the names of the vendor it does not matter what stands behind them. -/
def spacedSpelling : Spelling := ⟨some [' '], some ['-'], "Mi300".toList⟩

theorem spaced_spelling_folded :
    canonical "amd Instinct-mi300" = canonical "Mi300" ∧
      canonical (canonical "amd Instinct-mi300") = canonical "amd Instinct-mi300" := by
  obtain ⟨hagain, hspelled⟩ := spellings_folded_iff "amd Instinct-mi300"
  have hwell : spacedSpelling.WellFormed := {
    gaps := by
      rintro gap (hgap | hgap) <;> cases hgap <;> exact List.all_eq_true.1 (by decide)
    named := by decide
    model := List.all_eq_true.1 (by decide)
    apart := by decide }
  refine ⟨(hspelled spacedSpelling hwell (by decide)).2 (by decide), hagain.2 ?_⟩
  decide +kernel

/-- A dash between the names of the vendor, as a label has it, keeps the second of them; only the
canonical name of the canonical name is the model. -/
theorem dashed_spelling_not_folded :
    canonical "AMD-Instinct-MI300X" = "INSTINCTMI300X" ∧ canonical "MI300X" = "MI300X" ∧
      canonical (canonical "AMD-Instinct-MI300X") ≠ canonical "AMD-Instinct-MI300X" := by
  decide +kernel

end GpuModel

end InferenceReconciler
