import InferenceReconciler.Proofs.LegalNames
import Mathlib.Data.List.Forall2
import Mathlib.Logic.Relation

/-!
# Fitted names

A name that is too long loses one letter after the other, each from the first of its longest parts,
with the dashes that come to stand at its end. What is left of a part is always its beginning cut to
a label, so whatever the parts are the name is one, ends in the whole digest and is no longer than
it may be, unless the digest alone is. A name that fits is not touched.
-/

namespace InferenceReconciler

/-- The digest that a name ends in, if anything is hashed and any of its digits are asked for. -/
def nameDigest (options : NameOptions) (hashed : List Json) : Option String :=
  if hashed.isEmpty || options.hashLength == 0 then none
  else some (hashValues hashed options.hashLength)

/-- The parts of which something is left and the digest, with a dash between each two. -/
def joinParts (parts : List (List Char)) (hash : Option String) : String :=
  "-".intercalate ((parts.filter fun p => !p.isEmpty).map String.ofList ++ hash.toList)

theorem derivedNameWith_eq (options : NameOptions) (parts : List String) (hashed : List Json) :
    derivedNameWith options parts hashed =
      joinParts (fitParts (nameDigest options hashed) options.maxLength
        (parts.map namePart).flatten.length (parts.map namePart)) (nameDigest options hashed) := rfl

theorem length_intercalate_dash (texts : List String) :
    ("-".intercalate texts).length =
      (texts.map String.toList).flatten.length + (texts.length - 1) := by
  induction texts with
  | nil => rfl
  | cons text rest ih =>
    cases rest with
    | nil => simp [← String.length_toList]
    | cons next others =>
      have hdash : "-".length = 1 := rfl
      rw [String.intercalate_cons_cons, String.length_append, String.length_append, ih, hdash]
      simp only [List.map_cons, List.flatten_cons, List.length_append, String.length_toList,
        List.length_cons]
      omega

section

variable {hash : Option String} {parts : List (List Char)}

theorem filter_of_ne_nil (h : ∀ p ∈ parts, p ≠ []) :
    parts.filter (fun p => !p.isEmpty) = parts := by
  rw [List.filter_eq_self]
  intro p hp
  simpa using h p hp

theorem joinParts_filter (hash : Option String) (parts : List (List Char)) :
    joinParts (parts.filter fun p => !p.isEmpty) hash = joinParts parts hash := by
  unfold joinParts
  rw [List.filter_filter]
  simp only [Bool.and_self]

theorem length_joinParts (h : ∀ p ∈ parts, p ≠ []) :
    (joinParts parts hash).length = joinedLength hash parts := by
  have hletters : (parts.map String.ofList).map String.toList = parts := by
    rw [List.map_map]
    exact List.map_id'' (fun p => String.toList_ofList) parts
  unfold joinParts joinedLength
  rw [filter_of_ne_nil h, length_intercalate_dash]
  cases hash with
  | none =>
    simp only [Option.toList_none, List.append_nil, List.length_map, hletters]
    cases parts with
    | nil => rfl
    | cons p rest =>
      simp only [List.length_cons]
      omega
  | some digest =>
    simp only [Option.toList_some, List.map_append, hletters, List.flatten_append,
      List.map_singleton, List.flatten_singleton, String.length_toList, List.length_append,
      List.length_map, List.length_singleton]
    omega

/-- The dash behind a part is counted also where nothing is left of the part. -/
theorem length_joinParts_le (hash : Option String) (parts : List (List Char)) :
    (joinParts parts hash).length ≤ joinedLength hash parts := by
  have hletters : (parts.filter fun p => !p.isEmpty).flatten = parts.flatten :=
    List.flatten_filter_not_isEmpty
  have hcount : (parts.filter fun p => !p.isEmpty).length ≤ parts.length :=
    List.length_filter_le _ _
  have hleft : ∀ p ∈ parts.filter (fun p => !p.isEmpty), p ≠ [] := by
    intro p hp
    simpa using (List.mem_filter.1 hp).2
  rw [← joinParts_filter, length_joinParts hleft]
  unfold joinedLength
  rw [hletters]
  cases hash with
  | none => exact Nat.sub_le_sub_right (Nat.add_le_add_left hcount _) 1
  | some digest => exact Nat.add_le_add_right (Nat.add_le_add_left hcount _) _

theorem joinParts_of_empty (h : ∀ p ∈ parts, p = []) : joinParts parts hash = hash.getD "" := by
  have hnone : parts.filter (fun p => !p.isEmpty) = [] := by
    rw [List.filter_eq_nil_iff]
    intro p hp
    simp [h p hp]
  unfold joinParts
  rw [hnone]
  cases hash <;> rfl

end

/-- A round on a name that is too long: the first of its longest parts loses its last letter and
the dashes before that. -/
inductive Cut (hash : Option String) (maxLength : ℕ) : List (List Char) → List (List Char) → Prop
  | round {front rear : List (List Char)} {p : List Char} (left : p ≠ [])
      (long : maxLength < joinedLength hash (front ++ p :: rear))
      (before : ∀ q ∈ front, q.length < p.length) (behind : ∀ q ∈ rear, q.length ≤ p.length) :
      Cut hash maxLength (front ++ p :: rear) (front ++ dropTrailing isDash p.dropLast :: rear)

section

variable {n : ℕ} {p : List Char} {parts : List (List Char)}

theorem exists_length_eq_longest (h : parts ≠ []) : ∃ p ∈ parts, p.length = longest parts := by
  induction parts with
  | nil => exact absurd rfl h
  | cons q rest ih =>
    rw [longest_cons]
    by_cases hq : longest rest ≤ q.length
    · exact ⟨q, List.mem_cons_self, (Nat.max_eq_left hq).symm⟩
    · have hrest : rest ≠ [] := by
        rintro rfl
        exact hq (Nat.zero_le _)
      obtain ⟨p, hp, hlength⟩ := ih hrest
      refine ⟨p, List.mem_cons_of_mem _ hp, ?_⟩
      rw [hlength, Nat.max_eq_right (Nat.le_of_not_le hq)]

theorem exists_shortenPart_eq (h : ∃ p ∈ parts, p.length = n) :
    ∃ front p rear, parts = front ++ p :: rear ∧ p.length = n ∧ (∀ q ∈ front, q.length ≠ n) ∧
      shortenPart n parts = front ++ dropTrailing isDash p.dropLast :: rear := by
  induction parts with
  | nil =>
    obtain ⟨p, hp, -⟩ := h
    cases hp
  | cons q rest ih =>
    by_cases hq : q.length = n
    · refine ⟨[], q, rest, rfl, hq, fun _ hmem => absurd hmem List.not_mem_nil, ?_⟩
      rw [shortenPart, if_pos hq]
      rfl
    · have hrest : ∃ p ∈ rest, p.length = n := by
        obtain ⟨p, hp, hlength⟩ := h
        rcases List.mem_cons.1 hp with rfl | hmem
        · exact absurd hlength hq
        · exact ⟨p, hmem, hlength⟩
      obtain ⟨front, p, rear, rfl, hlength, hfront, hshorter⟩ := ih hrest
      refine ⟨q :: front, p, rear, rfl, hlength, ?_, ?_⟩
      · intro r hr
        rcases List.mem_cons.1 hr with rfl | hmem
        · exact hq
        · exact hfront r hmem
      · rw [shortenPart, if_neg hq, hshorter]
        rfl

theorem shortenPart_of_empty (h : ∀ p ∈ parts, p = []) (n : ℕ) : shortenPart n parts = parts := by
  induction parts with
  | nil => rfl
  | cons p rest ih =>
    have hp : p = [] := h p List.mem_cons_self
    have hrest := ih fun q hq => h q (List.mem_cons_of_mem _ hq)
    unfold shortenPart
    rw [hrest, hp]
    split <;> rfl

end

section

variable {hash : Option String} {maxLength fuel : ℕ} {parts shorter : List (List Char)}

theorem cut_shortenPart (hlong : maxLength < joinedLength hash parts)
    (hleft : ∃ p ∈ parts, p ≠ []) :
    Cut hash maxLength parts (shortenPart (longest parts) parts) := by
  obtain ⟨left, hmem, hne⟩ := hleft
  obtain ⟨front, p, rear, hparts, hlength, hfront, hshorter⟩ :=
    exists_shortenPart_eq (exists_length_eq_longest (List.ne_nil_of_mem hmem))
  have hle : ∀ q ∈ parts, q.length ≤ p.length := by
    intro q hq
    rw [hlength]
    exact longest_le_iff.1 (Nat.le_refl _) q hq
  have hp : p ≠ [] := by
    rintro rfl
    exact hne (List.eq_nil_of_length_eq_zero (Nat.le_zero.1 (hle left hmem)))
  rw [hshorter]
  subst hparts
  refine .round hp hlong (fun q hq => ?_) fun q hq => ?_
  · have hqle := hle q (List.mem_append_left _ hq)
    have hqne := hfront q hq
    omega
  · exact hle q (List.mem_append_right _ (List.mem_cons_of_mem _ hq))

theorem Cut.length_flatten_lt (h : Cut hash maxLength parts shorter) :
    shorter.flatten.length < parts.flatten.length := by
  cases h with
  | @round front rear p left long before behind =>
    have hcut := length_dropTrailing_le isDash p.dropLast
    have hpos : 0 < p.length := List.length_pos_iff.2 left
    rw [List.length_dropLast] at hcut
    simp only [List.flatten_append, List.flatten_cons, List.length_append]
    omega

theorem fitParts_of_empty (h : ∀ p ∈ parts, p = []) :
    fitParts hash maxLength fuel parts = parts := by
  induction fuel with
  | zero => rfl
  | succ fuel ih =>
    unfold fitParts
    rw [shortenPart_of_empty h, ih, ite_self]

theorem fitParts_of_fits (h : joinedLength hash parts ≤ maxLength) :
    fitParts hash maxLength fuel parts = parts := by
  cases fuel with
  | zero => rfl
  | succ fuel => exact if_pos h

variable (hash maxLength) in
/-- The rounds are gone through to their end. -/
theorem fitParts_run (hfuel : parts.flatten.length ≤ fuel) :
    Relation.ReflTransGen (Cut hash maxLength) parts (fitParts hash maxLength fuel parts) ∧
      (joinedLength hash (fitParts hash maxLength fuel parts) ≤ maxLength ∨
        ∀ p ∈ fitParts hash maxLength fuel parts, p = []) := by
  induction fuel generalizing parts with
  | zero =>
    have hempty : parts.flatten = [] := List.eq_nil_of_length_eq_zero (Nat.le_zero.1 hfuel)
    exact ⟨.refl, Or.inr (List.flatten_eq_nil_iff.1 hempty)⟩
  | succ fuel ih =>
    by_cases hfits : joinedLength hash parts ≤ maxLength
    · rw [fitParts_of_fits hfits]
      exact ⟨.refl, Or.inl hfits⟩
    by_cases hempty : ∀ p ∈ parts, p = []
    · rw [fitParts_of_empty hempty]
      exact ⟨.refl, Or.inr hempty⟩
    · have hcut : Cut hash maxLength parts (shortenPart (longest parts) parts) :=
        cut_shortenPart (Nat.lt_of_not_le hfits) (by simpa using hempty)
      have hfewer : (shortenPart (longest parts) parts).flatten.length ≤ fuel :=
        Nat.le_of_lt_succ (Nat.lt_of_lt_of_le hcut.length_flatten_lt hfuel)
      obtain ⟨hrun, hend⟩ := ih hfewer
      unfold fitParts
      rw [if_neg hfits]
      exact ⟨.head hcut hrun, hend⟩

theorem not_cut (h : joinedLength hash parts ≤ maxLength ∨ ∀ p ∈ parts, p = [])
    (shorter : List (List Char)) : ¬ Cut hash maxLength parts shorter := by
  rintro ⟨left, long, before, behind⟩
  rcases h with hfits | hempty
  · exact absurd hfits (Nat.not_le.2 long)
  · exact left (hempty _ (List.mem_append_right _ List.mem_cons_self))

end

theorem cutPart_prefix (room : ℕ) (s : String) : cutPart room s <+: namePart s := by
  obtain ⟨dropped, htake, -⟩ := exists_append_dropTrailing isDash ((namePart s).take room)
  exact List.IsPrefix.trans ⟨dropped, htake.symm⟩ (List.take_prefix _ _)

theorem dropTrailing_dropLast_cutPart (room : ℕ) (s : String) :
    ∃ less, dropTrailing isDash (cutPart room s).dropLast = cutPart less s := by
  refine ⟨min ((cutPart room s).length - 1) room, ?_⟩
  rw [List.dropLast_eq_take]
  unfold cutPart
  rw [dropTrailing_take_dropTrailing, List.take_take]

theorem forall₂_replace {α β : Type} {R : α → β → Prop} {front rear : List α} {a b : α}
    {l : List β} (h : List.Forall₂ R (front ++ a :: rear) l) (hab : ∀ c, R a c → R b c) :
    List.Forall₂ R (front ++ b :: rear) l := by
  induction front generalizing l with
  | nil =>
    cases h with
    | cons hfirst hrest => exact .cons (hab _ hfirst) hrest
  | cons x front ih =>
    cases h with
    | cons hfirst hrest => exact .cons hfirst (ih hrest)

section

variable {hash : Option String} {maxLength : ℕ} {texts : List String}
  {parts kept : List (List Char)}

def CutFrom (texts : List String) (parts : List (List Char)) : Prop :=
  List.Forall₂ (fun p s => ∃ room, p = cutPart room s) parts texts

theorem cutFrom_map_namePart (texts : List String) : CutFrom texts (texts.map namePart) := by
  induction texts with
  | nil => exact .nil
  | cons s rest ih =>
    refine .cons ⟨(namePart s).length, ?_⟩ ih
    rw [cutPart, List.take_length, dropTrailing_namePart]

theorem CutFrom.step (h : CutFrom texts parts) (hcut : Cut hash maxLength parts kept) :
    CutFrom texts kept := by
  cases hcut with
  | round left long before behind =>
    refine forall₂_replace h ?_
    rintro s ⟨room, rfl⟩
    exact dropTrailing_dropLast_cutPart room s

theorem CutFrom.run (h : CutFrom texts parts)
    (hrun : Relation.ReflTransGen (Cut hash maxLength) parts kept) : CutFrom texts kept := by
  induction hrun with
  | refl => exact h
  | tail _ hcut ih => exact ih.step hcut

theorem CutFrom.prefix_namePart (h : CutFrom texts parts) :
    List.Forall₂ (fun p s => p <+: namePart s) parts texts := by
  refine List.Forall₂.imp ?_ h
  rintro p s ⟨room, rfl⟩
  exact cutPart_prefix room s

theorem CutFrom.exists_of_mem (h : CutFrom texts parts) {p : List Char} (hp : p ∈ parts) :
    ∃ s room, p = cutPart room s := by
  unfold CutFrom at h
  induction h with
  | nil => cases hp
  | @cons q s rest others hfirst _ ih =>
    rcases List.mem_cons.1 hp with rfl | hmem
    · exact ⟨s, hfirst⟩
    · exact ih hmem

theorem CutFrom.isDomainLabel (h : CutFrom texts parts) {p : List Char} (hp : p ∈ parts)
    (hne : p ≠ []) : isDomainLabel p = true := by
  obtain ⟨s, room, rfl⟩ := h.exists_of_mem hp
  refine isDomainLabel_cutPart (Nat.pos_of_ne_zero ?_) s
  rintro rfl
  exact hne rfl

end

section

variable {options : NameOptions} {hashed : List Json} {h : String}

theorem nameDigest_eq_some_iff :
    nameDigest options hashed = some h ↔
      hashed ≠ [] ∧ options.hashLength ≠ 0 ∧ hashValues hashed options.hashLength = h := by
  simp [nameDigest, and_assoc]

theorem isDomainLabel_of_nameDigest (hdigest : nameDigest options hashed = some h) :
    isDomainLabel h.toList = true := by
  obtain ⟨-, hlength, rfl⟩ := nameDigest_eq_some_iff.1 hdigest
  exact isDomainLabel_hashValues_of_pos hashed (Nat.pos_of_ne_zero hlength)

theorem length_of_nameDigest (hdigest : nameDigest options hashed = some h) :
    h.length = min options.hashLength 64 := by
  obtain ⟨-, -, rfl⟩ := nameDigest_eq_some_iff.1 hdigest
  exact length_shortHash (hashInput hashed) options.hashLength

end

section

variable {hash : Option String} {parts : List (List Char)}

theorem isDomainLabel_joinParts (hparts : ∀ p ∈ parts, p ≠ [] → isDomainLabel p = true)
    (hhash : ∀ h ∈ hash, isDomainLabel h.toList = true) :
    joinParts parts hash = "" ∨ isDomainLabel (joinParts parts hash).toList = true := by
  unfold joinParts
  by_cases hne : (parts.filter fun p => !p.isEmpty).map String.ofList ++ hash.toList = []
  · rw [hne]
    exact Or.inl rfl
  · refine Or.inr (isDomainLabel_intercalate hne fun text htext => ?_)
    rcases List.mem_append.1 htext with hpart | hdigest
    · obtain ⟨p, hp, rfl⟩ := List.mem_map.1 hpart
      obtain ⟨hmem, hleft⟩ := List.mem_filter.1 hp
      rw [String.toList_ofList]
      exact hparts p hmem (by simpa using hleft)
    · exact hhash text (Option.mem_toList.1 hdigest)

theorem joinParts_some (parts : List (List Char)) (h : String) :
    joinParts parts (some h) = h ∨ ∃ stem, joinParts parts (some h) = stem ++ "-" ++ h := by
  unfold joinParts
  rw [Option.toList_some]
  by_cases hne : (parts.filter fun p => !p.isEmpty).map String.ofList = []
  · rw [hne]
    exact Or.inl (String.intercalate_singleton ..)
  · refine Or.inr ⟨"-".intercalate ((parts.filter fun p => !p.isEmpty).map String.ofList), ?_⟩
    rw [String.intercalate_append_of_ne_nil hne (List.cons_ne_nil _ _),
      String.intercalate_singleton]

end

/-- The length that no cutting gets a name below. -/
def digestLength (options : NameOptions) (hashed : List Json) : ℕ :=
  ((nameDigest options hashed).map String.length).getD 0

theorem digestLength_le (options : NameOptions) (hashed : List Json) :
    digestLength options hashed ≤ options.hashLength := by
  unfold digestLength
  cases hdigest : nameDigest options hashed with
  | none => exact Nat.zero_le _
  | some h => exact Nat.le_trans (Nat.le_of_eq (length_of_nameDigest hdigest)) (Nat.min_le_left _ _)

section

variable (options : NameOptions) (parts : List String) (hashed : List Json)

theorem exists_cutFrom :
    ∃ kept, Relation.ReflTransGen (Cut (nameDigest options hashed) options.maxLength)
        (parts.map namePart) kept ∧
      (joinedLength (nameDigest options hashed) kept ≤ options.maxLength ∨ ∀ p ∈ kept, p = []) ∧
      CutFrom parts kept ∧
      derivedNameWith options parts hashed = joinParts kept (nameDigest options hashed) := by
  obtain ⟨hrun, hend⟩ := fitParts_run (nameDigest options hashed) options.maxLength
    (Nat.le_refl (parts.map namePart).flatten.length)
  exact ⟨_, hrun, hend, (cutFrom_map_namePart parts).run hrun,
    derivedNameWith_eq options parts hashed⟩

theorem isDomainLabel_derivedNameWith :
    derivedNameWith options parts hashed = "" ∨
      isDomainLabel (derivedNameWith options parts hashed).toList = true := by
  obtain ⟨kept, -, -, hcut, hname⟩ := exists_cutFrom options parts hashed
  rw [hname]
  exact isDomainLabel_joinParts (fun p => hcut.isDomainLabel)
    fun h hdigest => isDomainLabel_of_nameDigest hdigest

theorem length_derivedNameWith_le :
    (derivedNameWith options parts hashed).length ≤
      max options.maxLength (digestLength options hashed) := by
  obtain ⟨kept, -, hend, -, hname⟩ := exists_cutFrom options parts hashed
  rw [hname]
  rcases hend with hfits | hempty
  · exact Nat.le_trans (length_joinParts_le _ _) (Nat.le_trans hfits (Nat.le_max_left _ _))
  · rw [joinParts_of_empty hempty]
    unfold digestLength
    cases nameDigest options hashed with
    | none => exact Nat.zero_le _
    | some h => exact Nat.le_max_right _ _

theorem derivedNameWith_of_fits
    (h : (joinParts (parts.map namePart) (nameDigest options hashed)).length ≤ options.maxLength) :
    derivedNameWith options parts hashed =
      joinParts (parts.map namePart) (nameDigest options hashed) := by
  have hne : ∀ p ∈ parts.map namePart, p ≠ [] := by
    rintro p hp rfl
    obtain ⟨s, -, hs⟩ := List.mem_map.1 hp
    have hlabel := isDomainLabel_namePart s
    rw [hs] at hlabel
    cases hlabel
  rw [length_joinParts hne] at h
  rw [derivedNameWith_eq, fitParts_of_fits h]

end

/-- What a name made of parts and hashed inputs has to be like. -/
structure FittedName (options : NameOptions) (parts : List String) (hashed : List Json)
    (name : String) : Prop where
  /-- There is a last round, and the name is what it leaves of the parts. -/
  rounds : ∃ kept, Relation.ReflTransGen (Cut (nameDigest options hashed) options.maxLength)
      (parts.map namePart) kept ∧
    (∀ shorter, ¬ Cut (nameDigest options hashed) options.maxLength kept shorter) ∧
    List.Forall₂ (fun p s => p <+: namePart s) kept parts ∧
    name = joinParts kept (nameDigest options hashed)
  label : name = "" ∨ isDomainLabel name.toList = true
  length : name.length ≤ max options.maxLength (digestLength options hashed)
  digest : ∀ h ∈ nameDigest options hashed, h.length = min options.hashLength 64 ∧
    (name = h ∨ ∃ stem, name = stem ++ "-" ++ h)
  whole : (joinParts (parts.map namePart) (nameDigest options hashed)).length ≤
      options.maxLength →
    name = joinParts (parts.map namePart) (nameDigest options hashed)

/-- Whatever the parts, the inputs and the limit, a derived name is fitted: a label that ends in the
whole digest, within the limit unless the digest alone is longer, and uncut if it fits. -/
theorem derived_names_fitted (options : NameOptions) (parts : List String) (hashed : List Json) :
    FittedName options parts hashed (derivedNameWith options parts hashed) := by
  obtain ⟨kept, hrun, hend, hcut, hname⟩ := exists_cutFrom options parts hashed
  refine {
    rounds := ⟨kept, hrun, not_cut hend, hcut.prefix_namePart, hname⟩
    label := isDomainLabel_derivedNameWith options parts hashed
    length := length_derivedNameWith_le options parts hashed
    digest := fun h hdigest => ⟨length_of_nameDigest hdigest, ?_⟩
    whole := derivedNameWith_of_fits options parts hashed }
  have hsome : nameDigest options hashed = some h := hdigest
  rw [hname, hsome]
  exact joinParts_some kept h

/-- The dash that comes to stand at the cut is cut with it. -/
example : derivedNameWith ⟨0, 6⟩ ["abc-defghij", "x"] [] = "abc-x" := by decide +kernel

end InferenceReconciler
