import InferenceReconciler.Proofs.OverriddenRuntime
import InferenceReconciler.Proofs.SharedBodies
import InferenceReconciler.Proofs.TrimmedLists
import Mathlib.Data.List.Basic

/-!
# Names of derived templates

The name of a derived template ends in what tells its overrides and begins with so much of the
base as there is room for, with dashes for the dots of the base. The digest in it is one of the
overrides alone. So bases that read the same as far as there is room share the names of what is
derived from them, and with a name also the template; others never do, unless the digest fails to
tell two overrides apart.
-/

namespace InferenceReconciler

/-- Whether the letters are a label of a domain: small letters, digits and dashes, with no dash at
either end. -/
def isDomainLabel (l : List Char) : Bool :=
  l.all (fun c => isNameLetter c || isDash c) && l.head?.any isNameLetter &&
    l.getLast?.any isNameLetter

/-- Whether an object can have the name: labels of a domain with dots between them. -/
def isObjectName (name : String) : Bool :=
  name.length ≤ 253 && (name.toList.splitOn '.').all isDomainLabel

/-- What the letters of such a name are like. -/
structure NameLetters (l : List Char) : Prop where
  allowed : ∀ c ∈ l, isNameLetter c = true ∨ isDash c = true ∨ c = '.'
  first : ∃ c rest, l = c :: rest ∧ isNameLetter c = true
  last : ∃ front c, l = front ++ [c] ∧ isNameLetter c = true

theorem small_of_isNameLetter {c : Char} (h : isNameLetter c = true) :
    c.toNat < 128 ∧ c.toLower = c := by
  simp only [isNameLetter, Bool.or_eq_true, Bool.and_eq_true, decide_eq_true_eq, Char.le_def,
    UInt32.le_iff_toNat_le, Char.reduceVal, UInt32.reduceToNat] at h
  have hascii : c.val.toNat < 128 := by omega
  have hcapital : ¬ (c.val ≥ 'A'.val ∧ c.val ≤ 'Z'.val) := by
    simp only [ge_iff_le, UInt32.le_iff_toNat_le, Char.reduceVal, UInt32.reduceToNat]
    omega
  exact ⟨hascii, dif_neg hcapital⟩

theorem ne_dot_of_isNameLetter {c : Char} (h : isNameLetter c = true) : c ≠ '.' := by
  rintro rfl
  exact absurd h (by decide)

theorem isDash_of_isNameLetter {c : Char} (h : isNameLetter c = true) : isDash c = false := by
  apply decide_eq_false
  rintro rfl
  exact absurd h (by decide)

theorem isDomainLabel_iff {l : List Char} :
    isDomainLabel l = true ↔
      (∀ c ∈ l, isNameLetter c = true ∨ isDash c = true) ∧
        (∃ c rest, l = c :: rest ∧ isNameLetter c = true) ∧
        ∃ front c, l = front ++ [c] ∧ isNameLetter c = true := by
  simp only [isDomainLabel, Bool.and_eq_true, List.all_eq_true, Bool.or_eq_true,
    Option.any_eq_true, List.head?_eq_some_iff, List.getLast?_eq_some_iff, and_assoc]
  constructor
  · rintro ⟨hall, ⟨c, ⟨rest, hfirst⟩, hc⟩, d, ⟨front, hlast⟩, hd⟩
    exact ⟨hall, ⟨c, rest, hfirst, hc⟩, front, d, hlast, hd⟩
  · rintro ⟨hall, ⟨c, rest, hfirst, hc⟩, front, d, hlast, hd⟩
    exact ⟨hall, ⟨c, ⟨rest, hfirst⟩, hc⟩, d, ⟨front, hlast⟩, hd⟩

/-- Small letters, digits and marks of a class, with a letter or digit at either end. -/
structure Framed (mark : Char → Bool) (l : List Char) : Prop where
  allowed : ∀ c ∈ l, isNameLetter c = true ∨ mark c = true
  first : ∃ c rest, l = c :: rest ∧ isNameLetter c = true
  last : ∃ front c, l = front ++ [c] ∧ isNameLetter c = true

section

variable {mark : Char → Bool} {l : List Char}

theorem framed_dropTrailing {c : Char} {rest : List Char}
    (hall : ∀ d ∈ c :: rest, isNameLetter d = true ∨ mark d = true)
    (hc : isNameLetter c = true) (hmark : mark c = false) :
    Framed mark (dropTrailing mark (c :: rest)) := by
  have hcons := dropTrailing_cons_of_neg mark hmark rest
  have hkept : ∀ d ∈ dropTrailing mark (c :: rest), isNameLetter d = true ∨ mark d = true :=
    fun d hd => hall d (mem_of_mem_dropTrailing mark hd)
  obtain ⟨d, hd⟩ : ∃ d, (dropTrailing mark (c :: rest)).getLast? = some d := by
    rw [hcons]
    exact ⟨_, List.getLast?_cons⟩
  obtain ⟨front, hfront⟩ := List.getLast?_eq_some_iff.1 hd
  have hletter : isNameLetter d = true := by
    refine (hkept d (List.mem_of_getLast? hd)).resolve_right ?_
    rw [eq_false_of_getLast?_dropTrailing mark hd]
    exact Bool.false_ne_true
  exact ⟨hkept, ⟨c, _, hcons, hc⟩, front, d, hfront, hletter⟩

theorem framed_dropAround (hall : ∀ c ∈ l, isNameLetter c = true ∨ mark c = true) :
    dropAround mark l = [] ∨ Framed mark (dropAround mark l) := by
  unfold dropAround
  cases hdrop : l.dropWhile mark with
  | nil => exact .inl rfl
  | cons c rest =>
    have hkept : ∀ d ∈ c :: rest, isNameLetter d = true ∨ mark d = true :=
      fun d hd => hall d ((List.dropWhile_sublist mark).subset (hdrop ▸ hd))
    have hmark := eq_false_of_dropWhile_eq_cons mark hdrop
    have hc : isNameLetter c = true := by
      refine (hkept c List.mem_cons_self).resolve_right ?_
      rw [hmark]
      exact Bool.false_ne_true
    exact .inr (framed_dropTrailing hkept hc hmark)

theorem Framed.dropAround_eq (h : Framed mark l)
    (hmark : ∀ c, isNameLetter c = true → mark c = false) : dropAround mark l = l := by
  obtain ⟨c, rest, hcons, hc⟩ := h.first
  obtain ⟨front, d, hlast, hd⟩ := h.last
  refine (dropAround_eq_self_iff mark).2 ⟨fun a ha => ?_, fun a ha => ?_⟩
  · rw [hcons, List.head?_cons, Option.mem_some_iff] at ha
    exact ha ▸ hmark c hc
  · rw [hlast, List.getLast?_concat, Option.mem_some_iff] at ha
    exact ha ▸ hmark d hd

end

namespace NameLetters

variable {l l' : List Char}

theorem of_isDomainLabel (h : isDomainLabel l = true) : NameLetters l := by
  obtain ⟨hall, hfirst, hlast⟩ := isDomainLabel_iff.1 h
  exact ⟨fun c hc => (hall c hc).imp_right Or.inl, hfirst, hlast⟩

theorem append_dot (h : NameLetters l) (h' : NameLetters l') : NameLetters (l ++ ['.'] ++ l') := by
  refine ⟨fun e he => ?_, ?_, ?_⟩
  · simp only [List.mem_append, List.mem_singleton] at he
    rcases he with (he | rfl) | he
    · exact h.allowed e he
    · exact Or.inr (Or.inr rfl)
    · exact h'.allowed e he
  · obtain ⟨c, rest, rfl, hc⟩ := h.first
    exact ⟨c, rest ++ ['.'] ++ l', by simp, hc⟩
  · obtain ⟨front, c, rfl, hc⟩ := h'.last
    exact ⟨l ++ ['.'] ++ front, c, by simp, hc⟩

theorem of_intercalate {labels : List (List Char)} (hne : labels ≠ [])
    (h : ∀ label ∈ labels, isDomainLabel label = true) :
    NameLetters (['.'].intercalate labels) := by
  induction labels with
  | nil => exact absurd rfl hne
  | cons label rest ih =>
    have hlabel : NameLetters label := of_isDomainLabel (h label List.mem_cons_self)
    cases rest with
    | nil => rwa [List.intercalate_singleton]
    | cons next others =>
      rw [List.intercalate_cons_cons]
      exact hlabel.append_dot
        (ih (List.cons_ne_nil _ _) fun other hother => h other (List.mem_cons_of_mem _ hother))

theorem of_isObjectName {name : String} (h : isObjectName name = true) :
    NameLetters name.toList := by
  simp only [isObjectName, Bool.and_eq_true, List.all_eq_true] at h
  have hjoin : ['.'].intercalate (name.toList.splitOn '.') = name.toList :=
    List.intercalate_splitOn '.'
  rw [← hjoin]
  exact of_intercalate (List.splitOn_ne_nil _ _) h.2

theorem lowercase_eq {name : String} (h : NameLetters name.toList) : lowercase name = name := by
  apply lowercase_eq_self
  intro c hc
  rcases h.allowed c hc with hletter | hdash | rfl
  · exact small_of_isNameLetter hletter
  · cases of_decide_eq_true hdash
    decide
  · decide

end NameLetters

def dashForDot (c : Char) : Char := if c = '.' then '-' else c

/-- So much of a base as there is room for, with dashes for its dots and none at the end. -/
def keptBase (room : ℕ) (base : String) : List Char :=
  dropTrailing isDash ((base.toList.map dashForDot).take room)

theorem dropTrailing_take_keptBase {room n : ℕ} (h : room ≤ n) (base : String) :
    dropTrailing isDash ((keptBase n base).take room) = keptBase room base := by
  unfold keptBase
  rw [dropTrailing_take_dropTrailing, List.take_take, Nat.min_eq_left h]

namespace NameLetters

variable {l : List Char}

theorem map_dashUnlessName (h : NameLetters l) : l.map dashUnlessName = l.map dashForDot := by
  apply List.map_congr_left
  intro c hc
  unfold dashUnlessName dashForDot
  rcases h.allowed c hc with hletter | hdash | rfl
  · simp [hletter, ne_dot_of_isNameLetter hletter]
  · cases of_decide_eq_true hdash
    rfl
  · rfl

theorem map_dashForDot_eq (h : NameLetters l) :
    ∃ c rest, l.map dashForDot = c :: rest ∧ isDash c = false := by
  obtain ⟨c, rest, rfl, hc⟩ := h.first
  refine ⟨c, rest.map dashForDot, ?_, isDash_of_isNameLetter hc⟩
  rw [List.map_cons, dashForDot, if_neg (ne_dot_of_isNameLetter hc)]

/-- The label made of a name is the name as far as there is room in a label. -/
theorem dnsLabelLetters_eq {base : String} (h : NameLetters base.toList) :
    dnsLabelLetters base.toList = keptBase maxNameLength base := by
  obtain ⟨c, rest, hcons, hc⟩ := h.map_dashForDot_eq
  have hfirst : (base.toList.map dashForDot).dropWhile isDash = base.toList.map dashForDot := by
    rw [hcons]
    exact List.dropWhile_cons_of_neg (by simp [hc])
  unfold dnsLabelLetters dropAround
  rw [h.map_dashUnlessName, hfirst, dropTrailing_take_dropTrailing]
  rfl

theorem keptBase_ne_nil {base : String} (h : NameLetters base.toList) {room : ℕ}
    (hroom : 0 < room) : keptBase room base ≠ [] := by
  obtain ⟨c, rest, hcons, hc⟩ := h.map_dashForDot_eq
  obtain ⟨n, rfl⟩ : ∃ n, room = n + 1 := ⟨room - 1, by omega⟩
  unfold keptBase
  rw [hcons, List.take_succ_cons, dropTrailing_cons_of_neg isDash hc]
  exact List.cons_ne_nil _ _

theorem keptBase_of_le {base : String} (h : NameLetters base.toList) (hdot : '.' ∉ base.toList)
    {room : ℕ} (hroom : base.length ≤ room) : keptBase room base = base.toList := by
  have hmap : base.toList.map dashForDot = base.toList := by
    conv_rhs => rw [← List.map_id base.toList]
    apply List.map_congr_left
    intro c hc
    have hne : c ≠ '.' := fun heq => hdot (heq ▸ hc)
    exact if_neg hne
  unfold keptBase
  rw [hmap, List.take_of_length_le hroom]
  obtain ⟨front, c, hfront, hc⟩ := h.last
  rw [hfront, dropTrailing_eq_rdropWhile, List.rdropWhile_concat, isDash_of_isNameLetter hc]
  rfl

end NameLetters

theorem isDomainLabel_dropTrailing {l : List Char}
    (hall : ∀ c ∈ l, isNameLetter c = true ∨ isDash c = true)
    (hfirst : ∃ c rest, l = c :: rest ∧ isNameLetter c = true) :
    isDomainLabel (dropTrailing isDash l) = true := by
  obtain ⟨c, rest, rfl, hc⟩ := hfirst
  have hframed := framed_dropTrailing hall hc (isDash_of_isNameLetter hc)
  exact isDomainLabel_iff.2 ⟨hframed.allowed, hframed.first, hframed.last⟩

theorem isNameLetter_or_isDash_dashUnlessName (c : Char) :
    isNameLetter (dashUnlessName c) = true ∨ isDash (dashUnlessName c) = true := by
  unfold dashUnlessName
  split
  · rename_i hc
    exact Bool.or_eq_true_iff.1 hc
  · exact Or.inr rfl

theorem dnsLabelLetters_eq (s : List Char) :
    dnsLabelLetters s =
      dropTrailing isDash (((s.map dashUnlessName).dropWhile isDash).take maxNameLength) := by
  unfold dnsLabelLetters dropAround
  rw [dropTrailing_take_dropTrailing]

theorem isDomainLabel_dnsLabelLetters {s : List Char} (h : dnsLabelLetters s ≠ []) :
    isDomainLabel (dnsLabelLetters s) = true := by
  have hall : ∀ c ∈ (s.map dashUnlessName).dropWhile isDash,
      isNameLetter c = true ∨ isDash c = true := by
    intro c hc
    obtain ⟨d, -, rfl⟩ := List.mem_map.1 ((List.dropWhile_sublist isDash).subset hc)
    exact isNameLetter_or_isDash_dashUnlessName d
  rw [dnsLabelLetters_eq] at h ⊢
  cases hdrop : (s.map dashUnlessName).dropWhile isDash with
  | nil =>
    rw [hdrop] at h
    exact absurd rfl h
  | cons c rest =>
    rw [hdrop] at hall
    have hc : isNameLetter c = true := by
      refine (hall c List.mem_cons_self).resolve_right ?_
      rw [eq_false_of_dropWhile_eq_cons isDash hdrop]
      exact Bool.false_ne_true
    exact isDomainLabel_dropTrailing (fun d hd => hall d (List.mem_of_mem_take hd))
      ⟨c, rest.take (maxNameLength - 1), rfl, hc⟩

theorem isDomainLabel_namePart (s : String) : isDomainLabel (namePart s) = true := by
  unfold namePart
  split
  · decide
  · rename_i hne
    exact isDomainLabel_dnsLabelLetters fun hnil => hne hnil

theorem namePart_of_ne {s : String} (h : dnsLabel s ≠ "") : namePart s = (dnsLabel s).toList := by
  unfold namePart
  rw [toList_dnsLabel]
  split
  · rename_i hnil
    rw [← toList_dnsLabel] at hnil
    exact absurd (String.toList_inj.1 hnil) h
  · rfl

def cutPart (room : ℕ) (s : String) : List Char := dropTrailing isDash ((namePart s).take room)

theorem isDomainLabel_cutPart {room : ℕ} (h : 0 < room) (s : String) :
    isDomainLabel (cutPart room s) = true := by
  obtain ⟨hall, ⟨c, rest, hcons, hc⟩, -⟩ := isDomainLabel_iff.1 (isDomainLabel_namePart s)
  obtain ⟨n, rfl⟩ : ∃ n, room = n + 1 := ⟨room - 1, by omega⟩
  refine isDomainLabel_dropTrailing (fun d hd => hall d (List.mem_of_mem_take hd))
    ⟨c, rest.take n, ?_, hc⟩
  rw [hcons, List.take_succ_cons]

theorem cutPart_ne_nil {room : ℕ} (h : 0 < room) (s : String) : cutPart room s ≠ [] := by
  obtain ⟨-, ⟨c, rest, hcons, -⟩, -⟩ := isDomainLabel_iff.1 (isDomainLabel_cutPart h s)
  rw [hcons]
  exact List.cons_ne_nil c rest

theorem dropTrailing_namePart (s : String) : dropTrailing isDash (namePart s) = namePart s := by
  obtain ⟨-, -, front, c, hlast, hc⟩ := isDomainLabel_iff.1 (isDomainLabel_namePart s)
  rw [hlast, dropTrailing_eq_rdropWhile, List.rdropWhile_concat, isDash_of_isNameLetter hc]
  rfl

theorem longest_cons (p : List Char) (rest : List (List Char)) :
    longest (p :: rest) = max p.length (longest rest) := by
  unfold longest
  rw [List.map_cons, List.foldl_cons, Nat.max_comm, List.foldl_assoc]

theorem longest_le_iff {parts : List (List Char)} {n : ℕ} :
    longest parts ≤ n ↔ ∀ p ∈ parts, p.length ≤ n := by
  induction parts with
  | nil => exact ⟨fun _ p hp => absurd hp List.not_mem_nil, fun _ => Nat.zero_le n⟩
  | cons p rest ih => rw [longest_cons, Nat.max_le, ih, List.forall_mem_cons]

theorem fitParts_cons {hash : Option String} {maxLength room fuel : ℕ} {p : List Char}
    {rest : List (List Char)} (hrest : ∀ q ∈ rest, q.length ≤ room)
    (hroom : ∀ q : List Char, joinedLength hash (q :: rest) ≤ maxLength ↔ q.length ≤ room)
    (hp : dropTrailing isDash p = p) (hfuel : p.length ≤ fuel) :
    fitParts hash maxLength fuel (p :: rest) = dropTrailing isDash (p.take room) :: rest := by
  -- A step takes a letter of the first part and the dashes that it uncovers, so cutting a part that
  -- has no dash at its end to a number of letters is cutting what the step leaves of it.
  induction fuel generalizing p with
  | zero =>
    cases List.eq_nil_of_length_eq_zero (Nat.le_zero.1 hfuel)
    rw [List.take_nil, hp]
    rfl
  | succ fuel ih =>
    unfold fitParts
    by_cases hfits : p.length ≤ room
    · rw [if_pos ((hroom p).2 hfits), List.take_of_length_le hfits, hp]
    · have hlongest : longest (p :: rest) = p.length := by
        rw [longest_cons, Nat.max_eq_left]
        exact Nat.le_trans (longest_le_iff.2 hrest) (Nat.le_of_not_le hfits)
      have hshortened : shortenPart (longest (p :: rest)) (p :: rest) =
          dropTrailing isDash p.dropLast :: rest := by
        rw [hlongest, shortenPart, if_pos rfl]
      have hshorter : (dropTrailing isDash p.dropLast).length ≤ fuel := by
        have hlength := length_dropTrailing_le isDash p.dropLast
        rw [List.length_dropLast] at hlength
        omega
      have hdropped : dropTrailing isDash (dropTrailing isDash p.dropLast) =
          dropTrailing isDash p.dropLast := List.rdropWhile_idempotent isDash _
      rw [if_neg (mt (hroom p).1 hfits), hshortened, ih hdropped hshorter,
        dropTrailing_take_dropTrailing,
        List.dropLast_eq_take, List.take_take,
        Nat.min_eq_left (by omega)]

theorem length_hashValues (values : List Json) : (hashValues values 8).length = 8 :=
  length_shortHash (hashInput values) 8

theorem overrideSuffix_eq (o : TemplateOverrides) :
    overrideSuffix o =
      "-".intercalate (overrideFragments o) ++ "-" ++ hashValues [Wire.write o] 8 := by
  have hfragments : overrideFragments o ≠ [] := List.cons_ne_nil _ _
  unfold overrideSuffix
  rw [String.intercalate_append_of_ne_nil hfragments (List.cons_ne_nil _ _),
    String.intercalate_singleton]

theorem length_overrideSuffix (o : TemplateOverrides) :
    (overrideSuffix o).length = ("-".intercalate (overrideFragments o)).length + 9 := by
  rw [overrideSuffix_eq, String.length_append, String.length_append, length_hashValues]
  rfl

def derivedEnding (o : TemplateOverrides) : String :=
  if maxNameLength ≤ (overrideSuffix o).length + 1 then
    "ovr" ++ "-" ++ hashValues [Wire.write o] 8
  else overrideSuffix o

def roomForBase (o : TemplateOverrides) : ℕ := maxNameLength - ((derivedEnding o).length + 1)

section

variable {a b base : String} {o o' : TemplateOverrides}

theorem namePart_eq (h : NameLetters base.toList) :
    namePart base = keptBase maxNameLength base := by
  unfold namePart
  rw [h.lowercase_eq, h.dnsLabelLetters_eq]
  split
  · rename_i hnil
    exact absurd hnil (h.keptBase_ne_nil (by decide))
  · rfl

theorem derivedName_base (base : String) (hashed : Json) :
    derivedName [base, "ovr"] [hashed] =
      String.ofList (cutPart 50 base) ++ "-" ++ ("ovr" ++ "-" ++ hashValues [hashed] 8) := by
  have hovr : namePart "ovr" = "ovr".toList := by decide
  have hroom : ∀ q : List Char, joinedLength (some (hashValues [hashed] 8)) [q, "ovr".toList] ≤
      maxNameLength ↔ q.length ≤ 50 := by
    intro q
    have hmark : "ovr".toList.length = 3 := rfl
    simp only [joinedLength, List.flatten_cons, List.flatten_nil, List.append_nil,
      List.length_append, List.length_cons, List.length_nil, hmark, length_hashValues,
      maxNameLength]
    omega
  have hfitted := fitParts_cons (by decide) hroom (dropTrailing_namePart base)
    (Nat.le_add_right (namePart base).length "ovr".toList.length)
  have hparts : [base, "ovr"].map namePart = [namePart base, "ovr".toList] := by
    rw [List.map_cons, List.map_singleton, hovr]
  have hletters : [namePart base, "ovr".toList].flatten.length =
      (namePart base).length + "ovr".toList.length := by
    simp
  have hkept : [cutPart 50 base, "ovr".toList].filter (fun p => !p.isEmpty) =
      [cutPart 50 base, "ovr".toList] := by
    have hne : (cutPart 50 base).isEmpty = false :=
      List.isEmpty_eq_false_iff.2 (cutPart_ne_nil (by decide) base)
    rw [List.filter_cons_of_pos (by rw [hne]; rfl)]
    rfl
  have hname : derivedName [base, "ovr"] [hashed] =
      "-".intercalate ((([cutPart 50 base, "ovr".toList].filter fun p => !p.isEmpty).map
        String.ofList) ++ [hashValues [hashed] 8]) := by
    unfold cutPart
    rw [← hfitted, ← hletters, ← hparts]
    rfl
  rw [hname, hkept]
  change String.ofList (cutPart 50 base) ++ "-" ++ "ovr" ++ "-" ++ hashValues [hashed] 8 = _
  simp only [String.append_assoc]

/-- What tells the overrides stands behind what is left of the base. Only a base of which nothing
legal is left leaves it alone. -/
theorem derivedTemplateName_cases (base : String) (ho : o.isEmpty = false) :
    dnsLabel base = "" ∧ derivedTemplateName base (some o) = derivedEnding o ∨
      derivedTemplateName base (some o) =
        String.ofList (cutPart (roomForBase o) base) ++ "-" ++ derivedEnding o := by
  unfold derivedTemplateName roomForBase derivedEnding
  simp only [Option.filter_some, ho, Bool.not_false, if_true]
  by_cases hlong : maxNameLength ≤ (overrideSuffix o).length + 1
  · have hroom :
        maxNameLength - (("ovr" ++ "-" ++ hashValues [Wire.write o] 8).length + 1) = 50 := by
      rw [String.length_append, length_hashValues]
      rfl
    rw [if_pos hlong, if_pos hlong, hroom]
    exact Or.inr (derivedName_base base _)
  · rw [if_neg hlong, if_neg hlong]
    by_cases hempty : dnsLabel base = ""
    · refine Or.inl ⟨hempty, ?_⟩
      rw [hempty, String.toList_empty, List.take_nil, dropTrailing_nil]
    · refine Or.inr ?_
      rw [← namePart_of_ne hempty]
      split
      · rename_i hnil
        exact absurd hnil (cutPart_ne_nil (by omega) base)
      · rfl

theorem derivedTemplateName_eq (h : NameLetters base.toList) (ho : o.isEmpty = false) :
    derivedTemplateName base (some o) =
      String.ofList (keptBase (roomForBase o) base) ++ "-" ++ derivedEnding o := by
  have hkept : cutPart (roomForBase o) base = keptBase (roomForBase o) base := by
    unfold cutPart
    rw [namePart_eq h]
    exact dropTrailing_take_keptBase (Nat.sub_le _ _) base
  rcases derivedTemplateName_cases base ho with ⟨hempty, -⟩ | hname
  · have hlabel : dnsLabelLetters base.toList = [] := by
      rw [← h.lowercase_eq, ← toList_dnsLabel, hempty]
      rfl
    rw [h.dnsLabelLetters_eq] at hlabel
    exact absurd hlabel (h.keptBase_ne_nil (by decide))
  · rw [hname, hkept]

/-- A derived name tells its overrides, and of its base what is kept of it. -/
theorem derivedTemplateName_eq_iff (ha : NameLetters a.toList) (hb : NameLetters b.toList)
    (ho : o.isEmpty = false) (ho' : o'.isEmpty = false)
    (hapart : ¬ DigestsCollide 8 [Wire.write o] [Wire.write o']) :
    derivedTemplateName a (some o) = derivedTemplateName b (some o') ↔
      o = o' ∧ keptBase (roomForBase o) a = keptBase (roomForBase o) b := by
  constructor
  · intro hname
    have hsame : o = o' := (overrides_eq_or_collide ho ho' hname).resolve_right hapart
    subst hsame
    rw [derivedTemplateName_eq ha ho, derivedTemplateName_eq hb ho, ← String.toList_inj] at hname
    simp only [String.toList_append, String.toList_ofList] at hname
    exact ⟨rfl, List.append_cancel_right (List.append_cancel_right hname)⟩
  · rintro ⟨rfl, hkept⟩
    rw [derivedTemplateName_eq ha ho, derivedTemplateName_eq hb ho, hkept]

theorem resolveBase_eq_resolved_iff {record t : TemplateRecord} {templates : List TemplateRecord}
    {ofNamespace : String} (hunsatisfied : satisfies record.spec o = false)
    (hfound : findNamespaced t.name ofNamespace templates = some t) :
    resolveBase record (some o) templates ofNamespace = .resolved t ↔
      derivedTemplateName record.name (some o) = t.name := by
  constructor
  · intro h
    cases resolveBase_eq_resolved h with
    | itself fits => exact absurd (hunsatisfied.symm.trans fits) Bool.false_ne_true
    | derived o' t asked found =>
      cases asked
      exact (scope_and_name_of_findNamespaced found).2.symm
  · intro hname
    unfold resolveBase
    dsimp only
    rw [hunsatisfied, hname, hfound]
    rfl

end

section

variable {a b : TemplateRecord} {o o' : TemplateOverrides}

/-- Two bases share the name of what is derived from them exactly if the overrides are the same
and so is what is kept of the bases. Exactly then the one gets what was derived from the other.
Bases without dots that are kept whole never do. -/
theorem derived_names_shared_iff (ha : isObjectName a.name = true) (hb : isObjectName b.name = true)
    (ho : o.isEmpty = false) (ho' : o'.isEmpty = false)
    (hapart : ¬ DigestsCollide 8 [Wire.write o] [Wire.write o']) :
    (derivedTemplateName a.name (some o) = derivedTemplateName b.name (some o') ↔
        o = o' ∧ keptBase (roomForBase o) a.name = keptBase (roomForBase o) b.name) ∧
      (∀ t templates ofNamespace, satisfies a.spec o = false → DerivedRecord b o' ofNamespace t →
        findNamespaced t.name ofNamespace templates = some t →
          (resolveBase a (some o) templates ofNamespace = .resolved t ↔
            o = o' ∧ keptBase (roomForBase o) a.name = keptBase (roomForBase o) b.name)) ∧
      (a.name ≠ b.name → '.' ∉ a.name.toList → '.' ∉ b.name.toList →
        a.name.length ≤ roomForBase o → b.name.length ≤ roomForBase o →
          derivedTemplateName a.name (some o) ≠ derivedTemplateName b.name (some o')) := by
  have hlettersA := NameLetters.of_isObjectName ha
  have hlettersB := NameLetters.of_isObjectName hb
  have hiff := derivedTemplateName_eq_iff hlettersA hlettersB ho ho' hapart
  refine ⟨hiff, fun t templates ofNamespace hunsatisfied hderived hfound => ?_,
    fun hne hdotA hdotB hroomA hroomB hname => ?_⟩
  · rw [resolveBase_eq_resolved_iff hunsatisfied hfound, hderived.name]
    exact hiff
  · obtain ⟨-, hkept⟩ := hiff.1 hname
    rw [hlettersA.keptBase_of_le hdotA hroomA, hlettersB.keptBase_of_le hdotB hroomB] at hkept
    exact hne (String.toList_inj.1 hkept)

end

def templateNamed (name : String) : TemplateRecord :=
  .ofObject .cluster { cachedTemplate with metadata := { Metadata.empty with name := some name } }

def arrivedTemplate (base : TemplateRecord) (o : TemplateOverrides) : TemplateRecord :=
  .ofObject .namespaced ((derivedTemplate base o "default").arrived (some "d1") none)

theorem findNamespaced_arrivedTemplate (base : TemplateRecord) (o : TemplateOverrides) :
    findNamespaced (arrivedTemplate base o).name "default" [arrivedTemplate base o] =
      some (arrivedTemplate base o) :=
  @findNamespaced_arrived [] [] (arrivedTemplate base o) "default" rfl rfl rfl

theorem roomForBase_fourGpus : roomForBase fourGpus = 38 := by
  have hfragments : overrideFragments fourGpus = ["ovr", "mi300x", "4gpu"] := by decide +kernel
  have hlength : (overrideSuffix fourGpus).length = 24 := by
    rw [length_overrideSuffix, hfragments]
    rfl
  have hending : derivedEnding fourGpus = overrideSuffix fourGpus := by
    unfold derivedEnding
    rw [hlength]
    rfl
  unfold roomForBase
  rw [hending, hlength]
  rfl

/-- Other bases are told apart, and what was derived from them is not taken. -/
theorem slow_not_taken_for_fast :
    derivedTemplateName "fast" (some fourGpus) ≠ derivedTemplateName "slow" (some fourGpus) ∧
      resolveBase (templateNamed "fast") (some fourGpus)
          [arrivedTemplate (templateNamed "slow") fourGpus] "default" ≠
        .resolved (arrivedTemplate (templateNamed "slow") fourGpus) := by
  have hroom := roomForBase_fourGpus
  obtain ⟨hname, htaken, -⟩ := @derived_names_shared_iff (templateNamed "fast")
    (templateNamed "slow") fourGpus fourGpus (by decide +kernel) (by decide +kernel) rfl rfl
    fun h => h.different rfl
  have hkept : ¬ (fourGpus = fourGpus ∧
      keptBase (roomForBase fourGpus) (templateNamed "fast").name =
        keptBase (roomForBase fourGpus) (templateNamed "slow").name) := by
    rw [hroom]
    decide +kernel
  exact ⟨fun h => hkept (hname.1 h), fun h => hkept ((htaken _ _ _ (by decide +kernel)
    (derivedRecord_arrived _ fourGpus "default" _ _)
    (findNamespaced_arrivedTemplate _ fourGpus)).1 h)⟩

/-- A dash for a dot makes another name of an object, and so does what stands behind the
thirty-eighth letter. Names of derived templates show neither, and the base with the dot gets the
template that was derived from the one with the dash. -/
theorem derived_name_shared_by_bases :
    (isObjectName "fast.v1" = true ∧ isObjectName "fast-v1" = true ∧
        derivedTemplateName "fast.v1" (some fourGpus) =
          derivedTemplateName "fast-v1" (some fourGpus) ∧
        resolveBase (templateNamed "fast.v1") (some fourGpus)
            [arrivedTemplate (templateNamed "fast-v1") fourGpus] "default" =
          .resolved (arrivedTemplate (templateNamed "fast-v1") fourGpus)) ∧
      isObjectName "meta-llama-3-1-405b-instruct-mi300x-fp8-latency" = true ∧
        isObjectName "meta-llama-3-1-405b-instruct-mi300x-fp8-throughput" = true ∧
        derivedTemplateName "meta-llama-3-1-405b-instruct-mi300x-fp8-latency" (some fourGpus) =
          derivedTemplateName "meta-llama-3-1-405b-instruct-mi300x-fp8-throughput"
            (some fourGpus) := by
  have hshared : ∀ x y, isObjectName x = true → isObjectName y = true →
      keptBase 38 x = keptBase 38 y →
        derivedTemplateName x (some fourGpus) = derivedTemplateName y (some fourGpus) := by
    intro x y hx hy hkept
    rw [derivedTemplateName_eq (.of_isObjectName hx) rfl,
      derivedTemplateName_eq (.of_isObjectName hy) rfl, roomForBase_fourGpus, hkept]
  have hdotted : isObjectName "fast.v1" = true := by decide +kernel
  have hdashed : isObjectName "fast-v1" = true := by decide +kernel
  have hname := hshared _ _ hdotted hdashed (by decide +kernel)
  refine ⟨⟨hdotted, hdashed, hname, ?_⟩, by decide +kernel, by decide +kernel,
    hshared _ _ (by decide +kernel) (by decide +kernel) (by decide +kernel)⟩
  have harrived : (arrivedTemplate (templateNamed "fast-v1") fourGpus).name =
      derivedTemplateName "fast-v1" (some fourGpus) :=
    displayName_derivedTemplate (templateNamed "fast-v1") fourGpus "default"
  rw [resolveBase_eq_resolved_iff (by decide +kernel) (findNamespaced_arrivedTemplate _ _),
    harrived]
  exact hname

end InferenceReconciler
