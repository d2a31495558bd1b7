import InferenceReconciler.Proofs.DerivedNames

/-!
# Legal names of derived templates

Whatever the base and the overrides are called, the name of a derived template is one that an
object can have: a label of a domain. The digest of the overrides stands whole at its end, and the
mark of a derived template before it, whether the overrides are short enough to be read or are only
hashed. Labels that are joined by a dash are a label again, so it is enough to look at the parts.
-/

namespace InferenceReconciler

section

variable {a b l : List Char}

theorem isDomainLabel_append_dash (ha : isDomainLabel a = true) (hb : isDomainLabel b = true) :
    isDomainLabel (a ++ '-' :: b) = true := by
  obtain ⟨halla, ⟨c, rest, rfl, hc⟩, -⟩ := isDomainLabel_iff.1 ha
  obtain ⟨hallb, -, front, d, rfl, hd⟩ := isDomainLabel_iff.1 hb
  refine isDomainLabel_iff.2 ⟨fun e he => ?_, ⟨c, rest ++ '-' :: (front ++ [d]), rfl, hc⟩,
    ⟨c :: rest ++ '-' :: front, d, by simp, hd⟩⟩
  rcases List.mem_append.1 he with he | he
  · exact halla e he
  · rcases List.mem_cons.1 he with rfl | he
    · exact Or.inr rfl
    · exact hallb e he

theorem isDomainLabel_of_letters (hne : l ≠ []) (h : ∀ c ∈ l, isNameLetter c = true) :
    isDomainLabel l = true := by
  have hlast := List.dropLast_append_getLast hne
  obtain ⟨c, rest, rfl⟩ := List.exists_cons_of_ne_nil hne
  exact isDomainLabel_iff.2 ⟨fun d hd => Or.inl (h d hd), ⟨c, rest, rfl, h c List.mem_cons_self⟩,
    ⟨_, _, hlast.symm, h _ (List.getLast_mem hne)⟩⟩

theorem isDomainLabel_intercalate {parts : List String} (hne : parts ≠ [])
    (h : ∀ part ∈ parts, isDomainLabel part.toList = true) :
    isDomainLabel ("-".intercalate parts).toList = true := by
  induction parts with
  | nil => exact absurd rfl hne
  | cons part rest ih =>
    have hpart : isDomainLabel part.toList = true := h part List.mem_cons_self
    cases rest with
    | nil => rwa [String.intercalate_singleton]
    | cons next others =>
      have hrest := ih (List.cons_ne_nil _ _)
        fun other hother => h other (List.mem_cons_of_mem _ hother)
      have hlabel := isDomainLabel_append_dash hpart hrest
      rw [String.intercalate_cons_cons]
      simpa using hlabel

end

theorem isNameLetter_of_isDigit {c : Char} (h : c.isDigit = true) : isNameLetter c = true := by
  simp only [Char.isDigit, Bool.and_eq_true, decide_eq_true_eq] at h
  simp only [isNameLetter, Bool.or_eq_true, Bool.and_eq_true, decide_eq_true_eq]
  exact Or.inr h

theorem isNameLetter_of_mem_hexDigest {message : List UInt8} {c : Char}
    (h : c ∈ Sha256.hexDigest message) : isNameLetter c = true := by
  have hdigit : ∀ k < 16, isNameLetter (Nat.digitChar k) = true := by decide
  obtain ⟨w, -, hw⟩ := List.mem_flatMap.1 h
  obtain ⟨i, -, rfl⟩ := List.mem_map.1 hw
  exact hdigit _ (Nat.mod_lt _ (by decide))

theorem isDomainLabel_hashValues_of_pos (values : List Json) {length : ℕ} (h : 0 < length) :
    isDomainLabel (hashValues values length).toList = true := by
  have hlength : (hashValues values length).toList.length = min length 64 :=
    length_shortHash (hashInput values) length
  refine isDomainLabel_of_letters (fun hnil => ?_) fun c hc => ?_
  · rw [hnil, List.length_nil] at hlength
    omega
  · unfold hashValues shortHash at hc
    rw [String.toList_ofList] at hc
    exact isNameLetter_of_mem_hexDigest (List.mem_of_mem_take hc)

theorem isDomainLabel_hashValues (values : List Json) :
    isDomainLabel (hashValues values 8).toList = true :=
  isDomainLabel_hashValues_of_pos values (by decide)

theorem isDomainLabel_gpuCount (n : Nat) : isDomainLabel s!"{n}gpu".toList = true := by
  have hletters : s!"{n}gpu".toList = Nat.toDigits 10 n ++ "gpu".toList := by
    simp [toString, Nat.repr]
  rw [hletters]
  refine isDomainLabel_of_letters (by simp) fun c hc => ?_
  rcases List.mem_append.1 hc with hc | hc
  · exact isNameLetter_of_isDigit (Nat.isDigit_of_mem_toDigits (by decide) (by decide) hc)
  · exact List.all_eq_true.1 (by decide : "gpu".toList.all isNameLetter = true) c hc

theorem isDomainLabel_dnsLabel {s : String} (h : dnsLabel s ≠ "") :
    isDomainLabel (dnsLabel s).toList = true := by
  rw [← namePart_of_ne h]
  exact isDomainLabel_namePart s

theorem isDomainLabel_of_mem_overrideFragments {o : TemplateOverrides} {fragment : String}
    (h : fragment ∈ overrideFragments o) : isDomainLabel fragment.toList = true := by
  have hlabel : ∀ field : Option String, fragment ∈ (field.map dnsLabel).toList → fragment ≠ "" →
      isDomainLabel fragment.toList = true := by
    intro field hfield hne
    obtain ⟨s, -, rfl⟩ := Option.map_eq_some_iff.1 (Option.mem_toList.1 hfield)
    exact isDomainLabel_dnsLabel hne
  unfold overrideFragments at h
  rcases List.mem_cons.1 h with rfl | h
  · decide
  · simp only [List.mem_filter, List.mem_append, Bool.not_eq_true', String.isEmpty_eq_false_iff]
      at h
    obtain ⟨(hgpu | hprecision) | hmetric, hne⟩ := h
    · cases hselector : o.gpuSelector with
      | none =>
        rw [hselector] at hgpu
        cases hgpu
      | some g =>
        rw [hselector] at hgpu
        rcases List.mem_append.1 hgpu with hmodel | hcount
        · exact hlabel _ hmodel hne
        · obtain ⟨n, -, rfl⟩ := Option.map_eq_some_iff.1 (Option.mem_toList.1 hcount)
          exact isDomainLabel_gpuCount n.toNat
    · exact hlabel _ hprecision hne
    · exact hlabel _ hmetric hne

section

variable (o : TemplateOverrides)

theorem isDomainLabel_derivedEnding : isDomainLabel (derivedEnding o).toList = true := by
  have hhash := isDomainLabel_hashValues [Wire.write o]
  unfold derivedEnding
  split
  · have hovr : isDomainLabel "ovr".toList = true := by decide
    simpa using isDomainLabel_append_dash hovr hhash
  · refine isDomainLabel_intercalate (by simp) fun part hpart => ?_
    rcases List.mem_append.1 hpart with hfragment | hlast
    · exact isDomainLabel_of_mem_overrideFragments hfragment
    · rw [List.mem_singleton.1 hlast]
      exact hhash

theorem length_derivedEnding_lt : (derivedEnding o).length + 1 < maxNameLength := by
  unfold derivedEnding
  split
  · rw [String.length_append, length_hashValues]
    decide
  · omega

end

def nameSegments (name : String) : List (List Char) := name.toList.splitOn '-'

theorem nameSegments_append_dash (a b : String) :
    nameSegments (a ++ "-" ++ b) = nameSegments a ++ nameSegments b := by
  have hletters : (a ++ "-" ++ b).toList = a.toList ++ '-' :: b.toList := by simp
  unfold nameSegments
  rw [hletters]
  simp only [List.splitOn_eq_splitOnP]
  exact List.splitOnP_append_cons _ _ (beq_self_eq_true '-')

theorem mem_nameSegments_intercalate (first : String) (rest : List String)
    (h : '-' ∉ first.toList) : first.toList ∈ nameSegments ("-".intercalate (first :: rest)) := by
  have hfirst : nameSegments first = [first.toList] := by
    have hsplit : ((['-'] : List Char).intercalate [first.toList]).splitOn '-' = [first.toList] :=
      List.splitOn_intercalate '-' (by simpa using h) (List.cons_ne_nil _ _)
    rwa [List.intercalate_singleton] at hsplit
  cases rest with
  | nil =>
    rw [String.intercalate_singleton, hfirst]
    exact List.mem_singleton_self _
  | cons next others =>
    rw [String.intercalate_cons_cons, nameSegments_append_dash, hfirst]
    exact List.mem_append_left _ (List.mem_singleton_self _)

theorem exists_derivedEnding_eq (o : TemplateOverrides) :
    ∃ mark, derivedEnding o = mark ++ "-" ++ hashValues [Wire.write o] 8 ∧
      "ovr".toList ∈ nameSegments mark := by
  unfold derivedEnding
  split
  · exact ⟨"ovr", rfl, by decide⟩
  · exact ⟨"-".intercalate (overrideFragments o), overrideSuffix_eq o,
      mem_nameSegments_intercalate _ _ (by decide)⟩

section

variable {o : TemplateOverrides} (base : String)

theorem isDomainLabel_derivedTemplateName (h : o.isEmpty = false) :
    isDomainLabel (derivedTemplateName base (some o)).toList = true := by
  have hending := isDomainLabel_derivedEnding o
  have hroom := length_derivedEnding_lt o
  rcases derivedTemplateName_cases base h with ⟨-, hname⟩ | hname
  · rw [hname]
    exact hending
  · rw [hname]
    have hcut : isDomainLabel (cutPart (roomForBase o) base) = true :=
      isDomainLabel_cutPart (by unfold roomForBase; omega) base
    simpa using isDomainLabel_append_dash hcut hending

theorem length_derivedTemplateName_le (h : o.isEmpty = false) :
    (derivedTemplateName base (some o)).length ≤ maxNameLength := by
  have hroom := length_derivedEnding_lt o
  rcases derivedTemplateName_cases base h with ⟨-, hname⟩ | hname
  · rw [hname]
    omega
  · have hcut : (cutPart (roomForBase o) base).length ≤ roomForBase o :=
      Nat.le_trans (length_dropTrailing_le isDash _) (List.length_take_le _ _)
    have hfull : roomForBase o + 1 + (derivedEnding o).length = maxNameLength := by
      unfold roomForBase
      omega
    have hdash : "-".length = 1 := rfl
    rw [hname, String.length_append, String.length_append, String.length_ofList, hdash]
    omega

/-- The digest is whole at the end of a derived name, and its mark stands before it. -/
theorem exists_derivedTemplateName_eq (h : o.isEmpty = false) :
    ∃ stem, derivedTemplateName base (some o) = stem ++ "-" ++ hashValues [Wire.write o] 8 ∧
      "ovr".toList ∈ nameSegments stem := by
  obtain ⟨mark, hending, hmark⟩ := exists_derivedEnding_eq o
  rcases derivedTemplateName_cases base h with ⟨-, hname⟩ | hname
  · exact ⟨mark, hname.trans hending, hmark⟩
  · refine ⟨String.ofList (cutPart (roomForBase o) base) ++ "-" ++ mark, ?_, ?_⟩
    · rw [hname, hending]
      simp only [String.append_assoc]
    · rw [nameSegments_append_dash]
      exact List.mem_append_right _ hmark

end

/-- A name derived for overrides that ask for something is a label of at most sixty-three
characters, which ends in a dash and the whole digest of the overrides and has its mark among the
segments before. Without such overrides the name is that of the base. -/
theorem derived_names_legal (base : String) :
    (∀ o : TemplateOverrides, o.isEmpty = false →
      isDomainLabel (derivedTemplateName base (some o)).toList = true ∧
        (derivedTemplateName base (some o)).length ≤ 63 ∧
        (hashValues [Wire.write o] 8).length = 8 ∧
        ∃ stem, derivedTemplateName base (some o) =
            stem ++ "-" ++ hashValues [Wire.write o] 8 ∧
          "ovr".toList ∈ nameSegments stem) ∧
      ∀ overrides : Option TemplateOverrides, overrides.all TemplateOverrides.isEmpty = true →
        derivedTemplateName base overrides = base := by
  refine ⟨fun o ho => ⟨isDomainLabel_derivedTemplateName base ho,
    length_derivedTemplateName_le base ho, length_hashValues _,
    exists_derivedTemplateName_eq base ho⟩, fun overrides hempty => ?_⟩
  have hnone : overrides.filter (fun o => !o.isEmpty) = none := by
    cases overrides with
    | none => rfl
    | some o =>
      have ho : o.isEmpty = true := hempty
      rw [Option.filter_some, ho]
      rfl
  unfold derivedTemplateName
  rw [hnone]

/-- Overrides for a metric of forty-nine letters, one too many to leave room for a base. -/
def longMetric : TemplateOverrides := ⟨some (String.ofList (List.replicate 49 'm')), none, none⟩

theorem hashed_overrides_named :
    longMetric.isEmpty = false ∧ maxNameLength ≤ (overrideSuffix longMetric).length + 1 ∧
      isDomainLabel (derivedTemplateName "-Fast/V1" (some longMetric)).toList = true ∧
      (derivedTemplateName "-Fast/V1" (some longMetric)).length ≤ 63 ∧
      (∃ stem, derivedTemplateName "-Fast/V1" (some longMetric) =
          stem ++ "-" ++ hashValues [Wire.write longMetric] 8 ∧
        "ovr".toList ∈ nameSegments stem) ∧
      derivedTemplateName "-Fast/V1" (some ⟨none, none, some default⟩) = "-Fast/V1" := by
  have hlong : maxNameLength ≤ (overrideSuffix longMetric).length + 1 := by
    have hfragments : overrideFragments longMetric =
        ["ovr", String.ofList (List.replicate 49 'm')] := by decide +kernel
    rw [length_overrideSuffix, hfragments]
    decide
  obtain ⟨hderived, hplain⟩ := derived_names_legal "-Fast/V1"
  obtain ⟨hlabel, hlength, -, hstem⟩ := hderived longMetric rfl
  exact ⟨rfl, hlong, hlabel, hlength, hstem, hplain (some ⟨none, none, some default⟩) rfl⟩

end InferenceReconciler
