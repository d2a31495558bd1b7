import InferenceReconciler.Proofs.DerivedNames

/-!
# Segments of paths

A path falls into pieces between slashes, and what is left of a piece once it is made a label is a
segment, unless nothing is left. Blanks and slashes at the ends of a path change no segment. No
segment is longer than its piece: a character of `n` bytes becomes at most `n` small letters, and of
these each becomes one byte.
-/

namespace InferenceReconciler

theorem splitAll_eq_splitOn (c : Char) (l : List Char) : splitAll c l = l.splitOn c := by
  induction l with
  | nil => rfl
  | cons x rest ih =>
    rw [splitAll, ih, List.splitOn_eq_splitOnP, List.splitOn_eq_splitOnP,
      List.splitOnP_cons_eq_if_modifyHead]
    by_cases hx : x = c
    · simp [hx]
    · have hne : (x == c) = false := by simpa using hx
      rw [if_neg hx, hne, if_neg Bool.false_ne_true]
      cases hrest : rest.splitOnP (fun y => y == c) with
      | nil => exact absurd hrest (List.splitOnP_ne_nil _ _)
      | cons piece pieces => rfl

theorem splitAll_append_cons (c : Char) (a b : List Char) :
    splitAll c (a ++ c :: b) = splitAll c a ++ splitAll c b := by
  simp only [splitAll_eq_splitOn, List.splitOn_eq_splitOnP]
  exact List.splitOnP_append_cons a b (beq_self_eq_true c)

theorem splitAll_cons_of_ne {c x : Char} (h : x ≠ c) (rest : List Char) :
    ∃ piece pieces, splitAll c rest = piece :: pieces ∧
      splitAll c (x :: rest) = (x :: piece) :: pieces := by
  have hne : splitAll c rest ≠ [] := splitAll_eq_splitOn c rest ▸ List.splitOn_ne_nil c rest
  obtain ⟨piece, pieces, hrest⟩ := List.exists_cons_of_ne_nil hne
  refine ⟨piece, pieces, hrest, ?_⟩
  rw [splitAll, if_neg h, hrest]

theorem flatMap_splitAll (c : Char) (l : List Char) :
    (splitAll c l).flatMap (fun piece => c :: piece) = c :: l := by
  induction l with
  | nil => rfl
  | cons x rest ih =>
    by_cases hx : x = c
    · rw [splitAll, if_pos hx, List.flatMap_cons, ih, hx]
      rfl
    · obtain ⟨piece, pieces, hrest, hcons⟩ := splitAll_cons_of_ne hx rest
      rw [hrest, List.flatMap_cons, List.cons_append, List.cons.injEq] at ih
      rw [hcons, List.flatMap_cons, List.cons_append, List.cons_append, ih.2]

theorem splitAll_append_of_not_mem {c : Char} {a l first : List Char} {pieces : List (List Char)}
    (ha : c ∉ a) (hl : splitAll c l = first :: pieces) :
    splitAll c (a ++ l) = (a ++ first) :: pieces := by
  induction a with
  | nil => exact hl
  | cons x rest ih =>
    have hx : x ≠ c := fun heq => ha (heq ▸ List.mem_cons_self)
    have hrest : c ∉ rest := fun hmem => ha (List.mem_cons_of_mem _ hmem)
    rw [List.cons_append, splitAll, if_neg hx, ih hrest]
    rfl

theorem splitAll_of_not_mem {c : Char} {l : List Char} (h : c ∉ l) : splitAll c l = [l] := by
  have hsplit := splitAll_append_of_not_mem h (show splitAll c [] = [] :: [] from rfl)
  rwa [List.append_nil] at hsplit

theorem splitAll_flatMap {c : Char} {texts : List (List Char)} (h : ∀ text ∈ texts, c ∉ text) :
    splitAll c (texts.flatMap fun text => c :: text) = [] :: texts := by
  induction texts with
  | nil => rfl
  | cons text rest ih =>
    have hrest := ih fun other hother => h other (List.mem_cons_of_mem _ hother)
    have htext := splitAll_append_of_not_mem (h text List.mem_cons_self) hrest
    rw [List.flatMap_cons, List.cons_append, splitAll, if_pos rfl, htext, List.append_nil]

theorem exists_last_piece (c : Char) (l : List Char) :
    ∃ front last, c ∉ last ∧ (l = last ∨ l = front ++ c :: last) := by
  induction l with
  | nil => exact ⟨[], [], List.not_mem_nil, .inl rfl⟩
  | cons x rest ih =>
    obtain ⟨front, last, hlast, rfl | rfl⟩ := ih
    · by_cases hx : x = c
      · exact ⟨[], rest, hlast, .inr (by rw [hx, List.nil_append])⟩
      · refine ⟨[], x :: rest, ?_, .inl rfl⟩
        rw [List.mem_cons, not_or]
        exact ⟨Ne.symm hx, hlast⟩
    · exact ⟨x :: front, last, hlast, .inr rfl⟩

def segmentLabel (s : List Char) : String := dnsLabel (trimBlanks (String.ofList s))

theorem segmentLabel_eq (s : List Char) :
    segmentLabel s = dnsLabel (String.ofList (dropAround isBlank s)) := by
  unfold segmentLabel trimBlanks
  rw [String.toList_ofList]

theorem dnsLabel_trimBlanks_empty : dnsLabel (trimBlanks "") = "" := rfl

@[simp] theorem segmentLabel_nil : segmentLabel [] = "" := dnsLabel_trimBlanks_empty

theorem pathSegments_eq (l : List Char) :
    pathSegments l = ((splitAll '/' l).map segmentLabel).filter fun s => !s.isEmpty := rfl

theorem pathSegments_append_slash (a b : List Char) :
    pathSegments (a ++ '/' :: b) = pathSegments a ++ pathSegments b := by
  simp only [pathSegments_eq, splitAll_append_cons, List.map_append, List.filter_append]

theorem pathSegments_of_not_mem {l : List Char} (h : '/' ∉ l) :
    pathSegments l = [segmentLabel l].filter fun s => !s.isEmpty := by
  rw [pathSegments_eq, splitAll_of_not_mem h, List.map_singleton]

@[simp] theorem pathSegments_nil : pathSegments [] = [] := by
  rw [pathSegments_of_not_mem List.not_mem_nil, segmentLabel_nil]
  rfl

@[simp] theorem pathSegments_cons_slash (l : List Char) :
    pathSegments ('/' :: l) = pathSegments l := by
  rw [← List.nil_append ('/' :: l), pathSegments_append_slash, pathSegments_nil, List.nil_append]

theorem pathSegments_flatMap {texts : List (List Char)} (h : ∀ text ∈ texts, '/' ∉ text) :
    pathSegments (texts.flatMap fun text => '/' :: text) =
      (texts.map segmentLabel).filter fun s => !s.isEmpty := by
  rw [pathSegments_eq, splitAll_flatMap h, List.map_cons, segmentLabel_nil,
    List.filter_cons_of_neg (by decide)]

theorem slash_not_blank : isBlank '/' = false := by decide

theorem pathSegments_append_of_blank {blanks : List Char} (h : ∀ c ∈ blanks, isBlank c = true)
    (l : List Char) : pathSegments (l ++ blanks) = pathSegments l := by
  have hslash : '/' ∉ blanks :=
    fun hmem => Bool.false_ne_true (slash_not_blank.symm.trans (h _ hmem))
  have hlast : ∀ last : List Char, '/' ∉ last →
      pathSegments (last ++ blanks) = pathSegments last := by
    intro last hlast
    have hboth : '/' ∉ last ++ blanks := by
      rw [List.mem_append, not_or]
      exact ⟨hlast, hslash⟩
    rw [pathSegments_of_not_mem hboth, pathSegments_of_not_mem hlast, segmentLabel_eq,
      segmentLabel_eq, dropAround_append_of_forall isBlank h]
  obtain ⟨front, last, hnot, rfl | rfl⟩ := exists_last_piece '/' l
  · exact hlast l hnot
  · rw [List.append_assoc, List.cons_append, pathSegments_append_slash, pathSegments_append_slash,
      hlast last hnot]

theorem pathSegments_blank_append {blanks : List Char} (h : ∀ c ∈ blanks, isBlank c = true)
    (l : List Char) : pathSegments (blanks ++ l) = pathSegments l := by
  induction blanks with
  | nil => rfl
  | cons c rest ih =>
    have hc : isBlank c = true := h c List.mem_cons_self
    have hne : c ≠ '/' := by
      rintro rfl
      exact Bool.false_ne_true (slash_not_blank.symm.trans hc)
    obtain ⟨piece, pieces, hrest, hcons⟩ := splitAll_cons_of_ne hne (rest ++ l)
    rw [← ih fun d hd => h d (List.mem_cons_of_mem _ hd), List.cons_append, pathSegments_eq,
      pathSegments_eq, hrest, hcons, List.map_cons, List.map_cons, segmentLabel_eq,
      segmentLabel_eq, dropAround_cons_of_pos isBlank hc]

theorem pathSegments_append_of_slashes {slashes : List Char}
    (h : ∀ c ∈ slashes, decide (c = '/') = true) (l : List Char) :
    pathSegments (l ++ slashes) = pathSegments l := by
  induction slashes generalizing l with
  | nil => rw [List.append_nil]
  | cons c rest ih =>
    obtain rfl : c = '/' := of_decide_eq_true (h c List.mem_cons_self)
    have hrest := ih (fun d hd => h d (List.mem_cons_of_mem _ hd)) []
    rw [pathSegments_append_slash, ← List.nil_append rest, hrest, pathSegments_nil,
      List.append_nil]

/-- The path with these segments, the root where there are none. -/
def routeOf (segments : List String) : String := "/" ++ "/".intercalate segments

def rootedLetters (raw : String) : List Char :=
  let letters := dropAround isBlank raw.toList
  if letters.head? = some '/' then letters else '/' :: letters

/-- The text of which the length is checked. -/
def checkedLetters (raw : String) : List Char :=
  dropTrailing (fun c => decide (c = '/')) (rootedLetters raw)

theorem head?_rootedLetters (raw : String) : (rootedLetters raw).head? = some '/' := by
  unfold rootedLetters
  dsimp only
  split
  · assumption
  · rfl

theorem pathSegments_rootedLetters (raw : String) :
    pathSegments (rootedLetters raw) = pathSegments raw.toList := by
  obtain ⟨front, back, hraw, hfront, hback⟩ := exists_append_dropAround isBlank raw.toList
  have htrimmed : pathSegments raw.toList = pathSegments (dropAround isBlank raw.toList) := by
    conv_lhs => rw [hraw]
    rw [pathSegments_append_of_blank hback, pathSegments_blank_append hfront]
  unfold rootedLetters
  rw [htrimmed]
  dsimp only
  split
  · rfl
  · exact pathSegments_cons_slash _

theorem pathSegments_checkedLetters (raw : String) :
    pathSegments (checkedLetters raw) = pathSegments raw.toList := by
  obtain ⟨dropped, hrooted, hdropped⟩ :=
    exists_append_dropTrailing (fun c => decide (c = '/')) (rootedLetters raw)
  rw [← pathSegments_rootedLetters]
  conv_rhs => rw [hrooted]
  exact (pathSegments_append_of_slashes hdropped _).symm

/-- What is checked against the limit starts with a slash, unless it is empty. -/
theorem checkedLetters_cases (raw : String) :
    checkedLetters raw = [] ∨ ∃ rest, checkedLetters raw = '/' :: rest := by
  obtain ⟨dropped, hrooted, -⟩ :=
    exists_append_dropTrailing (fun c => decide (c = '/')) (rootedLetters raw)
  have hhead := head?_rootedLetters raw
  rw [hrooted] at hhead
  change (checkedLetters raw ++ dropped).head? = _ at hhead
  cases hkept : checkedLetters raw with
  | nil => exact .inl rfl
  | cons c rest =>
    rw [hkept] at hhead
    cases hhead
    exact .inr ⟨rest, rfl⟩

theorem normalizePath_eq (raw : String) (limit : Nat) :
    normalizePath raw limit =
      if isBlankText raw = true then .error .emptyPath
      else if limit < PathTemplate.byteLength (checkedLetters raw) then
        .error (.tooLong (String.ofList (checkedLetters raw)) limit)
      else .ok (routeOf (pathSegments raw.toList)) := by
  have hblank : isBlankText raw = (dropAround isBlank raw.toList).isEmpty := by
    rw [Bool.eq_iff_iff, List.isEmpty_iff, dropAround_eq_nil_iff, isBlankText_iff]
  rw [← pathSegments_checkedLetters, hblank]
  rfl

theorem normalizePath_congr {a b : String}
    (h : dropAround isBlank a.toList = dropAround isBlank b.toList) (limit : Nat) :
    normalizePath a limit = normalizePath b limit := by
  unfold normalizePath
  rw [h]

theorem eq_routeOf_of_normalizePath {raw path : String} {limit : Nat}
    (h : normalizePath raw limit = .ok path) :
    path = routeOf (pathSegments raw.toList) ∧
      PathTemplate.byteLength (checkedLetters raw) ≤ limit := by
  rw [normalizePath_eq] at h
  split at h
  · cases h
  · split at h
    · cases h
    · rename_i hlimit
      cases h
      exact ⟨rfl, Nat.not_lt.1 hlimit⟩

theorem length_mapCase_lower_le (c : Char) :
    (mapCase lowerShifts lowerExpansions c).length ≤ 2 := by
  unfold mapCase
  split
  · rename_i codes hcodes
    have hall : ∀ entry ∈ lowerExpansions, entry.2.length ≤ 2 := by decide
    rw [List.length_map]
    exact hall _ (mem_of_lookup_eq_some hcodes)
  · split <;> exact Nat.le_succ 1

theorem length_lowerLetters_le (c : Char) : (lowerLetters c).length ≤ c.utf8Size := by
  unfold lowerLetters
  split
  · exact c.utf8Size_pos
  · rename_i hascii
    have hlong : c.utf8Size ≠ 1 := by
      rw [Ne, Char.utf8Size_eq_one_iff, UInt32.le_iff_toNat_le]
      exact fun hle => hascii (Nat.lt_succ_of_le hle)
    have hpos := c.utf8Size_pos
    have hletters := length_mapCase_lower_le c
    omega

theorem length_lowerFrom_le (before l : List Char) :
    (lowerFrom before l).length ≤ PathTemplate.byteLength l := by
  induction l generalizing before with
  | nil => exact Nat.le_refl 0
  | cons c rest ih =>
    rw [lowerFrom, List.length_append, PathTemplate.byteLength]
    refine Nat.add_le_add ?_ (ih _)
    split
    · exact c.utf8Size_pos
    · exact length_lowerLetters_le c

theorem length_dnsLabelLetters_le_length (s : List Char) :
    (dnsLabelLetters s).length ≤ s.length := by
  unfold dnsLabelLetters
  calc (dropTrailing isDash ((dropAround isDash (s.map dashUnlessName)).take maxNameLength)).length
      ≤ ((dropAround isDash (s.map dashUnlessName)).take maxNameLength).length :=
        length_dropTrailing_le isDash _
    _ ≤ (dropAround isDash (s.map dashUnlessName)).length := List.length_take_le' _ _
    _ ≤ (s.map dashUnlessName).length := (dropAround_sublist isDash _).length_le
    _ = s.length := List.length_map _

theorem length_segmentLabel_le (s : List Char) :
    (segmentLabel s).length ≤ PathTemplate.byteLength s := by
  rw [segmentLabel_eq, ← String.length_toList, toList_dnsLabel, lowercase, String.toList_ofList,
    String.toList_ofList]
  exact Nat.le_trans (length_dnsLabelLetters_le_length _) (Nat.le_trans (length_lowerFrom_le [] _)
    (PathTemplate.byteLength_le_of_sublist (dropAround_sublist isBlank s)))

def slashedLetters (segments : List String) : List Char :=
  segments.flatMap fun s => '/' :: s.toList

theorem length_slashedLetters_filter_le (pieces : List (List Char)) :
    (slashedLetters ((pieces.map segmentLabel).filter fun s => !s.isEmpty)).length ≤
      PathTemplate.byteLength (pieces.flatMap fun piece => '/' :: piece) := by
  induction pieces with
  | nil => exact Nat.le_refl 0
  | cons piece rest ih =>
    have hslash : PathTemplate.byteLength ('/' :: piece) = 1 + PathTemplate.byteLength piece := rfl
    rw [List.map_cons, List.filter_cons, List.flatMap_cons, PathTemplate.byteLength_append, hslash]
    split
    · have hpiece := length_segmentLabel_le piece
      rw [← String.length_toList] at hpiece
      rw [slashedLetters, List.flatMap_cons, List.length_append, List.length_cons, Nat.add_comm 1]
      exact Nat.add_le_add (Nat.succ_le_succ hpiece) ih
    · exact Nat.le_trans ih (Nat.le_add_left _ _)

theorem length_slashedLetters_pathSegments_le (l : List Char) :
    (slashedLetters (pathSegments l)).length ≤ PathTemplate.byteLength ('/' :: l) := by
  rw [← flatMap_splitAll]
  exact length_slashedLetters_filter_le (splitAll '/' l)

end InferenceReconciler
