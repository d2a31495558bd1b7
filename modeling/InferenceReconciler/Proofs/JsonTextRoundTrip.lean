import InferenceReconciler.Proofs.JsonTextParts

/-!
# Values read back from their text

The compact text of a value is read as the same value, whatever stands behind it, as long as
that ends a number. Whole numbers have to fit in 64 bits and the members of an object have to
stand in the order of their names, each name once; a number with a fraction is left out, for it
may be rounded.
-/

namespace InferenceReconciler

namespace Json

/-- Numbers are whole and fit in 64 bits, and members stand in the order of their names. -/
inductive Plain : Json → Prop
  | null : Plain .null
  | bool (b : Bool) : Plain (.bool b)
  | int (n : ℤ) (hn : -9223372036854775808 ≤ n ∧ n ≤ maxUInt64) : Plain (.int n)
  | str (s : String) : Plain (.str s)
  | arr (items : List Json) (h : ∀ j ∈ items, Plain j) : Plain (.arr items)
  | obj (members : List (String × Json)) (hkeys : members.Pairwise fun a b => a.1 < b.1)
      (h : ∀ e ∈ members, Plain e.2) : Plain (.obj members)

def Reads (j : Json) : Prop :=
  ∀ (fuel : ℕ) (rest : List Char), j.text.length < fuel → EndsValue rest →
    readValue fuel (j.text ++ rest) = some (j, rest)

/-- The text starts with neither a blank nor a closing bracket. -/
def StartsValue (text : List Char) : Prop :=
  ∃ c cs, text = c :: cs ∧ isJsonBlank c = false ∧ c ≠ ']'

end Json

theorem skipBlanks_cons {c : Char} (h : isJsonBlank c = false) (cs : List Char) :
    skipBlanks (c :: cs) = c :: cs :=
  List.dropWhile_cons_of_neg (by rw [h]; decide)

theorem startsNumber_integerDigits (n : ℤ) :
    ∃ c cs, integerDigits n = c :: cs ∧ (c.isDigit = true ∨ c = '-') := by
  unfold integerDigits
  obtain ⟨c, cs, hcons⟩ := exists_cons_digits n.natAbs
  split
  · exact ⟨'-', _, rfl, Or.inr rfl⟩
  · exact ⟨c, cs, hcons, Or.inl (isDigit_of_mem_digits (hcons ▸ List.mem_cons_self))⟩

theorem isJsonBlank_eq_false_of_isDigit {c : Char} (h : c.isDigit = true) :
    isJsonBlank c = false := by
  unfold isJsonBlank
  simp only [Bool.or_eq_false_iff, beq_eq_false_iff_ne]
  refine ⟨⟨⟨?_, ?_⟩, ?_⟩, ?_⟩ <;> (rintro rfl; cases h)

theorem readValue_number {c : Char} (h : c.isDigit = true ∨ c = '-') (fuel : ℕ)
    (cs : List Char) : readValue (fuel + 1) (c :: cs) = readNumber (c :: cs) := by
  have hblank : isJsonBlank c = false := by
    rcases h with h | rfl
    · exact isJsonBlank_eq_false_of_isDigit h
    · decide
  have hne : ∀ d : Char, d.isDigit = false → d ≠ '-' → c ≠ d := by
    rintro d hd hminus rfl
    rcases h with h | h
    · rw [hd] at h
      cases h
    · exact hminus h
  rw [readValue, skipBlanks_cons hblank]
  -- No literal, quote or bracket starts like a number, so the last case is left.
  split
  case h_7 => rfl
  all_goals
    rename_i heq
    exact absurd (List.cons.inj heq).1 (hne _ (by decide) (by decide))

theorem Json.Plain.startsValue {j : Json} (h : j.Plain) : StartsValue j.text := by
  cases h with
  | null => exact ⟨_, _, rfl, by decide, by decide⟩
  | bool b => cases b <;> exact ⟨_, _, rfl, by decide, by decide⟩
  | int n hn =>
    obtain ⟨c, cs, hcons, hstart⟩ := startsNumber_integerDigits n
    refine ⟨c, cs, hcons, ?_⟩
    rcases hstart with hdigit | rfl
    · exact ⟨isJsonBlank_eq_false_of_isDigit hdigit, by rintro rfl; cases hdigit⟩
    · decide
  | str s => exact ⟨_, _, rfl, by decide, by decide⟩
  | arr items h => cases items <;> exact ⟨_, _, rfl, by decide, by decide⟩
  | obj members hkeys h => cases members <;> exact ⟨_, _, rfl, by decide, by decide⟩

theorem readString_stringText (s : String) (rest : List Char) :
    ∃ cs, stringText s ++ rest = '"' :: cs ∧ readString cs = some (s, rest) := by
  refine ⟨s.toList.flatMap escapedLetter ++ '"' :: rest, ?_, readString_text s rest⟩
  unfold stringText
  rw [List.append_assoc, List.singleton_append]
  rfl

section

variable {fuel : ℕ} {text rest : List Char}

theorem readItems_last {item : Json}
    (h : readValue fuel text = some (item, ']' :: rest)) :
    readItems (fuel + 1) text = some ([item], rest) := by
  rw [readItems, h]
  rfl

theorem readItems_next {item : Json}
    (h : readValue fuel text = some (item, ',' :: rest)) :
    readItems (fuel + 1) text =
      (readItems fuel rest).bind fun p => some (item :: p.1, p.2) := by
  rw [readItems, h]
  rfl

theorem readMembers_last {key : String} {value : Json}
    (h : readValue fuel text = some (value, '\x7d' :: rest)) :
    readMembers (fuel + 1) (stringText key ++ ':' :: text) = some ([(key, value)], rest) := by
  obtain ⟨cs, hcs, hkey⟩ := readString_stringText key (':' :: text)
  have hquote : skipBlanks ('"' :: cs) = '"' :: cs := rfl
  have hcolon : skipBlanks (':' :: text) = ':' :: text := rfl
  rw [hcs, readMembers]
  simp only [hquote, hkey, Option.bind_eq_bind, Option.bind_some, hcolon, h]
  rfl

theorem readMembers_next {key : String} {value : Json}
    (h : readValue fuel text = some (value, ',' :: rest)) :
    readMembers (fuel + 1) (stringText key ++ ':' :: text) =
      (readMembers fuel rest).bind fun p => some ((key, value) :: p.1, p.2) := by
  obtain ⟨cs, hcs, hkey⟩ := readString_stringText key (':' :: text)
  have hquote : skipBlanks ('"' :: cs) = '"' :: cs := rfl
  have hcolon : skipBlanks (':' :: text) = ':' :: text := rfl
  rw [hcs, readMembers]
  simp only [hquote, hkey, Option.bind_eq_bind, Option.bind_some, hcolon, h]
  rfl

end

theorem endsValue_itemsText (items : List Json) (rest : List Char) :
    EndsValue (Json.itemsText items ++ ']' :: rest) := by
  cases items with
  | nil => exact endsValue_cons (Or.inr (Or.inl rfl))
  | cons item items => exact endsValue_cons (Or.inl rfl)

theorem endsValue_membersText (members : List (String × Json)) (rest : List Char) :
    EndsValue (Json.membersText members ++ '\x7d' :: rest) := by
  cases members with
  | nil => exact endsValue_cons (Or.inr (Or.inr rfl))
  | cons e members => exact endsValue_cons (Or.inl rfl)

/-- The items of a list are read up to its closing bracket. Each round takes one of the fuel for
the list and needs enough for its item, which the comma in front of the next one pays for. -/
theorem readItems_text {items : List Json} : ∀ {item : Json} {fuel : ℕ} {rest : List Char},
    (∀ j ∈ item :: items, j.Reads) →
    item.text.length + (Json.itemsText items).length + 1 < fuel →
    readItems fuel (item.text ++ (Json.itemsText items ++ ']' :: rest)) =
      some (item :: items, rest) := by
  induction items with
  | nil =>
    intro item fuel rest hreads hfuel
    cases fuel with
    | zero => exact absurd hfuel (Nat.not_lt_zero _)
    | succ fuel =>
      exact readItems_last
        (hreads item List.mem_cons_self fuel _ (by omega) (endsValue_itemsText [] rest))
  | cons next items ih =>
    intro item fuel rest hreads hfuel
    cases fuel with
    | zero => exact absurd hfuel (Nat.not_lt_zero _)
    | succ fuel =>
      have hitem := hreads item List.mem_cons_self fuel _ (by omega)
        (endsValue_itemsText (next :: items) rest)
      simp only [Json.itemsText, List.length_append, List.length_cons] at hfuel
      simp only [Json.itemsText, List.cons_append, List.append_assoc] at hitem ⊢
      rw [readItems_next hitem, ih (fun j hj => hreads j (List.mem_cons_of_mem _ hj)) (by omega)]
      rfl

theorem readMembers_text {members : List (String × Json)} :
    ∀ {key : String} {value : Json} {fuel : ℕ} {rest : List Char},
      (∀ e ∈ (key, value) :: members, e.2.Reads) →
      (stringText key).length + value.text.length + (Json.membersText members).length + 1 < fuel →
      readMembers fuel (stringText key ++
          ':' :: (value.text ++ (Json.membersText members ++ '\x7d' :: rest))) =
        some ((key, value) :: members, rest) := by
  induction members with
  | nil =>
    intro key value fuel rest hreads hfuel
    cases fuel with
    | zero => exact absurd hfuel (Nat.not_lt_zero _)
    | succ fuel =>
      have hlength : value.text.length < fuel := by omega
      exact readMembers_last
        (hreads (key, value) List.mem_cons_self fuel _ hlength (endsValue_membersText [] rest))
  | cons next members ih =>
    intro key value fuel rest hreads hfuel
    cases fuel with
    | zero => exact absurd hfuel (Nat.not_lt_zero _)
    | succ fuel =>
      have hlength : value.text.length < fuel := by omega
      have hvalue := hreads (key, value) List.mem_cons_self fuel _ hlength
        (endsValue_membersText (next :: members) rest)
      simp only [Json.membersText, List.length_append, List.length_cons] at hfuel
      simp only [Json.membersText, List.cons_append, List.append_assoc] at hvalue ⊢
      rw [readMembers_next hvalue,
        ih (fun e he => hreads e (List.mem_cons_of_mem _ he)) (by omega)]
      rfl

section

variable {fuel : ℕ} {text rest : List Char}

theorem readValue_items {items : List Json} (hstart : Json.StartsValue text)
    (h : readItems fuel text = some (items, rest)) :
    readValue (fuel + 1) ('[' :: text) = some (.arr items, rest) := by
  obtain ⟨c, cs, rfl, hblank, hne⟩ := hstart
  have hopen : skipBlanks ('[' :: c :: cs) = '[' :: c :: cs := rfl
  rw [readValue, hopen]
  simp only [skipBlanks_cons hblank]
  split
  · rename_i heq
    exact absurd (List.cons.inj heq).1 hne
  · rw [h]
    rfl

theorem readValue_members {members : List (String × Json)} {cs : List Char}
    (h : readMembers fuel ('"' :: cs) = some (members, rest))
    (hkeys : members.Pairwise fun a b => a.1 < b.1) :
    readValue (fuel + 1) ('\x7b' :: '"' :: cs) = some (.obj members, rest) := by
  have hentries : (Dict.ofList members).entries = members :=
    congrArg Dict.entries (Dict.ofList_entries ⟨members, hkeys⟩)
  have hopen : readValue (fuel + 1) ('\x7b' :: '"' :: cs) =
      (readMembers fuel ('"' :: cs)).map
        fun p => (Json.obj (Dict.ofList p.1).entries, p.2) := rfl
  rw [hopen, h, Option.map_some, hentries]

end

theorem Json.reads_of_succ {j : Json} (h : ∀ (fuel : ℕ) (rest : List Char),
    j.text.length ≤ fuel → EndsValue rest → readValue (fuel + 1) (j.text ++ rest) = some (j, rest)) :
    j.Reads := by
  intro fuel rest hfuel hrest
  cases fuel with
  | zero => exact absurd hfuel (Nat.not_lt_zero _)
  | succ fuel => exact h fuel rest (Nat.le_of_lt_succ hfuel) hrest

theorem Json.Plain.reads {j : Json} (h : j.Plain) : j.Reads := by
  -- On the values in it: the items of a list and the members of an object are read back.
  induction h with
  | null => exact reads_of_succ fun fuel rest _ _ => rfl
  | bool b => cases b <;> exact reads_of_succ fun fuel rest _ _ => rfl
  | int n hn =>
    refine reads_of_succ fun fuel rest _ hrest => ?_
    obtain ⟨c, cs, hcons, hstart⟩ := startsNumber_integerDigits n
    have hread := readNumber_integerDigits hn hrest
    unfold text
    rw [hcons, List.cons_append] at hread ⊢
    rw [readValue_number hstart, hread]
  | str s =>
    refine reads_of_succ fun fuel rest _ _ => ?_
    obtain ⟨cs, hcs, hread⟩ := readString_stringText s rest
    have hquote : readValue (fuel + 1) ('"' :: cs) =
        (readString cs).map fun p => (Json.str p.1, p.2) := rfl
    unfold text
    rw [hcs, hquote, hread]
    rfl
  | arr items h ih =>
    refine reads_of_succ fun fuel rest hfuel _ => ?_
    cases items with
    | nil => rfl
    | cons item items =>
      obtain ⟨c, cs, hcons, hblank, hne⟩ := (h item List.mem_cons_self).startsValue
      simp only [text, List.length_append, List.length_cons, List.length_nil] at hfuel
      simp only [text, List.cons_append, List.append_assoc, List.nil_append]
      refine readValue_items ⟨c, _, by rw [hcons]; rfl, hblank, hne⟩ (readItems_text ih ?_)
      omega
  | obj members hkeys h ih =>
    refine reads_of_succ fun fuel rest hfuel _ => ?_
    cases members with
    | nil => rfl
    | cons e members =>
      obtain ⟨key, value⟩ := e
      simp only [text, List.length_append, List.length_cons, List.length_nil] at hfuel
      have hmembers := @readMembers_text members key value fuel rest ih (by omega)
      simp only [text, List.cons_append, List.append_assoc, List.nil_append]
      exact readValue_members hmembers hkeys

/-- Of the compact text of a plain value, the value is read. -/
theorem Json.Plain.read?_compact {j : Json} (h : j.Plain) : Json.read? j.compact = some j := by
  have hends : EndsValue [] := by
    intro c tail heq
    cases heq
  have hread := h.reads (j.text.length + 1) [] (Nat.lt_succ_self _) hends
  rw [List.append_nil] at hread
  unfold Json.read? compact
  dsimp only
  rw [String.toList_ofList, hread]
  rfl

end InferenceReconciler
