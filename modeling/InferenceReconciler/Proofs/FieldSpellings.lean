import InferenceReconciler.PathField
import Mathlib.Data.List.Infix

/-!
# Spellings of fields

A placeholder names a field by one of a few texts, with blanks around it or not. Six fields have
one spelling each. A label and an annotation have two, the key in quotes of either kind, unless
the key is empty or holds a quote and has none. No text names two fields, and every text that
names none is refused.
-/

namespace InferenceReconciler.PathField

def keySpellings (opening key : String) : List String :=
  if key = "" ∨ '\'' ∈ key.toList ∨ '"' ∈ key.toList then []
  else ['\'', '"'].map fun mark =>
    String.ofList (opening.toList ++ mark :: key.toList ++ [mark, ']'])

/-- The texts that name a field. -/
def spellings : PathField → List String
  | name => [".metadata.name"]
  | ofNamespace => [".metadata.namespace"]
  | uid => [".metadata.uid"]
  | labelled key => keySpellings ".metadata.labels[" key
  | annotated key => keySpellings ".metadata.annotations[" key
  | templateName => [".spec.templateName"]
  | resolvedModel => [".status.resolvedModel.name"]
  | resolvedTemplate => [".status.resolvedTemplate.name"]

theorem unquoted?_eq_some_iff {mark : Char} {s key : List Char} :
    unquoted? mark s = some key ↔
      s = mark :: key ++ [mark] ∧ key ≠ [] ∧ '\'' ∉ key ∧ '"' ∉ key := by
  constructor
  · intro h
    unfold unquoted? at h
    split at h
    · cases h
    · rename_i first rest
      split at h
      · rename_i hmarks
        obtain ⟨rfl, hlast⟩ := hmarks
        obtain ⟨inner, rfl⟩ := List.getLast?_eq_some_iff.1 hlast
        rw [List.dropLast_concat] at h
        dsimp only at h
        split at h
        · cases h
        · rename_i hkey
          cases h
          simp only [List.isEmpty_iff, not_or] at hkey
          exact ⟨rfl, hkey⟩
      · cases h
  · rintro ⟨rfl, hne, hsingle, hdouble⟩
    simp [unquoted?, hne, hsingle, hdouble]

theorem unquoted?_or_eq_some_iff {s key : List Char} :
    (unquoted? '\'' s <|> unquoted? '"' s) = some key ↔
      ∃ mark ∈ ['\'', '"'], unquoted? mark s = some key := by
  rw [List.exists_mem_cons_iff, List.exists_mem_cons_iff]
  cases hsingle : unquoted? '\'' s with
  | none => simp
  | some k =>
    -- A text begins with one mark only.
    have hdouble : unquoted? '"' s ≠ some key := by
      intro hdouble
      obtain ⟨hs, -⟩ := unquoted?_eq_some_iff.1 hsingle
      obtain ⟨hs', -⟩ := unquoted?_eq_some_iff.1 hdouble
      rw [hs] at hs'
      injection hs' with hmark
      exact absurd hmark (by decide)
    simp [hdouble]

theorem mem_keySpellings_iff {opening key : String} {expression : List Char} :
    String.ofList expression ∈ keySpellings opening key ↔
      ∃ mark ∈ ['\'', '"'], expression = opening.toList ++ (mark :: key.toList ++ [mark]) ++ [']'] ∧
        key.toList ≠ [] ∧ '\'' ∉ key.toList ∧ '"' ∉ key.toList := by
  have hempty : key = "" ↔ key.toList = [] := by rw [← String.toList_inj, String.toList_empty]
  unfold keySpellings
  split
  · rename_i hkey
    rw [hempty] at hkey
    refine iff_of_false List.not_mem_nil ?_
    rintro ⟨mark, -, -, hne, hsingle, hdouble⟩
    exact hkey.elim hne fun hquote => hquote.elim hsingle hdouble
  · rename_i hkey
    rw [hempty, not_or, not_or] at hkey
    rw [List.mem_map]
    refine exists_congr fun mark => and_congr_right fun _ => ?_
    rw [String.ofList_inj, and_iff_left hkey]
    simp [eq_comm]

theorem keyAfter?_eq_some_iff {opening key : String} {expression : List Char} :
    keyAfter? opening expression = some key ↔
      String.ofList expression ∈ keySpellings opening key := by
  rw [mem_keySpellings_iff]
  constructor
  · intro h
    unfold keyAfter? at h
    obtain ⟨inner, hinner, h⟩ := Option.bind_eq_some_iff.1 h
    rw [List.isPrefixOf?_eq_some_iff_append_eq] at hinner
    dsimp only at h
    split at h
    · rename_i hlast
      obtain ⟨front, rfl⟩ := List.getLast?_eq_some_iff.1 hlast
      rw [List.dropLast_concat] at h
      obtain ⟨letters, hletters, rfl⟩ := Option.map_eq_some_iff.1 h
      obtain ⟨mark, hmark, hquoted⟩ := unquoted?_or_eq_some_iff.1 hletters
      obtain ⟨rfl, hkey⟩ := unquoted?_eq_some_iff.1 hquoted
      refine ⟨mark, hmark, ?_, ?_⟩
      · rw [← hinner, String.toList_ofList, List.append_assoc opening.toList]
      · rw [String.toList_ofList]
        exact hkey
    · cases h
  · rintro ⟨mark, hmark, rfl, hkey⟩
    have hinner : opening.toList.isPrefixOf?
        (opening.toList ++ (mark :: key.toList ++ [mark]) ++ [']']) =
          some (mark :: key.toList ++ [mark] ++ [']']) := by
      rw [List.isPrefixOf?_eq_some_iff_append_eq, ← List.append_assoc]
    have hquoted : (unquoted? '\'' (mark :: key.toList ++ [mark]) <|>
        unquoted? '"' (mark :: key.toList ++ [mark])) = some key.toList :=
      unquoted?_or_eq_some_iff.2 ⟨mark, hmark, unquoted?_eq_some_iff.2 ⟨rfl, hkey⟩⟩
    unfold keyAfter?
    rw [hinner, Option.bind_eq_bind, Option.bind_some, List.getLast?_concat, if_pos rfl,
      List.dropLast_concat]
    change ((unquoted? '\'' (mark :: key.toList ++ [mark]) <|>
      unquoted? '"' (mark :: key.toList ++ [mark])).map String.ofList) = some key
    rw [hquoted, Option.map_some, String.ofList_toList]

def field? (expression : String) : Option PathField :=
  named? expression <|> (keyAfter? ".metadata.labels[" expression.toList).map labelled <|>
    (keyAfter? ".metadata.annotations[" expression.toList).map annotated

def namedFields : List (String × PathField) :=
  [(".metadata.name", name), (".metadata.namespace", ofNamespace), (".metadata.uid", uid),
    (".spec.templateName", templateName), (".status.resolvedModel.name", resolvedModel),
    (".status.resolvedTemplate.name", resolvedTemplate)]

theorem mem_namedFields_of_named? {expression : String} {field : PathField}
    (h : named? expression = some field) : (expression, field) ∈ namedFields := by
  obtain ⟨before, after, htable, -⟩ := List.lookup_eq_some_iff.1 h
  rw [namedFields, htable]
  exact List.mem_append_right _ List.mem_cons_self

theorem field?_of_mem_namedFields {expression : String} {field : PathField}
    (h : (expression, field) ∈ namedFields) : field? expression = some field := by
  have hall : ∀ entry ∈ namedFields, named? entry.1 = some entry.2 := by decide
  unfold field?
  rw [hall _ h]
  rfl

theorem named?_eq_none_of_prefix {opening expression : String}
    (h : opening.toList <+: expression.toList)
    (hopening : ∀ entry ∈ namedFields, ¬ opening.toList <+: entry.1.toList) :
    named? expression = none := by
  cases hnamed : named? expression with
  | none => rfl
  | some field => exact absurd h (hopening _ (mem_namedFields_of_named? hnamed))

theorem prefix_of_mem_keySpellings {opening expression key : String}
    (h : expression ∈ keySpellings opening key) : opening.toList <+: expression.toList := by
  rw [← String.ofList_toList (s := expression), mem_keySpellings_iff] at h
  obtain ⟨mark, -, hexpression, -⟩ := h
  rw [hexpression, List.append_assoc]
  exact List.prefix_append _ _

theorem field?_eq_some_iff {expression : String} {field : PathField} :
    field? expression = some field ↔ expression ∈ field.spellings := by
  have hkeys : ∀ opening key, keyAfter? opening expression.toList = some key ↔
      expression ∈ keySpellings opening key := by
    intro opening key
    rw [keyAfter?_eq_some_iff, String.ofList_toList]
  constructor
  · intro h
    unfold field? at h
    cases hnamed : named? expression with
    | some f =>
      rw [hnamed] at h
      cases h
      have hall : ∀ entry ∈ namedFields, entry.1 ∈ entry.2.spellings := by decide
      exact hall _ (mem_namedFields_of_named? hnamed)
    | none =>
      rw [hnamed] at h
      cases hlabel : keyAfter? ".metadata.labels[" expression.toList with
      | some key =>
        rw [hlabel] at h
        cases h
        exact (hkeys _ key).1 hlabel
      | none =>
        rw [hlabel] at h
        obtain ⟨key, hkey, rfl⟩ := Option.map_eq_some_iff.1 h
        exact (hkeys _ key).1 hkey
  · intro h
    cases field with
    | labelled key =>
      have hnamed := named?_eq_none_of_prefix (prefix_of_mem_keySpellings h) (by decide)
      unfold field?
      rw [hnamed, (hkeys _ key).2 h]
      rfl
    | annotated key =>
      have hprefix := prefix_of_mem_keySpellings h
      have hnamed := named?_eq_none_of_prefix hprefix (by decide)
      have hlabel : keyAfter? ".metadata.labels[" expression.toList = none := by
        cases hother : keyAfter? ".metadata.labels[" expression.toList with
        | none => rfl
        | some other =>
          have hboth := List.prefix_of_prefix_length_le
            (prefix_of_mem_keySpellings ((hkeys _ other).1 hother)) hprefix (by decide)
          exact absurd hboth (by decide)
      unfold field?
      rw [hnamed, hlabel, (hkeys _ key).2 h]
      rfl
    | _ =>
      cases List.mem_singleton.1 h
      exact field?_of_mem_namedFields (by simp [namedFields])

theorem empty_not_mem_spellings (field : PathField) : "" ∉ field.spellings := by
  cases field with
  | labelled key => exact fun h => absurd (prefix_of_mem_keySpellings h) (by decide)
  | annotated key => exact fun h => absurd (prefix_of_mem_keySpellings h) (by decide)
  | _ => decide

theorem eq_of_mem_spellings {expression : String} {f g : PathField}
    (hf : expression ∈ f.spellings) (hg : expression ∈ g.spellings) : f = g :=
  Option.some.inj ((field?_eq_some_iff.2 hf).symm.trans (field?_eq_some_iff.2 hg))

theorem parse_eq (text : String) :
    parse text =
      (field? (trimBlanks text)).elim (.error (.unsupported (trimBlanks text))) .ok := by
  unfold parse field?
  dsimp only
  generalize (named? (trimBlanks text) <|>
    (keyAfter? ".metadata.labels[" (trimBlanks text).toList).map labelled <|>
      (keyAfter? ".metadata.annotations[" (trimBlanks text).toList).map annotated) = found
  cases found <;> rfl

/-- The expression names a field exactly if it is a spelling of it, the blanks around it apart. -/
theorem parse_eq_ok_iff {text : String} {field : PathField} :
    parse text = .ok field ↔ trimBlanks text ∈ field.spellings := by
  rw [parse_eq, ← field?_eq_some_iff]
  cases field? (trimBlanks text) with
  | none => exact iff_of_false (fun h => by cases h) fun h => by cases h
  | some f => rw [Option.elim_some, Except.ok.injEq, Option.some.injEq]

theorem parse_eq_error {text : String}
    (h : ∀ field : PathField, trimBlanks text ∉ field.spellings) :
    parse text = .error (.unsupported (trimBlanks text)) := by
  rw [parse_eq]
  cases hfield : field? (trimBlanks text) with
  | none => rfl
  | some field => exact absurd (field?_eq_some_iff.1 hfield) (h field)

end InferenceReconciler.PathField
