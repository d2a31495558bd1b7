/-!
# Finite maps from strings

A `Dict` lists its entries in strictly increasing key order, so two maps with the
same bindings are equal and a listing of one is already in the order in which it
is written. Keys compare by code point, which is the order of their UTF-8 bytes.
-/

namespace InferenceReconciler

variable {α : Type}

/-- The association list with `key` bound to `value`, keeping the order of keys. -/
def insertEntry (key : String) (value : α) : List (String × α) → List (String × α)
  | [] => [(key, value)]
  | (k, v) :: rest =>
    if key < k then (key, value) :: (k, v) :: rest
    else if k < key then (k, v) :: insertEntry key value rest
    else (key, value) :: rest

theorem mem_insertEntry_key {key : String} {value : α} {e : String × α} :
    ∀ {l : List (String × α)}, e ∈ insertEntry key value l → e.1 = key ∨ e ∈ l
  | [], h => by
    left
    simp [insertEntry] at h
    simp [h]
  | (k, v) :: rest, h => by
    unfold insertEntry at h
    split at h
    · rcases List.mem_cons.1 h with rfl | h
      · exact .inl rfl
      · exact .inr h
    · split at h
      · rcases List.mem_cons.1 h with rfl | h
        · exact .inr (List.mem_cons_self ..)
        · rcases mem_insertEntry_key h with h | h
          · exact .inl h
          · exact .inr (List.mem_cons_of_mem _ h)
      · rcases List.mem_cons.1 h with rfl | h
        · exact .inl rfl
        · exact .inr (List.mem_cons_of_mem _ h)

theorem eq_of_not_lt_of_not_lt {a b : String} (h : ¬a < b) (h' : ¬b < a) : a = b :=
  String.le_antisymm (String.not_lt.1 h') (String.not_lt.1 h)

theorem pairwise_insertEntry (key : String) (value : α) :
    ∀ {l : List (String × α)}, l.Pairwise (fun a b => a.1 < b.1) →
      (insertEntry key value l).Pairwise (fun a b => a.1 < b.1)
  | [], _ => by simp [insertEntry]
  | (k, v) :: rest, h => by
    obtain ⟨hk, hr⟩ := List.pairwise_cons.1 h
    unfold insertEntry
    split
    · rename_i lt
      refine List.pairwise_cons.2 ⟨fun e he => ?_, h⟩
      rcases List.mem_cons.1 he with rfl | he
      · exact lt
      · exact String.lt_trans lt (hk _ he)
    · split
      · rename_i gt
        refine List.pairwise_cons.2 ⟨fun e he => ?_, pairwise_insertEntry key value hr⟩
        rcases mem_insertEntry_key he with heq | he
        · exact heq ▸ gt
        · exact hk _ he
      · rename_i ngt nlt
        have heq : key = k := eq_of_not_lt_of_not_lt ngt nlt
        exact List.pairwise_cons.2 ⟨fun e he => heq ▸ hk e he, hr⟩

structure Dict (α : Type) where
  entries : List (String × α)
  increasing : entries.Pairwise (fun a b => a.1 < b.1)
  deriving DecidableEq

namespace Dict

def empty : Dict α := ⟨[], .nil⟩

instance : Inhabited (Dict α) := ⟨empty⟩

instance : EmptyCollection (Dict α) := ⟨empty⟩

def insert (d : Dict α) (key : String) (value : α) : Dict α :=
  ⟨insertEntry key value d.entries, pairwise_insertEntry key value d.increasing⟩

/-- Later bindings of a key win. -/
def ofList (l : List (String × α)) : Dict α :=
  l.foldl (fun d e => d.insert e.1 e.2) empty

def find? (d : Dict α) (key : String) : Option α :=
  d.entries.lookup key

def contains (d : Dict α) (key : String) : Bool :=
  (d.find? key).isSome

def keys (d : Dict α) : List String :=
  d.entries.map (·.1)

def isEmpty (d : Dict α) : Bool :=
  d.entries.isEmpty

def overlay (base top : Dict α) : Dict α :=
  top.entries.foldl (fun d e => d.insert e.1 e.2) base

def insertIfNew (d : Dict α) (key : String) (value : α) : Dict α :=
  if d.contains key then d else d.insert key value

theorem ext {a b : Dict α} (h : a.entries = b.entries) : a = b := by
  cases a; cases b; cases h; rfl

@[simp] theorem entries_empty : (empty : Dict α).entries = [] := rfl

@[simp] theorem find?_empty (key : String) : (empty : Dict α).find? key = none := rfl

@[simp] theorem ofList_nil : ofList ([] : List (String × α)) = empty := rfl

end Dict

theorem lookup_entry_cons (k key : String) (value : α) (rest : List (String × α)) :
    ((key, value) :: rest).lookup k = if k = key then some value else rest.lookup k := by
  rw [List.lookup_cons]
  by_cases h : k = key
  · simp [h]
  · have hne : (k == key) = false := by simpa using h
    rw [hne, if_neg h]

theorem lookup_insertEntry (k key : String) (value : α) (l : List (String × α)) :
    (insertEntry key value l).lookup k = if k = key then some value else l.lookup k := by
  induction l with
  | nil => exact lookup_entry_cons k key value []
  | cons e rest ih =>
    obtain ⟨other, v⟩ := e
    unfold insertEntry
    split
    · rw [lookup_entry_cons]
    · rename_i hnot
      split
      · rename_i hlt
        have hne : other ≠ key := fun h => absurd (h ▸ hlt) (String.lt_irrefl key)
        rw [lookup_entry_cons, lookup_entry_cons, ih]
        by_cases hk : k = other
        · rw [if_pos hk, if_neg (hk ▸ hne), if_pos hk]
        · rw [if_neg hk, if_neg hk]
      · rename_i hnlt
        rw [eq_of_not_lt_of_not_lt hnot hnlt, lookup_entry_cons, lookup_entry_cons]
        split <;> rfl

theorem insertEntry_of_lt {key : String} (value : α) {l : List (String × α)}
    (h : ∀ e ∈ l, e.1 < key) : insertEntry key value l = l ++ [(key, value)] := by
  induction l with
  | nil => rfl
  | cons e rest ih =>
    obtain ⟨other, v⟩ := e
    have hlt : other < key := h _ List.mem_cons_self
    have hrest : ∀ e ∈ rest, e.1 < key := fun e he => h e (List.mem_cons_of_mem _ he)
    unfold insertEntry
    rw [if_neg (String.lt_asymm hlt), if_pos hlt, ih hrest, List.cons_append]

theorem eq_of_lookup_eq {l l' : List (String × α)} (hl : l.Pairwise (fun a b => a.1 < b.1))
    (hl' : l'.Pairwise (fun a b => a.1 < b.1)) (h : ∀ k, l.lookup k = l'.lookup k) : l = l' := by
  have hbelow : ∀ {k : String} {l : List (String × α)}, (∀ e ∈ l, k < e.1) →
      l.lookup k = none := by
    intro k l hlt
    rw [List.lookup_eq_none_iff]
    intro e he
    exact bne_iff_ne.2 (String.ne_of_lt (hlt e he))
  have hself : ∀ (e : String × α) rest, (e :: rest).lookup e.1 = some e.2 := by
    intro e rest
    rw [lookup_entry_cons, if_pos rfl]
  induction l generalizing l' with
  | nil =>
    cases l' with
    | nil => rfl
    | cons e rest => cases (h e.1).trans (hself e rest)
  | cons a rest ih =>
    obtain ⟨ha, hrest⟩ := List.pairwise_cons.1 hl
    cases l' with
    | nil => cases (h a.1).symm.trans (hself a rest)
    | cons b rest' =>
      obtain ⟨hb, hrest'⟩ := List.pairwise_cons.1 hl'
      have hab : ¬ a.1 < b.1 := by
        intro hlt
        have hnone : (b :: rest').lookup a.1 = none := hbelow fun e he => by
          rcases List.mem_cons.1 he with rfl | hmem
          · exact hlt
          · exact String.lt_trans hlt (hb e hmem)
        cases (hself a rest).symm.trans ((h a.1).trans hnone)
      have hba : ¬ b.1 < a.1 := by
        intro hlt
        have hnone : (a :: rest).lookup b.1 = none := hbelow fun e he => by
          rcases List.mem_cons.1 he with rfl | hmem
          · exact hlt
          · exact String.lt_trans hlt (ha e hmem)
        cases (hself b rest').symm.trans ((h b.1).symm.trans hnone)
      have hkey : a.1 = b.1 := eq_of_not_lt_of_not_lt hab hba
      have hvalue : some a.2 = some b.2 :=
        (hself a rest).symm.trans ((h a.1).trans (hkey ▸ hself b rest'))
      have hhead : a = b := Prod.ext hkey (Option.some.inj hvalue)
      subst hhead
      refine congrArg (a :: ·) (ih hrest hrest' fun k => ?_)
      by_cases hk : k = a.1
      · rw [hk, hbelow ha, hbelow hb]
      · have hk' := h k
        rwa [lookup_entry_cons, lookup_entry_cons, if_neg hk, if_neg hk] at hk'

namespace Dict

theorem ext_find? {a b : Dict α} (h : ∀ k, a.find? k = b.find? k) : a = b :=
  Dict.ext (eq_of_lookup_eq a.increasing b.increasing h)

theorem find?_insert (d : Dict α) (k key : String) (value : α) :
    (d.insert key value).find? k = if k = key then some value else d.find? k :=
  lookup_insertEntry k key value d.entries

theorem find?_insertIfNew (d : Dict α) (k key : String) (value : α) :
    (d.insertIfNew key value).find? k =
      if k = key then some ((d.find? key).getD value) else d.find? k := by
  unfold insertIfNew contains
  cases hkey : d.find? key with
  | none =>
    rw [Option.isSome_none, if_neg Bool.false_ne_true, find?_insert, Option.getD_none]
  | some old =>
    rw [Option.isSome_some, if_pos rfl, Option.getD_some]
    split
    · rename_i hk
      rw [hk, hkey]
    · rfl

theorem find?_foldl_insert (k : String) (l : List (String × α)) (d : Dict α) :
    (l.foldl (fun d e => d.insert e.1 e.2) d).find? k =
      ((l.findRev? fun e => e.1 == k).map (·.2) <|> d.find? k) := by
  induction l generalizing d with
  | nil => rfl
  | cons e rest ih =>
    rw [List.foldl_cons, ih, find?_insert, List.findRev?]
    cases rest.findRev? fun e => e.1 == k with
    | some last => rfl
    | none =>
      by_cases hk : k = e.1
      · simp [hk]
      · simp [hk, Ne.symm hk]

theorem find?_foldl_insert_of_ne {k : String} {l : List (String × α)} (h : ∀ e ∈ l, e.1 ≠ k)
    (d : Dict α) : (l.foldl (fun d e => d.insert e.1 e.2) d).find? k = d.find? k := by
  have hnone : (l.findRev? fun e => e.1 == k) = none := by
    rw [List.findRev?_eq_find?_reverse, List.find?_eq_none]
    intro e he heq
    exact h e (List.mem_reverse.1 he) (beq_iff_eq.1 heq)
  rw [find?_foldl_insert, hnone]
  cases d.find? k <;> rfl

theorem entries_foldl_insert {d : Dict α} {l : List (String × α)}
    (h : (d.entries ++ l).Pairwise (fun a b => a.1 < b.1)) :
    (l.foldl (fun d e => d.insert e.1 e.2) d).entries = d.entries ++ l := by
  induction l generalizing d with
  | nil => exact (List.append_nil _).symm
  | cons e rest ih =>
    have hlt : ∀ e' ∈ d.entries, e'.1 < e.1 := fun e' he' =>
      (List.pairwise_append.1 h).2.2 e' he' e List.mem_cons_self
    have hentries : (d.insert e.1 e.2).entries = d.entries ++ [e] :=
      insertEntry_of_lt e.2 hlt
    have happend : d.entries ++ e :: rest = (d.insert e.1 e.2).entries ++ rest := by
      rw [hentries, List.append_assoc, List.singleton_append]
    rw [List.foldl_cons, ih (happend ▸ h), happend]

theorem ofList_entries (d : Dict α) : ofList d.entries = d :=
  Dict.ext (entries_foldl_insert d.increasing)

theorem find?_ofList (k : String) (l : List (String × α)) :
    (ofList l).find? k = (l.findRev? fun e => e.1 == k).map (·.2) := by
  unfold ofList
  rw [find?_foldl_insert, find?_empty]
  cases (l.findRev? fun e => e.1 == k).map (·.2) <;> rfl

theorem find?_eq_findRev? (d : Dict α) (k : String) :
    d.find? k = (d.entries.findRev? fun e => e.1 == k).map (·.2) := by
  rw [← find?_ofList, ofList_entries]

theorem find?_overlay (base top : Dict α) (k : String) :
    (base.overlay top).find? k = (top.find? k <|> base.find? k) := by
  rw [find?_eq_findRev? top]
  exact find?_foldl_insert k top.entries base

theorem overlay_overlay (a b c : Dict α) :
    (a.overlay b).overlay c = a.overlay (b.overlay c) := by
  apply ext_find?
  intro k
  simp only [find?_overlay]
  cases c.find? k <;> rfl

theorem overlay_self (d : Dict α) : d.overlay d = d := by
  apply ext_find?
  intro k
  rw [find?_overlay]
  cases d.find? k <;> rfl

end Dict

end InferenceReconciler
