import InferenceReconciler.Binary64
import InferenceReconciler.Dict

/-!
# JSON values

Values as they stand in a request or a stored object. Whole numbers are exact; a
number written with a fraction or an exponent is `real`. Records are written with
their members in increasing key order, absent ones left out.
-/

namespace InferenceReconciler

inductive Json where
  | null
  | bool (b : Bool)
  | int (n : Int)
  | real (x : Binary64)
  | str (s : String)
  | arr (items : List Json)
  | obj (members : List (String × Json))
  deriving Inhabited, Repr

namespace Json

def isNull : Json → Bool
  | null => true
  | _ => false

def member? (j : Json) (key : String) : Option Json :=
  match j with
  | obj members => members.lookup key
  | _ => none

/-- A member that is given: `null` counts as absent. -/
def given? (j : Json) (key : String) : Option Json :=
  (j.member? key).filter fun v => !v.isNull

def str? : Json → Option String
  | str s => some s
  | _ => none

def int? : Json → Option Int
  | int n => some n
  | _ => none

def arr? : Json → Option (List Json)
  | arr items => some items
  | _ => none

def bool? : Json → Option Bool
  | bool b => some b
  | _ => none

def ofNat (n : Nat) : Json := int n

def ofOption {α : Type} (f : α → Json) : Option α → Json
  | some a => f a
  | none => null

/-- An object with the given members; the list is in increasing key order. -/
def record (members : List (Option (String × Json))) : Json :=
  obj (members.filterMap id)

@[simp] theorem record_nil : record [] = obj [] := rfl

@[simp] theorem record_none (rest : List (Option (String × Json))) :
    record (none :: rest) = record rest := rfl

@[simp] theorem member?_obj (members : List (String × Json)) (key : String) :
    (obj members).member? key = members.lookup key := rfl

@[simp] theorem str?_str (s : String) : (str s).str? = some s := rfl

end Json

/-- The members with `key` bound to `value` in place, or at its place in the order of keys. -/
def Json.set (j : Json) (key : String) (value : Json) : Json :=
  match j with
  | .obj members => .obj (go members)
  | _ => .obj [(key, value)]
where
  go : List (String × Json) → List (String × Json)
    | [] => [(key, value)]
    | (k, v) :: rest =>
      if k = key then (k, value) :: rest
      else if key < k then (key, value) :: (k, v) :: rest
      else (k, v) :: go rest

def Json.erase (j : Json) (key : String) : Json :=
  match j with
  | .obj members => .obj (members.filter fun e => e.1 ≠ key)
  | j => j

namespace Json

theorem go_eq_insertEntry (key : String) (value : Json) (members : List (String × Json)) :
    set.go key value members = insertEntry key value members := by
  induction members with
  | nil => rfl
  | cons e rest ih =>
    obtain ⟨name, v⟩ := e
    unfold set.go insertEntry
    by_cases heq : name = key
    · rw [if_pos heq, heq, if_neg (String.lt_irrefl key), if_neg (String.lt_irrefl key)]
    · rw [if_neg heq, ih]
      split
      · rfl
      · rename_i hnot
        have hlt : name < key :=
          Decidable.not_not.1 fun hge => heq (eq_of_not_lt_of_not_lt hge hnot)
        rw [if_pos hlt]

theorem lookup_go (key k : String) (value : Json) (members : List (String × Json)) :
    (set.go key value members).lookup k = if k = key then some value else members.lookup k := by
  rw [go_eq_insertEntry]
  exact lookup_insertEntry k key value members

theorem member?_set (j : Json) (key k : String) (value : Json) :
    (j.set key value).member? k = if k = key then some value else j.member? k := by
  cases j with
  | obj members => exact lookup_go key k value members
  | _ => exact lookup_go key k value []

theorem lookup_filter_ne (key k : String) (members : List (String × Json)) :
    (members.filter fun e => e.1 ≠ key).lookup k =
      if k = key then none else members.lookup k := by
  induction members with
  | nil => simp
  | cons e rest ih =>
    obtain ⟨name, v⟩ := e
    rw [List.filter_cons, lookup_entry_cons]
    by_cases hname : name = key
    · rw [if_neg (by simp [hname]), ih, hname]
      split <;> rfl
    · rw [if_pos (by simpa using hname), lookup_entry_cons, ih]
      by_cases hk : k = name
      · rw [if_pos hk, if_neg (hk ▸ hname), if_pos hk]
      · rw [if_neg hk, if_neg hk]

theorem member?_erase (j : Json) (key k : String) :
    (j.erase key).member? k = if k = key then none else j.member? k := by
  cases j with
  | obj members => exact lookup_filter_ne key k members
  | _ => simp [erase, member?]

end Json

end InferenceReconciler
