import InferenceReconciler.Dict
import InferenceReconciler.JsonText

/-!
# Wire form

How values stand in JSON. A record is an object with a member for each field; members it
does not know are ignored. A record of the custom resources may also be read from an
array with the values of its fields in order. Fields differ in what an absent member
means: an error, no value, or a value that stands for it.
-/

namespace InferenceReconciler

class Wire (α : Type) where
  read? : Json → Option α
  write : α → Json

abbrev Members := List (String × Json)

variable {α : Type}

namespace Wire

instance : Wire String where
  read? := Json.str?
  write := .str

instance : Wire Bool where
  read? := Json.bool?
  write := .bool

def readRange (low high : Int) (j : Json) : Option Int :=
  j.int?.filter fun n => low ≤ n && n ≤ high

instance : Wire Nat where
  read? j := (readRange 0 maxUInt64 j).map Int.toNat
  write n := .int n

instance : Wire UInt32 where
  read? j := (readRange 0 4294967295 j).map fun n => UInt32.ofNat n.toNat
  write n := .int n.toNat

instance : Wire UInt16 where
  read? j := (readRange 0 65535 j).map fun n => UInt16.ofNat n.toNat
  write n := .int n.toNat

instance : Wire Int32 where
  read? j := (readRange (-2147483648) 2147483647 j).map Int32.ofInt
  write n := .int n.toInt

instance : Wire Int64 where
  read? j := (readRange (-9223372036854775808) 9223372036854775807 j).map Int64.ofInt
  write n := .int n.toInt

instance [Wire α] : Wire (List α) where
  read?
    | .arr items => items.mapM Wire.read?
    | _ => none
  write l := .arr (l.map Wire.write)

instance [Wire α] : Wire (Dict α) where
  read?
    | .obj members =>
      (members.mapM fun e : String × Json => (Wire.read? e.2).map fun a : α => (e.1, a)).map
        Dict.ofList
    | _ => none
  write d := .obj (d.entries.map fun (k, a) => (k, Wire.write a))

instance : Wire Json where
  read? := some
  write := id

/-- No value is written as null. -/
instance [Wire α] : Wire (Option α) where
  read?
    | .null => some none
    | j => (Wire.read? j).map some
  write := Json.ofOption Wire.write

@[simp] theorem write_str (s : String) : Wire.write s = .str s := rfl

@[simp] theorem read?_str (s : String) : Wire.read? (α := String) (.str s) = some s := rfl

end Wire

def Json.members? : Json → Option Members
  | .obj members => some members
  | _ => none

/-- The fields of a record, from an object or from an array of their values in order. -/
def Json.fields? (names : List String) : Json → Option Members
  | .obj members => some members
  | .arr items => if items.length ≤ names.length then some (names.zip items) else none
  | _ => none

namespace Members

def required [Wire α] (m : Members) (key : String) : Option α :=
  (m.lookup key).bind Wire.read?

/-- A field that may be absent or null. -/
def optional [Wire α] (m : Members) (key : String) : Option (Option α) :=
  match m.lookup key with
  | none | some .null => some none
  | some j => (Wire.read? j).map some

/-- A field for which `default` stands where it is absent. -/
def orElse [Wire α] (m : Members) (key : String) (default : α) : Option α :=
  match m.lookup key with
  | none => some default
  | some j => Wire.read? j

/-- A field for which `default` stands where it is absent or null. -/
def orDefault [Wire α] (m : Members) (key : String) (default : α) : Option α :=
  match m.lookup key with
  | none | some .null => some default
  | some j => Wire.read? j

end Members

def field [Wire α] (key : String) (a : α) : Option (String × Json) :=
  some (key, Wire.write a)

/-- A field that is left out where it has no value. -/
def optionalField [Wire α] (key : String) (a : Option α) : Option (String × Json) :=
  a.map fun a => (key, Wire.write a)

/-- A list that is left out where it is empty. -/
def listField [Wire α] (key : String) (l : List α) : Option (String × Json) :=
  if l.isEmpty then none else some (key, Wire.write l)

/-- A map that is left out where it is empty. -/
def dictField [Wire α] (key : String) (d : Dict α) : Option (String × Json) :=
  if d.isEmpty then none else some (key, Wire.write d)

@[simp] theorem optionalField_none [Wire α] (key : String) :
    optionalField key (none : Option α) = none := rfl

@[simp] theorem listField_nil [Wire α] (key : String) :
    listField key ([] : List α) = none := rfl

/-- The name of a case: a text, or an object with the name as its only member. -/
def Json.caseName? : Json → Option String
  | .str s => some s
  | .obj [(s, .null)] => some s
  | _ => none

end InferenceReconciler
