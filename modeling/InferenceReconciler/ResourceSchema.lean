import InferenceReconciler.WireForm

/-!
# Schemas of records

What may stand at each place of an object, as the cluster checks it, with a line about
every member. A member is required, may be null, is left out where it is empty, or has
a value that stands for it. In the written schema members and required names are in
increasing order.
-/

namespace InferenceReconciler

inductive IntegerFormat where
  | uint32
  | int32
  | int64
  deriving DecidableEq, Repr, Inhabited

/-- Whether a member may be missing. -/
inductive Presence where
  | required
  | nullable
  /-- Left out where it is empty. -/
  | elided
  | orElse (value : Json)
  deriving Inhabited

structure MemberSchema (σ : Type) where
  name : String
  about : String
  presence : Presence
  shape : σ

inductive Shape where
  | text
  | time
  | flag
  | integer (format : IntegerFormat)
  | word (words : List String)
  | textMap
  | list (about : String) (item : Shape)
  | record (members : List (MemberSchema Shape))

abbrev RecordShape := List (MemberSchema Shape)

namespace IntegerFormat

def text : IntegerFormat → String
  | uint32 => "uint32"
  | int32 => "int32"
  | int64 => "int64"

/-- The least number, where it is no matter of size. -/
def minimum? : IntegerFormat → Option Json
  | uint32 => some (.real (.ofNat 0))
  | int32 | int64 => none

end IntegerFormat

namespace MemberSchema

variable {σ : Type}

def isRequired (m : MemberSchema σ) : Bool :=
  match m.presence with
  | .required => true
  | _ => false

def requiredNames (members : List (MemberSchema σ)) : List String :=
  (Dict.ofList ((members.filter isRequired).map fun m => (m.name, ()))).keys

end MemberSchema

/-- The schema of a value with what its presence adds. -/
def Presence.mark (p : Presence) (schema : Json) : Json :=
  match p with
  | required | elided => schema
  | nullable => schema.set "nullable" (.bool true)
  | orElse value => schema.set "default" value

def describe (about : String) (schema : Json) : Json := schema.set "description" (.str about)

def typed (type : String) : Json := .obj [("type", .str type)]

def recordSchema (members : List (String × Json)) (requiredNames : List String) : Json :=
  .record [
    if members.isEmpty then none else some ("properties", .obj (Dict.ofList members).entries),
    if requiredNames.isEmpty then none else field "required" requiredNames,
    field "type" "object"]

mutual

def Shape.schema : Shape → Json
  | .text => typed "string"
  | .time => .record [field "format" "date-time", field "type" "string"]
  | .flag => typed "boolean"
  | .integer format => .record [
      field "format" format.text,
      format.minimum?.map (("minimum", ·)),
      field "type" "integer"]
  | .word words => .record [field "enum" words, field "type" "string"]
  | .textMap => .obj [("additionalProperties", typed "string"), ("type", .str "object")]
  | .list about item => .obj [("items", describe about item.schema), ("type", .str "array")]
  | .record members =>
    recordSchema (Shape.schemas members) (MemberSchema.requiredNames members)

def MemberSchema.named : MemberSchema Shape → String × Json
  | ⟨name, about, presence, shape⟩ => (name, presence.mark (describe about shape.schema))

def Shape.schemas : List (MemberSchema Shape) → List (String × Json)
  | [] => []
  | m :: rest => m.named :: Shape.schemas rest

end

end InferenceReconciler
