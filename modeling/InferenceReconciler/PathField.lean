import InferenceReconciler.CustomObject
import InferenceReconciler.QuotedText
import InferenceReconciler.Trimming

/-!
# Fields in route paths

The fields of a service that the template of its route path may name. A field outside
this set, and one without a value, is a fault and never an empty text.
-/

namespace InferenceReconciler

/-- Why a template gives no path. Places are counted in bytes of UTF-8. -/
inductive PathFault where
  | unterminated (place : Nat)
  | emptyExpression (place : Nat)
  /-- A closing brace outside a placeholder or an opening one inside. -/
  | unexpectedBrace (brace : Char) (place : Nat)
  | unsupported (expression : String)
  | labelNotFound (key : String)
  | annotationNotFound (key : String)
  | fieldNotSet (field : String)
  | emptyPath
  | tooLong (path : String) (limit : Nat)
  deriving DecidableEq, Repr, Inhabited

def PathFault.message : PathFault → String
  | unterminated place => s!"unterminated placeholder starting at byte {place}"
  | emptyExpression place => s!"empty placeholder at byte {place}"
  | unexpectedBrace brace place => s!"unexpected '{brace}' at byte {place}"
  | unsupported expression => s!"unsupported expression {quoted expression}"
  | labelNotFound key => s!"label {quoted key} not found"
  | annotationNotFound key => s!"annotation {quoted key} not found"
  | fieldNotSet field => s!"field {field} is not set"
  | emptyPath => "route template produced an empty path"
  | tooLong path limit => s!"route path {quoted path} exceeds {limit} characters"

inductive PathField where
  | name
  | ofNamespace
  | uid
  | labelled (key : String)
  | annotated (key : String)
  | templateName
  | resolvedModel
  | resolvedTemplate
  deriving DecidableEq, Repr, Inhabited

namespace PathField

/-- The text between two marks of one kind, which is not empty and holds no mark. -/
def unquoted? (mark : Char) (s : List Char) : Option (List Char) :=
  match s with
  | [] => none
  | first :: rest =>
    if first = mark ∧ rest.getLast? = some mark then
      let key := rest.dropLast
      if key.isEmpty ∨ '\'' ∈ key ∨ '"' ∈ key then none else some key
    else none

/-- The quoted key that stands between `opening` and a bracket. -/
def keyAfter? (opening : String) (expression : List Char) : Option String := do
  let inner ← opening.toList.isPrefixOf? expression
  let key ← if inner.getLast? = some ']' then some inner.dropLast else none
  (unquoted? '\'' key <|> unquoted? '"' key).map String.ofList

def named? (expression : String) : Option PathField :=
  [(".metadata.name", name), (".metadata.namespace", ofNamespace), (".metadata.uid", uid),
    (".spec.templateName", templateName), (".status.resolvedModel.name", resolvedModel),
    (".status.resolvedTemplate.name", resolvedTemplate)].lookup expression

def parse (text : String) : Except PathFault PathField :=
  let expression := trimBlanks text
  let letters := expression.toList
  match named? expression <|> (keyAfter? ".metadata.labels[" letters).map labelled <|>
      (keyAfter? ".metadata.annotations[" letters).map annotated with
  | some field => .ok field
  | none => .error (.unsupported expression)

def requireFilled (field : String) (value : Option String) : Except PathFault String :=
  match filledIn? value with
  | some v => .ok v
  | none => .error (.fieldNotSet field)

def value (service : ServiceObject) : PathField → Except PathFault String
  | name => .ok service.displayName
  | ofNamespace => requireFilled ".metadata.namespace" service.metadata.namespace
  | uid => requireFilled ".metadata.uid" service.metadata.uid
  | labelled key => ((service.metadata.label? key).map .ok).getD (.error (.labelNotFound key))
  | annotated key =>
    ((service.metadata.annotationValue? key).map .ok).getD (.error (.annotationNotFound key))
  | templateName => requireFilled ".spec.templateName" service.spec.templateName
  | resolvedModel => requireFilled ".status.resolvedModel.name"
      ((service.status.bind (·.resolvedModel)).map (·.name))
  | resolvedTemplate => requireFilled ".status.resolvedTemplate.name"
      ((service.status.bind (·.resolvedTemplate)).map (·.name))

end PathField

end InferenceReconciler
