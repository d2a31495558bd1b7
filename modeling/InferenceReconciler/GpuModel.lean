import InferenceReconciler.Dict
import InferenceReconciler.LetterCase
import InferenceReconciler.Trimming

/-!
# GPU models

The names under which a model is sold fold to one canonical name, and a canonical name
to the device identifiers that nodes carry as labels. The identifier of a node settles
its model; the labels for product and family are asked after it.
-/

namespace InferenceReconciler

namespace GpuModel

def productLabel : String := "amd.com/gpu.product"

def familyLabel : String := "amd.com/gpu.family"

def deviceIdLabel : String := "amd.com/gpu.device-id"

def defaultResource : String := "amd.com/gpu"

/-- Device identifiers with their models, in increasing order. -/
def devices : List (String × String) := [
  ("738c", "MI100"), ("738e", "MI100"), ("7408", "MI250X"), ("740c", "MI250X"),
  ("740f", "MI210"), ("7410", "MI210"), ("74a0", "MI300A"), ("74a1", "MI300X"),
  ("74a2", "MI308X"), ("74a5", "MI325X"), ("74a8", "MI308X"), ("74a9", "MI300X"),
  ("74b5", "MI300X"), ("74b6", "MI308X"), ("74b9", "MI325X"), ("74bd", "MI300X"),
  ("75a0", "MI350X"), ("75a3", "MI355X"), ("75b0", "MI350X"), ("75b3", "MI355X")]

/-- The text without any number of copies of `word` at its start. -/
def dropCopies (word : List Char) : Nat → List Char → List Char
  | 0, s => s
  | fuel + 1, s =>
    if word.isPrefixOf s then dropCopies word fuel (s.drop word.length) else s

def withoutCopies (word : String) (s : List Char) : List Char :=
  dropCopies word.toList s.length s

def withoutVendor (s : List Char) : List Char :=
  (withoutCopies "INSTINCT" ((withoutCopies "AMD" s).dropWhile isBlank)).dropWhile isBlank

def isGap (c : Char) : Bool := c = '-' || c = '_' || c = ' '

def fullNames : List (String × String) :=
  [("MI300", "MI300X"), ("MI325", "MI325X"), ("MI250", "MI250X")]

/-- The canonical name: capitals, without vendor and gaps. -/
def canonical (model : String) : String :=
  let upper := uppercase (trimBlanks model)
  let compact := String.ofList ((withoutVendor upper.toList).filter fun c => !isGap c)
  if compact.isEmpty then upper else (fullNames.lookup compact).getD compact

def ofDeviceId? (id : String) : Option String :=
  let id := withoutCopies "0x" (lowercase (trimBlanks id)).toList
  devices.lookup (String.ofList id)

/-- The identifiers of a model's devices, in increasing order; none for an unknown one. -/
def deviceIds (model : String) : List String :=
  let model := canonical model
  (devices.filter fun d => d.2 = model).map (·.1)

/-- The model that a node advertises by its labels. -/
def ofNodeLabels? (labels : Dict String) : Option String :=
  match (labels.find? deviceIdLabel).bind ofDeviceId? with
  | some model => some model
  | none =>
    (([productLabel, familyLabel].filterMap labels.find?).find? fun v => !isBlankText v).map
      canonical

def onNodes (nodes : List (Dict String)) : List String :=
  (Dict.ofList ((nodes.filterMap ofNodeLabels?).map fun m => (m, ()))).keys

end GpuModel

end InferenceReconciler
