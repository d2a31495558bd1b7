import InferenceReconciler.Policy
import InferenceReconciler.WireForm

/-!
# Command line

What the words behind the program's name and its variables ask for. Words are read from
left to right. The value of a setting is checked when the next flag is read or when all
words are, so a faulty value still lets the command `help` through. A variable counts
only where its flag is absent.
-/

namespace InferenceReconciler

/-- What takes a value. -/
inductive Setting where
  | requeueInterval
  | progressRequeue
  | cacheRetryBudget
  | fieldManager
  deriving DecidableEq, Repr, Inhabited

/-- What is on or off. -/
inductive Switch where
  | crd
  | logText
  deriving DecidableEq, Repr, Inhabited

def unsignedNumber? (s : String) : Option Nat :=
  let digits := match s.toList with
    | '+' :: rest => rest
    | all => all
  if digits.isEmpty || !digits.all Char.isDigit then none
  else some (digits.foldl (fun n c => 10 * n + (c.toNat - '0'.toNat)) 0)

def signedNumber? (s : String) : Option Int :=
  match s.toList with
  | '-' :: '+' :: _ => none
  | '-' :: digits => (unsignedNumber? (String.ofList digits)).map fun n => -n
  | _ => (unsignedNumber? s).map Int.ofNat

def seconds? (s : String) : Option Nat := (unsignedNumber? s).filter fun n => n ≤ maxUInt64

def attempts? (s : String) : Option UInt32 :=
  ((signedNumber? s).filter fun n => 0 ≤ n && n ≤ 4294967295).map fun n => UInt32.ofNat n.toNat

namespace Setting

def all : List Setting := [requeueInterval, progressRequeue, cacheRetryBudget, fieldManager]

def flag : Setting → String
  | requeueInterval => "requeue-interval-secs"
  | progressRequeue => "progress-requeue-secs"
  | cacheRetryBudget => "cache-retry-budget"
  | fieldManager => "field-manager"

/-- The variable that stands in for the flag. -/
def envName : Setting → String
  | requeueInterval => "AIM_REQUEUE_INTERVAL_SECS"
  | progressRequeue => "AIM_PROGRESS_REQUEUE_SECS"
  | cacheRetryBudget => "AIM_CACHE_RETRY_BUDGET"
  | fieldManager => "AIM_FIELD_MANAGER"

/-- The policy with the setting at the value, if that is one it can take. -/
def update? (value : String) (p : Policy) : Setting → Option Policy
  | requeueInterval => (seconds? value).map fun n => { p with requeueSeconds := n }
  | progressRequeue => (seconds? value).map fun n => { p with progressRequeueSeconds := n }
  | cacheRetryBudget => (attempts? value).map fun n => { p with cacheRetryBudget := n }
  | fieldManager => some { p with fieldManager := value }

end Setting

namespace Switch

def all : List Switch := [crd, logText]

def flag : Switch → String
  | crd => "crd"
  | logText => "log-text"

end Switch

inductive Word where
  | bare (text : String)
  | flag (name : String) (value : Option String)
  /-- A cluster of letters is known by its first. -/
  | letter (c : Char)
  | endOfFlags
  deriving DecidableEq, Repr, Inhabited

def Word.ofText (s : String) : Word :=
  match s.toList with
  | ['-', '-'] => endOfFlags
  | '-' :: '-' :: rest =>
    let value := match rest.dropWhile (· ≠ '=') with
      | [] => none
      | _ :: value => some (String.ofList value)
    flag (String.ofList (rest.takeWhile (· ≠ '='))) value
  | '-' :: c :: _ => letter c
  | _ => bare s

inductive UsageFault where
  | unknown (text : String)
  | missingValue (s : Setting)
  | unwantedValue (flag : String)
  | repeated (flag : String)
  | unfit (name value : String)
  deriving DecidableEq, Repr, Inhabited

def UsageFault.message : UsageFault → String
  | unknown text => s!"unexpected argument '{text}'"
  | missingValue s => s!"a value is required for '--{s.flag}'"
  | unwantedValue flag => s!"no value is expected for '--{flag}'"
  | repeated flag => s!"'--{flag}' cannot be used more than once"
  | unfit name value => s!"invalid value '{value}' for '{name}'"

/-- What the program is asked to do. -/
inductive Command where
  | help
  | version
  | definitions
  | controller (policy : Policy) (textLogs : Bool)
  deriving DecidableEq, Inhabited

namespace CommandLine

/-- The words read so far. -/
structure Given where
  switches : List Switch
  settings : List Setting
  policy : Policy
  /-- A setting whose value is the next word. -/
  awaiting : Option Setting
  /-- A value that is not yet checked. -/
  unchecked : Option (Setting × String)

namespace Given

def nothing : Given := ⟨[], [], .standard, none, none⟩

def accept (g : Given) (s : Setting) (value : String) : Except UsageFault Given :=
  if s ∈ g.settings then .error (.repeated s.flag)
  else
    match s.update? value g.policy with
    | some p => .ok { g with settings := s :: g.settings, policy := p }
    | none => .error (.unfit s.flag value)

def settle (g : Given) : Except UsageFault Given :=
  match g.unchecked with
  | some (s, value) => { g with unchecked := none }.accept s value
  | none => .ok g

def turnOn (g : Given) (s : Switch) : Except UsageFault Given :=
  if s ∈ g.switches then .error (.repeated s.flag)
  else .ok { g with switches := s :: g.switches }

end Given

def readHelp : List String → Except UsageFault Command
  | [] | ["controller"] | ["help"] => .ok .help
  | "controller" :: text :: _ | "help" :: text :: _ | text :: _ => .error (.unknown text)

/-- The words behind a command that takes none but a call for help. -/
def asksForHelp : List String → Except UsageFault Bool
  | [] => .ok false
  | text :: rest =>
    match Word.ofText text with
    | .letter 'h' | .flag "help" none => .ok true
    | .endOfFlags =>
      match rest with
      | [] => .ok false
      | extra :: _ => .error (.unknown extra)
    | _ => .error (.unknown text)

section

variable (env : String → Option String)

/-- The settings that no flag has set, from the variables. -/
def fromVariables (g : Given) : List Setting → Except UsageFault Given
  | [] => .ok g
  | s :: rest =>
    match if s ∈ g.settings then none else env s.envName with
    | none => fromVariables g rest
    | some value =>
      match s.update? value g.policy with
      | some p => fromVariables { g with policy := p } rest
      | none => .error (.unfit s.envName value)

def textLogsVariable : String := "AIM_LOG_TEXT"

def textLogs (g : Given) : Except UsageFault Bool :=
  if .logText ∈ g.switches then .ok true
  else
    match env textLogsVariable with
    | none | some "false" => .ok false
    | some "true" => .ok true
    | some value => .error (.unfit textLogsVariable value)

def conclude (g : Given) : Except UsageFault Command := do
  let g ← g.settle
  match g.awaiting with
  | some s => .error (.missingValue s)
  | none =>
    let g ← fromVariables env g Setting.all
    let asText ← textLogs env g
    return if .crd ∈ g.switches then .definitions else .controller g.policy asText

/-- What a flag of more than one letter adds, or the command that it is. -/
def readFlag (g : Given) (name : String) (value : Option String) :
    Except UsageFault (Command ⊕ Given) :=
  match Setting.all.find? fun s => s.flag = name, value with
  | some s, some value => (g.accept s value).map .inr
  | some s, none => .ok (.inr { g with awaiting := some s })
  | none, _ =>
    match Switch.all.find? fun s => s.flag = name with
    | some s => if value.isSome then .error (.unwantedValue name) else (g.turnOn s).map .inr
    | none =>
      if name = "help" ∨ name = "version" then
        if value.isSome then .error (.unwantedValue name)
        else .ok (.inl (if name = "help" then .help else .version))
      else .error (.unknown ("--" ++ name))

def read (g : Given) : List String → Except UsageFault Command
  | [] => conclude env g
  | text :: rest =>
    match Word.ofText text, g.awaiting with
    | .bare value, some s => read { g with awaiting := none, unchecked := some (s, value) } rest
    | _, some s => .error (.missingValue s)
    | .bare "help", none => readHelp rest
    | .bare "controller", none => do
      if ← asksForHelp rest then return .help
      conclude env g
    | .bare word, none => .error (.unknown word)
    | .endOfFlags, none =>
      match rest with
      | [] => conclude env g
      | extra :: _ => .error (.unknown extra)
    | .letter c, none => do
      let _ ← g.settle
      if c = 'h' then return .help
      if c = 'V' then return .version
      .error (.unknown text)
    | .flag name value, none => do
      match ← readFlag (← g.settle) name value with
      | .inl command => return command
      | .inr g => read g rest

def parse (words : List String) : Except UsageFault Command := read env .nothing words

end

def program : String := "aim-operator"

def versionText : String := s!"{program} 0.1.0"

def startRecord : Json := .record [
  some ("fields", .record [
    field "message" "telemetry initialized",
    field "service" program]),
  field "level" "INFO",
  field "target" "aim_common::telemetry"]

@[simp] theorem parse_nil :
    parse (fun _ => none) [] = .ok (.controller .standard false) := rfl

end CommandLine

end InferenceReconciler
