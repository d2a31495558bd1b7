import InferenceReconciler.CommandLine
import InferenceReconciler.ResourceDefinition
import InferenceReconciler.YamlText

/-!
# The program

Prints the definitions of the custom resources, or starts the controller. Without a
cluster at hand the controller ends as soon as its log is set up.
-/

open InferenceReconciler

/-- The lines of the help text, one for each flag. -/
def usageLines : List String :=
  [s!"Usage: {CommandLine.program} [OPTIONS] [COMMAND]", "", "Commands:", "  controller", "  help",
    "", "Options:"] ++
    (Switch.all.map fun s => s!"  --{s.flag}") ++
    (Setting.all.map fun s => s!"  --{s.flag} <VALUE> [env: {s.envName}]") ++
    ["  -h, --help", "  -V, --version"]

def readVariables : IO (List (String × String)) := do
  let names := CommandLine.textLogsVariable :: Setting.all.map Setting.envName
  names.filterMapM fun n => return (← IO.getEnv n).map fun value => (n, value)

def main (words : List String) : IO UInt32 := do
  let set ← readVariables
  match CommandLine.parse (fun n => set.lookup n) words with
  | .error f =>
    IO.eprintln s!"error: {f.message}"
    return 2
  | .ok .help =>
    usageLines.forM IO.println
    return 0
  | .ok .version =>
    IO.println CommandLine.versionText
    return 0
  | .ok .definitions =>
    IO.println (Yaml.stream (ResourceDefinition.all.map ResourceDefinition.manifest))
    return 0
  | .ok (.controller _ textLogs) =>
    if textLogs then IO.println "INFO telemetry initialized"
    else IO.println CommandLine.startRecord.compact
    IO.eprintln "error: no cluster can be reached"
    return 1
