import Std.Time.DateTime.Timestamp
import Telemetry.Options.Load
import Telemetry.Options.Standard
import Telemetry.Service

/-!
# The command

Reads the options, starts the service and lets it report. Payloads are written to standard output,
from where any program can carry them on, and warnings to standard error.
-/

namespace Telemetry.Command

/-- The text of a file, or why it cannot be read. -/
def readText (path : String) : IO (Except String String) := do
  try
    return .ok (← IO.FS.readFile path)
  catch e =>
    return .error (toString e)

/-- The variables of the environment that options are read from. -/
def readEnvironment : IO (List (String × String)) :=
  OptionName.all.filterMapM fun o => do
    return (← IO.getEnv o.environment).map fun value => (o.environment, value)

/-- The options of this run. -/
def readOptions (words : List String) : IO (Except OptionsError Options) := do
  let known ← readEnvironment
  let environment (name : String) : Option String := (known.find? (·.1 = name)).map (·.2)
  let content ← match Engines.standard.arguments words environment with
    | .ok { options := { configFile := some path, .. }, .. } => readText path
    | _ => pure (.ok "")
  return Options.load .standard words environment fun _ => content

/-- Reports once in every period. -/
partial def watch (r : Reporter NetworkOutlet) (period : Duration) : IO Unit := do
  IO.sleep (min period.millis (UInt32.size - 1)).toUInt32
  let ((payloads, warnings), r) := (r.sleep period).collect
  payloads.forM IO.println
  for w in warnings do
    let fields := w.fields.map fun (name, value) => " " ++ name ++ "=" ++ value
    IO.eprintln (w.message ++ String.join fields)
  watch r period

/-- The status that the process ends with. -/
def run (words : List String) : IO UInt32 := do
  match ← readOptions words with
  | .error (.arguments .version) =>
    IO.println productName
    return 0
  | .error (.arguments .help) =>
    IO.println (String.join (OptionName.all.map fun o => "--" ++ o.argument ++ "\n"))
    return 0
  | .error (.arguments why) =>
    IO.eprintln ("error: " ++ why.message)
    return 2
  | .error e =>
    IO.eprintln ("Configuration error: " ++ e.message)
    return 2
  | .ok options =>
    let hostname := match ← readText "/etc/hostname" with
      | .ok s => Text.trim s
      | .error _ => "localhost"
    let now ← Std.Time.Timestamp.now
    let millis := now.toMillisecondsSinceUnixEpoch.val
    let service : Service := ⟨options, .new (.starting (Int64.ofInt millis))⟩
    match service.start ⟨.standard, hostname, .up, []⟩ (Int64.ofInt millis) with
    | (.error e, _) =>
      IO.eprintln ("Application error: " ++ e.message)
      return 1
    | (.ok r, _) =>
      watch r (.ofSeconds options.periodSeconds)
      return 0

end Telemetry.Command

def main (words : List String) : IO UInt32 :=
  Telemetry.Command.run words
