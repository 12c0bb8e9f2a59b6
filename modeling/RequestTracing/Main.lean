import RequestTracing.Command.Replay
import Std.Time.DateTime
import Std.Time.Format
/-!
The command line: reads arguments, settings and the configuration file, and prints the log and the
metrics.
-/
namespace RequestTracing

def commandSettings : List String :=
  [Config.serverRequestKey, Config.serverResponseKey, Config.sanitizeFieldsKey,
    Config.captureAllMethodsKey, "RUST_LOG"]

def processSettings : IO (Dictionary String) := do
  let mut settings : Dictionary String := .empty
  for key in commandSettings do
    settings := settings.insertSome key (← IO.getEnv key)
  return settings

/-- The content of a file, if it can be read. -/
def fileContent (path : String) : IO (Option ByteArray) := do
  try
    return some (← IO.FS.readBinFile path)
  catch _ =>
    return none

def timeText : IO String := do
  let now ← Std.Time.Timestamp.now
  let time := Std.Time.DateTime.ofTimestampWithZone now .UTC
  return time.toPlainDateTime.format "uuuu-MM-dd'T'HH:mm:ss.SSSSSS'Z'"

def printOutcome (outcome : CommandOutcome) : IO Unit := do
  for record in outcome.log do
    let level := String.ofList (List.replicate (5 - record.level.name.length) ' ')
    IO.println ((← timeText) ++ " " ++ level ++ record.line)
  for line in outcome.metrics do
    IO.println line
  if let some complaint := outcome.complaint then
    IO.eprintln ("Error: " ++ complaint)

end RequestTracing

def main (arguments : List String) : IO UInt32 := do
  let file ← match RequestTracing.CommandOptions.read {} arguments with
    | .ok { config := some path, .. } => RequestTracing.fileContent path
    | _ => pure none
  let settings ← RequestTracing.processSettings
  let outcome := RequestTracing.Command.run arguments settings fun _ => file
  RequestTracing.printOutcome outcome
  return UInt32.ofNat outcome.exitCode
