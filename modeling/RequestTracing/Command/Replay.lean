import RequestTracing.Command.Arguments
import RequestTracing.ConfigFile
import RequestTracing.Exposition
import RequestTracing.Http.Incoming
import RequestTracing.Log.Filter
import RequestTracing.Log.Line
import RequestTracing.Session
/-!
The command: sends one made-up request through a layer around an application that answers as it is
told, and shows what was logged and measured.
-/
namespace RequestTracing

structure CommandOutcome where
  exitCode : Nat
  log : List LogRecord := []
  metrics : List String := []
  complaint : Option String := none

namespace Command

def target : String := "environ_trace"

/-- The filter that is used unless the settings have a valid one. -/
def defaultFilter : LogFilter :=
  ⟨[{ target := some target, rank := 3 }]⟩

def filter (settings : Dictionary String) : LogFilter :=
  ((settings.get? "RUST_LOG").bind LogFilter.read?).getD defaultFilter

def quotedList (texts : List String) : String :=
  "[" ++ ", ".intercalate (texts.map Text.quoted) ++ "]"

def configRecord (config : Config) : LogRecord :=
  { level := .info
    target
    message := "Configuration loaded"
    fields :=
      [{ name := "request_headers", value := quotedList config.serverRequest },
        { name := "response_headers", value := quotedList config.serverResponse },
        { name := "sanitize_fields", value := quotedList config.sanitizeFields }] }

def startRecord (start : ResponseStart) : LogRecord :=
  { level := .info
    target
    message := "Response started"
    fields :=
      [{ name := "status", value := start.status },
        { name := "headers", value := Text.decimal start.headers.length }] }

def sentRecord (bytes : Nat) : LogRecord :=
  { level := .info
    target
    message := "Response body sent"
    fields := [{ name := "bytes", value := Text.decimal bytes }] }

def record? : Event → Option LogRecord
  | .log record => some record
  | .server _ start => some (startRecord start)
  | _ => none

def request (options : CommandOptions) : Except Http.RequestError Http.Incoming :=
  let bytes (s : String) : List UInt8 := s.toList.flatMap Text.utf8Bytes
  Http.Incoming.read (options.method.getD "GET") (options.target.getD "/") .http11
    (("host", bytes (options.host.getD "localhost:8000")) ::
      options.headers.map fun (name, value) => (name, bytes value))

def script (options : CommandOptions) : List ScriptAction :=
  [.start { start :=
      { status := options.status.getD "200 OK", headers := options.responseHeaders } },
    .body (.ofItems [.ok (options.body.getD "").toUTF8])]

def layerOptions (config : Config) : LayerOptions :=
  { tracer := some .log, meter := some .instruments, config := some config }

/-- Sends the whole body; the result is its size. -/
def serve {σ : Type} (app : Application (Traced σ)) (environ : Environ) (limit : Nat) :
    Program (Except Failure Nat) := do
  match ← app.call environ with
  | (some failure, _) => return .error failure
  | (none, state) =>
    let (items, state) ← Session.drainBody app limit state
    let _ ← app.drop state
    return (items.mapM id).map fun chunks => chunks.foldl (fun n chunk => n + chunk.size) 0

def replay (options : CommandOptions) (config : Config) : CommandOutcome :=
  match request options with
  | .error error =>
    { exitCode := 1, log := [configRecord config], complaint := some error.message }
  | .ok incoming =>
    let layer := (layerOptions config).build .empty
    let script := script options
    let program := serve (layer.wrap (Script.application "" script))
      (incoming.environ options.remote) (Script.limit script)
    let start : Telemetry := { events := (layerOptions config).buildEvents .empty }
    let (sent, _, t) := program.run { request := "" } start
    let log := configRecord config :: t.events.filterMap record?
    match sent with
    | .error failure => { exitCode := 1, log, complaint := some failure }
    | .ok sent =>
      { exitCode := 0, log := log ++ [sentRecord sent], metrics := Exposition.lines t.events }

/-- Runs the command with the content of the configuration file, if the options name one. -/
def runOptions (options : CommandOptions) (settings : Dictionary String)
    (file : Option ByteArray) : CommandOutcome :=
  let config : Except ConfigError Config :=
    if options.config.isSome then Config.load file else .ok (.ofLookup settings.get?)
  match config with
  | .error error => { exitCode := 1, complaint := some error.message }
  | .ok config =>
    let outcome := replay options config
    { outcome with log := outcome.log.filter (filter settings).allows }

/-- Runs the command; files are looked up by their names. -/
def run (arguments : List String) (settings : Dictionary String)
    (readFile : String → Option ByteArray) : CommandOutcome :=
  match CommandOptions.read {} arguments with
  | .error .help => { exitCode := 0 }
  | .error .malformed => { exitCode := 2, complaint := some "malformed arguments" }
  | .ok options => runOptions options settings (options.config.bind readFile)

end Command

end RequestTracing
