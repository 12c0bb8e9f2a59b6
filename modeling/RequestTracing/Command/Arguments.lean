import RequestTracing.SocketAddress
import RequestTracing.Text.Blank
/-!
The arguments of the command: options with one value each. A value stands after an equals sign or in
the next argument; after a short option it may also follow directly.
-/
namespace RequestTracing

structure CommandOptions where
  method : Option String := none
  target : Option String := none
  host : Option String := none
  headers : List (String × String) := []
  remote : Option SocketAddress := none
  status : Option String := none
  responseHeaders : List (String × String) := []
  body : Option String := none
  config : Option String := none
  deriving DecidableEq, Repr

/-- Why the command does not run: it was asked for help, or the arguments are malformed. -/
inductive CommandRefusal where
  | help
  | malformed
  deriving DecidableEq, Repr

inductive CommandOption where
  | method
  | target
  | host
  | header
  | remote
  | status
  | responseHeader
  | body
  | config
  deriving DecidableEq, Repr

namespace CommandOption

def ofLetter? : Char → Option CommandOption
  | 'X' => some .method
  | 't' => some .target
  | 'H' => some .header
  | 's' => some .status
  | 'R' => some .responseHeader
  | 'b' => some .body
  | 'c' => some .config
  | _ => none

def ofName? : String → Option CommandOption
  | "method" => some .method
  | "target" => some .target
  | "host" => some .host
  | "header" => some .header
  | "remote" => some .remote
  | "status" => some .status
  | "response-header" => some .responseHeader
  | "body" => some .body
  | "config" => some .config
  | _ => none

end CommandOption

namespace CommandOptions

def readHeader? (s : String) : Option (String × String) :=
  (Text.cut? ':' s.toList).map fun (name, value) =>
    (String.ofList (Text.trimChars name), String.ofList (Text.trimChars value))

def setOnce? {α : Type} (old : Option α) (value : α) : Option (Option α) :=
  if old.isSome then none else some (some value)

/-- Takes the value of an option. Only headers may be given more than once. -/
def set? (options : CommandOptions) (option : CommandOption) (value : String) :
    Option CommandOptions :=
  match option with
  | .method => (setOnce? options.method value).map ({ options with method := · })
  | .target => (setOnce? options.target value).map ({ options with target := · })
  | .host => (setOnce? options.host value).map ({ options with host := · })
  | .status => (setOnce? options.status value).map ({ options with status := · })
  | .body => (setOnce? options.body value).map ({ options with body := · })
  | .config =>
    if value = "" then none
    else (setOnce? options.config value).map ({ options with config := · })
  | .remote => do
    let address ← SocketAddress.read? value
    (setOnce? options.remote address).map ({ options with remote := · })
  | .header =>
    (readHeader? value).map fun header => { options with headers := options.headers ++ [header] }
  | .responseHeader =>
    (readHeader? value).map fun header =>
      { options with responseHeaders := options.responseHeaders ++ [header] }

def take (options : CommandOptions) (option : CommandOption) (value : String) :
    Except CommandRefusal CommandOptions :=
  match options.set? option value with
  | some options => .ok options
  | none => .error .malformed

/-- Whether an argument is an option and so not the value of one. A single hyphen is a value. -/
def isOption (argument : String) : Bool :=
  argument.startsWith "-" && argument ≠ "-"

inductive Argument where
  | help
  | option (option : CommandOption) (value : Option String)
  | divider
  | unknown
  deriving DecidableEq, Repr

def classify (argument : String) : Argument :=
  match argument.toList with
  | ['-', '-'] => .divider
  | '-' :: '-' :: rest =>
    let (name, value) := match Text.cut? '=' rest with
      | some (name, value) => (String.ofList name, some (String.ofList value))
      | none => (String.ofList rest, none)
    if name = "help" && value.isNone then .help
    else match CommandOption.ofName? name with
      | some option => .option option value
      | none => .unknown
  | '-' :: 'h' :: _ => .help
  | '-' :: letter :: rest =>
    match CommandOption.ofLetter? letter, rest with
    | some option, [] => .option option none
    | some option, '=' :: value => .option option (some (String.ofList value))
    | some option, value => .option option (some (String.ofList value))
    | none, _ => .unknown
  | _ => .unknown

/-- Reads arguments in order; the first malformed one decides. -/
def read (options : CommandOptions) : List String → Except CommandRefusal CommandOptions
  | [] => .ok options
  | argument :: rest =>
    match classify argument with
    | .help => .error .help
    | .unknown => .error .malformed
    | .divider => if rest.isEmpty then .ok options else .error .malformed
    | .option option (some value) => do
      let options ← options.take option value
      read options rest
    | .option option none =>
      match rest with
      | [] => .error .malformed
      | value :: rest =>
        if isOption value then .error .malformed
        else do
          let options ← options.take option value
          read options rest

end CommandOptions

end RequestTracing
