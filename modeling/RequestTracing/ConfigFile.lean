import RequestTracing.Config
import RequestTracing.Toml.Document
/-!
Settings in files. Unknown keys are passed over; a known key with a value of the wrong kind makes
the file unusable.
-/
namespace RequestTracing

inductive ConfigError where
  | missing
  | notText
  | malformed
  deriving DecidableEq, Repr

/-- What is said of settings that could not be loaded. Of malformed ones only the start is fixed. -/
def ConfigError.message : ConfigError → String
  | .missing => "IO error: No such file or directory (os error 2)"
  | .notText => "IO error: stream did not contain valid UTF-8"
  | .malformed => "Parse error: TOML parse error"

namespace Config

/-- The texts of an array, if it has nothing else. -/
def readTexts? : Toml → Option (List String)
  | .array items => items.mapM fun
    | .text s => some s
    | _ => none
  | _ => none

def readBoolean? : Toml → Option Bool
  | .scalar (.boolean b) => some b
  | _ => none

def ofToml? (entries : List (String × Toml)) : Option Config := do
  let texts (key : String) : Option (List String) :=
    ((Toml.lookup? key entries).map readTexts?).getD (some [])
  return {
    serverRequest := ← texts "server_request"
    serverResponse := ← texts "server_response"
    sanitizeFields := ← texts "sanitize_fields"
    captureAllMethods :=
      ← ((Toml.lookup? "capture_all_methods" entries).map readBoolean?).getD (some false) }

def parse (text : String) : Except ConfigError Config :=
  match (Toml.read? text).bind ofToml? with
  | some config => .ok config
  | none => .error .malformed

/-- Reads settings from the content of a file, if there is one. -/
def load (content : Option ByteArray) : Except ConfigError Config := do
  match content with
  | none => throw .missing
  | some bytes =>
    match String.fromUTF8? bytes with
    | some text => parse text
    | none => throw .notText

end Config

end RequestTracing
