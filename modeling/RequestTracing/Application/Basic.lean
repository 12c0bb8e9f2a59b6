/-!
What passes between an application and its server: failures, chunks of a response's body, and the
start of a response.
-/
namespace RequestTracing

/-- Why an application, a body or a server failed, as text. -/
abbrev Failure := String

abbrev Chunk := ByteArray

/-- The start of a response, as it is handed to the server. -/
structure ResponseStart where
  status : String
  headers : List (String × String) := []
  /-- The failure because of which a response that was started before is replaced. -/
  cause : Option Failure := none
  deriving DecidableEq, Repr

/-- What a body gives when asked for the next chunk: a chunk, a failure, or nothing at its end. -/
abbrev Item := Option (Except Failure Chunk)

end RequestTracing
