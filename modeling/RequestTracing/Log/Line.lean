import RequestTracing.Event
/-!
Log records as lines of text.
-/
namespace RequestTracing

def LogLevel.name : LogLevel → String
  | .error => "ERROR"
  | .warn => "WARN"
  | .info => "INFO"
  | .debug => "DEBUG"
  | .trace => "TRACE"

def LogField.text (field : LogField) : String :=
  field.name ++ "=" ++ (if field.inQuotes then Text.quoted field.value else field.value)

def LogRecord.line (record : LogRecord) : String :=
  " ".intercalate
    ((record.level.name ++ " " ++ record.target ++ ":") :: record.message ::
      record.fields.map (·.text))

end RequestTracing
