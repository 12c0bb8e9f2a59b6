import RequestTracing.Text.Hexadecimal
import RequestTracing.Unicode.Visible
/-!
The display of a text between double quotes, with escapes for quotes, backslashes and all
characters that do not show as themselves.
-/
namespace RequestTracing.Text

def quotedChar (c : Char) : String :=
  match c with
  | '"' => "\\\""
  | '\\' => "\\\\"
  | '\t' => "\\t"
  | '\n' => "\\n"
  | '\r' => "\\r"
  | _ =>
    if c = Char.ofNat 0 then "\\0"
    else if Unicode.isVisible c then c.toString
    else "\\u\x7b" ++ hexadecimal c.toNat ++ "\x7d"

def quoted (s : String) : String :=
  "\"" ++ String.join (s.toList.map quotedChar) ++ "\""

end RequestTracing.Text
