import RequestTracing.Text.Hexadecimal
/-!
Percent encoding of bytes.
-/
namespace RequestTracing.Text

def upperHexDigit (n : Nat) : Char :=
  (Nat.digitChar n).toUpper

def percentTriplet (b : UInt8) : List Char :=
  ['%', upperHexDigit (b.toNat / 16), upperHexDigit (b.toNat % 16)]

/-- Writes the bytes of a class as they are and all others as triplets. -/
def percentEncode (safe : UInt8 → Bool) (bytes : List UInt8) : List Char :=
  bytes.flatMap fun b => if safe b then [Char.ofNat b.toNat] else percentTriplet b

def utf8Bytes (c : Char) : List UInt8 :=
  String.utf8EncodeChar c

/-- The bytes that a text in percent encoding stands for. A percent sign before two hexadecimal
digits gives one byte with them; all else stands for itself. -/
def percentDecode : List Char → List UInt8
  | [] => []
  | '%' :: high :: low :: cs =>
    match hexDigit? high, hexDigit? low with
    | some h, some l => UInt8.ofNat (16 * h + l) :: percentDecode cs
    | _, _ => utf8Bytes '%' ++ percentDecode (high :: low :: cs)
  | c :: cs => utf8Bytes c ++ percentDecode cs

end RequestTracing.Text
