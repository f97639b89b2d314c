import Formwork.Text.Encoding
import Formwork.Text.Hex
/-!
# Percent-encoding

Characters that may not occur in an address are written byte by byte in UTF-8, each byte as a percent sign and two
hexadecimal digits.  Decoding takes every well-formed escape for its byte and leaves all else as it is.
-/
namespace Formwork
namespace Text

/-- An escaped byte. -/
def percentByte (byte : UInt8) : List Char := '%' :: (hexDigits 2 byte.toNat).map Char.toUpper

/-- A text with its characters escaped, except for the plain ones. -/
def percentEncode (plain : Char → Bool) (s : List Char) : List Char :=
  s.flatMap fun c => if plain c then [c] else (bytes [c]).flatMap percentByte

/-- The bytes of an escaped text. -/
def percentBytes : List Char → List UInt8
  | [] => []
  | '%' :: a :: b :: rest =>
    match hexValue? a, hexValue? b with
    | some high, some low => UInt8.ofNat (high * 16 + low) :: percentBytes rest
    | _, _ => '%'.toUInt8 :: percentBytes (a :: b :: rest)
  | c :: rest => String.utf8EncodeChar c ++ percentBytes rest

/-- An escaped text, decoded. -/
def percentDecode (s : List Char) : List Char := utf8 (percentBytes s)

end Text
end Formwork
