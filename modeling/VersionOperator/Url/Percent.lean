import VersionOperator.Text.Hexadecimal

namespace VersionOperator.Url

open Text

def escapedByte (byte : UInt8) : List Char :=
  '%' :: [hexDigits (byte.toNat / 16), hexDigits (byte.toNat % 16)].flatMap fun digit =>
    digit.map Char.toUpper

/-- The text with every character of a class escaped, and with it every control character and every
one beyond ASCII, which no part of a URL can hold. -/
def escape (isSpecial : Char → Bool) (cs : List Char) : List Char :=
  cs.flatMap fun c =>
    if c.toNat ≤ 0x1F || 0x7F ≤ c.toNat || isSpecial c then
      (String.utf8EncodeChar c).flatMap escapedByte
    else [c]

/-- The bytes of a text with its escapes undone. A percent sign without two digits behind it stands
for itself. -/
def unescape : List Char → List UInt8
  | '%' :: a :: b :: rest =>
    match hexDigit? a, hexDigit? b with
    | some high, some low => UInt8.ofNat (16 * high + low) :: unescape rest
    | _, _ => 0x25 :: unescape (a :: b :: rest)
  | c :: rest => String.utf8EncodeChar c ++ unescape rest
  | [] => []

end VersionOperator.Url
