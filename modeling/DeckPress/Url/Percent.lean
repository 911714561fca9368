import DeckPress.Text.Basic

/-!
# Percent encoding

Bytes that may not stand in an address are written as a percent sign and two hexadecimal digits.
-/

namespace DeckPress.Url

open Text

def upperHex (n : UInt8) : Char :=
  if n < 10 then Char.ofNat ('0'.toNat + n.toNat) else Char.ofNat ('A'.toNat + n.toNat - 10)

/-- The written form of a byte. -/
def percentByte (b : UInt8) : List Char := ['%', upperHex (b / 16), upperHex (b % 16)]

/-- Encodes the characters that `p` picks out, and all that are not ASCII. -/
def percentEncode (p : Char → Bool) (s : List Char) : List Char :=
  s.flatMap fun c =>
    if p c || 0x80 ≤ c.toNat then (String.singleton c).toUTF8.toList.flatMap percentByte else [c]

/-- The characters that are encoded in any path. -/
def isControl (c : Char) : Bool := isAsciiControl c

/-- The characters that are encoded in a path that has segments. -/
def isPathEncoded (c : Char) : Bool :=
  isControl c || [' ', '"', '<', '>', '\x60', '#', '?', '\x7b', '\x7d'].contains c

/-- The bytes that a text with encoded bytes stands for. -/
def percentDecode : List Char → List UInt8
  | [] => []
  | '%' :: a :: b :: rest =>
    match hexDigit? a, hexDigit? b with
    | some x, some y => (x * 16 + y).toUInt8 :: percentDecode rest
    | _, _ => '%'.toUInt8 :: percentDecode (a :: b :: rest)
  | c :: rest => (String.singleton c).toUTF8.toList ++ percentDecode rest

end DeckPress.Url
