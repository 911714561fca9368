import DeckPress.Disk.Path
import DeckPress.Encoding.Sha256
import DeckPress.Url.Parser

/-!
# Names of cached assets

A remote asset is kept under a name that its address alone decides: twenty-four hexadecimal digits of a
hash of the address, and the extension of the remote file.
-/

namespace DeckPress.Asset

open Text

/-- A byte as two hexadecimal digits. -/
def hexByte (b : UInt8) : List Char := Nat.toDigits 16 (b.toNat / 16) ++ Nat.toDigits 16 (b.toNat % 16)

/-- The digits that stand for an address. -/
def digest (url : String) : String :=
  String.ofList (((Sha256.digest url.toUTF8.toList).take 12).flatMap hexByte)

/-- The extension of the file that an address leads to, in lower case. -/
def extension? (url : String) : Option String :=
  (Url.path? url).bind fun path =>
    (Path.mk path).extension?.map fun e => String.ofList (lowercase e.toList)

/-- The name that an asset is kept under. -/
def cachedName (url : String) : String :=
  match extension? url with
  | some e => digest url ++ "." ++ e
  | none => digest url

end DeckPress.Asset
