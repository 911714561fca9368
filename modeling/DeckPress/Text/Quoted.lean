import DeckPress.Text.CharClass

/-!
# Quoted text in messages

A path or name inside a message stands between double quotes. Double quotes, backslashes, line ends and
whatever has no printed form are escaped, so that a message stays on one line.
-/

namespace DeckPress.Text

/-- Lower case hexadecimal, without leading zeros. -/
def hexText (n : Nat) : List Char := Nat.toDigits 16 n

/-- One character as it stands between the quotes. -/
def quotedChar (c : Char) : List Char :=
  match c with
  | '\x00' => ['\\', '0']
  | '\t' => ['\\', 't']
  | '\n' => ['\\', 'n']
  | '\r' => ['\\', 'r']
  | '"' => ['\\', '"']
  | '\\' => ['\\', '\\']
  | _ =>
    if isPrintable c then [c] else ['\\', 'u', '{'] ++ hexText c.toNat ++ ['}']

/-- A text between quotes. -/
def quoted (s : String) : String :=
  String.ofList ('"' :: s.toList.flatMap quotedChar ++ ['"'])

end DeckPress.Text
