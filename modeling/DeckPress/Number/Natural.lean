import DeckPress.Text.CharClass

/-!
# Natural numbers in text

Decimal digits, which a plus sign may precede, for a number that fits a machine word.
-/

namespace DeckPress

open Text

/-- Reads a number below a bound. -/
def readNatBelow? (bound : Nat) (s : List Char) : Option Nat :=
  let digits := match s with
    | '+' :: rest => rest
    | _ => s
  if digits.isEmpty || !digits.all isAsciiDigit then none
  else
    let n := digits.foldl (fun n c => n * 10 + (c.toNat - '0'.toNat)) 0
    if n < bound then some n else none

end DeckPress
