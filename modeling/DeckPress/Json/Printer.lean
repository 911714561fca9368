import DeckPress.Json.Value
import DeckPress.Number.Decimal

/-!
# JSON text

Compact: no blanks, the keys of an object in order. A number that is not finite has no JSON form and
is written as `null`.
-/

namespace DeckPress.Json

open Text

/-- Floating point numbers have the fewest digits that read back and always a point or an exponent;
an exponent is used from 10^16 up and below 10^-5, with its sign. -/
def floatLayout : FloatLayout where
  largest := some 16
  smallest := some (-4)
  wholeEnd := ".0"
  positiveExponent := "+"
  infinity := "null"
  notANumber := "null"

/-- Lower case hexadecimal digits for a control character. -/
def controlEscape (n : Nat) : List Char :=
  ['\\', 'u', '0', '0'] ++ (Nat.toDigits 16 (n / 16)) ++ (Nat.toDigits 16 (n % 16))

/-- One character inside a JSON string. -/
def escapeChar (c : Char) : List Char :=
  match c with
  | '"' => ['\\', '"']
  | '\\' => ['\\', '\\']
  | '\n' => ['\\', 'n']
  | '\r' => ['\\', 'r']
  | '\t' => ['\\', 't']
  | _ =>
    if c.toNat = 8 then ['\\', 'b']
    else if c.toNat = 12 then ['\\', 'f']
    else if c.toNat < 0x20 then controlEscape c.toNat
    else [c]

def renderString (s : String) : List Char :=
  '"' :: s.toList.flatMap escapeChar ++ ['"']

def renderFloat (x : Binary64) : List Char :=
  if x.isFinite then (floatLayout.render x).toList else "null".toList

mutual

/-- The text of a value. -/
def render : Json → List Char
  | .null => "null".toList
  | .bool true => "true".toList
  | .bool false => "false".toList
  | .int n => (toString n).toList
  | .float x => renderFloat x
  | .str s => renderString s
  | .arr items => '[' :: renderItems items ++ [']']
  | .obj fields => '{' :: renderFields fields ++ ['}']

/-- The items of an array with commas between them. -/
def renderItems : List Json → List Char
  | [] => []
  | [v] => render v
  | v :: vs => render v ++ ',' :: renderItems vs

/-- The fields of an object with commas between them. -/
def renderFields : List (String × Json) → List Char
  | [] => []
  | [(k, v)] => renderString k ++ ':' :: render v
  | (k, v) :: rest => renderString k ++ ':' :: render v ++ ',' :: renderFields rest

end

/-- The text of a value as a string. -/
def text (v : Json) : String := String.ofList v.render

end DeckPress.Json
