import DeckPress.Number.Binary64
import DeckPress.Text.Basic

/-!
# Decimal text and binary64 numbers

Reading takes the number of the format nearest to the decimal. Writing takes the fewest digits that
read back: for one digit, two digits and so on, the two neighbours of the value on that decimal grid
are tested against the interval of reals that round to the value, and the first grid with a hit
wins. How the digits are laid out is the business of a `FloatLayout`.
-/

namespace DeckPress

open Text

/-- The value of a run of decimal digits. -/
def digitsValue (s : List Char) : Nat :=
  s.foldl (fun n c => n * 10 + (c.toNat - '0'.toNat)) 0

/-- A decimal `± digits · 10 ^ exponent`. -/
structure Decimal where
  negative : Bool
  digits : Nat
  exponent : Int
  deriving DecidableEq, Repr

namespace Decimal

/-- A sign, if there is one, and what follows it. -/
def splitSign : List Char → Bool × List Char
  | '-' :: s => (true, s)
  | '+' :: s => (false, s)
  | s => (false, s)

/-- The exponent after a number's digits: none, or `e` and a signed number. -/
def readExponent? : List Char → Option Int
  | [] => some 0
  | c :: s =>
    if c = 'e' || c = 'E' then
      let (negative, ds) := splitSign s
      if ds.isEmpty || !ds.all isAsciiDigit then none
      else some (if negative then -(digitsValue ds : Int) else digitsValue ds)
    else none

/-- Reads an optional sign, digits with an optional point among them, and an optional exponent. -/
def read? (s : List Char) : Option Decimal :=
  let (negative, s) := splitSign s
  let whole := s.takeWhile isAsciiDigit
  let s := s.dropWhile isAsciiDigit
  let (fraction, s) := match s with
    | '.' :: r => (r.takeWhile isAsciiDigit, r.dropWhile isAsciiDigit)
    | _ => ([], s)
  if whole.isEmpty && fraction.isEmpty then none
  else (readExponent? s).map fun e => ⟨negative, digitsValue (whole ++ fraction), e - fraction.length⟩

/-- The nearest number of the format. Decimals far outside its range are settled by their length
alone. -/
def toBinary64 (d : Decimal) : Binary64 :=
  let size : Int := (Nat.toDigits 10 d.digits).length + d.exponent
  if d.digits = 0 || size < -400 then .finite d.negative 0 (-1074)
  else if 400 < size then .infinite d.negative
  else if 0 ≤ d.exponent then .nearest d.negative (d.digits * Nat.pow 10 d.exponent.toNat) 1
  else .nearest d.negative d.digits (Nat.pow 10 (-d.exponent).toNat)

end Decimal

namespace Binary64

/-- How many decimal places to the left (negative: to the right) of the point the fraction
`num / den` has its first digit. -/
def decimalPlace (num den : Nat) : Int :=
  if den ≤ num then (Nat.toDigits 10 (num / den)).length
  else -(((List.range 400).takeWhile fun t => num * Nat.pow 10 (t + 1) < den).length : Int)

/-- The interval of reals that round to `m · 2 ^ e`, as two fractions over the denominator of
`m · 2 ^ (e - 2)`. -/
def roundingInterval (m : Nat) (e : Int) : Nat × Nat × Nat :=
  let below := if m = Nat.pow 2 52 && -1074 < e then 1 else 2
  let (low, den) := scale (4 * m - below) 1 (e - 2)
  let (high, _) := scale (4 * m + 2) 1 (e - 2)
  (low, high, den)

/-- The neighbour of `m · 2 ^ e` with `count` digits that rounds to it, if there is one. -/
def onGrid? (m : Nat) (e : Int) (count : Nat) : Option (Nat × Int) :=
  let (num, den) := ratio m e
  let k : Int := decimalPlace num den - count
  -- everything over `den * 10 ^ k`
  let up := Nat.pow 10 (-k).toNat
  let down := Nat.pow 10 k.toNat
  let (low, high, den4) := roundingInterval m e
  let inside (d : Nat) : Bool :=
    let x := d * down * den4
    if m % 2 = 0 then low * up ≤ x && x ≤ high * up else low * up < x && x < high * up
  let d := num * up / (den * down)
  let r := num * up % (den * down)
  match inside d, inside (d + 1) with
  | true, true => some (if 2 * r < den * down || (2 * r = den * down && d % 2 = 0) then d else d + 1, k)
  | true, false => some (d, k)
  | false, true => some (d + 1, k)
  | false, false => none

/-- The fewest decimal digits that read back as `m · 2 ^ e`, and the power of ten they count. The
upper neighbour of a value just below a power of ten is that power, with one digit too many. -/
def shortest (m : Nat) (e : Int) : Nat × Int :=
  let (d, k) := ((List.range 17).findSome? fun i => onGrid? m e (i + 1)).getD (0, 0)
  if d % 10 = 0 then (d / 10, k + 1) else (d, k)

end Binary64

/-- How the digits of a number are laid out. -/
structure FloatLayout where
  /-- Numbers whose first digit stands left of this place use an exponent. -/
  largest : Option Int
  /-- Numbers whose first digit stands right of this place use an exponent. -/
  smallest : Option Int
  /-- What whole numbers end in. -/
  wholeEnd : String
  /-- The sign of a positive exponent. -/
  positiveExponent : String
  infinity : String
  notANumber : String

namespace FloatLayout

/-- Digits with the point behind the place `place`. -/
def positional (f : FloatLayout) (ds : List Char) (place : Int) : List Char :=
  if place ≤ 0 then ['0', '.'] ++ List.replicate (-place).toNat '0' ++ ds
  else
    let n := place.toNat
    if ds.length ≤ n then ds ++ List.replicate (n - ds.length) '0' ++ f.wholeEnd.toList
    else ds.take n ++ '.' :: ds.drop n

/-- One digit, the others after a point, and the exponent. -/
def scientific (f : FloatLayout) (ds : List Char) (exponent : Int) : List Char :=
  let head := match ds with
    | d :: e :: rest => d :: '.' :: e :: rest
    | _ => ds
  let tail := if exponent < 0 then '-' :: Nat.toDigits 10 (-exponent).toNat
    else f.positiveExponent.toList ++ Nat.toDigits 10 exponent.toNat
  head ++ 'e' :: tail

/-- A number without its sign. -/
def magnitude (f : FloatLayout) (m : Nat) (e : Int) : List Char :=
  if m = 0 then '0' :: f.wholeEnd.toList
  else
    let (d, k) := Binary64.shortest m e
    let ds := Nat.toDigits 10 d
    let place := ds.length + k
    if f.largest.any (· < place) || f.smallest.any (place < ·) then f.scientific ds (place - 1)
    else f.positional ds place

/-- The text of a number. -/
def render (f : FloatLayout) : Binary64 → String
  | .finite s m e => String.ofList ((if s then ['-'] else []) ++ f.magnitude m e)
  | .infinite s => (if s then "-" else "") ++ f.infinity
  | .nan => f.notANumber

end FloatLayout

end DeckPress
