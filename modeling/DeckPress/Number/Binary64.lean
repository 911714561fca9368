/-!
# Double precision numbers, exactly

A finite number of the binary64 format is `m · 2 ^ q` with `m < 2 ^ 53` and `-1074 ≤ q`. Here it is
kept as that pair, so that every operation is exact arithmetic on naturals followed by one rounding,
`Binary64.nearest`: to the nearest number of the format, a tie to the even mantissa, and to infinity
above the largest one.

Canonical values have `2 ^ 52 ≤ m` unless `q = -1074`. All functions here return canonical values.
-/

namespace DeckPress

/-- A number of the binary64 format. -/
inductive Binary64 where
  /-- `± mantissa · 2 ^ exponent` -/
  | finite (negative : Bool) (mantissa : Nat) (exponent : Int)
  | infinite (negative : Bool)
  | nan
  deriving DecidableEq, Repr, Inhabited

namespace Binary64

/-- The quotient rounded to the nearest natural number, a tie to the even one. -/
def roundDiv (num den : Nat) : Nat :=
  let q := num / den
  let r := num % den
  if den < 2 * r || (2 * r = den && q % 2 = 1) then q + 1 else q

/-- A fraction multiplied by a power of two. -/
def scale (num den : Nat) (e : Int) : Nat × Nat :=
  if 0 ≤ e then (num * Nat.pow 2 e.toNat, den) else (num, den * Nat.pow 2 (-e).toNat)

/-- The exponent of the last mantissa bit of a number as large as `num / den`. -/
def lastBit (num den : Nat) : Int :=
  let e : Int := num.log2 - den.log2 - 52
  let (n, d) := scale num den (-e)
  max (if n < d * Nat.pow 2 52 then e - 1 else e) (-1074)

/-- The number of the format nearest to `± num / den`. -/
def nearest (negative : Bool) (num den : Nat) : Binary64 :=
  if num = 0 then .finite negative 0 (-1074)
  else
    let e := lastBit num den
    let (n, d) := scale num den (-e)
    let m := roundDiv n d
    let (m, e) := if m = Nat.pow 2 53 then (Nat.pow 2 52, e + 1) else (m, e)
    if 971 < e then .infinite negative else .finite negative m e

def ofNat (n : Nat) : Binary64 := nearest false n 1

def isNegative : Binary64 → Bool
  | .finite s _ _ => s
  | .infinite s => s
  | .nan => false

def isFinite : Binary64 → Bool
  | .finite .. => true
  | _ => false

def isZero : Binary64 → Bool
  | .finite _ m _ => m = 0
  | _ => false

/-- The absolute value of `m · 2 ^ e` as a fraction. -/
def ratio (m : Nat) (e : Int) : Nat × Nat := scale m 1 e

/-- Product, rounded once. -/
def mul : Binary64 → Binary64 → Binary64
  | .finite s m e, .finite t n f =>
    let (a, b) := ratio m e
    let (c, d) := ratio n f
    nearest (s != t) (a * c) (b * d)
  | .nan, _ => .nan
  | _, .nan => .nan
  | .infinite s, y => if y.isZero then .nan else .infinite (s != y.isNegative)
  | x, .infinite t => if x.isZero then .nan else .infinite (x.isNegative != t)

/-- Quotient, rounded once. -/
def div : Binary64 → Binary64 → Binary64
  | .finite s m e, .finite t n f =>
    if n = 0 then (if m = 0 then .nan else .infinite (s != t))
    else
      let (a, b) := ratio m e
      let (c, d) := ratio n f
      nearest (s != t) (a * d) (b * c)
  | .nan, _ => .nan
  | _, .nan => .nan
  | .infinite _, .infinite _ => .nan
  | .infinite s, .finite t _ _ => .infinite (s != t)
  | .finite s _ _, .infinite t => .finite (s != t) 0 (-1074)

/-- The nearest integer, a tie away from zero. -/
def round : Binary64 → Binary64
  | .finite s m e =>
    if 0 ≤ e then .finite s m e
    else
      let (a, b) := ratio m e
      nearest s ((2 * a + b) / (2 * b)) 1
  | x => x

/-- The natural number that a value without sign and fraction stands for. -/
def toNat? : Binary64 → Option Nat
  | .finite false m e =>
    let (a, b) := ratio m e
    if a % b = 0 then some (a / b) else none
  | _ => none

/-- Whether a value without sign is at most `n`. -/
def leNat (x : Binary64) (n : Nat) : Bool :=
  match x with
  | .finite s m e =>
    let (a, b) := ratio m e
    s || a ≤ n * b
  | .infinite s => s
  | .nan => false

end Binary64

end DeckPress
