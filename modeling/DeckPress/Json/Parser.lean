import DeckPress.Json.Value
import DeckPress.Number.Decimal

/-!
# Reading JSON

A reader for RFC 8259 text. A number without fraction and exponent is an integer when it fits a word
of 64 bits (unsigned, or signed when negative), otherwise a floating point number. `-0` is a floating
point number, since no integer is negative zero.

Text that follows the grammar may still stand for nothing: a number too large for the format, a string
with half a surrogate pair, a collection more than 127 levels deep. Such a piece is `unusable`: it may
stand where a reader passes over it, but nothing can be read from it.

Fields are kept in the order written, repeated keys included, so that a reader of typed options can
refuse a repetition. `Json.ofTree?` makes a value of it, in which the last of equal keys counts.
-/

namespace DeckPress.Json

open Text

/-- JSON text as written: fields in order, repetitions kept. An object one of whose keys is unusable is
so as a whole. -/
inductive Tree where
  | null
  | bool (b : Bool)
  | int (n : Int)
  | float (x : Binary64)
  | str (s : String)
  | arr (items : List Tree)
  | obj (fields : List (String × Tree))
  | unusable
  deriving Repr, Inhabited

mutual

/-- The value of a tree; of equal keys the last counts. -/
def ofTree? : Tree → Option Json
  | .null => some .null
  | .bool b => some (.bool b)
  | .int n => some (.int n)
  | .float x => some (.float x)
  | .str s => some (.str s)
  | .arr items => (ofTrees? items).map .arr
  | .obj fields => (ofTreeFields? fields).map fun fs => .obj (Fields.ofList fs)
  | .unusable => none

def ofTrees? : List Tree → Option (List Json)
  | [] => some []
  | t :: ts => do return (← ofTree? t) :: (← ofTrees? ts)

def ofTreeFields? : List (String × Tree) → Option (List (String × Json))
  | [] => some []
  | (k, t) :: rest => do return (k, ← ofTree? t) :: (← ofTreeFields? rest)

end

/-- JSON knows four blanks. -/
def isJsonBlank (c : Char) : Bool := c = ' ' || c = '\n' || c = '\t' || c = '\r'

def skipBlanks (s : List Char) : List Char := s.dropWhile isJsonBlank

/-- The number that four hexadecimal digits stand for, and what follows. -/
def readHex4? : List Char → Option (Nat × List Char)
  | a :: b :: c :: d :: rest => do
    let a ← hexDigit? a
    let b ← hexDigit? b
    let c ← hexDigit? c
    let d ← hexDigit? d
    return (((a * 16 + b) * 16 + c) * 16 + d, rest)
  | _ => none

/-- The character after `\u`: one unit, or a pair of surrogates. One half of a pair is no character. -/
def readUnicode? (s : List Char) : Option (Option Char × List Char) := do
  let (n, rest) ← readHex4? s
  if 0xd800 ≤ n && n ≤ 0xdbff then
    match rest with
    | '\\' :: 'u' :: rest' =>
      let (m, rest') ← readHex4? rest'
      if 0xdc00 ≤ m && m ≤ 0xdfff then
        return (some (Char.ofNat (0x10000 + (n - 0xd800) * 0x400 + (m - 0xdc00))), rest')
      else return (none, rest)
    | _ => return (none, rest)
  else if 0xdc00 ≤ n && n ≤ 0xdfff then return (none, rest)
  else return (some (Char.ofNat n), rest)

/-- The character after a backslash. -/
def readEscape? : List Char → Option (Option Char × List Char)
  | '"' :: r => some (some '"', r)
  | '\\' :: r => some (some '\\', r)
  | '/' :: r => some (some '/', r)
  | 'b' :: r => some (some (Char.ofNat 8), r)
  | 'f' :: r => some (some (Char.ofNat 12), r)
  | 'n' :: r => some (some '\n', r)
  | 'r' :: r => some (some '\r', r)
  | 't' :: r => some (some '\t', r)
  | 'u' :: r => readUnicode? r
  | _ => none

/-- The rest of a string after its opening quote, if it is usable, and what follows the closing one. The
text read so far is `acc`, last character first. -/
def readStringBody? : Nat → Option (List Char) → List Char → Option (Option String × List Char)
  | 0, _, _ => none
  | _ + 1, _, [] => none
  | fuel + 1, acc, c :: r =>
    if c = '"' then some (acc.map fun cs => String.ofList cs.reverse, r)
    else if c = '\\' then
      match readEscape? r with
      | some (d, r) => readStringBody? fuel (do return (← d) :: (← acc)) r
      | none => none
    else if c.toNat < 0x20 then none
    else readStringBody? fuel (acc.map (c :: ·)) r

def readString? (s : List Char) : Option (Option String × List Char) :=
  readStringBody? (s.length + 1) (some []) s

/-- A floating point number, if the format has it. -/
def floatTree (x : Binary64) : Tree :=
  match x with
  | .infinite _ => .unusable
  | x => .float x

/-- The value of a whole number with the given sign. -/
def wholeNumber (negative : Bool) (n : Nat) : Tree :=
  if !negative && n < Nat.pow 2 64 then .int n
  else if negative && n = 0 then .float (.finite true 0 (-1074))
  else if negative && n ≤ Nat.pow 2 63 then .int (-(n : Int))
  else floatTree (Decimal.mk negative n 0).toBinary64

/-- A number, and what follows it. A leading zero stands alone. -/
def readNumber? (s : List Char) : Option (Tree × List Char) :=
  let (negative, s) := match s with
    | '-' :: r => (true, r)
    | _ => (false, s)
  let whole := s.takeWhile isAsciiDigit
  let s := s.dropWhile isAsciiDigit
  if whole.isEmpty || (whole.head? = some '0' && 1 < whole.length) then none
  else
    let fraction? : Option (List Char × List Char) := match s with
      | '.' :: r =>
        let ds := r.takeWhile isAsciiDigit
        if ds.isEmpty then none else some (ds, r.dropWhile isAsciiDigit)
      | _ => some ([], s)
    match fraction? with
    | none => none
    | some (fraction, s) =>
      let exponent? : Option (Option Int × List Char) := match s with
        | c :: r =>
          if c = 'e' || c = 'E' then
            let (minus, r) := Decimal.splitSign r
            let ds := r.takeWhile isAsciiDigit
            if ds.isEmpty then none
            else
              let n : Int := digitsValue ds
              some (some (if minus then -n else n), r.dropWhile isAsciiDigit)
          else some (none, s)
        | [] => some (none, s)
      match exponent? with
      | none => none
      | some (exponent, s) =>
        if fraction.isEmpty && exponent.isNone then
          some (wholeNumber negative (digitsValue whole), s)
        else
          let d : Decimal :=
            ⟨negative, digitsValue (whole ++ fraction), exponent.getD 0 - fraction.length⟩
          some (floatTree d.toBinary64, s)

/-- A collection, if it is not too deep. -/
def Tree.within (depth : Nat) (t : Tree) : Tree := if depth = 0 then .unusable else t

/-- An object with these fields; it is unusable if one of them has no key. -/
def objectOf (fields : List (Option String × Tree)) : Tree :=
  match fields.mapM fun (k, t) => k.map (·, t) with
  | some fields => .obj fields
  | none => .unusable

mutual

/-- A value, and what follows it. Collections may be nested `depth` levels deep. -/
def readValue? : Nat → Nat → List Char → Option (Tree × List Char)
  | 0, _, _ => none
  | fuel + 1, depth, s =>
    match skipBlanks s with
    | [] => none
    | c :: r =>
      if c = '{' then
        match skipBlanks r with
        | '}' :: r => some ((Tree.obj []).within depth, r)
        | r => (readFields? fuel (depth - 1) r).map fun (fs, r) => ((objectOf fs).within depth, r)
      else if c = '[' then
        match skipBlanks r with
        | ']' :: r => some ((Tree.arr []).within depth, r)
        | r => (readItems? fuel (depth - 1) r).map fun (ts, r) => ((Tree.arr ts).within depth, r)
      else if c = '"' then (readString? r).map fun (t, r) => ((t.map .str).getD .unusable, r)
      else if c = 't' then (stripPrefix? "rue".toList r).map fun r => (.bool true, r)
      else if c = 'f' then (stripPrefix? "alse".toList r).map fun r => (.bool false, r)
      else if c = 'n' then (stripPrefix? "ull".toList r).map fun r => (.null, r)
      else readNumber? (c :: r)

/-- The items of an array up to its closing bracket. -/
def readItems? : Nat → Nat → List Char → Option (List Tree × List Char)
  | 0, _, _ => none
  | fuel + 1, depth, s =>
    match readValue? fuel depth s with
    | none => none
    | some (t, r) =>
      match skipBlanks r with
      | ',' :: r => (readItems? fuel depth r).map fun (ts, r) => (t :: ts, r)
      | ']' :: r => some ([t], r)
      | _ => none

/-- The fields of an object up to its closing brace. -/
def readFields? : Nat → Nat → List Char → Option (List (Option String × Tree) × List Char)
  | 0, _, _ => none
  | fuel + 1, depth, s =>
    match skipBlanks s with
    | '"' :: r =>
      match readString? r with
      | none => none
      | some (k, r) =>
        match skipBlanks r with
        | ':' :: r =>
          match readValue? fuel depth r with
          | none => none
          | some (t, r) =>
            match skipBlanks r with
            | ',' :: r => (readFields? fuel depth r).map fun (fs, r) => ((k, t) :: fs, r)
            | '}' :: r => some ([(k, t)], r)
            | _ => none
        | _ => none
    | _ => none

end

/-- Reads a whole text, with blanks around the value. -/
def parse? (s : String) : Option Tree :=
  let cs := s.toList
  match readValue? (2 * cs.length + 2) 127 cs with
  | some (t, rest) => if (skipBlanks rest).isEmpty then some t else none
  | none => none

end DeckPress.Json
