import DeckPress.Url.HostName
import DeckPress.Url.Percent

/-!
# Hosts

A host is a name, an address of four bytes, or in brackets an address of eight pieces. Only whether a host
is valid matters here.
-/

namespace DeckPress.Url

open Text

/-- The characters that no host contains. -/
def isForbiddenInHost (c : Char) : Bool :=
  ['\x00', '\t', '\n', '\r', ' ', '#', '/', ':', '<', '>', '?', '@', '[', '\\', ']', '^', '|'].contains c

/-- The characters that no name of a host contains. -/
def isForbiddenInName (c : Char) : Bool := isForbiddenInHost c || isControl c || c = '%'

/-- The value of digits of a base. -/
def digitsIn? (base : Nat) (s : List Char) : Option Nat :=
  s.foldl (fun acc c => do return (← acc) * base + (← (hexDigit? c).filter (· < base))) (some 0)

/-- A piece of an address of four bytes: hexadecimal, octal or decimal. -/
def addressNumber? : List Char → Option Nat
  | [] => none
  | '0' :: 'x' :: s | '0' :: 'X' :: s => digitsIn? 16 s
  | ['0'] => some 0
  | '0' :: s => digitsIn? 8 s
  | s => digitsIn? 10 s

/-- The pieces of a name between dots, without an empty one at the end. -/
def labels (name : List Char) : List (List Char) :=
  let ls := splitOn (· = '.') name
  match ls.getLast? with
  | some [] => if ls.length = 1 then ls else ls.dropLast
  | _ => ls

/-- Whether the last piece of a name is a number, so that the name has to be an address. -/
def endsInNumber (name : List Char) : Bool :=
  match (labels name).getLast? with
  | some [] | none => false
  | some last => last.all isAsciiDigit || (addressNumber? last).isSome

/-- Whether a name is an address of four bytes. The last piece stands for all bytes that are left. -/
def isFourByteAddress (name : List Char) : Bool :=
  let pieces := labels name
  match pieces.mapM addressNumber? with
  | some numbers =>
    numbers.length ≤ 4 && numbers.dropLast.all (· < 256) &&
      (numbers.getLast?.any (· < Nat.pow 256 (5 - numbers.length)))
  | none => false

/-- Whether a text is one to four hexadecimal digits. -/
def isHexPiece (s : List Char) : Bool := !s.isEmpty && s.length ≤ 4 && s.all isHexDigit

/-- Whether a text is four decimal bytes, as they may end an address of eight pieces. -/
def isDottedQuad (s : List Char) : Bool :=
  let pieces := splitOn (· = '.') s
  pieces.length = 4 && pieces.all fun p =>
    !p.isEmpty && p.all isAsciiDigit && (p.length = 1 || p.head? ≠ some '0') &&
      (digitsIn? 10 p).any (· < 256)

/-- How many of the eight pieces a colon-separated text has; four bytes count for two. -/
def pieceCount? (mayEndInBytes : Bool) (s : List Char) : Option Nat :=
  if s.isEmpty then some 0
  else
    let pieces := splitOn (· = ':') s
    match pieces.getLast? with
    | some last =>
      if mayEndInBytes && isDottedQuad last then
        if pieces.dropLast.all isHexPiece then some (pieces.length + 1) else none
      else if pieces.all isHexPiece then some pieces.length
      else none
    | none => none

/-- Whether a text is an address of eight pieces. Two colons stand for the pieces that are left out. -/
def isEightPieceAddress (s : List Char) : Bool :=
  match splitAt? [':', ':'] s with
  | none => pieceCount? true s = some 8
  | some (before, after) =>
    match pieceCount? false before, pieceCount? true after with
    | some m, some n => m + n ≤ 7
    | _, _ => false

/-- Whether a host is valid. In the special schemes it is a name, which may be percent encoded. -/
def isHost (special : Bool) (host : List Char) : Bool :=
  match host with
  | '[' :: rest =>
    match stripSuffix? [']'] rest with
    | some address => isEightPieceAddress address
    | none => false
  | _ =>
    if special then
      match String.fromUTF8? (ByteArray.mk (percentDecode host).toArray) with
      | some text =>
        match hostName? text.toList with
        | some name =>
          !name.isEmpty && !name.any isForbiddenInName && (!endsInNumber name || isFourByteAddress name)
        | none => false
      | none => false
    else !host.any isForbiddenInHost

end DeckPress.Url
