import DeckPress.Regex.Basic
import DeckPress.Regex.Notation

/-!
# What the notation means

A notation stands for an expression under the flags in force. Some notations stand for none: those that
ask for a property that does not exist, and, where the letters of other scripts are switched off, those
that could match a part of a character.
-/

namespace DeckPress.Regex

open Text

/-- The flags in force. -/
structure Mode where
  anyCase : Bool := false
  multiLine : Bool := false
  dotAll : Bool := false
  swapGreed : Bool := false
  anyLineEnd : Bool := false
  unicode : Bool := true
  deriving DecidableEq, Repr

/-- Switches one flag. -/
def Mode.set (m : Mode) : Flag × Bool → Mode
  | (.anyCase, on) => { m with anyCase := on }
  | (.multiLine, on) => { m with multiLine := on }
  | (.dotAll, on) => { m with dotAll := on }
  | (.swapGreed, on) => { m with swapGreed := on }
  | (.anyLineEnd, on) => { m with anyLineEnd := on }
  | (.unicode, on) => { m with unicode := on }
  | (.spaced, _) => m

def Mode.setAll (m : Mode) (settings : FlagSettings) : Mode := settings.foldl Mode.set m

/-- A set with what differs in case alone, if case does not count. -/
def Mode.adapt (m : Mode) (s : CodeRanges) : CodeRanges :=
  if !m.anyCase then s else if m.unicode then s.anyCase else s.anyAsciiCase

/-- A set, or all characters that are not in it. Without Unicode only ASCII characters can be asked for,
so there the others cannot. -/
def Mode.signed? (m : Mode) (negated : Bool) (s : CodeRanges) : Option CodeRanges :=
  let s := if negated then s.complement else s
  if m.unicode || s.isAscii then some s else none

/-- The members of a named class. -/
def AsciiClass.members : AsciiClass → CodeRanges
  | .alnum => .ofList [(0x30, 0x39), (0x41, 0x5a), (0x61, 0x7a)]
  | .alpha => .ofList [(0x41, 0x5a), (0x61, 0x7a)]
  | .ascii => .ofList [(0, 0x7f)]
  | .blank => .ofList [(0x09, 0x09), (0x20, 0x20)]
  | .cntrl => .ofList [(0, 0x1f), (0x7f, 0x7f)]
  | .digit => .ofList [(0x30, 0x39)]
  | .graph => .ofList [(0x21, 0x7e)]
  | .lower => .ofList [(0x61, 0x7a)]
  | .print => .ofList [(0x20, 0x7e)]
  | .punct => .ofList [(0x21, 0x2f), (0x3a, 0x40), (0x5b, 0x60), (0x7b, 0x7e)]
  | .space => .ofList [(0x09, 0x0d), (0x20, 0x20)]
  | .upper => .ofList [(0x41, 0x5a)]
  | .word => .ofList [(0x30, 0x39), (0x41, 0x5a), (0x5f, 0x5f), (0x61, 0x7a)]
  | .xdigit => .ofList [(0x30, 0x39), (0x41, 0x46), (0x61, 0x66)]

/-- White space of any script. -/
def whiteSpace : CodeRanges :=
  .ofList [(0x09, 0x0d), (0x20, 0x20), (0x85, 0x85), (0xa0, 0xa0), (0x1680, 0x1680), (0x2000, 0x200a),
    (0x2028, 0x2029), (0x202f, 0x202f), (0x205f, 0x205f), (0x3000, 0x3000)]

/-- The members of a class with a letter. -/
def LetterClass.members (unicode : Bool) : LetterClass → CodeRanges
  | .digit => if unicode then AsciiClass.digit.members.union digitTable else AsciiClass.digit.members
  | .white => if unicode then whiteSpace else AsciiClass.space.members
  | .word => if unicode then AsciiClass.word.members.union wordTable else AsciiClass.word.members

/-- The character of a literal. A byte that is no character can only be asked for with Unicode, which
takes it for the character with its number. -/
def Mode.character? (m : Mode) (l : Literal) : Option Char :=
  if m.unicode || !l.isByte || l.char.toNat < 0x80 then some l.char else none

/-- The character of a literal in a set. -/
def Mode.member? (m : Mode) (l : Literal) : Option Char :=
  if m.unicode || l.char.toNat < 0x80 then some l.char else none

def SetOperation.apply : SetOperation → CodeRanges → CodeRanges → CodeRanges
  | .meet, a, b => a.meet b
  | .minus, a, b => a.minus b
  | .differ, a, b => a.differ b

mutual

/-- The members of a set. Case is adapted before a set is negated or combined with another. -/
def SetNotation.members? (m : Mode) : SetNotation → Option CodeRanges
  | .chars first last => do return .range (← m.member? first) (← m.member? last)
  | .named c negated => m.signed? negated (m.adapt c.members)
  | .letter c negated => m.signed? negated (c.members m.unicode)
  | .property query negated =>
    if m.unicode then query.characters?.bind fun s => m.signed? negated (m.adapt s) else none
  | .union items => (SetNotation.membersOfItems? m items).map CodeRanges.unionAll
  | .combined operation left right => do
    return operation.apply (m.adapt (← left.members? m)) (m.adapt (← right.members? m))
  | .bracketed inner negated => (inner.members? m).bind fun s => m.signed? negated (m.adapt s)

/-- The members of each of several sets. -/
def SetNotation.membersOfItems? (m : Mode) : List SetNotation → Option (List CodeRanges)
  | [] => some []
  | item :: items => do return (← item.members? m) :: (← SetNotation.membersOfItems? m items)

end

/-- The characters that a dot stands for. -/
def Mode.dot? (m : Mode) : Option CodeRanges :=
  if !m.unicode then none
  else if m.dotAll then some .all
  else if m.anyLineEnd then some ((CodeRanges.single '\n').union (.single '\r')).complement
  else some (CodeRanges.single '\n').complement

/-- What an assertion asks for. -/
def Mode.anchor (m : Mode) : Assertion → Anchor
  | .lineStart => if m.multiLine then .lineStart m.anyLineEnd else .textStart
  | .lineEnd => if m.multiLine then .lineEnd m.anyLineEnd else .textEnd
  | .textStart => .textStart
  | .textEnd => .textEnd
  | .wordBoundary => .word .boundary !m.unicode
  | .noWordBoundary => .word .noBoundary !m.unicode
  | .wordStart => .word .start !m.unicode
  | .wordEnd => .word .stop !m.unicode
  | .noWordBefore => .word .noWordBefore !m.unicode
  | .noWordAfter => .word .noWordAfter !m.unicode

/-- The flags in force inside a group. -/
def Mode.inside (m : Mode) : GroupKind → Mode
  | .captured _ => m
  | .flagged settings => m.setAll settings

def GroupKind.wrap : GroupKind → Regex → Regex
  | .captured _, r => .group r
  | .flagged _, r => r

mutual

/-- What a notation means under flags, and the flags in force behind it. Flags hold up to the end of their
group, across its choices. -/
def Notation.meaning? : Notation → Mode → Option (Regex × Mode)
  | .nothing, m => some (.nothing, m)
  | .flags settings, m => some (.nothing, m.setAll settings)
  | .literal l, m => (m.character? l).map fun c => (.oneOf (m.adapt (.single c)), m)
  | .dot, m => m.dot?.map fun s => (.oneOf s, m)
  | .assertion a, m => some (.anchor (m.anchor a), m)
  | .set s, m => (s.members? m).map fun s => (.oneOf s, m)
  | .repeated inner least most greedy, m =>
    (inner.meaning? m).map fun (r, m) => (r.repeatedOf least most (greedy != m.swapGreed), m)
  | .group kind inner, m => (inner.meaning? (m.inside kind)).map fun (r, _) => (kind.wrap r, m)
  | .sequence parts, m => (Notation.meanings? parts m).map fun (rs, m) => (sequenceOf rs, m)
  | .choice parts, m => (Notation.meanings? parts m).map fun (rs, m) => (choiceOf rs, m)

/-- What notations mean that stand one behind the other. -/
def Notation.meanings? : List Notation → Mode → Option (List Regex × Mode)
  | [], m => some ([], m)
  | part :: parts, m =>
    match part.meaning? m with
    | some (r, m) => (Notation.meanings? parts m).map fun (rs, m) => (r :: rs, m)
    | none => none

end

end DeckPress.Regex
