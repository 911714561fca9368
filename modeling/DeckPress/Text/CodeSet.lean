import DeckPress.Text.CodeRange
import DeckPress.Text.Table.CaseOrbit

/-!
# The algebra of code point sets

Sets in ascending ranges are closed under union, complement and what follows from them. Every result
is again ascending, and no two of its ranges touch, so equal sets have equal ranges.

Two characters differ in case alone if they lie in one orbit of simple case folding; closing a set under
this relation adds the orbits that it meets.
-/

namespace DeckPress.Text

/-- The last code point. -/
def lastCode : Nat := 0x10ffff

/-- Merges ascending ranges that overlap or touch. -/
def mergeRanges : List (Nat × Nat) → List (Nat × Nat)
  | [] => []
  | [r] => [r]
  | (a, b) :: (c, d) :: rs =>
    if c ≤ b + 1 then mergeRanges ((a, max b d) :: rs) else (a, b) :: mergeRanges ((c, d) :: rs)
termination_by rs => rs.length

/-- The ranges between ascending ranges, from `start` on. -/
def gapsFrom (start : Nat) : List (Nat × Nat) → List (Nat × Nat)
  | [] => if start ≤ lastCode then [(start, lastCode)] else []
  | (a, b) :: rs => if start < a then (start, a - 1) :: gapsFrom (b + 1) rs else gapsFrom (b + 1) rs

namespace CodeRanges

def ofSorted (rs : List (Nat × Nat)) : CodeRanges := ⟨(mergeRanges rs).toArray⟩

/-- The set of ranges in any order. -/
def ofList (rs : List (Nat × Nat)) : CodeRanges := ofSorted (rs.mergeSort fun r s => r.1 ≤ s.1)

def toList (t : CodeRanges) : List (Nat × Nat) := t.ranges.toList

def none : CodeRanges := ⟨#[]⟩

def all : CodeRanges := ⟨#[(0, lastCode)]⟩

/-- Whether all members are ASCII. -/
def isAscii (t : CodeRanges) : Bool := t.ranges.all fun (_, b) => b < 0x80

def range (first last : Char) : CodeRanges := ⟨#[(first.toNat, last.toNat)]⟩

def single (c : Char) : CodeRanges := range c c

def union (s t : CodeRanges) : CodeRanges :=
  ofSorted (s.toList.merge t.toList fun r s => r.1 ≤ s.1)

def complement (t : CodeRanges) : CodeRanges := ⟨(gapsFrom 0 t.toList).toArray⟩

def meet (s t : CodeRanges) : CodeRanges := (s.complement.union t.complement).complement

def minus (s t : CodeRanges) : CodeRanges := (s.complement.union t).complement

/-- What is in exactly one of two sets. -/
def differ (s t : CodeRanges) : CodeRanges := (s.minus t).union (t.minus s)

def unionAll (sets : List CodeRanges) : CodeRanges := ofList (sets.flatMap toList)

end CodeRanges

/-- The classes of characters that differ in case alone. -/
def caseOrbits : Thunk (List (List Nat)) :=
  .mk fun _ => (tableFields caseOrbitText.toList).map fun f => (splitOn (· = '+') f).map hexValue

/-- A set with all characters that differ from a member in case alone. -/
def CodeRanges.anyCase (t : CodeRanges) : CodeRanges :=
  let met := caseOrbits.get.filter fun orbit => orbit.any t.contains
  t.union (CodeRanges.ofList (met.flatten.map fun n => (n, n)))

/-- A set with all ASCII letters that differ from a member in case alone. -/
def CodeRanges.anyAsciiCase (t : CodeRanges) : CodeRanges :=
  let met := (List.range 26).filter fun k => t.contains (0x41 + k) || t.contains (0x61 + k)
  t.union (CodeRanges.ofList (met.flatMap fun k => [(0x41 + k, 0x41 + k), (0x61 + k, 0x61 + k)]))

end DeckPress.Text
