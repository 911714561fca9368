import DeckPress.Component.Name
import DeckPress.Component.Script
import DeckPress.Proofs.Text.Search

/-!
# What scripts declare, after something was put in

A script is searched for declarations from the left, and none of the readers reads across a quote or a bracket,
but for one: the list between the braces of an import may hold anything. So where a text ends with such a sign,
the names found behind it do not depend on it, except that a list may be left open there.
-/

namespace DeckPress.Component

open Text

/-! ## Readers that stop at a sign -/

variable {α β : Type}

/-- A function of texts that does not look behind a sign, and hands on what stands there. -/
def StopsAt (x : Char) (read : List Char → Option (α × List Char)) : Prop :=
  ∀ a b, read (a ++ x :: b) = (read a).map fun (value, rest) => (value, rest ++ x :: b)

/-- A reader takes something off the text. -/
def Consumes (read : List Char → Option (α × List Char)) : Prop :=
  ∀ s value rest, read s = some (value, rest) → rest.length < s.length

/-- A reader takes a part off the text and hands on what stands behind it. -/
def Cuts (read : List Char → Option (α × List Char)) : Prop :=
  ∀ s value rest, read s = some (value, rest) → ∃ p, p ≠ [] ∧ s = p ++ rest

theorem Cuts.consumes {read : List Char → Option (α × List Char)} (hread : Cuts read) : Consumes read := by
  intro s value rest h
  obtain ⟨p, hp, rfl⟩ := hread s value rest h
  have hlength := List.length_pos_iff.mpr hp
  rw [List.length_append]
  omega

/-- The sign belongs to no word, name or blank. -/
structure Separates (x : Char) : Prop where
  word : isWord x = false
  start : startsIdentifier x = false
  name : isIdentifierChar x = false
  white : isWhite x = false

theorem separates_bracket : Separates '>' := ⟨by decide, by decide, by decide, by decide⟩

theorem separates_quote : Separates '\'' := ⟨by decide, by decide, by decide, by decide⟩

theorem stripPrefix?_stops {x : Char} {p : List Char} (hx : x ∉ p) (a b : List Char) :
    stripPrefix? p (a ++ x :: b) = (stripPrefix? p a).map (· ++ x :: b) := by
  induction p generalizing a with
  | nil => cases a <;> rfl
  | cons y p ih =>
    obtain ⟨hy, hp⟩ := List.ne_and_not_mem_of_not_mem_cons hx
    cases a with
    | nil =>
      exact if_neg (Ne.symm hy)
    | cons c a =>
      rw [List.cons_append, stripPrefix?, stripPrefix?]
      split
      · exact ih hp a
      · rfl

theorem trimStart_stops {x : Char} (hx : Separates x) (a b : List Char) :
    trimStart (a ++ x :: b) = trimStart a ++ x :: b :=
  dropWhile_append_cons hx.white a b

theorem readIdentifier?_stops {x : Char} (hx : Separates x) : StopsAt x readIdentifier? := by
  intro a b
  unfold readIdentifier?
  rw [head?_any_append_cons hx.start, takeWhile_append_cons hx.name, dropWhile_append_cons hx.name]
  split <;> rfl

theorem readDeclaration?_stops {x : Char} (hx : Separates x) {keyword : String} (hkeyword : x ∉ keyword.toList) :
    StopsAt x (readDeclaration? keyword) := by
  intro a b
  unfold readDeclaration?
  rw [stripPrefix?_stops hkeyword]
  cases stripPrefix? keyword.toList a with
  | none => rfl
  | some rest =>
    show (if (rest ++ x :: b).head?.any isWhite then readIdentifier? (trimStart (rest ++ x :: b)) else none) =
      Option.map _ (if rest.head?.any isWhite then readIdentifier? (trimStart rest) else none)
    rw [head?_any_append_cons hx.white, trimStart_stops hx]
    split
    · exact readIdentifier?_stops hx _ b
    · rfl

theorem findSome?_stops {x : Char} {readers : List String} {read : String → List Char → Option (α × List Char)}
    (h : ∀ r ∈ readers, StopsAt x (read r)) : StopsAt x fun s => readers.findSome? (read · s) := by
  intro a b
  induction readers with
  | nil => rfl
  | cons r readers ih =>
    obtain ⟨hr, hreaders⟩ := List.forall_mem_cons.mp h
    dsimp only
    rw [List.findSome?_cons, List.findSome?_cons, hr a b]
    cases read r a with
    | none => exact ih hreaders
    | some found => rfl

theorem eq_of_readIdentifier? {s n rest : List Char} (h : readIdentifier? s = some (n, rest)) : s = n ++ rest := by
  unfold readIdentifier? at h
  split at h
  · cases h
    exact List.takeWhile_append_dropWhile.symm
  · cases h

/-- What is read as declared stands behind the keyword and white space. -/
theorem exists_of_readDeclaration? {keyword : String} {s n rest : List Char}
    (h : readDeclaration? keyword s = some (n, rest)) :
    ∃ g, s = keyword.toList ++ (g ++ (n ++ rest)) ∧ g ≠ [] ∧ ∀ c ∈ g, isWhite c := by
  obtain ⟨behind, hstrip, h⟩ := Option.bind_eq_some_iff.mp h
  split at h
  · rename_i hwhite
    refine ⟨behind.takeWhile isWhite, ?_, ?_, fun c hc => List.mem_takeWhile_imp hc⟩
    · rw [← eq_of_readIdentifier? h, trimStart, List.takeWhile_append_dropWhile]
      exact eq_append_of_stripPrefix? hstrip
    · cases behind with
      | nil => cases hwhite
      | cons c behind =>
        rw [List.takeWhile_cons_of_pos (show isWhite c = true from hwhite)]
        exact List.cons_ne_nil _ _
  · cases h

theorem cuts_readDeclaration? {keyword : String} (hkeyword : keyword.toList ≠ []) :
    Cuts (readDeclaration? keyword) := by
  intro s n rest h
  obtain ⟨g, hs, -, -⟩ := exists_of_readDeclaration? h
  exact ⟨keyword.toList ++ (g ++ n), List.append_ne_nil_of_left_ne_nil hkeyword _, by simpa using hs⟩

theorem cuts_declaring : Cuts fun s => declaringKeywords.findSome? (readDeclaration? · s) := by
  have hsome : ∀ k ∈ declaringKeywords, k.toList ≠ [] := by decide
  intro s n rest h
  obtain ⟨k, hk, hread⟩ := List.exists_of_findSome?_eq_some h
  exact cuts_readDeclaration? (hsome k hk) s n rest hread

/-! ## Searching at words -/

variable {read : List Char → Option (α × List Char)}

theorem findAtWords_go_eq (hread : Consumes read) {s : List Char} {fuel fuel' : Nat} (h : s.length ≤ fuel)
    (h' : s.length ≤ fuel') (before : Option Char) :
    findAtWords.go read fuel before s = findAtWords.go read fuel' before s := by
  -- what is left to be searched gets shorter, so no fuel is missed
  induction fuel generalizing s fuel' before with
  | zero =>
    cases List.eq_nil_of_length_eq_zero (Nat.le_zero.mp h)
    cases fuel' <;> rfl
  | succ fuel ih =>
    cases s with
    | nil => cases fuel' <;> rfl
    | cons c s =>
      obtain ⟨fuel', rfl⟩ := Nat.exists_eq_add_one_of_ne_zero (Nat.ne_zero_of_lt h')
      rw [findAtWords.go, findAtWords.go]
      dsimp only
      split
      · rename_i value rest hfound
        split at hfound
        · cases hfound
        · have hshorter := hread _ _ _ hfound
          rw [ih (Nat.le_of_lt_succ (hshorter.trans_le h)) (Nat.le_of_lt_succ (hshorter.trans_le h'))]
      · exact ih (Nat.le_of_succ_le_succ h) (Nat.le_of_succ_le_succ h') _

theorem findAtWords_cons (hread : Consumes read) (before : Option Char) (c : Char) (cs : List Char) :
    findAtWords read before (c :: cs) =
      match (if before.any isWord then none else read (c :: cs)) with
      | some (value, rest) =>
        value :: findAtWords read ((c :: cs).take ((c :: cs).length - rest.length)).getLast? rest
      | none => findAtWords read (some c) cs := by
  unfold findAtWords
  rw [List.length_cons, findAtWords.go]
  dsimp only
  cases hfound : (if before.any isWord then none else read (c :: cs)) with
  | none => rfl
  | some found =>
    split at hfound
    · cases hfound
    · have hshorter := hread _ _ _ hfound
      dsimp only
      rw [findAtWords_go_eq hread (Nat.le_of_lt_succ hshorter) (Nat.le_refl _), List.length_cons]

namespace Cuts

theorem findAtWords_skip (hread : Cuts read) {before : Option Char} {c : Char} {s : List Char}
    (h : before.any isWord = false → read (c :: s) = none) :
    findAtWords read before (c :: s) = findAtWords read (some c) s := by
  have hnone : (if before.any isWord then none else read (c :: s)) = none := by
    by_cases hword : before.any isWord = true
    · exact if_pos hword
    · rw [if_neg hword]
      exact h (Bool.eq_false_iff.mpr hword)
  rw [findAtWords_cons hread.consumes, hnone]

theorem findAtWords_read (hread : Cuts read) {p rest : List Char} (hp : p ≠ []) {value : α}
    (h : read (p ++ rest) = some (value, rest)) {before : Option Char} (hword : before.any isWord = false) :
    findAtWords read before (p ++ rest) = value :: findAtWords read p.getLast? rest := by
  obtain ⟨c, q, rfl⟩ := List.exists_cons_of_ne_nil hp
  have htaken : (c :: q ++ rest).take ((c :: q ++ rest).length - rest.length) = c :: q := by
    rw [List.length_append, Nat.add_sub_cancel, List.take_left]
  rw [List.cons_append, findAtWords_cons hread.consumes, hword, if_neg Bool.false_ne_true, ← List.cons_append, h]
  dsimp only
  rw [htaken]

end Cuts

/-- What stands in front matters only as far as it goes on a word. -/
theorem findAtWords_before (hread : Consumes read) {before : Option Char} (h : before.any isWord = false)
    (s : List Char) : findAtWords read before s = findAtWords read none s := by
  cases s with
  | nil => rfl
  | cons c s => rw [findAtWords_cons hread, findAtWords_cons hread, h]; rfl

theorem taken_append {s rest : List Char} (h : rest.length < s.length) (b : List Char) :
    (s ++ b).take ((s ++ b).length - (rest ++ b).length) = s.take (s.length - rest.length) := by
  have hlength : (s ++ b).length - (rest ++ b).length = s.length - rest.length := by
    simp only [List.length_append]
    omega
  rw [hlength, List.take_append_of_le_length (Nat.sub_le _ _)]

/-- A sign at which the reader stops keeps what is found before it and behind it apart. -/
theorem findAtWords_append {x : Char} (hread : Consumes read) (hstop : StopsAt x read) (hnothing : read [] = none)
    (a b : List Char) (before : Option Char) :
    findAtWords read before (a ++ x :: b) = findAtWords read before a ++ findAtWords read (some x) b := by
  -- on the length: the search goes on behind what was read, which ends in front of the sign
  induction hlength : a.length using Nat.strong_induction_on generalizing a before with
  | _ n ih =>
    subst hlength
    cases a with
    | nil =>
      have hnone : read (x :: b) = none := by
        have hempty := hstop [] b
        rwa [hnothing] at hempty
      rw [List.nil_append, findAtWords_cons hread, hnone, ite_self]
      rfl
    | cons c a =>
      rw [List.cons_append, findAtWords_cons hread, findAtWords_cons hread, ← List.cons_append]
      by_cases hword : before.any isWord = true
      · rw [if_pos hword, if_pos hword]
        exact ih _ (Nat.lt_succ_self _) a (some c) rfl
      · rw [if_neg hword, if_neg hword, hstop]
        cases hfound : read (c :: a) with
        | none => exact ih _ (Nat.lt_succ_self _) a (some c) rfl
        | some found =>
          obtain ⟨value, rest⟩ := found
          have hshorter := hread _ _ _ hfound
          dsimp only [Option.map_some]
          rw [taken_append hshorter, ih _ hshorter rest _ rfl]
          rfl

/-- The same for a text that ends with the sign, or is empty. -/
theorem findAtWords_ended {x : Char} (hread : Consumes read) (hstop : StopsAt x read) (hnothing : read [] = none)
    (hx : isWord x = false) {a : List Char} (ha : ∀ c ∈ a.getLast?, c = x) (b : List Char) :
    findAtWords read none (a ++ b) = findAtWords read none a ++ findAtWords read none b := by
  cases hlast : a.getLast? with
  | none =>
    rw [List.getLast?_eq_none_iff.mp hlast]
    rfl
  | some c =>
    obtain ⟨front, rfl⟩ := List.getLast?_eq_some_iff.mp hlast
    have hc : c = x := ha c hlast
    have hbefore : (some x).any isWord = false := hx
    rw [hc, List.append_assoc, List.singleton_append, findAtWords_append hread hstop hnothing,
      findAtWords_append hread hstop hnothing, findAtWords_before hread hbefore]
    simp [findAtWords, findAtWords.go]

/-! ## The lists of imports -/

/-- Behind the name of a default import and a comma. -/
def afterDefault? (s : List Char) : Option (List Char) :=
  (readIdentifier? s).bind fun (_, rest) => (stripPrefix? [','] (trimStart rest)).map trimStart

/-- Behind the brace that opens the list of an import. -/
def readListStart? (s : List Char) : Option (List Char) :=
  (stripPrefix? "import".toList s).bind fun rest =>
    stripPrefix? ['\x7b'] ((afterDefault? (trimStart rest)).getD (trimStart rest))

theorem list_behind_brace (s : List Char) :
    (match s with
      | '\x7b' :: body => splitAt? ['\x7d'] body
      | _ => none) = (stripPrefix? ['\x7b'] s).bind (splitAt? ['\x7d']) := by
  split
  · rename_i body
    cases body <;> rfl
  · rename_i hnone
    cases s with
    | nil => rfl
    | cons c body =>
      rw [stripPrefix?, if_neg (fun hc => hnone body (by rw [← hc]))]
      rfl

theorem readNamedImport?_eq (s : List Char) :
    readNamedImport? s = (readListStart? s).bind (splitAt? ['\x7d']) := by
  have hdefault (s : List Char) : (do
      let (_, rest) ← readIdentifier? s
      let rest ← stripPrefix? [','] (trimStart rest)
      return trimStart rest) = afterDefault? s := by
    unfold afterDefault?
    cases readIdentifier? s with
    | none => rfl
    | some found =>
      dsimp only [Option.bind_eq_bind, Option.bind_some]
      cases stripPrefix? [','] (trimStart found.2) <;> rfl
  unfold readNamedImport? readListStart?
  cases stripPrefix? "import".toList s with
  | none => rfl
  | some rest =>
    dsimp only [Option.bind_eq_bind, Option.bind_some]
    rw [← list_behind_brace, ← hdefault]
    rfl

theorem readListStart?_stops {x : Char} (hx : Separates x) (himport : x ∉ "import".toList) (hcomma : x ≠ ',')
    (hbrace : x ≠ '\x7b') (a b : List Char) :
    readListStart? (a ++ x :: b) = (readListStart? a).map (· ++ x :: b) := by
  have hafter (s : List Char) : afterDefault? (s ++ x :: b) = (afterDefault? s).map (· ++ x :: b) := by
    unfold afterDefault?
    rw [readIdentifier?_stops hx]
    cases readIdentifier? s with
    | none => rfl
    | some found =>
      obtain ⟨name, rest⟩ := found
      dsimp only [Option.map_some, Option.bind_some]
      rw [trimStart_stops hx, stripPrefix?_stops (by simpa using hcomma), Option.map_map, Option.map_map]
      exact congrArg (Option.map · _) (funext fun rest => trimStart_stops hx rest b)
  unfold readListStart?
  rw [stripPrefix?_stops himport]
  cases stripPrefix? "import".toList a with
  | none => rfl
  | some rest =>
    dsimp only [Option.map_some, Option.bind_some]
    rw [trimStart_stops hx, hafter]
    cases afterDefault? (trimStart rest) with
    | none => exact stripPrefix?_stops (by simpa using hbrace) _ b
    | some more => exact stripPrefix?_stops (by simpa using hbrace) _ b

/-- What is left of a text behind a part without a closing brace. -/
def Passes (s rest : List Char) : Prop := ∃ p, s = p ++ rest ∧ '\x7d' ∉ p

namespace Passes

variable {s t rest : List Char}

theorem trans (h : Passes s t) (h' : Passes t rest) : Passes s rest := by
  obtain ⟨p, rfl, hp⟩ := h
  obtain ⟨q, rfl, hq⟩ := h'
  exact ⟨p ++ q, (List.append_assoc ..).symm, by simp [hp, hq]⟩

theorem dropWhile {f : Char → Bool} (hf : f '\x7d' = false) (s : List Char) : Passes s (s.dropWhile f) := by
  refine ⟨s.takeWhile f, List.takeWhile_append_dropWhile.symm, fun hmem => ?_⟩
  rw [List.mem_takeWhile_imp hmem] at hf
  cases hf

theorem trimStart (s : List Char) : Passes s (Text.trimStart s) := dropWhile (by decide) s

theorem stripPrefix? {p : List Char} (hp : '\x7d' ∉ p) (h : Text.stripPrefix? p s = some rest) : Passes s rest :=
  ⟨p, eq_append_of_stripPrefix? h, hp⟩

theorem readIdentifier? {name : List Char} (h : Component.readIdentifier? s = some (name, rest)) :
    Passes s rest := by
  unfold Component.readIdentifier? at h
  split at h
  · cases h
    exact dropWhile (by decide) s
  · cases h

theorem afterDefault? (h : Component.afterDefault? s = some rest) : Passes s rest := by
  obtain ⟨⟨name, more⟩, hname, h⟩ := Option.bind_eq_some_iff.mp h
  obtain ⟨behind, hcomma, rfl⟩ := Option.map_eq_some_iff.mp h
  exact (readIdentifier? hname).trans
    ((trimStart more).trans ((stripPrefix? (by decide) hcomma).trans (trimStart behind)))

end Passes

/-- A list opens behind a text without a closing brace. -/
theorem exists_of_readListStart? {s body : List Char} (h : readListStart? s = some body) :
    ∃ p, s = p ++ '\x7b' :: body ∧ '\x7d' ∉ p := by
  obtain ⟨rest, himport, h⟩ := Option.bind_eq_some_iff.mp h
  have hpassed : Passes s ((afterDefault? (trimStart rest)).getD (trimStart rest)) := by
    refine ((Passes.stripPrefix? (by decide) himport).trans (Passes.trimStart rest)).trans ?_
    cases hafter : afterDefault? (trimStart rest) with
    | none => exact ⟨[], rfl, List.not_mem_nil⟩
    | some more => exact Passes.afterDefault? hafter
  rw [eq_append_of_stripPrefix? h] at hpassed
  exact hpassed

/-- The list of an import stands between braces. -/
theorem exists_of_readNamedImport? {s list rest : List Char} (h : readNamedImport? s = some (list, rest)) :
    ∃ p, s = p ++ '\x7b' :: (list ++ '\x7d' :: rest) ∧ '\x7d' ∉ list ∧
      readListStart? s = some (list ++ '\x7d' :: rest) := by
  rw [readNamedImport?_eq] at h
  obtain ⟨body, hstart, hend⟩ := Option.bind_eq_some_iff.mp h
  obtain ⟨p, hs, -⟩ := exists_of_readListStart? hstart
  have hbody : body = list ++ '\x7d' :: rest := eq_append_of_splitAt? hend
  refine ⟨p, hbody ▸ hs, fun hmem => ?_, hbody ▸ hstart⟩
  obtain ⟨a, b, rfl⟩ := List.append_of_mem hmem
  exact not_infix_of_splitAt? (List.cons_ne_nil _ _) hend ⟨a, b, by simp⟩

theorem cuts_readNamedImport? : Cuts readNamedImport? := by
  intro s list rest h
  obtain ⟨p, hs, -, -⟩ := exists_of_readNamedImport? h
  exact ⟨p ++ '\x7b' :: (list ++ ['\x7d']), List.append_ne_nil_of_right_ne_nil _ (List.cons_ne_nil _ _), by
    simpa using hs⟩

theorem consumes_readNamedImport? : Consumes readNamedImport? := cuts_readNamedImport?.consumes

/-- The lists of the imports in a text. -/
def importLists (before : Option Char) (s : List Char) : List (List Char) := findAtWords readNamedImport? before s

theorem importLists_skip {before : Option Char} {c : Char} {s : List Char}
    (h : (if before.any isWord then none else readNamedImport? (c :: s)) = none) :
    importLists before (c :: s) = importLists (some c) s := by
  unfold importLists
  rw [findAtWords_cons consumes_readNamedImport?, h]

/-- Without a closing brace there is no list. -/
theorem importLists_open {s : List Char} (h : '\x7d' ∉ s) (before : Option Char) : importLists before s = [] := by
  induction s generalizing before with
  | nil => rfl
  | cons c s ih =>
    have hnone : readNamedImport? (c :: s) = none := by
      rw [readNamedImport?_eq, Option.bind_eq_none_iff]
      intro body hstart
      obtain ⟨p, hp, -⟩ := exists_of_readListStart? hstart
      rw [splitAt?_eq_none]
      intro hclose
      rw [hp] at h
      exact h (List.mem_append_right p (List.mem_cons_of_mem _ (hclose.subset (List.mem_singleton_self _))))
    rw [importLists_skip (by rw [hnone, ite_self])]
    exact ih (List.not_mem_of_not_mem_cons h) _

/-- A brace that closes a list opened before. -/
theorem splitAt?_append_left {x : Char} {body : List Char} (h : x ∉ body) (z : List Char) :
    splitAt? [x] (body ++ z) = (splitAt? [x] z).map fun (y, w) => (body ++ y, w) := by
  induction body with
  | nil =>
    rw [List.nil_append]
    cases splitAt? [x] z <;> rfl
  | cons c body ih =>
    obtain ⟨hc, hbody⟩ := List.ne_and_not_mem_of_not_mem_cons h
    rw [List.cons_append, splitAt?, stripPrefix?, if_neg hc, ih hbody, Option.map_map]
    rfl

/-- A sign at which no name, blank or brace is read. -/
structure Ends (x : Char) : Prop extends Separates x where
  letter : x ∉ "import".toList
  comma : x ≠ ','
  opening : x ≠ '\x7b'
  closing : x ≠ '\x7d'

theorem ends_bracket : Ends '>' :=
  { separates_bracket with letter := by decide, comma := by decide, opening := by decide, closing := by decide }

theorem ends_quote : Ends '\'' :=
  { separates_quote with letter := by decide, comma := by decide, opening := by decide, closing := by decide }

theorem readListStart?_ended {x : Char} (hx : Ends x) {a : List Char} (ha : ∀ c ∈ a.getLast?, c = x)
    (hsome : a ≠ [])
    (b : List Char) : readListStart? (a ++ b) = (readListStart? a).map (· ++ b) := by
  obtain ⟨front, hfront⟩ : ∃ front, a = front ++ [x] := by
    have hlast := List.getLast?_eq_some_getLast hsome
    rw [ha _ hlast] at hlast
    exact List.getLast?_eq_some_iff.mp hlast
  have hstops := readListStart?_stops hx.toSeparates hx.letter hx.comma hx.opening front
  rw [hfront, hstops [], List.append_assoc, List.singleton_append, hstops b, Option.map_map]
  congr 1
  funext rest
  simp

/-- How the search for lists goes on behind a text: either as if nothing stood in front, or a list was left
open. -/
inductive GoesOn (before : Option Char) (a : List Char) : Prop where
  | apart : (∀ b, importLists before (a ++ b) = importLists before a ++ importLists none b) → GoesOn before a
  | within (p body : List Char) : a = p ++ '\x7b' :: body → body ≠ [] →
      (∀ b, importLists before (a ++ b) = importLists before a ++
        match splitAt? ['\x7d'] b with
        | some (y, w) => (body ++ y) :: importLists none w
        | none => []) → GoesOn before a

/-- Behind a part of the text it goes on as behind the rest. -/
theorem GoesOn.of_part {before after : Option Char} {q w : List Char} (found : List (List Char))
    (hpart : ∀ b, importLists before (q ++ w ++ b) = found ++ importLists after (w ++ b)) (h : GoesOn after w) :
    GoesOn before (q ++ w) := by
  have hwhole := hpart []
  rw [List.append_nil, List.append_nil] at hwhole
  cases h with
  | apart hall => exact .apart fun b => by rw [hpart, hwhole, hall, List.append_assoc]
  | within p body hw hsome hall =>
    refine .within (q ++ p) body (by rw [hw, List.append_assoc]) hsome fun b => ?_
    rw [hpart, hwhole, hall, List.append_assoc]

/-- A list that is closed behind the text. -/
theorem importLists_read {before : Option Char} (hword : before.any isWord = false) {s front rest list : List Char}
    (hs : s = front ++ '\x7d' :: rest) (h : readNamedImport? s = some (list, rest)) :
    importLists before s = list :: importLists none rest := by
  have hsplit : s = (front ++ ['\x7d']) ++ rest := by simpa using hs
  have hsome : front ++ ['\x7d'] ≠ [] := List.append_ne_nil_of_right_ne_nil _ (List.cons_ne_nil _ _)
  rw [hsplit] at h ⊢
  unfold importLists
  rw [cuts_readNamedImport?.findAtWords_read hsome h hword, List.getLast?_concat,
    findAtWords_before consumes_readNamedImport? (by decide)]

/-- Where a list is opened and not closed. -/
theorem goesOn_of_open {x : Char} (hx : Ends x) {a body : List Char} (ha : ∀ c ∈ a.getLast?, c = x)
    (hsome : a ≠ [])
    {before : Option Char} (hword : before.any isWord = false) (hstart : readListStart? a = some body)
    (hopen : '\x7d' ∉ body) : GoesOn before a := by
  obtain ⟨p, hp, hfront⟩ := exists_of_readListStart? hstart
  have hwhole : '\x7d' ∉ a := by
    rw [hp, List.mem_append, List.mem_cons, not_or, not_or]
    exact ⟨hfront, by decide, hopen⟩
  refine .within p body hp ?_ fun b => ?_
  · rintro rfl
    rw [hp] at ha
    exact hx.opening (ha '\x7b' (by simp)).symm
  · have hread : readNamedImport? (a ++ b) = (splitAt? ['\x7d'] b).map fun (y, w) => (body ++ y, w) := by
      rw [readNamedImport?_eq, readListStart?_ended hx ha hsome, hstart]
      exact splitAt?_append_left hopen b
    rw [importLists_open hwhole, List.nil_append]
    cases hclose : splitAt? ['\x7d'] b with
    | none =>
      refine importLists_open (fun hmem => ?_) before
      have hb : '\x7d' ∈ b := (List.mem_append.mp hmem).resolve_left hwhole
      obtain ⟨y, w, rfl⟩ := List.append_of_mem hb
      exact splitAt?_eq_none.mp hclose ⟨y, w, by simp⟩
    | some found =>
      obtain ⟨y, w⟩ := found
      rw [hclose] at hread
      have hb : a ++ b = (a ++ y) ++ '\x7d' :: w := by
        rw [eq_append_of_splitAt? hclose, List.append_assoc]
        rfl
      exact importLists_read hword hb hread

/-- Where a list is opened and closed, and the text goes on. -/
theorem goesOn_of_closed {x : Char} (hx : Ends x) {a body y w : List Char} (ha : ∀ c ∈ a.getLast?, c = x)
    (hsome : a ≠ []) {before : Option Char} (hword : before.any isWord = false)
    (hstart : readListStart? a = some body) (hclose : splitAt? ['\x7d'] body = some (y, w)) (hrest : GoesOn none w) :
    GoesOn before a := by
  obtain ⟨p, hp, -⟩ := exists_of_readListStart? hstart
  have hbody := eq_append_of_splitAt? hclose
  have hcut : a = p ++ '\x7b' :: (y ++ ['\x7d']) ++ w := by
    rw [hp, hbody]
    simp
  have hopen : '\x7d' ∉ y := fun hmem => by
    obtain ⟨y₁, y₂, rfl⟩ := List.append_of_mem hmem
    exact not_infix_of_splitAt? (List.cons_ne_nil _ _) hclose ⟨y₁, y₂, by simp⟩
  -- whatever comes behind, the list ends where it did
  have hlist (b : List Char) : readNamedImport? (a ++ b) = some (y, w ++ b) := by
    have hend := splitAt?_append hopen [] (w ++ b)
    rw [readNamedImport?_eq, readListStart?_ended hx ha hsome, hstart, Option.map_some, Option.bind_some, hbody]
    simpa using hend
  have hread (b : List Char) : importLists before (a ++ b) = y :: importLists none (w ++ b) := by
    have hends : a ++ b = (p ++ '\x7b' :: y) ++ '\x7d' :: (w ++ b) := by
      rw [hcut]
      simp
    exact importLists_read hword hends (hlist b)
  rw [hcut] at hread ⊢
  exact .of_part [y] hread hrest

/-- Behind a text that ends with such a sign, or is empty. -/
theorem goesOn {x : Char} (hx : Ends x) {a : List Char} (ha : ∀ c ∈ a.getLast?, c = x) {before : Option Char}
    (hbefore : a = [] → before.any isWord = false) : GoesOn before a := by
  -- the search goes on behind a list, or one character further: the rest is shorter and ends as the text does
  induction hlength : a.length using Nat.strong_induction_on generalizing a before with
  | _ n ih =>
    subst hlength
    cases a with
    | nil =>
      refine .apart fun b => ?_
      rw [List.nil_append, importLists, findAtWords_before consumes_readNamedImport? (hbefore rfl)]
      rfl
    | cons c a =>
      have hlater : ∀ d ∈ a.getLast?, d = x := fun d hd =>
        ha d (by rw [List.getLast?_cons, Option.mem_def.mp hd]; rfl)
      have hnext : GoesOn (some c) a := by
        refine ih _ (Nat.lt_succ_self _) hlater (fun hnone => ?_) rfl
        subst hnone
        exact (ha c rfl) ▸ hx.word
      by_cases hword : before.any isWord = true
      · exact .of_part (q := [c]) [] (fun b => importLists_skip (if_pos hword)) hnext
      · cases hstart : readListStart? (c :: a) with
        | none =>
          refine .of_part (q := [c]) [] (fun b => importLists_skip ?_) hnext
          have hnone := readListStart?_ended hx ha (List.cons_ne_nil c a) b
          rw [hstart] at hnone
          rw [if_neg hword, readNamedImport?_eq]
          exact congrArg (Option.bind · _) hnone
        | some body =>
          replace hword : before.any isWord = false := Bool.eq_false_iff.mpr hword
          cases hclose : splitAt? ['\x7d'] body with
          | none =>
            have hopen : '\x7d' ∉ body := fun hmem => by
              obtain ⟨y, w, rfl⟩ := List.append_of_mem hmem
              exact splitAt?_eq_none.mp hclose ⟨y, w, by simp⟩
            exact goesOn_of_open hx ha (List.cons_ne_nil c a) hword hstart hopen
          | some found =>
            obtain ⟨y, w⟩ := found
            obtain ⟨p, hp, -⟩ := exists_of_readListStart? hstart
            have hcut : c :: a = (p ++ '\x7b' :: (y ++ ['\x7d'])) ++ w := by
              rw [hp, eq_append_of_splitAt? hclose]
              simp
            have hended : ∀ d ∈ w.getLast?, d = x := fun d hd =>
              ha d (by rw [hcut, List.getLast?_append, Option.mem_def.mp hd]; rfl)
            have hshorter : w.length < (c :: a).length := by
              rw [hcut]
              simp only [List.length_append, List.length_cons]
              omega
            have hrest : GoesOn none w := ih _ hshorter hended (fun _ => rfl) rfl
            exact goesOn_of_closed hx ha (List.cons_ne_nil c a) hword hstart hclose hrest

/-! ## The names in a list -/

/-- The sign stands around the names of a list. -/
def isListBreak (c : Char) : Bool := isWhite c || c = ','

/-- A name is bound by a list if it is the last word in front of a comma or of the end. -/
theorem mem_boundNames {list n : List Char} :
    n ∈ boundNames list ↔ ∃ u v w, list = u ++ (n ++ v ++ w) ∧ (∀ c ∈ u.getLast?, isListBreak c) ∧
      (∀ c ∈ v, isWhite c) ∧ (∀ c ∈ w.head?, c = ',') ∧ n ≠ [] ∧
        ∀ c ∈ n, isListBreak c = false := by
  unfold boundNames isListBreak
  rw [List.mem_filterMap]
  constructor
  · rintro ⟨piece, hpiece, hlast⟩
    obtain ⟨a, w, rfl, ha, hw, hcomma⟩ := mem_splitOn.mp hpiece
    obtain ⟨b, v, rfl, hb, hv, hsome, hn⟩ := getLast?_words.mp hlast
    refine ⟨a ++ b, v, w, by simp only [List.append_assoc], fun c hc => ?_, hv, by simpa using hw, hsome,
      fun c hc => ?_⟩
    · rw [List.getLast?_append] at hc
      cases hend : b.getLast? with
      | none =>
        rw [hend] at hc
        simp [ha c hc]
      | some d =>
        rw [hend] at hc
        cases hc
        simp [hb _ hend]
    · have hout := hcomma c (List.mem_append_right b (List.mem_append_left v hc))
      simp [hn c hc, hout]
  · rintro ⟨u, v, w, rfl, hu, hv, hw, hsome, hn⟩
    -- the piece goes from the last comma in front of the name to the next comma behind it
    obtain ⟨b, heq, hb, ha⟩ := exists_dropEndWhile (· ≠ ',') u
    generalize dropEndWhile (· ≠ ',') u = a at heq ha
    subst heq
    simp only [Bool.or_eq_false_iff] at hn
    have hblank : ∀ c ∈ b.getLast?, isWhite c = true := fun c hc => by
      have hbreak := hu c (by rw [List.getLast?_append, Option.mem_def.mp hc]; rfl)
      have hout : c ≠ ',' := by simpa using hb c (List.mem_of_getLast? hc)
      simpa [hout] using hbreak
    have hpiece : ∀ c ∈ b ++ (n ++ v), decide (c = ',') = false := fun c hc => by
      simp only [List.mem_append] at hc
      rcases hc with hc | hc | hc
      · simpa using hb c hc
      · exact (hn c hc).2
      · have hwhite := hv c hc
        refine decide_eq_false fun hcomma => ?_
        rw [hcomma] at hwhite
        exact absurd hwhite (by decide)
    refine ⟨b ++ (n ++ v), mem_splitOn.mpr ⟨a, w, by simp only [List.append_assoc], ?_,
      by simpa using hw, hpiece⟩,
      getLast?_words.mpr ⟨b, v, rfl, hblank, hv, hsome, fun c hc => (hn c hc).1⟩⟩
    intro c hc
    simpa using ha c hc

/-- What is put into a list behind a bracket takes no name from it that has none. -/
theorem boundNames_insert {front y n : List Char} (hn : '>' ∉ n) (h : n ∈ boundNames (front ++ '>' :: y))
    (z : List Char) : n ∈ boundNames (front ++ '>' :: (z ++ y)) := by
  obtain ⟨u, v, w, heq, hu, hv, hw, hsome, hbreaks⟩ := mem_boundNames.mp h
  have hplain : '>' ∉ n ++ v := by
    rw [List.mem_append, not_or]
    exact ⟨hn, fun hmem => absurd (hv _ hmem) (by decide)⟩
  rw [mem_boundNames]
  -- the name stands behind the bracket, or in front of it; what is put in comes not next to it
  rcases cut_of_not_mem hplain heq with ⟨u', rfl, rfl⟩ | ⟨w', rfl, rfl⟩
  · refine ⟨front ++ '>' :: (z ++ u'), v, w, by simp only [List.append_assoc, List.cons_append], fun c hc => ?_, hv,
      hw, hsome, hbreaks⟩
    cases hlast : u'.getLast? with
    | none =>
      have hbracket := hu '>' (by simp [List.getLast?_append, List.getLast?_cons, hlast])
      exact absurd hbracket (by decide)
    | some d =>
      refine hu c ?_
      simpa [List.getLast?_append, List.getLast?_cons, hlast] using hc
  · refine ⟨u, v, w' ++ '>' :: (z ++ y), by simp only [List.append_assoc], hu, hv, fun c hc => ?_, hsome, hbreaks⟩
    cases w' with
    | nil => exact absurd (hw '>' rfl) (by decide)
    | cons d w' => exact hw c hc

/-! ## Scripts with statements put in -/

/-- An import statement for each, on lines of their own. -/
def importLines (rs : List Resolution) : List Char := rs.flatMap fun r => '\n' :: r.statement.toList

/-- A name that is read as a whole. -/
structure IsIdentifier (n : List Char) : Prop where
  start : n.head?.any startsIdentifier
  rest : ∀ c ∈ n, isIdentifierChar c

theorem toList_statement (r : Resolution) :
    r.statement.toList =
      "import".toList ++ ' ' :: (r.specifier.toList ++ (" from '".toList ++ r.path.toList)) ++ ['\''] := by
  have hkeyword : "import ".toList = "import".toList ++ [' '] := by decide
  have hquote : "'".toList = ['\''] := by decide
  unfold Resolution.statement
  simp only [String.toList_append, hkeyword, hquote, List.append_assoc, List.cons_append, List.nil_append]

theorem importLines_ends (rs : List Resolution) : ∀ c ∈ (importLines rs).getLast?, c = '\'' := by
  induction rs with
  | nil => exact fun c hc => nomatch hc
  | cons r rs ih =>
    intro c hc
    rw [importLines, List.flatMap_cons, toList_statement, List.getLast?_append] at hc
    cases hlast : (importLines rs).getLast? with
    | none =>
      rw [importLines] at hlast
      rw [hlast, ← List.cons_append, List.getLast?_concat] at hc
      exact (Option.some.inj hc).symm
    | some d =>
      rw [importLines] at hlast
      rw [hlast] at hc
      cases hc
      exact ih _ hlast

theorem isWhite_of_startsIdentifier {c : Char} (h : startsIdentifier c) : isWhite c = false := by
  have hcode : c.toNat = 36 ∨ (65 ≤ c.toNat ∧ c.toNat ≤ 122) := by
    simp only [startsIdentifier, isAsciiAlpha, isAsciiLower, isAsciiUpper, Bool.or_eq_true, Bool.and_eq_true,
      decide_eq_true_eq, Char.le_def, UInt32.le_iff_toNat_le] at h
    rcases h with (h | rfl) | rfl
    · exact .inr (by change (97 ≤ c.toNat ∧ c.toNat ≤ 122) ∨ (65 ≤ c.toNat ∧ c.toNat ≤ 90) at h; omega)
    · exact .inr (by decide)
    · exact .inl rfl
  have hspace : c ≠ ' ' := by
    rintro rfl
    exact absurd hcode (by decide)
  simp only [isWhite, Bool.or_eq_false_iff, decide_eq_false_iff_not, Bool.and_eq_false_iff, hspace,
    not_false_eq_true, true_and]
  omega

namespace IsIdentifier

variable {n : List Char}

theorem exists_cons (h : IsIdentifier n) : ∃ c rest, n = c :: rest ∧ startsIdentifier c = true := by
  cases n with
  | nil => cases h.start
  | cons c rest => exact ⟨c, rest, rfl, h.start⟩

/-- A name is read up to the first character that does not belong to it. -/
theorem readIdentifier? (h : IsIdentifier n) {c : Char} (hc : isIdentifierChar c = false) (rest : List Char) :
    Component.readIdentifier? (n ++ c :: rest) = some (n, c :: rest) := by
  have hhead : (n ++ c :: rest).head?.any startsIdentifier = true := by
    obtain ⟨d, more, rfl, hd⟩ := h.exists_cons
    exact hd
  rw [Component.readIdentifier?, if_pos hhead, takeWhile_append_cons hc, dropWhile_append_cons hc,
    List.takeWhile_eq_self_iff.mpr h.rest, List.dropWhile_eq_nil_iff.mpr h.rest, List.nil_append]

theorem trimStart_space (h : IsIdentifier n) (rest : List Char) : trimStart (' ' :: (n ++ rest)) = n ++ rest := by
  obtain ⟨c, more, rfl, hc⟩ := h.exists_cons
  rw [trimStart, List.dropWhile_cons_of_pos (by decide), List.cons_append,
    List.dropWhile_cons_of_neg (by simp [isWhite_of_startsIdentifier hc])]

end IsIdentifier

/-- A statement declares the name that it imports. -/
theorem mem_declarations_statement {r : Resolution} (h : IsIdentifier r.specifier.toList) :
    r.specifier.toList ∈ findAtWords (readDeclaration? "import") none ('\n' :: r.statement.toList) := by
  have hconsumes : Consumes (readDeclaration? "import") := (cuts_readDeclaration? (by decide)).consumes
  have hspace : " from '".toList = ' ' :: "from '".toList := by decide
  have hread : readDeclaration? "import" r.statement.toList =
      some (r.specifier.toList, ' ' :: ("from '".toList ++ r.path.toList ++ ['\''])) := by
    rw [toList_statement, hspace, readDeclaration?, List.append_assoc, stripPrefix?_append]
    simp only [Option.bind_eq_bind, Option.bind_some, List.cons_append, List.append_assoc]
    rw [h.trimStart_space, h.readIdentifier? (by decide)]
    rfl
  have hline : readDeclaration? "import" ('\n' :: r.statement.toList) = none := rfl
  rw [findAtWords_cons hconsumes, hline, ite_self]
  dsimp only
  rw [findAtWords_before hconsumes (by decide)]
  cases hstatement : r.statement.toList with
  | nil =>
    rw [hstatement] at hread
    cases hread
  | cons c cs =>
    rw [findAtWords_cons hconsumes, ← hstatement, Option.any_none, if_neg Bool.false_ne_true, hread]
    exact List.mem_cons_self

theorem mem_declarations_importLines {rs : List Resolution} {r : Resolution} (hr : r ∈ rs)
    (h : IsIdentifier r.specifier.toList) :
    r.specifier.toList ∈ findAtWords (readDeclaration? "import") none (importLines rs) := by
  induction rs with
  | nil => cases hr
  | cons other rs ih =>
    have hends : ∀ c ∈ ('\n' :: other.statement.toList).getLast?, c = '\'' := by
      have hone := importLines_ends [other]
      rwa [importLines, List.flatMap_cons, List.flatMap_nil, List.append_nil] at hone
    rw [importLines, List.flatMap_cons, findAtWords_ended (cuts_readDeclaration? (by decide)).consumes
      (readDeclaration?_stops separates_quote (by decide)) rfl separates_quote.word hends, List.mem_append]
    rcases List.mem_cons.mp hr with rfl | hr
    · exact .inl (mem_declarations_statement h)
    · exact .inr (ih hr)

/-- What is found behind keywords when something is put in: what was found, and what is found in it. -/
theorem findAtWords_inserted {α : Type} {read : List Char → Option (α × List Char)} (hread : Consumes read)
    (hbracket : StopsAt '>' read) (hquote : StopsAt '\'' read) (hnothing : read [] = none) {x z : List Char}
    (hx : ∀ c ∈ x.getLast?, c = '>') (hz : ∀ c ∈ z.getLast?, c = '\'') (y : List Char) :
    findAtWords read none (x ++ (z ++ y)) =
      findAtWords read none x ++ (findAtWords read none z ++ findAtWords read none y) := by
  rw [findAtWords_ended hread hbracket hnothing separates_bracket.word hx,
    findAtWords_ended hread hquote hnothing separates_quote.word hz]

theorem importLists_insert {x z y n : List Char} (hx : ∀ c ∈ x.getLast?, c = '>')
    (hz : ∀ c ∈ z.getLast?, c = '\'')
    (hopening : '\x7b' ∉ z) (hclosing : '\x7d' ∉ z) (hn : '>' ∉ n)
    (h : n ∈ (importLists none (x ++ y)).flatMap boundNames) :
    n ∈ (importLists none (x ++ (z ++ y))).flatMap boundNames := by
  have hbehind : GoesOn none x := goesOn ends_bracket hx fun _ => rfl
  cases hbehind with
  | apart hall =>
    have hlater : importLists none (z ++ y) = importLists none z ++ importLists none y := by
      have hquoted : GoesOn none z := goesOn ends_quote hz fun _ => rfl
      cases hquoted with
      | apart hall => exact hall y
      | within p body hopen =>
        rw [hopen] at hopening
        exact absurd (List.mem_append_right p List.mem_cons_self) hopening
    rw [hall, List.flatMap_append, List.mem_append] at h
    rw [hall, hlater, List.flatMap_append, List.flatMap_append, List.mem_append, List.mem_append]
    exact h.imp_right .inr
  | within p body hopen hsome hall =>
    rw [hall, List.flatMap_append, List.mem_append] at h
    rw [hall, List.flatMap_append, List.mem_append]
    refine h.imp_right fun h => ?_
    rw [splitAt?_append_left hclosing]
    cases hclose : splitAt? ['\x7d'] y with
    | none =>
      rw [hclose] at h
      exact h
    | some found =>
      obtain ⟨list, w⟩ := found
      rw [hclose] at h
      dsimp only [Option.map_some] at h ⊢
      rw [List.flatMap_cons, List.mem_append] at h ⊢
      -- only the list that is left open has changed, and it was left open behind a bracket
      refine h.imp_left fun h => ?_
      obtain ⟨front, rfl⟩ : ∃ front, body = front ++ ['>'] := by
        have hlast := List.getLast?_eq_some_getLast hsome
        have hend : x.getLast? = some (body.getLast hsome) := by
          rw [hopen, List.getLast?_append, List.getLast?_cons, hlast]
          rfl
        rw [hx _ hend] at hlast
        exact List.getLast?_eq_some_iff.mp hlast
      rw [List.append_assoc, List.singleton_append] at h ⊢
      exact boundNames_insert hn h z

theorem stopsAt_declaring {x : Char} (hx : Separates x) (hkeywords : ∀ k ∈ declaringKeywords, x ∉ k.toList) :
    StopsAt x fun s => declaringKeywords.findSome? (readDeclaration? · s) :=
  findSome?_stops fun k hk => readDeclaration?_stops hx (hkeywords k hk)

/-- What is put in behind a text that ends with a bracket, and has no braces, takes no name from a script. -/
theorem namesInScript_insert {x z y n : List Char} (hx : ∀ c ∈ x.getLast?, c = '>')
    (hz : ∀ c ∈ z.getLast?, c = '\'')
    (hopening : '\x7b' ∉ z) (hclosing : '\x7d' ∉ z) (hn : '>' ∉ n) (h : n ∈ namesInScript (x ++ y)) :
    n ∈ namesInScript (x ++ (z ++ y)) := by
  have himport : Consumes (readDeclaration? "import") := (cuts_readDeclaration? (by decide)).consumes
  have hstays {read : List Char → Option (List Char × List Char)} (hread : Consumes read)
      (hbracket : StopsAt '>' read) (hquote : StopsAt '\'' read) (hnothing : read [] = none)
      (h : n ∈ findAtWords read none (x ++ y)) : n ∈ findAtWords read none (x ++ (z ++ y)) := by
    rw [findAtWords_ended hread hbracket hnothing separates_bracket.word hx, List.mem_append] at h
    rw [findAtWords_inserted hread hbracket hquote hnothing hx hz, List.mem_append, List.mem_append]
    exact h.imp_right .inr
  unfold namesInScript at h ⊢
  rw [List.mem_append, List.mem_append] at h ⊢
  rcases h with (h | h) | h
  · exact .inl (.inl (hstays himport (readDeclaration?_stops separates_bracket (by decide))
      (readDeclaration?_stops separates_quote (by decide)) rfl h))
  · exact .inl (.inr (importLists_insert hx hz hopening hclosing hn h))
  · exact .inr (hstays cuts_declaring.consumes (stopsAt_declaring separates_bracket (by decide))
      (stopsAt_declaring separates_quote (by decide)) rfl h)

/-- The names of the statements put in are found. -/
theorem mem_namesInScript_importLines {x : List Char} (hx : ∀ c ∈ x.getLast?, c = '>') {rs : List Resolution}
    {r : Resolution} (hr : r ∈ rs) (h : IsIdentifier r.specifier.toList) (y : List Char) :
    r.specifier.toList ∈ namesInScript (x ++ (importLines rs ++ y)) := by
  have himport : Consumes (readDeclaration? "import") := (cuts_readDeclaration? (by decide)).consumes
  have hfound := findAtWords_inserted himport (readDeclaration?_stops separates_bracket (by decide))
    (readDeclaration?_stops separates_quote (by decide)) rfl hx (importLines_ends rs) y
  unfold namesInScript
  rw [hfound]
  simp [mem_declarations_importLines hr h]

end DeckPress.Component
