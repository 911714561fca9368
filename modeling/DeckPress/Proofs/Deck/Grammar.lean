import DeckPress.Deck.Parser
import DeckPress.Proofs.Text.Lines

/-!
# The grammar of decks

A deck is a sequence of sections. A section has a head, a separator with or without front matter behind
it, and a body of lines and code fences; only the first section may lack a head. What a separator is the
head of depends on lines far behind it, since front matter is front matter only if it is closed. So a
deck is cut up together with the lines that follow, down to those that have not been read.

There are two results. The reader of blocks does to every deck cut up in this way what the cut says; and
every deck can be cut up, either to its end or to a fence that is never closed. Everything else about
decks follows from these two.
-/

namespace DeckPress.Deck

open Text

/-! ## Sections -/

/-- Whether a line closes the code fence with this marker. -/
def closesFence (marker : List Char) (line : Line) : Bool := startsWith marker (trimStart line)

/-- A stretch of a body: a line of text, or a code fence as a whole. -/
inductive Piece where
  | text (line : Line)
  | fence (opening : Line) (inside : List Line) (closing : Line)

namespace Piece

def lines : Piece → List Line
  | text line => [line]
  | fence opening inside closing => opening :: (inside ++ [closing])

theorem lines_fence_append (opening : Line) (inside : List Line) (closing : Line) (rest : List Line) :
    (fence opening inside closing).lines ++ rest = opening :: (inside ++ closing :: rest) := by
  simp [lines]

theorem length_lines_fence (opening : Line) (inside : List Line) (closing : Line) :
    (fence opening inside closing).lines.length = inside.length + 2 := by
  simp [lines]

/-- A line of text neither separates slides nor opens a fence. A fence is closed by the first line that
starts with its marker. -/
inductive Valid : Piece → Prop where
  | text {line : Line} : isSeparator line = false → fenceMarker? line = none → Valid (text line)
  | fence {opening closing : Line} {inside : List Line} {marker : List Char} :
      fenceMarker? opening = some marker → (∀ l ∈ inside, closesFence marker l = false) →
      closesFence marker closing → Valid (fence opening inside closing)

end Piece

/-- Lines that are front matter when this line follows them: the first looks like a field, no code fence
starts in them, and the line is the first that closes them. -/
structure IsFrontMatter (fields : List Line) (closing : Line) : Prop where
  field : fields.head?.any looksLikeField
  unfenced : ∀ l ∈ fields, fenceMarker? l = none
  unclosed : ∀ l ∈ fields, closesFrontMatter l = false
  closes : closesFrontMatter closing

/-- What stands in front of the body of a section. -/
inductive Head where
  | separator (line : Line)
  /-- A separator, front matter, and the line that closes it. -/
  | frontMatter (line : Line) (fields : List Line) (closing : Line)

namespace Head

def lines : Head → List Line
  | separator line => [line]
  | frontMatter line fields closing => line :: (fields ++ [closing])

/-- The lines of the front matter. -/
def fields? : Head → Option (List Line)
  | separator _ => none
  | frontMatter _ fields _ => some fields

/-- A head fits in front of some lines: it starts with a separator, and has front matter exactly if
there is some to be read behind the separator. -/
inductive Fits (after : List Line) : Head → Prop where
  | separator {line : Line} : isSeparator line →
      (∀ fields closing rest, after = fields ++ closing :: rest → ¬ IsFrontMatter fields closing) →
      Fits after (separator line)
  | frontMatter {line closing : Line} {fields : List Line} : isSeparator line →
      IsFrontMatter fields closing → Fits after (frontMatter line fields closing)

end Head

/-- A stretch of a deck up to the next separator. -/
structure Section where
  head : Option Head
  body : List Piece

namespace Section

def headLines (s : Section) : List Line := (s.head.map Head.lines).getD []

def bodyLines (s : Section) : List Line := s.body.flatMap Piece.lines

def lines (s : Section) : List Line := s.headLines ++ s.bodyLines

/-- The lines of the front matter. -/
def fields? (s : Section) : Option (List Line) := s.head.bind Head.fields?

/-- A section is well formed in front of some lines. -/
structure Valid (s : Section) (after : List Line) : Prop where
  head : ∀ h ∈ s.head, h.Fits (s.bodyLines ++ after)
  body : ∀ q ∈ s.body, q.Valid

end Section

/-- Lines fall into sections, one after the other, down to the lines `rest`. -/
inductive Falls (rest : List Line) : List Section → List Line → Prop where
  | nil : Falls rest [] rest
  | cons {s : Section} {sections : List Section} {after : List Line} :
      s.Valid after → Falls rest sections after → Falls rest (s :: sections) (s.lines ++ after)

/-- The sections of a deck, down to the lines `rest`. No line is lost, a head starts every section but
the first, and no section is without lines unless it is the only one. -/
structure Sectioning (deck : List Line) (sections : List Section) (rest : List Line) : Prop where
  falls : Falls rest sections deck
  some : sections ≠ []
  headed : ∀ s ∈ sections.tail, s.head.isSome
  occupied : sections.tail ≠ [] → ∀ s ∈ sections, s.lines ≠ []

/-- A line that opens a code fence which none of the later lines closes. -/
def OpenFence (opening : Line) (later : List Line) : Prop :=
  ∃ marker, fenceMarker? opening = some marker ∧ ∀ l ∈ later, closesFence marker l = false

/-- Where the reading of a deck ends: behind the last line, or at a fence that stays open. -/
def Stops : List Line → Prop
  | [] => True
  | opening :: later => OpenFence opening later

/-- The lines of the sections and the rest are the deck. -/
theorem Falls.lines_eq {rest deck : List Line} {sections : List Section} (h : Falls rest sections deck) :
    sections.flatMap Section.lines ++ rest = deck := by
  induction h with
  | nil => rfl
  | cons _ _ ih => rw [List.flatMap_cons, List.append_assoc, ih]

theorem Falls.valid {rest deck : List Line} {sections : List Section} (h : Falls rest sections deck) :
    ∀ s ∈ sections, ∃ after, s.Valid after := by
  induction h with
  | nil => intro s hs; cases hs
  | cons hvalid _ ih =>
    intro s hs
    rcases List.mem_cons.mp hs with rfl | hs
    · exact ⟨_, hvalid⟩
    · exact ih s hs

/-! ## Signs of lines -/

/-- A separator starts with a hyphen. -/
theorem isSeparator_head {line : Line} (h : isSeparator line) : ∃ rest, line = '-' :: rest := by
  obtain ⟨behind, hline⟩ := prefix_trimEnd line
  unfold isSeparator at h
  split at h
  · rename_i rest htrim
    rw [htrim] at hline
    exact ⟨_, hline.symm⟩
  · cases h

/-- A line that opens a fence starts with a mark, white space aside. -/
theorem fenceMarker?_head {line : Line} {marker : List Char} (h : fenceMarker? line = some marker) :
    ∃ c rest, trimStart line = c :: rest ∧ (c = '`' ∨ c = '~') := by
  unfold fenceMarker? at h
  split at h
  · cases h
  · rename_i c rest htrim
    split at h
    · rename_i hc
      exact ⟨c, rest, htrim, by simpa using hc⟩
    · cases h

theorem trimStart_of_isSeparator {line : Line} (h : isSeparator line) :
    ∃ rest, trimStart line = '-' :: rest := by
  obtain ⟨rest, rfl⟩ := isSeparator_head h
  exact ⟨rest, List.dropWhile_cons_of_neg (by decide)⟩

/-- No line both opens a fence and separates slides. -/
theorem isSeparator_of_fenceMarker? {line : Line} {marker : List Char}
    (h : fenceMarker? line = some marker) : isSeparator line = false := by
  rw [Bool.eq_false_iff]
  intro hs
  obtain ⟨rest, hhyphen⟩ := trimStart_of_isSeparator hs
  obtain ⟨c, cs, htrim, hc⟩ := fenceMarker?_head h
  rw [hhyphen] at htrim
  cases htrim
  rcases hc with hc | hc <;> cases hc

/-- No line both looks like a field and separates slides. -/
theorem looksLikeField_of_isSeparator {line : Line} (h : isSeparator line) :
    looksLikeField line = false := by
  obtain ⟨rest, hhyphen⟩ := trimStart_of_isSeparator h
  unfold looksLikeField
  rw [hhyphen]
  rfl

/-- The line that closes front matter separates slides, and opens no fence. -/
theorem isSeparator_of_closes {line : Line} (h : closesFrontMatter line) : isSeparator line := by
  unfold closesFrontMatter at h
  unfold isSeparator
  rw [of_decide_eq_true h]
  rfl

theorem fenceMarker?_of_closes {line : Line} (h : closesFrontMatter line) : fenceMarker? line = none := by
  cases hf : fenceMarker? line with
  | none => rfl
  | some marker =>
    have hs := isSeparator_of_fenceMarker? hf
    rw [isSeparator_of_closes h] at hs
    cases hs

/-! ## Front matter behind a separator -/

/-- The line that closes the front matter behind a separator, counted from there. -/
def frontMatterEnd? (after : List Line) : Option Nat :=
  if after.head?.any looksLikeField then closingLine? after else none

/-- The first member of a list with a property stands behind those without it. -/
theorem findIdx?_append_cons {test : Line → Bool} {before : List Line} {l : Line}
    (hbefore : ∀ x ∈ before, test x = false) (hl : test l) (rest : List Line) :
    (before ++ l :: rest).findIdx? test = some before.length := by
  rw [List.findIdx?_append, List.findIdx?_eq_none_iff.mpr hbefore, List.findIdx?_cons, if_pos hl]
  simp

/-- Lines are cut in one way at the first of them with a property. -/
theorem append_cons_inj {test : Line → Bool} {as bs cs ds : List Line} {x y : Line}
    (has : ∀ l ∈ as, test l = false) (hx : test x) (hcs : ∀ l ∈ cs, test l = false) (hy : test y)
    (h : as ++ x :: bs = cs ++ y :: ds) : as = cs ∧ x = y ∧ bs = ds := by
  have hfirst := findIdx?_append_cons has hx bs
  rw [h, findIdx?_append_cons hcs hy] at hfirst
  obtain ⟨hsame, hrest⟩ := List.append_inj h (Option.some.inj hfirst).symm
  exact ⟨hsame, List.cons.inj hrest⟩

theorem closingLine?_append {fields : List Line} {closing : Line}
    (hunfenced : ∀ l ∈ fields, fenceMarker? l = none)
    (hunclosed : ∀ l ∈ fields, closesFrontMatter l = false) (hcloses : closesFrontMatter closing)
    (rest : List Line) : closingLine? (fields ++ closing :: rest) = some fields.length := by
  unfold closingLine?
  rw [List.takeWhile_append_of_pos (by simpa using hunfenced),
    List.takeWhile_cons_of_pos (by simp [fenceMarker?_of_closes hcloses])]
  exact findIdx?_append_cons hunclosed hcloses _

theorem closingLine?_some {after : List Line} {n : Nat} (h : closingLine? after = some n) :
    ∃ fields closing rest, after = fields ++ closing :: rest ∧ fields.length = n ∧
      (∀ l ∈ fields, fenceMarker? l = none) ∧ (∀ l ∈ fields, closesFrontMatter l = false) ∧
      closesFrontMatter closing := by
  induction after generalizing n with
  | nil => cases h
  | cons l after ih =>
    unfold closingLine? at h
    by_cases hl : fenceMarker? l = none
    · rw [List.takeWhile_cons_of_pos (by simp [hl]), List.findIdx?_cons] at h
      split at h
      · rename_i hc
        cases h
        exact ⟨[], l, after, rfl, rfl, by simp, by simp, hc⟩
      · rename_i hc
        obtain ⟨m, hm, rfl⟩ := Option.map_eq_some_iff.mp h
        obtain ⟨fields, closing, rest, rfl, rfl, hunfenced, hunclosed, hcloses⟩ := ih hm
        refine ⟨l :: fields, closing, rest, rfl, rfl, ?_, ?_, hcloses⟩
        · exact List.forall_mem_cons.mpr ⟨hl, hunfenced⟩
        · exact List.forall_mem_cons.mpr ⟨by simpa using hc, hunclosed⟩
    · rw [List.takeWhile_cons_of_neg (by simpa using hl)] at h
      cases h

/-- Front matter is read exactly where there is some. -/
theorem frontMatterEnd?_eq_some {after : List Line} {n : Nat} :
    frontMatterEnd? after = some n ↔
      ∃ fields closing rest, after = fields ++ closing :: rest ∧ fields.length = n ∧
        IsFrontMatter fields closing := by
  unfold frontMatterEnd?
  constructor
  · intro h
    split at h
    · rename_i hfield
      obtain ⟨fields, closing, rest, rfl, hn, hunfenced, hunclosed, hcloses⟩ := closingLine?_some h
      refine ⟨fields, closing, rest, rfl, hn, ?_, hunfenced, hunclosed, hcloses⟩
      cases fields with
      | nil =>
        -- the line that closes front matter is no field itself
        have hclosing : looksLikeField closing = true := hfield
        rw [looksLikeField_of_isSeparator (isSeparator_of_closes hcloses)] at hclosing
        cases hclosing
      | cons l fields => exact hfield
    · cases h
  · rintro ⟨fields, closing, rest, rfl, rfl, hfield, hunfenced, hunclosed, hcloses⟩
    rw [if_pos ?_, closingLine?_append hunfenced hunclosed hcloses]
    cases fields with
    | nil => cases hfield
    | cons l fields => exact hfield

theorem frontMatterEnd?_append {fields : List Line} {closing : Line} (h : IsFrontMatter fields closing)
    (rest : List Line) : frontMatterEnd? (fields ++ closing :: rest) = some fields.length :=
  frontMatterEnd?_eq_some.mpr ⟨fields, closing, rest, rfl, rfl, h⟩

theorem frontMatterEnd?_eq_none {after : List Line} :
    frontMatterEnd? after = none ↔
      ∀ fields closing rest, after = fields ++ closing :: rest → ¬ IsFrontMatter fields closing := by
  constructor
  · rintro hnone fields closing rest rfl hfront
    rw [frontMatterEnd?_append hfront] at hnone
    cases hnone
  · intro h
    cases hend : frontMatterEnd? after with
    | none => rfl
    | some n =>
      obtain ⟨fields, closing, rest, hafter, -, hfront⟩ := frontMatterEnd?_eq_some.mp hend
      exact absurd hfront (h fields closing rest hafter)

/-! ## What the reader does to sections -/

/-- A block of which only the head has been read. -/
def Head.block (h : Head) (start : Nat) : Block := ⟨start, start, h.fields?, []⟩

/-- The block of a section that has been read and is not closed yet. -/
def Section.opened (s : Section) (start : Nat) : Block := ⟨start, start, s.fields?, s.bodyLines⟩

/-- The block that is read from a section. -/
def Section.block (s : Section) (start : Nat) : Block := (s.opened start).closeAt (start + s.lines.length)

/-- The blocks that are read from sections, the first of which starts at line `start`. -/
def blocksFrom (start : Nat) : List Section → List Block
  | [] => []
  | s :: sections => s.block start :: blocksFrom (start + s.lines.length) sections

theorem readBlocks_head {h : Head} {after : List Line} (hfits : h.Fits after) (i : Nat)
    (current : Block) :
    readBlocks i current (h.lines ++ after) =
      if i = 0 then readBlocks (i + h.lines.length) (h.block i) after
      else (readBlocks (i + h.lines.length) (h.block i) after).map (current.closeAt i :: ·) := by
  cases hfits with
  | @separator line hline hnone =>
    have hend := frontMatterEnd?_eq_none.mpr hnone
    unfold frontMatterEnd? at hend
    rw [Head.lines, List.singleton_append, readBlocks, if_pos hline, hend]
    rfl
  | @frontMatter line closing fields hline hfront =>
    have hend := frontMatterEnd?_append hfront after
    unfold frontMatterEnd? at hend
    have hlines : (Head.frontMatter line fields closing).lines ++ after =
        line :: (fields ++ closing :: after) := by simp [Head.lines]
    have hlen : i + (Head.frontMatter line fields closing).lines.length = i + fields.length + 2 := by
      simp [Head.lines, Nat.add_assoc]
    have hdrop : (fields ++ closing :: after).drop (fields.length + 1) = after := by simp
    rw [hlines, hlen, readBlocks, if_pos hline, hend]
    dsimp only
    rw [hdrop, List.take_left]
    rfl

theorem readBlocks_piece {q : Piece} (hvalid : q.Valid) (i : Nat) (current : Block)
    (rest : List Line) :
    readBlocks i current (q.lines ++ rest) =
      readBlocks (i + q.lines.length) (current.addLines q.lines) rest := by
  cases hvalid with
  | text hline hfence =>
    rw [Piece.lines, List.singleton_append, readBlocks, if_neg (by simp [hline]), hfence]
    rfl
  | @fence opening closing inside marker hmarker hinside hclosing =>
    have hlines := Piece.lines_fence_append opening inside closing rest
    have hend : (inside ++ closing :: rest).findIdx? (fun l => startsWith marker (trimStart l)) =
        some inside.length := findIdx?_append_cons hinside hclosing rest
    have hdrop : (inside ++ closing :: rest).drop (inside.length + 1) = rest := by simp
    have htake : (inside ++ closing :: rest).take (inside.length + 1) = inside ++ [closing] := by
      rw [List.append_cons]
      exact List.take_left' (by simp)
    rw [hlines, readBlocks, if_neg (by simp [isSeparator_of_fenceMarker? hmarker]), hmarker]
    dsimp only
    rw [hend]
    dsimp only
    rw [hdrop, htake]
    have hlen : i + (Piece.fence opening inside closing).lines.length = i + inside.length + 2 := by
      rw [Piece.length_lines_fence, Nat.add_assoc]
    rw [hlen]
    rfl

theorem readBlocks_body {body : List Piece} (hvalid : ∀ q ∈ body, q.Valid) (i : Nat)
    (current : Block) (rest : List Line) :
    readBlocks i current (body.flatMap Piece.lines ++ rest) =
      readBlocks (i + (body.flatMap Piece.lines).length)
        (current.addLines (body.flatMap Piece.lines)) rest := by
  induction body generalizing i current with
  | nil => simp [Block.addLines]
  | cons q body ih =>
    have hbody := ih fun x hx => hvalid x (List.mem_cons_of_mem q hx)
    rw [List.flatMap_cons, List.append_assoc, readBlocks_piece (hvalid q List.mem_cons_self), hbody,
      List.length_append, Nat.add_assoc]
    simp only [Block.addLines, List.append_assoc]

/-- A section with a head closes the block before it, if there is one. -/
theorem readBlocks_headed {s : Section} {after : List Line} (hvalid : s.Valid after)
    (hs : s.head.isSome) (i : Nat) (current : Block) :
    readBlocks i current (s.lines ++ after) =
      if i = 0 then readBlocks (i + s.lines.length) (s.opened i) after
      else (readBlocks (i + s.lines.length) (s.opened i) after).map (current.closeAt i :: ·) := by
  obtain ⟨h, hh⟩ := Option.isSome_iff_exists.mp hs
  have hlines : s.lines = h.lines ++ s.bodyLines := by simp [Section.lines, Section.headLines, hh]
  have hopened : (h.block i).addLines s.bodyLines = s.opened i := by
    simp [Head.block, Block.addLines, Section.opened, Section.fields?, hh]
  have hbody := readBlocks_body hvalid.body (i + h.lines.length) (h.block i) after
  rw [← Section.bodyLines, Nat.add_assoc, ← List.length_append, ← hlines, hopened] at hbody
  rw [hlines, List.append_assoc, readBlocks_head (hvalid.head h hh), hbody, ← hlines]

theorem readBlocks_openFence {opening : Line} {later : List Line} (h : OpenFence opening later)
    (i : Nat) (current : Block) : readBlocks i current (opening :: later) = .error (i + 1) := by
  obtain ⟨marker, hmarker, hlater⟩ := h
  rw [readBlocks, if_neg (by simp [isSeparator_of_fenceMarker? hmarker]), hmarker]
  dsimp only
  have hnone : later.findIdx? (fun l => startsWith marker (trimStart l)) = none :=
    List.findIdx?_eq_none_iff.mpr hlater
  rw [hnone]

/-- What reading comes to that stops in front of these lines: blocks behind the last line, and otherwise
the number of the line where it stops. -/
def readTo (rest : List Line) (blocks : List Block) (line : Nat) : Except Nat (List Block) :=
  if rest.isEmpty then .ok blocks else .error line

/-- Behind the first section, each section gives a block. -/
theorem readBlocks_falls {rest ls : List Line} {sections : List Section} (h : Falls rest sections ls)
    (hstops : Stops rest) (hheaded : ∀ s ∈ sections, s.head.isSome) {i : Nat}
    (hi : sections ≠ [] → i ≠ 0) (current : Block) :
    readBlocks i current ls = readTo rest (current.closeAt i :: blocksFrom i sections)
      (i + (sections.flatMap Section.lines).length + 1) := by
  induction h generalizing i current with
  | nil =>
    cases rest with
    | nil => rw [readBlocks]; rfl
    | cons opening later => exact readBlocks_openFence hstops i current
  | @cons s sections after hvalid _ ih =>
    have hne := hi (List.cons_ne_nil s sections)
    have hrest := ih (fun x hx => hheaded x (List.mem_cons_of_mem s hx)) (fun _ => by omega)
      (i := i + s.lines.length) (s.opened i)
    rw [readBlocks_headed hvalid (hheaded s List.mem_cons_self), if_neg hne, hrest]
    unfold readTo
    split
    · rfl
    · simp [Except.map, Nat.add_assoc]

/-- The reader gives the blocks of the sections, or the number of the line whose fence stays open. -/
theorem readBlocks_sectioning {deck rest : List Line} {sections : List Section}
    (h : Sectioning deck sections rest) (hstops : Stops rest) :
    readBlocks 0 (.opened 0) deck =
      readTo rest (blocksFrom 0 sections) ((sections.flatMap Section.lines).length + 1) := by
  obtain ⟨hfalls, hsome, hheaded, hoccupied⟩ := h
  cases hfalls with
  | nil => contradiction
  | @cons s more after hvalid hfalls =>
    have hpos : more ≠ [] → s.lines.length ≠ 0 := fun hmore hlen =>
      hoccupied hmore s List.mem_cons_self (List.length_eq_zero_iff.mp hlen)
    have hread : readBlocks 0 (.opened 0) (s.lines ++ after) =
        readBlocks s.lines.length (s.opened 0) after := by
      cases hh : s.head with
      | none =>
        have hbody := readBlocks_body hvalid.body 0 (.opened 0) after
        have hlines : s.lines = s.bodyLines := by simp [Section.lines, Section.headLines, hh]
        have hopened : (Block.opened 0).addLines s.bodyLines = s.opened 0 := by
          simp [Block.opened, Block.addLines, Section.opened, Section.fields?, hh]
        rw [← Section.bodyLines, Nat.zero_add, hopened, ← hlines] at hbody
        exact hbody
      | some h =>
        rw [readBlocks_headed hvalid (by rw [hh]; rfl), if_pos rfl, Nat.zero_add]
    rw [hread, readBlocks_falls hfalls hstops hheaded hpos]
    simp [blocksFrom, Section.block, Nat.add_assoc]

/-! ## Every deck falls into sections -/

/-- Lines behind a head fall into a body and further sections. -/
theorem exists_falls (ls : List Line) :
    ∃ (body : List Piece) (after : List Line) (sections : List Section) (rest : List Line),
      ls = body.flatMap Piece.lines ++ after ∧ (∀ q ∈ body, q.Valid) ∧
      Falls rest sections after ∧ (∀ s ∈ sections, s.head.isSome) ∧ Stops rest := by
  induction hn : ls.length using Nat.strongRecOn generalizing ls with
  | ind n ih =>
    cases ls with
    | nil => exact ⟨[], [], [], [], rfl, by simp, .nil, by simp, trivial⟩
    | cons line later =>
      by_cases hline : isSeparator line
      · -- the lines behind the head are the body of a section of its own
        have hhead : ∃ (h : Head) (after : List Line), line :: later = h.lines ++ after ∧ h.Fits after := by
          cases hend : frontMatterEnd? later with
          | none =>
            exact ⟨.separator line, later, rfl, .separator hline (frontMatterEnd?_eq_none.mp hend)⟩
          | some n =>
            obtain ⟨fields, closing, rest, rfl, -, hfront⟩ := frontMatterEnd?_eq_some.mp hend
            exact ⟨.frontMatter line fields closing, rest, by simp [Head.lines],
              .frontMatter hline hfront⟩
        obtain ⟨h, after, heq, hfits⟩ := hhead
        have hlt : after.length < n := by
          have := congrArg List.length heq
          cases h <;> simp [Head.lines] at this hn <;> omega
        obtain ⟨body, behind, sections, rest, rfl, hbody, hfalls, hheaded, hstops⟩ := ih _ hlt after rfl
        refine ⟨[], line :: later, ⟨some h, body⟩ :: sections, rest, rfl, by simp, ?_,
          List.forall_mem_cons.mpr ⟨rfl, hheaded⟩, hstops⟩
        rw [heq, ← List.append_assoc]
        refine .cons (s := ⟨some h, body⟩) ⟨?_, hbody⟩ hfalls
        intro x hx
        cases hx
        exact hfits
      · cases hmarker : fenceMarker? line with
        | none =>
          obtain ⟨body, after, sections, rest, rfl, hbody, hsections⟩ :=
            ih later.length (by simp at hn; omega) later rfl
          exact ⟨.text line :: body, after, sections, rest, rfl,
            List.forall_mem_cons.mpr ⟨.text (by simpa using hline) hmarker, hbody⟩, hsections⟩
        | some marker =>
          cases hclosing : later.find? (closesFence marker) with
          | none =>
            -- nothing closes the fence, and all that follows is left over
            refine ⟨[], line :: later, [], line :: later, rfl, by simp, .nil, by simp, marker, hmarker, ?_⟩
            simpa using hclosing
          | some closing =>
            obtain ⟨hcloses, inside, behind, rfl, hinside⟩ := List.find?_eq_some_iff_append.mp hclosing
            obtain ⟨body, after, sections, rest, rfl, hbody, hsections⟩ :=
              ih behind.length (by simp at hn; omega) behind rfl
            refine ⟨.fence line inside closing :: body, after, sections, rest, by simp [Piece.lines],
              List.forall_mem_cons.mpr ⟨.fence hmarker (by simpa using hinside) hcloses, hbody⟩,
              hsections⟩

/-- Every deck falls into sections, to its end or to a fence that stays open. -/
theorem exists_sectioning (deck : List Line) :
    ∃ sections rest, Sectioning deck sections rest ∧ Stops rest := by
  obtain ⟨body, after, sections, rest, rfl, hbody, hfalls, hheaded, hstops⟩ := exists_falls deck
  have hfull : ∀ s ∈ sections, s.lines ≠ [] := by
    intro s hs
    obtain ⟨h, hh⟩ := Option.isSome_iff_exists.mp (hheaded s hs)
    cases h <;> simp [Section.lines, Section.headLines, hh, Head.lines]
  cases body with
  | nil =>
    cases sections with
    | nil =>
      -- a deck without lines is one section without lines
      refine ⟨[⟨none, []⟩], rest, ⟨?_, by simp, by simp, by simp⟩, hstops⟩
      exact .cons (s := ⟨none, []⟩) ⟨by simp, by simp⟩ hfalls
    | cons s sections =>
      exact ⟨s :: sections, rest,
        ⟨hfalls, by simp, fun x hx => hheaded x (List.mem_cons_of_mem s hx), fun _ => hfull⟩, hstops⟩
  | cons q body =>
    have hlead : (⟨none, q :: body⟩ : Section).lines ≠ [] := by
      cases q <;> simp [Section.lines, Section.headLines, Section.bodyLines, Piece.lines]
    refine ⟨⟨none, q :: body⟩ :: sections, rest,
      ⟨?_, by simp, hheaded, fun _ => List.forall_mem_cons.mpr ⟨hlead, hfull⟩⟩, hstops⟩
    exact .cons (s := ⟨none, q :: body⟩) ⟨by simp, hbody⟩ hfalls

end DeckPress.Deck
