import DeckPress.Proofs.Deck.Detached
import DeckPress.Proofs.Text.Search

/-!
# The title of a slide

A slide that declares no title is called after its first heading of level one. Headings are looked for line by
line, and the lines of a code fence are looked at like all others. So the title is the heading that is shown
exactly if no line of a fence passes for a heading before the first line that is one, or if such a line says
the same.
-/

namespace DeckPress.Deck

open Text

/-! ## Headings -/

/-- The blanks behind the sign of a heading. -/
def isGap (c : Char) : Bool := c = ' ' || c = '\t'

/-- What may close a heading. -/
def closesHeading (c : Char) : Bool := c = ' ' || c = '\t' || c = '#'

/-- A line is a heading of level one with a text: a hash sign, blanks, the text, and perhaps blanks and hash
signs that close it. The text has one character at least, a hash sign if there is nothing else; where there
are only blanks, one of them is the text. -/
inductive Heading : Line → List Char → Prop where
  | text {blanks rest closing : List Char} {c : Char} : blanks ≠ [] → (∀ b ∈ blanks, isGap b = true) →
      isGap c = false → (∀ x ∈ rest.getLast?, closesHeading x = false) →
      (∀ x ∈ closing, closesHeading x = true) →
      Heading ('#' :: (blanks ++ c :: (rest ++ closing))) (trim (c :: rest))
  | blank {blanks : List Char} : 2 ≤ blanks.length → (∀ b ∈ blanks, isGap b = true) →
      Heading ('#' :: blanks) []

/-- The text of a heading with these blanks in front of what is left of the line. -/
def textBehind? (blanks : List Char) : List Char → Option (List Char)
  | [] => if 2 ≤ blanks.length then some [] else none
  | c :: cs => if blanks.isEmpty then none else some (trim (c :: dropEndWhile closesHeading cs))

theorem headingText?_hash (rest : List Char) :
    headingText? ('#' :: rest) = textBehind? (rest.takeWhile isGap) (rest.dropWhile isGap) := by
  unfold headingText? textBehind?
  rfl

theorem headingText?_blanks {blanks body : List Char} (hblanks : ∀ b ∈ blanks, isGap b = true)
    (hbody : ∀ c ∈ body.head?, isGap c = false) :
    headingText? ('#' :: (blanks ++ body)) = textBehind? blanks body := by
  have hnone : body.takeWhile isGap = [] ∧ body.dropWhile isGap = body := by
    cases body with
    | nil => exact ⟨rfl, rfl⟩
    | cons c cs => simp [hbody c rfl]
  rw [headingText?_hash, List.takeWhile_append_of_pos hblanks, List.dropWhile_append_of_pos hblanks, hnone.1,
    hnone.2, List.append_nil]

/-- A line that starts with a hash sign is cut behind the blanks that follow. -/
theorem exists_blanks (rest : List Char) :
    ∃ blanks body, rest = blanks ++ body ∧ (∀ b ∈ blanks, isGap b = true) ∧
      ∀ c ∈ body.head?, isGap c = false := by
  refine ⟨rest.takeWhile isGap, rest.dropWhile isGap, List.takeWhile_append_dropWhile.symm, fun b hb => ?_,
    fun c hc => ?_⟩
  · exact List.mem_takeWhile_imp hb
  · have hhead := List.head?_dropWhile_not isGap rest
    rw [hc] at hhead
    simpa using hhead

theorem headingText?_eq_some {line : Line} {text : List Char} :
    headingText? line = some text ↔ Heading line text := by
  constructor
  · intro h
    obtain ⟨rest, rfl⟩ : ∃ rest, line = '#' :: rest := by
      unfold headingText? at h
      split at h
      · exact ⟨_, rfl⟩
      · cases h
    obtain ⟨blanks, body, rfl, hblanks, hbody⟩ := exists_blanks rest
    rw [headingText?_blanks hblanks hbody] at h
    cases body with
    | nil =>
      rw [textBehind?] at h
      split at h
      · rename_i hlong
        cases h
        rw [List.append_nil]
        exact .blank hlong hblanks
      · cases h
    | cons c cs =>
      rw [textBehind?] at h
      split at h
      · cases h
      · rename_i hsome
        cases h
        obtain ⟨closing, hcs, hclosing, hlast⟩ := exists_dropEndWhile closesHeading cs
        have hheading := Heading.text (by simpa using hsome) hblanks (hbody c rfl) hlast hclosing
        rwa [← hcs] at hheading
  · rintro (⟨hsome, hblanks, hc, hlast, hclosing⟩ | ⟨hlong, hblanks⟩)
    · rename_i blanks rest closing c
      have hbody : ∀ x ∈ (c :: (rest ++ closing)).head?, isGap x = false := by
        rintro x ⟨⟩
        exact hc
      rw [headingText?_blanks hblanks hbody, textBehind?, if_neg (by simpa using hsome),
        dropEndWhile_append hclosing hlast]
    · rename_i blanks
      have hnothing : ∀ c ∈ ([] : List Char).head?, isGap c = false := by simp
      have hwhole := headingText?_blanks hblanks hnothing
      rw [List.append_nil] at hwhole
      rw [hwhole, textBehind?, if_pos hlong]

theorem headingText?_eq_none {line : Line} : headingText? line = none ↔ ∀ text, ¬ Heading line text := by
  rw [Option.eq_none_iff_forall_ne_some]
  exact forall_congr' fun text => not_congr headingText?_eq_some

/-- The first heading among some lines has this text. -/
def FirstHeading (ls : List Line) (text : List Char) : Prop :=
  ∃ before line after, ls = before ++ line :: after ∧ (∀ l ∈ before, ∀ t, ¬ Heading l t) ∧
    Heading line text

theorem findSome?_headingText? {ls : List Line} {text : List Char} :
    ls.findSome? headingText? = some text ↔ FirstHeading ls text := by
  rw [List.findSome?_eq_some_iff, FirstHeading]
  constructor
  · rintro ⟨before, line, after, hls, hline, hbefore⟩
    exact ⟨before, line, after, hls, fun l hl => headingText?_eq_none.mp (hbefore l hl),
      headingText?_eq_some.mp hline⟩
  · rintro ⟨before, line, after, hls, hbefore, hline⟩
    exact ⟨before, line, after, hls, headingText?_eq_some.mpr hline,
      fun l hl => headingText?_eq_none.mpr (hbefore l hl)⟩

theorem not_heading_of_findSome? {ls : List Line} (h : ls.findSome? headingText? = none) :
    ∀ l ∈ ls, ∀ text, ¬ Heading l text :=
  fun l hl => headingText?_eq_none.mp (List.findSome?_eq_none_iff.mp h l hl)

theorem firstHeading_unique {ls : List Line} {s t : List Char} (hs : FirstHeading ls s) (ht : FirstHeading ls t) :
    s = t := by
  rw [← findSome?_headingText?] at hs ht
  exact Option.some.inj (hs.symm.trans ht)

/-! ## The lines that are looked at -/

namespace Piece

/-- The lines of a piece that lie outside of fences. -/
def outside : Piece → List Line
  | text line => [line]
  | fence _ _ _ => []

/-- The lines of a piece that lie in a fence, with the marks of the fence. -/
def fenced : Piece → List Line
  | text _ => []
  | fence opening inside closing => (fence opening inside closing).lines

theorem outside_or_fenced (q : Piece) :
    (q.lines = q.outside ∧ q.fenced = []) ∨ (q.lines = q.fenced ∧ q.outside = []) := by
  cases q with
  | text line => exact .inl ⟨rfl, rfl⟩
  | fence opening inside closing => exact .inr ⟨rfl, rfl⟩

end Piece

/-- A line of a fence passes for a heading before the first one outside, and has this text. -/
def FencedTitle (body : List Piece) (text : List Char) : Prop :=
  ∃ before q after, body = before ++ q :: after ∧
    (∀ l ∈ before.flatMap Piece.lines, ∀ t, ¬ Heading l t) ∧ FirstHeading q.fenced text

theorem FencedTitle.cons {q : Piece} {body : List Piece} {text : List Char}
    (hq : ∀ l ∈ q.lines, ∀ t, ¬ Heading l t) (h : FencedTitle body text) : FencedTitle (q :: body) text := by
  obtain ⟨before, p, after, rfl, hbefore, hfirst⟩ := h
  refine ⟨q :: before, p, after, rfl, ?_, hfirst⟩
  rw [List.flatMap_cons]
  exact List.forall_mem_append.mpr ⟨hq, hbefore⟩

/-- The first heading of a body is the first one outside of fences, or stands in a fence before it. -/
theorem firstHeading_cases {body : List Piece} {text : List Char}
    (h : FirstHeading (body.flatMap Piece.lines) text) :
    FirstHeading (body.flatMap Piece.outside) text ∨ FencedTitle body text := by
  rw [← findSome?_headingText?] at h ⊢
  induction body with
  | nil => cases h
  | cons q body ih =>
    -- A piece lies in a fence as a whole or not at all, so one of the two searches passes it over.
    rw [List.flatMap_cons, List.findSome?_append] at h ⊢
    rcases q.outside_or_fenced with ⟨hlines, hnone⟩ | ⟨hlines, hnone⟩
    · cases hq : q.outside.findSome? headingText? with
      | some found =>
        rw [hlines, hq] at h
        exact .inl h
      | none =>
        rw [hlines, hq, Option.none_or] at h
        exact (ih h).imp id fun hfenced => hfenced.cons (hlines ▸ not_heading_of_findSome? hq)
    · cases hq : q.fenced.findSome? headingText? with
      | some found =>
        rw [hlines, hq] at h
        cases h
        exact .inr ⟨[], q, body, rfl, by simp, findSome?_headingText?.mp hq⟩
      | none =>
        rw [hlines, hq, Option.none_or] at h
        rw [hnone, List.findSome?_nil, Option.none_or]
        exact (ih h).imp id fun hfenced => hfenced.cons (hlines ▸ not_heading_of_findSome? hq)

/-- What passes for a heading in a fence before the first one outside is the first heading of the body. -/
theorem FencedTitle.firstHeading {body : List Piece} {text : List Char} (h : FencedTitle body text) :
    FirstHeading (body.flatMap Piece.lines) text := by
  obtain ⟨before, q, after, rfl, hbefore, front, line, behind, hq, hfront, hline⟩ := h
  have hlines : q.lines = q.fenced := by
    rcases q.outside_or_fenced with ⟨-, hnone⟩ | ⟨hlines, -⟩
    · rw [hnone] at hq
      simp at hq
    · exact hlines
  refine ⟨before.flatMap Piece.lines ++ front, line, behind ++ after.flatMap Piece.lines, ?_, ?_, hline⟩
  · rw [List.flatMap_append, List.flatMap_cons, hlines, hq]
    simp only [List.append_assoc, List.cons_append]
  · exact List.forall_mem_append.mpr ⟨hbefore, hfront⟩

/-- Where there is a heading outside of fences, there is a first one among all lines. -/
theorem exists_firstHeading {body : List Piece} {text : List Char}
    (h : FirstHeading (body.flatMap Piece.outside) text) :
    ∃ first, FirstHeading (body.flatMap Piece.lines) first := by
  obtain ⟨before, line, after, houtside, -, hline⟩ := h
  have hmem : line ∈ body.flatMap Piece.outside := by
    rw [houtside]
    exact List.mem_append_right _ List.mem_cons_self
  obtain ⟨q, hq, hl⟩ := List.mem_flatMap.mp hmem
  have hlines : line ∈ q.lines := by
    rcases q.outside_or_fenced with ⟨hlines, -⟩ | ⟨-, hnone⟩
    · rwa [hlines]
    · rw [hnone] at hl
      cases hl
  have hsome : ((body.flatMap Piece.lines).findSome? headingText?).isSome := by
    refine List.findSome?_isSome_iff.mpr ⟨line, List.mem_flatMap.mpr ⟨q, hq, hlines⟩, ?_⟩
    rw [headingText?_eq_some.mpr hline]
    rfl
  obtain ⟨first, hfirst⟩ := Option.isSome_iff_exists.mp hsome
  exact ⟨first, findSome?_headingText?.mp hfirst⟩

/-- The first heading of a body is the first one outside of fences exactly if every one that is passed for it
in a fence has the same text. -/
theorem firstHeading_outside_iff (body : List Piece) :
    (∀ text, FirstHeading (body.flatMap Piece.lines) text ↔ FirstHeading (body.flatMap Piece.outside) text) ↔
      ∀ text, FencedTitle body text → FirstHeading (body.flatMap Piece.outside) text := by
  constructor
  · intro hall text hfenced
    exact (hall text).mp hfenced.firstHeading
  · intro hfenced text
    have hforth {t : List Char} (h : FirstHeading (body.flatMap Piece.lines) t) :
        FirstHeading (body.flatMap Piece.outside) t := (firstHeading_cases h).elim id (hfenced t)
    refine ⟨hforth, fun h => ?_⟩
    obtain ⟨first, hfirst⟩ := exists_firstHeading h
    rwa [firstHeading_unique h (hforth hfirst)]

/-! ## The title -/

/-- The lines of the content are those of the body, and perhaps an empty one. -/
theorem firstHeading?_of_describes {s : Section} {start index : Nat} {slide : Slide}
    (h : s.Describes start index slide) (hfeed : ∀ l ∈ s.bodyLines, '\n' ∉ l) :
    firstHeading? slide.content = (s.bodyLines.findSome? headingText?).map String.ofList := by
  have hempty : headingText? [] = none := rfl
  unfold firstHeading?
  rw [h.content]
  split
  · rename_i hblank
    rw [hblank]
    rfl
  · rw [splitOn_endedLines hfeed, List.findSome?_append]
    simp [hempty]

theorem title?_of_describes {s : Section} {start index : Nat} {slide : Slide}
    (h : s.Describes start index slide) (hfeed : ∀ l ∈ s.bodyLines, '\n' ∉ l)
    (hnone : (slide.frontMatter.get? "title").bind Json.str? = none) (title : String) :
    slide.title? = some title ↔ FirstHeading s.bodyLines title.toList := by
  rw [Slide.title?, hnone, ← findSome?_headingText?]
  dsimp only
  rw [firstHeading?_of_describes h hfeed, Option.map_eq_some_iff]
  constructor
  · rintro ⟨text, htext, rfl⟩
    rw [htext, String.toList_ofList]
  · intro htext
    exact ⟨title.toList, htext, String.ofList_toList⟩

/-- A slide that declares no title is called after the first line of its body that passes for a heading of
level one, be it in a fence or not. So its title is the first heading outside of fences exactly if every line
of a fence that passes for a heading before that one has the same text. -/
theorem title_outside_fences_iff {text : String} {deck : Deck} (hparse : parse text = .ok deck) {slide : Slide}
    (hslide : slide ∈ deck.slides) (hnone : (slide.frontMatter.get? "title").bind Json.str? = none) :
    ∃ (s : Section) (after : List Line), s.Valid after ∧ s.Describes slide.startLine slide.index slide ∧
      ((lines text.toList).take slide.endLine).drop slide.startLine = s.lines ∧
      (∀ title, slide.title? = some title ↔ FirstHeading s.bodyLines title.toList) ∧
      ((∀ title, slide.title? = some title ↔ FirstHeading (s.body.flatMap Piece.outside) title.toList) ↔
        ∀ title, FencedTitle s.body title → FirstHeading (s.body.flatMap Piece.outside) title) := by
  obtain ⟨sections, hsectioning, hslides⟩ := parse_eq_ok.mp hparse
  obtain ⟨-, -, s, hs, -, hdescribes, hrange⟩ := hslides.lines_eq hsectioning.falls hslide
  obtain ⟨after, hvalid⟩ := hsectioning.falls.valid s hs
  have hfeed : ∀ l ∈ s.bodyLines, '\n' ∉ l := by
    intro l hl
    have hmem : l ∈ s.lines := List.mem_append_right _ hl
    rw [← hrange] at hmem
    exact noFeed_of_mem_lines l (List.mem_of_mem_take (List.mem_of_mem_drop hmem))
  have htitle := title?_of_describes hdescribes hfeed hnone
  refine ⟨s, after, hvalid, hdescribes, hrange, htitle, ?_⟩
  rw [← firstHeading_outside_iff]
  constructor
  · intro hall title
    have hthis := hall (String.ofList title)
    rwa [htitle, String.toList_ofList] at hthis
  · intro hall title
    rw [htitle]
    exact hall title.toList

/-- A slide with a comment in a sample, and with a heading behind the sample. -/
def shellDeck : String := "```sh\n# install\n```\n\n# Setup\n"

theorem title_outside_fences_iff_shell :
    ∃ deck, parse shellDeck = .ok deck ∧ ∃ slide ∈ deck.slides,
      (slide.frontMatter.get? "title").bind Json.str? = none ∧
      ∃ (s : Section) (after : List Line), s.Valid after ∧ s.Describes slide.startLine slide.index slide ∧
        FirstHeading s.bodyLines "install".toList := by
  have hread : (parse shellDeck).toOption.any (·.slides.any fun slide =>
      ((slide.frontMatter.get? "title").bind Json.str?).isNone ∧ slide.title? = some "install") = true := by
    decide +kernel
  obtain ⟨deck, hparse, htest⟩ := exists_deck hread
  obtain ⟨slide, hslide, hfound⟩ := List.any_eq_true.mp htest
  obtain ⟨hnone, htitle⟩ := of_decide_eq_true hfound
  replace hnone := Option.isNone_iff_eq_none.mp hnone
  obtain ⟨s, after, hvalid, hdescribes, -, hfirst, -⟩ := title_outside_fences_iff hparse hslide hnone
  exact ⟨deck, hparse, slide, hslide, hnone, s, after, hvalid, hdescribes, (hfirst "install").mp htitle⟩

/-- The sample, and what follows it. -/
def shellSection : Section where
  head := none
  body := [.fence "```sh".toList ["# install".toList] "```".toList, .text [], .text "# Setup".toList]

theorem shellSection_valid : shellSection.Valid [] where
  head := by simp [shellSection]
  body := by
    have hfence : (Piece.fence "```sh".toList ["# install".toList] "```".toList).Valid :=
      .fence (show fenceMarker? _ = some "```".toList by decide) (by decide) (by decide)
    have hempty : (Piece.text []).Valid := .text (by decide) (by decide)
    have hheading : (Piece.text "# Setup".toList).Valid := .text (by decide) (by decide)
    simp only [shellSection, List.forall_mem_cons]
    exact ⟨hfence, hempty, hheading, by simp⟩

/-- The slide is called after the comment in the sample. -/
theorem title_of_shellComment :
    ∃ deck, parse shellDeck = .ok deck ∧ ∃ slide ∈ deck.slides,
      (slide.frontMatter.get? "title").bind Json.str? = none ∧ slide.title? = some "install" ∧
      shellSection.Valid [] ∧ shellSection.Describes slide.startLine slide.index slide ∧
      FirstHeading (shellSection.body.flatMap Piece.outside) "Setup".toList := by
  have hread : (parse shellDeck).toOption.any (·.slides.any fun slide =>
      slide.frontMatter.isEmpty ∧ slide.rawFrontMatter = "" ∧ slide.content = shellDeck ∧
        slide.endLine = slide.startLine + 5 ∧ slide.title? = some "install") = true := by
    decide +kernel
  obtain ⟨deck, hparse, htest⟩ := exists_deck hread
  obtain ⟨slide, hslide, hfound⟩ := List.any_eq_true.mp htest
  obtain ⟨hfields, hraw, hcontent, hend, htitle⟩ := of_decide_eq_true hfound
  replace hfields := List.isEmpty_iff.mp hfields
  refine ⟨deck, hparse, slide, hslide, by rw [hfields]; rfl, htitle, shellSection_valid, ?_, ?_⟩
  · refine ⟨rfl, rfl, hend, by rw [hraw]; rfl, ?_, by rw [hcontent]; decide⟩
    rw [hfields]
    exact .absent
  · exact findSome?_headingText?.mp (by decide)

end DeckPress.Deck
