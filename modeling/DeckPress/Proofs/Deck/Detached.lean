import DeckPress.Proofs.Deck.Parsing

/-!
# Slides on their own

A slide that is written to a file of its own says the same there: the reader of decks finds this one
slide, and taking the front matter off gives its fields and its content. Both readers meet the writer at
the section that the file consists of.

No line may end in a carriage return. Such a line is written with a line feed behind it, and the two
together are read as its end.
-/

namespace DeckPress.Deck

open Text

/-- The line that is written before and behind front matter. -/
def fieldsMark : Line := ['-', '-', '-']

/-- The section that a slide is written as. Its separator says nothing but that there is one, an empty
line is no body, and without front matter there is no head at all. -/
def Section.detached (s : Section) : Section where
  head := s.fields?.map fun fields => .frontMatter fieldsMark fields fieldsMark
  body := if s.bodyLines = [[]] then [] else s.body

namespace Section

variable {s : Section}

theorem detached_fields? : s.detached.fields? = s.fields? := by
  show (s.fields?.map _).bind Head.fields? = s.fields?
  cases s.fields? <;> rfl

theorem detached_bodyLines : s.detached.bodyLines = if s.bodyLines = [[]] then [] else s.bodyLines := by
  unfold detached bodyLines
  split <;> rfl

/-- The content is what is written behind the head. -/
theorem Describes.content_eq {start index : Nat} {slide : Slide} (h : s.Describes start index slide) :
    slide.content.toList = endedLines s.detached.bodyLines := by
  rw [h.content, detached_bodyLines]
  split <;> rfl

theorem detached_isSlide : s.detached.IsSlide ↔ s.IsSlide := by
  unfold IsSlide
  rw [detached_fields?, detached_bodyLines]
  split
  · rename_i hempty
    simp [hempty, isBlank]
  · rfl

theorem Valid.isFrontMatter {after fields : List Line} (h : s.Valid after) (hfields : s.fields? = some fields) :
    ∃ closing, IsFrontMatter fields closing := by
  obtain ⟨head, hhead, hlines⟩ := Option.bind_eq_some_iff.mp hfields
  cases h.head head hhead with
  | separator => cases hlines
  | @frontMatter line closing _ _ hfront =>
    cases hlines
    exact ⟨closing, hfront⟩

theorem isFrontMatter_fieldsMark {fields : List Line} {closing : Line}
    (h : IsFrontMatter fields closing) : IsFrontMatter fields fieldsMark :=
  ⟨h.field, h.unfenced, h.unclosed, rfl⟩

theorem Valid.detached {after : List Line} (h : s.Valid after) (rest : List Line) :
    s.detached.Valid rest where
  head := by
    intro head hhead
    obtain ⟨fields, hfields, rfl⟩ := Option.map_eq_some_iff.mp hhead
    obtain ⟨closing, hfront⟩ := h.isFrontMatter hfields
    exact .frontMatter rfl (isFrontMatter_fieldsMark hfront)
  body := by
    intro q hq
    unfold Section.detached at hq
    dsimp only at hq
    split at hq
    · cases hq
    · exact h.body q hq

/-- A slide is written as the lines of its section. -/
theorem Describes.markdown_eq {start index : Nat} {slide : Slide} {after : List Line}
    (h : s.Describes start index slide) (hvalid : s.Valid after) :
    slide.markdown.toList = endedLines s.detached.lines := by
  have hraw := h.raw
  unfold Slide.markdown
  cases hfields : s.fields? with
  | none =>
    rw [hfields] at hraw
    rw [if_pos (by rw [hraw]; rfl), h.content_eq]
    simp [lines, headLines, Section.detached, hfields]
  | some fields =>
    have hne : fields ≠ [] := by
      rintro rfl
      obtain ⟨closing, hfront⟩ := hvalid.isFrontMatter hfields
      cases hfront.field
    rw [hfields, Option.getD_some] at hraw
    have hlines : s.detached.lines = fieldsMark :: (fields ++ [fieldsMark] ++ s.detached.bodyLines) := by
      simp [lines, headLines, Section.detached, hfields, Head.lines]
    rw [if_neg (by rw [hraw]; simp [hvalid.not_isBlank hfields])]
    simp only [String.toList_append, hraw, h.content_eq, hlines, endedLines_cons, endedLines_append,
      ← joinLines_end hne, endedLines_nil, List.append_assoc]
    rfl

/-- The lines of a detached section are lines of the section, or marks. -/
theorem mem_detached_lines {l : Line} (hl : l ∈ s.detached.lines) : l ∈ s.lines ∨ l = fieldsMark := by
  have hbody : l ∈ s.detached.bodyLines → l ∈ s.lines := by
    rw [detached_bodyLines]
    intro h
    split at h
    · cases h
    · exact List.mem_append_right _ h
  rcases List.mem_append.mp hl with hl | hl
  · unfold headLines Section.detached at hl
    cases hhead : s.head with
    | none => simp [fields?, hhead] at hl
    | some head =>
      cases head with
      | separator => simp [fields?, hhead, Head.fields?] at hl
      | frontMatter line fields closing =>
        have hmem : l ∈ fieldsMark :: (fields ++ [fieldsMark]) := by
          simpa [fields?, hhead, Head.fields?, Head.lines] using hl
        have hfields : l ∈ fields → l ∈ s.lines := fun h => by
          simp [lines, headLines, hhead, Head.lines, h]
        rcases List.mem_cons.mp hmem with rfl | hmem
        · exact .inr rfl
        · rcases List.mem_append.mp hmem with hmem | hmem
          · exact .inl (hfields hmem)
          · exact .inr (List.mem_singleton.mp hmem)
  · exact .inl (hbody hl)

end Section

/-! ## The file is read -/

/-- The first line of a body does not close front matter. -/
theorem Piece.Valid.head {q : Piece} (h : q.Valid) :
    ∃ first more, q.lines = first :: more ∧ closesFrontMatter first = false := by
  cases h with
  | @text line hline _ =>
    refine ⟨line, [], rfl, ?_⟩
    rw [Bool.eq_false_iff]
    intro hcloses
    rw [isSeparator_of_closes hcloses] at hline
    cases hline
  | @fence opening closing inside marker hmarker _ _ =>
    refine ⟨opening, inside ++ [closing], rfl, ?_⟩
    rw [Bool.eq_false_iff]
    intro hcloses
    rw [fenceMarker?_of_closes hcloses] at hmarker
    cases hmarker

theorem getLast?_endedLines {ls : List Line} (h : ls ≠ []) : (endedLines ls).getLast? = some '\n' := by
  rw [← joinLines_end h, List.getLast?_append, List.getLast?_singleton]
  rfl

/-- A file that starts with front matter is split behind it. -/
theorem splitFrontMatter_fieldsMark {text : String} {fields body : List Line} {closing : Line}
    (hfront : IsFrontMatter fields closing)
    (htext : text.toList = endedLines (fieldsMark :: (fields ++ fieldsMark :: body)))
    (hlines : ∀ l ∈ fieldsMark :: (fields ++ fieldsMark :: body), IsLine l) {found : Fields}
    (hread : readFields (joinLines fields) = .ok found) :
    splitFrontMatter text = .ok (found, String.ofList (joinLines body ++ ['\n'])) := by
  have hend : (fields ++ fieldsMark :: body).findIdx? closesFrontMatter = some fields.length :=
    findIdx?_append_cons hfront.unclosed rfl body
  have hdrop : (fields ++ fieldsMark :: body).drop (fields.length + 1) = body := by simp
  unfold splitFrontMatter
  dsimp only
  rw [htext, lines_endedLines hlines, getLast?_endedLines (List.cons_ne_nil _ _)]
  dsimp only
  rw [if_pos (show closesFrontMatter fieldsMark = true from rfl), hend]
  dsimp only
  rw [List.take_left, hread, hdrop]
  rfl

theorem splitFrontMatter_body {text : String} {first : Line} {more : List Line}
    (htext : lines text.toList = first :: more) (hfirst : closesFrontMatter first = false) :
    splitFrontMatter text = .ok ([], text) := by
  unfold splitFrontMatter
  dsimp only
  rw [htext]
  dsimp only
  rw [if_neg (by simp [hfirst])]

/-- A file is cut behind its front matter, or it has none. -/
inductive Cut (text : String) (body : List Char) : Prop where
  | bare : body = text.toList →
      (∀ first rest, lines text.toList = first :: rest → closesFrontMatter first = false) → Cut text body
  | behind (first closing : Line) (front rest : List Line) (ending : List Char) :
      lines text.toList = first :: (front ++ closing :: rest) → closesFrontMatter first = true →
      (∀ l ∈ front, closesFrontMatter l = false) → closesFrontMatter closing = true →
      ending = [] ∨ ending = ['\n'] → body = joinLines rest ++ ending → Cut text body

/-- Lines are cut at the first one that passes a test. -/
theorem cut_of_findIdx? {test : Line → Bool} {ls : List Line} {i : Nat} (h : ls.findIdx? test = some i) :
    ∃ l, ls = ls.take i ++ l :: ls.drop (i + 1) ∧ test l = true ∧ ∀ x ∈ ls.take i, test x = false := by
  obtain ⟨hlt, htest, hbefore⟩ := List.findIdx?_eq_some_iff_getElem.mp h
  refine ⟨ls[i], ?_, htest, fun x hx => ?_⟩
  · rw [List.getElem_cons_drop, List.take_append_drop]
  · obtain ⟨j, hj, rfl⟩ := List.mem_take_iff_getElem.mp hx
    have hlt' : j < i := (Nat.lt_min.mp hj).1
    simpa using hbefore j hlt'

theorem cut_of_splitFrontMatter {text body : String} {fields : Fields}
    (h : splitFrontMatter text = .ok (fields, body)) : Cut text body.toList := by
  unfold splitFrontMatter at h
  dsimp only at h
  cases hlines : lines text.toList with
  | nil =>
    rw [hlines] at h
    cases h
    exact .bare rfl fun first rest heq => nomatch hlines.symm.trans heq
  | cons first ls =>
    rw [hlines] at h
    dsimp only at h
    cases hfirst : closesFrontMatter first with
    | false =>
      rw [if_neg (by simp [hfirst])] at h
      cases h
      refine .bare rfl fun x rest heq => ?_
      cases hlines.symm.trans heq
      exact hfirst
    | true =>
      rw [if_pos hfirst] at h
      cases hclose : ls.findIdx? closesFrontMatter with
      | none => rw [hclose] at h; cases h
      | some close =>
        obtain ⟨closing, hcut, hclosing, hfront⟩ := cut_of_findIdx? hclose
        have hall : lines text.toList = first :: (ls.take close ++ closing :: ls.drop (close + 1)) := by
          rw [hlines, ← hcut]
        rw [hclose] at h
        dsimp only at h
        split at h
        · cases h
        · cases h
          -- a line feed at the end of the file is kept at the end of the body
          by_cases hfeed : text.toList.getLast? = some '\n'
          · refine .behind first closing _ _ ['\n'] hall hfirst hfront hclosing (.inr rfl) ?_
            rw [if_pos hfeed, String.toList_ofList]
          · refine .behind first closing _ _ [] hall hfirst hfront hclosing (.inl rfl) ?_
            rw [if_neg hfeed, String.toList_ofList, List.append_nil]

namespace Section

variable {s : Section} {after : List Line} {start index : Nat} {slide : Slide}

theorem isLine_detached (hlines : ∀ l ∈ s.lines, IsLine l) : ∀ l ∈ s.detached.lines, IsLine l := by
  intro l hl
  rcases mem_detached_lines hl with hl | rfl
  · exact hlines l hl
  · exact ⟨by decide, by decide⟩

/-- Taking the front matter off a slide's file. -/
theorem Describes.splitFrontMatter_eq (h : s.Describes start index slide) (hvalid : s.Valid after)
    (hslide : s.IsSlide) (hlines : ∀ l ∈ s.lines, IsLine l) :
    splitFrontMatter slide.markdown =
      .ok (slide.frontMatter, if slide.content = "" then "\n" else slide.content) := by
  have htext := h.markdown_eq hvalid
  have hfile := isLine_detached hlines
  have hcontent := h.content_eq
  have hfull : slide.content = "" ↔ s.detached.bodyLines = [] := by
    rw [← String.toList_eq_nil_iff, hcontent, endedLines_eq_nil]
  cases hfields : s.fields? with
  | none =>
    have hhead : s.detached.headLines = [] := by simp [headLines, Section.detached, hfields]
    have hnone : slide.frontMatter = [] := by
      have hreads := h.frontMatter
      rw [hfields] at hreads
      generalize slide.frontMatter = found at hreads
      cases hreads
      rfl
    have hmarkdown : slide.markdown = slide.content := by
      rw [← String.toList_inj, htext, hcontent, lines, hhead, List.nil_append]
    obtain ⟨first, more, hbody, hfirst⟩ : ∃ first more, s.detached.bodyLines = first :: more ∧
        closesFrontMatter first = false := by
      cases hpieces : s.detached.body with
      | nil =>
        -- a section without front matter is a slide because of its text
        rcases detached_isSlide.mpr hslide with hsome | ⟨l, hl, -⟩
        · rw [detached_fields?, hfields] at hsome
          cases hsome
        · rw [bodyLines, hpieces] at hl
          cases hl
      | cons q pieces =>
        obtain ⟨first, more, hq, hfirst⟩ :=
          ((hvalid.detached []).body q (hpieces ▸ List.mem_cons_self)).head
        exact ⟨first, more ++ pieces.flatMap Piece.lines, by simp [bodyLines, hpieces, hq], hfirst⟩
    have hcut : Text.lines slide.markdown.toList = first :: more := by
      rw [htext, lines_endedLines hfile, lines, hhead, hbody, List.nil_append]
    rw [splitFrontMatter_body hcut hfirst, if_neg (by rw [hfull, hbody]; simp), hnone, hmarkdown]
  | some fields =>
    obtain ⟨closing, hfront⟩ := hvalid.isFrontMatter hfields
    have hall : s.detached.lines = fieldsMark :: (fields ++ fieldsMark :: s.detached.bodyLines) := by
      simp [lines, headLines, Section.detached, hfields, Head.lines]
    have hread : readFields (joinLines fields) = .ok slide.frontMatter := by
      have hreads := (readFields_eq_ok fun _ => hvalid.not_isBlank).mpr h.frontMatter
      rwa [hfields] at hreads
    rw [splitFrontMatter_fieldsMark hfront (hall ▸ htext) (hall ▸ hfile) hread]
    split
    · rename_i hempty
      rw [hfull.mp hempty]
      rfl
    · rename_i hsome
      rw [joinLines_end (mt hfull.mpr hsome), ← hcontent, String.ofList_toList]

/-- A section in front of nothing is a deck by itself. -/
theorem Valid.sectioning {s : Section} (h : s.Valid []) : Sectioning s.lines [s] [] where
  falls := by
    have hnone : Falls [] [] [] := .nil
    have hfalls := hnone.cons h
    rwa [List.append_nil] at hfalls
  some := List.cons_ne_nil _ _
  headed := by simp
  occupied := by simp

/-- The deck that a slide's file holds. -/
theorem Describes.parse_eq (h : s.Describes start index slide) (hvalid : s.Valid after)
    (hslide : s.IsSlide) (hlines : ∀ l ∈ s.lines, IsLine l) :
    parse slide.markdown =
      .ok ⟨[{ slide with index := 0, startLine := 0, endLine := s.detached.lines.length }]⟩ := by
  have hcut : Text.lines slide.markdown.toList = s.detached.lines := by
    rw [h.markdown_eq hvalid, lines_endedLines (isLine_detached hlines)]
  refine (parse_sectioning (hcut ▸ (hvalid.detached []).sectioning)).mpr ?_
  refine .keep (detached_isSlide.mpr hslide) ⟨rfl, rfl, (Nat.zero_add _).symm, ?_, ?_, ?_⟩ .nil
  · rw [detached_fields?]
    exact h.raw
  · rw [detached_fields?]
    exact h.frontMatter
  · rw [h.content_eq, detached_bodyLines]
    split <;> rfl

end Section

/-- A slide is described by a section whose lines are lines of the deck. -/
theorem exists_section_of_mem {text : String} {deck : Deck} (hparse : parse text = .ok deck) {slide : Slide}
    (hslide : slide ∈ deck.slides) :
    ∃ (s : Section) (after : List Line), s.Valid after ∧ s.IsSlide ∧
      s.Describes slide.startLine slide.index slide ∧ ∀ l ∈ s.lines, l ∈ lines text.toList := by
  obtain ⟨sections, hsectioning, hslides⟩ := parse_eq_ok.mp hparse
  obtain ⟨-, -, s, hs, hisSlide, hdescribes, hrange⟩ := hslides.lines_eq hsectioning.falls hslide
  obtain ⟨after, hvalid⟩ := hsectioning.falls.valid s hs
  refine ⟨s, after, hvalid, hisSlide, hdescribes, fun l hl => ?_⟩
  rw [← hrange] at hl
  exact List.mem_of_mem_take (List.mem_of_mem_drop hl)

theorem exists_section {text : String} {deck : Deck} (hparse : parse text = .ok deck)
    (hreturn : ∀ l ∈ lines text.toList, l.getLast? ≠ some '\r') {slide : Slide}
    (hslide : slide ∈ deck.slides) :
    ∃ (s : Section) (after : List Line), s.Valid after ∧ s.IsSlide ∧
      s.Describes slide.startLine slide.index slide ∧ ∀ l ∈ s.lines, IsLine l := by
  obtain ⟨s, after, hvalid, hisSlide, hdescribes, hmem⟩ := exists_section_of_mem hparse hslide
  refine ⟨s, after, hvalid, hisSlide, hdescribes, fun l hl => ?_⟩
  exact ⟨noFeed_of_mem_lines l (hmem l hl), hreturn l (hmem l hl)⟩

/-- A slide survives being detached from its deck: its file has its front matter and its content, which
comes back as an empty line if there is none; and as a deck it has this one slide. -/
theorem detached_slide_survives {text : String} {deck : Deck} (hparse : parse text = .ok deck)
    (hreturn : ∀ l ∈ lines text.toList, l.getLast? ≠ some '\r') {slide : Slide}
    (hslide : slide ∈ deck.slides) :
    splitFrontMatter slide.markdown =
        .ok (slide.frontMatter, if slide.content = "" then "\n" else slide.content) ∧
      ∃ alone, parse slide.markdown = .ok ⟨[alone]⟩ ∧ alone.rawFrontMatter = slide.rawFrontMatter ∧
        alone.frontMatter = slide.frontMatter ∧ alone.content = slide.content := by
  obtain ⟨sections, hsectioning, hslides⟩ := parse_eq_ok.mp hparse
  obtain ⟨-, -, s, hs, hisSlide, hdescribes, hrange⟩ := hslides.lines_eq hsectioning.falls hslide
  obtain ⟨after, hvalid⟩ := hsectioning.falls.valid s hs
  have hlines : ∀ l ∈ s.lines, IsLine l := by
    intro l hl
    rw [← hrange] at hl
    have hmem : l ∈ lines text.toList := List.mem_of_mem_take (List.mem_of_mem_drop hl)
    exact ⟨noFeed_of_mem_lines l hmem, hreturn l hmem⟩
  exact ⟨hdescribes.splitFrontMatter_eq hvalid hisSlide hlines, _,
    hdescribes.parse_eq hvalid hisSlide hlines, rfl, rfl, rfl⟩

/-- A deck whose second slide has front matter and a fence with a separator in it. -/
def fencedDeck : String := "# One\n\n---\ntitle: Two\n---\n~~~\n---\n~~~\n"

theorem detached_slide_survives_fenced :
    (∀ l ∈ lines fencedDeck.toList, l.getLast? ≠ some '\r') ∧
    ∃ deck, parse fencedDeck = .ok deck ∧ ∃ slide ∈ deck.slides,
      slide.content = "~~~\n---\n~~~\n" ∧
      splitFrontMatter slide.markdown = .ok (slide.frontMatter, "~~~\n---\n~~~\n") ∧
      ∃ alone, parse slide.markdown = .ok ⟨[alone]⟩ ∧ alone.content = "~~~\n---\n~~~\n" := by
  have hreturn : ∀ l ∈ lines fencedDeck.toList, l.getLast? ≠ some '\r' := by decide
  have hread : (parse fencedDeck).toOption.any
      (·.slides.any fun slide => slide.content = "~~~\n---\n~~~\n") = true := by decide +kernel
  obtain ⟨deck, hparse, htest⟩ := exists_deck hread
  obtain ⟨slide, hslide, hcontent⟩ := List.any_eq_true.mp htest
  replace hcontent := of_decide_eq_true hcontent
  obtain ⟨hsplit, alone, halone, -, -, hsame⟩ := detached_slide_survives hparse hreturn hslide
  rw [hcontent, if_neg (by decide)] at hsplit
  exact ⟨hreturn, deck, hparse, slide, hslide, hcontent, hsplit, alone, halone, hsame.trans hcontent⟩

end DeckPress.Deck
