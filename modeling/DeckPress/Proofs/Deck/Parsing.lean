import DeckPress.Proofs.Deck.Grammar

/-!
# The slides of a deck

What reading a deck comes to, in terms of its sections. A deck is refused if a code fence stays open or
if the front matter of a section is no mapping; otherwise its slides are the sections that have front
matter or text, in their order.
-/

namespace DeckPress.Deck

open Text

/-- The fields that the front matter of a section stands for. Null stands for none at all. -/
inductive Reads : Option (List Line) → Fields → Prop where
  | absent : Reads none []
  | mapping {ls : List Line} {fields : Fields} :
      Yaml.toJson? (joinLines ls) = some (.obj fields) → Reads (some ls) fields
  | null {ls : List Line} : Yaml.toJson? (joinLines ls) = some .null → Reads (some ls) []

namespace Section

/-- A section is a slide if it has front matter or a line of text that is not blank. -/
def IsSlide (s : Section) : Prop := s.fields?.isSome ∨ ∃ l ∈ s.bodyLines, isBlank l = false

/-- A slide says what is in its section, which starts at the line `start`. The lines of the body are the
content, each with its end; one empty line is no content. -/
structure Describes (s : Section) (start index : Nat) (slide : Slide) : Prop where
  index : slide.index = index
  startLine : slide.startLine = start
  endLine : slide.endLine = start + s.lines.length
  raw : slide.rawFrontMatter.toList = joinLines (s.fields?.getD [])
  frontMatter : Reads s.fields? slide.frontMatter
  content : slide.content.toList = if s.bodyLines = [[]] then [] else endedLines s.bodyLines

end Section

/-- The slides of sections, from the line `start` on and numbered from `index`. -/
inductive Slides : (start index : Nat) → List Section → List Slide → Prop where
  | nil {start index : Nat} : Slides start index [] []
  | skip {start index : Nat} {s : Section} {sections : List Section} {slides : List Slide} :
      ¬ s.IsSlide → Slides (start + s.lines.length) index sections slides →
      Slides start index (s :: sections) slides
  | keep {start index : Nat} {s : Section} {sections : List Section} {slide : Slide}
      {slides : List Slide} :
      s.IsSlide → s.Describes start index slide →
      Slides (start + s.lines.length) (index + 1) sections slides →
      Slides start index (s :: sections) (slide :: slides)

/-! ## One section -/

theorem not_isBlank_of_mem {cs : List Char} {c : Char} (hc : c ∈ cs) (hwhite : isWhite c = false) :
    isBlank cs = false := by
  rw [Bool.eq_false_iff]
  intro hblank
  rw [List.all_eq_true.mp hblank c hc] at hwhite
  cases hwhite

/-- A line that looks like a field is not blank. -/
theorem exists_mem_of_looksLikeField {line : Line} (h : looksLikeField line) :
    ∃ c ∈ line, isWhite c = false := by
  unfold looksLikeField at h
  split at h
  · rename_i c rest htrim
    have hc : c ∈ trimStart line := by rw [htrim]; exact List.mem_cons_self
    refine ⟨c, (List.dropWhile_suffix isWhite).mem hc, ?_⟩
    have hne : line.dropWhile isWhite ≠ [] := List.ne_nil_of_mem hc
    have hhead : (line.dropWhile isWhite).head hne = c := by
      simp only [show line.dropWhile isWhite = c :: rest from htrim, List.head_cons]
    rw [← hhead]
    exact List.head_dropWhile_not isWhite hne
  · cases h

theorem IsFrontMatter.not_isBlank {fields : List Line} {closing : Line}
    (h : IsFrontMatter fields closing) : isBlank (joinLines fields) = false := by
  cases fields with
  | nil => cases h.field
  | cons l ls =>
    obtain ⟨c, hc, hwhite⟩ := exists_mem_of_looksLikeField (show looksLikeField l from h.field)
    exact not_isBlank_of_mem (mem_joinLines List.mem_cons_self hc) hwhite

/-- The front matter of a section in a deck is not blank. -/
theorem Section.Valid.not_isBlank {s : Section} {after ls : List Line} (h : s.Valid after)
    (hls : s.fields? = some ls) : isBlank (joinLines ls) = false := by
  obtain ⟨hd, hhead, hfields⟩ := Option.bind_eq_some_iff.mp hls
  cases h.head hd hhead with
  | separator => cases hfields
  | frontMatter _ hfront =>
    cases hfields
    exact hfront.not_isBlank

theorem readFields_eq_ok {front : Option (List Line)}
    (hfront : ∀ ls, front = some ls → isBlank (joinLines ls) = false) {fields : Fields} :
    readFields (joinLines (front.getD [])) = .ok fields ↔ Reads front fields := by
  cases front with
  | none =>
    constructor
    · intro h
      cases h
      exact .absent
    · rintro ⟨⟩
      rfl
  | some ls =>
    unfold readFields
    rw [Option.getD_some, if_neg (by simp [hfront ls rfl])]
    constructor
    · intro h
      split at h
      · cases h
      · rename_i found hjson
        cases h
        exact .mapping hjson
      · rename_i hjson
        cases h
        exact .null hjson
      · cases h
    · rintro (_ | hjson | hjson) <;> rw [hjson]

theorem toList_contentOf (body : List Line) :
    (contentOf body).toList = if body = [[]] then [] else endedLines body := by
  unfold contentOf
  rw [String.toList_ofList]
  split
  · rename_i hempty
    rcases joinLines_eq_nil.mp (List.isEmpty_iff.mp hempty) with rfl | rfl <;> rfl
  · rename_i hfull
    have hne : joinLines body ≠ [] := by simpa using hfull
    rw [if_neg fun h => hne (joinLines_eq_nil.mpr (.inr h)),
      joinLines_end fun h => hne (joinLines_eq_nil.mpr (.inl h))]

theorem Section.block_isEmpty (s : Section) (start : Nat) :
    (s.block start).isEmpty = false ↔ s.IsSlide := by
  unfold Section.IsSlide
  cases hfields : s.fields? <;>
    simp [Section.block, Section.opened, Block.closeAt, Block.isEmpty, hfields]

/-- A block gives the slide that describes its section. -/
theorem Section.block_slide {s : Section} {after : List Line} (hvalid : s.Valid after)
    {start index : Nat} {slide : Slide} :
    (s.block start).slide index = .ok slide ↔ s.Describes start index slide := by
  have hfields : ∀ fields, readFields (joinLines (s.fields?.getD [])) = .ok fields ↔
      Reads s.fields? fields := fun _ => readFields_eq_ok fun _ => hvalid.not_isBlank
  unfold Block.slide
  constructor
  · intro h
    dsimp only at h
    split at h
    · cases h
    · rename_i fields hread
      cases h
      exact ⟨rfl, rfl, rfl, String.toList_ofList, (hfields fields).mp hread, toList_contentOf _⟩
  · rintro ⟨hindex, hstart, hend, hraw, hfront, hcontent⟩
    have hread : readFields (joinLines ((s.block start).front.getD [])) = .ok slide.frontMatter :=
      (hfields _).mpr hfront
    dsimp only
    rw [hread]
    rw [← toList_contentOf] at hcontent
    have hraw' : slide.rawFrontMatter = String.ofList (joinLines (s.fields?.getD [])) := by
      rw [← hraw, String.ofList_toList]
    obtain ⟨i, first, last, raw, fields, content⟩ := slide
    dsimp only at hindex hstart hend hcontent hraw'
    rw [hindex, hstart, hend, hraw', String.toList_inj.mp hcontent]
    rfl

/-- A section that is dropped has no front matter. -/
theorem Section.fields?_of_not_isSlide (s : Section) (h : ¬ s.IsSlide) : s.fields? = none := by
  cases hfields : s.fields? with
  | none => rfl
  | some front => exact absurd (.inl (by rw [hfields]; rfl)) h

/-! ## All sections -/

theorem slidesFrom_cons {index : Nat} {b : Block} {bs : List Block} {slides : List Slide} :
    slidesFrom index (b :: bs) = .ok slides ↔
      ∃ slide more, b.slide index = .ok slide ∧ slidesFrom (index + 1) bs = .ok more ∧
        slides = slide :: more := by
  rw [slidesFrom]
  cases b.slide index with
  | error fault => simp [bind, Except.bind]
  | ok slide =>
    cases slidesFrom (index + 1) bs with
    | error fault => simp [bind, Except.bind]
    | ok more => simp [bind, Except.bind, pure, Except.pure, eq_comm]

/-- The blocks of sections give the slides of the sections. -/
theorem slidesFrom_eq_ok {rest ls : List Line} {sections : List Section}
    (h : Falls rest sections ls) {start index : Nat} {slides : List Slide} :
    slidesFrom index ((blocksFrom start sections).filter (!·.isEmpty)) = .ok slides ↔
      Slides start index sections slides := by
  induction h generalizing start index slides with
  | nil =>
    constructor
    · intro h
      cases h
      exact .nil
    · rintro ⟨⟩
      rfl
  | @cons s sections after hvalid _ ih =>
    rw [blocksFrom]
    by_cases hslide : s.IsSlide
    · rw [List.filter_cons_of_pos (by simp [s.block_isEmpty, hslide]), slidesFrom_cons]
      constructor
      · rintro ⟨slide, more, hhere, hmore, rfl⟩
        exact .keep hslide ((Section.block_slide hvalid).mp hhere) (ih.mp hmore)
      · rintro (_ | ⟨hblank, _⟩ | ⟨_, hhere, hmore⟩)
        · exact absurd hslide hblank
        · exact ⟨_, _, (Section.block_slide hvalid).mpr hhere, ih.mpr hmore, rfl⟩
    · have hempty : (s.block start).isEmpty := by
        rw [← Bool.not_eq_false, s.block_isEmpty]
        exact hslide
      rw [List.filter_cons_of_neg (by simp [hempty]), ih]
      constructor
      · exact .skip hslide
      · rintro (_ | ⟨_, hmore⟩ | ⟨hhere, _, _⟩)
        · exact hmore
        · exact absurd hhere hslide

/-- There are slides exactly if all front matter can be read. -/
theorem exists_slides (start index : Nat) {sections : List Section} :
    (∃ slides, Slides start index sections slides) ↔
      ∀ s ∈ sections, ∃ fields, Reads s.fields? fields := by
  induction sections generalizing start index with
  | nil => exact ⟨fun _ _ hs => (nomatch hs), fun _ => ⟨[], .nil⟩⟩
  | cons s sections ih =>
    rw [List.forall_mem_cons]
    constructor
    · rintro ⟨slides, hslides⟩
      rcases hslides with _ | ⟨hblank, hmore⟩ | ⟨_, hhere, hmore⟩
      · -- a section that is dropped has no front matter that could be unreadable
        exact ⟨⟨[], s.fields?_of_not_isSlide hblank ▸ .absent⟩, (ih _ _).mp ⟨_, hmore⟩⟩
      · exact ⟨⟨_, hhere.frontMatter⟩, (ih _ _).mp ⟨_, hmore⟩⟩
    · rintro ⟨⟨fields, hreads⟩, hmore⟩
      by_cases hslide : s.IsSlide
      · obtain ⟨slides, hslides⟩ := (ih (start + s.lines.length) (index + 1)).mpr hmore
        refine ⟨⟨index, start, start + s.lines.length, String.ofList (joinLines (s.fields?.getD [])),
          fields, contentOf s.bodyLines⟩ :: slides, .keep hslide ?_ hslides⟩
        exact ⟨rfl, rfl, rfl, String.toList_ofList, hreads, toList_contentOf _⟩
      · obtain ⟨slides, hslides⟩ := (ih (start + s.lines.length) index).mpr hmore
        exact ⟨slides, .skip hslide hslides⟩

/-- A deck whose fences are closed is read as the slides of its sections. -/
theorem parse_sectioning {text : String} {sections : List Section}
    (h : Sectioning (lines text.toList) sections []) {deck : Deck} :
    parse text = .ok deck ↔ Slides 0 0 sections deck.slides := by
  unfold parse
  rw [readBlocks_sectioning h trivial]
  show (slidesFrom 0 _).map _ = _ ↔ _
  rw [← slidesFrom_eq_ok h.falls]
  cases slidesFrom 0 ((blocksFrom 0 sections).filter (!·.isEmpty)) with
  | error fault => simp [Except.map]
  | ok slides =>
    obtain ⟨found⟩ := deck
    simp [Except.map]

/-- A fence that stays open is reported with the number of its line. -/
theorem parse_openFence {text : String} {sections : List Section} {opening : Line} {later : List Line}
    (h : Sectioning (lines text.toList) sections (opening :: later)) (hopen : OpenFence opening later) :
    parse text = .error (.openFence ((sections.flatMap Section.lines).length + 1)) := by
  unfold parse
  rw [readBlocks_sectioning h hopen]
  rfl

/-! ## The places of slides -/

/-- Slides are numbered on without gaps. -/
theorem Slides.index_eq {start index : Nat} {sections : List Section} {slides : List Slide}
    (h : Slides start index sections slides) :
    slides.map (·.index) = List.range' index slides.length := by
  induction h with
  | nil => rfl
  | skip _ _ ih => exact ih
  | keep _ hhere _ ih => rw [List.map_cons, ih, hhere.index, List.length_cons, List.range'_succ]

theorem Section.IsSlide.lines_ne_nil {s : Section} (h : s.IsSlide) : s.lines ≠ [] := by
  intro hnil
  obtain ⟨hhead, hbody⟩ := List.append_eq_nil_iff.mp hnil
  rcases h with hfields | ⟨l, hl, -⟩
  · cases hs : s.head with
    | none => simp [Section.fields?, hs] at hfields
    | some head => cases head <;> simp [Section.headLines, hs, Head.lines] at hhead
  · rw [hbody] at hl
    cases hl

/-- The lines between the bounds of a slide are those of its section. -/
theorem Slides.section_of_mem {start index : Nat} {sections : List Section} {slides : List Slide}
    (h : Slides start index sections slides) {slide : Slide} (hslide : slide ∈ slides) :
    ∃ before s after, sections = before ++ s :: after ∧ s.IsSlide ∧
      s.Describes (start + (before.flatMap Section.lines).length) slide.index slide := by
  induction h with
  | nil => cases hslide
  | @skip start index s sections slides _ _ ih =>
    obtain ⟨before, t, after, rfl, ht, hdescribes⟩ := ih hslide
    refine ⟨s :: before, t, after, rfl, ht, ?_⟩
    rwa [List.flatMap_cons, List.length_append, ← Nat.add_assoc]
  | @keep start index s sections first slides hs hhere _ ih =>
    rcases List.mem_cons.mp hslide with rfl | hslide
    · exact ⟨[], s, sections, rfl, hs, hhere.index ▸ hhere⟩
    · obtain ⟨before, t, after, rfl, ht, hdescribes⟩ := ih hslide
      refine ⟨s :: before, t, after, rfl, ht, ?_⟩
      rwa [List.flatMap_cons, List.length_append, ← Nat.add_assoc]

theorem Slides.start_le {start index : Nat} {sections : List Section} {slides : List Slide}
    (h : Slides start index sections slides) {slide : Slide} (hslide : slide ∈ slides) :
    start ≤ slide.startLine := by
  obtain ⟨before, s, after, -, -, hdescribes⟩ := h.section_of_mem hslide
  rw [hdescribes.startLine]
  exact Nat.le_add_right start _

/-- A slide ends before the next one starts. -/
theorem Slides.disjoint {start index : Nat} {sections : List Section} {slides : List Slide}
    (h : Slides start index sections slides) :
    slides.Pairwise fun a b => a.endLine ≤ b.startLine := by
  induction h with
  | nil => exact .nil
  | skip _ _ ih => exact ih
  | keep _ hhere hmore ih =>
    refine .cons (fun slide hslide => ?_) ih
    rw [hhere.endLine]
    exact hmore.start_le hslide

/-- A slide takes up lines of the deck: those of its section. -/
theorem Slides.lines_eq {deck : List Line} {sections : List Section} {slides : List Slide}
    (hfalls : Falls [] sections deck) (h : Slides 0 0 sections slides) {slide : Slide}
    (hslide : slide ∈ slides) :
    slide.startLine < slide.endLine ∧ slide.endLine ≤ deck.length ∧
      ∃ s ∈ sections, s.IsSlide ∧ s.Describes slide.startLine slide.index slide ∧
        (deck.take slide.endLine).drop slide.startLine = s.lines := by
  obtain ⟨before, s, after, rfl, hs, hdescribes⟩ := h.section_of_mem hslide
  rw [Nat.zero_add] at hdescribes
  have hdeck := hfalls.lines_eq
  rw [List.append_nil, List.flatMap_append, List.flatMap_cons, ← List.append_assoc] at hdeck
  have hpos : 0 < s.lines.length := List.length_pos_iff.mpr hs.lines_ne_nil
  have hend : slide.endLine = (before.flatMap Section.lines ++ s.lines).length := by
    rw [hdescribes.endLine, List.length_append]
  refine ⟨?_, ?_, s, by simp, hs, hdescribes.startLine ▸ hdescribes, ?_⟩
  · rw [hdescribes.startLine, hdescribes.endLine]
    omega
  · rw [hend, ← hdeck]
    simp
  · rw [hend, hdescribes.startLine, ← hdeck, List.take_left, List.drop_left]

/-! ## The grammar -/

/-- A section whose front matter stands for no fields. -/
def Section.Unreadable (s : Section) : Prop :=
  ∃ front, s.fields? = some front ∧ ∀ fields, ¬ Reads (some front) fields

theorem exists_unreadable {sections : List Section} (h : ∀ slides, ¬ Slides 0 0 sections slides) :
    ∃ s ∈ sections, s.Unreadable := by
  refine Classical.byContradiction fun hnone => ?_
  have hall : ∀ s ∈ sections, ∃ fields, Reads s.fields? fields := by
    intro s hs
    cases hfront : s.fields? with
    | none => exact ⟨[], .absent⟩
    | some front =>
      refine Classical.byContradiction fun hfields => hnone ⟨s, hs, front, hfront, ?_⟩
      exact fun fields hreads => hfields ⟨fields, hreads⟩
  obtain ⟨slides, hslides⟩ := (exists_slides 0 0).mpr hall
  exact h slides hslides

theorem parse_eq_ok {text : String} {deck : Deck} :
    parse text = .ok deck ↔
      ∃ sections, Sectioning (lines text.toList) sections [] ∧ Slides 0 0 sections deck.slides := by
  constructor
  · intro hparse
    obtain ⟨sections, rest, hsectioning, hstops⟩ := exists_sectioning (lines text.toList)
    cases rest with
    | nil => exact ⟨sections, hsectioning, (parse_sectioning hsectioning).mp hparse⟩
    | cons opening later =>
      rw [parse_openFence hsectioning hstops] at hparse
      cases hparse
  · rintro ⟨sections, hsectioning, hslides⟩
    exact (parse_sectioning hsectioning).mpr hslides

theorem parse_eq_error {text : String} :
    (∃ fault, parse text = .error fault) ↔
      (∃ sections opening later, Sectioning (lines text.toList) sections (opening :: later) ∧
        OpenFence opening later) ∨
      ∃ sections, Sectioning (lines text.toList) sections [] ∧ ∃ s ∈ sections, s.Unreadable := by
  constructor
  · rintro ⟨fault, hparse⟩
    obtain ⟨sections, rest, hsectioning, hstops⟩ := exists_sectioning (lines text.toList)
    cases rest with
    | cons opening later => exact .inl ⟨sections, opening, later, hsectioning, hstops⟩
    | nil =>
      refine .inr ⟨sections, hsectioning, exists_unreadable fun slides hslides => ?_⟩
      have hok : parse text = .ok ⟨slides⟩ := (parse_sectioning hsectioning).mpr hslides
      rw [hok] at hparse
      cases hparse
  · rintro (⟨sections, opening, later, hsectioning, hopen⟩ | ⟨sections, hsectioning, s, hs, hnone⟩)
    · exact ⟨_, parse_openFence hsectioning hopen⟩
    · cases hparse : parse text with
      | error fault => exact ⟨fault, rfl⟩
      | ok deck =>
        have hslides := (parse_sectioning hsectioning).mp hparse
        obtain ⟨fields, hreads⟩ := (exists_slides 0 0).mp ⟨_, hslides⟩ s hs
        obtain ⟨front, hfront, hnone⟩ := hnone
        exact absurd (hfront ▸ hreads) (hnone fields)

/-- A deck that can be read and is seen to have some property. -/
theorem exists_deck {text : String} {test : Deck → Bool} (h : (parse text).toOption.any test = true) :
    ∃ deck, parse text = .ok deck ∧ test deck = true := by
  cases hparse : parse text with
  | ok deck =>
    rw [hparse] at h
    exact ⟨deck, rfl, h⟩
  | error fault =>
    rw [hparse] at h
    cases h

/-- Reading refuses a deck exactly if a code fence stays open or the front matter of a section is no
mapping. Otherwise the slides are the sections that have front matter or text: numbered from 0, each with
the lines of its section between its bounds, one behind the other. -/
theorem parse_exactly_grammar (text : String) :
    ((∃ fault, parse text = .error fault) ↔
      (∃ sections opening later, Sectioning (lines text.toList) sections (opening :: later) ∧
        OpenFence opening later) ∨
      ∃ sections, Sectioning (lines text.toList) sections [] ∧ ∃ s ∈ sections, s.Unreadable) ∧
    ∀ deck, parse text = .ok deck ↔
      ∃ sections, Sectioning (lines text.toList) sections [] ∧ Slides 0 0 sections deck.slides ∧
        deck.slides.map (·.index) = List.range deck.slides.length ∧
        (∀ slide ∈ deck.slides,
          slide.startLine < slide.endLine ∧ slide.endLine ≤ (lines text.toList).length ∧
          ∃ s ∈ sections, s.IsSlide ∧ s.Describes slide.startLine slide.index slide ∧
            ((lines text.toList).take slide.endLine).drop slide.startLine = s.lines) ∧
        deck.slides.Pairwise fun a b => a.endLine ≤ b.startLine := by
  refine ⟨parse_eq_error, fun deck => parse_eq_ok.trans ⟨?_, ?_⟩⟩
  · rintro ⟨sections, hsectioning, hslides⟩
    refine ⟨sections, hsectioning, hslides, ?_, fun slide => hslides.lines_eq hsectioning.falls,
      hslides.disjoint⟩
    rw [hslides.index_eq, List.range_eq_range']
  · rintro ⟨sections, hsectioning, hslides, -⟩
    exact ⟨sections, hsectioning, hslides⟩

end DeckPress.Deck
