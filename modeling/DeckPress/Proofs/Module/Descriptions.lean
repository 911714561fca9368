import DeckPress.Proofs.Deck.Detached
import DeckPress.Proofs.Module.Editor
import DeckPress.Proofs.Module.Numbering

/-!
# What the list says of a slide, and what is served for it

The list of slides gives front matter, title and note of each shown slide, and each shown slide is served as a
markdown file of its own. For a slide that is written in the deck the list speaks of the deck and the file is
put together from it. For a slide whose text stands in a file of its own both speak of that text, but for the
note: that is always the one in the deck.
-/

namespace DeckPress

open Text

namespace Deck

/-- The title of a file: declared, or its first heading. -/
def titleOf? (fields : Fields) (body : String) : Option String :=
  match (fields.get? "title").bind Json.str? with
  | some title => some title
  | none => firstHeading? body

theorem firstHeading?_filled (content : String) :
    firstHeading? (if content = "" then "\n" else content) = firstHeading? content := by
  split
  · rename_i hempty
    rw [hempty]
    rfl
  · rfl

theorem titleOf?_filled (fields : Fields) (content : String) :
    titleOf? fields (if content = "" then "\n" else content) = titleOf? fields content := by
  unfold titleOf?
  rw [firstHeading?_filled]

theorem trailingComment?_filled (content : String) :
    trailingComment? (if content = "" then "\n" else content) = trailingComment? content := by
  split
  · rename_i hempty
    rw [hempty]
    decide
  · rfl

/-- A slide says the same as its file: an empty content is written as an empty line, which has neither heading
nor comment. -/
theorem Slide.says_markdown {text : String} {deck : Deck} (hparse : parse text = .ok deck)
    (hreturn : ∀ l ∈ lines text.toList, l.getLast? ≠ some '\r') {slide : Slide}
    (hslide : slide ∈ deck.slides) :
    ∃ body, splitFrontMatter slide.markdown = .ok (slide.frontMatter, body) ∧
      slide.title? = titleOf? slide.frontMatter body ∧ slide.note? = trailingComment? body := by
  obtain ⟨s, after, hvalid, hisSlide, hdescribes, hlines⟩ := exists_section hparse hreturn hslide
  refine ⟨_, hdescribes.splitFrontMatter_eq hvalid hisSlide hlines, ?_, ?_⟩
  · exact (titleOf?_filled slide.frontMatter slide.content).symm
  · rw [trailingComment?_filled, Slide.note?]

end Deck

namespace Presentation

variable {p : Presentation}

/-- What is said of a slide whose text stands in a file of its own is read off what is served for it. -/
theorem describe_file {s : PresentedSlide} {file : SlideFile} (hfile : s.file = some file) {module : String}
    {fields : Fields} {title : Option String} (h : describe s module = .ok (fields, title)) :
    ∃ text body, s.markdown module = .ok text ∧ Deck.splitFrontMatter text = .ok (fields, body) ∧
      title = Deck.titleOf? fields body := by
  unfold describe at h
  rw [hfile] at h
  dsimp only at h
  cases hmarkdown : s.markdown module with
  | error e =>
    rw [hmarkdown] at h
    cases h
  | ok text =>
    cases hsplit : Deck.splitFrontMatter text with
    | error fault => simp [hmarkdown, hsplit, bind, Except.bind, Except.mapError] at h
    | ok parts =>
      obtain ⟨found, body⟩ := parts
      simp only [hmarkdown, hsplit, bind, Except.bind, Except.mapError] at h
      refine ⟨text, body, rfl, ?_, ?_⟩
      · split at h <;> cases h <;> exact hsplit
      · unfold Deck.titleOf?
        split at h <;> cases h <;> simp [*]

/-- The list says of a slide what a file says: its front matter, its title, and the comment at its end. -/
structure Says (info : Json) (fields : Fields) (title note : Option String) : Prop where
  fields : infoField? info "frontmatter" = some (.obj fields)
  title : infoField? info "title" = some (optionalText title)
  note : infoField? info "note" = some (optionalText note)

theorem optionalText_inj {a b : Option String} : optionalText a = optionalText b ↔ a = b := by
  constructor
  · intro h
    cases a with
    | none => cases b with
      | none => rfl
      | some b => cases h
    | some a => cases b with
      | none => cases h
      | some b =>
        cases h
        rfl
  · exact congrArg optionalText

/-- The note that the list gives is the one in the deck, so it is that of a file only if the two agree. -/
theorem says_iff {info : Json} {fields : Fields} {title note : Option String} {body : String}
    (h : Says info fields title note) :
    Says info fields title (Deck.trailingComment? body) ↔ note = Deck.trailingComment? body := by
  constructor
  · intro hsays
    exact optionalText_inj.mp (Option.some.inj (h.note.symm.trans hsays.note))
  · rintro rfl
    exact h

/-- A loaded slide is one of the deck, with the file that it refers to. -/
theorem source_of_mem_shown {d : Disk} {l : Layout} (hload : Presentation.load d l = .ok p)
    {s : PresentedSlide} (hs : s ∈ p.shown) :
    ∃ text deck, d.readText l.entry = .ok text ∧ Deck.parse text = .ok deck ∧ s.source ∈ deck.slides := by
  obtain ⟨text, deck, hread, hparse, -, hslides⟩ := load_eq_ok hload
  have hmem := (List.mem_filter.mp hs).1
  rw [hslides] at hmem
  obtain ⟨source, hsource, rfl⟩ := List.mem_map.mp hmem
  exact ⟨text, deck, hread, hparse, hsource⟩

/-- What the list says of a shown slide, next to what is served for it. -/
theorem says_of_slideMeta {d : Disk} {l : Layout} (hload : Presentation.load d l = .ok p)
    {s : PresentedSlide} (hs : s ∈ p.shown) {module : String} {info : Json}
    (hinfo : slideMeta s module = .ok info)
    (hown : s.file = none → ∀ text, d.readText l.entry = .ok text →
      ∀ line ∈ lines text.toList, line.getLast? ≠ some '\r') :
    ∃ text fields body, s.markdown module = .ok text ∧ Deck.splitFrontMatter text = .ok (fields, body) ∧
      Says info fields (Deck.titleOf? fields body) s.source.note? ∧
      (s.file = none → s.source.note? = Deck.trailingComment? body) := by
  obtain ⟨fields, title, hdescribe, hfields, htitle, hnote, -⟩ := slideMeta_eq_ok hinfo
  cases hfile : s.file with
  | none =>
    obtain ⟨text, deck, hread, hparse, hsource⟩ := source_of_mem_shown hload hs
    obtain ⟨body, hsplit, hsame, hcomment⟩ := Deck.Slide.says_markdown hparse (hown hfile text hread) hsource
    unfold describe at hdescribe
    rw [hfile] at hdescribe
    cases hdescribe
    refine ⟨s.source.markdown, _, body, ?_, hsplit, ⟨hfields, ?_, hnote⟩, fun _ => hcomment⟩
    · rw [PresentedSlide.markdown, hfile]
    · rw [htitle, hsame]
  | some file =>
    obtain ⟨text, body, hmarkdown, hsplit, rfl⟩ := describe_file hfile hdescribe
    exact ⟨text, fields, body, hmarkdown, hsplit, ⟨hfields, htitle, hnote⟩, by rintro ⟨⟩⟩

/-- The list describes the shown slides as they are served: front matter and title are those of the markdown
under the id of the slide, and so is the note of a slide that is written in the deck. For a slide whose text
stands in a file of its own the note is that of the deck, and is right only if the file has the same one.
Where a slide is written in the deck, no line of the deck may end in a carriage return: in the markdown that
is served such a line is read without it. -/
theorem list_describes_iff {d : Disk} {l : Layout} (hload : Presentation.load d l = .ok p)
    {code : String} (hcode : p.slideList = .ok code) :
    ∃ infos : List Json, infos.length = p.shown.length ∧
      ∀ k s info, p.shown[k]? = some s → infos[k]? = some info →
        p.Lists code (k + 1) s info ∧
        ((s.file = none → ∀ text, d.readText l.entry = .ok text →
            ∀ line ∈ lines text.toList, line.getLast? ≠ some '\r') →
          ∃ text fields body,
            (∀ d editors, p.provide? d editors (.slide (k + 1)) = .ok (some text)) ∧
            Deck.splitFrontMatter text = .ok (fields, body) ∧
            Says info fields (Deck.titleOf? fields body) s.source.note? ∧
            (Says info fields (Deck.titleOf? fields body) (Deck.trailingComment? body) ↔
              s.file = none ∨ s.source.note? = Deck.trailingComment? body)) := by
  obtain ⟨-, -, infos, hinfos, hlists⟩ := lists_of_slideList hcode
  refine ⟨infos, hinfos.length_eq.symm, fun k s info hs hinfo => ?_⟩
  have hlist := hlists k s info hs hinfo
  refine ⟨hlist, fun hown => ?_⟩
  have hmem := List.mem_of_getElem? hs
  obtain ⟨text, fields, body, hmarkdown, hsplit, hsays, hnote⟩ :=
    says_of_slideMeta hload hmem hlist.described hown
  refine ⟨text, fields, body, fun d editors => ?_, hsplit, hsays, ?_⟩
  · rw [hlist.provided, PresentedSlide.markdown_eq_ok hmarkdown]
    rfl
  · rw [says_iff hsays]
    exact ⟨.inr, fun h => h.elim hnote id⟩

-- the heading keeps its hash sign in the deck, where the line ends in a carriage return, and loses it in the file
example : (Deck.parse "---\nlayout: x\n---\n# Title #\r\r\n\n").toOption.map (fun deck =>
    deck.slides.map fun s => (s.title?, (Deck.splitFrontMatter s.markdown).toOption.map fun parts =>
      Deck.titleOf? parts.1 parts.2)) = some [(some "Title #", some (some "Title"))] := by
  decide +kernel

/-- A disk with a deck of two slides, of which the text of the second stands in a file of its own. Both the
deck and the file have a comment. -/
def notesDisk : Disk where
  entries := [
    (["slides.md"], .file "# One\n\n---\nsrc: ./part.md\n---\n\n<!-- kept -->\n".toUTF8),
    (["part.md"], .file "# Part\n\n<!-- shown -->\n".toUTF8)]

/-- What is served for its slides. -/
def notesServed : List String := ["# One\n\n", "# Part\n\n<!-- shown -->\n"]

/-- The presentation on this disk and its list of slides. -/
theorem exists_notes : ∃ p code, Presentation.load notesDisk bareLayout = .ok p ∧ p.slideList = .ok code ∧
    p.shown.map (·.source.note?) = [none, some "kept"] ∧
    p.shown.map (fun s => (s.markdown (ModuleId.text .slides)).toOption) = notesServed.map some := by
  have hseen : (Presentation.load notesDisk bareLayout).toOption.any (fun p =>
      p.slideList.toOption.isSome ∧ p.shown.map (·.source.note?) = [none, some "kept"] ∧
      p.shown.map (fun s => (s.markdown (ModuleId.text .slides)).toOption) = notesServed.map some) = true := by
    decide +kernel
  cases hload : Presentation.load notesDisk bareLayout with
  | error e =>
    rw [hload] at hseen
    cases hseen
  | ok p =>
    rw [hload] at hseen
    obtain ⟨hlisted, hnotes, hserved⟩ := of_decide_eq_true hseen
    cases hcode : p.slideList with
    | error e =>
      rw [hcode] at hlisted
      cases hlisted
    | ok code => exact ⟨p, code, rfl, hcode, hnotes, hserved⟩

/-- A slide of this presentation with its note and what is served for it. -/
theorem exists_noted {p : Presentation} (hnotes : p.shown.map (·.source.note?) = [none, some "kept"])
    (hserved : p.shown.map (fun s => (s.markdown (ModuleId.text .slides)).toOption) = notesServed.map some)
    {k : Nat} (hk : k < 2) :
    ∃ s, p.shown[k]? = some s ∧ some s.source.note? = [none, some "kept"][k]? ∧
      ∀ text, notesServed[k]? = some text → ∀ module, s.markdown module = .ok text := by
  have hlength : k < p.shown.length := by
    have htwo : p.shown.length = 2 := by rw [← List.length_map (·.source.note?), hnotes]; rfl
    rwa [htwo]
  have hs := List.getElem?_eq_getElem hlength
  refine ⟨_, hs, by rw [← hnotes, List.getElem?_map, hs]; rfl, fun text htext module => ?_⟩
  have hmarkdown : (p.shown[k].markdown (ModuleId.text .slides)).toOption = some text := by
    have hall := congrArg (·[k]?) hserved
    simpa only [List.getElem?_map, hs, htext, Option.map_some, Option.some.injEq] using hall
  cases hfound : p.shown[k].markdown (ModuleId.text .slides) with
  | error e =>
    rw [hfound] at hmarkdown
    cases hmarkdown
  | ok found =>
    rw [hfound] at hmarkdown
    cases hmarkdown
    exact PresentedSlide.markdown_eq_ok hfound module

/-- The first slide is described as it is served. -/
theorem list_describes_notes :
    ∃ p code info, Presentation.load notesDisk bareLayout = .ok p ∧ p.slideList = .ok code ∧
      (listings code)[0]? = some ⟨"1", "1", "n1", info.text⟩ ∧
      (∀ d editors, p.provide? d editors (.slide 1) = .ok (some "# One\n\n")) ∧
      Says info [] (some "One") none := by
  obtain ⟨p, code, hload, hcode, hnotes, hserved⟩ := exists_notes
  obtain ⟨s, hs, hnote, hmarkdown⟩ := exists_noted hnotes hserved (k := 0) (by decide)
  obtain ⟨infos, hlength, hdescribes⟩ := list_describes_iff hload hcode
  have hinfo : 0 < infos.length := hlength ▸ (List.getElem?_eq_some_iff.mp hs).1
  obtain ⟨hlists, hsays⟩ := hdescribes 0 s infos[0] hs (List.getElem?_eq_getElem hinfo)
  have hreturns : (notesDisk.readText bareLayout.entry).toOption.all (fun text =>
      (lines text.toList).all (·.getLast? ≠ some '\r')) = true := by decide
  obtain ⟨text, fields, body, hprovided, hsplit, hsaid, -⟩ := hsays fun _ text htext line hline => by
    rw [htext] at hreturns
    exact of_decide_eq_true (List.all_eq_true.mp hreturns line hline)
  have htext : ∀ d editors, p.provide? d editors (.slide 1) = .ok (some "# One\n\n") := fun d editors => by
    rw [hlists.provided, hmarkdown _ rfl]
    rfl
  cases (hprovided notesDisk true).symm.trans (htext notesDisk true)
  have hbare : Deck.splitFrontMatter "# One\n\n" = .ok ([], "# One\n\n") := by with_unfolding_all rfl
  cases hsplit.symm.trans hbare
  have htitle : Deck.titleOf? [] "# One\n\n" = some "One" := by decide
  have hnone : s.source.note? = none := Option.some.inj hnote
  rw [htitle, hnone] at hsaid
  exact ⟨p, code, infos[0], hload, hcode, hlists.listed.2, htext, hsaid⟩

/-- The second slide is served with one note and listed with another. -/
theorem note_differs_from_served :
    ∃ p code info text, Presentation.load notesDisk bareLayout = .ok p ∧ p.slideList = .ok code ∧
      (listings code)[1]? = some ⟨"2", "2", "n2", info.text⟩ ∧
      (∀ d editors, p.provide? d editors (.slide 2) = .ok (some text)) ∧
      Deck.splitFrontMatter text = .ok ([], text) ∧ Deck.trailingComment? text = some "shown" ∧
      infoField? info "note" = some (.str "kept") := by
  obtain ⟨p, code, hload, hcode, hnotes, hserved⟩ := exists_notes
  obtain ⟨s, hs, hnote, hmarkdown⟩ := exists_noted hnotes hserved (k := 1) (by decide)
  obtain ⟨-, -, infos, hinfos, hlists⟩ := lists_of_slideList hcode
  have hinfo : 1 < infos.length := hinfos.length_eq ▸ (List.getElem?_eq_some_iff.mp hs).1
  have hlist := hlists 1 s infos[1] hs (List.getElem?_eq_getElem hinfo)
  obtain ⟨-, -, -, -, -, hsaid, -⟩ := slideMeta_eq_ok hlist.described
  have hkept : s.source.note? = some "kept" := Option.some.inj hnote
  rw [hkept] at hsaid
  refine ⟨p, code, infos[1], "# Part\n\n<!-- shown -->\n", hload, hcode, hlist.listed.2, fun d editors => ?_,
    by with_unfolding_all rfl, by decide, hsaid⟩
  rw [hlist.provided, hmarkdown _ rfl]
  rfl

end Presentation

end DeckPress
