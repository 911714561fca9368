import DeckPress.Component.Compile
import DeckPress.Proofs.Code.Editor
import DeckPress.Proofs.Deck.Detached
import DeckPress.Proofs.Pipeline.Containment

/-!
# Who gets an editor and who gets the loader

The loader of editors is provided if the markdown of a shown slide has an editor fence. An editor is put
into a slide if the body of that markdown has one, and the body has been cut into lines and put together
again. So a slide that asks gets, but a slide may get without asking: the carriage returns that end its
lines are gone from the body of a file with front matter, and are still there in the file.
-/

namespace DeckPress

open Text

namespace Component

/-- Compiling a file puts an editor in the place of a fence. -/
def ReplacesFence (source : String) : Prop :=
  ∃ fields body, Deck.splitFrontMatter source = .ok (fields, body) ∧
    openFence? 1 none (lines body.toList) = none ∧ Code.Editor.replace body ≠ body

end Component

namespace Deck

/-- The front matter of a file opens no editor fence. -/
def OpensNoEditor (text : String) : Prop :=
  ∀ first rest, lines text.toList = first :: rest → closesFrontMatter first →
    ∀ l ∈ rest.takeWhile (!closesFrontMatter ·), Code.Editor.opening? l = none

/-- No line of a file has a carriage return at its end. -/
def NoReturns (text : String) : Prop :=
  ∀ l ∈ splitOn (· = '\n') text.toList, l.getLast? ≠ some '\r'

end Deck

namespace Code.Editor

theorem isIn_splitOn_joinLines {ls : List Line} (h : ∀ l ∈ ls, '\n' ∉ l) :
    isIn (splitOn (· = '\n') (joinLines ls)) ↔ isIn ls := by
  cases ls with
  | nil => decide
  | cons l ls => rw [splitOn_joinLines h (List.cons_ne_nil l ls)]

/-- A line that opens no fence opens no editor fence. -/
theorem opening?_of_unfenced {l : Line} (h : Deck.fenceMarker? l = none) : opening? l = none := by
  cases hopening : opening? l with
  | none => rfl
  | some found =>
    obtain ⟨rest, rfl⟩ := mark_prefix_of_opening? (l := l) (by rw [hopening]; rfl)
    cases h

/-- A line that closes front matter opens no editor fence. -/
theorem opening?_of_closesFrontMatter {l : Line} (h : Deck.closesFrontMatter l) : opening? l = none :=
  opening?_of_unfenced (Deck.fenceMarker?_of_closes h)

/-- The body behind front matter has the fences of its lines. -/
theorem isIn_body {text : String} {first closing : Line} {front rest : List Line} {ending : List Char}
    (hlines : lines text.toList = first :: (front ++ closing :: rest)) (hending : ending = [] ∨ ending = ['\n']) :
    isIn (splitOn (· = '\n') (joinLines rest ++ ending)) ↔ isIn rest := by
  have hfeed : ∀ l ∈ rest, '\n' ∉ l := by
    intro l hl
    have hmem : l ∈ lines text.toList := by
      rw [hlines]
      exact List.mem_cons_of_mem _ (List.mem_append_right _ (List.mem_cons_of_mem _ hl))
    exact noFeed_of_mem_lines l hmem
  rcases hending with rfl | rfl
  · rw [List.append_nil]
    exact isIn_splitOn_joinLines hfeed
  · rw [splitOn_snoc, isIn_snoc_nil]
    exact isIn_splitOn_joinLines hfeed

/-- What a file asks for its body gets, however its lines end, unless the fence is opened in front matter. -/
theorem wanted_body {text body : String} {fields : Fields}
    (hsplit : Deck.splitFrontMatter text = .ok (fields, body)) (hfront : Deck.OpensNoEditor text)
    (h : wanted text) : wanted body := by
  cases Deck.cut_of_splitFrontMatter hsplit with
  | bare hbody _ =>
    unfold wanted at h ⊢
    rwa [hbody]
  | behind first closing front rest ending hlines hfirst hbefore hclosing hending hbody =>
    have hall : isIn (lines text.toList) := by
      rw [lines_eq_cutEnds]
      exact isIn_cutEnds h
    have hopens : ∀ l ∈ front, opening? l = none := by
      intro l hl
      refine hfront first _ hlines hfirst l ?_
      rw [List.takeWhile_append_of_pos fun x hx => by simp [hbefore x hx]]
      exact List.mem_append_left _ hl
    have hrest : isIn rest := by
      rw [hlines, ← List.singleton_append, isIn_append, isIn_append hopens, ← List.singleton_append,
        isIn_append] at hall
      · exact hall
      · intro l hl
        cases List.mem_singleton.mp hl
        exact opening?_of_closesFrontMatter hclosing
      · intro l hl
        cases List.mem_singleton.mp hl
        exact opening?_of_closesFrontMatter hfirst
    unfold wanted
    rw [hbody]
    exact (isIn_body hlines hending).mpr hrest

/-- What the body of a file gets the file asks for, unless carriage returns hide the fence. -/
theorem wanted_of_body {text body : String} {fields : Fields}
    (hsplit : Deck.splitFrontMatter text = .ok (fields, body)) (hreturns : Deck.NoReturns text)
    (h : wanted body) : wanted text := by
  cases Deck.cut_of_splitFrontMatter hsplit with
  | bare hbody _ =>
    unfold wanted at h ⊢
    rwa [← hbody]
  | behind first closing front rest ending hlines _ _ _ hending hbody =>
    have hrest : isIn rest := by
      unfold wanted at h
      rw [hbody] at h
      exact (isIn_body hlines hending).mp h
    have hall : isIn (lines text.toList) := by
      rw [hlines, ← List.singleton_append]
      exact isIn_append_left _ (isIn_append_left _ (isIn_append_left [closing] hrest))
    rw [lines_eq_cutEnds, isIn_of_noReturn hreturns] at hall
    exact hall

end Code.Editor

namespace Deck

theorem noReturns_of_isLine {text : String} {ls : List Line} (htext : text.toList = endedLines ls)
    (hls : ∀ l ∈ ls, IsLine l) : NoReturns text := by
  intro l hl
  rw [htext, splitOn_endedLines fun l hl => (hls l hl).noFeed] at hl
  rcases List.mem_append.mp hl with hl | hl
  · exact (hls l hl).noReturn
  · cases List.mem_singleton.mp hl
    exact fun hnone => nomatch hnone

/-- The front matter of a section opens no fence at all. -/
theorem Section.Valid.opensNoEditor {s : Section} {after : List Line} (hvalid : s.Valid after)
    {text : String} (htext : Text.lines text.toList = s.detached.lines) : OpensNoEditor text := by
  intro first rest hfile hfirst l hl
  rw [htext] at hfile
  cases hfields : s.fields? with
  | none =>
    -- without front matter the first line is one of the body, which does not close front matter
    have hall : s.detached.lines = s.detached.body.flatMap Piece.lines := by
      simp [Section.lines, Section.headLines, Section.bodyLines, Section.detached, hfields]
    rw [hall] at hfile
    cases hpieces : s.detached.body with
    | nil => rw [hpieces] at hfile; cases hfile
    | cons q pieces =>
      obtain ⟨x, more, hq, hx⟩ := ((hvalid.detached []).body q (hpieces ▸ List.mem_cons_self)).head
      rw [hpieces, List.flatMap_cons, hq] at hfile
      cases hfile
      rw [hx] at hfirst
      cases hfirst
  | some fields =>
    obtain ⟨closing, hfront⟩ := hvalid.isFrontMatter hfields
    have hall : s.detached.lines = fieldsMark :: (fields ++ fieldsMark :: s.detached.bodyLines) := by
      simp [Section.lines, Section.headLines, Section.detached, hfields, Head.lines]
    rw [hall] at hfile
    cases hfile
    rw [List.takeWhile_append_of_pos fun x hx => by simp [hfront.unclosed x hx]] at hl
    have hmark : (fieldsMark :: s.detached.bodyLines).takeWhile (!closesFrontMatter ·) = [] := rfl
    rw [hmark, List.append_nil] at hl
    exact Code.Editor.opening?_of_unfenced (hfront.unfenced l hl)

/-- A slide that is written in a deck opens no editor in its front matter, and has no carriage returns at the
ends of its lines unless the deck has them doubled. -/
theorem own_slide_plain {text : String} {deck : Deck} (hparse : parse text = .ok deck)
    (hreturn : ∀ l ∈ lines text.toList, l.getLast? ≠ some '\r') {slide : Slide}
    (hslide : slide ∈ deck.slides) : NoReturns slide.markdown ∧ OpensNoEditor slide.markdown := by
  obtain ⟨s, after, hvalid, -, hdescribes, hlines⟩ := exists_section hparse hreturn hslide
  have hdetached := Section.isLine_detached hlines
  have htext := hdescribes.markdown_eq hvalid
  exact ⟨noReturns_of_isLine htext hdetached,
    hvalid.opensNoEditor (by rw [htext, lines_endedLines hdetached])⟩

end Deck

namespace PresentedSlide

/-- The text of a slide is the same for every module that asks for it. -/
theorem markdown_eq_ok {s : PresentedSlide} {module text : String} (h : s.markdown module = .ok text)
    (other : String) : s.markdown other = .ok text := by
  obtain ⟨source, file⟩ := s
  cases file with
  | none => exact h
  | some file =>
    obtain ⟨path, content⟩ := file
    cases content with
    | none => cases h
    | some content => exact h

end PresentedSlide

namespace Presentation

/-- A shown slide has this markdown. -/
def Serves (p : Presentation) (markdown : String) : Prop :=
  ∃ x ∈ p.visible, x.2.markdown (ModuleId.text (.slide x.1)) = .ok markdown

/-- When all shown slides are readable, they are searched to the first that asks for an editor. -/
theorem wantsEditor_eq_ok (module : String) {slides : List (Nat × PresentedSlide)}
    (h : ∀ x ∈ slides, x.2.IsReadable) :
    ∃ found, wantsEditor module slides = .ok found ∧
      (found = true ↔ ∃ x ∈ slides, ∃ text, x.2.markdown (ModuleId.text (.slide x.1)) = .ok text ∧
        Code.Editor.wanted text) := by
  induction slides with
  | nil => exact ⟨false, rfl, by simp⟩
  | cons x slides ih =>
    obtain ⟨hx, hslides⟩ := List.forall_mem_cons.mp h
    obtain ⟨text, htext⟩ := (x.2.markdown_ok_iff module).mpr hx
    have hown := PresentedSlide.markdown_eq_ok htext (ModuleId.text (.slide x.1))
    unfold wantsEditor
    rw [htext]
    cases hwanted : Code.Editor.wanted text with
    | true =>
      refine ⟨true, by simp [bind, Except.bind, hwanted, pure, Except.pure], ?_⟩
      exact iff_of_true rfl ⟨x, List.mem_cons_self, text, hown, hwanted⟩
    | false =>
      obtain ⟨found, hfound, hiff⟩ := ih hslides
      refine ⟨found, by simp [bind, Except.bind, hwanted, hfound], ?_⟩
      rw [hiff, List.exists_mem_cons_iff, or_iff_right]
      rintro ⟨other, hother, hasks⟩
      rw [hown] at hother
      cases hother
      rw [hwanted] at hasks
      cases hasks

/-- The loader is provided exactly if a shown slide asks for an editor. -/
theorem editor_eq_loader {p : Presentation} (h : ∀ x ∈ p.visible, x.2.IsReadable) :
    p.editor true = .ok editorLoader ↔ ∃ text, p.Serves text ∧ Code.Editor.wanted text := by
  obtain ⟨found, hfound, hiff⟩ := wantsEditor_eq_ok (ModuleId.text .monaco) h
  have heditor : p.editor true = .ok (if found then editorLoader else noEditor) := by
    unfold editor
    rw [hfound]
    rfl
  have hserves : (∃ text, p.Serves text ∧ Code.Editor.wanted text) ↔ found = true := by
    rw [hiff]
    constructor
    · rintro ⟨text, ⟨x, hx, htext⟩, hwanted⟩
      exact ⟨x, hx, text, htext, hwanted⟩
    · rintro ⟨x, hx, text, htext, hwanted⟩
      exact ⟨text, ⟨x, hx, htext⟩, hwanted⟩
  rw [heditor, hserves]
  cases found with
  | true => exact iff_of_true rfl rfl
  | false =>
    refine iff_of_false ?_ Bool.false_ne_true
    intro hsame
    exact absurd (Except.ok.inj hsame) (by decide)

/-- A slide that compiles up to its fences, and whose front matter opens no editor. -/
structure Ready (text : String) : Prop where
  compiles : ∃ fields body, Deck.splitFrontMatter text = .ok (fields, body) ∧
    Component.openFence? 1 none (lines body.toList) = none
  front : Deck.OpensNoEditor text

/-- Of slides that compile, however their lines end, one has an editor if the loader is provided. The loader is
provided if an editor is put into a slide that has no carriage returns at the ends of its lines. -/
theorem editor_loader_wired {p : Presentation} (hread : ∀ x ∈ p.visible, x.2.IsReadable)
    (hready : ∀ text, p.Serves text → Ready text) :
    (p.editor true = .ok editorLoader → ∃ text, p.Serves text ∧ Component.ReplacesFence text) ∧
      ∀ text, p.Serves text → Component.ReplacesFence text → Deck.NoReturns text →
        p.editor true = .ok editorLoader := by
  rw [editor_eq_loader hread]
  constructor
  · rintro ⟨text, hserves, hwanted⟩
    obtain ⟨⟨fields, body, hsplit, hfence⟩, hfront⟩ := hready text hserves
    have hbody := Code.Editor.wanted_body hsplit hfront hwanted
    exact ⟨text, hserves, fields, body, hsplit, hfence, Code.Editor.replace_ne_iff.mpr hbody⟩
  · rintro text hserves ⟨fields, body, hsplit, -, hreplaced⟩ hreturns
    have hbody := Code.Editor.replace_ne_iff.mp hreplaced
    exact ⟨text, hserves, Code.Editor.wanted_of_body hsplit hreturns hbody⟩

/-- A presentation of one slide. -/
def single (s : PresentedSlide) : Presentation where
  layout := default
  headmatter := []
  slides := [s]
  styles := []
  setupFiles := []

theorem visible_single {s : PresentedSlide} (h : s.source.isHidden = false) :
    (single s).visible = [(1, s)] := by
  unfold visible single
  rw [List.filter_cons_of_pos (by simp [h])]
  rfl

/-- All that is served of a presentation of one slide. -/
theorem serves_single {s : PresentedSlide} (h : s.source.isHidden = false) {text : String}
    (htext : (s.markdown (ModuleId.text (.slide 1))).toOption = some text) {other : String} :
    (single s).Serves other ↔ other = text := by
  unfold Serves
  rw [visible_single h]
  cases hmarkdown : s.markdown (ModuleId.text (.slide 1)) with
  | error e => rw [hmarkdown] at htext; cases htext
  | ok found =>
    rw [hmarkdown] at htext
    cases htext
    constructor
    · rintro ⟨x, hx, hother⟩
      cases List.mem_singleton.mp hx
      exact (Except.ok.inj (hmarkdown.symm.trans hother)).symm
    · rintro rfl
      exact ⟨(1, s), List.mem_singleton_self _, hmarkdown⟩

theorem readable_single {s : PresentedSlide} (h : s.source.isHidden = false) {text : String}
    (htext : (s.markdown (ModuleId.text (.slide 1))).toOption = some text) :
    ∀ x ∈ (single s).visible, x.2.IsReadable := by
  obtain ⟨x, hx, hmarkdown⟩ := (serves_single h htext).mpr rfl
  rw [visible_single h] at hx ⊢
  intro y hy
  cases List.mem_singleton.mp hx
  cases List.mem_singleton.mp hy
  exact (s.markdown_ok_iff _).mp ⟨text, hmarkdown⟩

/-- A deck of one slide, with a title and an editor fence. -/
def editorDeck : String := "---\ntitle: One\n---\n```js \x7bmonaco\x7d\nlet a\n```\n"

theorem editor_loader_wired_own :
    ∃ deck, Deck.parse editorDeck = .ok deck ∧ ∃ slide ∈ deck.slides,
      (single ⟨slide, none⟩).editor true = .ok editorLoader ∧
        ∃ text, (single ⟨slide, none⟩).Serves text ∧ Component.ReplacesFence text := by
  obtain ⟨deck, hparse, htest⟩ := Pipeline.exists_ok (Deck.parse editorDeck)
    (·.slides.any fun slide => slide.isHidden = false ∧ slide.markdown = editorDeck) (by decide +kernel)
  obtain ⟨slide, hslide, htest⟩ := List.any_eq_true.mp htest
  obtain ⟨hshown, htext⟩ := of_decide_eq_true htest
  obtain ⟨split, hsplit, htest⟩ := Pipeline.exists_ok (Deck.splitFrontMatter editorDeck)
    (fun split => Component.openFence? 1 none (lines split.2.toList) = none ∧
      Code.Editor.replace split.2 ≠ split.2) (by decide +kernel)
  obtain ⟨hfence, hreplaced⟩ := of_decide_eq_true htest
  have hserved : ((⟨slide, none⟩ : PresentedSlide).markdown (ModuleId.text (.slide 1))).toOption =
      some editorDeck := congrArg some htext
  have hserves := fun other => @serves_single ⟨slide, none⟩ hshown _ hserved other
  -- what is asked of the text of a slide holds of every slide that is written in a deck
  obtain ⟨hreturns, hfront⟩ := Deck.own_slide_plain hparse (by decide) hslide
  rw [htext] at hreturns hfront
  have hready : ∀ text, (single ⟨slide, none⟩).Serves text → Ready text := by
    intro text hserve
    rw [(hserves text).mp hserve]
    exact ⟨⟨_, _, hsplit, hfence⟩, hfront⟩
  have hreplaces : Component.ReplacesFence editorDeck := ⟨_, _, hsplit, hfence, hreplaced⟩
  obtain ⟨hneeded, hprovided⟩ := editor_loader_wired (readable_single hshown hserved) hready
  have hloader := hprovided _ ((hserves _).mpr rfl) hreplaces hreturns
  exact ⟨deck, hparse, slide, hslide, hloader, hneeded hloader⟩

/-- A slide with a title, whose text stands in a file with carriage returns. -/
def importedSlide : PresentedSlide where
  source := ⟨0, 0, 4, "src: ./part.md\ntitle: Part", [("src", .str "./part.md"), ("title", .str "Part")], ""⟩
  file := some ⟨⟨"/deck/part.md"⟩, some "```js \x7bmonaco\x7d\r\nlet a\r\n```\r\n"⟩

/-- What is served of the slide: the title stands in front of the text. -/
def importedText : String := "---\ntitle: Part\n---\n```js \x7bmonaco\x7d\r\nlet a\r\n```\r\n"

/-- An editor is put into the slide and the loader is not there: the slide's title puts front matter before
the text, and only then its carriage returns are taken off. -/
theorem editor_without_loader :
    (∀ x ∈ (single importedSlide).visible, x.2.IsReadable) ∧
      (single importedSlide).editor true = .ok noEditor ∧
      ∃ text, (single importedSlide).Serves text ∧ Component.ReplacesFence text := by
  have hserved : (importedSlide.markdown (ModuleId.text (.slide 1))).toOption =
      some importedText := by decide
  have hsplit : (Deck.splitFrontMatter importedText).toOption.any (fun split =>
       Component.openFence? 1 none (lines split.2.toList) = none ∧
        Code.Editor.replace split.2 ≠ split.2) = true := by decide +kernel
  have hloader : ((single importedSlide).editor true).toOption = some noEditor := by decide
  refine ⟨readable_single (by decide) hserved, ?_, _, (serves_single (by decide) hserved).mpr rfl, ?_⟩
  · cases heditor : (single importedSlide).editor true with
    | error e => rw [heditor] at hloader; cases hloader
    | ok found =>
      rw [heditor] at hloader
      rw [Option.some.inj hloader]
  · cases hfound : Deck.splitFrontMatter importedText with
    | error fault => rw [hfound] at hsplit; cases hsplit
    | ok split =>
      rw [hfound] at hsplit
      obtain ⟨hfence, hreplaces⟩ := of_decide_eq_true hsplit
      exact ⟨split.1, split.2, hfound, hfence, hreplaces⟩

end Presentation

end DeckPress
