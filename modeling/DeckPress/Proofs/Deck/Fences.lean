import DeckPress.Proofs.Component.Compile
import DeckPress.Proofs.Component.Fences
import DeckPress.Proofs.Deck.Detached

/-!
# Fences in decks and in bodies

The reader of decks takes a run of one sign for the mark of a fence, and has it closed by a line that starts
with this mark. The check of a body takes a run of backticks and tildes in any mixture, and has it closed by
a run that is as long and starts with the same sign. Where no line mixes the two signs the readers agree: what
is a fence in the deck is a fence in the body, so no slide of the deck has an open fence. A line that mixes
them can part the readers, whatever the line is.
-/

namespace DeckPress.Deck

open Text
open Component (fenceRun openFence?)

/-! ## Runs of marks -/

/-- A line has no run of marks that is long enough for a fence and mixes the two signs. -/
def Unmixed (l : Line) : Prop :=
  3 ≤ (fenceRun l).length → ∀ c ∈ fenceRun l, (fenceRun l).head? = some c

-- the run is looked through sign by sign; there is also an instance that would try every character there is
instance (l : Line) : Decidable (Unmixed l) :=
  have := List.decidableBAll (fun c => (fenceRun l).head? = some c) (fenceRun l)
  inferInstanceAs (Decidable (_ → _))

theorem unmixed_dropReturn {l : Line} : Unmixed (dropReturn l) ↔ Unmixed l := by
  unfold Unmixed
  rw [Component.fenceRun_dropReturn]

/-- A run that is long enough for a fence and does not mix the signs repeats one sign. -/
theorem Unmixed.eq_replicate {l : Line} (h : Unmixed l) (hlong : 3 ≤ (fenceRun l).length) :
    ∃ c, fenceRun l = List.replicate (fenceRun l).length c := by
  have hall := h hlong
  cases hrun : fenceRun l with
  | nil => rw [hrun] at hlong; cases hlong
  | cons c run =>
    rw [hrun] at hall
    refine ⟨c, List.eq_replicate_of_mem fun x hx => ?_⟩
    exact (Option.some.inj (hall x hx)).symm

theorem sign_of_mem_fenceRun {l : Line} {c : Char} (h : c ∈ fenceRun l) : c = '`' ∨ c = '~' := by
  simpa using List.all_eq_true.mp List.all_takeWhile c h

/-- The part of a run that repeats its first sign. -/
def lead : List Char → List Char
  | [] => []
  | c :: run => c :: run.takeWhile (· = c)

theorem lead_isPrefix (run : List Char) : lead run <+: run := by
  cases run with
  | nil => exact List.prefix_rfl
  | cons c run => exact (List.prefix_cons_inj c).mpr (List.takeWhile_prefix _)

theorem head?_lead {run : List Char} {c : Char} (h : c ∈ lead run) : (lead run).head? = some c := by
  cases run with
  | nil => cases h
  | cons x run =>
    rcases List.mem_cons.mp h with rfl | h
    · rfl
    · rw [of_decide_eq_true (List.all_eq_true.mp List.all_takeWhile c h)]
      rfl

theorem lead_replicate (n : Nat) (c : Char) : lead (List.replicate n c) = List.replicate n c := by
  cases n with
  | zero => rfl
  | succ n => simp [lead, List.replicate_succ]

/-- What repeats the first sign of a mixed run is shorter than the run. -/
theorem length_lead_lt {run : List Char} (h : ¬ ∀ c ∈ run, run.head? = some c) :
    (lead run).length < run.length := by
  refine Nat.lt_of_le_of_ne (lead_isPrefix run).length_le fun hlength => h ?_
  have hwhole := (lead_isPrefix run).eq_of_length hlength
  cases run with
  | nil => intro c hc; cases hc
  | cons x run =>
    have hall : ∀ c ∈ run, c = x := by
      have hkept : run.takeWhile (· = x) = run := (List.cons.inj hwhole).2
      intro c hc
      rw [← hkept] at hc
      exact of_decide_eq_true (List.all_eq_true.mp List.all_takeWhile c hc)
    exact List.forall_mem_cons.mpr ⟨rfl, fun c hc => by rw [hall c hc, List.head?_cons]⟩

/-- The reader of decks sees the part of a run that repeats its first sign. -/
theorem fenceMarker?_eq (l : Line) :
    fenceMarker? l = if 3 ≤ (lead (fenceRun l)).length then some (lead (fenceRun l)) else none := by
  unfold fenceRun fenceMarker?
  cases trimStart l with
  | nil => rfl
  | cons c rest =>
    by_cases hmark : (decide (c = '`') || decide (c = '~')) = true
    · have hrun := List.takeWhile_cons_of_pos (p := fun x => decide (x = '`') || decide (x = '~')) (l := rest) hmark
      have hsame : (rest.takeWhile fun x => decide (x = '`') || decide (x = '~')).takeWhile (· = c) =
          rest.takeWhile (· = c) := by
        rw [List.takeWhile_takeWhile]
        congr 1
        funext x
        by_cases hx : x = c
        · subst hx
          simpa using hmark
        · simp [hx]
      rw [hrun, lead, hsame]
      exact if_pos hmark
    · have hrun := List.takeWhile_cons_of_neg (p := fun x => decide (x = '`') || decide (x = '~')) (l := rest) hmark
      rw [hrun]
      exact if_neg hmark

/-- Where the signs are not mixed both readers see the same mark. -/
theorem Unmixed.fenceMarker?_eq {l : Line} (h : Unmixed l) :
    fenceMarker? l = if 3 ≤ (fenceRun l).length then some (fenceRun l) else none := by
  rw [Deck.fenceMarker?_eq]
  by_cases hlong : 3 ≤ (fenceRun l).length
  · obtain ⟨c, hrun⟩ := h.eq_replicate hlong
    have hlead : lead (fenceRun l) = fenceRun l := by rw [hrun, lead_replicate]
    rw [hlead]
  · have hshort := (lead_isPrefix (fenceRun l)).length_le
    rw [if_neg hlong, if_neg (by omega)]

/-- A fence that is marked by one sign is closed by the same lines for both readers. -/
theorem closesFence_iff {opening l : Line} (hopening : Unmixed opening) (hlong : 3 ≤ (fenceRun opening).length)
    (hl : Unmixed l) :
    closesFence (fenceRun opening) l ↔ Component.closesFence (fenceRun opening) (fenceRun l) := by
  have hsigns : ∀ c ∈ fenceRun opening, (decide (c = '`') || decide (c = '~')) = true := fun c hc => by
    simpa using sign_of_mem_fenceRun hc
  obtain ⟨c, hrun⟩ := hopening.eq_replicate hlong
  have hhead : (fenceRun opening).head? = some c := by
    rw [hrun, List.head?_replicate, if_neg (by omega)]
  have hcloses : Component.closesFence (fenceRun opening) (fenceRun l) ↔
      (fenceRun opening).length ≤ (fenceRun l).length ∧ (fenceRun l).head? = some c := by
    unfold Component.closesFence
    rw [hhead]
    cases (fenceRun l).head? <;> simp
  have hstarts : closesFence (fenceRun opening) l ↔ fenceRun opening <+: trimStart l := stripPrefix?_isSome
  rw [hcloses, hstarts]
  constructor
  · rintro ⟨rest, htrim⟩
    have hwhole : fenceRun l = fenceRun opening ++ rest.takeWhile fun x => x = '`' || x = '~' := by
      rw [fenceRun, ← htrim, List.takeWhile_append_of_pos hsigns]
    have hlonger := congrArg List.length hwhole
    rw [List.length_append] at hlonger
    refine ⟨by omega, ?_⟩
    rw [hwhole, List.head?_append, hhead, Option.some_or]
  · rintro ⟨hle, hsame⟩
    -- a run that is as long repeats the same sign
    obtain ⟨x, hother⟩ := hl.eq_replicate (by omega)
    rw [hother, List.head?_replicate, if_neg (by omega)] at hsame
    cases hsame
    have hprefix : fenceRun opening <+: fenceRun l := by
      rw [hother, List.prefix_replicate_iff]
      exact ⟨hle, hrun⟩
    exact hprefix.trans (List.takeWhile_prefix _)

/-! ## Decks without mixed runs -/

/-- What is a piece of a deck is a whole piece for the check of the body. -/
theorem Piece.Valid.whole {q : Piece} (h : q.Valid) (hlines : ∀ l ∈ q.lines, Unmixed l) :
    Component.Whole q := by
  cases h with
  | @text line hline hmarker =>
    have hunmixed : Unmixed line := hlines line (List.mem_singleton_self line)
    rw [hunmixed.fenceMarker?_eq] at hmarker
    refine .text (Nat.lt_of_not_le fun hlong => ?_)
    rw [if_pos hlong] at hmarker
    cases hmarker
  | @fence opening closing inside marker hmarker hinside hclosing =>
    have hopening : Unmixed opening := hlines opening (by simp [Piece.lines])
    have hlast : Unmixed closing := hlines closing (by simp [Piece.lines])
    rw [hopening.fenceMarker?_eq] at hmarker
    split at hmarker
    · rename_i hlong
      cases hmarker
      refine .fence hlong (fun l hl => ?_) ((closesFence_iff hopening hlong hlast).mp hclosing)
      have hl' : Unmixed l := hlines l (by simp [Piece.lines, hl])
      rw [Bool.eq_false_iff]
      intro hcloses
      have hnot := hinside l hl
      rw [(closesFence_iff hopening hlong hl').mpr hcloses] at hnot
      cases hnot
    · cases hmarker

/-- The body of a section without mixed runs has no open fence. -/
theorem Section.Valid.openFence?_eq {s : Section} {after : List Line} (hvalid : s.Valid after)
    (hlines : ∀ l ∈ s.bodyLines, Unmixed l) (line : Nat) : openFence? line none s.bodyLines = none := by
  refine Component.openFence?_eq_none.mpr ⟨s.body, fun q hq => ?_, rfl⟩
  exact (hvalid.body q hq).whole fun l hl => hlines l (List.mem_flatMap.mpr ⟨q, hq, hl⟩)

/-! ## The body of a slide -/

theorem closesFrontMatter_dropReturn (l : Line) : closesFrontMatter (dropReturn l) = closesFrontMatter l := by
  unfold dropReturn
  split
  · rename_i hlast
    obtain ⟨p, rfl⟩ := List.getLast?_eq_some_iff.mp hlast
    have htrim : trimEnd (p ++ ['\r']) = trimEnd p := by
      unfold trimEnd dropEndWhile
      rw [List.reverse_append, List.reverse_singleton, List.singleton_append,
        List.dropWhile_cons_of_pos (by decide)]
    rw [List.dropLast_concat, closesFrontMatter, closesFrontMatter, htrim]
  · rfl

/-- The check of a body finds what it finds in the lines that the body is put together from. -/
theorem openFence?_joinLines {ls : List Line} (hfeed : ∀ l ∈ ls, '\n' ∉ l) {ending : List Char}
    (hending : ending = [] ∨ ending = ['\n']) (line : Nat) (fence : Option (Nat × List Char)) :
    openFence? line fence (lines (joinLines ls ++ ending)) = openFence? line fence ls := by
  have hjoined : openFence? line fence (splitOn (· = '\n') (joinLines ls)) = openFence? line fence ls := by
    cases ls with
    | nil => exact Component.openFence?_append_nil line fence []
    | cons l ls => rw [splitOn_joinLines hfeed (List.cons_ne_nil l ls)]
  rw [Component.openFence?_lines]
  rcases hending with rfl | rfl
  · rw [List.append_nil, hjoined]
  · rw [splitOn_snoc, Component.openFence?_append_nil, hjoined]

namespace Section

variable {s : Section} {after : List Line} {start index : Nat} {slide : Slide}

theorem noFeed_detached (hfeed : ∀ l ∈ s.lines, '\n' ∉ l) : ∀ l ∈ s.detached.lines, '\n' ∉ l := by
  intro l hl
  rcases mem_detached_lines hl with hl | rfl
  · exact hfeed l hl
  · decide

/-- The check of the body that is compiled sees the lines of the body that was read. -/
theorem Describes.openFence?_body (h : s.Describes start index slide) (hvalid : s.Valid after)
    (hfeed : ∀ l ∈ s.lines, '\n' ∉ l) {fields : Fields} {body : String}
    (hsplit : splitFrontMatter slide.markdown = .ok (fields, body)) (line : Nat)
    (fence : Option (Nat × List Char)) :
    openFence? line fence (Text.lines body.toList) = openFence? line fence s.detached.bodyLines := by
  have hfile := noFeed_detached hfeed
  have htext := h.markdown_eq hvalid
  have hlines : Text.lines slide.markdown.toList = s.detached.lines.map dropReturn := by
    rw [htext, lines_endedLines_of_noFeed hfile]
  cases hfields : s.fields? with
  | none =>
    have hall : s.detached.lines = s.detached.bodyLines := by
      simp [lines, headLines, Section.detached, hfields]
    cases cut_of_splitFrontMatter hsplit with
    | bare hbody _ =>
      rw [hbody, htext, Component.openFence?_lines, splitOn_endedLines hfile, Component.openFence?_append_nil, hall]
    | behind first closing front rest ending hcut hfirst _ _ _ _ =>
      -- the first line of the body would close front matter
      rw [hall, bodyLines] at hlines
      cases hpieces : s.detached.body with
      | nil =>
        rw [hlines, hpieces] at hcut
        cases hcut
      | cons q pieces =>
        obtain ⟨l, more, hq, hl⟩ := ((hvalid.detached []).body q (hpieces ▸ List.mem_cons_self)).head
        rw [hlines, hpieces, List.flatMap_cons, hq, List.cons_append, List.map_cons] at hcut
        rw [← (List.cons.inj hcut).1, closesFrontMatter_dropReturn, hl] at hfirst
        cases hfirst
  | some front =>
    obtain ⟨closing, hfront⟩ := hvalid.isFrontMatter hfields
    have hall : s.detached.lines = fieldsMark :: (front ++ fieldsMark :: s.detached.bodyLines) := by
      simp [lines, headLines, Section.detached, hfields, Head.lines]
    rw [hall, List.map_cons, List.map_append, List.map_cons] at hlines
    cases cut_of_splitFrontMatter hsplit with
    | bare _ hfirst =>
      have hmark := hfirst _ _ hlines
      cases hmark
    | behind first closing' front' rest ending hcut _ hbefore hclosing hending hbody =>
      rw [hlines] at hcut
      have hunclosed : ∀ l ∈ front.map dropReturn, closesFrontMatter l = false := by
        intro l hl
        obtain ⟨m, hm, rfl⟩ := List.mem_map.mp hl
        rw [closesFrontMatter_dropReturn]
        exact hfront.unclosed m hm
      obtain ⟨-, -, hrest⟩ := append_cons_inj hunclosed rfl hbefore hclosing (List.cons.inj hcut).2
      have hrestFeed : ∀ l ∈ rest, '\n' ∉ l := by
        intro l hl
        have hmem : l ∈ Text.lines slide.markdown.toList := by
          rw [hlines, hcut]
          exact List.mem_cons_of_mem _ (List.mem_append_right _ (List.mem_cons_of_mem _ hl))
        exact noFeed_of_mem_lines l hmem
      have hruns : rest.map fenceRun = s.detached.bodyLines.map fenceRun := by
        rw [← hrest, List.map_map]
        exact List.map_congr_left fun l _ => Component.fenceRun_dropReturn l
      rw [hbody, openFence?_joinLines hrestFeed hending, Component.openFence?_congr hruns]

/-- The lines of the content are those of the body, without the carriage returns that end them. -/
theorem Describes.lines_content (h : s.Describes start index slide) (hfeed : ∀ l ∈ s.lines, '\n' ∉ l) :
    Text.lines slide.content.toList = s.detached.bodyLines.map dropReturn := by
  rw [h.content_eq]
  exact lines_endedLines_of_noFeed fun l hl => noFeed_detached hfeed l (List.mem_append_right _ hl)

end Section

/-- A slide without mixed runs has no open fence in the body that is compiled. -/
theorem openFence?_of_unmixed {text : String} {deck : Deck} (hparse : parse text = .ok deck) {slide : Slide}
    (hslide : slide ∈ deck.slides) (hlines : ∀ l ∈ lines slide.content.toList, Unmixed l) {fields : Fields}
    {body : String} (hsplit : splitFrontMatter slide.markdown = .ok (fields, body)) (line : Nat) :
    openFence? line none (lines body.toList) = none := by
  obtain ⟨s, after, hvalid, -, hdescribes, hmem⟩ := exists_section_of_mem hparse hslide
  have hfeed : ∀ l ∈ s.lines, '\n' ∉ l := fun l hl => noFeed_of_mem_lines l (hmem l hl)
  rw [hdescribes.lines_content hfeed] at hlines
  rw [hdescribes.openFence?_body hvalid hfeed hsplit]
  refine (hvalid.detached []).openFence?_eq (fun l hl => ?_) line
  exact unmixed_dropReturn.mp (hlines _ (List.mem_map_of_mem hl))

/-! ## Every mixed run parts the readers -/

/-- The signs of a run make up a line by themselves. -/
theorem isLine_of_isPrefix {l p : Line} (h : p <+: fenceRun l) : IsLine p where
  noFeed := by
    intro hfeed
    rcases sign_of_mem_fenceRun (h.subset hfeed) with hsign | hsign <;> cases hsign
  noReturn := by
    intro hlast
    rcases sign_of_mem_fenceRun (h.subset (List.mem_of_getLast? hlast)) with hsign | hsign <;> cases hsign

/-- On this line they are the run again. -/
theorem fenceRun_of_isPrefix {l p : Line} (h : p <+: fenceRun l) : trimStart p = p ∧ fenceRun p = p := by
  have hsigns : ∀ c ∈ p, (decide (c = '`') || decide (c = '~')) = true := fun c hc => by
    simpa using sign_of_mem_fenceRun (h.subset hc)
  have htrim : trimStart p = p := by
    cases p with
    | nil => rfl
    | cons c p =>
      refine List.dropWhile_cons_of_neg fun hwhite => ?_
      rcases sign_of_mem_fenceRun (h.subset List.mem_cons_self) with rfl | rfl
      · exact absurd hwhite (by decide)
      · exact absurd hwhite (by decide)
  refine ⟨htrim, ?_⟩
  rw [fenceRun, htrim, List.takeWhile_eq_self_iff.mpr hsigns]

/-- A line with a mixed run is a piece of a deck, perhaps with a line behind it that closes the fence, and
the check of these lines finds a fence that is open. -/
theorem exists_piece_of_mixed {l : Line} (h : ¬ Unmixed l) :
    ∃ (q : Piece) (more : List Line), q.Valid ∧ q.lines = l :: more ∧ (∀ x ∈ more, IsLine x ∧ Unmixed x) ∧
      openFence? 1 none (l :: more) = some 1 := by
  obtain ⟨hlong, hmixed⟩ := Classical.not_imp.mp h
  have hopen := Component.openFence?_opening hlong 1
  by_cases hmarker : 3 ≤ (lead (fenceRun l)).length
  · -- the mark that the deck sees closes the fence in the deck, and is too short to close it in the body
    obtain ⟨htrim, hrun⟩ := fenceRun_of_isPrefix (lead_isPrefix (fenceRun l))
    have hshort := length_lead_lt hmixed
    generalize hlead : lead (fenceRun l) = marker at *
    have hsome : fenceMarker? l = some marker := by rw [fenceMarker?_eq, hlead, if_pos hmarker]
    refine ⟨.fence l [] marker, [marker], .fence hsome (by simp) ?_, rfl, ?_, ?_⟩
    · rw [closesFence, htrim]
      exact stripPrefix?_isSome.mpr List.prefix_rfl
    · rintro x hx
      cases List.mem_singleton.mp hx
      refine ⟨isLine_of_isPrefix (hlead ▸ lead_isPrefix (fenceRun l)), fun _ c hc => ?_⟩
      rw [hrun] at hc ⊢
      rw [← hlead] at hc ⊢
      exact head?_lead hc
    · have hstays : Component.closesFence (fenceRun l) (fenceRun marker) = false := by
        rw [hrun, Component.closesFence, decide_eq_false (by omega)]
        rfl
      rw [hopen, Component.openFence?_cons, Component.fenceBehind, hstays]
      rfl
  · have hnone : fenceMarker? l = none := by rw [fenceMarker?_eq, if_neg hmarker]
    refine ⟨.text l, [], .text ?_ hnone, rfl, by simp, hopen []⟩
    rw [Bool.eq_false_iff]
    intro hseparator
    obtain ⟨rest, htrim⟩ := trimStart_of_isSeparator hseparator
    rw [fenceRun, htrim, List.takeWhile_cons_of_neg (by decide)] at hlong
    cases hlong

theorem not_isBlank_of_fenceRun {l : Line} (h : fenceRun l ≠ []) : isBlank l = false := by
  obtain ⟨c, hc⟩ := List.exists_mem_of_ne_nil _ h
  have hmem : c ∈ l := (List.dropWhile_suffix isWhite).subset ((List.takeWhile_prefix _).subset hc)
  refine not_isBlank_of_mem hmem ?_
  rcases sign_of_mem_fenceRun hc with rfl | rfl <;> rfl

/-- A piece with text is a deck of one slide by itself. -/
theorem Piece.Valid.exists_deck {q : Piece} (hq : q.Valid) (hlines : ∀ l ∈ q.lines, IsLine l)
    (htext : ∃ l ∈ q.lines, isBlank l = false) :
    ∃ slide : Slide, parse slide.content = .ok ⟨[slide]⟩ ∧ slide.source? = none ∧
      Text.lines slide.content.toList = q.lines ∧ splitFrontMatter slide.markdown = .ok ([], slide.content) := by
  let s : Section := ⟨none, [q]⟩
  have hbody : s.bodyLines = q.lines := by simp [s, Section.bodyLines]
  have hvalid : s.Valid [] := ⟨by simp [s], by simpa [s] using hq⟩
  have hslide : s.IsSlide := .inr (hbody ▸ htext)
  have hfull : q.lines ≠ [[]] := by
    intro hempty
    obtain ⟨l, hl, hshown⟩ := htext
    rw [hempty] at hl
    cases List.mem_singleton.mp hl
    cases hshown
  let slide : Slide := ⟨0, 0, q.lines.length, "", [], String.ofList (endedLines q.lines)⟩
  have hcontent : slide.content.toList = endedLines q.lines := String.toList_ofList
  have hcut : Text.lines slide.content.toList = q.lines := by rw [hcontent, lines_endedLines hlines]
  have hall : s.lines = q.lines := hbody
  have hdescribes : s.Describes 0 0 slide :=
    ⟨rfl, rfl, by rw [hall, Nat.zero_add], rfl, .absent, by rw [hbody, if_neg hfull, hcontent]⟩
  refine ⟨slide, ?_, rfl, hcut, ?_⟩
  · have hsections : Sectioning (Text.lines slide.content.toList) [s] [] := by
      rw [hcut, ← hall]
      exact hvalid.sectioning
    exact (parse_sectioning hsections).mpr (.keep hslide hdescribes .nil)
  · have hsome : slide.content ≠ "" := by
      intro hempty
      rw [hempty] at hcut
      obtain ⟨l, hl, -⟩ := htext
      rw [← hcut] at hl
      cases hl
    have hsplit := hdescribes.splitFrontMatter_eq hvalid hslide (hall ▸ hlines)
    rwa [if_neg hsome] at hsplit

/-- For every line with a mixed run there is a deck that is read and whose slide is not compiled. -/
theorem exists_deck_of_mixed {l : Line} (hline : IsLine l) (hmixed : ¬ Unmixed l) :
    ∃ (text : String) (slide : Slide), parse text = .ok ⟨[slide]⟩ ∧ slide.source? = none ∧
      (∃ more, lines slide.content.toList = l :: more ∧ ∀ x ∈ more, Unmixed x) ∧
      ∀ o, Component.compile o slide.markdown = .error (.openFence 1) := by
  obtain ⟨q, more, hq, hlines, hmore, hopen⟩ := exists_piece_of_mixed hmixed
  have hisLine : ∀ x ∈ q.lines, IsLine x := by
    rw [hlines]
    exact List.forall_mem_cons.mpr ⟨hline, fun x hx => (hmore x hx).1⟩
  have hrun : fenceRun l ≠ [] := by
    intro hnone
    refine hmixed fun hlong => ?_
    rw [hnone] at hlong
    cases hlong
  obtain ⟨slide, hparse, hsource, hcut, hsplit⟩ :=
    hq.exists_deck hisLine ⟨l, by rw [hlines]; exact List.mem_cons_self, not_isBlank_of_fenceRun hrun⟩
  rw [hlines] at hcut
  refine ⟨slide.content, slide, hparse, hsource, ⟨more, hcut, fun x hx => (hmore x hx).2⟩, fun o => ?_⟩
  rw [Component.compile_of_split hsplit, hcut, hopen]

/-- An open fence is no fault of the front matter. -/
theorem splitFrontMatter_ne_openFence (text : String) (line : Nat) :
    splitFrontMatter text ≠ .error (.openFence line) := by
  intro h
  unfold splitFrontMatter at h
  dsimp only at h
  split at h
  · split at h
    · split at h
      · cases h
      · split at h
        · cases h
        · cases h
    · cases h
  · cases h

/-- A file that is refused for an open fence has one in its body. -/
theorem openFence_of_compile {o : Component.MarkdownOptions} {source : String} {line : Nat}
    (h : Component.compile o source = .error (.openFence line)) :
    ∃ fields body, splitFrontMatter source = .ok (fields, body) ∧
      openFence? 1 none (lines body.toList) = some line := by
  cases hsplit : splitFrontMatter source with
  | error fault =>
    rw [Component.compile, hsplit] at h
    cases h
    exact absurd hsplit (splitFrontMatter_ne_openFence source line)
  | ok split =>
    rw [Component.compile_of_split hsplit] at h
    refine ⟨split.1, split.2, rfl, ?_⟩
    split at h
    · rename_i found hfound
      cases h
      exact hfound
    · split at h <;> cases h

/-- The slides of a deck that is read are not refused for an open fence if none of their lines mixes the signs
of fences. And every line that mixes them is one of a deck that is read, where no other line mixes them, and
for which the compiler reports an open fence. -/
theorem open_fence_only_if_mixed {text : String} {deck : Deck} (hparse : parse text = .ok deck) :
    (∀ slide ∈ deck.slides, (∀ l ∈ lines slide.content.toList, Unmixed l) →
      (∀ fields body, splitFrontMatter slide.markdown = .ok (fields, body) →
        openFence? 1 none (lines body.toList) = none) ∧
      ∀ o line, Component.compile o slide.markdown ≠ .error (.openFence line)) ∧
    ∀ l : Line, IsLine l → ¬ Unmixed l →
      ∃ (other : String) (slide : Slide), parse other = .ok ⟨[slide]⟩ ∧ slide.source? = none ∧
        (∃ more, lines slide.content.toList = l :: more ∧ ∀ x ∈ more, Unmixed x) ∧
        ∀ o, Component.compile o slide.markdown = .error (.openFence 1) := by
  refine ⟨fun slide hslide hunmixed => ?_, fun l => exists_deck_of_mixed⟩
  -- no fence is open in the body, and nothing else is refused as an open fence
  have hclosed (fields : Fields) (body : String) (hsplit : splitFrontMatter slide.markdown = .ok (fields, body)) :
      openFence? 1 none (lines body.toList) = none :=
    openFence?_of_unmixed hparse hslide hunmixed hsplit 1
  refine ⟨hclosed, fun o line hrefused => ?_⟩
  obtain ⟨fields, body, hsplit, hopen⟩ := openFence_of_compile hrefused
  rw [hclosed fields body hsplit] at hopen
  cases hopen

theorem open_fence_only_if_mixed_fenced :
    ∃ deck, parse fencedDeck = .ok deck ∧
      (∃ slide ∈ deck.slides, slide.content = "~~~\n---\n~~~\n" ∧
        ∀ o line, Component.compile o slide.markdown ≠ .error (.openFence line)) ∧
      IsLine "```~".toList ∧ ¬ Unmixed "```~".toList ∧
      ∃ (text : String) (slide : Slide), parse text = .ok ⟨[slide]⟩ ∧
        ∀ o, Component.compile o slide.markdown = .error (.openFence 1) := by
  have hread : (parse fencedDeck).toOption.any (·.slides.any fun slide =>
      slide.content = "~~~\n---\n~~~\n" ∧ ∀ l ∈ lines slide.content.toList, Unmixed l) = true := by
    decide +kernel
  obtain ⟨deck, hparse, htest⟩ := exists_deck hread
  obtain ⟨slide, hslide, hfound⟩ := List.any_eq_true.mp htest
  obtain ⟨hcontent, hunmixed⟩ := of_decide_eq_true hfound
  have hline : IsLine "```~".toList := ⟨by decide, by decide⟩
  have hmixed : ¬ Unmixed "```~".toList := by decide
  obtain ⟨hagree, hpart⟩ := open_fence_only_if_mixed hparse
  obtain ⟨text, refused, hrefused, -, -, hcompile⟩ := hpart _ hline hmixed
  exact ⟨deck, hparse, ⟨slide, hslide, hcontent, (hagree slide hslide hunmixed).2⟩, hline,
    hmixed, text, refused, hrefused, hcompile⟩

/-- A deck of one line, which has a tilde as inline code. -/
def homeDeck : String := "`~` is your home directory.\n"

/-- The deck is read, and its slide is refused for a fence that it does not have. -/
theorem open_fence_in_homeDeck :
    ∃ deck, parse homeDeck = .ok deck ∧ ∃ slide ∈ deck.slides, slide.source? = none ∧
      slide.markdown = homeDeck ∧ Component.compile {} slide.markdown = .error (.openFence 1) := by
  have hread : (parse homeDeck).toOption.any (·.slides.any fun slide =>
      slide.source? = none ∧ slide.markdown = homeDeck) = true := by decide +kernel
  have hsplit : splitFrontMatter homeDeck = .ok ([], homeDeck) := by with_unfolding_all rfl
  have hopen : openFence? 1 none (lines homeDeck.toList) = some 1 := by decide
  obtain ⟨deck, hparse, htest⟩ := exists_deck hread
  obtain ⟨slide, hslide, hfound⟩ := List.any_eq_true.mp htest
  obtain ⟨hsource, hmarkdown⟩ := of_decide_eq_true hfound
  refine ⟨deck, hparse, slide, hslide, hsource, hmarkdown, ?_⟩
  rw [hmarkdown, Component.compile_of_split hsplit, hopen]

end DeckPress.Deck
