import DeckPress.Layout
import DeckPress.Proofs.Deck.Parsing

/-!
# The front matter of a deck

The front matter of the first slide counts for the whole deck. It is read twice: with the deck, and alone
when the theme is to be known. The second reader looks behind the first line of the text and nowhere
else, while the first slide may stand further down, since blank sections before it are dropped. So the
two agree exactly if the first slide starts on the first line, or has no front matter.
-/

namespace DeckPress.Deck

open Text

/-- Whether the first slide stands at the top of its deck: nothing was dropped before it. -/
def startsAtTop (deck : Deck) : Bool := deck.slides.head?.any (·.startLine = 0)

/-- Reading only the front matter looks at the head of the first section. -/
theorem readHeadmatter_cons {text : String} {first : Line} {later : List Line}
    (htext : lines text.toList = first :: later) :
    readHeadmatter text =
      if isSeparator first then
        match frontMatterEnd? later with
        | some close => readFields (joinLines (later.take close))
        | none => .ok []
      else .ok [] := by
  unfold readHeadmatter frontMatterEnd?
  rw [htext]
  dsimp only
  cases isSeparator first <;> cases later.head?.any looksLikeField <;> rfl

theorem readHeadmatter_body {text : String} {body : List Piece} {after : List Line}
    (hvalid : ∀ q ∈ body, q.Valid) (hbody : body.flatMap Piece.lines ≠ [])
    (htext : lines text.toList = body.flatMap Piece.lines ++ after) : readHeadmatter text = .ok [] := by
  cases body with
  | nil => contradiction
  | cons q body =>
    obtain ⟨first, more, hq, hfirst⟩ : ∃ first more, q.lines = first :: more ∧ isSeparator first = false := by
      cases hvalid q List.mem_cons_self with
      | text hline => exact ⟨_, [], rfl, hline⟩
      | fence hmarker => exact ⟨_, _, rfl, isSeparator_of_fenceMarker? hmarker⟩
    rw [List.flatMap_cons, hq] at htext
    rw [readHeadmatter_cons htext, if_neg (by simp [hfirst])]

/-- The first section has the front matter that is read alone. -/
theorem readHeadmatter_sectioning {text : String} {s : Section} {more : List Section}
    (h : Sectioning (lines text.toList) (s :: more) []) :
    readHeadmatter text = readFields (joinLines (s.fields?.getD [])) := by
  obtain ⟨hfalls, -, -, hoccupied⟩ := h
  generalize hdeck : lines text.toList = deck at hfalls
  rcases hfalls with _ | ⟨hvalid, hmore⟩
  rename_i after
  cases hhead : s.head with
  | none =>
    have hfields : s.fields? = none := by rw [Section.fields?, hhead]; rfl
    have hlines : s.lines = s.bodyLines := by simp [Section.lines, Section.headLines, hhead]
    rw [hfields]
    show _ = Except.ok []
    by_cases hbody : s.bodyLines = []
    · -- only the section of an empty deck has no lines
      have hnone : more = [] := by
        by_cases hmore : more = []
        · exact hmore
        · exact absurd (hlines.trans hbody) (hoccupied hmore s List.mem_cons_self)
      subst hnone
      cases hmore
      unfold readHeadmatter
      rw [hdeck, hlines, hbody]
      rfl
    · rw [hlines] at hdeck
      exact readHeadmatter_body hvalid.body hbody hdeck
  | some head =>
    have hfits := hvalid.head head hhead
    have hlines : s.lines ++ after = head.lines ++ (s.bodyLines ++ after) := by
      simp [Section.lines, Section.headLines, hhead]
    rw [hlines] at hdeck
    cases hfits with
    | @separator line hline hnone =>
      have hfields : s.fields? = none := by rw [Section.fields?, hhead]; rfl
      have hfile : lines text.toList = line :: (s.bodyLines ++ after) := hdeck
      rw [readHeadmatter_cons hfile, if_pos hline, frontMatterEnd?_eq_none.mpr hnone, hfields]
      rfl
    | @frontMatter line closing fields hline hfront =>
      have hfields : s.fields? = some fields := by rw [Section.fields?, hhead]; rfl
      have hfile : lines text.toList = line :: (fields ++ closing :: (s.bodyLines ++ after)) := by
        rw [hdeck]
        simp [Head.lines]
      rw [readHeadmatter_cons hfile, if_pos hline, frontMatterEnd?_append hfront, hfields]
      dsimp only
      rw [List.take_left]
      rfl

/-- What is read alone is the front matter of the first slide if that stands at the top. -/
theorem readHeadmatter_eq {text : String} {deck : Deck} (hparse : parse text = .ok deck) :
    readHeadmatter text = .ok (if deck.startsAtTop then deck.headmatter else []) := by
  obtain ⟨sections, hsectioning, hslides⟩ := parse_eq_ok.mp hparse
  obtain ⟨slides⟩ := deck
  cases sections with
  | nil => exact absurd rfl hsectioning.some
  | cons s more =>
    obtain ⟨after, hvalid⟩ := hsectioning.falls.valid s List.mem_cons_self
    have hread {fields : Fields} := @readFields_eq_ok s.fields? (fun _ => hvalid.not_isBlank) fields
    rw [readHeadmatter_sectioning hsectioning]
    rcases hslides with _ | ⟨hblank, hslides⟩ | ⟨-, hdescribes, -⟩
    · -- the first section was dropped, and the first slide starts behind it
      have hnone := s.fields?_of_not_isSlide hblank
      have htop : startsAtTop ⟨slides⟩ = false := by
        cases slides with
        | nil => rfl
        | cons slide slides =>
          have hmore : more ≠ [] := by
            rintro rfl
            cases hslides
          have hlines : s.lines ≠ [] := hsectioning.occupied hmore s List.mem_cons_self
          have hstart := hslides.start_le List.mem_cons_self
          have hpos : 0 < s.lines.length := List.length_pos_iff.mpr hlines
          show decide (slide.startLine = 0) = false
          exact decide_eq_false (by omega)
      rw [hnone, htop]
      rfl
    · rename_i slide slides
      have htop : startsAtTop ⟨slide :: slides⟩ = true := decide_eq_true hdescribes.startLine
      rw [hread.mpr hdescribes.frontMatter, htop]
      rfl

theorem declaredTheme_eq {d : Disk} {entry : Path} {text : String} {fields : Fields}
    (hentry : d.readText entry = .ok text) (hread : readHeadmatter text = .ok fields) :
    Layout.declaredTheme d entry = .ok ((fields.get? "theme").bind Json.str?) := by
  have hmatter : (readHeadmatter text).mapError (fun fault => Error.config (.headmatter fault)) =
      .ok fields := by rw [hread]; rfl
  unfold Layout.declaredTheme
  rw [hentry]
  show ((readHeadmatter text).mapError _ >>= _) = _
  rw [hmatter]
  rfl

/-- The two readers agree exactly if the first slide stands at the top of the deck or the deck has no
front matter. The theme that is looked for is the one of the deck only if the first slide stands there. -/
theorem headmatter_readers_agree_iff {text : String} {deck : Deck} (hparse : parse text = .ok deck) :
    (readHeadmatter text = .ok deck.headmatter ↔ deck.startsAtTop ∨ deck.headmatter = []) ∧
    ∀ (d : Disk) (entry : Path), d.readText entry = .ok text → Layout.declaredTheme d entry =
      .ok (if deck.startsAtTop then (deck.headmatter.get? "theme").bind Json.str? else none) := by
  have hread := readHeadmatter_eq hparse
  refine ⟨?_, fun d entry hentry => ?_⟩
  · rw [hread]
    cases deck.startsAtTop with
    | true => exact ⟨fun _ => .inl rfl, fun _ => rfl⟩
    | false =>
      constructor
      · intro h
        exact .inr (Except.ok.inj h).symm
      · rintro (h | h)
        · cases h
        · rw [h]; rfl
  · rw [declaredTheme_eq hentry hread]
    cases deck.startsAtTop <;> rfl

/-- A deck that declares its theme on top. -/
def themedDeck : String := "---\ntheme: seriph\n---\n"

theorem headmatter_readers_agree_themed :
    ∃ deck, parse themedDeck = .ok deck ∧ readHeadmatter themedDeck = .ok deck.headmatter ∧
      Layout.declaredTheme ⟨[(["slides.md"], .file themedDeck.toUTF8)], []⟩ ⟨"/slides.md"⟩ =
        .ok (some "seriph") := by
  have hread : (parse themedDeck).toOption.any (fun deck => deck.startsAtTop &&
      (deck.headmatter.get? "theme").bind Json.str? = some "seriph") = true := by decide +kernel
  have hentry : Disk.readText ⟨[(["slides.md"], .file themedDeck.toUTF8)], []⟩ ⟨"/slides.md"⟩ =
      .ok themedDeck := by with_unfolding_all rfl
  obtain ⟨deck, hparse, htest⟩ := exists_deck hread
  obtain ⟨htop, htheme⟩ := Bool.and_eq_true_iff.mp htest
  obtain ⟨hagree, hdeclared⟩ := headmatter_readers_agree_iff hparse
  refine ⟨deck, hparse, hagree.mpr (.inl htop), ?_⟩
  rw [hdeclared _ _ hentry, if_pos htop, of_decide_eq_true htheme]

/-- A blank line above the front matter is enough to hide it from one of the two readers. -/
theorem headmatter_hidden_by_blankLine :
    ∃ deck, parse ("\n" ++ themedDeck) = .ok deck ∧
      (deck.headmatter.get? "theme").bind Json.str? = some "seriph" ∧
      readHeadmatter ("\n" ++ themedDeck) = .ok [] := by
  have hread : (parse ("\n" ++ themedDeck)).toOption.any (fun deck => !deck.startsAtTop &&
      (deck.headmatter.get? "theme").bind Json.str? = some "seriph") = true := by decide +kernel
  obtain ⟨deck, hparse, htest⟩ := exists_deck hread
  obtain ⟨htop, htheme⟩ := Bool.and_eq_true_iff.mp htest
  refine ⟨deck, hparse, of_decide_eq_true htheme, ?_⟩
  rw [readHeadmatter_eq hparse, if_neg (by simpa using htop)]

end DeckPress.Deck
