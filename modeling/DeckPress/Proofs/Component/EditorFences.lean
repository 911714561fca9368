import DeckPress.Proofs.Code.Replacement
import DeckPress.Proofs.Component.Fences

/-!
# Editors in the place of whole fences

An editor takes the place of the lines from one that asks for it to the next one that closes such a fence.
The check of the body has fences of its own: they may start with a longer run, or be indented, and are closed
by other lines as well. The lines that make way for editors are fences of the body exactly if all these
fences suit editors: one that starts with a line that asks must also close as editor fences do, and in all
others no line may ask. A fence that quotes an editor fence does not suit, nor does one that asks and is
closed by a longer run.
-/

namespace DeckPress

open Text

namespace Code.Editor

open Component (spans)

/-- The first of some lines asks for an editor, and a later one closes its fence. -/
def Asks : List Line → Prop
  | [] => False
  | l :: ls => (opening? l).isSome ∧ ls.any closes

namespace Falls

variable {pieces : List Deck.Piece}

/-- A line makes way if it asks, together with the lines down to the first one that closes the fence. -/
theorem of_asks {l : Line} {ls : List Line} (h : Falls pieces (l :: ls)) (hasks : Asks (l :: ls)) :
    ∃ sample closing rest behind, ls = sample ++ closing :: rest ∧ (∀ x ∈ sample, closes x = false) ∧
      closes closing ∧ pieces = .fence l sample closing :: behind ∧ Falls behind rest := by
  generalize hall : l :: ls = all at h
  cases h with
  | nil => cases hall
  | line hline _ =>
    cases hall
    exact absurd hasks hline
  | @fence _ closing sample rest behind _ hsample hclosing hrest =>
    cases hall
    exact ⟨sample, closing, rest, behind, rfl, hsample, hclosing, rfl, hrest⟩

/-- A line stays if it does not ask. -/
theorem of_not_asks {l : Line} {ls : List Line} (h : Falls pieces (l :: ls)) (hasks : ¬ Asks (l :: ls)) :
    ∃ behind, pieces = .text l :: behind ∧ Falls behind ls := by
  generalize hall : l :: ls = all at h
  cases h with
  | nil => cases hall
  | line _ hrest =>
    cases hall
    exact ⟨_, rfl, hrest⟩
  | fence hopening _ hclosing _ =>
    cases hall
    exact absurd ⟨hopening, by simp [hclosing]⟩ hasks

/-- Lines fall in one way: the first line that closes a fence is its end. -/
theorem unique {pieces' : List Deck.Piece} {ls : List Line} (h : Falls pieces ls) (h' : Falls pieces' ls) :
    pieces = pieces' := by
  induction h generalizing pieces' with
  | nil =>
    cases h'
    rfl
  | line hline _ ih =>
    obtain ⟨behind, rfl, hbehind⟩ := h'.of_not_asks hline
    rw [ih hbehind]
  | @fence opening closing sample ls _ hopening hsample hclosing _ ih =>
    obtain ⟨sample', closing', rest, behind, hsame, hsample', hclosing', rfl, hbehind⟩ :=
      h'.of_asks ⟨hopening, by simp [hclosing]⟩
    -- the first closing line is in one place, so both samples have the same length
    have hfirst := Deck.findIdx?_append_cons hsample hclosing ls
    rw [hsame, Deck.findIdx?_append_cons hsample' hclosing' rest] at hfirst
    obtain ⟨rfl, hrest⟩ := List.append_inj hsame (Option.some.inj hfirst).symm
    cases hrest
    rw [ih hbehind]

/-- Lines none of which asks stay, and what makes way behind them makes way without them. -/
theorem behind {as bs : List Line} (h : Falls pieces (as ++ bs))
    (hasks : ∀ n < as.length, ¬ Asks ((as ++ bs).drop n)) :
    ∃ rest, Falls rest bs ∧ ∀ m, spans m pieces = spans (m + as.length) rest := by
  induction as generalizing pieces with
  | nil => exact ⟨pieces, h, fun m => rfl⟩
  | cons l as ih =>
    obtain ⟨more, rfl, hmore⟩ := h.of_not_asks (hasks 0 (Nat.succ_pos _))
    obtain ⟨rest, hrest, hspans⟩ := ih hmore fun n hn => hasks (n + 1) (Nat.succ_lt_succ hn)
    refine ⟨rest, hrest, fun m => ?_⟩
    rw [spans, hspans, List.length_cons, Nat.add_assoc, Nat.add_comm 1]

/-- Where a line asks, lines make way from there on, or from further up. -/
theorem exists_span {ls : List Line} (h : Falls pieces ls) {n : Nat} (hasks : Asks (ls.drop n)) (m : Nat) :
    ∃ r ∈ spans m pieces, r.1 ≤ m + n := by
  induction h generalizing n m with
  | nil =>
    rw [List.drop_nil] at hasks
    cases hasks
  | line hline _ ih =>
    cases n with
    | zero => exact absurd hasks hline
    | succ n =>
      obtain ⟨r, hr, hle⟩ := ih hasks (m + 1)
      exact ⟨r, hr, by omega⟩
  | fence _ _ _ _ _ => exact ⟨_, List.mem_cons_self, Nat.le_add_right m n⟩

end Falls

end Code.Editor

namespace Component

open Code.Editor (opening? closes Asks)
open Deck (Line)

/-- A fence suits editors: if its first line asks for one, its last line closes it; otherwise none of its
lines asks for one. -/
structure Suits (ls : List Line) (first last : Nat) : Prop where
  closed : Asks (ls.drop first) → (ls.drop last).head?.any closes
  silent : ¬ Asks (ls.drop first) → ∀ n, first < n → n ≤ last → ¬ Asks (ls.drop n)

/-- Whether a fence suits does not hang on the lines in front of it. -/
theorem suits_append {before ls : List Line} {last : Nat} :
    Suits (before ++ ls) before.length (before.length + last) ↔ Suits ls 0 last := by
  have hdrop (n : Nat) : (before ++ ls).drop (before.length + n) = ls.drop n := List.drop_length_add_append n
  have hfirst : (before ++ ls).drop before.length = ls.drop 0 := hdrop 0
  constructor
  · rintro ⟨hclosed, hsilent⟩
    rw [hfirst, hdrop] at hclosed
    rw [hfirst] at hsilent
    refine ⟨hclosed, fun hasks n hlt hle => ?_⟩
    rw [← hdrop]
    exact hsilent hasks (before.length + n) (by omega) (by omega)
  · rintro ⟨hclosed, hsilent⟩
    rw [← hfirst, ← hdrop] at hclosed
    rw [← hfirst] at hsilent
    refine ⟨hclosed, fun hasks n hlt hle => ?_⟩
    obtain ⟨k, rfl⟩ : ∃ k, n = before.length + k := ⟨n - before.length, by omega⟩
    rw [hdrop]
    exact hsilent hasks k (by omega) (by omega)

/-! ## Marks of editor fences -/

theorem fenceRun_mark {rest : Line} (h : ∀ c ∈ rest.head?, c ≠ '`' ∧ c ≠ '~') :
    fenceRun ("```".toList ++ rest) = "```".toList := by
  have hnone : rest.takeWhile (fun c => c = '`' || c = '~') = [] := by
    cases rest with
    | nil => rfl
    | cons c rest =>
      obtain ⟨hbacktick, htilde⟩ := h c rfl
      exact List.takeWhile_cons_of_neg (by simp [hbacktick, htilde])
  have htrim : trimStart ("```".toList ++ rest) = "```".toList ++ rest :=
    List.dropWhile_cons_of_neg (by decide)
  rw [fenceRun, htrim, List.takeWhile_append_of_pos (by simp), hnone, List.append_nil]

/-- A line that asks for an editor opens a fence of three backticks. -/
theorem fenceRun_of_opening? {l : Line} (h : (opening? l).isSome) : fenceRun l = "```".toList := by
  obtain ⟨asked, h⟩ := Option.isSome_iff_exists.mp h
  unfold opening? at h
  obtain ⟨rest, hmark, h⟩ := Option.bind_eq_some_iff.mp h
  dsimp only at h
  split at h
  · cases h
  · rename_i hlanguage
    rw [eq_append_of_stripPrefix? hmark]
    refine fenceRun_mark fun c hc => ?_
    -- behind the mark stands the first character of the language
    have hword : isWord c = true := by
      cases rest with
      | nil => cases hc
      | cons x rest =>
        cases hc
        refine Classical.byContradiction fun hx => hlanguage ?_
        rw [List.takeWhile_cons_of_neg hx]
        rfl
    constructor
    · rintro rfl
      exact absurd hword (by decide)
    · rintro rfl
      exact absurd hword (by decide)

/-- So does a line that closes an editor fence. -/
theorem fenceRun_of_closes {l : Line} (h : closes l) : fenceRun l = "```".toList := by
  obtain ⟨rest, hblank, rfl⟩ := Code.Editor.closes_iff.mp h
  refine fenceRun_mark fun c hc => ?_
  have hc' := List.all_eq_true.mp hblank c (List.mem_of_mem_head? hc)
  constructor
  · rintro rfl
    exact absurd hc' (by decide)
  · rintro rfl
    exact absurd hc' (by decide)

/-- A line on which no fence opens does not ask. -/
theorem not_asks_of_short {l : Line} (h : (fenceRun l).length < 3) (ls : List Line) : ¬ Asks (l :: ls) := by
  rintro ⟨hopening, -⟩
  rw [fenceRun_of_opening? hopening] at h
  exact absurd h (by decide)

/-- In a fence that starts as an editor fence no line closes one. -/
theorem Whole.not_closes {opening closing : Line} {inside : List Line}
    (h : Whole (.fence opening inside closing)) (hopening : (opening? opening).isSome) :
    ∀ l ∈ inside, closes l = false := by
  cases h with
  | fence _ hinside _ =>
    intro l hl
    rw [Bool.eq_false_iff]
    intro hcloses
    have hnot := hinside l hl
    rw [fenceRun_of_opening? hopening, fenceRun_of_closes hcloses] at hnot
    exact absurd hnot (by decide)

/-! ## Fences and what makes way -/

/-- Spans that start further down are not the first one. -/
theorem forall_mem_cons_spans {n m last : Nat} (hlt : n < m) {pieces : List Deck.Piece} {fences : List (Nat × Nat)} :
    (∀ r ∈ spans m pieces, r ∈ (n, last) :: fences) ↔ ∀ r ∈ spans m pieces, r ∈ fences := by
  refine forall₂_congr fun r hr => ?_
  rw [List.mem_cons]
  refine or_iff_right fun hfirst => ?_
  have hle := le_of_mem_spans hr
  rw [hfirst] at hle
  exact absurd hlt (Nat.not_lt_of_le hle)

section

variable {opening closing : Line} {inside ls : List Line} {asking : List Deck.Piece}

theorem suits_fence : Suits (opening :: (inside ++ closing :: ls)) 0 (inside.length + 1) ↔
    (Asks (opening :: (inside ++ closing :: ls)) → closes closing) ∧
      (¬ Asks (opening :: (inside ++ closing :: ls)) →
        ∀ n < (inside ++ [closing]).length, ¬ Asks ((inside ++ closing :: ls).drop n)) := by
  have hlast : (inside ++ closing :: ls).drop inside.length = closing :: ls := List.drop_left
  constructor
  · rintro ⟨hclosed, hsilent⟩
    rw [List.drop_succ_cons, hlast] at hclosed
    refine ⟨hclosed, fun hasks n hn => ?_⟩
    rw [List.length_append, List.length_singleton] at hn
    exact hsilent hasks (n + 1) (by omega) (by omega)
  · rintro ⟨hclosed, hsilent⟩
    refine ⟨fun hasks => ?_, fun hasks n hlt hle => ?_⟩
    · rw [List.drop_succ_cons, hlast]
      exact hclosed hasks
    · obtain ⟨k, rfl⟩ : ∃ k, n = k + 1 := ⟨n - 1, by omega⟩
      refine hsilent hasks k ?_
      rw [List.length_append, List.length_singleton]
      omega

/-- If a fence suits, it makes way as a whole or stays as a whole. -/
theorem spans_of_suits (hfence : Whole (.fence opening inside closing))
    (hfalls : Code.Editor.Falls asking (opening :: (inside ++ closing :: ls)))
    (hsuits : Suits (opening :: (inside ++ closing :: ls)) 0 (inside.length + 1)) (m : Nat) :
    ∃ behind, Code.Editor.Falls behind ls ∧
      (spans m asking = spans (m + inside.length + 2) behind ∨
        spans m asking = (m, m + inside.length + 1) :: spans (m + inside.length + 2) behind) := by
  obtain ⟨hclosed, hsilent⟩ := suits_fence.mp hsuits
  by_cases hasks : Asks (opening :: (inside ++ closing :: ls))
  · obtain ⟨sample, last, rest, behind, hlines, hsample, hlast, rfl, hbehind⟩ := hfalls.of_asks hasks
    -- the first line that closes the editor fence is the one that closes the fence
    obtain ⟨rfl, rfl, rfl⟩ :=
      Deck.append_cons_inj (hfence.not_closes hasks.1) (hclosed hasks) hsample hlast hlines
    exact ⟨behind, hbehind, .inr rfl⟩
  · obtain ⟨more, rfl, hmore⟩ := hfalls.of_not_asks hasks
    have hlines : inside ++ closing :: ls = inside ++ [closing] ++ ls := by simp
    have hnone := hsilent hasks
    rw [hlines] at hmore hnone
    obtain ⟨behind, hbehind, hspans⟩ := hmore.behind hnone
    refine ⟨behind, hbehind, .inl ?_⟩
    rw [spans, hspans, List.length_append, List.length_singleton]
    congr 1
    omega

/-- If a fence does not suit, some of its lines make way and it does not do so as a whole. -/
theorem exists_span_of_not_suits
    (hfalls : Code.Editor.Falls asking (opening :: (inside ++ closing :: ls)))
    (hsuits : ¬ Suits (opening :: (inside ++ closing :: ls)) 0 (inside.length + 1)) (m : Nat) :
    ∃ r ∈ spans m asking, r.1 < m + inside.length + 2 ∧ r ≠ (m, m + inside.length + 1) := by
  rw [suits_fence] at hsuits
  by_cases hasks : Asks (opening :: (inside ++ closing :: ls))
  · have hopen : ¬ closes closing := fun hcloses => hsuits ⟨fun _ => hcloses, fun hnot => absurd hasks hnot⟩
    obtain ⟨sample, last, rest, behind, hlines, -, hlast, rfl, -⟩ := hfalls.of_asks hasks
    refine ⟨_, List.mem_cons_self, by omega, fun hsame => hopen ?_⟩
    -- a sample of the same length would end with the same line
    have hlength : inside.length = sample.length := by
      have hends := (Prod.mk.inj hsame).2
      omega
    rw [(List.cons.inj (List.append_inj hlines hlength).2).1]
    exact hlast
  · obtain ⟨n, hn, hlater⟩ : ∃ n < (inside ++ [closing]).length, Asks ((inside ++ closing :: ls).drop n) := by
      refine Classical.byContradiction fun hnone => hsuits ⟨fun h => absurd h hasks, fun _ n hn hn' => ?_⟩
      exact hnone ⟨n, hn, hn'⟩
    rw [List.length_append, List.length_singleton] at hn
    obtain ⟨more, rfl, hmore⟩ := hfalls.of_not_asks hasks
    obtain ⟨r, hr, hle⟩ := hmore.exists_span hlater (m + 1)
    refine ⟨r, hr, by omega, fun hsame => ?_⟩
    have hbehind := le_of_mem_spans hr
    rw [hsame] at hbehind
    exact absurd hbehind (Nat.not_succ_le_self m)

end

/-- What makes way among whole pieces are fences of theirs, exactly if all these fences suit editors. -/
theorem spans_subset_iff (before : List Line) {pieces asking : List Deck.Piece} (hwhole : ∀ q ∈ pieces, Whole q)
    (hfalls : Code.Editor.Falls asking (pieces.flatMap Deck.Piece.lines)) :
    (∀ r ∈ spans before.length asking, r ∈ spans before.length pieces) ↔
      ∀ r ∈ spans before.length pieces, Suits (before ++ pieces.flatMap Deck.Piece.lines) r.1 r.2 := by
  -- on the pieces of the body: what makes way starts anew behind each piece that suits
  induction pieces generalizing before asking with
  | nil =>
    rw [List.flatMap_nil] at hfalls
    cases hfalls
    exact iff_of_true (fun r hr => nomatch hr) (fun r hr => nomatch hr)
  | cons q pieces ih =>
    obtain ⟨hq, hpieces⟩ := List.forall_mem_cons.mp hwhole
    cases q with
    | text l =>
      have hall : (Deck.Piece.text l :: pieces).flatMap Deck.Piece.lines = l :: pieces.flatMap Deck.Piece.lines := rfl
      rw [hall] at hfalls ⊢
      have hshort : (fenceRun l).length < 3 := by
        cases hq
        assumption
      obtain ⟨behind, rfl, hbehind⟩ := hfalls.of_not_asks (not_asks_of_short hshort _)
      have hrest := ih (before ++ [l]) hpieces hbehind
      rw [List.length_append, List.append_assoc] at hrest
      exact hrest
    | fence opening inside closing =>
      rw [List.flatMap_cons, Deck.Piece.lines_fence_append] at hfalls ⊢
      have hfirst : Suits (before ++ opening :: (inside ++ closing :: pieces.flatMap Deck.Piece.lines)) before.length
          (before.length + inside.length + 1) ↔
            Suits (opening :: (inside ++ closing :: pieces.flatMap Deck.Piece.lines)) 0 (inside.length + 1) := by
        rw [Nat.add_assoc]
        exact suits_append
      rw [spans, List.forall_mem_cons]
      by_cases hsuits : Suits (opening :: (inside ++ closing :: pieces.flatMap Deck.Piece.lines)) 0
          (inside.length + 1)
      · obtain ⟨behind, hbehind, hspans⟩ := spans_of_suits hq hfalls hsuits before.length
        have hrest := ih (before ++ (opening :: (inside ++ [closing]))) hpieces hbehind
        have hlength : (before ++ (opening :: (inside ++ [closing]))).length = before.length + inside.length + 2 := by
          simp [Nat.add_assoc]
        have hlines : before ++ (opening :: (inside ++ [closing])) ++ pieces.flatMap Deck.Piece.lines =
            before ++ opening :: (inside ++ closing :: pieces.flatMap Deck.Piece.lines) := by simp
        rw [hlength, hlines] at hrest
        -- nothing is left to say about this fence on either side
        refine Iff.trans ?_ (and_iff_right (hfirst.mpr hsuits)).symm
        rw [← hrest]
        rcases hspans with hstays | hmakesWay
        · rw [hstays, forall_mem_cons_spans (by omega)]
        · rw [hmakesWay, List.forall_mem_cons, and_iff_right List.mem_cons_self, forall_mem_cons_spans (by omega)]
      · -- this fence alone makes both sides fail
        refine iff_of_false (fun hinside => ?_) fun hall => hsuits (hfirst.mp hall.1)
        obtain ⟨r, hr, hlt, hne⟩ := exists_span_of_not_suits hfalls hsuits before.length
        rcases List.mem_cons.mp (hinside r hr) with hsame | hlater
        · exact hne hsame
        · exact absurd hlt (Nat.not_lt_of_le (le_of_mem_spans hlater))

/-- In a body without open fences, what makes way for editors are whole fences exactly if all fences suit
editors. -/
theorem editors_replace_fences_iff {body : String} (hclosed : openFence? 1 none (lines body.toList) = none) :
    (∃ asking, Code.Editor.Falls asking (splitOn (· = '\n') body.toList)) ∧
      ∀ asking, Code.Editor.Falls asking (splitOn (· = '\n') body.toList) →
        Code.Editor.replace body = String.ofList (joinLines (asking.flatMap Code.Editor.replaced)) ∧
        ((∀ r ∈ spans 0 asking, IsFence (lines body.toList) r.1 r.2) ↔
          ∀ first last, IsFence (lines body.toList) first last →
            Suits (splitOn (· = '\n') body.toList) first last) := by
  rw [openFence?_lines] at hclosed
  obtain ⟨pieces, hwhole, hlines⟩ := openFence?_eq_none.mp hclosed
  have hfence (first last : Nat) : IsFence (lines body.toList) first last ↔ (first, last) ∈ spans 0 pieces := by
    have hspans : (first, last) ∈ spans 0 pieces ↔
        0 ≤ first ∧ IsFence (pieces.flatMap Deck.Piece.lines) first last :=
      isFence_iff_spans [] (by simp) hwhole
    rw [IsFence.lines_iff, hlines]
    exact (hspans.trans (and_iff_right (Nat.zero_le first))).symm
  refine ⟨Code.Editor.exists_falls _, fun asking hfalls => ⟨?_, ?_⟩⟩
  · rw [Code.Editor.replace, hfalls.replaceIn_eq]
  · simp only [hfence]
    rw [hlines] at hfalls ⊢
    refine (spans_subset_iff [] hwhole hfalls).trans ?_
    exact Prod.forall

/-- A fence that asks for an editor, and one that does not. -/
def plainBody : String := "```js \x7bmonaco\x7d\nlet a\n```\n\n~~~md\n```js\n~~~\n"

/-- Three lines make way for the editor, and they are a fence of the body; so both fences suit editors. -/
theorem editors_replace_fences_plain :
    openFence? 1 none (lines plainBody.toList) = none ∧
      ∃ asking, Code.Editor.Falls asking (splitOn (· = '\n') plainBody.toList) ∧ spans 0 asking = [(0, 2)] ∧
        Code.Editor.replace plainBody = String.ofList (joinLines (asking.flatMap Code.Editor.replaced)) ∧
        (∀ r ∈ spans 0 asking, IsFence (lines plainBody.toList) r.1 r.2) ∧
        ∀ first last, IsFence (lines plainBody.toList) first last →
          Suits (splitOn (· = '\n') plainBody.toList) first last := by
  have hclosed : openFence? 1 none (lines plainBody.toList) = none := by decide
  obtain ⟨⟨asking, hfalls⟩, hreplaced⟩ := editors_replace_fences_iff hclosed
  obtain ⟨htext, hiff⟩ := hreplaced asking hfalls
  have hsplit : splitOn (· = '\n') plainBody.toList =
      ["```js \x7bmonaco\x7d".toList, "let a".toList, "```".toList, [], "~~~md".toList, "```js".toList,
        "~~~".toList, []] := by decide
  have hpieces : ∃ pieces, Code.Editor.Falls pieces (splitOn (· = '\n') plainBody.toList) ∧
      spans 0 pieces = [(0, 2)] := by
    rw [hsplit]
    exact ⟨[.fence _ ["let a".toList] _, .text _, .text _, .text _, .text _, .text _],
      .fence (by decide) (by decide) (by decide) (.line (by decide) (.line (by decide) (.line (by decide)
        (.line (by decide) (.line (by decide) .nil))))), by decide⟩
  obtain ⟨pieces, hpieces, hspans⟩ := hpieces
  obtain rfl := hfalls.unique hpieces
  have hwhole : ∀ r ∈ spans 0 asking, IsFence (lines plainBody.toList) r.1 r.2 := by
    rw [hspans]
    decide
  exact ⟨hclosed, asking, hfalls, hspans, htext, hwhole, hiff.mp hwhole⟩

/-- A fence that quotes an editor fence. -/
def quotingBody : String := "````md\n```js \x7bmonaco\x7d\nlet a\n```\n````\n"

/-- An editor fence that a longer run closes, with text and another one behind it. -/
def longerBody : String :=
  "```js \x7bmonaco\x7d\nlet a\n````\n\nText\n\n```js \x7bmonaco\x7d\nlet b\n```\n"

/-- The quoted fence makes way although it is inside another one, and the text behind the closed fence makes
way together with it. -/
theorem replaced_lines_no_fence :
    (openFence? 1 none (lines quotingBody.toList) = none ∧
      ∃ asking, Code.Editor.Falls asking (splitOn (· = '\n') quotingBody.toList) ∧ (1, 3) ∈ spans 0 asking ∧
        IsFence (lines quotingBody.toList) 0 4 ∧ ¬ IsFence (lines quotingBody.toList) 1 3) ∧
    openFence? 1 none (lines longerBody.toList) = none ∧
      ∃ asking, Code.Editor.Falls asking (splitOn (· = '\n') longerBody.toList) ∧ (0, 8) ∈ spans 0 asking ∧
        IsFence (lines longerBody.toList) 0 2 ∧ ¬ IsFence (lines longerBody.toList) 0 8 := by
  have hquoting : splitOn (· = '\n') quotingBody.toList =
      ["````md".toList, "```js \x7bmonaco\x7d".toList, "let a".toList, "```".toList, "````".toList, []] := by
    decide
  have hlonger : splitOn (· = '\n') longerBody.toList =
      ["```js \x7bmonaco\x7d".toList, "let a".toList, "````".toList, [], "Text".toList, [],
        "```js \x7bmonaco\x7d".toList, "let b".toList, "```".toList, []] := by decide
  refine ⟨⟨by decide, ?_⟩, by decide, ?_⟩
  · rw [hquoting]
    refine ⟨[.text _, .fence _ ["let a".toList] _, .text _, .text _],
      .line (by decide) (.fence (by decide) (by decide) (by decide) (.line (by decide) (.line (by decide) .nil))),
      by decide, by decide, by decide⟩
  · rw [hlonger]
    refine ⟨[.fence _ ["let a".toList, "````".toList, [], "Text".toList, [], "```js \x7bmonaco\x7d".toList,
      "let b".toList] _, .text _], .fence (by decide) (by decide) (by decide) (.line (by decide) .nil),
      by decide, by decide, by decide⟩

end Component

end DeckPress
