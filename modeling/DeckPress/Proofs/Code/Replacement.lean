import DeckPress.Proofs.Code.Editor
import DeckPress.Proofs.Deck.Grammar

/-!
# What is left when editors are in place

Read from its first line on, a text falls into lines that stay and fences that make way for an editor. A
line opens such a fence only if a later line closes it, so an opening line that stays has no closing line
anywhere behind it; and what is put in the place of a fence neither opens nor closes one. A text in which
editors have been put therefore asks for no editor, and a second replacement leaves it as it is.
-/

namespace DeckPress.Code.Editor

open Text

/-! ## Lines that stay and fences that make way -/

/-- Lines fall into lines that stay and fences that make way for an editor. A line that asks for an editor
stays if no later line closes its fence; otherwise the first one that does is the end of the fence. -/
inductive Falls : List Deck.Piece → List Line → Prop where
  | nil : Falls [] []
  | line {l : Line} {pieces : List Deck.Piece} {ls : List Line} :
      ¬ ((opening? l).isSome ∧ ls.any closes) → Falls pieces ls → Falls (.text l :: pieces) (l :: ls)
  | fence {opening closing : Line} {sample ls : List Line} {pieces : List Deck.Piece} :
      (opening? opening).isSome → (∀ l ∈ sample, closes l = false) → closes closing → Falls pieces ls →
      Falls (.fence opening sample closing :: pieces) (opening :: (sample ++ closing :: ls))

/-- The lines in the place of a piece. -/
def replaced : Deck.Piece → List Line
  | .text l => [l]
  | .fence opening sample _ =>
    (opening? opening).toList.map (fun asked => component asked.1 asked.2 sample) ++ [[]]

/-- The replacement writes, piece by piece, what stands in its place. -/
theorem Falls.replaceIn_eq {pieces : List Deck.Piece} {ls : List Line} (h : Falls pieces ls) :
    replaceIn ls = pieces.flatMap replaced := by
  induction h with
  | nil => rw [replaceIn, List.flatMap_nil]
  | line hline _ ih => rw [replaceIn_line hline, ih, List.flatMap_cons, replaced, List.singleton_append]
  | @fence opening closing sample ls pieces hopening hsample hclosing _ ih =>
    obtain ⟨⟨language, options⟩, hasked⟩ := Option.isSome_iff_exists.mp hopening
    have hend : (sample ++ closing :: ls).findIdx? closes = some sample.length :=
      Deck.findIdx?_append_cons hsample hclosing ls
    have hdrop : (sample ++ closing :: ls).drop (sample.length + 1) = ls := by simp
    rw [replaceIn, hasked]
    dsimp only
    rw [hend]
    dsimp only
    rw [hdrop, List.take_left, ih, List.flatMap_cons, replaced, hasked]
    rfl

/-- Every text falls into such pieces. -/
theorem exists_falls (ls : List Line) : ∃ pieces, Falls pieces ls := by
  induction hn : ls.length using Nat.strongRecOn generalizing ls with
  | ind n ih =>
    cases ls with
    | nil => exact ⟨[], .nil⟩
    | cons l ls =>
      by_cases hfence : (opening? l).isSome ∧ ls.any closes
      · obtain ⟨hopening, hclosed⟩ := hfence
        -- the first line that closes the fence ends it, and the rest is read anew
        obtain ⟨closing, hfirst⟩ :=
          Option.isSome_iff_exists.mp (List.find?_isSome.mpr (List.any_eq_true.mp hclosed))
        obtain ⟨hcloses, sample, rest, rfl, hsample⟩ := List.find?_eq_some_iff_append.mp hfirst
        obtain ⟨pieces, hpieces⟩ := ih rest.length (by simp at hn; omega) rest rfl
        exact ⟨_, .fence hopening (by simpa using hsample) hcloses hpieces⟩
      · obtain ⟨pieces, hpieces⟩ := ih ls.length (by simp at hn; omega) ls rfl
        exact ⟨_, .line hfence hpieces⟩

/-! ## Lines that are put in -/

theorem letter_ne_feed (n : Nat) : Base64.letter n ≠ '\n' := by
  by_cases hn : n < 63
  · have hall : ∀ n < 63, Base64.letter n ≠ '\n' := by decide
    exact hall n hn
  · have hslash : Base64.letter n = '+' ∨ Base64.letter n = '/' := by
      unfold Base64.letter
      rw [if_neg (by omega), if_neg (by omega), if_neg (by omega)]
      split <;> simp
    rcases hslash with h | h <;> rw [h] <;> decide

theorem feed_not_mem_encode (bytes : List UInt8) : '\n' ∉ Base64.encode bytes := by
  have hletter (n : Nat) : '\n' ≠ Base64.letter n := (letter_ne_feed n).symm
  induction bytes using Base64.encode.induct with
  | case1 => exact List.not_mem_nil
  | case2 a => simp [Base64.encode, hletter]
  | case3 a b => simp [Base64.encode, hletter]
  | case4 a b c rest ih => simp [Base64.encode, hletter, ih]

/-- The language of a fence is a word. -/
theorem isWord_of_opening? {l language options : Line} (h : opening? l = some (language, options)) :
    ∀ c ∈ language, isWord c := by
  unfold opening? at h
  obtain ⟨rest, -, h⟩ := Option.bind_eq_some_iff.mp h
  dsimp only at h
  split at h
  · cases h
  obtain ⟨inner, -, h⟩ := Option.bind_eq_some_iff.mp h
  split at h
  · split at h
    · cases h
      exact List.all_eq_true.mp List.all_takeWhile
    · cases h
  · cases h

/-- An editor takes up one line. -/
theorem feed_not_mem_component {language options : Line} (h : ∀ c ∈ language, isWord c)
    (sample : List Line) : '\n' ∉ component language options sample := by
  have hlanguage : '\n' ∉ language := by
    intro hc
    have hword := h '\n' hc
    revert hword
    decide
  have hencode := feed_not_mem_encode (String.ofList (sample.flatMap (· ++ ['\n']))).toUTF8.toList
  have hreadonly : '\n' ∉ (if containsText "readonly".toList options then "true" else "false").toList := by
    split <;> decide
  unfold component
  simp only [List.mem_append, not_or]
  exact ⟨⟨⟨⟨⟨⟨by decide, hencode⟩, by decide⟩, hlanguage⟩, by decide⟩, hreadonly⟩, by decide⟩

/-- An editor opens no fence. -/
theorem opening?_component (language options : Line) (sample : List Line) :
    opening? (component language options sample) = none := by
  cases hopening : opening? (component language options sample) with
  | none => rfl
  | some asked =>
    obtain ⟨rest, hrest⟩ :=
      mark_prefix_of_opening? (l := component language options sample) (by rw [hopening]; rfl)
    have hhead := head?_component language options sample
    rw [← hrest] at hhead
    cases hhead

/-! ## Nothing is left to replace -/

theorem any_closes_of_isIn {ls : List Line} (h : isIn ls) : ls.any closes := by
  induction ls with
  | nil => cases h
  | cons l ls ih =>
    rw [List.any_cons, Bool.or_eq_true]
    rcases isIn_cons.mp h with hfence | hlater
    · exact .inr hfence.2
    · exact .inr (ih hlater)

/-- With editors in place no fence asks for one. -/
theorem Falls.not_isIn {pieces : List Deck.Piece} {ls : List Line} (h : Falls pieces ls) :
    ¬ isIn (pieces.flatMap replaced) := by
  induction h with
  | nil => decide
  | @line l pieces ls hline hfalls ih =>
    rw [List.flatMap_cons, replaced, List.singleton_append, isIn_cons, not_or]
    refine ⟨?_, ih⟩
    rintro ⟨hopening, hcloses⟩
    have hnone : ¬ ls.any closes := fun hany => hline ⟨hopening, hany⟩
    -- behind a line that stays although it asks, nothing was replaced
    rw [← hfalls.replaceIn_eq, replaceIn_of_not_isIn (mt any_closes_of_isIn hnone)] at hcloses
    exact hnone hcloses
  | @fence opening closing sample ls pieces hopening hsample hclosing _ ih =>
    obtain ⟨⟨language, options⟩, hasked⟩ := Option.isSome_iff_exists.mp hopening
    have hplace : replaced (.fence opening sample closing) = [component language options sample, []] := by
      rw [replaced, hasked]
      rfl
    rw [List.flatMap_cons, hplace, isIn_append]
    · exact ih
    · intro l hl
      rcases List.mem_cons.mp hl with rfl | hl
      · exact opening?_component language options sample
      · cases List.mem_singleton.mp hl
        rfl

/-- What is put in and what stays are lines. -/
theorem Falls.noFeed {pieces : List Deck.Piece} {ls : List Line} (h : Falls pieces ls)
    (hls : ∀ l ∈ ls, '\n' ∉ l) : ∀ l ∈ pieces.flatMap replaced, '\n' ∉ l := by
  induction h with
  | nil => intro l hl; cases hl
  | @line l pieces ls _ _ ih =>
    obtain ⟨hl, hls⟩ := List.forall_mem_cons.mp hls
    exact List.forall_mem_cons.mpr ⟨hl, ih hls⟩
  | @fence opening closing sample ls pieces hopening _ _ _ ih =>
    obtain ⟨⟨language, options⟩, hasked⟩ := Option.isSome_iff_exists.mp hopening
    have hrest : ∀ l ∈ ls, '\n' ∉ l := fun l hl =>
      hls l (List.mem_cons_of_mem _ (List.mem_append_right _ (List.mem_cons_of_mem _ hl)))
    rw [List.flatMap_cons, replaced, hasked]
    refine List.forall_mem_cons.mpr ⟨feed_not_mem_component (isWord_of_opening? hasked) sample, ?_⟩
    exact List.forall_mem_cons.mpr ⟨List.not_mem_nil, ih hrest⟩

/-- The lines of a text with editors in place. -/
theorem splitOn_replace (text : String) :
    splitOn (· = '\n') (replace text).toList = replaceIn (splitOn (· = '\n') text.toList) := by
  obtain ⟨pieces, hfalls⟩ := exists_falls (splitOn (· = '\n') text.toList)
  have hfeed : ∀ l ∈ splitOn (· = '\n') text.toList, '\n' ∉ l := by
    intro l hl hc
    exact absurd (not_mem_of_mem_splitOn hl hc) (by decide)
  have hlines := hfalls.noFeed hfeed
  rw [← hfalls.replaceIn_eq] at hlines
  rw [replace, String.toList_ofList, splitOn_joinLines hlines (replaceIn_ne_nil (splitOn_ne_nil _ _))]

theorem not_wanted_replace (text : String) : wanted (replace text) = false := by
  obtain ⟨pieces, hfalls⟩ := exists_falls (splitOn (· = '\n') text.toList)
  rw [wanted, splitOn_replace, hfalls.replaceIn_eq]
  exact Bool.eq_false_iff.mpr hfalls.not_isIn

/-- The replacement is complete: afterwards no fence asks for an editor, a second replacement changes
nothing, and the first one changes exactly the texts that ask for an editor. -/
theorem replacement_complete (text : String) :
    wanted (replace text) = false ∧ replace (replace text) = replace text ∧
      (replace text ≠ text ↔ wanted text) := by
  have hnone := not_wanted_replace text
  refine ⟨hnone, ?_, replace_ne_iff⟩
  refine Classical.byContradiction fun hchanged => ?_
  rw [replace_ne_iff.mp hchanged] at hnone
  cases hnone

end DeckPress.Code.Editor
