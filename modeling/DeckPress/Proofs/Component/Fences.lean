import DeckPress.Component.Compile
import DeckPress.Proofs.Deck.Grammar

/-!
# Closed fences

The check of a body goes over its lines and remembers the fence that is open. A body passes exactly if its
lines fall into whole pieces: a line on which no fence opens, or a fence with the first line that closes
it. So the check can be asked piece by piece, and where its fences start and end is read off the pieces.

Only the marks at the start of a line count. How lines end makes no difference, nor does an empty line
behind the last one.
-/

namespace DeckPress.Component

open Text
open Deck (Line)

/-! ## Line by line -/

/-- The fence that is open behind a line, if this one was open in front of it. -/
def fenceBehind (line : Nat) (fence : Option (Nat × List Char)) (run : List Char) : Option (Nat × List Char) :=
  match fence with
  | some (start, f) => if closesFence f run then none else some (start, f)
  | none => if 3 ≤ run.length then some (line, run) else none

theorem openFence?_cons (line : Nat) (fence : Option (Nat × List Char)) (l : Line) (ls : List Line) :
    openFence? line fence (l :: ls) = openFence? (line + 1) (fenceBehind line fence (fenceRun l)) ls := by
  cases fence <;> rfl

/-- The check sees the runs of marks and nothing else of the lines. -/
theorem openFence?_congr {ls ms : List Line} (h : ls.map fenceRun = ms.map fenceRun) (line : Nat)
    (fence : Option (Nat × List Char)) : openFence? line fence ls = openFence? line fence ms := by
  induction ls generalizing ms line fence with
  | nil => rw [List.map_eq_nil_iff.mp h.symm]
  | cons l ls ih =>
    obtain ⟨m, ms', rfl, hm, hms⟩ := List.map_eq_cons_iff.mp h.symm
    rw [openFence?_cons, openFence?_cons, hm, ih hms.symm]

/-- Lines without marks change nothing while no fence is open. -/
theorem openFence?_append_nil (line : Nat) (fence : Option (Nat × List Char)) (ls : List Line) :
    openFence? line fence (ls ++ [[]]) = openFence? line fence ls := by
  induction ls generalizing line fence with
  | nil =>
    have hkept : fenceBehind line fence (fenceRun []) = fence := by
      cases fence with
      | none => rfl
      | some f =>
        have hcloses : closesFence f.2 (fenceRun []) = false := by simp [closesFence, fenceRun, trimStart]
        simp [fenceBehind, hcloses]
    rw [List.nil_append, openFence?_cons, hkept]
    rfl
  | cons l ls ih => rw [List.cons_append, openFence?_cons, openFence?_cons, ih]

/-! ## How lines end -/

theorem takeWhile_append_singleton {p : Char → Bool} {x : Char} (hx : p x = false) (s : List Char) :
    (s ++ [x]).takeWhile p = s.takeWhile p := by
  rw [List.takeWhile_append]
  split
  · rename_i hall
    rw [List.takeWhile_cons_of_neg (by simp [hx]), List.append_nil]
    exact ((List.takeWhile_prefix p).eq_of_length hall).symm
  · rfl

/-- A carriage return at the end of a line is no mark. -/
theorem fenceRun_dropReturn (l : Line) : fenceRun (dropReturn l) = fenceRun l := by
  unfold dropReturn
  split
  · rename_i hlast
    obtain ⟨p, rfl⟩ := List.getLast?_eq_some_iff.mp hlast
    rw [List.dropLast_concat]
    unfold fenceRun trimStart
    rw [List.dropWhile_append]
    split
    · -- the line is white space, with the return and without it
      rename_i hblank
      rw [List.isEmpty_iff.mp hblank]
      rfl
    · exact (takeWhile_append_singleton (by decide) _).symm
  · rfl

/-- Cutting off the ends of lines leaves the runs of marks, and may drop an empty line at the end. -/
theorem map_fenceRun_cutEnds (ls : List Line) :
    ls.map fenceRun = (cutEnds ls).map fenceRun ∨ ls.map fenceRun = (cutEnds ls ++ [[]]).map fenceRun := by
  induction ls with
  | nil => exact .inl rfl
  | cons l ls ih =>
    cases ls with
    | nil =>
      rw [cutEnds]
      split
      · rename_i hnil
        rw [hnil]
        exact .inr rfl
      · exact .inl rfl
    | cons m ms =>
      have hline := fenceRun_dropReturn l
      rcases ih with hsame | hmore
      · refine .inl ?_
        rw [cutEnds, List.map_cons, hsame, List.map_cons, hline]
      · refine .inr ?_
        rw [cutEnds, List.map_cons, hmore, List.cons_append, List.map_cons, hline]

/-- It does not matter whether lines are taken with their ends cut off. -/
theorem openFence?_take_lines (line : Nat) (fence : Option (Nat × List Char)) (s : List Char) (n : Nat) :
    openFence? line fence ((lines s).take n) =
      openFence? line fence ((splitOn (· = '\n') s).take n) := by
  rw [lines_eq_cutEnds]
  generalize splitOn (· = '\n') s = ls
  rcases map_fenceRun_cutEnds ls with hsame | hmore
  · exact openFence?_congr (by rw [List.map_take, List.map_take, hsame]) line fence
  · have htake : (ls.take n).map fenceRun = ((cutEnds ls ++ [[]]).take n).map fenceRun := by
      rw [List.map_take, hmore, List.map_take]
    -- the empty line at the end is taken or not, and does not matter
    rw [openFence?_congr htake, List.take_append]
    cases n - (cutEnds ls).length with
    | zero => rw [List.take_zero, List.append_nil]
    | succ k => rw [List.take_succ_cons, List.take_nil, openFence?_append_nil]

theorem openFence?_lines (line : Nat) (fence : Option (Nat × List Char)) (s : List Char) :
    openFence? line fence (lines s) = openFence? line fence (splitOn (· = '\n') s) := by
  have htake := openFence?_take_lines line fence s ((lines s).length + (splitOn (· = '\n') s).length)
  rwa [List.take_of_length_le (Nat.le_add_right _ _), List.take_of_length_le (Nat.le_add_left _ _)] at htake

/-! ## Piece by piece -/

/-- A piece is whole: no fence opens on a line of text, and a fence ends with the first line that closes
it. -/
inductive Whole : Deck.Piece → Prop where
  | text {l : Line} : (fenceRun l).length < 3 → Whole (.text l)
  | fence {opening closing : Line} {inside : List Line} : 3 ≤ (fenceRun opening).length →
      (∀ l ∈ inside, closesFence (fenceRun opening) (fenceRun l) = false) →
      closesFence (fenceRun opening) (fenceRun closing) → Whole (.fence opening inside closing)

/-- An open fence stays open over lines that do not close it. -/
theorem openFence?_inside {run : List Char} {inside : List Line}
    (h : ∀ l ∈ inside, closesFence run (fenceRun l) = false) (line start : Nat) (ls : List Line) :
    openFence? line (some (start, run)) (inside ++ ls) =
      openFence? (line + inside.length) (some (start, run)) ls := by
  induction inside generalizing line with
  | nil => rfl
  | cons l inside ih =>
    obtain ⟨hl, hinside⟩ := List.forall_mem_cons.mp h
    have hkept : fenceBehind line (some (start, run)) (fenceRun l) = some (start, run) := by
      simp [fenceBehind, hl]
    rw [List.cons_append, openFence?_cons, hkept, ih hinside, List.length_cons, Nat.add_right_comm,
      Nat.add_assoc]

/-- The line that opens a fence. -/
theorem openFence?_opening {opening : Line} (h : 3 ≤ (fenceRun opening).length) (line : Nat)
    (ls : List Line) :
    openFence? line none (opening :: ls) = openFence? (line + 1) (some (line, fenceRun opening)) ls := by
  have hopened : fenceBehind line none (fenceRun opening) = some (line, fenceRun opening) := if_pos h
  rw [openFence?_cons, hopened]

/-- Behind a whole piece no fence is open. -/
theorem Whole.openFence?_eq {q : Deck.Piece} (h : Whole q) (line : Nat) (ls : List Line) :
    openFence? line none (q.lines ++ ls) = openFence? (line + q.lines.length) none ls := by
  cases h with
  | @text l hl =>
    have hnone : fenceBehind line none (fenceRun l) = none := if_neg (by omega)
    rw [Deck.Piece.lines, List.singleton_append, openFence?_cons, hnone]
    rfl
  | @fence opening closing inside hopening hinside hclosing =>
    have hclosed (n : Nat) : fenceBehind n (some (line, fenceRun opening)) (fenceRun closing) = none :=
      if_pos hclosing
    rw [Deck.Piece.lines_fence_append, openFence?_opening hopening, openFence?_inside hinside,
      openFence?_cons, hclosed, Deck.Piece.length_lines_fence]
    congr 1
    omega

theorem openFence?_whole {pieces : List Deck.Piece} (h : ∀ q ∈ pieces, Whole q) (line : Nat) (ls : List Line) :
    openFence? line none (pieces.flatMap Deck.Piece.lines ++ ls) =
      openFence? (line + (pieces.flatMap Deck.Piece.lines).length) none ls := by
  induction pieces generalizing line with
  | nil => rfl
  | cons q pieces ih =>
    obtain ⟨hq, hpieces⟩ := List.forall_mem_cons.mp h
    rw [List.flatMap_cons, List.append_assoc, hq.openFence?_eq, ih hpieces, List.length_append, Nat.add_assoc]

theorem openFence?_flatMap_lines {pieces : List Deck.Piece} (h : ∀ q ∈ pieces, Whole q) (line : Nat) :
    openFence? line none (pieces.flatMap Deck.Piece.lines) = none := by
  have hclosed := openFence?_whole h line []
  rwa [List.append_nil] at hclosed

/-- Lines fall into whole pieces, down to their end or to a fence that stays open. -/
theorem exists_whole (ls : List Line) :
    ∃ (pieces : List Deck.Piece) (rest : List Line), (∀ q ∈ pieces, Whole q) ∧
      ls = pieces.flatMap Deck.Piece.lines ++ rest ∧
      (rest = [] ∨ ∃ opening later, rest = opening :: later ∧ 3 ≤ (fenceRun opening).length ∧
        ∀ l ∈ later, closesFence (fenceRun opening) (fenceRun l) = false) := by
  -- on the number of lines, since a fence takes up several of them at once
  induction hn : ls.length using Nat.strongRecOn generalizing ls with
  | ind n ih =>
    cases ls with
    | nil => exact ⟨[], [], by simp, rfl, .inl rfl⟩
    | cons l later =>
      by_cases hl : (fenceRun l).length < 3
      · obtain ⟨pieces, rest, hpieces, rfl, hrest⟩ := ih later.length (by simp at hn; omega) later rfl
        exact ⟨.text l :: pieces, rest, List.forall_mem_cons.mpr ⟨.text hl, hpieces⟩, rfl, hrest⟩
      · have hopening : 3 ≤ (fenceRun l).length := Nat.le_of_not_lt hl
        cases hfirst : later.find? fun m => closesFence (fenceRun l) (fenceRun m) with
        | none =>
          refine ⟨[], l :: later, by simp, rfl, .inr ⟨l, later, rfl, hopening, ?_⟩⟩
          simpa using hfirst
        | some closing =>
          obtain ⟨hcloses, inside, behind, rfl, hinside⟩ := List.find?_eq_some_iff_append.mp hfirst
          obtain ⟨pieces, rest, hpieces, rfl, hrest⟩ := ih behind.length (by simp at hn; omega) behind rfl
          refine ⟨.fence l inside closing :: pieces, rest,
            List.forall_mem_cons.mpr ⟨.fence hopening (by simpa using hinside) hcloses, hpieces⟩, ?_, hrest⟩
          simp [Deck.Piece.lines]

/-- The check is passed exactly by lines that fall into whole pieces. -/
theorem openFence?_eq_none {line : Nat} {ls : List Line} :
    openFence? line none ls = none ↔
      ∃ pieces : List Deck.Piece, (∀ q ∈ pieces, Whole q) ∧ ls = pieces.flatMap Deck.Piece.lines := by
  constructor
  · intro h
    obtain ⟨pieces, rest, hpieces, rfl, hend | ⟨opening, later, rfl, hopening, hlater⟩⟩ := exists_whole ls
    · exact ⟨pieces, hpieces, by rw [hend, List.append_nil]⟩
    · -- the fence that stays open would be reported
      have hopen := openFence?_inside hlater (line + (pieces.flatMap Deck.Piece.lines).length + 1)
        (line + (pieces.flatMap Deck.Piece.lines).length) []
      rw [openFence?_whole hpieces, openFence?_opening hopening, ← List.append_nil later, hopen] at h
      cases h
  · rintro ⟨pieces, hpieces, rfl⟩
    exact openFence?_flatMap_lines hpieces line

/-! ## Where fences start and end -/

/-- Some lines are a fence of a body, the first of them being line `first` and the last one line `last`,
counted from 0: no fence is open in front of them, they open one, and their last line closes this fence. -/
structure IsFence (ls : List Line) (first last : Nat) : Prop where
  lt : first < last
  outside : openFence? 1 none (ls.take first) = none
  inside : ∀ n, first < n → n ≤ last → openFence? 1 none (ls.take n) = some (first + 1)
  closed : openFence? 1 none (ls.take (last + 1)) = none

theorem isFence_iff_range {ls : List Line} {first last : Nat} :
    IsFence ls first last ↔
      first < last ∧ openFence? 1 none (ls.take first) = none ∧
        (∀ n ∈ List.range' (first + 1) (last - first), openFence? 1 none (ls.take n) = some (first + 1)) ∧
        openFence? 1 none (ls.take (last + 1)) = none := by
  constructor
  · rintro ⟨hlt, houtside, hinside, hclosed⟩
    refine ⟨hlt, houtside, fun n hn => ?_, hclosed⟩
    rw [List.mem_range'_1] at hn
    exact hinside n (by omega) (by omega)
  · rintro ⟨hlt, houtside, hinside, hclosed⟩
    exact ⟨hlt, houtside, fun n hfirst hlast => hinside n (List.mem_range'_1.mpr (by omega)), hclosed⟩

instance (ls : List Line) (first last : Nat) : Decidable (IsFence ls first last) :=
  decidable_of_iff' _ isFence_iff_range

/-- A fence is closed once. -/
theorem IsFence.last_eq {ls : List Line} {first last last' : Nat} (h : IsFence ls first last)
    (h' : IsFence ls first last') : last = last' := by
  have hlt := h.lt
  have hlt' := h'.lt
  rcases Nat.lt_trichotomy last last' with hbefore | hsame | hbehind
  · have hopen := h'.inside (last + 1) (by omega) (by omega)
    rw [h.closed] at hopen
    cases hopen
  · exact hsame
  · have hopen := h.inside (last' + 1) (by omega) (by omega)
    rw [h'.closed] at hopen
    cases hopen

theorem IsFence.lines_iff {s : List Char} {first last : Nat} :
    IsFence (lines s) first last ↔ IsFence (splitOn (· = '\n') s) first last := by
  constructor
  · rintro ⟨hlt, houtside, hinside, hclosed⟩
    simp only [openFence?_take_lines] at houtside hinside hclosed
    exact ⟨hlt, houtside, hinside, hclosed⟩
  · rintro ⟨hlt, houtside, hinside, hclosed⟩
    simp only [← openFence?_take_lines] at houtside hinside hclosed
    exact ⟨hlt, houtside, hinside, hclosed⟩

/-- The first and the last lines of the fences among pieces, where the pieces start on line `n`. -/
def spans (n : Nat) : List Deck.Piece → List (Nat × Nat)
  | [] => []
  | .text _ :: pieces => spans (n + 1) pieces
  | .fence _ inside _ :: pieces => (n, n + inside.length + 1) :: spans (n + inside.length + 2) pieces

/-- No span starts before the pieces do. -/
theorem le_of_mem_spans {n : Nat} {pieces : List Deck.Piece} {r : Nat × Nat} (h : r ∈ spans n pieces) :
    n ≤ r.1 := by
  induction pieces generalizing n with
  | nil => cases h
  | cons q pieces ih =>
    cases q with
    | text l => exact Nat.le_of_succ_le (ih h)
    | fence opening inside closing =>
      rcases List.mem_cons.mp h with rfl | h
      · exact Nat.le_refl n
      · have hbehind := ih h
        omega

/-- What is left of a fence that is cut off in front of its last line stays open. -/
theorem Whole.openFence?_take {opening closing : Line} {inside : List Line}
    (h : Whole (.fence opening inside closing)) (line k : Nat) :
    openFence? line none (opening :: inside.take k) = some line := by
  cases h with
  | fence hopening hinside _ =>
    have htaken : ∀ l ∈ inside.take k, closesFence (fenceRun opening) (fenceRun l) = false :=
      fun l hl => hinside l (List.mem_of_mem_take hl)
    have hopen := openFence?_inside htaken (line + 1) line []
    rw [List.append_nil] at hopen
    rw [openFence?_opening hopening, hopen]
    rfl

/-- Among whole pieces a fence is a fence of the body. -/
theorem isFence_of_whole {before : List Deck.Piece} {opening closing : Line} {inside : List Line}
    (hbefore : ∀ q ∈ before, Whole q) (hfence : Whole (.fence opening inside closing)) (after : List Line) :
    IsFence (before.flatMap Deck.Piece.lines ++ opening :: (inside ++ closing :: after))
      (before.flatMap Deck.Piece.lines).length ((before.flatMap Deck.Piece.lines).length + inside.length + 1) where
  lt := by omega
  outside := by rw [List.take_left, openFence?_flatMap_lines hbefore]
  inside := by
    intro n hlt hle
    obtain ⟨k, rfl⟩ : ∃ k, n = (before.flatMap Deck.Piece.lines).length + (k + 1) :=
      ⟨n - (before.flatMap Deck.Piece.lines).length - 1, by omega⟩
    have hk : k ≤ inside.length := by omega
    rw [List.take_length_add_append, List.take_succ_cons, List.take_append_of_le_length hk,
      openFence?_whole hbefore, hfence.openFence?_take, Nat.add_comm]
  closed := by
    have hlast : (inside ++ closing :: after).take (inside.length + 1) = inside ++ [closing] := by
      rw [List.append_cons]
      exact List.take_left' (by simp)
    have htake : (before.flatMap Deck.Piece.lines ++ opening :: (inside ++ closing :: after)).take
        ((before.flatMap Deck.Piece.lines).length + inside.length + 1 + 1) =
        before.flatMap Deck.Piece.lines ++ ((Deck.Piece.fence opening inside closing).lines ++ []) := by
      rw [Nat.add_assoc _ inside.length, Nat.add_assoc, List.take_length_add_append, List.take_succ_cons, hlast,
        List.append_nil]
      rfl
    rw [htake, openFence?_whole hbefore, hfence.openFence?_eq]
    rfl

/-- The fences of a body are those among the whole pieces into which it falls. -/
theorem isFence_iff_spans (before : List Deck.Piece) {pieces : List Deck.Piece} (hbefore : ∀ q ∈ before, Whole q)
    (hpieces : ∀ q ∈ pieces, Whole q) {first last : Nat} :
    (first, last) ∈ spans (before.flatMap Deck.Piece.lines).length pieces ↔
      (before.flatMap Deck.Piece.lines).length ≤ first ∧
        IsFence (before.flatMap Deck.Piece.lines ++ pieces.flatMap Deck.Piece.lines) first last := by
  -- the pieces go over one by one to those in front, and the body stays the same
  induction pieces generalizing before with
  | nil =>
    refine iff_of_false List.not_mem_nil ?_
    rintro ⟨hle, hfence⟩
    -- behind the last line no fence is open
    have hopen := hfence.inside last hfence.lt (Nat.le_refl last)
    have hlt := hfence.lt
    rw [List.flatMap_nil, List.append_nil] at hopen
    rw [List.take_of_length_le (by omega), openFence?_flatMap_lines hbefore] at hopen
    cases hopen
  | cons q pieces ih =>
    obtain ⟨hq, hpieces⟩ := List.forall_mem_cons.mp hpieces
    have hmore : ∀ x ∈ before ++ [q], Whole x := by
      intro x hx
      rcases List.mem_append.mp hx with hx | hx
      · exact hbefore x hx
      · cases List.mem_singleton.mp hx
        exact hq
    have hrest := ih (before ++ [q]) hmore hpieces
    have hlines : (before ++ [q]).flatMap Deck.Piece.lines = before.flatMap Deck.Piece.lines ++ q.lines := by simp
    rw [hlines, List.length_append, List.append_assoc, ← List.flatMap_cons] at hrest
    cases q with
    | text l =>
      rw [spans]
      refine hrest.trans ?_
      refine and_congr_left fun hfence => ⟨Nat.le_of_succ_le, fun hle => Nat.lt_of_le_of_ne hle ?_⟩
      rintro rfl
      -- no fence opens on this line
      have hopen := hfence.inside ((before.flatMap Deck.Piece.lines).length + 1) (by omega) hfence.lt
      rw [List.flatMap_cons, List.take_length_add_append] at hopen
      rw [openFence?_whole hbefore, Deck.Piece.lines, List.singleton_append, List.take_succ_cons, List.take_zero,
        ← List.singleton_append, ← Deck.Piece.lines, hq.openFence?_eq] at hopen
      cases hopen
    | fence opening inside closing =>
      have hthis := isFence_of_whole hbefore hq (pieces.flatMap Deck.Piece.lines)
      rw [Deck.Piece.length_lines_fence, ← Nat.add_assoc] at hrest
      rw [← Deck.Piece.lines_fence_append, ← List.flatMap_cons] at hthis
      rw [spans, List.mem_cons, hrest, Prod.mk.injEq]
      constructor
      · rintro (⟨rfl, rfl⟩ | ⟨hle, hfence⟩)
        · exact ⟨Nat.le_refl _, hthis⟩
        · exact ⟨by omega, hfence⟩
      · rintro ⟨hle, hfence⟩
        by_cases hfirst : first = (before.flatMap Deck.Piece.lines).length
        · subst hfirst
          exact .inl ⟨rfl, hfence.last_eq hthis⟩
        · refine .inr ⟨Nat.le_of_not_lt fun hlt => ?_, hfence⟩
          -- within a fence none is opened
          have hopen := hthis.inside first (by omega) (by omega)
          rw [hfence.outside] at hopen
          cases hopen

end DeckPress.Component
