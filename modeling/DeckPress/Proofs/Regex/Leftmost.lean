import DeckPress.Proofs.Regex.Ends

/-!
# Leftmost matches

A text is read from the left. Where a match begins, the preferred one is taken, and reading goes on behind it, so
that matches do not overlap; where none begins, one character is passed over. An empty match right behind a match
does not count. Whatever the expression is, the pieces of a text are those that this gives.
-/

namespace DeckPress.Regex

/-- The length of the preferred match at a place of a text, if there is a match. -/
def lengthAt? (r : Regex) (s : List Char) (place : Nat) : Option Nat := (r.matchLengths s)[place]?.join

/-- What is left of a text is taken apart at its leftmost matches, by the length of the match at each place.
`atEnd` says whether a match ends in front of it. -/
inductive Leftmost (length? : Nat → Option Nat) : Nat → Bool → List Char → List Piece → Prop where
  | stop {place : Nat} {atEnd : Bool} (h : length? place = none ∨ atEnd = true) :
      Leftmost length? place atEnd [] []
  | kept {place : Nat} {atEnd : Bool} {c : Char} {s : List Char} {pieces : List Piece}
      (h : length? place = none ∨ length? place = some 0 ∧ atEnd = true)
      (later : Leftmost length? (place + 1) false s pieces) :
      Leftmost length? place atEnd (c :: s) (.kept c :: pieces)
  | found {place : Nat} {atEnd : Bool} {u s : List Char} {pieces : List Piece}
      (h : length? place = some u.length) (hempty : u = [] → atEnd = false)
      (later : Leftmost length? (place + u.length) true s pieces) :
      Leftmost length? place atEnd (u ++ s) (.found u :: pieces)

/-- A text taken apart at its leftmost matches. -/
def IsCut (r : Regex) (s : List Char) (pieces : List Piece) : Prop := Leftmost (r.lengthAt? s) 0 false s pieces

/-! ## Lengths of matches -/

/-- A match does not reach beyond the end of the text. -/
theorem lengthAt?_le {r : Regex} {s : List Char} {place n : Nat} (h : r.lengthAt? s place = some n) :
    place + n ≤ s.length := by
  have hmoved (before : Option Char) : ∀ place n,
      (r.moved (placesFrom before s)).2[place]? = some (some n) → place + n ≤ s.length := by
    clear h
    induction s generalizing before with
    | nil =>
      intro place n hn
      cases place with
      | zero =>
        obtain ⟨left, -, hleft⟩ := Option.map_eq_some_iff.mp (Option.some.inj hn)
        rw [List.length_nil, Nat.zero_sub] at hleft
        rw [← hleft]
        exact Nat.le_refl 0
      | succ place => cases hn
    | cons c s ih =>
      intro place n hn
      cases place with
      | zero =>
        obtain ⟨left, -, hleft⟩ := Option.map_eq_some_iff.mp (Option.some.inj hn)
        rw [Nat.zero_add, ← hleft]
        exact Nat.sub_le _ _
      | succ place =>
        have hlater := ih (some c) place n hn
        rw [List.length_cons]
        omega
  rw [lengthAt?, matchLengths_eq_moved, Option.join_eq_some_iff] at h
  exact hmoved none place n h

/-! ## The pieces of a text -/

/-- What is cut off behind a match goes on like a text that starts there. `n` is the number of characters that
still belong to the match. -/
theorem leftmost_cut {length? : Nat → Option Nat} {s : List Char} {lengths : List (Option Nat)} {place : Nat}
    (hlengths : lengths.length = s.length + 1) (hat : ∀ i, lengths[i]?.join = length? (place + i))
    (hle : ∀ i n, length? (place + i) = some n → i + n ≤ s.length) {n : Nat} (hn : n ≤ s.length) {atEnd : Bool}
    (hinside : n ≠ 0 → atEnd = true) :
    Leftmost length? (place + n) atEnd (s.drop n) (cut n atEnd s lengths) := by
  induction s generalizing place lengths n atEnd with
  | nil =>
    obtain ⟨l, rfl⟩ := List.length_eq_one_iff.mp hlengths
    obtain rfl := Nat.le_zero.mp hn
    have hl : l = length? place := hat 0
    cases l with
    | none =>
      have hcut : cut 0 atEnd [] [none] = [] := by cases atEnd <;> rfl
      rw [hcut]
      exact .stop (.inl hl.symm)
    | some m =>
      have hm := hle 0 m hl.symm
      rw [List.length_nil, Nat.zero_add, Nat.le_zero] at hm
      subst hm
      cases atEnd with
      | true => exact .stop (.inr rfl)
      | false => exact .found (u := []) hl.symm (fun _ => rfl) (.stop (.inr rfl))
  | cons c s ih =>
    cases lengths with
    | nil => cases hlengths
    | cons l lengths =>
      have hl : l = length? place := hat 0
      have hlater {n : Nat} (hn : n ≤ s.length) {atEnd : Bool} (hinside : n ≠ 0 → atEnd = true) :
          Leftmost length? (place + 1 + n) atEnd (s.drop n) (cut n atEnd s lengths) := by
        refine ih (Nat.succ.inj hlengths) (fun i => ?_) (fun i m hm => ?_) hn hinside
        · rw [Nat.add_assoc, Nat.add_comm 1 i]
          exact hat (i + 1)
        · have hreach := hle (i + 1) m (by rwa [Nat.add_comm i 1, ← Nat.add_assoc])
          rw [List.length_cons] at hreach
          omega
      cases n with
      | succ n =>
        obtain rfl := hinside (Nat.succ_ne_zero n)
        have hplace : place + (n + 1) = place + 1 + n := by omega
        rw [hplace]
        exact hlater (Nat.le_of_succ_le_succ hn) fun _ => rfl
      | zero =>
        have hnext : Leftmost length? (place + 1) false s (cut 0 false s lengths) :=
          hlater (Nat.zero_le _) fun h => absurd rfl h
        cases l with
        | none => exact .kept (.inl hl.symm) hnext
        | some m =>
          cases m with
          | zero =>
            cases atEnd with
            | true => exact .kept (.inr ⟨hl.symm, rfl⟩) hnext
            | false => exact .found (u := []) hl.symm (fun _ => rfl) (.kept (.inr ⟨hl.symm, rfl⟩) hnext)
          | succ m =>
            have hreach := hle 0 (m + 1) hl.symm
            rw [List.length_cons] at hreach
            have hm : m ≤ s.length := by omega
            have hu : (c :: s.take m).length = m + 1 := by
              rw [List.length_cons, List.length_take, Nat.min_eq_left hm]
            have hmatch : Leftmost length? place atEnd ((c :: s.take m) ++ s.drop m)
                (.found (c :: s.take m) :: cut m true s lengths) := by
              refine .found (by rw [hu, hl]) (fun h => absurd h (List.cons_ne_nil _ _)) ?_
              rw [hu, Nat.add_comm m 1, ← Nat.add_assoc]
              exact hlater hm fun _ => rfl
            rwa [List.cons_append, List.take_append_drop] at hmatch

/-- The pieces of a text are its leftmost matches and the characters between them. -/
theorem isCut_pieces (r : Regex) (s : List Char) : r.IsCut s (r.pieces s) := by
  refine leftmost_cut (r.length_matchLengths s) (fun i => ?_) (fun i n hn => ?_) (Nat.zero_le _) fun h => absurd rfl h
  · rw [Nat.zero_add, lengthAt?]
  · rw [Nat.zero_add] at hn
    exact lengthAt?_le hn

end DeckPress.Regex
