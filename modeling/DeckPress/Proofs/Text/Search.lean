import Mathlib.Data.List.TakeWhile
import DeckPress.Proofs.Text.Lines

/-!
# Searching in texts

What a search comes to, said without the search: the text is cut at an occurrence, and no other one starts
earlier. A text that has its first character only once cannot overlap with itself, so for such a text it is
enough that none is found in front of the cut. Pieces and words are said in the same way, by what stands around
them.
-/

namespace DeckPress.Text

/-! ## Beginnings and endings -/

theorem stripPrefix?_eq_none {p s : List Char} : stripPrefix? p s = none ↔ ¬ p <+: s := by
  rw [← Option.not_isSome_iff_eq_none, stripPrefix?_isSome]

theorem stripSuffix?_eq_some {ending s front : List Char} :
    stripSuffix? ending s = some front ↔ s = front ++ ending := by
  constructor
  · intro h
    obtain ⟨rest, hstrip, rfl⟩ := Option.map_eq_some_iff.mp h
    have hreverse := congrArg List.reverse (eq_append_of_stripPrefix? hstrip)
    simpa using hreverse
  · rintro rfl
    exact stripSuffix?_append ending front

/-! ## The first occurrence -/

theorem splitAt?_eq_none {needle s : List Char} : splitAt? needle s = none ↔ ¬ needle <:+: s := by
  rw [← containsText_iff, containsText, Option.not_isSome_iff_eq_none]

/-- A text is cut at the occurrence that starts first. -/
theorem splitAt?_eq_some {needle s before after : List Char} :
    splitAt? needle s = some (before, after) ↔
      s = before ++ (needle ++ after) ∧ ∀ p q, s = p ++ (needle ++ q) → before.length ≤ p.length := by
  induction s generalizing before with
  | nil =>
    rw [splitAt?]
    cases needle with
    | nil => cases before <;> cases after <;> simp [stripPrefix?]
    | cons x needle => simp [stripPrefix?]
  | cons c s ih =>
    rw [splitAt?]
    cases hstrip : stripPrefix? needle (c :: s) with
    | some rest =>
      have hwhole := eq_append_of_stripPrefix? hstrip
      constructor
      · rintro ⟨⟩
        exact ⟨hwhole, fun p q _ => Nat.zero_le _⟩
      · rintro ⟨heq, hfirst⟩
        -- there is one at the very start
        have hnil : before = [] := List.eq_nil_of_length_eq_zero (Nat.le_zero.mp (hfirst [] rest hwhole))
        rw [hnil, List.nil_append] at heq
        rw [hnil, List.append_cancel_left (hwhole.symm.trans heq)]
    | none =>
      have hnot : ¬ needle <+: c :: s := stripPrefix?_eq_none.mp hstrip
      dsimp only
      rw [Option.map_eq_some_iff]
      constructor
      · rintro ⟨⟨more, rest⟩, hsplit, heq⟩
        cases heq
        obtain ⟨hs, hfirst⟩ := ih.mp hsplit
        refine ⟨by rw [hs, List.cons_append], fun p q hpq => ?_⟩
        cases p with
        | nil => exact absurd ⟨q, hpq.symm⟩ hnot
        | cons y p => exact Nat.succ_le_succ (hfirst p q (List.cons.inj hpq).2)
      · rintro ⟨heq, hfirst⟩
        cases before with
        | nil => exact absurd ⟨after, heq.symm⟩ hnot
        | cons y more =>
          obtain ⟨rfl, hs⟩ := List.cons.inj heq
          refine ⟨(more, after), ih.mpr ⟨hs, fun p q hpq => ?_⟩, rfl⟩
          exact Nat.le_of_succ_le_succ (hfirst (c :: p) q (by rw [hpq, List.cons_append]))

/-- A single character is looked for behind any other. -/
theorem splitAt?_cons {x c : Char} (hc : c ≠ x) (s : List Char) :
    splitAt? [x] (c :: s) = (splitAt? [x] s).map fun found => (c :: found.1, found.2) := by
  rw [splitAt?, stripPrefix?, if_neg hc.symm]

theorem splitAt?_here (x : Char) (s : List Char) : splitAt? [x] (x :: s) = some ([], s) := by
  rw [splitAt?, stripPrefix?, if_pos rfl]
  rfl

/-- A text whose first character stands nowhere else in it is found behind a beginning without it. -/
theorem splitAt?_first {x : Char} {needle before : List Char} (hx : x ∉ needle)
    (hbefore : ¬ x :: needle <:+: before) (after : List Char) :
    splitAt? (x :: needle) (before ++ (x :: needle ++ after)) = some (before, after) := by
  induction before with
  | nil => rw [List.nil_append, List.cons_append, splitAt?, ← List.cons_append, stripPrefix?_append]
  | cons y before ih =>
    rw [List.infix_cons_iff, not_or] at hbefore
    obtain ⟨hhere, hlater⟩ := hbefore
    have hnot : ¬ x :: needle <+: y :: (before ++ (x :: needle ++ after)) := by
      intro hbegins
      obtain ⟨rfl, hrest⟩ := List.cons_prefix_cons.mp hbegins
      -- it would end in front of its own first character
      rw [List.cons_append] at hrest
      exact hhere (List.cons_prefix_cons.mpr ⟨rfl, (prefix_append_cons hx _ _).mp hrest⟩)
    rw [List.cons_append, splitAt?, stripPrefix?_eq_none.mpr hnot]
    dsimp only
    rw [ih hlater]
    rfl

/-! ## Texts that end with a sign of their own -/

/-- A character that stands only at the end of a text is found nowhere else in it. -/
theorem eq_nil_of_snoc_eq {x : Char} {m a b : List Char} (hx : x ∉ m) (h : m ++ [x] = a ++ x :: b) : b = [] := by
  by_cases hb : b = []
  · exact hb
  · have hfront := congrArg List.dropLast h
    rw [List.dropLast_concat, List.dropLast_append_of_ne_nil (List.cons_ne_nil x b),
      List.dropLast_cons_of_ne_nil hb] at hfront
    exact absurd (hfront ▸ List.mem_append_right a List.mem_cons_self) hx

/-- A text whose last character stands nowhere else in it is not cut where that character ends a part. -/
theorem infix_append_of_ends {x : Char} {m a b : List Char} (hx : x ∉ m) (ha : ∀ c ∈ a.getLast?, c = x)
    (h : m ++ [x] <:+: a ++ b) : m ++ [x] <:+: a ∨ m ++ [x] <:+: b := by
  obtain ⟨p, q, heq⟩ := h
  rcases List.append_eq_append_iff.mp heq with ⟨more, hmore, -⟩ | ⟨more, hmore, hb⟩
  · exact .inl ⟨p, more, hmore.symm⟩
  · rcases List.append_eq_append_iff.mp hmore with ⟨start, hp, hcut⟩ | ⟨start, hp, hcut⟩
    · cases hstart : start.getLast? with
      | none =>
        rw [List.getLast?_eq_none_iff.mp hstart, List.nil_append] at hcut
        exact .inr ⟨[], q, by rw [hb, hcut, List.nil_append]⟩
      | some c =>
        obtain ⟨s, rfl⟩ := List.getLast?_eq_some_iff.mp hstart
        have hc : c = x := ha c (by rw [hp, List.getLast?_append, hstart]; rfl)
        -- the end of the part is the end of what is found
        have hnone : more = [] := eq_nil_of_snoc_eq hx (by rw [hcut, hc, List.append_assoc]; rfl)
        rw [hnone, List.append_nil] at hcut
        exact .inl ⟨p, [], by rw [hcut, hp, List.append_nil]⟩
    · exact .inr ⟨start, q, by rw [hb, hcut]⟩

/-! ## Ends that are cut off -/

/-- What is cut off at the end of a text, and what it ends with then. -/
theorem exists_dropEndWhile (p : Char → Bool) (s : List Char) :
    ∃ rest, s = dropEndWhile p s ++ rest ∧ (∀ c ∈ rest, p c = true) ∧
      ∀ c ∈ (dropEndWhile p s).getLast?, p c = false := by
  have hwhole : s.reverse.takeWhile p ++ s.reverse.dropWhile p = s.reverse := List.takeWhile_append_dropWhile
  refine ⟨(s.reverse.takeWhile p).reverse, ?_, fun c hc => ?_, fun c hc => ?_⟩
  · rw [dropEndWhile, ← List.reverse_append, hwhole, List.reverse_reverse]
  · exact List.mem_takeWhile_imp (List.mem_reverse.mp hc)
  · rw [dropEndWhile, List.getLast?_reverse] at hc
    have hhead := List.head?_dropWhile_not p s.reverse
    rw [hc] at hhead
    simpa using hhead

theorem dropEndWhile_append {p : Char → Bool} {front rest : List Char} (hrest : ∀ c ∈ rest, p c = true)
    (hfront : ∀ c ∈ front.getLast?, p c = false) : dropEndWhile p (front ++ rest) = front := by
  have hstays : front.reverse.dropWhile p = front.reverse := by
    rw [List.getLast?_eq_head?_reverse] at hfront
    cases hreverse : front.reverse with
    | nil => rfl
    | cons c more =>
      rw [hreverse] at hfront
      exact List.dropWhile_cons_of_neg (by simp [hfront c rfl])
  have hdropped : rest.reverse.dropWhile p = [] :=
    List.dropWhile_eq_nil_iff.mpr fun c hc => hrest c (List.mem_reverse.mp hc)
  rw [dropEndWhile, List.reverse_append, List.dropWhile_append, hdropped]
  simp [hstays]

/-! ## Beginnings of one kind, and white space around a text -/

/-- What stands in front of a character of another kind is cut off by itself. -/
theorem dropWhile_append_cons {p : Char → Bool} {c : Char} (hc : p c = false) (a s : List Char) :
    (a ++ c :: s).dropWhile p = a.dropWhile p ++ c :: s := by
  rw [List.dropWhile_append]
  split
  · rename_i hempty
    rw [List.isEmpty_iff.mp hempty, List.nil_append, List.dropWhile_cons_of_neg (by simp [hc])]
  · rfl

/-- A beginning of one kind does not reach over a character of another. -/
theorem takeWhile_append_cons {p : Char → Bool} {c : Char} (hc : p c = false) (a s : List Char) :
    (a ++ c :: s).takeWhile p = a.takeWhile p := by
  rw [List.takeWhile_append]
  split
  · rename_i hall
    rw [List.takeWhile_cons_of_neg (by simp [hc]), List.append_nil]
    exact (List.takeWhile_prefix p).eq_of_length hall |>.symm
  · rfl

theorem head?_any_append_cons {p : Char → Bool} {c : Char} (hc : p c = false) (a s : List Char) :
    (a ++ c :: s).head?.any p = a.head?.any p := by
  cases a with
  | nil => exact hc
  | cons y a => rfl

/-- A text between two characters that are not white is not cut into. -/
theorem infix_trim {c d : Char} {s : List Char} (middle : List Char) (hc : isWhite c = false) (hd : isWhite d = false)
    (h : c :: (middle ++ [d]) <:+: s) : c :: (middle ++ [d]) <:+: trim s := by
  obtain ⟨a, b, rfl⟩ := h
  have hstart : trimStart (a ++ c :: (middle ++ [d]) ++ b) = a.dropWhile isWhite ++ c :: (middle ++ d :: b) := by
    rw [trimStart, List.append_assoc, List.cons_append, dropWhile_append_cons hc]
    simp
  have hend : trimEnd (a.dropWhile isWhite ++ c :: (middle ++ d :: b)) =
      a.dropWhile isWhite ++ c :: (middle ++ [d]) ++ dropEndWhile isWhite b := by
    have hreverse : (a.dropWhile isWhite ++ c :: (middle ++ d :: b)).reverse =
        b.reverse ++ d :: (a.dropWhile isWhite ++ c :: middle).reverse := by simp
    rw [trimEnd, dropEndWhile, hreverse, dropWhile_append_cons hd, dropEndWhile]
    simp
  rw [trim, hstart, hend]
  exact List.infix_append _ _ _

/-! ## Pieces and words -/

theorem exists_splitOn_append {p : Char → Bool} {piece b : List Char} (hpiece : ∀ c ∈ piece, p c = false)
    (hb : ∀ c ∈ b.head?, p c = true) : ∃ more, splitOn p (piece ++ b) = piece :: more := by
  cases b with
  | nil => exact ⟨[], by rw [List.append_nil, splitOn_of_not_mem hpiece]⟩
  | cons c b => exact ⟨splitOn p b, by rw [splitOn_append_cons (hb c rfl), splitOn_of_not_mem hpiece]; rfl⟩

/-- A piece stands between separators or at an end of the text, and has no separator. -/
theorem mem_splitOn {p : Char → Bool} {s piece : List Char} :
    piece ∈ splitOn p s ↔ ∃ a b, s = a ++ (piece ++ b) ∧ (∀ c ∈ a.getLast?, p c = true) ∧
      (∀ c ∈ b.head?, p c = true) ∧ ∀ c ∈ piece, p c = false := by
  constructor
  · intro h
    have hpiece : ∀ c ∈ piece, p c = false := fun c => not_mem_of_mem_splitOn h
    induction hlength : s.length using Nat.strong_induction_on generalizing s with
    | _ n ih =>
      subst hlength
      have hwhole : s.takeWhile (!p ·) ++ s.dropWhile (!p ·) = s := List.takeWhile_append_dropWhile
      have hfirst : ∀ c ∈ s.takeWhile (!p ·), p c = false := fun c hc => by
        simpa using List.mem_takeWhile_imp hc
      cases hrest : s.dropWhile (!p ·) with
      | nil =>
        rw [hrest, List.append_nil] at hwhole
        rw [← hwhole, splitOn_of_not_mem hfirst] at h
        cases List.mem_singleton.mp h
        exact ⟨[], [], by simp [hwhole], by simp, by simp, hfirst⟩
      | cons c rest =>
        have hc : p c = true := by
          have hhead := List.head?_dropWhile_not (!p ·) s
          rw [hrest] at hhead
          simpa using hhead
        rw [hrest] at hwhole
        rw [← hwhole, splitOn_append_cons hc, splitOn_of_not_mem hfirst] at h
        rcases List.mem_cons.mp h with hsame | h
        · refine ⟨[], c :: rest, ?_, by simp, ?_, hpiece⟩
          · rw [hsame, hwhole, List.nil_append]
          · rintro d ⟨⟩
            exact hc
        · have hshorter : rest.length < s.length := by
            rw [← hwhole, List.length_append, List.length_cons]
            omega
          obtain ⟨a, b, heq, ha, hb, -⟩ := ih _ hshorter h rfl
          refine ⟨s.takeWhile (!p ·) ++ c :: a, b, ?_, ?_, hb, hpiece⟩
          · refine hwhole.symm.trans ?_
            rw [heq]
            simp
          · intro d hd
            rw [List.getLast?_append, List.getLast?_cons] at hd
            cases hlast : a.getLast? with
            | none =>
              rw [hlast] at hd
              cases hd
              exact hc
            | some x =>
              rw [hlast] at hd
              cases hd
              exact ha _ hlast
  · rintro ⟨a, b, rfl, ha, hb, hpiece⟩
    obtain ⟨more, hmore⟩ := exists_splitOn_append hpiece hb
    cases hlast : a.getLast? with
    | none =>
      rw [List.getLast?_eq_none_iff.mp hlast, List.nil_append, hmore]
      exact List.mem_cons_self
    | some c =>
      obtain ⟨front, rfl⟩ := List.getLast?_eq_some_iff.mp hlast
      rw [List.append_assoc, List.singleton_append, splitOn_append_cons (ha c hlast), hmore]
      exact List.mem_append_right _ List.mem_cons_self

theorem words_append {a : List Char} (ha : ∀ c ∈ a.getLast?, isWhite c = true) (b : List Char) :
    words (a ++ b) = words a ++ words b := by
  cases hlast : a.getLast? with
  | none =>
    rw [List.getLast?_eq_none_iff.mp hlast]
    rfl
  | some c =>
    obtain ⟨front, rfl⟩ := List.getLast?_eq_some_iff.mp hlast
    have hc := ha c hlast
    unfold words
    rw [List.append_assoc, List.singleton_append, splitOn_append_cons hc, splitOn_append_cons hc,
      List.filter_append, List.filter_append]
    simp [splitOn]

theorem words_white {s : List Char} (h : ∀ c ∈ s, isWhite c = true) : words s = [] := by
  induction s with
  | nil => rfl
  | cons c s ih =>
    obtain ⟨hc, hs⟩ := List.forall_mem_cons.mp h
    rw [← List.singleton_append, words_append (by simpa using hc), ih hs]
    unfold words
    rw [splitOn, if_pos hc]
    rfl

/-- A word with white space behind it. -/
theorem words_word {n b : List Char} (hsome : n ≠ []) (hn : ∀ c ∈ n, isWhite c = false)
    (hb : ∀ c ∈ b, isWhite c = true) : words (n ++ b) = [n] := by
  have hone : words n = [n] := by
    unfold words
    rw [splitOn_of_not_mem hn, List.filter_cons_of_pos (by simpa using hsome)]
    rfl
  cases b with
  | nil => rw [List.append_nil, hone]
  | cons c b =>
    obtain ⟨hc, hb⟩ := List.forall_mem_cons.mp hb
    have hcut : words (n ++ c :: b) = words n ++ words b := by
      unfold words
      rw [splitOn_append_cons hc, List.filter_append]
    rw [hcut, hone, words_white hb, List.append_nil]

/-- The last word stands behind white space or at the start, and only white space follows. -/
theorem getLast?_words {s n : List Char} :
    (words s).getLast? = some n ↔ ∃ a b, s = a ++ (n ++ b) ∧ (∀ c ∈ a.getLast?, isWhite c = true) ∧
      (∀ c ∈ b, isWhite c = true) ∧ n ≠ [] ∧ ∀ c ∈ n, isWhite c = false := by
  have hlast {a n b : List Char} (ha : ∀ c ∈ a.getLast?, isWhite c = true) (hb : ∀ c ∈ b, isWhite c = true)
      (hsome : n ≠ []) (hn : ∀ c ∈ n, isWhite c = false) : (words (a ++ (n ++ b))).getLast? = some n := by
    rw [words_append ha, words_word hsome hn hb, List.getLast?_concat]
  constructor
  · intro h
    obtain ⟨b, hs, hb, hend⟩ := exists_dropEndWhile isWhite s
    obtain ⟨m, ht, hm, ha⟩ := exists_dropEndWhile (!isWhite ·) (dropEndWhile isWhite s)
    generalize dropEndWhile (!isWhite ·) (dropEndWhile isWhite s) = a at ht ha
    have ha' : ∀ c ∈ a.getLast?, isWhite c = true := fun c hc => by simpa using ha c hc
    have hm' : ∀ c ∈ m, isWhite c = false := fun c hc => by simpa using hm c hc
    rw [ht, List.append_assoc] at hs
    by_cases hsome : m = []
    · -- without a last word there is none at all
      rw [hsome, List.append_nil] at ht
      have hnone : a.getLast? = none := by
        cases hlast : a.getLast? with
        | none => rfl
        | some c =>
          have hblank := hend c (by rw [ht, hlast]; rfl)
          rw [ha' c hlast] at hblank
          cases hblank
      rw [List.getLast?_eq_none_iff.mp hnone, hsome, List.nil_append, List.nil_append] at hs
      rw [hs, words_white hb] at h
      cases h
    · have hfound := hlast ha' hb hsome hm'
      rw [← hs, h] at hfound
      cases hfound
      exact ⟨a, b, hs, ha', hb, hsome, hm'⟩
  · rintro ⟨a, b, rfl, ha, hb, hsome, hn⟩
    exact hlast ha hb hsome hn

/-- A text without a character stands on one side of it. -/
theorem cut_of_not_mem {x : Char} {m : List Char} (hx : x ∉ m) {a b u w : List Char}
    (h : a ++ x :: b = u ++ (m ++ w)) :
    (∃ u', u = a ++ x :: u' ∧ b = u' ++ (m ++ w)) ∨ ∃ w', w = w' ++ x :: b ∧ a = u ++ (m ++ w') := by
  -- in the text itself the character cannot be
  have hbehind {c : List Char} (hc : m ++ w = c ++ x :: b) : ∃ w', w = w' ++ x :: b ∧ c = m ++ w' := by
    rcases List.append_eq_append_iff.mp hc with ⟨d, hd, hw⟩ | ⟨d, hd, hw⟩
    · exact ⟨d, hw, hd⟩
    · cases d with
      | nil => exact ⟨[], hw.symm, by simpa using hd.symm⟩
      | cons y d =>
        obtain ⟨rfl, -⟩ := List.cons.inj hw
        exact absurd (hd ▸ List.mem_append_right c List.mem_cons_self) hx
  rcases List.append_eq_append_iff.mp h with ⟨c, hu, hc⟩ | ⟨c, ha, hc⟩
  · cases c with
    | nil =>
      obtain ⟨w', hw, hnone⟩ := hbehind (c := []) hc.symm
      refine .inr ⟨w', hw, ?_⟩
      rw [hu, ← hnone]
      simp
    | cons y c =>
      obtain ⟨rfl, hb⟩ := List.cons.inj hc
      exact .inl ⟨c, hu, hb⟩
  · obtain ⟨w', hw, hc⟩ := hbehind hc
    exact .inr ⟨w', hw, by rw [ha, hc]⟩

end DeckPress.Text
