import DeckPress.Text.Basic

/-!
# Lines and texts

A text is cut into lines, and lines are put together to a text again. A text whose lines all have their
ends gives back those lines, provided that none of them holds an end of its own: no line feed, and no
carriage return in the last place, which would be taken for a part of the end. And a text is found in
another: at its beginning, or anywhere.
-/

namespace DeckPress.Text

/-- Lines with their ends. -/
def endedLines (ls : List (List Char)) : List Char := ls.flatMap (· ++ ['\n'])

/-- A line that is cut out of its text just as it is. -/
structure IsLine (l : List Char) : Prop where
  noFeed : '\n' ∉ l
  noReturn : l.getLast? ≠ some '\r'

@[simp] theorem endedLines_nil : endedLines [] = [] := rfl

@[simp] theorem endedLines_cons (l : List Char) (ls : List (List Char)) :
    endedLines (l :: ls) = l ++ '\n' :: endedLines ls := by
  simp [endedLines]

@[simp] theorem endedLines_append (ls ms : List (List Char)) :
    endedLines (ls ++ ms) = endedLines ls ++ endedLines ms := List.flatMap_append

theorem endedLines_eq_nil {ls : List (List Char)} : endedLines ls = [] ↔ ls = [] := by
  cases ls <;> simp

/-- Lines put together lack the end of the last one. -/
theorem joinLines_end {ls : List (List Char)} (h : ls ≠ []) :
    joinLines ls ++ ['\n'] = endedLines ls := by
  induction ls with
  | nil => contradiction
  | cons l ls ih =>
    cases ls with
    | nil => simp [joinLines, joinWith]
    | cons m ms =>
      have hrest := ih (List.cons_ne_nil m ms)
      show (l ++ ['\n'] ++ joinLines (m :: ms)) ++ ['\n'] = _
      rw [List.append_assoc, hrest, endedLines_cons l, List.append_assoc]
      rfl

theorem joinLines_eq_nil {ls : List (List Char)} : joinLines ls = [] ↔ ls = [] ∨ ls = [[]] := by
  cases ls with
  | nil => simp [joinLines, joinWith]
  | cons l ls => cases ls <;> simp [joinLines, joinWith]

/-- What stands in one of the lines stands in the text. -/
theorem mem_joinLines {c : Char} {l : List Char} {ls : List (List Char)} (hl : l ∈ ls) (hc : c ∈ l) :
    c ∈ joinLines ls := by
  induction ls with
  | nil => cases hl
  | cons m ms ih =>
    cases ms with
    | nil =>
      cases List.mem_singleton.mp hl
      exact hc
    | cons n ns =>
      show c ∈ m ++ ['\n'] ++ joinLines (n :: ns)
      rcases List.mem_cons.mp hl with rfl | hl
      · exact List.mem_append_left _ (List.mem_append_left _ hc)
      · exact List.mem_append_right _ (ih hl)

theorem exists_of_mem_joinLines {c : Char} {ls : List (List Char)} (h : c ∈ joinLines ls) :
    c = '\n' ∨ ∃ l ∈ ls, c ∈ l := by
  induction ls with
  | nil => cases h
  | cons l ls ih =>
    cases ls with
    | nil => exact .inr ⟨l, List.mem_cons_self, h⟩
    | cons m ms =>
      change c ∈ l ++ ['\n'] ++ joinLines (m :: ms) at h
      rcases List.mem_append.mp h with h | h
      · rcases List.mem_append.mp h with h | h
        · exact .inr ⟨l, List.mem_cons_self, h⟩
        · exact .inl (List.mem_singleton.mp h)
      · refine (ih h).imp_right ?_
        rintro ⟨n, hn, hc⟩
        exact ⟨n, List.mem_cons_of_mem l hn, hc⟩

/-! ## Cutting into lines -/

/-- A character that does not start the end of a line belongs to the line. -/
theorem lines_cons {c : Char} {cs : List Char} (hfeed : c ≠ '\n')
    (hreturn : ¬ (c = '\r' ∧ cs.head? = some '\n')) : lines (c :: cs) = consLine c (lines cs) := by
  rw [lines.eq_def]
  split <;> simp_all

/-- A line in front of a text, with its end between them. -/
theorem lines_line {l : List Char} (h : IsLine l) (rest : List Char) :
    lines (l ++ '\n' :: rest) = l :: lines rest := by
  induction l with
  | nil => rfl
  | cons c cs ih =>
    have hcs : IsLine cs := by
      refine ⟨fun hm => h.noFeed (List.mem_cons_of_mem c hm), fun hlast => h.noReturn ?_⟩
      rw [List.getLast?_cons, hlast]
      rfl
    have hfeed : c ≠ '\n' := fun hc => h.noFeed (hc ▸ List.mem_cons_self)
    rw [List.cons_append, lines_cons hfeed, ih hcs]
    · rfl
    · rintro ⟨rfl, hhead⟩
      cases cs with
      | nil => exact h.noReturn rfl
      | cons x xs =>
        cases hhead
        exact hcs.noFeed List.mem_cons_self

/-- Lines with their ends are read back. -/
theorem lines_endedLines {ls : List (List Char)} (h : ∀ l ∈ ls, IsLine l) :
    lines (endedLines ls) = ls := by
  induction ls with
  | nil => rfl
  | cons l ls ih =>
    rw [endedLines_cons, lines_line (h l List.mem_cons_self),
      ih fun m hm => h m (List.mem_cons_of_mem l hm)]

theorem mem_consLine {c : Char} {l : List Char} {ls : List (List Char)} (h : l ∈ consLine c ls) :
    l ∈ ls ∨ l = [c] ∨ ∃ m ∈ ls, l = c :: m := by
  cases ls with
  | nil => exact .inr (.inl (List.mem_singleton.mp h))
  | cons m ms =>
    rcases List.mem_cons.mp h with rfl | h
    · exact .inr (.inr ⟨m, List.mem_cons_self, rfl⟩)
    · exact .inl (List.mem_cons_of_mem m h)

/-- No line of a text holds a line feed. -/
theorem noFeed_of_mem_lines {cs : List Char} : ∀ l ∈ lines cs, '\n' ∉ l := by
  induction cs using lines.induct with
  | case1 => intro l hl; cases hl
  | case2 cs ih | case3 cs ih =>
    intro l hl
    rw [lines] at hl
    rcases List.mem_cons.mp hl with rfl | hl
    · exact List.not_mem_nil
    · exact ih l hl
  | case4 c cs hfeed hreturn ih =>
    intro l hl hm
    rw [lines_cons hfeed (by rintro ⟨rfl, hhead⟩; cases cs <;> simp_all)] at hl
    rcases mem_consLine hl with hl | rfl | ⟨m, hm', rfl⟩
    · exact ih l hl hm
    · exact hfeed (List.mem_singleton.mp hm).symm
    · rcases List.mem_cons.mp hm with hc | hm
      · exact hfeed hc.symm
      · exact ih m hm' hm

/-! ## Lines with carriage returns -/

theorem splitOn_ne_nil (p : Char → Bool) (s : List Char) : splitOn p s ≠ [] := by
  cases s with
  | nil => exact List.cons_ne_nil _ _
  | cons c s =>
    rw [splitOn]
    split
    · exact List.cons_ne_nil _ _
    · split <;> exact List.cons_ne_nil _ _

/-- No separator is left in a piece. -/
theorem not_mem_of_mem_splitOn {p : Char → Bool} {s piece : List Char} (h : piece ∈ splitOn p s) {c : Char}
    (hc : c ∈ piece) : p c = false := by
  induction s generalizing piece with
  | nil =>
    cases List.mem_singleton.mp h
    cases hc
  | cons x s ih =>
    rw [splitOn] at h
    split at h
    · rcases List.mem_cons.mp h with rfl | h
      · cases hc
      · exact ih h hc
    · rename_i hx
      obtain ⟨w, ws, hcut⟩ := List.exists_cons_of_ne_nil (splitOn_ne_nil p s)
      rw [hcut] at h ih
      rcases List.mem_cons.mp h with rfl | h
      · rcases List.mem_cons.mp hc with rfl | hc
        · exact Bool.eq_false_iff.mpr hx
        · exact ih List.mem_cons_self hc
      · exact ih (List.mem_cons_of_mem w h) hc

theorem splitOn_of_not_mem {p : Char → Bool} {s : List Char} (h : ∀ c ∈ s, p c = false) :
    splitOn p s = [s] := by
  induction s with
  | nil => rfl
  | cons c s ih =>
    obtain ⟨hc, hs⟩ := List.forall_mem_cons.mp h
    rw [splitOn, hc, ih hs]
    rfl

theorem splitOn_char_of_not_mem {x : Char} {s : List Char} (h : x ∉ s) : splitOn (· = x) s = [s] := by
  refine splitOn_of_not_mem fun c hc => decide_eq_false ?_
  rintro rfl
  exact h hc

/-- A separator keeps the pieces in front of it and those behind it apart. -/
theorem splitOn_append_cons {p : Char → Bool} {c : Char} (hc : p c) (a b : List Char) :
    splitOn p (a ++ c :: b) = splitOn p a ++ splitOn p b := by
  induction a with
  | nil =>
    show splitOn p (c :: b) = [] :: splitOn p b
    rw [splitOn, if_pos hc]
  | cons x a ih =>
    obtain ⟨w, ws, hcut⟩ := List.exists_cons_of_ne_nil (splitOn_ne_nil p a)
    rw [List.cons_append, splitOn, splitOn, ih, hcut]
    split
    · rfl
    · rfl

theorem splitOn_eq_splitOnP (p : Char → Bool) (s : List Char) : splitOn p s = s.splitOnP p := by
  induction s with
  | nil => rfl
  | cons c s ih =>
    rw [splitOn, List.splitOnP_cons_eq_if_modifyHead, ih]
    split
    · rfl
    · obtain ⟨w, ws, hcut⟩ := List.exists_cons_of_ne_nil (splitOn_ne_nil p s)
      rw [← ih, hcut]
      rfl

theorem joinLines_eq_intercalate (ls : List (List Char)) : joinLines ls = List.intercalate ['\n'] ls := by
  induction ls with
  | nil => rfl
  | cons l ls ih =>
    cases ls with
    | nil => exact List.intercalate_singleton.symm
    | cons m ms =>
      rw [List.intercalate_cons_cons, ← ih]
      rfl

theorem splitOn_eq_splitOn (s : List Char) : splitOn (· = '\n') s = s.splitOn '\n' :=
  splitOn_eq_splitOnP _ s

/-- The lines between line feeds make up the text. -/
theorem joinLines_splitOn (s : List Char) : joinLines (splitOn (· = '\n') s) = s := by
  rw [joinLines_eq_intercalate, splitOn_eq_splitOn]
  exact List.intercalate_splitOn '\n'

theorem splitOn_joinLines {ls : List (List Char)} (h : ∀ l ∈ ls, '\n' ∉ l) (hsome : ls ≠ []) :
    splitOn (· = '\n') (joinLines ls) = ls := by
  rw [joinLines_eq_intercalate, splitOn_eq_splitOn]
  exact List.splitOn_intercalate '\n' h hsome

theorem splitOn_snoc (s : List Char) :
    splitOn (· = '\n') (s ++ ['\n']) = splitOn (· = '\n') s ++ [[]] := splitOn_append_cons (by decide) s []

theorem splitOn_endedLines {ls : List (List Char)} (h : ∀ l ∈ ls, '\n' ∉ l) :
    splitOn (· = '\n') (endedLines ls) = ls ++ [[]] := by
  cases ls with
  | nil => rfl
  | cons l ls =>
    rw [← joinLines_end (List.cons_ne_nil l ls), splitOn_snoc, splitOn_joinLines h (List.cons_ne_nil l ls)]

/-- A line without the carriage return at its end. -/
def dropReturn (l : List Char) : List Char := if l.getLast? = some '\r' then l.dropLast else l

/-- Lines between line feeds without the rest of their ends. The last one has no end, and does not count if
it is empty. -/
def cutEnds : List (List Char) → List (List Char)
  | [] => []
  | [l] => if l = [] then [] else [l]
  | l :: m :: ls => dropReturn l :: cutEnds (m :: ls)

theorem dropReturn_cons {c : Char} {l : List Char} (h : c = '\r' → l ≠ []) :
    dropReturn (c :: l) = c :: dropReturn l := by
  unfold dropReturn
  cases l with
  | nil =>
    have hc : c ≠ '\r' := fun hc => h hc rfl
    simp [hc]
  | cons x l =>
    rw [List.getLast?_cons_cons]
    split <;> rfl

/-- A character in front belongs to the first line, unless it is the carriage return of an empty one. -/
theorem cutEnds_cons {c : Char} {w : List Char} {ws : List (List Char)}
    (h : c = '\r' → w ≠ [] ∨ ws = []) : cutEnds ((c :: w) :: ws) = consLine c (cutEnds (w :: ws)) := by
  cases ws with
  | nil =>
    show [c :: w] = consLine c (if w = [] then [] else [w])
    split
    · rename_i hw
      rw [hw]
      rfl
    · rfl
  | cons m ms =>
    have hline : c = '\r' → w ≠ [] := fun hc => (h hc).resolve_right (List.cons_ne_nil m ms)
    show dropReturn (c :: w) :: cutEnds (m :: ms) = (c :: dropReturn w) :: cutEnds (m :: ms)
    rw [dropReturn_cons hline]

theorem lines_eq_cutEnds (s : List Char) : lines s = cutEnds (splitOn (· = '\n') s) := by
  induction s using lines.induct with
  | case1 => rfl
  | case2 cs ih =>
    obtain ⟨w, ws, hcut⟩ := List.exists_cons_of_ne_nil (splitOn_ne_nil (· = '\n') cs)
    rw [lines, ih, splitOn, if_pos (by decide), hcut]
    rfl
  | case3 cs ih =>
    obtain ⟨w, ws, hcut⟩ := List.exists_cons_of_ne_nil (splitOn_ne_nil (· = '\n') cs)
    rw [lines, ih, splitOn, if_neg (by decide), splitOn, if_pos (by decide), hcut]
    rfl
  | case4 c cs hfeed hreturn ih =>
    have hreturn' : ¬ (c = '\r' ∧ cs.head? = some '\n') := by
      rintro ⟨rfl, hhead⟩
      obtain ⟨rest, rfl⟩ := List.head?_eq_some_iff.mp hhead
      exact hreturn rest rfl rfl
    obtain ⟨w, ws, hcut⟩ := List.exists_cons_of_ne_nil (splitOn_ne_nil (· = '\n') cs)
    have hline : c = '\r' → w ≠ [] ∨ ws = [] := by
      intro hc
      cases ws with
      | nil => exact .inr rfl
      | cons m ms =>
        left
        rintro rfl
        -- what follows would start with a line feed
        have hjoin := joinLines_splitOn cs
        rw [hcut] at hjoin
        exact hreturn' ⟨hc, by rw [← hjoin]; rfl⟩
    rw [lines_cons hfeed hreturn', ih, splitOn, if_neg (by simpa using hfeed), hcut]
    exact (cutEnds_cons hline).symm

/-- Lines that others follow all have their ends. -/
theorem cutEnds_append {ws : List (List Char)} (h : ws ≠ []) (vs : List (List Char)) :
    cutEnds (vs ++ ws) = vs.map dropReturn ++ cutEnds ws := by
  induction vs with
  | nil => rfl
  | cons v vs ih =>
    obtain ⟨m, ms, hmore⟩ := List.exists_cons_of_ne_nil (List.append_ne_nil_of_right_ne_nil vs h)
    rw [List.cons_append, hmore, cutEnds, ← hmore, ih, List.map_cons, List.cons_append]

/-- Lines with their ends are read back without the carriage returns that end them. -/
theorem lines_endedLines_of_noFeed {ls : List (List Char)} (h : ∀ l ∈ ls, '\n' ∉ l) :
    lines (endedLines ls) = ls.map dropReturn := by
  have hlast : cutEnds [[]] = [] := if_pos rfl
  rw [lines_eq_cutEnds, splitOn_endedLines h, cutEnds_append (List.cons_ne_nil [] []), hlast, List.append_nil]

/-- What stands behind a line feed is cut into lines by itself. -/
theorem lines_behind (a b : List Char) :
    lines (a ++ '\n' :: b) = (splitOn (· = '\n') a).map dropReturn ++ lines b := by
  rw [lines_eq_cutEnds, lines_eq_cutEnds b, splitOn_append_cons (by decide),
    cutEnds_append (splitOn_ne_nil _ b)]

/-! ## Lines put together again -/

theorem joinLines_snoc (init : List (List Char)) (last : List Char) :
    joinLines (init ++ [last]) = endedLines init ++ last := by
  induction init with
  | nil => rfl
  | cons l init ih =>
    obtain ⟨m, ms, hmore⟩ := List.exists_cons_of_ne_nil
      (List.append_ne_nil_of_right_ne_nil init (List.cons_ne_nil last []))
    rw [List.cons_append, hmore, endedLines_cons]
    show l ++ ['\n'] ++ joinLines (m :: ms) = _
    rw [← hmore, ih]
    simp

/-- A text is made of lines with their ends and of a last one without, which may be empty. -/
theorem exists_endedLines_append (s : List Char) :
    ∃ init last, s = endedLines init ++ last ∧ (∀ l ∈ init, '\n' ∉ l) ∧ '\n' ∉ last := by
  have hfeed : ∀ l ∈ splitOn (· = '\n') s, '\n' ∉ l := fun l hl hc => by
    simpa using not_mem_of_mem_splitOn hl hc
  have hsome := splitOn_ne_nil (· = '\n') s
  refine ⟨(splitOn (· = '\n') s).dropLast, (splitOn (· = '\n') s).getLast hsome, ?_,
    fun l hl => hfeed l (List.dropLast_subset _ hl), hfeed _ (List.getLast_mem hsome)⟩
  rw [← joinLines_snoc, List.dropLast_concat_getLast, joinLines_splitOn]

variable {init : List (List Char)} {last : List Char}

theorem splitOn_endedLines_append (hinit : ∀ l ∈ init, '\n' ∉ l) (hlast : '\n' ∉ last) :
    splitOn (· = '\n') (endedLines init ++ last) = init ++ [last] := by
  rw [← joinLines_snoc, splitOn_joinLines _ (List.append_ne_nil_of_right_ne_nil init (List.cons_ne_nil last []))]
  intro l hl
  rcases List.mem_append.mp hl with hl | hl
  · exact hinit l hl
  · cases List.mem_singleton.mp hl
    exact hlast

theorem lines_endedLines_append (hinit : ∀ l ∈ init, '\n' ∉ l) (hlast : '\n' ∉ last) :
    lines (endedLines init ++ last) = init.map dropReturn ++ if last = [] then [] else [last] := by
  rw [lines_eq_cutEnds, splitOn_endedLines_append hinit hlast, cutEnds_append (List.cons_ne_nil last [])]
  rfl

theorem dropReturn_subset (l : List Char) : dropReturn l ⊆ l := by
  unfold dropReturn
  split
  · exact List.dropLast_subset l
  · exact List.Subset.refl l

theorem dropReturn_eq_self {l : List Char} : dropReturn l = l ↔ l.getLast? ≠ some '\r' := by
  unfold dropReturn
  split
  · rename_i hreturn
    have hlength : l.dropLast ≠ l := by
      intro hsame
      have hlt := congrArg List.length hsame
      cases l with
      | nil => cases hreturn
      | cons x l => simp at hlt
    simp [hlength, hreturn]
  · rename_i hreturn
    simp [hreturn]

/-- A line has no second carriage return to lose, unless it ends with two. -/
theorem dropReturn_dropReturn_eq {l : List Char} :
    dropReturn (dropReturn l) = dropReturn l ↔ ¬ ['\r', '\r'] <:+ l := by
  rw [dropReturn_eq_self]
  refine not_congr ?_
  unfold dropReturn
  split
  · rename_i hreturn
    obtain ⟨m, rfl⟩ := List.getLast?_eq_some_iff.mp hreturn
    rw [List.dropLast_concat, List.getLast?_eq_some_iff]
    constructor
    · rintro ⟨n, rfl⟩
      exact ⟨n, by simp⟩
    · rintro ⟨n, hn⟩
      refine ⟨n, ?_⟩
      have hwhole : n ++ ['\r'] ++ ['\r'] = m ++ ['\r'] := by simpa using hn
      exact (List.append_cancel_right hwhole).symm
  · rename_i hreturn
    refine iff_of_false hreturn ?_
    rintro ⟨n, rfl⟩
    exact hreturn (by simp)

/-- A line that begins a text ends with the first line feed. -/
theorem ended_prefix_iff {l m : List Char} (hl : '\n' ∉ l) (hm : '\n' ∉ m) (rest : List Char) :
    m ++ ['\n'] <+: l ++ '\n' :: rest ↔ m = l := by
  induction m generalizing l with
  | nil =>
    cases l with
    | nil => simp
    | cons y l =>
      have hy : y ≠ '\n' := (List.ne_of_not_mem_cons hl).symm
      simp [List.cons_prefix_cons, hy.symm]
  | cons x m ih =>
    have hx : x ≠ '\n' := (List.ne_of_not_mem_cons hm).symm
    cases l with
    | nil => simp [List.cons_prefix_cons, hx]
    | cons y l =>
      rw [List.cons_append, List.cons_append, List.cons_prefix_cons,
        ih (List.not_mem_of_not_mem_cons hl) (List.not_mem_of_not_mem_cons hm), List.cons.injEq]

/-- What ends with a line feed, and has no other, stands at the end of one line. -/
theorem ended_infix_iff {needle : List Char} (hneedle : '\n' ∉ needle) {l : List Char} (hl : '\n' ∉ l)
    (rest : List Char) :
    needle ++ ['\n'] <:+: l ++ '\n' :: rest ↔ needle <:+ l ∨ needle ++ ['\n'] <:+: rest := by
  induction l with
  | nil =>
    have hbegins := ended_prefix_iff hl hneedle rest
    rw [List.nil_append] at hbegins ⊢
    rw [List.infix_cons_iff, hbegins, List.suffix_nil]
  | cons y l ih =>
    have hbegins := ended_prefix_iff hl hneedle rest
    rw [List.cons_append] at hbegins ⊢
    rw [List.infix_cons_iff, hbegins, ih (List.not_mem_of_not_mem_cons hl), List.suffix_cons_iff, or_assoc]

theorem ended_infix_endedLines_append {needle : List Char} (hneedle : '\n' ∉ needle)
    (hinit : ∀ l ∈ init, '\n' ∉ l) (hlast : '\n' ∉ last) :
    needle ++ ['\n'] <:+: endedLines init ++ last ↔ ∃ l ∈ init, needle <:+ l := by
  induction init with
  | nil =>
    refine iff_of_false (fun h => hlast (h.subset (by simp))) (by simp)
  | cons l init ih =>
    obtain ⟨hl, hinit⟩ := List.forall_mem_cons.mp hinit
    rw [endedLines_cons, List.append_assoc, List.cons_append, ended_infix_iff hneedle hl, ih hinit]
    simp only [List.mem_cons, exists_eq_or_imp]

/-- A text that is cut into lines and put together again has the same lines, unless one of them loses a second
carriage return. -/
theorem lines_rejoined {s : List Char} (hs : s ≠ []) :
    lines (joinLines (lines s) ++ if s.getLast? = some '\n' then ['\n'] else []) = lines s ↔
      ¬ ['\r', '\r', '\n'] <:+: s := by
  obtain ⟨init, last, rfl, hinit, hlast⟩ := exists_endedLines_append s
  have hcut : ∀ l ∈ init.map dropReturn, '\n' ∉ l := by
    intro l hl hc
    obtain ⟨m, hm, rfl⟩ := List.mem_map.mp hl
    exact hinit m hm (dropReturn_subset m hc)
  have hrejoined : (joinLines (lines (endedLines init ++ last)) ++
      if (endedLines init ++ last).getLast? = some '\n' then ['\n'] else []) =
      endedLines (init.map dropReturn) ++ last := by
    rw [lines_endedLines_append hinit hlast]
    cases last with
    | nil =>
      have hsome : init ≠ [] := by
        rintro rfl
        exact hs rfl
      have hend : (endedLines init).getLast? = some '\n' := by
        rw [← joinLines_end hsome, List.getLast?_append]
        rfl
      rw [if_pos rfl, List.append_nil, List.append_nil, if_pos hend,
        joinLines_end (by simpa using hsome), List.append_nil]
    | cons c last =>
      have hend : (endedLines init ++ c :: last).getLast? ≠ some '\n' := by
        rw [List.getLast?_append, List.getLast?_cons, Option.some_or]
        intro hfeed
        exact hlast (List.mem_of_getLast? (List.getLast?_cons.trans hfeed))
      rw [if_neg (List.cons_ne_nil c last), joinLines_snoc, if_neg hend, List.append_nil]
  rw [hrejoined, lines_endedLines_append hcut hlast, lines_endedLines_append hinit hlast,
    List.append_cancel_right_eq, List.map_map]
  have hneedle : '\n' ∉ ['\r', '\r'] := by decide
  have hreturns : ['\r', '\r', '\n'] <:+: endedLines init ++ last ↔ ∃ l ∈ init, ['\r', '\r'] <:+ l :=
    ended_infix_endedLines_append hneedle hinit hlast
  rw [hreturns, List.map_inj_left]
  constructor
  · rintro hsame ⟨l, hl, hends⟩
    exact dropReturn_dropReturn_eq.mp (hsame l hl) hends
  · exact fun hnone l hl => dropReturn_dropReturn_eq.mpr fun hends => hnone ⟨l, hl, hends⟩

theorem mem_dropReturn {c : Char} {l : List Char} (hc : c ∈ l) (hreturn : c ≠ '\r') : c ∈ dropReturn l := by
  unfold dropReturn
  split
  · rename_i hlast
    obtain ⟨m, rfl⟩ := List.getLast?_eq_some_iff.mp hlast
    rw [List.dropLast_concat]
    exact (List.mem_append.mp hc).resolve_right fun h => hreturn (List.mem_singleton.mp h)
  · exact hc

/-- A character of a text is in one of its lines, unless it ends one. -/
theorem exists_line_of_mem {c : Char} {s : List Char} (hc : c ∈ s) (hfeed : c ≠ '\n') (hreturn : c ≠ '\r') :
    ∃ l ∈ lines s, c ∈ l := by
  obtain ⟨init, last, rfl, hinit, hlast⟩ := exists_endedLines_append s
  rw [lines_endedLines_append hinit hlast]
  rcases List.mem_append.mp hc with hc | hc
  · obtain ⟨l, hl, hcl⟩ := List.mem_flatMap.mp hc
    have hcl : c ∈ l := (List.mem_append.mp hcl).resolve_right fun h => hfeed (List.mem_singleton.mp h)
    exact ⟨dropReturn l, List.mem_append_left _ (List.mem_map_of_mem hl), mem_dropReturn hcl hreturn⟩
  · rw [if_neg (List.ne_nil_of_mem hc)]
    exact ⟨last, List.mem_append_right _ (List.mem_singleton_self last), hc⟩

/-- Lines that are put together do not become many more. -/
theorem length_lines_rejoined_le {ls : List (List Char)} (hls : ∀ l ∈ ls, '\n' ∉ l) {ending : List Char}
    (hending : ending = [] ∨ ending = ['\n']) : (lines (joinLines ls ++ ending)).length ≤ ls.length + 1 := by
  by_cases hnone : ls = []
  · subst hnone
    rcases hending with rfl | rfl <;> decide
  · obtain ⟨init, last, rfl⟩ : ∃ init last, ls = init ++ [last] :=
      ⟨_, _, (List.dropLast_concat_getLast hnone).symm⟩
    have hinit : ∀ l ∈ init, '\n' ∉ l := fun l hl => hls l (List.mem_append_left _ hl)
    have hlast : '\n' ∉ last := hls last (List.mem_append_right _ (List.mem_singleton_self last))
    rcases hending with rfl | rfl
    · rw [List.append_nil, joinLines_snoc, lines_endedLines_append hinit hlast]
      split <;> simp only [List.length_append, List.length_map, List.length_nil, List.length_singleton] <;> omega
    · rw [joinLines_end (List.append_ne_nil_of_right_ne_nil init (List.cons_ne_nil last [])),
        lines_endedLines_of_noFeed hls]
      simp

/-! ## Texts in texts -/

theorem prefix_trimEnd (s : List Char) : trimEnd s <+: s := by
  have h := List.reverse_prefix.mpr (List.dropWhile_suffix isWhite (l := s.reverse))
  rwa [List.reverse_reverse] at h

theorem stripPrefix?_append (p s : List Char) : stripPrefix? p (p ++ s) = some s := by
  induction p with
  | nil => cases s <;> rfl
  | cons c p ih => rw [List.cons_append, stripPrefix?, if_pos rfl, ih]

theorem stripPrefix?_of_ne {x y : Char} (h : x ≠ y) (p a s : List Char) :
    stripPrefix? (p ++ x :: a) (p ++ y :: s) = none := by
  induction p with
  | nil => rw [List.nil_append, List.nil_append, stripPrefix?, if_neg h]
  | cons c p ih => rw [List.cons_append, List.cons_append, stripPrefix?, if_pos rfl, ih]

/-- What stands behind a beginning makes up the text together with it. -/
theorem eq_append_of_stripPrefix? {p s rest : List Char} (h : stripPrefix? p s = some rest) :
    s = p ++ rest := by
  induction p generalizing s with
  | nil =>
    cases s <;> cases h <;> rfl
  | cons c p ih =>
    cases s with
    | nil => cases h
    | cons x s =>
      rw [stripPrefix?] at h
      split at h
      · rename_i hx
        rw [hx, ih h, List.cons_append]
      · cases h

theorem stripSuffix?_append (ending s : List Char) : stripSuffix? ending (s ++ ending) = some s := by
  rw [stripSuffix?, List.reverse_append, stripPrefix?_append]
  simp

/-- A text is found behind a beginning in which its first character does not occur. -/
theorem splitAt?_append {c : Char} {beginning : List Char} (h : c ∉ beginning) (needle rest : List Char) :
    splitAt? (c :: needle) (beginning ++ c :: needle ++ rest) = some (beginning, rest) := by
  induction beginning with
  | nil =>
    rw [List.nil_append, List.cons_append, splitAt?, ← List.cons_append, stripPrefix?_append]
  | cons x beginning ih =>
    obtain ⟨hx, hbeginning⟩ := List.ne_and_not_mem_of_not_mem_cons h
    rw [List.cons_append, List.cons_append, splitAt?, stripPrefix?, if_neg hx, ih hbeginning]
    rfl

/-- What stands before and behind an occurrence makes up the text together with it. -/
theorem eq_append_of_splitAt? {needle s before after : List Char}
    (h : splitAt? needle s = some (before, after)) : s = before ++ (needle ++ after) := by
  induction s generalizing before with
  | nil =>
    obtain ⟨rest, hstrip, hrest⟩ := Option.map_eq_some_iff.mp h
    cases hrest
    rw [List.nil_append, ← eq_append_of_stripPrefix? hstrip]
  | cons c s ih =>
    rw [splitAt?] at h
    split at h
    · rename_i rest hstrip
      cases h
      rw [List.nil_append, ← eq_append_of_stripPrefix? hstrip]
    · obtain ⟨⟨more, rest⟩, hsplit, hrest⟩ := Option.map_eq_some_iff.mp h
      cases hrest
      rw [ih hsplit, List.cons_append]

theorem stripPrefix?_isSome {p s : List Char} : (stripPrefix? p s).isSome ↔ p <+: s := by
  induction p generalizing s with
  | nil => cases s <;> simp [stripPrefix?]
  | cons c p ih =>
    cases s with
    | nil => simp [stripPrefix?]
    | cons x s =>
      rw [stripPrefix?, List.cons_prefix_cons]
      split <;> simp [*]

/-- A text is contained in another if it stands somewhere in it. -/
theorem containsText_iff {needle s : List Char} : containsText needle s ↔ needle <:+: s := by
  unfold containsText
  induction s with
  | nil => simp [splitAt?, stripPrefix?_isSome]
  | cons c s ih =>
    rw [splitAt?, List.infix_cons_iff, ← stripPrefix?_isSome]
    cases stripPrefix? needle (c :: s) with
    | some rest => simp
    | none => simpa using ih

theorem prefix_append_cons {c : Char} {needle : List Char} (hc : c ∉ needle) (a b : List Char) :
    needle <+: a ++ c :: b ↔ needle <+: a := by
  induction a generalizing needle with
  | nil =>
    cases needle with
    | nil => simp
    | cons x needle =>
      rw [List.nil_append, List.cons_prefix_cons, List.prefix_nil]
      constructor
      · rintro ⟨rfl, -⟩
        exact absurd List.mem_cons_self hc
      · intro h
        cases h
  | cons y a ih =>
    cases needle with
    | nil => simp
    | cons x needle =>
      rw [List.cons_append, List.cons_prefix_cons, List.cons_prefix_cons,
        ih (List.not_mem_of_not_mem_cons hc)]

/-- A text without some character stands on one side of that character. -/
theorem infix_append_cons {c : Char} {needle : List Char} (hc : c ∉ needle) (a b : List Char) :
    needle <:+: a ++ c :: b ↔ needle <:+: a ∨ needle <:+: b := by
  induction a with
  | nil =>
    have hbegins := prefix_append_cons hc [] b
    rw [List.nil_append] at hbegins ⊢
    rw [List.infix_cons_iff, hbegins, List.prefix_nil, List.infix_nil]
  | cons x a ih =>
    have hbegins := prefix_append_cons hc (x :: a) b
    rw [List.cons_append] at hbegins ⊢
    rw [List.infix_cons_iff, List.infix_cons_iff, hbegins, ih, or_assoc]

/-- A text does not begin before its first character does. -/
theorem infix_append_of_not_mem {x : Char} {a : List Char} (hx : x ∉ a) (needle b : List Char) :
    x :: needle <:+: a ++ b ↔ x :: needle <:+: b := by
  induction a with
  | nil => rfl
  | cons y a ih =>
    obtain ⟨hy, ha⟩ := List.ne_and_not_mem_of_not_mem_cons hx
    rw [List.cons_append, List.infix_cons_iff, List.cons_prefix_cons, ih ha]
    simp [hy]

/-- The search passes over a beginning without the text that is looked for, if what stands behind the
beginning keeps it apart from the rest. -/
theorem splitAt?_append_cons {c : Char} {needle p : List Char} (hc : c ∉ needle) (hp : ¬ needle <:+: p)
    (rest : List Char) :
    splitAt? needle (p ++ c :: rest) =
      (splitAt? needle rest).map fun (before, after) => (p ++ c :: before, after) := by
  have hnone {s : List Char} (h : ¬ needle <+: s) : stripPrefix? needle s = none := by
    rw [← Option.not_isSome_iff_eq_none, stripPrefix?_isSome]
    exact h
  induction p with
  | nil =>
    have hhead : ¬ needle <+: c :: rest := fun h =>
      hp ((prefix_append_cons hc [] rest).mp h).isInfix
    rw [List.nil_append, splitAt?, hnone hhead]
    rfl
  | cons x p ih =>
    rw [List.infix_cons_iff] at hp
    obtain ⟨hhere, hlater⟩ := not_or.mp hp
    have hhead : ¬ needle <+: x :: (p ++ c :: rest) := fun h =>
      hhere ((prefix_append_cons hc (x :: p) rest).mp h)
    rw [List.cons_append, splitAt?, hnone hhead, ih hlater, Option.map_map]
    rfl

/-- What stands before the first occurrence has none. -/
theorem not_infix_of_splitAt? {needle s before after : List Char} (hsome : needle ≠ [])
    (h : splitAt? needle s = some (before, after)) : ¬ needle <:+: before := by
  induction s generalizing before with
  | nil =>
    obtain ⟨rest, -, hrest⟩ := Option.map_eq_some_iff.mp h
    cases hrest
    simpa using hsome
  | cons c s ih =>
    rw [splitAt?] at h
    split at h
    · cases h
      simpa using hsome
    · rename_i hstrip
      obtain ⟨⟨more, rest⟩, hsplit, hrest⟩ := Option.map_eq_some_iff.mp h
      cases hrest
      rw [List.infix_cons_iff]
      rintro (hbegins | hlater)
      · -- an occurrence at the beginning would have been the first one
        have hwhole : needle <+: c :: s := by
          rw [eq_append_of_splitAt? hsplit, ← List.cons_append]
          exact hbegins.trans (List.prefix_append _ _)
        rw [← stripPrefix?_isSome, hstrip] at hwhole
        cases hwhole
      · exact ih hsplit hlater

end DeckPress.Text
