import DeckPress.Component.CodeRegion
import DeckPress.Proofs.Code.Samples

/-!
# Two closing braces in code samples

Two closing braces in a template end an interpolation. A sample has them in its final form exactly if it has
them in the rendered HTML: neither entities nor marks stand for a closing brace, and no colour divides two of
them. Two opening braces are never left, since each one has its mark.
-/

namespace DeckPress.Code

open Text

/-- Two closing braces stand somewhere in a text. -/
def HasClosing (s : List Char) : Prop := ['}', '}'] <:+: s

instance (s : List Char) : Decidable (HasClosing s) := inferInstanceAs (Decidable (_ <:+: _))

theorem hasClosing_cons {c : Char} {s : List Char} :
    HasClosing (c :: s) ↔ (c = '}' ∧ s.head? = some '}') ∨ HasClosing s := by
  unfold HasClosing
  rw [List.infix_cons_iff]
  refine or_congr_left ?_
  cases s <;> simp [List.cons_prefix_cons, eq_comm]

theorem hasClosing_append_of_not_mem {p : List Char} (hp : '}' ∉ p) (s : List Char) :
    HasClosing (p ++ s) ↔ HasClosing s := infix_append_of_not_mem hp ['}'] s

theorem plain_escapeHtmlChar (c : Char) (hc : c ≠ '}') : escapeHtmlChar c ≠ [] ∧ '}' ∉ escapeHtmlChar c := by
  unfold escapeHtmlChar
  split
  · decide
  · decide
  · decide
  · decide
  · exact ⟨List.cons_ne_nil c [], by simpa using Ne.symm hc⟩

/-- Of two texts each has two closing braces if the other one has, also when something is put in front. -/
structure SameClosing (s t : List Char) : Prop where
  head : s.head? = some '}' ↔ t.head? = some '}'
  closing : HasClosing s ↔ HasClosing t

namespace SameClosing

variable {s t u : List Char}

theorem refl (s : List Char) : SameClosing s s := ⟨Iff.rfl, Iff.rfl⟩

theorem trans (hst : SameClosing s t) (htu : SameClosing t u) : SameClosing s u :=
  ⟨hst.head.trans htu.head, hst.closing.trans htu.closing⟩

theorem brace (h : SameClosing s t) : SameClosing ('}' :: s) ('}' :: t) where
  head := Iff.rfl
  closing := by rw [hasClosing_cons, hasClosing_cons, h.head, h.closing]

/-- Where nothing is a closing brace anything can be written, but not nothing. -/
theorem other {p q : List Char} (hp : '}' ∉ p) (hq : '}' ∉ q) (hp' : p ≠ []) (hq' : q ≠ [])
    (h : SameClosing s t) : SameClosing (p ++ s) (q ++ t) where
  head := by
    have hnone {p s : List Char} (hp : '}' ∉ p) (hp' : p ≠ []) : (p ++ s).head? ≠ some '}' := by
      obtain ⟨c, p, rfl⟩ := List.exists_cons_of_ne_nil hp'
      rintro hc
      cases hc
      exact hp List.mem_cons_self
    exact iff_of_false (hnone hp hp') (hnone hq hq')
  closing := by rw [hasClosing_append_of_not_mem hp, hasClosing_append_of_not_mem hq, h.closing]

section

variable {f : Char → List Char} (hbrace : f '}' = ['}']) (hother : ∀ c, c ≠ '}' → f c ≠ [] ∧ '}' ∉ f c)

include hbrace hother

/-- A character that is written as itself if it is a closing brace, and otherwise without one. -/
theorem char (c : Char) (h : SameClosing s t) : SameClosing (c :: s) (f c ++ t) := by
  by_cases hc : c = '}'
  · rw [hc, hbrace]
    exact h.brace
  · obtain ⟨hsome, hnone⟩ := hother c hc
    exact .other (p := [c]) (by simpa using Ne.symm hc) hnone (List.cons_ne_nil c []) hsome h

/-- Characters that are written one by one. -/
theorem flatMap (s : List Char) : SameClosing s (s.flatMap f) := by
  induction s with
  | nil => exact .refl []
  | cons c s ih =>
    rw [List.flatMap_cons]
    exact .char hbrace hother c ih

end

theorem protect (s : List Char) : SameClosing s (Component.Brace.protect s) := by
  refine flatMap rfl (fun c hc => ?_) s
  split
  · decide
  · split
    · decide
    · exact ⟨List.cons_ne_nil c [], by simpa using Ne.symm hc⟩

theorem escapeHtml (s : List Char) : SameClosing s (Text.escapeHtml s) := flatMap rfl plain_escapeHtmlChar s

end SameClosing

/-! ## Entities read back -/

theorem replaceFrom_skip (needle image p s : List Char) :
    replaceFrom needle image p.length (p ++ s) = replaceFrom needle image 0 s := by
  induction p with
  | nil => rfl
  | cons c p ih => exact ih

theorem SameClosing.replaceAll {needle image : List Char} (hneedle : '}' ∉ needle) (himage : '}' ∉ image)
    (hsome : needle ≠ []) (hsome' : image ≠ []) (s : List Char) :
    SameClosing s (Text.replaceAll needle image s) := by
  unfold Text.replaceAll
  -- on the length, since a replacement passes over as many characters as the needle has
  induction hn : s.length using Nat.strongRecOn generalizing s with
  | ind n ih =>
    cases s with
    | nil => exact .refl []
    | cons c s =>
      rw [replaceFrom]
      split
      · rename_i hstarts
        obtain ⟨rest, hrest⟩ := startsWith_iff.mp hstarts
        obtain ⟨x, more, hmore⟩ := List.exists_cons_of_ne_nil hsome
        have hs : s = more ++ rest := by
          rw [hmore] at hrest
          exact (List.cons.inj hrest).2.symm
        have hskip : replaceFrom needle image (needle.length - 1) s = replaceFrom needle image 0 rest := by
          rw [hs, hmore]
          exact replaceFrom_skip (x :: more) image more rest
        rw [hskip, ← hrest]
        refine .other hneedle himage hsome hsome' (ih rest.length ?_ rest rfl)
        rw [← hn, hs, List.length_cons, List.length_append]
        omega
      · have hrest := ih s.length (by rw [← hn]; exact Nat.lt_succ_self _) s rfl
        exact .char (f := fun c => [c]) rfl (fun c hc => ⟨List.cons_ne_nil c [], by simpa using Ne.symm hc⟩) c hrest

theorem SameClosing.unescapeHtml (s : List Char) : SameClosing s (Text.unescapeHtml s) := by
  have hall : ∀ e ∈ readEntities, '}' ∉ e.1.toList ∧ '}' ∉ [e.2] ∧ e.1.toList ≠ [] := by decide
  unfold Text.unescapeHtml
  generalize readEntities = entities at hall
  induction entities generalizing s with
  | nil => exact .refl s
  | cons e entities ih =>
    obtain ⟨⟨hneedle, himage, hsome⟩, hentities⟩ := List.forall_mem_cons.mp hall
    rw [List.foldl_cons]
    exact (SameClosing.replaceAll hneedle himage hsome (List.cons_ne_nil _ _) s).trans (ih _ hentities)

/-! ## Colours -/

/-- A run that is cut off a text does not part two closing braces, nor does it start with one. -/
structure Apart (run rest : List Char) : Prop where
  nonempty : run ≠ []
  head : run.head? ≠ some '}'
  last : run.getLast? = some '}' → rest.head? ≠ some '}'

theorem Apart.of_not_mem {run : List Char} (hsome : run ≠ []) (h : '}' ∉ run) (rest : List Char) :
    Apart run rest where
  nonempty := hsome
  head := fun hhead => h (List.mem_of_head? hhead)
  last := fun hlast => absurd (List.mem_of_getLast? hlast) h

theorem Apart.hasClosing_append {run rest : List Char} (h : Apart run rest) :
    HasClosing (run ++ rest) ↔ HasClosing run ∨ HasClosing rest := by
  have hlast := h.last
  clear h
  induction run with
  | nil => exact (or_iff_right (by decide)).symm
  | cons c run ih =>
    cases run with
    | nil =>
      rw [List.singleton_append, hasClosing_cons]
      have hnone : ¬ (c = '}' ∧ rest.head? = some '}') := by
        rintro ⟨rfl, hrest⟩
        exact hlast rfl hrest
      have hsingle : ¬ HasClosing [c] := fun h => absurd h.length_le (by simp)
      rw [or_iff_right hnone, or_iff_right hsingle]
    | cons x run =>
      rw [List.getLast?_cons_cons] at hlast
      have hmore : HasClosing (x :: run ++ rest) ↔ HasClosing (x :: run) ∨ HasClosing rest := ih hlast
      rw [List.cons_append, hasClosing_cons, hmore, hasClosing_cons (c := c), or_assoc]
      rfl

/-- A run between tags. -/
theorem SameClosing.token {run rest image html before after : List Char} (h : SameClosing rest html)
    (hrun : Apart run rest) (himage : HasClosing run ↔ HasClosing image) (hbefore : '}' ∉ before)
    (hafter : '}' ∉ after) (hsome : before ≠ []) (hsome' : after ≠ []) :
    SameClosing (run ++ rest) (before ++ (image ++ (after ++ html))) where
  head := by
    obtain ⟨c, run, rfl⟩ := List.exists_cons_of_ne_nil hrun.nonempty
    obtain ⟨x, before, rfl⟩ := List.exists_cons_of_ne_nil hsome
    refine iff_of_false hrun.head fun hhead => ?_
    cases hhead
    exact hbefore List.mem_cons_self
  closing := by
    obtain ⟨x, after, rfl⟩ := List.exists_cons_of_ne_nil hsome'
    have hx : x ∉ ['}', '}'] := by
      intro hx
      have hbrace : x = '}' := by simpa using hx
      exact hafter (hbrace ▸ List.mem_cons_self)
    have hmore : HasClosing (image ++ (x :: after ++ html)) ↔ HasClosing image ∨ HasClosing (after ++ html) :=
      infix_append_cons hx image (after ++ html)
    rw [hrun.hasClosing_append, hasClosing_append_of_not_mem hbefore, hmore,
      hasClosing_append_of_not_mem (List.not_mem_of_not_mem_cons hafter), himage, h.closing]

/-- What makes the tokens of a language keep closing braces together: no mark of a comment is empty, starts or
ends with one, and no keyword is empty. -/
structure Language.Plain (l : Language) : Prop where
  line : ∀ mark ∈ l.lineComments, mark.toList ≠ [] ∧
    mark.toList.head? ≠ some '}' ∧ mark.toList.head? ≠ some '\n'
  block : ∀ marks ∈ l.blockComments, marks.1.toList ≠ [] ∧ marks.1.toList.head? ≠ some '}' ∧
    marks.2.toList ≠ [] ∧ marks.2.toList.getLast? ≠ some '}'
  keyword : "" ∉ l.keywords

theorem plain_of_mem_languages : ∀ l ∈ languages, l.Plain := by
  have hline : ∀ l ∈ languages, ∀ mark ∈ l.lineComments,
      mark.toList ≠ [] ∧ mark.toList.head? ≠ some '}' ∧ mark.toList.head? ≠ some '\n' := by decide
  have hblock : ∀ l ∈ languages, ∀ marks ∈ l.blockComments, marks.1.toList ≠ [] ∧
      marks.1.toList.head? ≠ some '}' ∧ marks.2.toList ≠ [] ∧ marks.2.toList.getLast? ≠ some '}' := by
    decide
  have hkeyword : ∀ l ∈ languages, "" ∉ l.keywords := by decide
  exact fun l hl => ⟨hline l hl, hblock l hl, hkeyword l hl⟩

/-- A text is cut behind so many characters, and no two closing braces are parted. -/
def CutsApart (s : List Char) (n : Nat) : Prop := ∃ run rest, s = run ++ rest ∧ run.length = n ∧ Apart run rest

theorem cutsApart_takeWhile {p : Char → Bool} (hp : p '}' = false) {s : List Char}
    (h : s.takeWhile p ≠ []) : CutsApart s (s.takeWhile p).length := by
  refine ⟨s.takeWhile p, s.dropWhile p, List.takeWhile_append_dropWhile.symm, rfl, .of_not_mem h ?_ _⟩
  intro hbrace
  rw [List.all_eq_true.mp List.all_takeWhile _ hbrace] at hp
  cases hp

theorem cutsApart_comment {l : Language} (hl : l.Plain) {s : List Char} {n : Nat}
    (h : l.commentLength? s = some n) : CutsApart s n := by
  unfold Language.commentLength? at h
  split at h
  · rename_i hany
    obtain ⟨mark, hmark, hstarts⟩ := List.any_eq_true.mp hany
    obtain ⟨hsome, hbrace, hfeed⟩ := hl.line mark hmark
    obtain ⟨behind, rfl⟩ := startsWith_iff.mp hstarts
    obtain ⟨c, more, hmore⟩ := List.exists_cons_of_ne_nil hsome
    rw [hmore] at hbrace hfeed h ⊢
    cases h
    -- a comment that ends with its line has a line feed behind it, or nothing
    refine ⟨_, _, (List.takeWhile_append_dropWhile (p := (· ≠ '\n'))).symm, rfl, ?_, ?_, ?_⟩
    · rw [List.cons_append, List.takeWhile_cons_of_pos (by simpa using hfeed)]
      exact List.cons_ne_nil _ _
    · rw [List.cons_append, List.takeWhile_cons_of_pos (by simpa using hfeed)]
      exact hbrace
    · intro _ hbehind
      have hstops := List.head?_dropWhile_not (p := fun x => decide (x ≠ '\n')) (c :: more ++ behind)
      rw [hbehind] at hstops
      cases hstops
  · obtain ⟨marks, hmarks, hfound⟩ := List.exists_of_findSome?_eq_some h
    obtain ⟨hsome, hbrace, hsome', hbrace'⟩ := hl.block marks hmarks
    obtain ⟨rest, hfirst, hfound⟩ := Option.bind_eq_some_iff.mp hfound
    obtain ⟨⟨inner, behind⟩, hlast, hfound⟩ := Option.bind_eq_some_iff.mp hfound
    cases hfound
    have hs : s = marks.1.toList ++ inner ++ marks.2.toList ++ behind := by
      rw [eq_append_of_stripPrefix? hfirst, eq_append_of_splitAt? hlast]
      simp
    refine ⟨_, behind, hs, by simp [← String.length_toList, Nat.add_assoc], ?_, ?_, ?_⟩
    · simp [hsome]
    · -- a comment between marks starts and ends with them
      rw [List.append_assoc, List.head?_append_of_ne_nil _ hsome]
      exact hbrace
    · intro hends
      rw [List.getLast?_append_of_ne_nil _ hsome'] at hends
      exact absurd hends hbrace'

/-- A quoted text ends with its closing quote. -/
theorem exists_of_quotedLength? {quote : Char} {multiline : Bool} {s : List Char} {n : Nat}
    (h : quotedLength? quote multiline s = some n) :
    ∃ inner rest, s = inner ++ quote :: rest ∧ n = inner.length + 1 := by
  induction s using quotedLength?.induct quote multiline generalizing n with
  | case1 => cases h
  | case2 =>
    rw [quotedLength?, if_pos rfl] at h
    cases h
    exact ⟨[], [], rfl, rfl⟩
  | case3 c hc =>
    rw [quotedLength?, if_neg hc] at h
    cases h
  | case4 d rest =>
    rw [quotedLength?, if_pos rfl] at h
    cases h
    exact ⟨[], d :: rest, rfl, rfl⟩
  | case5 rest hquote =>
    rw [quotedLength?, if_neg hquote, if_pos rfl, if_pos rfl] at h
    cases h
  | case6 d rest hd hquote ih =>
    rw [quotedLength?, if_neg hquote, if_pos rfl, if_neg hd] at h
    obtain ⟨m, hm, rfl⟩ := Option.map_eq_some_iff.mp h
    obtain ⟨inner, behind, rfl, rfl⟩ := ih hm
    exact ⟨'\\' :: d :: inner, behind, rfl, rfl⟩
  | case7 c d rest hc hbackslash hfeed =>
    rw [quotedLength?, if_neg hc, if_neg hbackslash, if_pos hfeed] at h
    cases h
  | case8 c d rest hc hbackslash hfeed ih =>
    rw [quotedLength?, if_neg hc, if_neg hbackslash, if_neg hfeed] at h
    obtain ⟨m, hm, rfl⟩ := Option.map_eq_some_iff.mp h
    obtain ⟨inner, behind, hinner, rfl⟩ := ih hm
    exact ⟨c :: inner, behind, by rw [hinner, List.cons_append], rfl⟩

theorem cutsApart_quoted {quote : Char} (hquote : quote ≠ '}') {multiline : Bool} {s : List Char} {n : Nat}
    (h : (quotedLength? quote multiline s).map (· + 1) = some n) : CutsApart (quote :: s) n := by
  obtain ⟨m, hm, rfl⟩ := Option.map_eq_some_iff.mp h
  obtain ⟨inner, rest, rfl, rfl⟩ := exists_of_quotedLength? hm
  refine ⟨quote :: inner ++ [quote], rest, by simp, by simp, by simp, by simpa using hquote, fun hlast => ?_⟩
  rw [List.getLast?_concat] at hlast
  exact absurd (Option.some.inj hlast) hquote

theorem cutsApart_string {l : Language} {s : List Char} {n : Nat} (h : l.stringLength? s = some n) :
    CutsApart s n := by
  unfold Language.stringLength? at h
  split at h
  · split at h
    · rename_i hquote
      refine cutsApart_quoted ?_ h
      rintro rfl
      exact absurd hquote (by decide)
    · split at h
      · rename_i hbacktick
        refine cutsApart_quoted ?_ h
        rintro rfl
        exact absurd hbacktick (by simp)
      · cases h
  · cases h

theorem cutsApart_keyword {l : Language} (hl : l.Plain) {before : Option Char} {s : List Char} {n : Nat}
    (h : l.keywordLength? before s = some n) : CutsApart s n := by
  unfold Language.keywordLength? at h
  dsimp only at h
  split at h
  · rename_i hword
    cases h
    refine cutsApart_takeWhile (by decide) fun hnone => hl.keyword ?_
    rw [hnone, Bool.and_eq_true] at hword
    exact List.contains_iff_mem.mp hword.2
  · cases h

theorem cutsApart_number {before : Option Char} {s : List Char} {n : Nat} (h : numberLength? before s = some n) :
    CutsApart s n := by
  have hdigits (t : List Char) : '}' ∉ t.takeWhile isDigit := by
    intro hbrace
    exact absurd (List.all_eq_true.mp List.all_takeWhile _ hbrace) (by decide)
  unfold numberLength? at h
  dsimp only at h
  split at h
  · cases h
  · rename_i hstart
    have hsome : s.takeWhile isDigit ≠ [] := by
      intro hnone
      simp [hnone] at hstart
    split at h
    · rename_i found hlong
      cases h
      split at hlong
      · rename_i more hrest
        split at hlong
        · cases hlong
          have hs : s = s.takeWhile isDigit ++ '.' :: more.takeWhile isDigit ++ more.dropWhile isDigit := by
            rw [List.append_assoc, List.cons_append, List.takeWhile_append_dropWhile, ← hrest,
              List.takeWhile_append_dropWhile]
          refine ⟨_, _, hs, by simp; omega, .of_not_mem (by simp) ?_ _⟩
          simp [hdigits]
        · cases hlong
      · cases hlong
    · split at h
      · cases h
        exact cutsApart_takeWhile (by decide) hsome
      · cases h

/-- Whatever the token, two closing braces are not parted. -/
theorem cutsApart_token {l : Language} (hl : l.Plain) {before : Option Char} {s : List Char}
    {kind : TokenKind} {n : Nat} (h : l.token? before s = some (kind, n)) : CutsApart s n := by
  unfold Language.token? at h
  split at h
  · rename_i hcomment
    cases h
    exact cutsApart_comment hl hcomment
  · split at h
    · rename_i hstring
      cases h
      exact cutsApart_string hstring
    · split at h
      · rename_i hkeyword
        cases h
        exact cutsApart_keyword hl hkeyword
      · obtain ⟨m, hnumber, hsame⟩ := Option.map_eq_some_iff.mp h
        cases hsame
        exact cutsApart_number hnumber

theorem SameClosing.highlightFrom {l : Language} (hl : l.Plain) (before : Option Char) (code : List Char) :
    SameClosing code (Code.highlightFrom l before code) := by
  have hopening (kind : TokenKind) : '}' ∉ (openingTag kind).toList ∧ (openingTag kind).toList ≠ [] := by
    cases kind <;> decide
  have hclosing : '}' ∉ closingTag.toList ∧ closingTag.toList ≠ [] := by decide
  induction before, code using highlightFrom.induct l with
  | case1 before =>
    rw [Code.highlightFrom]
    exact .refl []
  | case2 before c cs kind n htoken text ih =>
    obtain ⟨run, rest, hcut, hlength, happart⟩ := cutsApart_token hl htoken
    -- the run is the text of the token, and what is left is coloured behind it
    have htext : text = run := by
      obtain ⟨x, more, rfl⟩ := List.exists_cons_of_ne_nil happart.nonempty
      obtain ⟨rfl, hcs⟩ := List.cons.inj (hcut.trans (List.cons_append ..))
      show c :: cs.take (n - 1) = c :: more
      rw [hcs, ← hlength, List.length_cons, Nat.add_sub_cancel, List.take_left]
    have hbehind : cs.drop (n - 1) = rest := by
      have hdrop : (c :: cs).drop n = rest := by rw [hcut, ← hlength, List.drop_left]
      obtain ⟨m, rfl⟩ : ∃ m, n = m + 1 := ⟨n - 1, by
        have hpos := List.length_pos_iff.mpr happart.nonempty
        omega⟩
      exact hdrop
    rw [Code.highlightFrom, htoken]
    show SameClosing (c :: cs) (span kind text ++ Code.highlightFrom l text.getLast? (cs.drop (n - 1)))
    rw [hbehind, htext] at ih
    rw [hcut, hbehind, htext, span_eq, List.append_assoc, List.append_assoc]
    exact ih.token happart (SameClosing.escapeHtml run).closing (hopening kind).1 hclosing.1 (hopening kind).2
      hclosing.2
  | case3 before c cs htoken ih =>
    rw [Code.highlightFrom, htoken]
    exact .char rfl plain_escapeHtmlChar c ih

theorem SameClosing.highlight (code : List Char) (language : String) :
    SameClosing code (Code.highlight code language) := by
  unfold Code.highlight
  cases hfind : Language.find? language with
  | none => exact .escapeHtml code
  | some l =>
    unfold Language.find? at hfind
    have hmem : l ∈ languages := List.mem_of_find?_eq_some hfind
    exact .highlightFrom (plain_of_mem_languages l hmem) none code

end DeckPress.Code

namespace DeckPress.Component

open Text
open Code (SameClosing HasClosing)

/-- The final form of a block has two closing braces exactly if its code has them, coloured or not. -/
theorem hasClosing_blockCode (coloured : Bool) (language : Option (List Char)) (code : List Char) :
    HasClosing (Brace.protect (blockCode coloured language code)) ↔ HasClosing code := by
  have hplain : SameClosing code (escapeHtml (unescapeHtml code)) :=
    (SameClosing.unescapeHtml code).trans (.escapeHtml _)
  have hblock : SameClosing code (blockCode coloured language code) := by
    unfold blockCode
    cases language with
    | none => exact hplain
    | some name =>
      cases coloured with
      | false => exact hplain
      | true => exact (SameClosing.unescapeHtml code).trans (.highlight _ _)
  exact (hblock.trans (.protect _)).closing.symm

theorem hasClosing_protect (code : List Char) : HasClosing (Brace.protect code) ↔ HasClosing code :=
  (SameClosing.protect code).closing.symm

/-- A protected sample does not start with an opening brace: each has its mark in front. -/
theorem head?_protect (code : List Char) : (Brace.protect code).head? ≠ some '{' := by
  cases code with
  | nil => simp [Brace.protect]
  | cons c code =>
    unfold Brace.protect
    rw [List.flatMap_cons]
    split
    · simp
    · split
      · simp
      · simpa using ‹¬ c = '{'›

/-- So no two opening braces stand side by side in it. -/
theorem not_opening_protect (code : List Char) : ¬ ['{', '{'] <:+: Brace.protect code := by
  induction code with
  | nil => decide
  | cons c code ih =>
    have hother {p : List Char} (hp : '{' ∉ p) : ¬ ['{', '{'] <:+: p ++ Brace.protect code := by
      rwa [infix_append_of_not_mem hp]
    have hcons : Brace.protect (c :: code) = (if c = '\\' then "&#92;".toList else
        if c = '{' then ['\\', '{'] else [c]) ++ Brace.protect code := List.flatMap_cons
    rw [hcons]
    split
    · exact hother (by decide)
    · split
      · -- behind the brace that is marked stands no other
        have hhead := head?_protect code
        have hmarked : ¬ ['{', '{'] <:+: '{' :: Brace.protect code := by
          rw [List.infix_cons_iff, not_or]
          refine ⟨fun hprefix => hhead ?_, ih⟩
          obtain ⟨rest, hrest⟩ := (List.cons_prefix_cons.mp hprefix).2
          rw [← hrest]
          rfl
        have hbackslash : '{' ∉ ['\\'] := by decide
        exact fun h => hmarked ((infix_append_of_not_mem hbackslash _ _).mp h)
      · rename_i hbrace
        exact hother (by simpa using Ne.symm hbrace)

end DeckPress.Component
