import DeckPress.Proofs.Code.ClosingBraces
import DeckPress.Proofs.Component.Compile

/-!
# Interpolations and code samples

The check of interpolations runs over the HTML with its samples in final form, in two states: inside an
interpolation and outside. A sample never opens an interpolation, but two closing braces in it end one that
the text in front of it has opened. So the check differs from one of the text without the samples exactly if
that text has an open interpolation and a sample with two closing braces stands behind all that opens one.
Colours make no difference.
-/

namespace DeckPress.Component

open Text
open Code (HasClosing)

/-! ## The check in two states -/

/-- The brace that changes the state when it stands twice. -/
def awaited (inside : Bool) : Char := if inside then '}' else '{'

/-- Whether the check is inside an interpolation behind a text, if it was so in front of it. -/
def insideAfter : Bool → List Char → Bool
  | inside, x :: y :: s =>
    if x = awaited inside ∧ y = awaited inside then insideAfter (!inside) s else insideAfter inside (y :: s)
  | inside, _ => inside

/-- Two opening braces stand somewhere in a text. -/
def HasOpening (s : List Char) : Prop := ['{', '{'] <:+: s

instance (s : List Char) : Decidable (HasOpening s) := inferInstanceAs (Decidable (_ <:+: _))

/-- Another character than the awaited one changes nothing. -/
theorem insideAfter_cons {inside : Bool} {x : Char} (hx : x ≠ awaited inside) (s : List Char) :
    insideAfter inside (x :: s) = insideAfter inside s := by
  cases s with
  | nil => rfl
  | cons y s => rw [insideAfter, if_neg fun h => hx h.1]

theorem insideAfter_twice (inside : Bool) (s : List Char) :
    insideAfter inside (awaited inside :: awaited inside :: s) = insideAfter (!inside) s := by
  rw [insideAfter, if_pos ⟨rfl, rfl⟩]

theorem stripPrefix?_twice (a x y : Char) (s : List Char) :
    stripPrefix? [a, a] (x :: y :: s) = if x = a ∧ y = a then some s else none := by
  rw [stripPrefix?, stripPrefix?]
  by_cases hx : a = x
  · by_cases hy : a = y
    · rw [if_pos hx, if_pos hy, if_pos ⟨hx.symm, hy.symm⟩]
      cases s <;> rfl
    · rw [if_pos hx, if_neg hy, if_neg fun h => hy h.2.symm]
  · rw [if_neg hx, if_neg fun h => hx h.1.symm]

/-- The state changes behind the first two awaited braces. -/
theorem insideAfter_eq (inside : Bool) (s : List Char) :
    insideAfter inside s =
      (splitAt? [awaited inside, awaited inside] s).elim inside fun found => insideAfter (!inside) found.2 := by
  induction inside, s using insideAfter.induct with
  | case1 inside x y s h ih =>
    rw [insideAfter, if_pos h, splitAt?, stripPrefix?_twice, if_pos h]
    rfl
  | case2 inside x y s h ih =>
    have hskip : splitAt? [awaited inside, awaited inside] (x :: y :: s) =
        (splitAt? [awaited inside, awaited inside] (y :: s)).map fun found => (x :: found.1, found.2) := by
      rw [splitAt?, stripPrefix?_twice, if_neg h]
    rw [insideAfter, if_neg h, ih, hskip]
    cases splitAt? [awaited inside, awaited inside] (y :: s) with
    | none => rfl
    | some found => rfl
  | case3 s inside hshort =>
    cases s with
    | nil => rfl
    | cons x s =>
      cases s with
      | cons y s => exact absurd rfl (hshort x y s)
      | nil =>
        have hnone : stripPrefix? [awaited inside, awaited inside] [x] = none := by
          rw [stripPrefix?]
          split <;> rfl
        rw [splitAt?, hnone]
        rfl

/-- The interpolations of a text are closed if the check is outside behind it. -/
theorem interpolationsClosed_eq (s : List Char) : interpolationsClosed s = !insideAfter false s := by
  suffices hgo : ∀ fuel s, s.length ≤ fuel → interpolationsClosed.go fuel s = !insideAfter false s from
    hgo s.length s (Nat.le_refl _)
  intro fuel
  induction fuel with
  | zero =>
    intro s hlength
    rw [List.length_eq_zero_iff.mp (Nat.le_zero.mp hlength)]
    rfl
  | succ fuel ih =>
    intro s hlength
    have hoff : [awaited false, awaited false] = ['{', '{'] := rfl
    have hon : [awaited true, awaited true] = ['}', '}'] := rfl
    rw [interpolationsClosed.go, insideAfter_eq, hoff]
    cases hopening : splitAt? ['{', '{'] s with
    | none => rfl
    | some opened =>
      dsimp only
      rw [Option.elim_some, Bool.not_false, insideAfter_eq true, hon]
      cases hclosing : splitAt? ['}', '}'] opened.2 with
      | none => rfl
      | some closed =>
        -- what is left is shorter by the braces
        have hopened := congrArg List.length (eq_append_of_splitAt? hopening)
        have hclosed := congrArg List.length (eq_append_of_splitAt? hclosing)
        simp only [List.length_append, List.length_cons] at hopened hclosed
        exact ih closed.2 (by omega)

/-- Behind a character that is no brace the check goes on from the state in front of it. -/
theorem insideAfter_append (inside : Bool) (p : List Char) {x : Char} (hopening : x ≠ '{') (hclosing : x ≠ '}')
    (q : List Char) : insideAfter inside (p ++ x :: q) = insideAfter (insideAfter inside p) q := by
  have hx (state : Bool) : x ≠ awaited state := by
    cases state
    · exact hopening
    · exact hclosing
  induction inside, p using insideAfter.induct with
  | case1 inside y z p h ih =>
    rw [List.cons_append, List.cons_append, insideAfter, if_pos h, insideAfter, if_pos h, ih]
  | case2 inside y z p h ih =>
    rw [List.cons_append, List.cons_append, insideAfter, if_neg h, insideAfter, if_neg h, ← List.cons_append, ih]
  | case3 p inside hshort =>
    cases p with
    | nil => exact insideAfter_cons (hx inside) q
    | cons y p =>
      cases p with
      | cons z p => exact absurd rfl (hshort y z p)
      | nil =>
        rw [List.singleton_append, insideAfter, if_neg fun h => hx inside h.2, insideAfter_cons (hx inside)]
        rfl

/-- Without two awaited braces the state stays. -/
theorem insideAfter_of_not_infix {inside : Bool} {s : List Char} (h : ¬ [awaited inside, awaited inside] <:+: s) :
    insideAfter inside s = inside := by
  have hnone : splitAt? [awaited inside, awaited inside] s = none := by
    rw [← containsText_iff, containsText, Option.not_isSome_iff_eq_none] at h
    exact h
  rw [insideAfter_eq, hnone, Option.elim_none]

theorem infix_twice_cons {a x y : Char} {s : List Char} :
    [a, a] <:+: x :: y :: s ↔ (x = a ∧ y = a) ∨ [a, a] <:+: y :: s := by
  rw [List.infix_cons_iff, ← stripPrefix?_isSome, stripPrefix?_twice]
  refine or_congr_left ?_
  split
  · rename_i h
    exact iff_of_true rfl h
  · rename_i h
    exact iff_of_false (by decide) h

/-- A text with two braces of a kind leads to one state, whatever the state was. -/
theorem insideAfter_const {s : List Char} (h : HasOpening s ∨ HasClosing s) :
    insideAfter true s = insideAfter false s := by
  induction s with
  | nil => exact absurd h (by decide)
  | cons x s ih =>
    cases s with
    | nil =>
      rcases h with h | h
      · exact absurd h.length_le (by simp)
      · exact absurd h.length_le (by simp)
    | cons y s =>
      have htrue : '{' ≠ awaited true := by decide
      have hfalse : '}' ≠ awaited false := by decide
      by_cases hopening : x = '{' ∧ y = '{'
      · obtain ⟨rfl, rfl⟩ := hopening
        rw [insideAfter_cons htrue, insideAfter_cons htrue]
        exact (insideAfter_twice false s).symm
      · by_cases hclosing : x = '}' ∧ y = '}'
        · obtain ⟨rfl, rfl⟩ := hclosing
          rw [insideAfter_cons hfalse, insideAfter_cons hfalse]
          exact insideAfter_twice true s
        · -- the braces stand further on
          have hlater : HasOpening (y :: s) ∨ HasClosing (y :: s) :=
            h.imp (fun h => (infix_twice_cons.mp h).resolve_left hopening)
              (fun h => (infix_twice_cons.mp h).resolve_left hclosing)
          rw [insideAfter, if_neg (show ¬ (x = awaited true ∧ y = awaited true) from hclosing), insideAfter,
            if_neg (show ¬ (x = awaited false ∧ y = awaited false) from hopening), ih hlater]

/-- A text with closing braces and without opening ones leads outside. -/
theorem insideAfter_of_closing {s : List Char} (hclosing : HasClosing s) (hopening : ¬ HasOpening s)
    (inside : Bool) : insideAfter inside s = false := by
  have houtside : insideAfter false s = false := insideAfter_of_not_infix hopening
  cases inside with
  | false => exact houtside
  | true => rw [insideAfter_const (.inr hclosing), houtside]

/-- A text without either changes nothing. -/
theorem insideAfter_of_plain {s : List Char} (hclosing : ¬ HasClosing s) (hopening : ¬ HasOpening s)
    (inside : Bool) : insideAfter inside s = inside := by
  cases inside with
  | false => exact insideAfter_of_not_infix hopening
  | true => exact insideAfter_of_not_infix hclosing

/-! ## Samples and the text around them -/

/-- The rendered HTML without the text of its samples. -/
def prose (regions : List Region) : List Char := regions.flatMap (·.renderWith (fun _ => []) false)

/-- The text of a sample. -/
def Region.code? : Region → Option (List Char)
  | .html _ => none
  | .block _ code => some code
  | .inline code => some code

/-- A sample with two closing braces stands behind all text that opens an interpolation. -/
inductive ClosedByCode : List Region → Prop where
  | here {r : Region} {regions : List Region} {code : List Char} : r.code? = some code → HasClosing code →
      ¬ HasOpening (prose regions) → ClosedByCode (r :: regions)
  | later {r : Region} {regions : List Region} : ClosedByCode regions → ClosedByCode (r :: regions)

/-- A sample stands between tags, and its final form has two closing braces if its text has them. -/
theorem Region.exists_frame {r : Region} {code : List Char} (h : r.code? = some code) (coloured : Bool) :
    ∃ before after body, r.render coloured = before ++ '>' :: (body ++ '<' :: after) ∧
      r.renderWith (fun _ => []) false = before ++ '>' :: '<' :: after ∧ '{' ∉ after ∧ '}' ∉ after ∧
      ¬ HasOpening body ∧ (HasClosing body ↔ HasClosing code) := by
  have frame (before after body : List Char) :
      (before ++ ['>']) ++ body ++ ('<' :: after) = before ++ '>' :: (body ++ '<' :: after) := by simp
  have hblock : "</code></pre>".toList = '<' :: "/code></pre>".toList := by decide
  cases r with
  | html text => cases h
  | inline found =>
    cases h
    have hopen : "<code v-pre>".toList = "<code v-pre".toList ++ ['>'] := by decide
    have hclose : "</code>".toList = '<' :: "/code>".toList := by decide
    refine ⟨"<code v-pre".toList, "/code>".toList, Brace.protect code, ?_, ?_, by decide, by decide,
      not_opening_protect code, hasClosing_protect code⟩
    · show "<code v-pre>".toList ++ Brace.protect code ++ "</code>".toList = _
      rw [hopen, hclose, frame]
    · show "<code v-pre>".toList ++ [] ++ "</code>".toList = _
      rw [hopen, hclose, frame, List.nil_append]
  | block language found =>
    cases h
    have hbody := not_opening_protect (blockCode coloured language code)
    have hclosing := hasClosing_blockCode coloured language code
    cases language with
    | none =>
      have hopen : "<pre v-pre><code>".toList = "<pre v-pre><code".toList ++ ['>'] := by decide
      refine ⟨"<pre v-pre><code".toList, "/code></pre>".toList, _, ?_, ?_, by decide, by decide,
        hbody, hclosing⟩
      · show "<pre v-pre><code>".toList ++ Brace.protect _ ++ "</code></pre>".toList = _
        rw [hopen, hblock, frame]
      · show "<pre v-pre><code>".toList ++ [] ++ "</code></pre>".toList = _
        rw [hopen, hblock, frame, List.nil_append]
    | some name =>
      have hopen : "\">".toList = ['"'] ++ ['>'] := by decide
      refine ⟨"<pre class=\"language-".toList ++ name ++ "\" v-pre><code class=\"language-".toList ++ name ++
        ['"'], "/code></pre>".toList, _, ?_, ?_, by decide, by decide, hbody, hclosing⟩
      · show "<pre class=\"language-".toList ++ name ++ "\" v-pre><code class=\"language-".toList ++ name ++
          "\">".toList ++ Brace.protect _ ++ "</code></pre>".toList = _
        rw [hopen, hblock, ← List.append_assoc _ ['"'] ['>'], frame]
      · show "<pre class=\"language-".toList ++ name ++ "\" v-pre><code class=\"language-".toList ++ name ++
          "\">".toList ++ [] ++ "</code></pre>".toList = _
        rw [hopen, hblock, ← List.append_assoc _ ['"'] ['>'], frame, List.nil_append]

theorem prose_cons (r : Region) (regions : List Region) :
    prose (r :: regions) = r.renderWith (fun _ => []) false ++ prose regions := List.flatMap_cons

theorem closedByCode_cons {r : Region} {regions : List Region} :
    ClosedByCode (r :: regions) ↔
      (∃ code ∈ r.code?, HasClosing code ∧ ¬ HasOpening (prose regions)) ∨ ClosedByCode regions := by
  constructor
  · intro h
    cases h with
    | here hcode hclosing hopening => exact .inl ⟨_, hcode, hclosing, hopening⟩
    | later h => exact .inr h
  · rintro (⟨code, hcode, hclosing, hopening⟩ | h)
    · exact .here hcode hclosing hopening
    · exact .later h

instance decidableClosedByCode : DecidablePred ClosedByCode
  | [] => isFalse fun h => nomatch h
  | _ :: regions =>
    have := decidableClosedByCode regions
    decidable_of_iff _ closedByCode_cons.symm

/-- Where a sample has no closing braces, it changes nothing; where it has, the check is outside behind it, and
this makes a difference as long as no text opens an interpolation further down. -/
theorem insideAfter_sample (before : List Char) {after body html rest : List Char}
    (hplain : '{' ∉ after ∧ '}' ∉ after)
    (hopening : ¬ HasOpening body) {closed : Prop} (inside : Bool)
    (hrest : ∀ state, insideAfter state (after ++ html) = false ↔
      insideAfter state (after ++ rest) = false ∨ closed) :
    insideAfter inside (before ++ '>' :: (body ++ '<' :: (after ++ html))) = false ↔
      insideAfter inside (before ++ '>' :: '<' :: (after ++ rest)) = false ∨
        (HasClosing body ∧ ¬ HasOpening rest) ∨ closed := by
  have hgreater (q : List Char) := insideAfter_append inside before (x := '>') (by decide) (by decide) q
  have hless (state : Bool) (p q : List Char) :=
    insideAfter_append state p (x := '<') (by decide) (by decide) q
  have hdirect (q : List Char) (state : Bool) : insideAfter state ('<' :: q) = insideAfter state q := hless state [] q
  rw [hgreater, hgreater, hless, hdirect]
  generalize insideAfter inside before = state
  have hmore : HasOpening (after ++ rest) ↔ HasOpening rest := infix_append_of_not_mem hplain.1 ['{'] rest
  by_cases hclosing : HasClosing body
  · rw [insideAfter_of_closing hclosing hopening, hrest, ← or_assoc]
    refine or_congr_left ?_
    by_cases hlater : HasOpening rest
    · -- from both states the check comes to the same
      have hsame : insideAfter state (after ++ rest) = insideAfter false (after ++ rest) := by
        cases state with
        | false => rfl
        | true => exact insideAfter_const (.inl (hmore.mpr hlater))
      rw [hsame]
      exact (or_iff_left fun h => h.2 hlater).symm
    · have houtside : insideAfter false (after ++ rest) = false :=
        insideAfter_of_not_infix (mt hmore.mp hlater)
      exact iff_of_true houtside (.inr ⟨hclosing, hlater⟩)
  · rw [insideAfter_of_plain hclosing hopening, hrest]
    exact or_congr_right (or_iff_right fun h => hclosing h.1).symm

/-- With samples in final form the check is outside behind the HTML if it is so without them, or if a sample
closes what is open. -/
theorem insideAfter_render (coloured : Bool) (regions : List Region) (inside : Bool) (text : List Char) :
    insideAfter inside (text ++ regions.flatMap (·.render coloured)) = false ↔
      insideAfter inside (text ++ prose regions) = false ∨ ClosedByCode regions := by
  -- the text in front takes up the HTML between samples, so that braces on both sides of a border meet
  induction regions generalizing inside text with
  | nil => exact (or_iff_left fun h => nomatch h).symm
  | cons r regions ih =>
    rw [List.flatMap_cons, prose_cons, closedByCode_cons]
    cases hcode : r.code? with
    | none =>
      cases r with
      | html found =>
        rw [← List.append_assoc, ← List.append_assoc]
        refine (ih inside (text ++ found)).trans (or_congr_right (or_iff_right ?_).symm)
        rintro ⟨code, hsome, -⟩
        cases hsome
      | block _ _ => cases hcode
      | inline _ => cases hcode
    | some code =>
      obtain ⟨before, after, body, hrender, hprose, hopen, hclose, hopening, hclosing⟩ :=
        Region.exists_frame hcode coloured
      have hsample := insideAfter_sample (text ++ before) ⟨hopen, hclose⟩ hopening inside
        fun state => ih state after
      have hhere : (∃ found ∈ some code, HasClosing found ∧ ¬ HasOpening (prose regions)) ↔
          HasClosing body ∧ ¬ HasOpening (prose regions) := by simp [hclosing]
      rw [hrender, hprose, hhere]
      simpa using hsample

/-- The check of rendered HTML is passed if the text without the samples passes it, or if a sample closes what
is open there. -/
theorem interpolationsClosed_render (coloured : Bool) (regions : List Region) :
    interpolationsClosed (regions.flatMap (·.render coloured)) ↔
      interpolationsClosed (prose regions) ∨ ClosedByCode regions := by
  have hcheck := insideAfter_render coloured regions false []
  rw [List.nil_append, List.nil_append] at hcheck
  simpa [interpolationsClosed_eq] using hcheck

/-! ## Two fillings -/

/-- Two pieces differ in nothing but the text of a sample. -/
inductive SameButCode : Region → Region → Prop where
  | html (text : List Char) : SameButCode (.html text) (.html text)
  | block (language : Option (List Char)) (code code' : List Char) :
      SameButCode (.block language code) (.block language code')
  | inline (code code' : List Char) : SameButCode (.inline code) (.inline code')

theorem prose_eq {regions regions' : List Region} (h : List.Forall₂ SameButCode regions regions') :
    prose regions = prose regions' := by
  induction h with
  | nil => rfl
  | cons hsame _ ih =>
    rw [prose_cons, prose_cons, ih]
    cases hsame <;> rfl

/-- The pieces of the HTML that a body is rendered to. -/
def bodyRegions (o : MarkdownOptions) (body : String) : List Region :=
  regionsOf (Markdown.toHtml { allowHtml := o.html, linkAddresses := o.linkify }
    (if o.monaco then Code.Editor.replace body else body).toList)

theorem renderBody_eq_flatMap (o : MarkdownOptions) (body : String) :
    renderBody o body = (bodyRegions o body).flatMap (·.render o.highlight) := rfl

/-- A file without open fences is refused for an interpolation if its text has an open one and no sample closes
it. -/
theorem compile_openInterpolation_iff {o : MarkdownOptions} {source body : String} {fields : Fields}
    (hsplit : Deck.splitFrontMatter source = .ok (fields, body))
    (hfences : openFence? 1 none (lines body.toList) = none) :
    compile o source = .error .openInterpolation ↔
      interpolationsClosed (prose (bodyRegions o body)) = false ∧ ¬ ClosedByCode (bodyRegions o body) := by
  have hcheck := interpolationsClosed_render o.highlight (bodyRegions o body)
  rw [← renderBody_eq_flatMap] at hcheck
  rw [compile_of_split hsplit, hfences, ← Bool.not_eq_true, ← not_or, ← hcheck]
  dsimp only
  split
  · rename_i hclosed
    exact iff_of_false (fun h => nomatch h) (fun h => h hclosed)
  · rename_i hopen
    exact iff_of_true rfl hopen

/-- Of two renderings that differ in the text of their samples only, with colours or without, one passes the
check like the other if the text around the samples passes it, or if in both or in neither a sample closes what
is open. A file whose text has an open interpolation is refused unless a sample closes it. -/
theorem interpolation_verdict_iff {html html' : List Char}
    (hsame : List.Forall₂ SameButCode (regionsOf html) (regionsOf html')) (coloured coloured' : Bool) :
    (interpolationsClosed (renderCode coloured html) = interpolationsClosed (renderCode coloured' html') ↔
      interpolationsClosed (prose (regionsOf html)) ∨
        (ClosedByCode (regionsOf html) ↔ ClosedByCode (regionsOf html'))) ∧
    ∀ (o : MarkdownOptions) (source body : String) (fields : Fields),
      Deck.splitFrontMatter source = .ok (fields, body) → openFence? 1 none (lines body.toList) = none →
      (compile o source = .error .openInterpolation ↔
        interpolationsClosed (prose (bodyRegions o body)) = false ∧ ¬ ClosedByCode (bodyRegions o body)) := by
  refine ⟨?_, fun o source body fields => compile_openInterpolation_iff⟩
  have hcheck := interpolationsClosed_render coloured (regionsOf html)
  have hcheck' := interpolationsClosed_render coloured' (regionsOf html')
  rw [← prose_eq hsame] at hcheck'
  rw [Bool.eq_iff_iff, renderCode, renderCode, hcheck, hcheck']
  by_cases hprose : interpolationsClosed (prose (regionsOf html)) = true
  · exact iff_of_true (iff_of_true (.inl hprose) (.inl hprose)) (.inl hprose)
  · rw [or_iff_right hprose, or_iff_right hprose, or_iff_right hprose]

/-- A slide with an interpolation that is closed in no text, and a sample behind it. -/
def openSlide : String := "```js\n\x7d\x7d\n```\n\n\x7b\x7b a `b`\n"

theorem interpolation_verdict_iff_open :
    List.Forall₂ SameButCode (regionsOf "<p>\x7b\x7b a \x7d\x7d<code>\x7d\x7d</code></p>".toList)
      (regionsOf "<p>\x7b\x7b a \x7d\x7d<code>\x7b\x7b</code></p>".toList) ∧
    interpolationsClosed (renderCode true "<p>\x7b\x7b a \x7d\x7d<code>\x7d\x7d</code></p>".toList) =
      interpolationsClosed (renderCode false "<p>\x7b\x7b a \x7d\x7d<code>\x7b\x7b</code></p>".toList) ∧
    Deck.splitFrontMatter openSlide = .ok ([], openSlide) ∧
    openFence? 1 none (lines openSlide.toList) = none ∧ compile {} openSlide = .error .openInterpolation := by
  have hregions : regionsOf "<p>\x7b\x7b a \x7d\x7d<code>\x7d\x7d</code></p>".toList =
      [.html "<p>\x7b\x7b a \x7d\x7d".toList, .inline "\x7d\x7d".toList, .html "</p>".toList] := by decide
  have hregions' : regionsOf "<p>\x7b\x7b a \x7d\x7d<code>\x7b\x7b</code></p>".toList =
      [.html "<p>\x7b\x7b a \x7d\x7d".toList, .inline "\x7b\x7b".toList, .html "</p>".toList] := by decide
  have hsame : List.Forall₂ SameButCode (regionsOf "<p>\x7b\x7b a \x7d\x7d<code>\x7d\x7d</code></p>".toList)
      (regionsOf "<p>\x7b\x7b a \x7d\x7d<code>\x7b\x7b</code></p>".toList) := by
    rw [hregions, hregions']
    exact .cons (.html _) (.cons (.inline _ _) (.cons (.html _) .nil))
  have hprose : interpolationsClosed
      (prose (regionsOf "<p>\x7b\x7b a \x7d\x7d<code>\x7d\x7d</code></p>".toList)) = true := by decide
  have hsplit : Deck.splitFrontMatter openSlide = .ok ([], openSlide) := by with_unfolding_all rfl
  have hfences : openFence? 1 none (lines openSlide.toList) = none := by decide
  have hopen : interpolationsClosed (prose (bodyRegions {} openSlide)) = false := by decide +kernel
  have hnone : ¬ ClosedByCode (bodyRegions {} openSlide) := by decide +kernel
  obtain ⟨hverdict, hcompile⟩ := interpolation_verdict_iff hsame true false
  exact ⟨hsame, hverdict.mpr (.inl hprose), hsplit, hfences,
    (hcompile {} openSlide openSlide [] hsplit hfences).mpr ⟨hopen, hnone⟩⟩

/-- A slide whose interpolation is closed in a sample. -/
def closedSlide : String := "\x7b\x7b a `\x7d\x7d`\n"

/-- Of two renderings that differ in a sample one passes the check, and the slide is compiled although its text
has an open interpolation. -/
theorem interpolation_closed_by_sample :
    List.Forall₂ SameButCode (regionsOf "<p>\x7b\x7b a <code>\x7d\x7d</code></p>\n".toList)
      (regionsOf "<p>\x7b\x7b a <code>b</code></p>\n".toList) ∧
    interpolationsClosed (renderCode true "<p>\x7b\x7b a <code>\x7d\x7d</code></p>\n".toList) = true ∧
    interpolationsClosed (renderCode true "<p>\x7b\x7b a <code>b</code></p>\n".toList) = false ∧
    bodyRegions {} closedSlide = regionsOf "<p>\x7b\x7b a <code>\x7d\x7d</code></p>\n".toList ∧
    interpolationsClosed (prose (bodyRegions {} closedSlide)) = false ∧
    (compile {} closedSlide).toOption.isSome = true := by
  have hregions : regionsOf "<p>\x7b\x7b a <code>\x7d\x7d</code></p>\n".toList =
      [.html "<p>\x7b\x7b a ".toList, .inline "\x7d\x7d".toList, .html "</p>\n".toList] := by decide
  have hregions' : regionsOf "<p>\x7b\x7b a <code>b</code></p>\n".toList =
      [.html "<p>\x7b\x7b a ".toList, .inline "b".toList, .html "</p>\n".toList] := by decide
  refine ⟨?_, by decide +kernel, by decide +kernel, by decide +kernel, by decide +kernel, by decide +kernel⟩
  rw [hregions, hregions']
  exact .cons (.html _) (.cons (.inline _ _) (.cons (.html _) .nil))

end DeckPress.Component
