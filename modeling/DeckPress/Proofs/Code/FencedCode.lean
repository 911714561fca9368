import DeckPress.Markdown.Html
import DeckPress.Proofs.Code.ClosingBraces
import DeckPress.Proofs.Text.Search

/-!
# The code of a fence is read back

The code of a fence is escaped twice: it gets into rendered HTML by its entities, is read back from there, and
gets into the component by its entities again. Reading back goes over the whole text once for each entity. What
is left to be read after some of them is the text with the other characters still written as entities, so each
ampersand that is met belongs to one entity, and the ampersands of the text itself are the last to come back.
-/

namespace DeckPress.Text

/-! ## One entity after the other -/

/-- A character as it stands when those in `read` have been read back. -/
def partlyEscaped (read : List Char) (c : Char) : List Char := if c ∈ read then [c] else escapeHtmlChar c

/-- The characters that are written as entities. -/
def escapedChars : List Char := ['&', '<', '>', '"']

theorem escapeHtmlChar_plain {c : Char} (h : c ∉ escapedChars) : escapeHtmlChar c = [c] := by
  unfold escapeHtmlChar
  split <;> first | rfl | exact absurd (by decide) h

theorem cases_of_mem_escapedChars {c : Char} (h : c ∈ escapedChars) :
    c = '&' ∨ c = '<' ∨ c = '>' ∨ c = '"' := by
  simpa only [escapedChars, List.mem_cons, List.not_mem_nil, or_false] using h

theorem escapeHtmlChar_ne_nil (c : Char) : escapeHtmlChar c ≠ [] := by
  unfold escapeHtmlChar
  split <;> exact List.cons_ne_nil _ _

/-- Only an ampersand starts an entity, and no entity has a second one. -/
theorem replaceFrom_plain {needle p : List Char} (hneedle : needle.head? = some '&') (hp : '&' ∉ p)
    (image s : List Char) : replaceFrom needle image 0 (p ++ s) = p ++ replaceFrom needle image 0 s := by
  induction p with
  | nil => rfl
  | cons c p ih =>
    obtain ⟨hc, hp⟩ := List.ne_and_not_mem_of_not_mem_cons hp
    obtain ⟨more, rfl⟩ := List.head?_eq_some_iff.mp hneedle
    have hnot : startsWith ('&' :: more) (c :: (p ++ s)) = false := by
      rw [Bool.eq_false_iff, ne_eq, Code.startsWith_iff, List.cons_prefix_cons]
      exact fun h => hc h.1
    rw [List.cons_append, replaceFrom, hnot, ih hp]
    rfl

/-- An entity that is not looked for stays. -/
theorem replaceFrom_other {needle entity : List Char} (hneedle : needle.head? = some '&')
    (hentity : entity.head? = some '&') (honly : '&' ∉ entity.tail) (hapart : ¬ needle <+: entity)
    (hapart' : ¬ entity <+: needle) (image s : List Char) :
    replaceFrom needle image 0 (entity ++ s) = entity ++ replaceFrom needle image 0 s := by
  obtain ⟨more, rfl⟩ := List.head?_eq_some_iff.mp hentity
  have hnot : startsWith needle ('&' :: (more ++ s)) = false := by
    rw [Bool.eq_false_iff, ne_eq, Code.startsWith_iff]
    intro h
    rcases List.prefix_or_prefix_of_prefix h (List.prefix_append ('&' :: more) s) with h | h
    · exact hapart h
    · exact hapart' h
  rw [List.cons_append, replaceFrom, hnot]
  exact congrArg ('&' :: ·) (replaceFrom_plain hneedle honly image s)

/-- The entity that is looked for is replaced. -/
theorem replaceFrom_here {needle : List Char} (hsome : needle ≠ []) (image s : List Char) :
    replaceFrom needle image 0 (needle ++ s) = image ++ replaceFrom needle image 0 s := by
  obtain ⟨c, more, rfl⟩ := List.exists_cons_of_ne_nil hsome
  have hhere : startsWith (c :: more) (c :: (more ++ s)) = true :=
    Code.startsWith_iff.mpr (List.prefix_append (c :: more) s)
  rw [List.cons_append, replaceFrom, hhere]
  exact congrArg (image ++ ·) (Code.replaceFrom_skip (c :: more) image more s)

/-- Reading one entity back, in a text whose ampersands are all written as entities, reads back just the
character that it stands for. -/
theorem replaceAll_partlyEscaped {entity : String} {x : Char} (h : (entity, x) ∈ readEntities) {read : List Char}
    (hread : '&' ∉ read) (s : List Char) :
    replaceAll entity.toList [x] (s.flatMap (partlyEscaped read)) = s.flatMap (partlyEscaped (x :: read)) := by
  have hstart : ∀ e ∈ readEntities, e.1.toList.head? = some '&' := by decide
  have hwritten : ∀ e ∈ readEntities,
      escapeHtmlChar e.2 = e.1.toList ∨ escapeHtmlChar e.2 = [e.2] ∧ e.2 ≠ '&' := by decide +kernel
  have hentity (c : Char) (hc : c ∈ escapedChars) :
      (escapeHtmlChar c).head? = some '&' ∧ '&' ∉ (escapeHtmlChar c).tail := by
    rcases cases_of_mem_escapedChars hc with rfl | rfl | rfl | rfl <;> decide
  have hapart (c : Char) (hc : c ∈ escapedChars) : ∀ e ∈ readEntities, c ≠ e.2 →
      ¬ e.1.toList <+: escapeHtmlChar c ∧ ¬ escapeHtmlChar c <+: e.1.toList := by
    rcases cases_of_mem_escapedChars hc with rfl | rfl | rfl | rfl <;> decide +kernel
  have hneedle := hstart _ h
  -- character by character: it is read back now, was read back before, is another entity, or never was one
  have hchar (c : Char) (t : List Char) : replaceFrom entity.toList [x] 0 (partlyEscaped read c ++ t) =
      partlyEscaped (x :: read) c ++ replaceFrom entity.toList [x] 0 t := by
    unfold partlyEscaped
    by_cases hc : c ∈ read
    · rw [if_pos hc, if_pos (List.mem_cons_of_mem x hc)]
      exact replaceFrom_plain hneedle (fun hamp => hread (List.mem_singleton.mp hamp ▸ hc)) [x] t
    · rw [if_neg hc]
      by_cases hx : c = x
      · subst hx
        rw [if_pos List.mem_cons_self]
        rcases hwritten _ h with hentity | ⟨hplain, hamp⟩
        · dsimp only at hentity
          rw [hentity]
          refine replaceFrom_here (fun hnone => ?_) [c] t
          rw [hnone] at hneedle
          cases hneedle
        · dsimp only at hplain hamp
          rw [hplain]
          exact replaceFrom_plain hneedle (fun h => hamp (List.mem_singleton.mp h).symm) [c] t
      · rw [if_neg (by simp [hx, hc])]
        by_cases hescaped : c ∈ escapedChars
        · obtain ⟨hhead, honly⟩ := hentity c hescaped
          obtain ⟨hnot, hnot'⟩ := hapart c hescaped _ h hx
          exact replaceFrom_other hneedle hhead honly hnot hnot' [x] t
        · rw [escapeHtmlChar_plain hescaped]
          have hamp : '&' ≠ c := fun h => hescaped (h ▸ List.mem_cons_self)
          exact replaceFrom_plain hneedle (fun h => hamp (List.mem_singleton.mp h)) [x] t
  unfold replaceAll
  induction s with
  | nil => rfl
  | cons c s ih => rw [List.flatMap_cons, List.flatMap_cons, hchar, ih]

/-- What was escaped is read back as it was, also if it looks like an entity itself. -/
theorem unescapeHtml_escapeHtml (s : List Char) : unescapeHtml (escapeHtml s) = s := by
  have hall : partlyEscaped ['&', '>', '<', '\'', '"'] = ([·]) := by
    funext c
    unfold partlyEscaped
    split
    · rfl
    · rename_i hread
      have hsubset : escapedChars ⊆ ['&', '>', '<', '\'', '"'] := by decide
      exact escapeHtmlChar_plain fun hc => hread (hsubset hc)
  calc unescapeHtml (escapeHtml s)
      = replaceAll "&amp;".toList ['&'] (replaceAll "&gt;".toList ['>'] (replaceAll "&lt;".toList ['<']
          (replaceAll "&#39;".toList ['\''] (replaceAll "&quot;".toList ['"'] (s.flatMap (partlyEscaped [])))))) := rfl
    _ = s.flatMap (partlyEscaped ['&', '>', '<', '\'', '"']) := by
      rw [replaceAll_partlyEscaped (by decide) (by decide), replaceAll_partlyEscaped (by decide) (by decide),
        replaceAll_partlyEscaped (by decide) (by decide), replaceAll_partlyEscaped (by decide) (by decide),
        replaceAll_partlyEscaped (by decide) (by decide)]
    _ = s := by rw [hall, List.flatMap_singleton']

/-- An escaped text neither opens a tag nor ends an attribute. -/
theorem not_mem_escapeHtml {x : Char} (hx : x ∈ ['<', '"']) (s : List Char) : x ∉ escapeHtml s := by
  unfold escapeHtml
  rw [List.mem_flatMap]
  rintro ⟨c, -, hc⟩
  exact Code.not_mem_escapeHtmlChar hx c hc

end DeckPress.Text

namespace DeckPress.Component

open Text

/-! ## Samples in rendered HTML -/

theorem length_stripPrefix? {p s rest : List Char} (h : stripPrefix? p s = some rest) :
    s.length = p.length + rest.length := by
  rw [eq_append_of_stripPrefix? h, List.length_append]

theorem length_splitAt? {needle s before after : List Char} (h : splitAt? needle s = some (before, after)) :
    s.length = before.length + (needle.length + after.length) := by
  rw [eq_append_of_splitAt? h, List.length_append, List.length_append]

theorem readLanguage?_length {s rest : List Char} {language : Option (List Char)}
    (h : readLanguage? s = some (language, rest)) : rest.length ≤ s.length := by
  unfold readLanguage? at h
  split at h
  · cases h
    exact Nat.le_succ _
  · simp only [Option.bind_eq_bind, Option.bind_eq_some_iff] at h
    obtain ⟨start, hstart, ⟨name, behind⟩, hname, h⟩ := h
    have hlength := length_stripPrefix? hstart
    have hlength' := length_splitAt? hname
    dsimp only at h
    split at h
    · split at h
      · cases h
      · cases h
        simp only [List.length_cons] at hlength'
        omega
    · cases h

theorem readBlock?_length {s rest : List Char} {r : Region} (h : readBlock? s = some (r, rest)) :
    rest.length < s.length := by
  simp only [readBlock?, Option.bind_eq_bind, Option.bind_eq_some_iff] at h
  obtain ⟨start, hstart, ⟨language, behind⟩, hlanguage, ⟨code, after⟩, hcode, h⟩ := h
  cases h
  have hmark : 0 < "<pre><code".toList.length := by decide
  have hlength := length_stripPrefix? hstart
  have hlength' := readLanguage?_length hlanguage
  have hlength'' := length_splitAt? hcode
  dsimp only at hlength'' ⊢
  omega

theorem readInline?_length {s rest : List Char} {r : Region} (h : readInline? s = some (r, rest)) :
    rest.length < s.length := by
  simp only [readInline?, Option.bind_eq_bind, Option.bind_eq_some_iff] at h
  obtain ⟨start, hstart, ⟨code, after⟩, hcode, h⟩ := h
  cases h
  have hmark : 0 < "<code>".toList.length := by decide
  have hlength := length_stripPrefix? hstart
  have hlength' := length_splitAt? hcode
  dsimp only
  omega

/-- A sample takes up some of the text. -/
theorem readRegion?_length {s rest : List Char} {r : Region} (h : readRegion? s = some (r, rest)) :
    rest.length < s.length := by
  unfold readRegion? at h
  split at h
  · rename_i hfound
    cases h
    exact readBlock?_length hfound
  · exact readInline?_length h

theorem regionsOf_go_eq {s : List Char} {fuel fuel' : Nat} (h : s.length ≤ fuel) (h' : s.length ≤ fuel') :
    regionsOf.go fuel s = regionsOf.go fuel' s := by
  induction fuel generalizing s fuel' with
  | zero =>
    cases List.eq_nil_of_length_eq_zero (Nat.le_zero.mp h)
    cases fuel' <;> rfl
  | succ fuel ih =>
    cases s with
    | nil => cases fuel' <;> rfl
    | cons c cs =>
      obtain ⟨fuel', rfl⟩ := Nat.exists_eq_add_one_of_ne_zero (Nat.ne_zero_of_lt h')
      rw [regionsOf.go, regionsOf.go]
      cases hread : readRegion? (c :: cs) with
      | none => rw [ih (Nat.le_of_succ_le_succ h) (Nat.le_of_succ_le_succ h')]
      | some found =>
        have hrest := Nat.le_of_lt_succ (readRegion?_length hread)
        dsimp only
        rw [ih (hrest.trans (Nat.le_of_succ_le_succ h)) (hrest.trans (Nat.le_of_succ_le_succ h'))]

/-- A sample at the start of a text is its first piece. -/
theorem regionsOf_of_readRegion? {s rest : List Char} {r : Region} (h : readRegion? s = some (r, rest)) :
    regionsOf s = r :: regionsOf rest := by
  have hlength := readRegion?_length h
  cases s with
  | nil => cases hlength
  | cons c cs =>
    unfold regionsOf
    rw [List.length_cons, regionsOf.go, h]
    exact congrArg (r :: ·) (regionsOf_go_eq (Nat.le_of_lt_succ hlength) (Nat.le_refl _))

/-! ## Fences -/

/-- What is written around the code of a block and around the name of its language. -/
def blockStart : List Char := "<pre><code".toList

def blockEnd : List Char := "</code></pre>".toList

def languageStart : List Char := " class=\"language-".toList

/-- What the opening tag of a block says of its language. -/
def languageAttribute (language : Option (List Char)) : List Char :=
  match language with
  | some name => languageStart ++ (name ++ ['"'])
  | none => []

/-- A block with its code as HTML. -/
def blockElement (language : Option (List Char)) (html : List Char) : List Char :=
  blockStart ++ (languageAttribute language ++ '>' :: (html ++ blockEnd))

theorem readLanguage?_attribute {language : Option (List Char)}
    (hlanguage : ∀ name ∈ language, name ≠ [] ∧ '"' ∉ name) (rest : List Char) :
    readLanguage? (languageAttribute language ++ '>' :: rest) = some (language, rest) := by
  cases language with
  | none => rfl
  | some name =>
    obtain ⟨hsome, hquote⟩ := hlanguage name rfl
    have hshape : languageAttribute (some name) ++ '>' :: rest =
        languageStart ++ (name ++ '"' :: '>' :: rest) := by
      simp only [languageAttribute, List.append_assoc, List.singleton_append]
    have hhead : (languageStart ++ (name ++ '"' :: '>' :: rest)).head? = some ' ' := rfl
    have hcut : splitAt? ['"'] (name ++ '"' :: '>' :: rest) = some (name, '>' :: rest) := by
      have hfound := splitAt?_append hquote [] ('>' :: rest)
      rwa [List.append_assoc] at hfound
    rw [hshape]
    unfold readLanguage?
    split
    · rename_i heq
      rw [heq] at hhead
      cases hhead
    · have hstrip : stripPrefix? " class=\"language-".toList (languageStart ++ (name ++ '"' :: '>' :: rest)) =
          some (name ++ '"' :: '>' :: rest) := stripPrefix?_append languageStart _
      rw [hstrip]
      simp only [Option.bind_eq_bind, Option.bind_some]
      rw [hcut]
      simp [hsome]

/-- A block is read whole, if its code has no tags. -/
theorem readRegion?_blockElement {language : Option (List Char)}
    (hlanguage : ∀ name ∈ language, name ≠ [] ∧ '"' ∉ name) {html : List Char} (hhtml : '<' ∉ html)
    (rest : List Char) :
    readRegion? (blockElement language html ++ rest) = some (.block language html, rest) := by
  have hshape : blockElement language html ++ rest =
      blockStart ++ (languageAttribute language ++ '>' :: (html ++ (blockEnd ++ rest))) := by
    simp only [blockElement, List.append_assoc, List.cons_append]
  have hstrip : stripPrefix? "<pre><code".toList (blockElement language html ++ rest) =
      some (languageAttribute language ++ '>' :: (html ++ (blockEnd ++ rest))) := by
    rw [hshape]
    exact stripPrefix?_append blockStart _
  have hclose : splitAt? "</code></pre>".toList (html ++ (blockEnd ++ rest)) = some (html, rest) := by
    rw [← List.append_assoc]
    exact splitAt?_append hhtml "/code></pre>".toList rest
  have hblock : readBlock? (blockElement language html ++ rest) = some (.block language html, rest) := by
    rw [readBlock?, hstrip]
    simp only [Option.bind_eq_bind, Option.bind_some]
    rw [readLanguage?_attribute hlanguage]
    simp only [Option.bind_some]
    rw [hclose]
    rfl
  rw [readRegion?, hblock]

/-- The language that the HTML of a fence names: the first word of the info, escaped. -/
def fenceLanguage? (info : List Char) : Option (List Char) :=
  if info.isEmpty then none else some (escapeHtml (info.takeWhile (!Markdown.isSpace ·)))

/-- The HTML of a fence. -/
def fenceHtml (info code : List Char) : List Char :=
  blockElement (fenceLanguage? info) (escapeHtml code) ++ ['\n']

/-- The page goes on with the HTML of a fence. -/
theorem codeHtml_output (p : Markdown.Page) (info code : List Char) :
    (Markdown.codeHtml p info code).output.reverse = p.freshLine.output.reverse ++ fenceHtml info code := by
  have hput (p : Markdown.Page) (s : List Char) : (p.put s).output.reverse = p.output.reverse ++ s := by
    simp [Markdown.Page.put]
  have hstart : (if info.isEmpty then "<pre><code>".toList
      else "<pre><code class=\"language-".toList ++ escapeHtml (info.takeWhile (!Markdown.isSpace ·)) ++
        "\">".toList) =
      blockStart ++ (languageAttribute (fenceLanguage? info) ++ ['>']) := by
    have hnone : "<pre><code>".toList = blockStart ++ ['>'] := by decide
    have hsome : "<pre><code class=\"language-".toList = blockStart ++ languageStart := by decide
    have hclose : "\">".toList = ['"', '>'] := by decide
    unfold fenceLanguage? languageAttribute
    rw [hnone, hsome, hclose]
    split
    · rfl
    · simp only [List.append_assoc, List.cons_append, List.nil_append]
  have hend : "</code></pre>\n".toList = blockEnd ++ ['\n'] := by decide
  unfold fenceHtml Markdown.codeHtml Markdown.Page.puts blockElement
  dsimp only
  rw [hput, hput, hput, hstart, hend]
  simp only [List.append_assoc, List.cons_append, List.nil_append]

/-- The info of a fence does not start with a blank: those are gone, and what an escape leaves is a sign. -/
theorem fenceInfo_start (s : List Char) : (Markdown.fenceInfo s).head?.any Markdown.isSpace = false := by
  have hspace {c : Char} (hc : Markdown.isSpace c) : isAsciiPunctuation c = false := by
    simp only [Markdown.isSpace, Markdown.isBlankChar, Markdown.isLineEnd, Bool.or_eq_true, decide_eq_true_eq] at hc
    rcases hc with (rfl | rfl) | rfl | rfl <;> decide
  have hescape (t : List Char) (ht : (Markdown.dropEscapes t).head?.any Markdown.isSpace) :
      t.head?.any Markdown.isSpace := by
    unfold Markdown.dropEscapes at ht
    split at ht
    · split at ht
      · rename_i hsign
        rw [hspace ht] at hsign
        cases hsign
      · exact ht
    · exact ht
    · exact ht
  have htrim : (Markdown.trimSpace (Markdown.replaceEntities s)).head?.any Markdown.isSpace = false := by
    have hstart := List.head?_dropWhile_not Markdown.isSpace (Markdown.replaceEntities s)
    obtain ⟨cut, hcut, -⟩ :=
      exists_dropEndWhile Markdown.isSpace ((Markdown.replaceEntities s).dropWhile Markdown.isSpace)
    rw [hcut] at hstart
    unfold Markdown.trimSpace Markdown.trimEndSpace Markdown.trimStartSpace
    cases htrimmed : dropEndWhile Markdown.isSpace ((Markdown.replaceEntities s).dropWhile Markdown.isSpace) with
    | nil => rfl
    | cons c more =>
      rw [htrimmed] at hstart
      simpa using hstart
  rw [Bool.eq_false_iff]
  exact fun h => Bool.eq_false_iff.mp htrim (hescape _ h)

/-- The HTML of a fence is read as one block with the escaped code, whatever the code is. -/
theorem regionsOf_fenceHtml (line code rest : List Char) :
    regionsOf (fenceHtml (Markdown.fenceInfo line) code ++ rest) =
      .block (fenceLanguage? (Markdown.fenceInfo line)) (escapeHtml code) :: regionsOf ('\n' :: rest) := by
  have hlanguage : ∀ name ∈ fenceLanguage? (Markdown.fenceInfo line), name ≠ [] ∧ '"' ∉ name := by
    have hstart := fenceInfo_start line
    generalize Markdown.fenceInfo line = info at hstart
    intro name hname
    cases info with
    | nil => cases hname
    | cons c info =>
      have hc : Markdown.isSpace c = false := hstart
      cases hname
      rw [List.takeWhile_cons_of_pos (by simp [hc])]
      refine ⟨?_, not_mem_escapeHtml (by decide) _⟩
      rw [escapeHtml, List.flatMap_cons]
      exact List.append_ne_nil_of_left_ne_nil (escapeHtmlChar_ne_nil c) _
  refine regionsOf_of_readRegion? ?_
  have hread := readRegion?_blockElement hlanguage (not_mem_escapeHtml (by decide) code) ('\n' :: rest)
  rwa [fenceHtml, List.append_assoc]

/-- A sample as HTML: coloured if that is wanted and the language is given. -/
def sampleHtml (coloured : Bool) (language : Option (List Char)) (code : List Char) : List Char :=
  match language with
  | some name => if coloured then Code.highlight code (String.ofList name) else escapeHtml code
  | none => escapeHtml code

theorem brings_sampleHtml (coloured : Bool) (language : Option (List Char)) (code : List Char) :
    Code.Brings (sampleHtml coloured language code) code := by
  unfold sampleHtml
  split
  · split
    · exact (Code.shown_highlight code _).brings
    · exact (Code.shown_escapeHtml code).brings
  · exact (Code.shown_escapeHtml code).brings

/--
**The code of a fence is what its author wrote.**

Reading back what was escaped yields the text itself, also where the text looks like entities. So a block gets the
HTML of the code it was made for, coloured or not, which brings that code to the reader. The HTML of a fence, with
which a page goes on, is found as the block with this code, which ends where the fence does.
-/
theorem fenced_code_restored (code : List Char) :
    unescapeHtml (escapeHtml code) = code ∧
    (∀ coloured language, blockCode coloured language (escapeHtml code) = sampleHtml coloured language code ∧
      Code.Brings (sampleHtml coloured language code) code) ∧
    ∀ line, (∀ p : Markdown.Page, (Markdown.codeHtml p (Markdown.fenceInfo line) code).output.reverse =
        p.freshLine.output.reverse ++ fenceHtml (Markdown.fenceInfo line) code) ∧
      ∀ rest, regionsOf (fenceHtml (Markdown.fenceInfo line) code ++ rest) =
        .block (fenceLanguage? (Markdown.fenceInfo line)) (escapeHtml code) :: regionsOf ('\n' :: rest) := by
  refine ⟨unescapeHtml_escapeHtml code, fun coloured language => ⟨?_, brings_sampleHtml coloured language code⟩,
    fun line => ⟨fun p => codeHtml_output p _ code, fun rest => regionsOf_fenceHtml line code rest⟩⟩
  show sampleHtml coloured language (unescapeHtml (escapeHtml code)) = _
  rw [unescapeHtml_escapeHtml]

/-- Text that looks like entities, and an entity that is read back but never written. -/
example : escapeHtml "&lt; &amp;quot; &#39; '".toList = "&amp;lt; &amp;amp;quot; &amp;#39; '".toList ∧
    unescapeHtml "&amp;lt; &amp;amp;quot; &amp;#39; '".toList = "&lt; &amp;quot; &#39; '".toList := by decide +kernel

end DeckPress.Component
