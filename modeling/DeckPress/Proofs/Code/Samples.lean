import DeckPress.Code.Highlight
import DeckPress.Component.Tag
import DeckPress.Proofs.Component.Brace

/-!
# Code samples reach the reader unchanged

On its way into a component a sample is coloured, escaped for HTML and protected from the template
compiler. The reader sees it without tags and with entities read back. The tags are only those of the
colours, so the layers can be taken off one after the other, each from the whole text: first the marks,
then the tags, then the entities.
-/

namespace DeckPress.Code

open Text

/-! ## Reading back -/

/-- Skips `skip` characters, then writes for every text of a table what the table has for it, left to right
and without overlap. -/
def substitute (table : List (String × String)) : Nat → List Char → List Char
  | _, [] => []
  | skip + 1, _ :: cs => substitute table skip cs
  | 0, c :: cs =>
    match table.find? fun e => startsWith e.1.toList (c :: cs) with
    | some (text, image) => image.toList ++ substitute table (text.toList.length - 1) cs
    | none => c :: substitute table 0 cs

/-- The tag in front of a token. -/
def openingTag (kind : TokenKind) : String := "<span class=\"token " ++ kind.name ++ "\">"

/-- The tag behind a token. -/
def closingTag : String := "</span>"

/-- The tags of the colours. -/
def tokenTags : List String :=
  ([TokenKind.comment, .string, .keyword, .number].map openingTag) ++ [closingTag]

/-- Drops the tags of the colours. -/
def dropTags (html : List Char) : List Char := substitute (tokenTags.map (·, "")) 0 html

/-- The entities that stand for characters of a sample. -/
def sampleEntities : List (String × String) :=
  [("&amp;", "&"), ("&lt;", "<"), ("&gt;", ">"), ("&quot;", "\""), ("&#92;", "\\")]

/-- Reads entities back. -/
def decode (html : List Char) : List Char := substitute sampleEntities 0 html

theorem substitute_skip (table : List (String × String)) (p s : List Char) :
    substitute table p.length (p ++ s) = substitute table 0 s := by
  induction p with
  | nil => rfl
  | cons c p ih => exact ih

/-- A table of which at most one text is found at any place. -/
structure Separate (table : List (String × String)) : Prop where
  nonempty : ∀ e ∈ table, e.1.toList ≠ []
  apart : ∀ e ∈ table, ∀ f ∈ table, e.1.toList <+: f.1.toList → e = f

theorem startsWith_iff {p s : List Char} : startsWith p s ↔ p <+: s := stripPrefix?_isSome

/-- Where a text of the table stands, its image is written. -/
theorem substitute_text {table : List (String × String)} (htable : Separate table) {text image : String}
    (hmem : (text, image) ∈ table) (s : List Char) :
    substitute table 0 (text.toList ++ s) = image.toList ++ substitute table 0 s := by
  have hfind : (table.find? fun e => startsWith e.1.toList (text.toList ++ s)) = some (text, image) := by
    cases hfound : table.find? fun e => startsWith e.1.toList (text.toList ++ s) with
    | none =>
      have hnot := List.find?_eq_none.mp hfound _ hmem
      exact absurd (startsWith_iff.mpr (List.prefix_append text.toList s)) hnot
    | some e =>
      have he := List.mem_of_find?_eq_some hfound
      have hstarts := List.find?_some hfound
      have hprefix := startsWith_iff.mp hstarts
      -- two beginnings of one text: one of them is a beginning of the other
      rcases List.prefix_or_prefix_of_prefix hprefix (List.prefix_append text.toList s) with h | h
      · rw [htable.apart e he _ hmem h]
      · rw [htable.apart _ hmem e he h]
  obtain ⟨c, p, htext⟩ := List.exists_cons_of_ne_nil (htable.nonempty _ hmem)
  rw [htext, List.cons_append] at hfind ⊢
  rw [substitute, hfind]
  show image.toList ++ substitute table (text.toList.length - 1) (p ++ s) = _
  rw [htext, List.length_cons, Nat.add_sub_cancel, substitute_skip]

/-- Where all texts of a table start with one character, the others are left as they are. -/
theorem substitute_other {table : List (String × String)} {x c : Char}
    (hstart : ∀ e ∈ table, e.1.toList.head? = some x) (hc : c ≠ x) (s : List Char) :
    substitute table 0 (c :: s) = c :: substitute table 0 s := by
  have hnone : (table.find? fun e => startsWith e.1.toList (c :: s)) = none := by
    rw [List.find?_eq_none]
    intro e he hstarts
    have hhead := hstart e he
    obtain ⟨p, hp⟩ := List.head?_eq_some_iff.mp hhead
    have hprefix := startsWith_iff.mp hstarts
    rw [hp] at hprefix
    exact hc (List.cons_prefix_cons.mp hprefix).1.symm
  rw [substitute, hnone]

theorem separate_tokenTags : Separate (tokenTags.map (·, "")) := ⟨by decide, by decide⟩

theorem separate_sampleEntities : Separate sampleEntities := ⟨by decide, by decide⟩

theorem dropTags_tag {tag : String} (h : tag ∈ tokenTags) (s : List Char) :
    dropTags (tag.toList ++ s) = dropTags s :=
  substitute_text separate_tokenTags (List.mem_map_of_mem h) s

/-- Only tags are dropped. -/
theorem dropTags_append {p : List Char} (h : '<' ∉ p) (s : List Char) :
    dropTags (p ++ s) = p ++ dropTags s := by
  have hstart : ∀ e ∈ tokenTags.map (·, ""), e.1.toList.head? = some '<' := by decide
  induction p with
  | nil => rfl
  | cons c p ih =>
    obtain ⟨hc, hp⟩ := List.ne_and_not_mem_of_not_mem_cons h
    rw [List.cons_append, List.cons_append, ← ih hp]
    exact substitute_other hstart hc.symm _

/-! ## How a sample is written -/

/-- A sample is written by writing its characters and putting some runs of them between tags. -/
inductive Shown (write : Char → List Char) : List Char → List Char → Prop where
  | nil : Shown write [] []
  | char (c : Char) {code html : List Char} : Shown write code html → Shown write (c :: code) (write c ++ html)
  | token (kind : TokenKind) (text : List Char) {code html : List Char} : Shown write code html →
      Shown write (text ++ code)
        ((openingTag kind).toList ++ (text.flatMap write ++ (closingTag.toList ++ html)))

theorem shown_escapeHtml (code : List Char) : Shown escapeHtmlChar code (escapeHtml code) := by
  induction code with
  | nil => exact .nil
  | cons c code ih => exact .char c ih

theorem span_eq (kind : TokenKind) (text : List Char) :
    span kind text = (openingTag kind).toList ++ (text.flatMap escapeHtmlChar ++ closingTag.toList) := by
  unfold span openingTag closingTag escapeHtml
  rw [String.toList_append, String.toList_append, List.append_assoc]

theorem shown_highlightFrom (l : Language) (before : Option Char) (code : List Char) :
    Shown escapeHtmlChar code (highlightFrom l before code) := by
  induction before, code using highlightFrom.induct l with
  | case1 before =>
    rw [highlightFrom]
    exact .nil
  | case2 before c cs kind n htoken text ih =>
    rw [highlightFrom, htoken]
    have hcut : c :: cs = text ++ cs.drop (n - 1) := by
      rw [List.cons_append, List.take_append_drop]
    show Shown _ (c :: cs) (span kind text ++ _)
    rw [hcut, span_eq, List.append_assoc, List.append_assoc]
    exact .token kind text ih
  | case3 before c cs htoken ih =>
    rw [highlightFrom, htoken]
    exact .char c ih

theorem shown_highlight (code : List Char) (language : String) :
    Shown escapeHtmlChar code (highlight code language) := by
  unfold highlight
  cases Language.find? language with
  | none => exact shown_escapeHtml code
  | some l => exact shown_highlightFrom l none code

/-- A character of a sample as the component has it. -/
def sampleChar (c : Char) : List Char := Component.Brace.entities (escapeHtmlChar c)

theorem entities_append (s t : List Char) :
    Component.Brace.entities (s ++ t) = Component.Brace.entities s ++ Component.Brace.entities t :=
  List.flatMap_append

theorem entities_of_not_mem {s : List Char} (h : '\\' ∉ s) : Component.Brace.entities s = s := by
  induction s with
  | nil => rfl
  | cons c s ih =>
    obtain ⟨hc, hs⟩ := List.ne_and_not_mem_of_not_mem_cons h
    have hself : Component.Brace.entities [c] = [c] := by simp [Component.Brace.entities, hc.symm]
    rw [← List.singleton_append, entities_append, hself, ih hs]

theorem entities_tag {tag : String} (h : tag ∈ tokenTags) :
    Component.Brace.entities tag.toList = tag.toList := by
  have hall : ∀ tag ∈ tokenTags, '\\' ∉ tag.toList := by decide
  exact entities_of_not_mem (hall tag h)

theorem openingTag_mem (kind : TokenKind) : openingTag kind ∈ tokenTags := by
  cases kind <;> decide

theorem closingTag_mem : closingTag ∈ tokenTags := by decide

/-- With backslashes as entities a sample is written in the same way, but for how its characters are. -/
theorem Shown.entities {code html : List Char} (h : Shown escapeHtmlChar code html) :
    Shown sampleChar code (Component.Brace.entities html) := by
  induction h with
  | nil => exact .nil
  | char c _ ih =>
    rw [entities_append]
    exact .char c ih
  | token kind text _ ih =>
    have htext : Component.Brace.entities (text.flatMap escapeHtmlChar) = text.flatMap sampleChar :=
      List.flatMap_assoc
    rw [entities_append, entities_append, entities_append, entities_tag (openingTag_mem kind),
      entities_tag closingTag_mem, htext]
    exact .token kind text ih

/-- Neither a less-than sign nor a double quote is written as it is. -/
theorem not_mem_escapeHtmlChar {x : Char} (hx : x ∈ ['<', '"']) (c : Char) : x ∉ escapeHtmlChar c := by
  have hentities : ∀ x ∈ ['<', '"'], x ∉ "&amp;&lt;&gt;&quot;".toList := by simp
  have hpart {entity : List Char} (h : entity ⊆ "&amp;&lt;&gt;&quot;".toList) : x ∉ entity :=
    fun hmem => hentities x hx (h hmem)
  unfold escapeHtmlChar
  split
  · exact hpart (by decide)
  · exact hpart (by decide)
  · exact hpart (by decide)
  · exact hpart (by decide)
  · rename_i _ hless _ hquote
    rw [List.mem_singleton]
    rintro rfl
    rcases List.mem_cons.mp hx with rfl | hx
    · exact hless rfl
    · exact hquote (List.mem_singleton.mp hx)

theorem not_mem_sampleChar {x : Char} (hx : x ∈ ['<', '"']) (c : Char) : x ∉ sampleChar c := by
  have hbackslash : ∀ x ∈ ['<', '"'], x ∉ "&#92;".toList := by simp
  intro h
  obtain ⟨y, hy, hmem⟩ := List.mem_flatMap.mp h
  split at hmem
  · exact hbackslash x hx hmem
  · cases List.mem_singleton.mp hmem
    exact not_mem_escapeHtmlChar hx c hy

theorem decode_sampleChar (c : Char) (s : List Char) : decode (sampleChar c ++ s) = c :: decode s := by
  have hentity (text image : String) (hmem : (text, image) ∈ sampleEntities) :
      decode (text.toList ++ s) = image.toList ++ decode s := substitute_text separate_sampleEntities hmem s
  unfold sampleChar escapeHtmlChar
  split
  · exact hentity "&amp;" "&" (by decide)
  · exact hentity "&lt;" "<" (by decide)
  · exact hentity "&gt;" ">" (by decide)
  · exact hentity "&quot;" "\"" (by decide)
  · rename_i hamp _ _ _
    by_cases hbackslash : c = '\\'
    · -- the backslash is made an entity afterwards, when code is protected
      subst hbackslash
      exact hentity "&#92;" "\\" (by decide)
    · have hself : Component.Brace.entities [c] = [c] :=
        entities_of_not_mem fun h => hbackslash (List.mem_singleton.mp h).symm
      have hstart : ∀ e ∈ sampleEntities, e.1.toList.head? = some '&' := by decide
      rw [hself]
      exact substitute_other hstart hamp s

theorem decode_text (text s : List Char) : decode (text.flatMap sampleChar ++ s) = text ++ decode s := by
  induction text with
  | nil => rfl
  | cons c text ih => rw [List.flatMap_cons, List.append_assoc, decode_sampleChar, ih, List.cons_append]

/-- Without tags, and with entities read back, a sample is what it was. -/
theorem Shown.read_back {code html : List Char} (h : Shown sampleChar code html) :
    decode (dropTags html) = code := by
  induction h with
  | nil => rfl
  | char c _ ih => rw [dropTags_append (not_mem_sampleChar (by decide) c), decode_sampleChar, ih]
  | token kind text _ ih =>
    have htext : '<' ∉ text.flatMap sampleChar := by
      rw [List.mem_flatMap]
      rintro ⟨c, -, hc⟩
      exact not_mem_sampleChar (by decide) c hc
    rw [dropTags_tag (openingTag_mem kind), dropTags_append htext, dropTags_tag closingTag_mem, decode_text, ih]

/-! ## Tags -/

/-- Every less-than sign starts a tag of the colours. -/
def Tagged (html : List Char) : Prop :=
  ∀ t, '<' :: t <:+ html → ∃ tag ∈ tokenTags, tag.toList <+: '<' :: t

theorem Tagged.append {p s : List Char} (hp : '<' ∉ p) (h : Tagged s) : Tagged (p ++ s) := by
  induction p with
  | nil => exact h
  | cons c p ih =>
    obtain ⟨hc, hp⟩ := List.ne_and_not_mem_of_not_mem_cons hp
    intro t ht
    rcases List.suffix_cons_iff.mp ht with heq | ht
    · cases heq
      exact absurd rfl hc
    · exact ih hp t ht

theorem Tagged.tag {tag : String} (htag : tag ∈ tokenTags) {s : List Char} (h : Tagged s) :
    Tagged (tag.toList ++ s) := by
  have hall : ∀ tag ∈ tokenTags, tag.toList.head? = some '<' ∧ '<' ∉ tag.toList.tail := by decide
  obtain ⟨hhead, htail⟩ := hall tag htag
  obtain ⟨p, hp⟩ := List.head?_eq_some_iff.mp hhead
  rw [hp, List.tail_cons] at htail
  intro t ht
  rw [hp, List.cons_append] at ht
  rcases List.suffix_cons_iff.mp ht with heq | ht
  · exact ⟨tag, htag, s, by rw [heq, hp, List.cons_append]⟩
  · exact h.append htail t ht

/-- A sample has no other tags than those of the colours. -/
theorem Shown.tagged {write : Char → List Char} (hwrite : ∀ c, '<' ∉ write c) {code html : List Char}
    (h : Shown write code html) : Tagged html := by
  induction h with
  | nil =>
    intro t ht
    cases List.suffix_nil.mp ht
  | char c _ ih => exact ih.append (hwrite c)
  | token kind text _ ih =>
    have htext : '<' ∉ text.flatMap write := by
      rw [List.mem_flatMap]
      rintro ⟨c, -, hc⟩
      exact hwrite c hc
    exact .tag (openingTag_mem kind) (.append htext (.tag closingTag_mem ih))

theorem Tagged.suffix {s t : List Char} (h : Tagged s) (hst : t <:+ s) : Tagged t :=
  fun u hu => h u (hu.trans hst)

/-- Where a less-than sign starts a text that is no tag of the colours, nor the beginning of one, this text
does not stand. -/
theorem Tagged.not_infix {html q : List Char} (h : Tagged html)
    (hq : ∀ tag ∈ tokenTags, ¬ tag.toList <+: '<' :: q ∧ ¬ '<' :: q <+: tag.toList) :
    ¬ '<' :: q <:+: html := by
  intro hinfix
  obtain ⟨t, ht, hsuffix⟩ := List.infix_iff_prefix_suffix.mp hinfix
  obtain ⟨r, rfl⟩ := ht
  obtain ⟨tag, htag, hprefix⟩ := h (q ++ r) hsuffix
  obtain ⟨hnot, hnot'⟩ := hq tag htag
  rcases List.prefix_or_prefix_of_prefix hprefix (List.prefix_append ('<' :: q) r) with h | h
  · exact hnot h
  · exact hnot' h

/-- Behind a less-than sign stands a slash or the name of the opening tags. -/
theorem Tagged.head {cs : List Char} (h : Tagged ('<' :: cs)) :
    cs.head? = some '/' ∨ ∃ rest, cs = "span ".toList ++ rest := by
  have hstart : ∀ tag ∈ tokenTags, "</".toList <+: tag.toList ∨ "<span ".toList <+: tag.toList := by
    decide
  obtain ⟨tag, htag, hprefix⟩ := h cs List.suffix_rfl
  rcases hstart tag htag with hslash | hspan
  · obtain ⟨rest, hrest⟩ := hslash.trans hprefix
    cases hrest
    exact .inl rfl
  · obtain ⟨rest, hrest⟩ := hspan.trans hprefix
    cases hrest
    exact .inr ⟨rest, rfl⟩

/-- The only opening tags are those of the colours. -/
theorem Tagged.openingTags {html : List Char} (h : Tagged html) :
    ∀ tag ∈ Component.openingTags html, tag = "span" := by
  -- what is left of a tagged text is tagged, wherever the search has come to
  suffices hgo : ∀ fuel s, Tagged s → ∀ tag ∈ Component.openingTags.go fuel s, tag = "span" from
    hgo html.length html h
  intro fuel
  induction fuel with
  | zero =>
    intro s _ tag htag
    rw [Component.openingTags.go] at htag
    nomatch htag
  | succ fuel ih =>
    intro s hs tag htag
    cases s with
    | nil =>
      rw [Component.openingTags.go] at htag
      nomatch htag
    | cons c cs =>
      have hcs : Tagged cs := hs.suffix (List.suffix_cons c cs)
      rw [Component.openingTags.go] at htag
      split at htag
      · rename_i hopening
        obtain ⟨hc, halpha⟩ := Bool.and_eq_true_iff.mp hopening
        cases of_decide_eq_true hc
        rcases List.mem_cons.mp htag with rfl | htag
        · rcases hs.head with hslash | ⟨rest, rfl⟩
          · rw [hslash] at halpha
            exact absurd halpha (by decide)
          · rfl
        · exact ih _ (hcs.suffix (List.dropWhile_suffix _)) tag htag
      · exact ih cs hcs tag htag

/-- The HTML of a sample brings the sample to the reader, and nothing else. -/
structure Brings (html code : List Char) : Prop where
  /-- Marks are taken out, tags are dropped, entities are read back. -/
  read_back : decode (dropTags (Component.Brace.unescape (Component.Brace.protect html))) = code
  /-- Every less-than sign belongs to a tag of the colours, -/
  tagged : Tagged html
  /-- and this stays so in the component. -/
  shown_tagged : Tagged (Component.Brace.unescape (Component.Brace.protect html))
  /-- The sample does not end its region. -/
  stays_open : ¬ "</code>".toList <:+: Component.Brace.unescape (Component.Brace.protect html)
  /-- The sample uses no component. -/
  spans : ∀ tag ∈ Component.openingTags (Component.Brace.unescape (Component.Brace.protect html)), tag = "span"

theorem Shown.brings {code html : List Char} (h : Shown escapeHtmlChar code html) : Brings html code := by
  have htagged : Tagged (Component.Brace.entities html) := h.entities.tagged (not_mem_sampleChar (by decide))
  constructor
  · rw [Component.Brace.unescape_protect]
    exact h.entities.read_back
  · exact h.tagged (not_mem_escapeHtmlChar (by decide))
  · rw [Component.Brace.unescape_protect]
    exact htagged
  · rw [Component.Brace.unescape_protect]
    exact htagged.not_infix (by decide)
  · rw [Component.Brace.unescape_protect]
    exact htagged.openingTags

/-- Every sample reaches the reader unchanged, whether it is coloured in some language or not. -/
theorem sample_unchanged (code : List Char) (language : String) :
    Brings (highlight code language) code ∧ Brings (escapeHtml code) code :=
  ⟨(shown_highlight code language).brings, (shown_escapeHtml code).brings⟩

example : Component.Brace.unescape (Component.Brace.protect (highlight "f(\"\\\x7b<\")".toList "js")) =
    "f(<span class=\"token string\">&quot;&#92;\x7b&lt;&quot;</span>)".toList := by decide +kernel

end DeckPress.Code
