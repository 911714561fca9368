import Mathlib.Data.List.Perm.Basic
import DeckPress.Proofs.Code.Samples
import DeckPress.Proofs.Component.Interpolation
import DeckPress.Proofs.Component.ScriptTags

/-!
# Fillings of a page

Two files that differ in their code samples only have one page in common: the component with empty samples.
Each component is that page with samples put in, wherever scripts and styles are moved: a sample stands between
the tags of its code element and has no tags but those of the colours, so whatever looks for an element passes
it over, and every sample is in the component once.
-/

namespace DeckPress.Component

open Text
open Code (Tagged tokenTags)

/-! ## Tags -/

/-- Every less-than sign starts one of these tags. -/
def OnlyTags (tags : List String) (html : List Char) : Prop :=
  ∀ t, '<' :: t <:+ html → ∃ tag ∈ tags, tag.toList <+: '<' :: t

namespace OnlyTags

variable {tags : List String} {a b : List Char}

theorem of_not_mem (h : '<' ∉ a) : OnlyTags tags a :=
  fun _ ht => absurd (ht.subset List.mem_cons_self) h

theorem append (ha : OnlyTags tags a) (hb : OnlyTags tags b) : OnlyTags tags (a ++ b) := by
  induction a with
  | nil => exact hb
  | cons c a ih =>
    intro t ht
    rcases List.suffix_cons_iff.mp ht with heq | ht
    · obtain ⟨rfl, rfl⟩ := List.cons.inj heq
      obtain ⟨tag, htag, hprefix⟩ := ha a List.suffix_rfl
      exact ⟨tag, htag, hprefix.trans (List.prefix_append _ b)⟩
    · exact ih (fun t ht => ha t (ht.trans (List.suffix_cons c a))) t ht

theorem tag {tag : String} (htag : tag ∈ tags) (htail : '<' ∉ tag.toList.tail) : OnlyTags tags tag.toList := by
  intro t ht
  cases htext : tag.toList with
  | nil =>
    rw [htext] at ht
    exact absurd ht.length_le (by simp)
  | cons c rest =>
    rw [htext] at ht htail
    rcases List.suffix_cons_iff.mp ht with heq | ht
    · exact ⟨tag, htag, by rw [htext, heq]⟩
    · exact absurd (ht.subset List.mem_cons_self) htail

end OnlyTags

/-- The start of the opening tag of a code element, and its closing tag. -/
def sampleTags : List String := ["<code", "</code>"]

def sampleStart : List Char := "<code".toList

def sampleEnd : List Char := "</code>".toList

/-- A code element. -/
def sampleElement (attributes body : List Char) : List Char :=
  sampleStart ++ (attributes ++ '>' :: (body ++ sampleEnd))

theorem sampleElement_eq (attributes body : List Char) :
    sampleElement attributes body = '<' :: ("code".toList ++ (attributes ++ '>' :: (body ++ sampleEnd))) := by
  have hstart : sampleStart = '<' :: "code".toList := by decide
  rw [sampleElement, hstart, List.cons_append]

theorem getLast?_sampleElement (attributes body : List Char) :
    (sampleElement attributes body).getLast? = some '>' := by
  have hshape : sampleElement attributes body = (sampleStart ++ (attributes ++ '>' :: body)) ++ sampleEnd := by
    simp [sampleElement]
  have hend : sampleEnd.getLast? = some '>' := by decide
  rw [hshape, List.getLast?_append, hend, Option.some_or]

/-- What a sample can be: it is free of backslashes, and has no tags but those of the colours. -/
structure IsSampleText (body : List Char) : Prop where
  plain : '\\' ∉ body
  tagged : Tagged body

theorem onlyTags_sampleElement {attributes body : List Char} (hattributes : '<' ∉ attributes)
    (hbody : Tagged body) :
    OnlyTags (sampleTags ++ tokenTags) (sampleElement attributes body) := by
  have hstart : OnlyTags (sampleTags ++ tokenTags) sampleStart := .tag (by decide) (by decide)
  have hend : OnlyTags (sampleTags ++ tokenTags) sampleEnd := .tag (by decide) (by decide)
  have hmiddle : OnlyTags (sampleTags ++ tokenTags) body := fun t ht => by
    obtain ⟨tag, htag, hprefix⟩ := hbody t ht
    exact ⟨tag, List.mem_append_right _ htag, hprefix⟩
  have hopen : OnlyTags (sampleTags ++ tokenTags) (attributes ++ ['>']) := .of_not_mem (by simp [hattributes])
  have hall := hstart.append (hopen.append (hmiddle.append hend))
  rwa [List.append_assoc, List.singleton_append] at hall

/-- A tag that is looked for, or the beginning of one: it is neither one of a sample's tags nor the beginning of
one, nor the other way round. -/
structure IsMark (mark : List Char) : Prop where
  start : mark.head? = some '<'
  only : '<' ∉ mark.tail
  apart : ∀ tag ∈ sampleTags ++ tokenTags, ¬ tag.toList <+: mark ∧ ¬ mark <+: tag.toList

instance (mark : List Char) : Decidable (IsMark mark) :=
  decidable_of_iff (mark.head? = some '<' ∧ '<' ∉ mark.tail ∧
    ∀ tag ∈ sampleTags ++ tokenTags, ¬ tag.toList <+: mark ∧ ¬ mark <+: tag.toList)
    ⟨fun h => ⟨h.1, h.2.1, h.2.2⟩, fun h => ⟨h.start, h.only, h.apart⟩⟩

/-- No mark starts inside a text that has only a sample's tags. -/
theorem IsMark.not_prefix {mark t : List Char} (h : IsMark mark) (ht : OnlyTags (sampleTags ++ tokenTags) t)
    (hsome : t ≠ []) (s : List Char) : ¬ mark <+: t ++ s := by
  intro hprefix
  obtain ⟨rest, hmark⟩ := List.head?_eq_some_iff.mp h.start
  obtain ⟨c, t, rfl⟩ := List.exists_cons_of_ne_nil hsome
  have hc : '<' = c := by
    rw [hmark, List.cons_append] at hprefix
    exact (List.cons_prefix_cons.mp hprefix).1
  subst hc
  obtain ⟨tag, htag, hstarts⟩ := ht t List.suffix_rfl
  obtain ⟨hnot, hnot'⟩ := h.apart tag htag
  rcases List.prefix_or_prefix_of_prefix (hstarts.trans (List.prefix_append _ s)) hprefix with h | h
  · exact hnot h
  · exact hnot' h

/-! ## Texts with samples put in -/

/-- The first text is the second with these samples put into empty code elements. -/
inductive Filled : List (List Char) → List Char → List Char → Prop where
  | nil : Filled [] [] []
  | keep (c : Char) {bodies : List (List Char)} {s e : List Char} : Filled bodies s e →
      Filled bodies (c :: s) (c :: e)
  | sample {attributes body : List Char} {bodies : List (List Char)} {s e : List Char} : '<' ∉ attributes →
      IsSampleText body → Filled bodies s e →
      Filled (body :: bodies) (sampleElement attributes body ++ s) (sampleElement attributes [] ++ e)

namespace Filled

variable {bodies bodies' : List (List Char)} {s s' e e' : List Char}

theorem refl : ∀ s : List Char, Filled [] s s
  | [] => .nil
  | c :: s => .keep c (refl s)

theorem append (h : Filled bodies s e) (h' : Filled bodies' s' e') :
    Filled (bodies ++ bodies') (s ++ s') (e ++ e') := by
  induction h with
  | nil => exact h'
  | keep c _ ih => exact .keep c ih
  | sample hattributes hbody _ ih =>
    rw [List.append_assoc, List.append_assoc]
    exact .sample hattributes hbody ih

/-- One sample, with what stands around it. -/
theorem framed {attributes body : List Char} (hattributes : '<' ∉ attributes) (hbody : IsSampleText body)
    (front rest : List Char) :
    Filled [body] (front ++ (sampleElement attributes body ++ rest))
      (front ++ (sampleElement attributes [] ++ rest)) :=
  (refl front).append (.sample hattributes hbody (refl rest))

/-- Where there is no tag nothing is put in. -/
theorem eq_of_not_mem (h : Filled bodies s e) (he : '>' ∉ e) : bodies = [] ∧ s = e := by
  induction h with
  | nil => exact ⟨rfl, rfl⟩
  | keep c _ ih =>
    obtain ⟨rfl, rfl⟩ := ih (List.ne_and_not_mem_of_not_mem_cons he).2
    exact ⟨rfl, rfl⟩
  | sample => exact absurd (by simp [sampleElement]) he

/-! ### Prefixes and occurrences -/

/-- Two texts have been read up to `a` and `b`, and the samples are divided between what was read and what is
left. -/
structure Read (taken left : List (List Char)) (s e a b : List Char) : Prop where
  rest : Filled left a b
  front : ∃ p q, Filled taken p q ∧ s = p ++ a ∧ e = q ++ b

namespace Read

variable {taken taken' left left' : List (List Char)} {a b c d : List Char}

theorem start (h : Filled bodies s e) : Read [] bodies s e s e := ⟨h, [], [], .nil, rfl, rfl⟩

theorem trans (h : Read taken left s e a b) (h' : Read taken' left' a b c d) :
    Read (taken ++ taken') left' s e c d := by
  obtain ⟨p, q, hpq, rfl, rfl⟩ := h.front
  obtain ⟨p', q', hpq', rfl, rfl⟩ := h'.front
  exact ⟨h'.rest, p ++ p', q ++ q', hpq.append hpq', (List.append_assoc ..).symm, (List.append_assoc ..).symm⟩

theorem keep (x : Char) (h : Read taken left s e a b) : Read taken left (x :: s) (x :: e) a b := by
  obtain ⟨p, q, hpq, rfl, rfl⟩ := h.front
  exact ⟨h.rest, x :: p, x :: q, .keep x hpq, rfl, rfl⟩

theorem sample {attributes body : List Char} (hattributes : '<' ∉ attributes) (hbody : IsSampleText body)
    (h : Read taken left s e a b) :
    Read (body :: taken) left (sampleElement attributes body ++ s) (sampleElement attributes [] ++ e) a b := by
  obtain ⟨p, q, hpq, rfl, rfl⟩ := h.front
  exact ⟨h.rest, sampleElement attributes body ++ p, sampleElement attributes [] ++ q,
    .sample hattributes hbody hpq, (List.append_assoc ..).symm, (List.append_assoc ..).symm⟩

theorem take (h : Read taken left s e a b) :
    Filled taken (s.take (s.length - a.length)) (e.take (e.length - b.length)) := by
  obtain ⟨p, q, hpq, rfl, rfl⟩ := h.front
  simpa using hpq

end Read

theorem head?_any {p : Char → Bool} (h : Filled bodies s e) : s.head?.any p = e.head?.any p := by
  cases h <;> rfl

/-- No sample is in a text without tags. -/
theorem stripPrefix?_plain {text : List Char} (htext : '<' ∉ text) (h : Filled bodies s e) :
    Option.Rel (Read [] bodies s e) (Text.stripPrefix? text s) (Text.stripPrefix? text e) := by
  induction text generalizing s e with
  | nil =>
    rw [Text.stripPrefix?, Text.stripPrefix?]
    exact .some (.start h)
  | cons x text ih =>
    obtain ⟨hx, htext⟩ := List.ne_and_not_mem_of_not_mem_cons htext
    cases h with
    | nil => exact .none
    | @keep c _ s e h =>
      rw [Text.stripPrefix?, Text.stripPrefix?]
      split
      · have hrest := ih htext h
        generalize Text.stripPrefix? text s = a at hrest
        generalize Text.stripPrefix? text e = b at hrest
        cases hrest with
        | none => exact .none
        | some hread => exact .some (hread.keep c)
      · exact .none
    | sample =>
      have hnone (rest : List Char) : Text.stripPrefix? (x :: text) ('<' :: rest) = none := if_neg (Ne.symm hx)
      show Option.Rel _ (Text.stripPrefix? (x :: text) ('<' :: _)) (Text.stripPrefix? (x :: text) ('<' :: _))
      rw [hnone, hnone]
      exact .none

theorem stripPrefix? {mark : List Char} (hmark : IsMark mark) (h : Filled bodies s e) :
    Option.Rel (Read [] bodies s e) (Text.stripPrefix? mark s) (Text.stripPrefix? mark e) := by
  obtain ⟨rest, hstart⟩ := List.head?_eq_some_iff.mp hmark.start
  have honly := hmark.only
  cases h with
  | nil =>
    rw [hstart]
    exact .none
  | @keep c _ s e h =>
    rw [hstart, List.tail_cons] at honly
    rw [hstart, Text.stripPrefix?, Text.stripPrefix?]
    split
    · have hrest := h.stripPrefix?_plain honly
      generalize Text.stripPrefix? rest s = a at hrest
      generalize Text.stripPrefix? rest e = b at hrest
      cases hrest with
      | none => exact .none
      | some hread => exact .some (hread.keep c)
    · exact .none
  | @sample attributes body _ s e hattributes hbody h =>
    have hnone {body : List Char} (hbody : Tagged body) (s : List Char) :
        Text.stripPrefix? mark (sampleElement attributes body ++ s) = none :=
      stripPrefix?_eq_none.mpr (hmark.not_prefix (onlyTags_sampleElement hattributes hbody) (List.cons_ne_nil _ _) s)
    rw [hnone hbody.tagged, hnone fun t ht => absurd ht.length_le (by simp)]
    exact .none

/-- What starts nowhere in the beginning of a text is looked for behind it. -/
theorem splitAt?_skip {mark x : List Char} {s : List Char} (h : ∀ t, t ≠ [] → t <:+ x → ¬ mark <+: t ++ s) :
    Text.splitAt? mark (x ++ s) = (Text.splitAt? mark s).map fun found => (x ++ found.1, found.2) := by
  induction x with
  | nil => cases hsplit : Text.splitAt? mark s <;> simp [hsplit]
  | cons c x ih =>
    have hhere : Text.stripPrefix? mark (c :: (x ++ s)) = none :=
      stripPrefix?_eq_none.mpr (h (c :: x) (List.cons_ne_nil c x) List.suffix_rfl)
    rw [List.cons_append, Text.splitAt?, hhere]
    dsimp only
    rw [ih fun t hsome ht => h t hsome (ht.trans (List.suffix_cons c x)), Option.map_map]
    rfl

theorem splitAt?_sample {mark attributes body : List Char} (hmark : IsMark mark) (hattributes : '<' ∉ attributes)
    (hbody : Tagged body) (s : List Char) :
    Text.splitAt? mark (sampleElement attributes body ++ s) =
      (Text.splitAt? mark s).map fun found => (sampleElement attributes body ++ found.1, found.2) :=
  splitAt?_skip fun _ hsome ht => hmark.not_prefix
    (fun u hu => onlyTags_sampleElement hattributes hbody u (hu.trans ht)) hsome s

theorem tagged_nil : Tagged [] := fun _ ht => absurd ht.length_le (by simp)

theorem splitAt? {mark : List Char} (hmark : IsMark mark) (h : Filled bodies s e) :
    Option.Rel
      (fun a b => ∃ taken left, bodies = taken ++ left ∧ Filled taken a.1 b.1 ∧ Read taken left s e a.2 b.2)
      (Text.splitAt? mark s) (Text.splitAt? mark e) := by
  induction h with
  | nil =>
    obtain ⟨rest, hstart⟩ := List.head?_eq_some_iff.mp hmark.start
    rw [hstart]
    exact .none
  | @keep c bodies s e h ih =>
    have hhere := (Filled.keep c h).stripPrefix? hmark
    rw [Text.splitAt?, Text.splitAt?]
    generalize Text.stripPrefix? mark (c :: s) = a at hhere
    generalize Text.stripPrefix? mark (c :: e) = b at hhere
    cases hhere with
    | some hread => exact .some ⟨[], bodies, rfl, .nil, hread⟩
    | none =>
      generalize Text.splitAt? mark s = found at ih
      generalize Text.splitAt? mark e = found' at ih
      cases ih with
      | none => exact .none
      | some hboth =>
        obtain ⟨taken, left, hdivided, hfront, hread⟩ := hboth
        exact .some ⟨taken, left, hdivided, .keep c hfront, hread.keep c⟩
  | @sample attributes body bodies s e hattributes hbody h ih =>
    rw [splitAt?_sample hmark hattributes hbody.tagged, splitAt?_sample hmark hattributes tagged_nil]
    generalize Text.splitAt? mark s = found at ih
    generalize Text.splitAt? mark e = found' at ih
    cases ih with
    | none => exact .none
    | some hboth =>
      obtain ⟨taken, left, hdivided, hfront, hread⟩ := hboth
      exact .some ⟨body :: taken, left, by rw [hdivided, List.cons_append], .sample hattributes hbody hfront,
        hread.sample hattributes hbody⟩

/-- The end of a tag in which no other one starts is found without reading a sample. -/
theorem splitAt?_bracket (h : Filled bodies s e) (hopen : ∀ found ∈ Text.splitAt? ['>'] e, '<' ∉ found.1) :
    Option.Rel (fun a b => a.1 = b.1 ∧ Read [] bodies s e a.2 b.2)
      (Text.splitAt? ['>'] s) (Text.splitAt? ['>'] e) := by
  induction h with
  | nil => exact .none
  | @keep c bodies s e h ih =>
    by_cases hc : c = '>'
    · subst hc
      rw [splitAt?_here, splitAt?_here]
      exact .some ⟨rfl, (Read.start h).keep '>'⟩
    · rw [splitAt?_cons hc] at hopen ⊢
      rw [splitAt?_cons hc]
      have hrest := ih fun found hfound hmem =>
        hopen _ (Option.mem_map_of_mem _ hfound) (List.mem_cons_of_mem c hmem)
      generalize Text.splitAt? ['>'] s = found at hrest
      generalize Text.splitAt? ['>'] e = found' at hrest
      cases hrest with
      | none => exact .none
      | some hboth => exact .some ⟨congrArg (c :: ·) hboth.1, hboth.2.keep c⟩
  | @sample attributes body bodies s e hattributes hbody h ih =>
    -- the sample has an opening tag, so another tag would start in this one
    rw [sampleElement_eq, List.cons_append, splitAt?_cons (by decide)] at hopen
    cases hfound : Text.splitAt? ['>'] ("code".toList ++ (attributes ++ '>' :: ([] ++ sampleEnd)) ++ e) with
    | none => exact absurd (by simp [List.singleton_infix_iff]) (splitAt?_eq_none.mp hfound)
    | some found => exact absurd List.mem_cons_self (hopen _ (Option.mem_map_of_mem _ hfound))

theorem read_behind (h : Filled bodies s e) :
    Read [] bodies s e (Brace.Marked.behind s) (Brace.Marked.behind e) := by
  cases h with
  | nil => exact .start .nil
  | @keep c _ s e h =>
    unfold Brace.Marked.behind
    split
    · rename_i heq
      cases heq
      exact (Read.start h).keep '\n'
    · rename_i hne
      split
      · rename_i heq
        cases heq
        exact absurd rfl (hne _)
      · exact .start (.keep c h)
  | sample hattributes hbody h => exact .start (.sample hattributes hbody h)

/-! ### White space -/

variable {p : Char → Bool}

theorem dropWhile (hp : p '<' = false) (h : Filled bodies s e) :
    Filled bodies (s.dropWhile p) (e.dropWhile p) := by
  induction h with
  | nil => exact .nil
  | keep c h ih =>
    rw [List.dropWhile_cons, List.dropWhile_cons]
    split
    · exact ih
    · exact .keep c h
  | @sample attributes body _ s e hattributes hbody h _ =>
    have hstay (body s : List Char) : (sampleElement attributes body ++ s).dropWhile p =
        sampleElement attributes body ++ s := by
      rw [sampleElement_eq, List.cons_append, List.dropWhile_cons_of_neg (by simp [hp])]
    rw [hstay, hstay]
    exact .sample hattributes hbody h

theorem all_eq (hp : p '<' = false) (h : Filled bodies s e) : s.all p = e.all p := by
  induction h with
  | nil => rfl
  | keep c _ ih => rw [List.all_cons, List.all_cons, ih]
  | sample =>
    rw [sampleElement_eq, sampleElement_eq, List.cons_append, List.cons_append, List.all_cons, List.all_cons, hp,
      Bool.false_and, Bool.false_and]

/-- What ends otherwise stays, whatever is dropped behind it. -/
theorem dropEndWhile_front {x : List Char} (hx : ∀ c ∈ x.getLast?, p c = false) (s : List Char) :
    Text.dropEndWhile p (x ++ s) = x ++ Text.dropEndWhile p s := by
  obtain ⟨rest, hs, hrest, hlast⟩ := exists_dropEndWhile p s
  have hfront : ∀ c ∈ (x ++ Text.dropEndWhile p s).getLast?, p c = false := by
    intro c hc
    rw [List.getLast?_append] at hc
    cases hend : (Text.dropEndWhile p s).getLast? with
    | none => rw [hend, Option.none_or] at hc; exact hx c hc
    | some d => rw [hend, Option.some_or] at hc; exact hlast c (hend ▸ hc)
  conv_lhs => rw [hs, ← List.append_assoc]
  exact dropEndWhile_append hrest hfront

theorem dropEndWhile (hp : p '<' = false) (hp' : p '>' = false) (h : Filled bodies s e) :
    Filled bodies (Text.dropEndWhile p s) (Text.dropEndWhile p e) := by
  induction h with
  | nil => exact .nil
  | @keep c _ s e h ih =>
    rw [Brace.Marked.dropEndWhile_cons, Brace.Marked.dropEndWhile_cons, h.all_eq hp]
    split
    · rename_i hall
      -- only white space is left, so no sample is
      have hnone : '>' ∉ e := fun hmem => by
        have hwhite := List.all_eq_true.mp (Bool.and_eq_true_iff.mp hall).1 _ hmem
        rw [hp'] at hwhite
        cases hwhite
      rw [(h.eq_of_not_mem hnone).1]
      exact .nil
    · exact .keep c ih
  | @sample attributes body _ s e hattributes hbody h ih =>
    have hends (body : List Char) : ∀ c ∈ (sampleElement attributes body).getLast?, p c = false := by
      intro c hc
      rw [getLast?_sampleElement] at hc
      rw [← Option.some.inj hc, hp']
    rw [dropEndWhile_front (hends body), dropEndWhile_front (hends [])]
    exact .sample hattributes hbody ih

theorem trim (h : Filled bodies s e) : Filled bodies (Text.trim s) (Text.trim e) :=
  (h.dropWhile (by decide)).dropEndWhile (by decide) (by decide)

end Filled

/-! ## Elements -/

/-- Elements that differ in samples. -/
structure FilledElement (bodies : List (List Char)) (a b : Element) : Prop where
  attributes : a.attributes = b.attributes
  content : Filled bodies a.content b.content
  whole : Filled bodies a.whole b.whole

/-- Wherever the name of an element stands behind a less-than sign, no tag starts in front of the next bracket. -/
def TagsApart (name : String) (html : List Char) : Prop :=
  ∀ t, t <:+ html → ∀ found ∈ (stripPrefix? ('<' :: name.toList) t).bind (splitAt? ['>']), '<' ∉ found.1

instance (name : String) (html : List Char) : Decidable (TagsApart name html) :=
  decidable_of_iff (html.tails.all fun t =>
      ((stripPrefix? ('<' :: name.toList) t).bind (splitAt? ['>'])).all fun found => !found.1.contains '<') <| by
    simp only [List.all_eq_true, List.mem_tails, TagsApart]
    refine forall₂_congr fun t _ => ?_
    cases (stripPrefix? ('<' :: name.toList) t).bind (splitAt? ['>']) <;> simp

theorem TagsApart.suffix {name : String} {s t : List Char} (h : TagsApart name s) (ht : t <:+ s) :
    TagsApart name t := fun u hu => h u (hu.trans ht)

/-- The tags that an element is read by. -/
structure IsElementName (name : String) : Prop where
  opening : IsMark ('<' :: name.toList)
  closing : IsMark (Brace.Marked.closingTag name)

namespace Filled

variable {bodies : List (List Char)} {s e : List Char} {name : String}

theorem readElement? (hname : IsElementName name) (h : Filled bodies s e) (hopen : TagsApart name e) :
    Option.Rel (fun a b => b.2 <:+ e ∧
        ∃ taken left, bodies = taken ++ left ∧ FilledElement taken a.1 b.1 ∧ Filled left a.2 b.2)
      (Component.readElement? name s) (Component.readElement? name e) := by
  rw [Brace.Marked.readElement?_eq, Brace.Marked.readElement?_eq]
  have hstart := h.stripPrefix? hname.opening
  have hbracket := hopen e List.suffix_rfl
  generalize Text.stripPrefix? ('<' :: name.toList) s = a at hstart
  generalize Text.stripPrefix? ('<' :: name.toList) e = b at hstart hbracket
  cases hstart with
  | none => exact .none
  | @some s₁ e₁ h₁ =>
    rw [Option.bind_some, Option.bind_some, h₁.rest.head?_any]
    split
    · exact .none
    have hattributes := h₁.rest.splitAt?_bracket hbracket
    refine Brace.Marked.bind_rel hattributes ?_
    rintro ⟨attributes, s₂⟩ ⟨attributes', e₂⟩ ⟨hsame, h₂⟩
    refine Brace.Marked.bind_rel (h₂.rest.splitAt? hname.closing) ?_
    rintro ⟨content, s₃⟩ ⟨content', e₃⟩ ⟨taken, left, hdivided, hcontent, h₃⟩
    have hread := h₁.trans (h₂.trans (h₃.trans h₃.rest.read_behind))
    simp only [List.nil_append, List.append_nil] at hread
    obtain ⟨p, q, -, -, hsuffix⟩ := hread.front
    exact .some ⟨⟨q, hsuffix.symm⟩, taken, left, hdivided, ⟨hsame, hcontent, hread.take⟩, hread.rest⟩

end Filled

/-- Lists of elements that differ in samples. -/
inductive FilledElements : List (List Char) → List Element → List Element → Prop where
  | nil : FilledElements [] [] []
  | cons {bodies others : List (List Char)} {a b : Element} {as bs : List Element} : FilledElement bodies a b →
      FilledElements others as bs → FilledElements (bodies ++ others) (a :: as) (b :: bs)

theorem cutElements_cons (name : String) (c : Char) (cs : List Char) :
    cutElements name (c :: cs) =
      match readElement? name (c :: cs) with
      | some (e, rest) => ((cutElements name rest).1, e :: (cutElements name rest).2)
      | none => (c :: (cutElements name cs).1, (cutElements name cs).2) := by
  unfold cutElements
  rw [List.length_cons, cutElements.go]
  cases hread : readElement? name (c :: cs) with
  | none => rfl
  | some found =>
    have hshorter := Brace.Marked.readElement?_length hread
    dsimp only
    rw [cutElements_go_eq (Nat.le_of_lt_succ hshorter) (Nat.le_refl _)]

/-- Where no element starts in the beginning of a text, the elements are those behind it. -/
theorem cutElements_skip {name : String} {x s : List Char}
    (h : ∀ t, t ≠ [] → t <:+ x → ¬ ('<' :: name.toList) <+: t ++ s) :
    cutElements name (x ++ s) = (x ++ (cutElements name s).1, (cutElements name s).2) := by
  induction x with
  | nil => rfl
  | cons c x ih =>
    have hhere : stripPrefix? ('<' :: name.toList) (c :: (x ++ s)) = none :=
      stripPrefix?_eq_none.mpr (h (c :: x) (List.cons_ne_nil c x) List.suffix_rfl)
    rw [List.cons_append, cutElements_cons, Brace.Marked.readElement?_eq, hhere, Option.bind_none]
    dsimp only
    rw [ih fun t hsome ht => h t hsome (ht.trans (List.suffix_cons c x))]
    rfl

/-- Elements are cut out of a text where they are cut out of its page, and each sample is in one of them or in
what is left. -/
theorem Filled.cutElements {name : String} (hname : IsElementName name) {bodies : List (List Char)}
    {s e : List Char} (h : Filled bodies s e) (hopen : TagsApart name e) :
    ∃ taken left, bodies.Perm (left ++ taken) ∧
      Filled left (Component.cutElements name s).1 (Component.cutElements name e).1 ∧
      FilledElements taken (Component.cutElements name s).2 (Component.cutElements name e).2 := by
  generalize hlength : e.length = n
  induction n using Nat.strong_induction_on generalizing bodies s e with
  | _ n ih =>
    subst hlength
    cases h with
    | nil => exact ⟨[], [], .nil, .nil, .nil⟩
    | @keep c _ s e h =>
      have hread := (Filled.keep c h).readElement? hname hopen
      rw [cutElements_cons, cutElements_cons]
      cases hs : Component.readElement? name (c :: s) <;> cases he : Component.readElement? name (c :: e) <;>
        rw [hs, he] at hread <;> cases hread
      · obtain ⟨taken, left, hperm, htext, helements⟩ :=
          ih e.length (Nat.lt_succ_self _) h (hopen.suffix (List.suffix_cons c e)) rfl
        exact ⟨taken, left, hperm, .keep c htext, helements⟩
      · rename_i hboth
        obtain ⟨hsuffix, here, behind, hdivided, helement, hrest⟩ := hboth
        obtain ⟨taken, left, hperm, htext, helements⟩ :=
          ih _ (Brace.Marked.readElement?_length he) hrest (hopen.suffix hsuffix) rfl
        refine ⟨here ++ taken, left, ?_, htext, .cons helement helements⟩
        rw [hdivided]
        exact (hperm.append_left here).trans (List.perm_append_comm_assoc here left taken)
    | @sample attributes body bodies s e hattributes hbody h =>
      have hpass {body : List Char} (hbody : Tagged body) (s : List Char) :
          Component.cutElements name (sampleElement attributes body ++ s) =
            (sampleElement attributes body ++ (Component.cutElements name s).1, (Component.cutElements name s).2) :=
        cutElements_skip fun _ hsome ht => hname.opening.not_prefix
          (fun u hu => onlyTags_sampleElement hattributes hbody u (hu.trans ht)) hsome s
      have hshorter : e.length < (sampleElement attributes [] ++ e).length := by
        rw [sampleElement_eq, List.cons_append, List.length_cons, List.length_append]
        omega
      obtain ⟨taken, left, hperm, htext, helements⟩ :=
        ih _ hshorter h (hopen.suffix (List.suffix_append _ e)) rfl
      rw [hpass hbody.tagged, hpass tagged_nil]
      exact ⟨taken, body :: left, hperm.cons body, .sample hattributes hbody htext, helements⟩

/-! ## What is taken out of a template -/

/-- Lists of texts that differ in samples. -/
inductive FilledTexts : List (List Char) → List (List Char) → List (List Char) → Prop where
  | nil : FilledTexts [] [] []
  | cons {bodies others : List (List Char)} {s e : List Char} {ss es : List (List Char)} : Filled bodies s e →
      FilledTexts others ss es → FilledTexts (bodies ++ others) (s :: ss) (e :: es)

theorem FilledTexts.append {bodies others : List (List Char)} {ss es ss' es' : List (List Char)}
    (h : FilledTexts bodies ss es) (h' : FilledTexts others ss' es') :
    FilledTexts (bodies ++ others) (ss ++ ss') (es ++ es') := by
  induction h with
  | nil => exact h'
  | cons hfirst _ ih =>
    rw [List.append_assoc]
    exact .cons hfirst ih

theorem FilledTexts.flatMap {bodies : List (List Char)} {ss es : List (List Char)} (h : FilledTexts bodies ss es)
    (before after : List Char) :
    Filled bodies (ss.flatMap fun s => before ++ (trim s ++ after))
      (es.flatMap fun s => before ++ (trim s ++ after)) := by
  induction h with
  | nil => exact .nil
  | cons hfirst _ ih =>
    rw [List.flatMap_cons, List.flatMap_cons]
    have hhere := (Filled.refl before).append (hfirst.trim.append (.refl after))
    rw [List.nil_append, List.append_nil] at hhere
    exact hhere.append ih

namespace FilledElements

variable {bodies : List (List Char)} {as bs : List Element}

theorem attributes (h : FilledElements bodies as bs) : as.map Element.attributes = bs.map Element.attributes := by
  induction h with
  | nil => rfl
  | cons hfirst _ ih => rw [List.map_cons, List.map_cons, hfirst.attributes, ih]

theorem whole (h : FilledElements bodies as bs) :
    FilledTexts bodies (as.map Element.whole) (bs.map Element.whole) := by
  induction h with
  | nil => exact .nil
  | cons hfirst _ ih => exact .cons hfirst.whole ih

/-- Elements are divided by their attributes, and their samples with them. -/
theorem divide (h : FilledElements bodies as bs) (p : List Char → Bool) :
    ∃ left right, bodies.Perm (left ++ right) ∧
      FilledTexts left ((as.filter (p ·.attributes)).map Element.content)
        ((bs.filter (p ·.attributes)).map Element.content) ∧
      FilledTexts right ((as.filter (!p ·.attributes)).map Element.whole)
        ((bs.filter (!p ·.attributes)).map Element.whole) := by
  induction h with
  | nil => exact ⟨[], [], .nil, .nil, .nil⟩
  | @cons here others a b as bs hfirst h ih =>
    obtain ⟨left, right, hperm, hleft, hright⟩ := ih
    cases hp : p b.attributes with
    | true =>
      simp only [List.filter_cons, hfirst.attributes, hp, Bool.not_true, Bool.false_eq_true, if_true, if_false,
        List.map_cons]
      refine ⟨here ++ left, right, ?_, .cons hfirst.content hleft, hright⟩
      rw [List.append_assoc]
      exact hperm.append_left here
    | false =>
      simp only [List.filter_cons, hfirst.attributes, hp, Bool.not_false, Bool.false_eq_true, if_true, if_false,
        List.map_cons]
      refine ⟨left, here ++ right, ?_, hleft, .cons hfirst.whole hright⟩
      exact (hperm.append_left here).trans (List.perm_append_comm_assoc here left right)

end FilledElements

/-- What stands in scripts and styles of a page is apart from its samples. -/
structure Tidy (html : List Char) : Prop where
  scripts : TagsApart "script" html
  styles : TagsApart "style" (cutElements "script" html).1

theorem isElementName_script : IsElementName "script" := ⟨by decide, by decide⟩

theorem isElementName_style : IsElementName "style" := ⟨by decide, by decide⟩

/-- A component is put together of what was cut out, and each sample is put in once. -/
theorem filled_assemble {bodies : List (List Char)} {s e : List Char} (h : Filled bodies s e) (htidy : Tidy e)
    (o : MarkdownOptions) (fields : Fields) :
    ∃ bodies', bodies.Perm bodies' ∧
      Filled bodies' (Component.assemble o fields (Text.trim (hoist s).1) (hoist s).2).toList
        (Component.assemble o fields (Text.trim (hoist e).1) (hoist e).2).toList := by
  obtain ⟨inScripts, left, hperm, htext, hscripts⟩ := h.cutElements isElementName_script htidy.scripts
  obtain ⟨inStyles, left', hperm', htemplate, hstyles⟩ := htext.cutElements isElementName_style htidy.styles
  obtain ⟨inSetup, inOthers, hdivided, hsetup, hothers⟩ := hscripts.divide (containsWord "setup")
  have htypescript : (hoist s).2.typescript = (hoist e).2.typescript := by
    show (cutElements "script" s).2.any _ = (cutElements "script" e).2.any _
    have hany (es : List Element) : es.any (namesTypeScript none ·.attributes) =
        (es.map Element.attributes).any (namesTypeScript none) := by rw [List.any_map]; rfl
    rw [hany, hany, hscripts.attributes]
  have hblocks := (hothers.append hstyles.whole).flatMap ['\n'] ['\n']
  have hcalls := hsetup.flatMap [] ['\n']
  have hall := (Filled.refl (frontText o fields)).append ((Filled.refl (classText o fields)).append
    ((Filled.refl (openText o fields)).append (htemplate.trim.append
      ((Filled.refl (headText o (hoist e).2.typescript)).append ((Filled.refl (Json.text (.obj fields)).toList).append
        ((Filled.refl (exposeText o)).append (hcalls.append ((Filled.refl "</script>\n".toList).append hblocks))))))))
  simp only [List.nil_append] at hall
  refine ⟨left' ++ (inSetup ++ (inOthers ++ inStyles)), ?_, ?_⟩
  · calc
      bodies.Perm (left ++ inScripts) := hperm
      List.Perm _ ((left' ++ inStyles) ++ (inSetup ++ inOthers)) := hperm'.append hdivided
      List.Perm _ (left' ++ ((inSetup ++ inOthers) ++ inStyles)) := by
        rw [List.append_assoc]
        exact List.perm_append_comm.append_left left'
      _ = left' ++ (inSetup ++ (inOthers ++ inStyles)) := by rw [List.append_assoc]
  · rw [toList_assemble, toList_assemble, htypescript]
    exact hall

/-! ## Pages -/

/-- Whether a piece is a sample that markdown has written: the code of a line is escaped then, and the language of
a block opens no tag. Other code elements come from HTML in the file and belong to the page. -/
def Region.isSample : Region → Bool
  | .html _ => false
  | .inline code => !code.contains '<' && !code.contains '"'
  | .block language _ => language.all (!·.contains '<')

/-- The piece without its code, if it is a sample. -/
def Region.emptied (r : Region) : Region :=
  match r with
  | .html text => .html text
  | .inline code => .inline (if r.isSample then [] else code)
  | .block language code => .block language (if r.isSample then [] else code)

/-- The text of a sample in a component. -/
def Region.sampleText? (coloured : Bool) (r : Region) : Option (List Char) :=
  if r.isSample then
    match r with
    | .html _ => none
    | .inline code => some (Brace.entities code)
    | .block language code => some (Brace.entities (blockCode coloured language code))
  else none

/-- The texts of all samples. -/
def sampleTexts (coloured : Bool) (regions : List Region) : List (List Char) :=
  regions.filterMap (·.sampleText? coloured)

/-- The HTML with empty samples. -/
def pageHtml (o : MarkdownOptions) (regions : List Region) : List Char :=
  (regions.map Region.emptied).flatMap (·.renderWith Brace.entities o.highlight)

/-- The component around rendered HTML. -/
def componentOf (o : MarkdownOptions) (fields : Fields) (html : List Char) : String :=
  assemble o fields (trim (hoist html).1) (hoist html).2

/-- The component with empty samples. -/
def pageOf (o : MarkdownOptions) (fields : Fields) (regions : List Region) : String :=
  componentOf o fields (pageHtml o regions)

theorem shown_blockCode (coloured : Bool) (language : Option (List Char)) (code : List Char) :
    Code.Shown escapeHtmlChar (unescapeHtml code) (blockCode coloured language code) := by
  unfold blockCode
  cases language with
  | none => exact Code.shown_escapeHtml _
  | some name =>
    cases coloured with
    | true => exact Code.shown_highlight _ _
    | false => exact Code.shown_escapeHtml _

theorem blockCode_nil (coloured : Bool) (language : Option (List Char)) : blockCode coloured language [] = [] := by
  have hnone : unescapeHtml [] = [] := by decide
  have hcoloured (name : String) : Code.highlight [] name = [] := by
    unfold Code.highlight
    cases Code.Language.find? name with
    | none => rfl
    | some l => exact Code.highlightFrom.eq_1 l none
  unfold blockCode
  rw [hnone]
  cases language with
  | none => rfl
  | some name =>
    cases coloured with
    | true => exact hcoloured _
    | false => rfl

theorem isSampleText_block (coloured : Bool) (language : Option (List Char)) (code : List Char) :
    IsSampleText (Brace.entities (blockCode coloured language code)) where
  plain := Brace.backslash_not_mem_entities _
  tagged := (shown_blockCode coloured language code).entities.tagged (Code.not_mem_sampleChar (by decide))

theorem not_mem_entities {x : Char} (hx : x ∉ "&#92;".toList) {code : List Char} (h : x ∉ code) :
    x ∉ Brace.entities code := by
  intro hmem
  obtain ⟨c, hc, hmem⟩ := List.mem_flatMap.mp hmem
  split at hmem
  · exact hx hmem
  · exact h (List.mem_singleton.mp hmem ▸ hc)

theorem isSampleText_inline {code : List Char} (h : '<' ∉ code) : IsSampleText (Brace.entities code) where
  plain := Brace.backslash_not_mem_entities _
  tagged := fun _ ht => absurd (ht.subset List.mem_cons_self) (not_mem_entities (by decide) h)

/-- A piece is its page with its sample put in. -/
theorem filled_region (coloured : Bool) (r : Region) :
    Filled (r.sampleText? coloured).toList (r.renderWith Brace.entities coloured)
      (r.emptied.renderWith Brace.entities coloured) := by
  unfold Region.sampleText? Region.emptied
  cases hsample : r.isSample with
  | false => cases r <;> exact .refl _
  | true =>
    cases r with
    | html text => cases hsample
    | inline code =>
      have hplain : '<' ∉ code := by simpa using (Bool.and_eq_true_iff.mp hsample).1
      have htext (body : List Char) : "<code v-pre>".toList ++ body ++ "</code>".toList =
          [] ++ (sampleElement " v-pre".toList body ++ []) := by
        have hopen : "<code v-pre>".toList = sampleStart ++ (" v-pre".toList ++ ['>']) := by decide
        show _ ++ body ++ sampleEnd = _
        rw [hopen]
        simp only [sampleElement, List.append_assoc, List.cons_append, List.nil_append, List.append_nil]
      have hfilled := Filled.framed (by decide : '<' ∉ " v-pre".toList) (isSampleText_inline hplain) [] []
      rw [← htext, ← htext] at hfilled
      exact hfilled
    | block language code =>
      have hbody := isSampleText_block coloured language code
      have hclose : "</code></pre>".toList = sampleEnd ++ "</pre>".toList := by decide
      have hnone : Brace.entities (blockCode coloured language []) = [] := by rw [blockCode_nil]; rfl
      cases language with
      | none =>
        have htext (body : List Char) : "<pre v-pre><code>".toList ++ body ++ "</code></pre>".toList =
            "<pre v-pre>".toList ++ (sampleElement [] body ++ "</pre>".toList) := by
          have hopen : "<pre v-pre><code>".toList = "<pre v-pre>".toList ++ (sampleStart ++ ['>']) := by decide
          rw [hopen, hclose]
          simp only [sampleElement, List.append_assoc, List.nil_append, List.cons_append]
        have hfilled := Filled.framed List.not_mem_nil hbody "<pre v-pre>".toList "</pre>".toList
        rw [← htext, ← htext, ← hnone] at hfilled
        exact hfilled
      | some name =>
        have hname : '<' ∉ " class=\"language-".toList ++ (name ++ ['"']) := by
          have hname : '<' ∉ name := by simpa [Region.isSample] using hsample
          simp [hname]
        have htext (body : List Char) :
            "<pre class=\"language-".toList ++ name ++ "\" v-pre><code class=\"language-".toList ++ name ++
                "\">".toList ++ body ++ "</code></pre>".toList =
              ("<pre class=\"language-".toList ++ (name ++ "\" v-pre>".toList)) ++
                (sampleElement (" class=\"language-".toList ++ (name ++ ['"'])) body ++ "</pre>".toList) := by
          have hopen : "\" v-pre><code class=\"language-".toList =
              "\" v-pre>".toList ++ (sampleStart ++ " class=\"language-".toList) := by decide
          have hend : "\">".toList = ['"', '>'] := by decide
          rw [hopen, hend, hclose]
          simp only [sampleElement, List.append_assoc, List.cons_append, List.nil_append]
        have hfilled := Filled.framed hname hbody ("<pre class=\"language-".toList ++ (name ++ "\" v-pre>".toList))
          "</pre>".toList
        rw [← htext, ← htext, ← hnone] at hfilled
        exact hfilled

theorem filled_regions (o : MarkdownOptions) (regions : List Region) :
    Filled (sampleTexts o.highlight regions) (regions.flatMap (·.renderWith Brace.entities o.highlight))
      (pageHtml o regions) := by
  unfold pageHtml sampleTexts
  induction regions with
  | nil => exact .nil
  | cons r regions ih =>
    have htexts : (r :: regions).filterMap (·.sampleText? o.highlight) =
        (r.sampleText? o.highlight).toList ++ regions.filterMap (·.sampleText? o.highlight) := by
      rw [List.filterMap_cons]
      cases r.sampleText? o.highlight <;> rfl
    rw [htexts, List.map_cons, List.flatMap_cons, List.flatMap_cons]
    exact (filled_region o.highlight r).append ih

/-- A component is its page with its samples put in, each once. -/
theorem filled_component {o : MarkdownOptions} {fields : Fields} {body : String}
    (htidy : Tidy (pageHtml o (bodyRegions o body))) :
    ∃ bodies, (sampleTexts o.highlight (bodyRegions o body)).Perm bodies ∧
      Filled bodies (componentWith Brace.entities o fields body).toList
        (pageOf o fields (bodyRegions o body)).toList :=
  filled_assemble (filled_regions o (bodyRegions o body)) htidy o fields

/-! ## Marks in a filled text -/

/-- The first text is the second with samples put in in front of closing tags. A sample stands behind a bracket;
`behind` tells whether one stands in front of the text. -/
inductive FilledBehind : Bool → List (List Char) → List Char → List Char → Prop where
  | nil (behind : Bool) : FilledBehind behind [] [] []
  | keep (behind : Bool) (c : Char) {bodies : List (List Char)} {s e : List Char} :
      FilledBehind (c = '>') bodies s e → FilledBehind behind bodies (c :: s) (c :: e)
  | sample {body : List Char} {bodies : List (List Char)} {s e : List Char} : IsSampleText body →
      FilledBehind false bodies s e →
      FilledBehind true (body :: bodies) (body ++ (sampleEnd ++ s)) (sampleEnd ++ e)

namespace FilledBehind

variable {behind : Bool} {bodies : List (List Char)} {s e : List Char}

/-- Nothing is asked of a text in front of which a bracket stands that is not asked of others. -/
theorem weaken (h : FilledBehind false bodies s e) (behind : Bool) : FilledBehind behind bodies s e := by
  cases h with
  | nil => exact .nil behind
  | @keep _ c _ _ _ h => exact .keep behind c h

theorem head? (h : FilledBehind false bodies s e) : s.head? = e.head? := by
  cases h <;> rfl

/-- Behind a bracket everything is asked that can be. -/
theorem front (h : FilledBehind true bodies s e) (behind : Bool) :
    ∀ x : List Char, FilledBehind behind bodies (x ++ '>' :: s) (x ++ '>' :: e)
  | [] => .keep behind '>' h
  | c :: x => .keep behind c (front h (c = '>') x)

theorem unescape (h : FilledBehind behind bodies s e) :
    FilledBehind behind bodies (Brace.unescape s) (Brace.unescape e) := by
  induction h with
  | nil => exact .nil _
  | @keep behind c bodies s e h ih =>
    rw [Brace.unescape_cons, Brace.unescape_cons]
    by_cases hc : c = '\\'
    · subst hc
      rw [ih.head?]
      split
      · exact ih.weaken behind
      · exact .keep behind '\\' ih
    · simp only [hc, decide_false, Bool.false_and, Bool.false_eq_true, if_false]
      exact .keep behind c ih
  | @sample body bodies s e hbody h ih =>
    have hend : '\\' ∉ sampleEnd := by decide
    rw [Brace.unescape_append hbody.plain, Brace.unescape_append hend, Brace.unescape_append hend]
    exact .sample hbody ih

end FilledBehind

theorem Filled.chars {bodies : List (List Char)} {s e : List Char} (h : Filled bodies s e) (behind : Bool) :
    FilledBehind behind bodies s e := by
  induction h generalizing behind with
  | nil => exact .nil behind
  | keep c _ ih => exact .keep behind c (ih _)
  | @sample attributes body bodies s e _ hbody _ ih =>
    have htext (body s : List Char) :
        sampleElement attributes body ++ s = (sampleStart ++ attributes) ++ '>' :: (body ++ (sampleEnd ++ s)) := by
      simp [sampleElement]
    rw [htext, htext]
    exact (FilledBehind.sample hbody (ih false)).front behind _

end DeckPress.Component
