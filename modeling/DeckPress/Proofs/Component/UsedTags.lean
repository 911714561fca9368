import DeckPress.Proofs.Component.Resolving
import DeckPress.Proofs.Component.Tags

/-!
# Which tags a file uses

The tags of a template have places, and a tag counts if it is spelt like that of a component which the framework
does not provide. The list of used tags has each component once, by the tag that has the first place among those
that count; it is in the order of these places, and nothing else is in it. The template goes from the first
opening to the last closing tag, which are looked for apart from each other.
-/

namespace DeckPress.Text

/-- A text is cut at the occurrence that starts last. -/
theorem splitAtLast?_eq_some {needle s before after : List Char} :
    splitAtLast? needle s = some (before, after) ↔
      s = before ++ (needle ++ after) ∧ ∀ p q, s = p ++ (needle ++ q) → p.length ≤ before.length := by
  have hreverse (a b : List Char) :
      s = a ++ (needle ++ b) ↔ s.reverse = b.reverse ++ (needle.reverse ++ a.reverse) := by
    rw [← List.reverse_inj]
    simp only [List.reverse_append, List.append_assoc]
  have hlength {a b : List Char} (h : s = a ++ (needle ++ b)) : s.length = a.length + (needle.length + b.length) := by
    rw [h, List.length_append, List.length_append]
  rw [splitAtLast?, Option.map_eq_some_iff]
  constructor
  · rintro ⟨⟨later, earlier⟩, hsplit, heq⟩
    cases heq
    obtain ⟨hwhole, hfirst⟩ := splitAt?_eq_some.mp hsplit
    have hcut : s = earlier.reverse ++ (needle ++ later.reverse) := by
      rwa [hreverse, List.reverse_reverse, List.reverse_reverse]
    refine ⟨hcut, fun p q hpq => ?_⟩
    -- what stands behind the last occurrence is the shortest
    have hle := hfirst _ _ ((hreverse p q).mp hpq)
    have hcutLength := hlength hcut
    have hpqLength := hlength hpq
    rw [List.length_reverse] at hle
    rw [List.length_reverse, List.length_reverse] at hcutLength
    rw [List.length_reverse]
    omega
  · rintro ⟨hcut, hlast⟩
    refine ⟨(after.reverse, before.reverse),
      splitAt?_eq_some.mpr ⟨(hreverse _ _).mp hcut, fun p q hpq => ?_⟩, by simp⟩
    have hother : s = q.reverse ++ (needle ++ p.reverse) := by
      rwa [hreverse, List.reverse_reverse, List.reverse_reverse]
    have hle := hlast _ _ hother
    have hcutLength := hlength hcut
    have hotherLength := hlength hother
    rw [List.length_reverse] at hle hotherLength ⊢
    rw [List.length_reverse] at hotherLength
    omega

theorem splitAtLast?_eq_none {needle s : List Char} : splitAtLast? needle s = none ↔ ¬ needle <:+: s := by
  rw [splitAtLast?, Option.map_eq_none_iff, splitAt?_eq_none, List.reverse_infix]

end DeckPress.Text

namespace DeckPress.Component

open Text

/-! ## The template of a file -/

/-- A template starts like this. -/
def templateStart : List Char := "<template".toList

/-- The template of a file: from the first opening tag up to the last closing tag if that stands further behind, or
else the whole file. -/
def IsTemplate (code s : List Char) : Prop :=
  (∃ front behind, code = front ++ (s ++ (templateEnd ++ behind)) ∧ templateStart <+: s ∧
      (∀ p q, code = p ++ (templateStart ++ q) → front.length ≤ p.length) ∧
      ∀ p q, code = p ++ (templateEnd ++ q) → p.length ≤ (front ++ s).length) ∨
    (∀ p q p' q', code = p ++ (templateStart ++ q) → code = p' ++ (templateEnd ++ q') →
        p'.length ≤ p.length) ∧
      s = code

theorem isTemplate_templateSection (code : List Char) : IsTemplate code (templateSection code) := by
  have hwhole (h : ∀ p q p' q', code = p ++ (templateStart ++ q) → code = p' ++ (templateEnd ++ q') →
      p'.length ≤ p.length) : IsTemplate code code := .inr ⟨h, rfl⟩
  unfold templateSection
  dsimp only
  cases hopening : splitAt? "<template".toList code with
  | none =>
    refine hwhole fun p q p' q' hp _ => absurd ?_ (splitAt?_eq_none.mp hopening)
    exact ⟨p, q, by rw [hp, List.append_assoc]; rfl⟩
  | some found =>
    obtain ⟨front, after⟩ := found
    obtain ⟨hfront, hfirst⟩ := splitAt?_eq_some.mp hopening
    cases hclosing : splitAtLast? "</template>".toList code with
    | none =>
      refine hwhole fun p q p' q' _ hp' => absurd ?_ (splitAtLast?_eq_none.mp hclosing)
      exact ⟨p', q', by rw [hp', List.append_assoc]; rfl⟩
    | some found =>
      obtain ⟨upTo, behind⟩ := found
      obtain ⟨hupTo, hlast⟩ := splitAtLast?_eq_some.mp hclosing
      dsimp only
      split
      · rename_i hlt
        obtain ⟨s, rfl⟩ : front <+: upTo :=
          List.prefix_of_prefix_length_le ⟨_, hfront.symm⟩ ⟨_, hupTo.symm⟩ (Nat.le_of_lt hlt)
        rw [List.drop_left]
        rw [List.append_assoc] at hupTo
        have hstart : templateStart ++ after = s ++ (templateEnd ++ behind) :=
          List.append_cancel_left (hfront.symm.trans hupTo)
        refine .inl ⟨front, behind, hupTo, ?_, hfirst, hlast⟩
        -- the closing tag stands behind the bracket of the opening one, and has a bracket itself
        cases s with
        | nil => simp at hlt
        | cons c s =>
          obtain ⟨rfl, hname⟩ := List.cons.inj hstart
          have hprefix : "template".toList <+: s ++ '<' :: ("/template>".toList ++ behind) := ⟨after, hname⟩
          exact List.cons_prefix_cons.mpr ⟨rfl, (prefix_append_cons (by decide) _ _).mp hprefix⟩
      · rename_i hnot
        refine hwhole fun p q p' q' hp hp' => ?_
        have hle := hfirst p q hp
        have hle' := hlast p' q' hp'
        omega

/-! ## Places -/

/-- A tag opens at a place: behind a bracket stands its name, and it is the whole name that stands there. -/
def OpensAt (s : List Char) (i : Nat) (tag : String) : Prop :=
  TagName tag.toList ∧ ∃ front behind, s = front ++ '<' :: (tag.toList ++ behind) ∧ front.length = i ∧
    behind.head?.any isTagNameChar = false

theorem TagName.ne_nil {s : List Char} (h : TagName s) : s ≠ [] := by
  rintro rfl
  cases h.start

theorem tagName_takeWhile {s : List Char} (h : s.head?.any isAsciiAlpha) : TagName (s.takeWhile isTagNameChar) := by
  cases s with
  | nil => cases h
  | cons c s =>
    refine ⟨?_, fun _ hc => List.mem_takeWhile_imp hc⟩
    rw [List.takeWhile_cons_of_pos (isTagNameChar_of_alpha h)]
    exact h

theorem takeWhile_eq_nil {p : Char → Bool} {s : List Char} (h : s.head?.any p = false) : s.takeWhile p = [] := by
  cases s with
  | nil => rfl
  | cons c s => exact List.takeWhile_cons_of_neg (Bool.eq_false_iff.mp h)

theorem opensAt_zero {c : Char} {cs : List Char} {tag : String} :
    OpensAt (c :: cs) 0 tag ↔
      (c = '<' && cs.head?.any isAsciiAlpha) = true ∧ tag = String.ofList (cs.takeWhile isTagNameChar) := by
  rw [Bool.and_eq_true, decide_eq_true_eq]
  constructor
  · rintro ⟨hname, front, behind, hs, hlength, hbehind⟩
    cases List.eq_nil_of_length_eq_zero hlength
    obtain ⟨rfl, rfl⟩ := List.cons.inj hs
    refine ⟨⟨rfl, ?_⟩, ?_⟩
    · obtain ⟨x, rest, htag⟩ := List.exists_cons_of_ne_nil hname.ne_nil
      have hstart := hname.start
      rw [htag] at hstart ⊢
      exact hstart
    · rw [List.takeWhile_append_of_pos hname.rest, takeWhile_eq_nil hbehind, List.append_nil, String.ofList_toList]
  · rintro ⟨⟨rfl, halpha⟩, rfl⟩
    refine ⟨?_, [], cs.dropWhile isTagNameChar, ?_, rfl, ?_⟩
    · rw [String.toList_ofList]
      exact tagName_takeWhile halpha
    · rw [String.toList_ofList, List.takeWhile_append_dropWhile, List.nil_append]
    · have hstop := List.head?_dropWhile_not isTagNameChar cs
      cases hrest : (cs.dropWhile isTagNameChar).head? with
      | none => rfl
      | some x =>
        rw [hrest] at hstop
        exact hstop

theorem opensAt_succ {c : Char} {cs : List Char} {i : Nat} {tag : String} :
    OpensAt (c :: cs) (i + 1) tag ↔ OpensAt cs i tag := by
  constructor
  · rintro ⟨hname, front, behind, hs, hlength, hbehind⟩
    obtain ⟨x, front, rfl⟩ := List.exists_cons_of_length_eq_add_one hlength
    exact ⟨hname, front, behind, (List.cons.inj hs).2, Nat.succ.inj hlength, hbehind⟩
  · rintro ⟨hname, front, behind, rfl, rfl, hbehind⟩
    exact ⟨hname, c :: front, behind, rfl, rfl, hbehind⟩

/-- The opening tags of a text with their places; `i` is the place where the text starts. -/
def tagsFrom (i : Nat) : List Char → List (Nat × String)
  | [] => []
  | c :: cs =>
    if c = '<' && cs.head?.any isAsciiAlpha then
      (i, String.ofList (cs.takeWhile isTagNameChar)) :: tagsFrom (i + 1) cs
    else tagsFrom (i + 1) cs

/-- No tag opens inside the name of another. -/
theorem openingTags_dropWhile (s : List Char) : openingTags (s.dropWhile isTagNameChar) = openingTags s := by
  have hname : '<' ∉ s.takeWhile isTagNameChar := fun h => absurd (List.mem_takeWhile_imp h) (by decide)
  have hplain := openingTags_plain_append hname (s.dropWhile isTagNameChar)
  rwa [List.takeWhile_append_dropWhile, eq_comm] at hplain

theorem map_snd_tagsFrom (i : Nat) (s : List Char) : (tagsFrom i s).map Prod.snd = openingTags s := by
  induction s generalizing i with
  | nil => rfl
  | cons c cs ih =>
    rw [tagsFrom, openingTags_cons, openingTags_dropWhile]
    split
    · rw [List.map_cons, ih]
    · exact ih (i + 1)

theorem mem_tagsFrom {i j : Nat} {s : List Char} {tag : String} :
    (j, tag) ∈ tagsFrom i s ↔ ∃ k, j = i + k ∧ OpensAt s k tag := by
  induction s generalizing i with
  | nil =>
    constructor
    · intro h
      cases h
    · rintro ⟨k, -, -, front, behind, hs, -⟩
      cases front <;> cases hs
  | cons c cs ih =>
    have hlater : (j, tag) ∈ tagsFrom (i + 1) cs ↔ ∃ k, j = i + (k + 1) ∧ OpensAt (c :: cs) (k + 1) tag := by
      rw [ih]
      simp only [opensAt_succ, Nat.add_assoc, Nat.add_comm 1]
    have hsplit : (∃ k, j = i + k ∧ OpensAt (c :: cs) k tag) ↔
        (j = i ∧ OpensAt (c :: cs) 0 tag) ∨ (j, tag) ∈ tagsFrom (i + 1) cs := by
      rw [hlater]
      constructor
      · rintro ⟨k, hj, hopens⟩
        cases k with
        | zero => exact .inl ⟨hj, hopens⟩
        | succ k => exact .inr ⟨k, hj, hopens⟩
      · rintro (⟨hj, hopens⟩ | ⟨k, hj, hopens⟩)
        · exact ⟨0, hj, hopens⟩
        · exact ⟨k + 1, hj, hopens⟩
    rw [hsplit, opensAt_zero, tagsFrom]
    split
    · rename_i hopens
      rw [List.mem_cons, Prod.mk.injEq, and_iff_right hopens]
    · rename_i hopens
      rw [or_iff_right fun h => hopens h.2.1]

theorem tagsFrom_pairwise (i : Nat) (s : List Char) : (tagsFrom i s).Pairwise fun a b => a.1 < b.1 := by
  induction s generalizing i with
  | nil => exact .nil
  | cons c cs ih =>
    rw [tagsFrom]
    split
    · refine .cons (fun p hp => ?_) (ih (i + 1))
      obtain ⟨k, hk, -⟩ := mem_tagsFrom.mp hp
      omega
    · exact ih (i + 1)

/-! ## First places -/

/-- A tag that counts: it has a hyphen or a capital, as that of a component, which is none of the framework. -/
structure Counts (tag : String) : Prop where
  spelling : ∃ c ∈ tag.toList, c = '-' ∨ 'A' ≤ c ∧ c ≤ 'Z'
  other : tag ≠ "template"
  own : pascalCase tag ∉ builtinComponents

/-- A tag opens at a place, and no tag of the same component that counts opens at an earlier one. -/
structure FirstAt (s : List Char) (i : Nat) (tag : String) : Prop where
  opens : OpensAt s i tag
  counts : Counts tag
  first : ∀ j other, OpensAt s j other → Counts other → pascalCase other = pascalCase tag → i ≤ j

/-- Of tags in the order of their places, those are kept that are the first of a name. -/
theorem exists_kept {pairs : List (Nat × String)} (h : pairs.Pairwise fun a b => a.1 < b.1) (seen : List String) :
    ∃ kept : List (Nat × String), kept.Sublist pairs ∧
      kept.map Prod.snd = firstSpellings seen (pairs.map Prod.snd) ∧
      ∀ p ∈ pairs, p ∈ kept ↔ pascalCase p.2 ∉ seen ∧
        ∀ q ∈ pairs, pascalCase q.2 = pascalCase p.2 → p.1 ≤ q.1 := by
  induction pairs generalizing seen with
  | nil => exact ⟨[], .slnil, rfl, nofun⟩
  | cons p pairs ih =>
    obtain ⟨hp, hpairs⟩ := List.pairwise_cons.mp h
    have hbehind : ∀ kept : List (Nat × String), kept.Sublist pairs → p ∉ kept := fun kept hkept hmem =>
      Nat.lt_irrefl _ (hp p (hkept.subset hmem))
    rw [List.map_cons, firstSpellings]
    split
    · rename_i hseen
      have hseen : pascalCase p.2 ∈ seen := by simpa using hseen
      obtain ⟨kept, hkept, hnames, hfirst⟩ := ih hpairs seen
      refine ⟨kept, hkept.cons p, hnames, List.forall_mem_cons.mpr ⟨?_, fun q hq => ?_⟩⟩
      · exact iff_of_false (hbehind kept hkept) fun h => h.1 hseen
      · rw [hfirst q hq, List.forall_mem_cons]
        exact and_congr_right fun hnew => (and_iff_right fun hsame => absurd (hsame ▸ hseen) hnew).symm
    · rename_i hnew
      have hnew : pascalCase p.2 ∉ seen := by simpa using hnew
      obtain ⟨kept, hkept, hnames, hfirst⟩ := ih hpairs (pascalCase p.2 :: seen)
      refine ⟨p :: kept, hkept.cons_cons p, congrArg (p.2 :: ·) hnames,
        List.forall_mem_cons.mpr ⟨?_, fun q hq => ?_⟩⟩
      · have hleast : ∀ q ∈ p :: pairs, pascalCase q.2 = pascalCase p.2 → p.1 ≤ q.1 :=
          List.forall_mem_cons.mpr ⟨fun _ => Nat.le_refl _, fun q hq _ => Nat.le_of_lt (hp q hq)⟩
        exact iff_of_true List.mem_cons_self ⟨hnew, hleast⟩
      · have hlt := hp q hq
        have hne : q ≠ p := fun heq => Nat.lt_irrefl _ (heq ▸ hlt)
        rw [List.mem_cons, or_iff_right hne, hfirst q hq, List.forall_mem_cons, List.mem_cons, not_or]
        constructor
        · rintro ⟨⟨hother, hseen⟩, hall⟩
          exact ⟨hseen, fun hsame => absurd hsame.symm hother, hall⟩
        · rintro ⟨hseen, hother, hall⟩
          exact ⟨⟨fun hsame => absurd (hother hsame.symm) (Nat.not_le_of_lt hlt), hseen⟩, hall⟩

/-- The list has the first tag of every component, in the order of their places. -/
structure ListsFirsts (s : List Char) (tags : List String) : Prop where
  distinct : (tags.map pascalCase).Nodup
  ordered : ∃ places : List Nat, places.Pairwise (· < ·) ∧ List.Forall₂ (FirstAt s) places tags
  complete : ∀ i tag, OpensAt s i tag → Counts tag →
    ∃ first ∈ tags, pascalCase first = pascalCase tag ∧ ∃ j ≤ i, FirstAt s j first

/-- The tag of a template itself is spelt like that of an element, so it needs no rule of its own. -/
theorem counts_iff {tag : String} :
    Counts tag ↔ looksLikeComponent tag ∧ pascalCase tag ∉ builtinComponents := by
  have hspelling : looksLikeComponent tag ↔ ∃ c ∈ tag.toList, c = '-' ∨ 'A' ≤ c ∧ c ≤ 'Z' := by
    simp only [looksLikeComponent, isAsciiUpper, List.any_eq_true, Bool.or_eq_true, Bool.and_eq_true,
      decide_eq_true_eq]
  constructor
  · intro h
    exact ⟨hspelling.mpr h.spelling, h.own⟩
  · rintro ⟨hlooks, hown⟩
    refine ⟨hspelling.mp hlooks, ?_, hown⟩
    rintro rfl
    exact absurd hlooks (by decide)

/-- The first tags among those that count, with their places. -/
theorem exists_firsts (s : List Char) :
    ∃ firsts : List (Nat × String), (firsts.Pairwise fun a b => a.1 < b.1) ∧
      firsts.map Prod.snd = firstSpellings builtinComponents ((openingTags s).filter looksLikeComponent) ∧
      ∀ i tag, (i, tag) ∈ firsts ↔ FirstAt s i tag := by
  have hordered : ((tagsFrom 0 s).filter fun p => looksLikeComponent p.2).Pairwise fun a b => a.1 < b.1 :=
    (tagsFrom_pairwise 0 s).sublist List.filter_sublist
  have htags : ((tagsFrom 0 s).filter fun p => looksLikeComponent p.2).map Prod.snd =
      (openingTags s).filter looksLikeComponent := by
    rw [← map_snd_tagsFrom 0 s, List.filter_map]
    rfl
  have hmem (i : Nat) (tag : String) : (i, tag) ∈ ((tagsFrom 0 s).filter fun p => looksLikeComponent p.2) ↔
      OpensAt s i tag ∧ looksLikeComponent tag := by
    rw [List.mem_filter, mem_tagsFrom]
    simp only [Nat.zero_add, exists_eq_left']
  obtain ⟨kept, hkept, hnames, hfirst⟩ := exists_kept hordered builtinComponents
  refine ⟨kept, hordered.sublist hkept, hnames.trans (by rw [htags]), fun i tag => ?_⟩
  constructor
  · intro hin
    have hplaced := hkept.subset hin
    obtain ⟨hopens, hlooks⟩ := (hmem i tag).mp hplaced
    obtain ⟨hown, hall⟩ := (hfirst _ hplaced).mp hin
    exact ⟨hopens, counts_iff.mpr ⟨hlooks, hown⟩, fun j other hother hcounts hsame =>
      hall _ ((hmem j other).mpr ⟨hother, (counts_iff.mp hcounts).1⟩) hsame⟩
  · rintro ⟨hopens, hcounts, hall⟩
    have hplaced := (hmem i tag).mpr ⟨hopens, (counts_iff.mp hcounts).1⟩
    refine (hfirst _ hplaced).mpr ⟨hcounts.own, fun ⟨j, other⟩ hother hsame => ?_⟩
    obtain ⟨hopens', hlooks⟩ := (hmem j other).mp hother
    exact hall j other hopens' (counts_iff.mpr ⟨hlooks, hsame ▸ hcounts.own⟩) hsame

/--
**The used tags are the first ones of their components.**

No component is listed twice, and none of the framework at all. Each tag on the list opens in the template of the
file, where it is the first of its component among the tags that count; the list is in the order of these places.
And for every tag that counts the list has the first tag of the same component. A spelling without hyphens and
capitals, as that of a plain element, does not count, wherever it stands.
-/
theorem used_tags_are_firsts (code : String) :
    IsTemplate code.toList (templateSection code.toList) ∧
      ListsFirsts (templateSection code.toList) (usedTags code) := by
  obtain ⟨firsts, hordered, htags, hfirst⟩ := exists_firsts (templateSection code.toList)
  have hused : usedTags code = firsts.map Prod.snd := htags.symm
  refine ⟨isTemplate_templateSection code.toList, (nodup_firstSpellings _ _).1, ?_, fun i tag hopens hcounts => ?_⟩
  · refine ⟨firsts.map Prod.fst, List.pairwise_map.mpr hordered, ?_⟩
    rw [hused, List.forall₂_map_left_iff, List.forall₂_map_right_iff, List.forall₂_same]
    exact fun p hp => (hfirst p.1 p.2).mp hp
  · have htag : tag ∈ (openingTags (templateSection code.toList)).filter looksLikeComponent := by
      rw [List.mem_filter, ← map_snd_tagsFrom 0, List.mem_map]
      exact ⟨⟨(i, tag), mem_tagsFrom.mpr ⟨i, (Nat.zero_add i).symm, hopens⟩, rfl⟩,
        (counts_iff.mp hcounts).1⟩
    obtain ⟨first, hlisted, hsame⟩ := exists_mem_firstSpellings.mpr ⟨hcounts.own, tag, htag, rfl⟩
    have hmem : first ∈ firsts.map Prod.snd := htags ▸ hlisted
    obtain ⟨⟨j, _⟩, hplaced, rfl⟩ := List.mem_map.mp hmem
    have hat := (hfirst _ _).mp hplaced
    exact ⟨_, hlisted, hsame, j, hat.first i tag hopens hcounts hsame.symm, hat⟩

/-- A plain element does not stand for the component of its name, and a second spelling is passed over. -/
example :
    usedTags "<template><button/><my-card/><MyCard/><Button/><keep-alive/></template>" =
      ["my-card", "Button"] := by
  decide +kernel

end DeckPress.Component
