import DeckPress.Proofs.Component.Fillings
import DeckPress.Proofs.Style.Attributes

/-!
# What code samples add to the stylesheet

The search for class attributes knows nothing of code samples. Where each value that the page opens is closed in
front of the next sample's end, it goes through the page as if the samples were empty, and through each sample as
if it stood alone. So a component uses what its page uses and what its samples use by themselves. Samples without
apostrophes use nothing but the words of the colours' tags, as double quotes are escaped; apostrophes are not.
-/

namespace DeckPress.Style

open Text
open Component (sampleEnd FilledBehind Region MarkdownOptions sampleTexts pageHtml pageOf bodyRegions)
open Code (TokenKind)

/-! ## Values that are closed -/

/-- A quote stands in front of the next end of a sample, if there is one. -/
def Closes (quote : Char) (s : List Char) : Prop := ∀ found ∈ splitAt? sampleEnd s, quote ∈ found.1

instance (quote : Char) (s : List Char) : Decidable (Closes quote s) :=
  decidable_of_iff ((splitAt? sampleEnd s).all fun found => found.1.contains quote) <| by
    unfold Closes
    cases splitAt? sampleEnd s <;> simp

/-- Every value that is opened in a text is closed in front of the next end of a sample. -/
def Settled (s : List Char) : Prop := ∀ t, t <:+ s → ∀ found ∈ opening? t, Closes found.1 found.2

instance (s : List Char) : Decidable (Settled s) :=
  decidable_of_iff (s.tails.all fun t => (opening? t).all fun found => Closes found.1 found.2) <| by
    simp only [List.all_eq_true, List.mem_tails, Settled]
    refine forall₂_congr fun t _ => ?_
    cases opening? t <;> simp

theorem Settled.suffix {s t : List Char} (h : Settled s) (ht : t <:+ s) : Settled t :=
  fun u hu => h u (hu.trans ht)

theorem Closes.of_cons {quote c : Char} {s : List Char} (h : Closes quote (c :: s)) (hc : c ≠ quote) :
    Closes quote s := by
  intro found hfound
  by_cases hhere : sampleEnd <+: c :: s
  · obtain ⟨rest, hrest⟩ := hhere
    have hfirst : splitAt? sampleEnd (c :: s) = some ([], rest) := by
      rw [splitAt?, ← hrest, stripPrefix?_append]
    exact absurd (h _ hfirst) List.not_mem_nil
  · have hlater : splitAt? sampleEnd (c :: s) = some (c :: found.1, found.2) := by
      rw [splitAt?, stripPrefix?_eq_none.mpr hhere, Option.mem_def.mp hfound]
      rfl
    exact (List.mem_cons.mp (h _ hlater)).resolve_left hc.symm

theorem not_closes_sampleEnd (quote : Char) (s : List Char) : ¬ Closes quote (sampleEnd ++ s) := by
  have hfirst : splitAt? sampleEnd (sampleEnd ++ s) = some ([], s) := splitAt?_append List.not_mem_nil _ s
  exact fun h => List.not_mem_nil (h _ hfirst)

/-- A quote in front of which no tag stands is in time. -/
theorem closes_of_front {quote : Char} (hquote : quote ≠ '<') {v : List Char} (hv : '<' ∉ v) (s : List Char) :
    Closes quote (v ++ quote :: s) := by
  intro found hfound
  have heq : (v ++ [quote]) ++ s = found.1 ++ (sampleEnd ++ found.2) := by
    rw [← eq_append_of_splitAt? hfound, List.append_assoc, List.singleton_append]
  have hmem : quote ∈ v ++ [quote] := List.mem_append_right v (List.mem_singleton.mpr rfl)
  rcases List.append_eq_append_iff.mp heq with ⟨w, hfront, -⟩ | ⟨w, hfront, hrest⟩
  · rw [hfront]
    exact List.mem_append_left w hmem
  · cases w with
    | nil =>
      rw [List.append_nil] at hfront
      rwa [← hfront]
    | cons c w =>
      -- the sample's end would start in front of the quote
      have hless : '<' ∈ v ++ [quote] := by
        rw [hfront, ← (List.cons.inj hrest).1]
        exact List.mem_append_right _ List.mem_cons_self
      rcases List.mem_append.mp hless with h | h
      · exact absurd h hv
      · exact absurd (List.mem_singleton.mp h).symm hquote

/-- What closes a value in a sample stands in the sample. -/
theorem Closes.mem {quote : Char} {s : List Char} (h : Closes quote (s ++ sampleEnd)) : quote ∈ s := by
  cases hfound : splitAt? sampleEnd (s ++ sampleEnd) with
  | none => exact absurd (List.suffix_append s sampleEnd).isInfix (splitAt?_eq_none.mp hfound)
  | some found =>
    have hfirst := (splitAt?_eq_some.mp hfound).2 s [] (by rw [List.append_nil])
    have hfront : found.1 <+: s :=
      List.prefix_of_prefix_length_le ⟨_, (eq_append_of_splitAt? hfound).symm⟩ (List.prefix_append s _) hfirst
    exact hfront.subset (h found hfound)

/-! ## Texts that open values -/

theorem Opens.not_mem {quote c : Char} {front : List Char} (h : Opens quote front) (hwhite : isWhite c = false)
    (hc : c ∉ "className=\"'".toList) : c ∉ front := by
  obtain ⟨hquote, name, hname, w, w', hw, hw', rfl⟩ := h
  have hnames : ∀ name ∈ ["class", "className"], name.toList ⊆ "className=\"'".toList := by decide
  simp only [List.mem_append, List.mem_cons, List.not_mem_nil, or_false, not_or]
  refine ⟨fun h => hc (hnames name hname h), fun h => ?_, ?_, fun h => ?_, ?_⟩
  · rw [hw c h] at hwhite
    cases hwhite
  · rintro rfl
    exact hc (by decide)
  · rw [hw' c h] at hwhite
    cases hwhite
  · rintro rfl
    rcases hquote with rfl | rfl
    · exact hc (by decide)
    · exact hc (by decide)

/-- Where a tag ends a text, what opens a value ends before. -/
theorem opening?_append {x rest : List Char} (s : List Char) (hrest : s = '<' :: rest) :
    opening? (x ++ s) = (opening? x).map fun found => (found.1, found.2 ++ s) := by
  cases hx : opening? x with
  | some found =>
    obtain ⟨front, hopens, rfl⟩ := opening?_eq_some.mp hx
    exact opening?_eq_some.mpr ⟨front, hopens, List.append_assoc ..⟩
  | none =>
    cases hxs : opening? (x ++ s) with
    | none => rfl
    | some found =>
      obtain ⟨front, hopens, heq⟩ := opening?_eq_some.mp hxs
      have hless : '<' ∉ front := hopens.not_mem (by decide) (by decide)
      rcases List.append_eq_append_iff.mp heq with ⟨w, hfront, hs⟩ | ⟨w, rfl, -⟩
      · cases w with
        | nil =>
          have hsome : opening? x = some (found.1, []) :=
            opening?_eq_some.mpr ⟨front, hopens, by rw [hfront, List.append_nil, List.append_nil]⟩
          rw [hx] at hsome
          cases hsome
        | cons c w =>
          rw [hrest] at hs
          rw [hfront, (List.cons.inj hs).1] at hless
          exact absurd (List.mem_append_right x List.mem_cons_self) hless
      · rw [opening?_eq_some.mpr ⟨front, hopens, rfl⟩] at hx
        cases hx

/-! ## Values of a sample -/

/-- With a word in front of it or not, a value is opened at some place of the text. -/
theorem opening?_of_valueAt? {before : Option Char} {s : List Char} {found : List Char × List Char}
    (h : valueAt? before s = some found) :
    ∃ opened ∈ opening? s, splitAt? [opened.1] opened.2 = some found := by
  obtain ⟨opened, hopened, hfound⟩ := Option.bind_eq_some_iff.mp h
  unfold openingAt? at hopened
  split at hopened
  · cases hopened
  · exact ⟨opened, hopened, hfound⟩

theorem suffix_of_valueAt? {before : Option Char} {s : List Char} {found : List Char × List Char}
    (h : valueAt? before s = some found) : found.2 <:+ s := by
  obtain ⟨opened, hopened, hfound⟩ := opening?_of_valueAt? h
  obtain ⟨front, -, rfl⟩ := opening?_eq_some.mp hopened
  rw [eq_append_of_splitAt? hfound]
  exact ((List.suffix_append _ _).trans (List.suffix_append _ _)).trans (List.suffix_append _ _)

/-- Every value is opened at some place. -/
theorem opening?_of_mem_classValues {before : Option Char} {s v : List Char} (h : v ∈ classValues before s) :
    ∃ t, t <:+ s ∧ ∃ opened ∈ opening? t, ∃ rest, splitAt? [opened.1] opened.2 = some (v, rest) := by
  generalize hlength : s.length = n
  induction n using Nat.strong_induction_on generalizing before s with
  | _ n ih =>
    subst hlength
    cases s with
    | nil => cases h
    | cons c s =>
      rw [classValues_cons] at h
      cases hvalue : valueAt? before (c :: s) with
      | none =>
        rw [hvalue] at h
        obtain ⟨t, ht, hopened⟩ := ih s.length (Nat.lt_succ_self _) h rfl
        exact ⟨t, ht.trans (List.suffix_cons c s), hopened⟩
      | some found =>
        rw [hvalue] at h
        rcases List.mem_cons.mp h with rfl | h
        · obtain ⟨opened, hopened, hfound⟩ := opening?_of_valueAt? hvalue
          exact ⟨_, List.suffix_rfl, opened, hopened, found.2, hfound⟩
        · obtain ⟨t, ht, hopened⟩ := ih _ (@valueAt?_length _ _ found.1 found.2 hvalue) h rfl
          exact ⟨t, ht.trans (suffix_of_valueAt? hvalue), hopened⟩

/-- A text is read alike behind all characters that are not part of a word. -/
theorem classValues_boundary {before : Option Char} (h : before.any isWord = false) (s : List Char) :
    classValues before s = classValues none s := by
  cases s with
  | nil => rfl
  | cons c s =>
    have hhere : valueAt? before (c :: s) = valueAt? none (c :: s) := by
      unfold valueAt? openingAt?
      rw [h]
      rfl
    rw [classValues_cons, classValues_cons, hhere]

theorem splitAt?_append_of_mem {quote : Char} {s : List Char} (h : quote ∈ s) (t : List Char) :
    splitAt? [quote] (s ++ t) = (splitAt? [quote] s).map fun found => (found.1, found.2 ++ t) := by
  induction s with
  | nil => cases h
  | cons c s ih =>
    by_cases hc : c = quote
    · subst hc
      rw [List.cons_append, splitAt?_here, splitAt?_here]
      rfl
    · rw [List.cons_append, splitAt?_cons hc, splitAt?_cons hc,
        ih ((List.mem_cons.mp h).resolve_left (Ne.symm hc)), Option.map_map, Option.map_map]
      rfl

theorem valueAt?_sample {s : List Char} (h : Settled (s ++ sampleEnd)) (before : Option Char) (t : List Char) :
    valueAt? before (s ++ (sampleEnd ++ t)) =
      (valueAt? before s).map fun found => (found.1, found.2 ++ (sampleEnd ++ t)) := by
  unfold valueAt? openingAt?
  split
  · rfl
  rw [opening?_append (sampleEnd ++ t) rfl, Option.bind_map, Option.map_bind]
  refine Option.bind_congr fun found hfound => ?_
  have hopening : opening? (s ++ sampleEnd) = some (found.1, found.2 ++ sampleEnd) := by
    rw [opening?_append sampleEnd rfl, hfound]
    rfl
  exact splitAt?_append_of_mem (h _ List.suffix_rfl _ hopening).mem _

/-- What shows that no value is opened at a place. -/
theorem valueAt?_eq_none {before : Option Char} {s : List Char} (h : ¬ "cl".toList <+: s) :
    valueAt? before s = none := by
  have hnames : ∀ name ∈ ["class", "className"], "cl".toList <+: name.toList := by decide
  cases hvalue : valueAt? before s with
  | none => rfl
  | some found =>
    obtain ⟨opened, hopened, -⟩ := opening?_of_valueAt? hvalue
    obtain ⟨front, ⟨-, name, hname, w, w', -, -, rfl⟩, rfl⟩ := opening?_eq_some.mp hopened
    rw [List.append_assoc] at h
    exact absurd ((hnames name hname).trans (List.prefix_append _ _)) h

theorem classValues_sampleEnd (before : Option Char) (s : List Char) :
    classValues before (sampleEnd ++ s) = classValues (some '>') s := by
  have hskip {before : Option Char} {c : Char} {t : List Char} (h : ¬ "cl".toList <+: c :: t) :
      classValues before (c :: t) = classValues (some c) t := by
    rw [classValues_cons, valueAt?_eq_none h]
  show classValues before ('<' :: '/' :: 'c' :: 'o' :: 'd' :: 'e' :: '>' :: s) = _
  iterate 7 rw [hskip (by simp [List.cons_prefix_cons])]

/-- A sample in which all values are closed is read as if it stood alone. -/
theorem classValues_sample {s : List Char} (h : Settled (s ++ sampleEnd)) (before : Option Char) (t : List Char) :
    classValues before (s ++ (sampleEnd ++ t)) = classValues before s ++ classValues (some '>') t := by
  generalize hlength : s.length = n
  induction n using Nat.strong_induction_on generalizing before s with
  | _ n ih =>
    subst hlength
    cases s with
    | nil => exact classValues_sampleEnd before t
    | cons c s =>
      have hvalue := valueAt?_sample h before t
      rw [List.cons_append, classValues_cons, classValues_cons, ← List.cons_append, hvalue]
      cases hfound : valueAt? before (c :: s) with
      | none => exact ih s.length (Nat.lt_succ_self _) (h.suffix (List.suffix_cons c _)) (some c) rfl
      | some found =>
        obtain ⟨front, hfront⟩ := suffix_of_valueAt? hfound
        have hrest : Settled (found.2 ++ sampleEnd) :=
          h.suffix ⟨front, by rw [← List.append_assoc, hfront]⟩
        exact congrArg (found.1 :: ·) (ih _ (@valueAt?_length _ _ found.1 found.2 hfound) hrest (some '"') rfl)

/-! ## Values of a page with samples -/

section Filled

variable {behind : Bool} {bodies : List (List Char)} {s e x : List Char}

/-- Up to the next bracket the two texts are the same. -/
theorem filledBehind_front (hx : '>' ∉ x) (h : FilledBehind false bodies (x ++ s) e) :
    ∃ e', e = x ++ e' ∧ FilledBehind false bodies s e' := by
  induction x generalizing e with
  | nil => exact ⟨e, rfl, h⟩
  | cons c x ih =>
    obtain ⟨hc, hx⟩ := List.ne_and_not_mem_of_not_mem_cons hx
    cases h with
    | @keep _ _ _ _ e h =>
      rw [decide_eq_false hc.symm] at h
      obtain ⟨e', rfl, hrest⟩ := ih hx h
      exact ⟨e', rfl, hrest⟩

theorem filledBehind_front_page (hx : '>' ∉ x) (h : FilledBehind false bodies s (x ++ e)) :
    ∃ s', s = x ++ s' ∧ FilledBehind false bodies s' e := by
  induction x generalizing s with
  | nil => exact ⟨s, rfl, h⟩
  | cons c x ih =>
    obtain ⟨hc, hx⟩ := List.ne_and_not_mem_of_not_mem_cons hx
    cases h with
    | @keep _ _ _ s _ h =>
      rw [decide_eq_false hc.symm] at h
      obtain ⟨s', rfl, hrest⟩ := ih hx h
      exact ⟨s', rfl, hrest⟩

/-- What was read of two texts is the same, and they go on alike. -/
def Alike (bodies : List (List Char)) {α : Type} (a b : α × List Char) : Prop :=
  a.1 = b.1 ∧ FilledBehind false bodies a.2 b.2

theorem opening?_filled (h : FilledBehind false bodies s e) :
    Option.Rel (Alike bodies) (opening? s) (opening? e) := by
  have hbracket {quote : Char} {front : List Char} (hopens : Opens quote front) : '>' ∉ front :=
    hopens.not_mem (by decide) (by decide)
  cases hs : opening? s with
  | some found =>
    obtain ⟨front, hopens, rfl⟩ := opening?_eq_some.mp hs
    obtain ⟨e', rfl, hrest⟩ := filledBehind_front (hbracket hopens) h
    rw [opening?_eq_some.mpr ⟨front, hopens, rfl⟩]
    exact .some ⟨rfl, hrest⟩
  | none =>
    cases he : opening? e with
    | none => exact .none
    | some found =>
      obtain ⟨front, hopens, rfl⟩ := opening?_eq_some.mp he
      obtain ⟨s', rfl, -⟩ := filledBehind_front_page (hbracket hopens) h
      rw [opening?_eq_some.mpr ⟨front, hopens, rfl⟩] at hs
      cases hs

/-- A value that is closed in time is the same in both texts. -/
theorem splitAt?_filled {quote : Char} (hquote : quote ≠ '>') (h : FilledBehind behind bodies s e)
    (hclosed : Closes quote e) : Option.Rel (Alike bodies) (splitAt? [quote] s) (splitAt? [quote] e) := by
  induction h with
  | nil => exact .none
  | @keep behind c bodies s e h ih =>
    by_cases hc : c = quote
    · subst hc
      rw [splitAt?_here, splitAt?_here]
      rw [decide_eq_false hquote] at h
      exact .some ⟨rfl, h⟩
    · have hrest := ih (hclosed.of_cons hc)
      rw [splitAt?_cons hc, splitAt?_cons hc]
      generalize splitAt? [quote] s = a at hrest
      generalize splitAt? [quote] e = b at hrest
      cases hrest with
      | none => exact .none
      | some halike => exact .some ⟨congrArg (c :: ·) halike.1, halike.2⟩
  | sample => exact absurd hclosed (not_closes_sampleEnd quote _)

theorem valueAt?_filled (h : FilledBehind false bodies s e) (hsettled : Settled e) (before : Option Char) :
    Option.Rel (Alike bodies) (valueAt? before s) (valueAt? before e) := by
  unfold valueAt? openingAt?
  split
  · exact .none
  have hopening := opening?_filled h
  have hclosed := hsettled e List.suffix_rfl
  cases he : opening? e with
  | none =>
    rw [he] at hopening
    cases hs : opening? s with
    | none => exact .none
    | some found => rw [hs] at hopening; cases hopening
  | some found =>
    rw [he] at hopening
    cases hs : opening? s with
    | none => rw [hs] at hopening; cases hopening
    | some found' =>
      rw [hs] at hopening
      obtain ⟨front, hopens, -⟩ := opening?_eq_some.mp he
      cases hopening with
      | some halike =>
        rw [Option.bind_some, Option.bind_some, halike.1]
        refine splitAt?_filled ?_ halike.2 (hclosed found he)
        rintro hquote
        rcases hopens.quotes with h | h
        · exact absurd (h.symm.trans hquote) (by decide)
        · exact absurd (h.symm.trans hquote) (by decide)

/-- A page with samples has the values of the page and those of its samples. -/
theorem mem_classValues_filled {before : Option Char} (h : FilledBehind behind bodies s e) (hsettled : Settled e)
    (hbodies : ∀ body ∈ bodies, Settled (body ++ sampleEnd))
    (hbefore : behind → before = some '>') (v : List Char) :
    v ∈ classValues before s ↔ v ∈ classValues before e ∨ ∃ body ∈ bodies, v ∈ classValues none body := by
  generalize hlength : e.length = n
  induction n using Nat.strong_induction_on generalizing behind bodies s e before with
  | _ n ih =>
    subst hlength
    cases h with
    | nil => simp [classValues_nil]
    | @keep _ c _ s e h =>
      have hvalue := valueAt?_filled (.keep false c h) hsettled before
      rw [classValues_cons, classValues_cons]
      cases hs : valueAt? before (c :: s) <;> cases he : valueAt? before (c :: e) <;> rw [hs, he] at hvalue <;>
        cases hvalue
      · exact ih e.length (Nat.lt_succ_self _) h (hsettled.suffix (List.suffix_cons c e)) hbodies
          (fun hc => congrArg some (of_decide_eq_true hc)) rfl
      · rename_i found found' halike
        have hrest : v ∈ classValues (some '"') found.2 ↔ v ∈ classValues (some '"') found'.2 ∨ _ :=
          ih _ (@valueAt?_length _ _ found'.1 found'.2 he) halike.2 (hsettled.suffix (suffix_of_valueAt? he))
            hbodies Bool.noConfusion rfl
        show v ∈ found.1 :: _ ↔ v ∈ found'.1 :: _ ∨ _
        rw [List.mem_cons, List.mem_cons, hrest, halike.1, or_assoc]
    | @sample body bodies s e hbody h =>
      rw [hbefore rfl, classValues_sample (hbodies body List.mem_cons_self), classValues_sampleEnd, List.mem_append,
        classValues_boundary (by decide)]
      have hshorter : e.length < (sampleEnd ++ e).length := by
        rw [List.length_append]
        exact Nat.lt_add_of_pos_left (by decide)
      rw [ih _ hshorter h (hsettled.suffix (List.suffix_append _ e))
        (fun body hmem => hbodies body (List.mem_cons_of_mem _ hmem)) Bool.noConfusion rfl]
      rw [List.exists_mem_cons_iff, or_left_comm]

end Filled

/-! ## Samples without apostrophes -/

/-- What the tag of a colour says between its quotes. -/
def kindText (kind : TokenKind) : List Char := "token ".toList ++ kind.name.toList

theorem openingTag_eq (kind : TokenKind) : (Code.openingTag kind).toList =
    "<span class=".toList ++ '"' :: (kindText kind ++ '"' :: ['>']) := by
  unfold Code.openingTag kindText
  simp

/-- What stands behind the first quote of a colour's tag. -/
def KindBehind (s : List Char) : Prop := ∃ kind rest, s = kindText kind ++ '"' :: rest

/-- Behind a double quote stands what a colour's tag says, or it cannot open a value. -/
def Quoted (s : List Char) : Prop :=
  ∀ p r, s = p ++ '"' :: r → KindBehind r ∨ ∃ c ∈ p.getLast?, c ≠ '=' ∧ isWhite c = false

namespace Quoted

variable {x s : List Char}

theorem of_not_mem (h : '"' ∉ s) : Quoted s := fun p _ hs =>
  absurd (hs ▸ List.mem_append_right p List.mem_cons_self) h

theorem getLast?_append {p : List Char} {q : Char → Prop} (h : ∃ c ∈ p.getLast?, q c) (x : List Char) :
    ∃ c ∈ (x ++ p).getLast?, q c := by
  obtain ⟨c, hc, hq⟩ := h
  refine ⟨c, ?_, hq⟩
  rw [List.getLast?_append, Option.mem_def.mp hc]
  rfl

/-- A quote stands behind what has none. -/
theorem behind {p r : List Char} (hx : '"' ∉ x) (heq : x ++ s = p ++ '"' :: r) :
    ∃ w, p = x ++ w ∧ s = w ++ '"' :: r := by
  rcases List.append_eq_append_iff.mp heq with ⟨w, hp, hs⟩ | ⟨w, rfl, hr⟩
  · exact ⟨w, hp, hs⟩
  · cases w with
    | nil => exact ⟨[], by rw [List.append_nil, List.append_nil], hr.symm⟩
    | cons c w =>
      rw [← (List.cons.inj hr).1] at hx
      exact absurd (List.mem_append_right p List.mem_cons_self) hx

theorem append (hx : '"' ∉ x) (h : Quoted s) : Quoted (x ++ s) := by
  intro p r heq
  obtain ⟨w, rfl, hs⟩ := behind hx heq
  exact (h w r hs).imp_right (getLast?_append · x)

theorem quote (hx : '"' ∉ x) (hhere : KindBehind s ∨ ∃ c ∈ x.getLast?, c ≠ '=' ∧ isWhite c = false)
    (h : Quoted s) : Quoted (x ++ '"' :: s) := by
  intro p r heq
  obtain ⟨w, rfl, hs⟩ := behind hx heq
  cases w with
  | nil =>
    rw [List.append_nil, ← (List.cons.inj hs).2]
    exact hhere
  | cons c w =>
    rw [List.append_cons]
    exact (h w r (List.cons.inj hs).2).imp_right (getLast?_append · _)

/-- Each of the colours' tags has two quotes. -/
theorem openingTag (kind : TokenKind) (h : Quoted s) : Quoted ((Code.openingTag kind).toList ++ s) := by
  have hkind : '"' ∉ kindText kind ∧ ∃ c ∈ (kindText kind).getLast?, c ≠ '=' ∧ isWhite c = false := by
    cases kind <;> exact ⟨by decide, _, rfl, by decide⟩
  have htext : (Code.openingTag kind).toList ++ s =
      "<span class=".toList ++ '"' :: (kindText kind ++ '"' :: (['>'] ++ s)) := by
    rw [openingTag_eq]
    simp
  rw [htext]
  exact .quote (by decide) (.inl ⟨kind, _, rfl⟩) (.quote hkind.1 (.inr hkind.2) (.append (by decide) h))

end Quoted

/-- In a sample double quotes stand only in the colours' tags. -/
theorem quoted_shown {code html s : List Char} (h : Code.Shown Code.sampleChar code html) (hs : Quoted s) :
    Quoted (html ++ s) := by
  have hchar (c : Char) : '"' ∉ Code.sampleChar c := Code.not_mem_sampleChar (by decide) c
  induction h with
  | nil => exact hs
  | char c _ ih =>
    rw [List.append_assoc]
    exact .append (hchar c) ih
  | token kind text _ ih =>
    have htext : '"' ∉ text.flatMap Code.sampleChar := by
      rw [List.mem_flatMap]
      rintro ⟨c, -, hc⟩
      exact hchar c hc
    simp only [List.append_assoc]
    exact .openingTag kind (.append htext (.append (by decide) ih))

/-- Without apostrophes only the colours' tags open values. -/
theorem Quoted.opening? {s t : List Char} (h : Quoted s) (hs : '\'' ∉ s) (ht : t <:+ s) {found : Char × List Char}
    (hfound : Style.opening? t = some found) : found.1 = '"' ∧ KindBehind found.2 := by
  obtain ⟨quote, rest⟩ := found
  obtain ⟨u, rfl⟩ := ht
  obtain ⟨front, ⟨hquote, name, hname, w, w', -, hw', rfl⟩, rfl⟩ := opening?_eq_some.mp hfound
  rcases hquote with rfl | rfl
  · refine ⟨rfl, (h ((u ++ (name.toList ++ w)) ++ '=' :: w') rest (by simp)).resolve_right ?_⟩
    rintro ⟨c, hc, hsign, hwhite⟩
    rw [List.getLast?_append_of_ne_nil _ (List.cons_ne_nil _ _)] at hc
    rcases List.mem_cons.mp (List.mem_of_getLast? hc) with hc | hc
    · exact hsign hc
    · rw [hw' c hc] at hwhite
      cases hwhite
  · exact absurd (by simp) hs

theorem settled_of_quoted {s : List Char} (h : Quoted s) (hs : '\'' ∉ s) : Settled s := by
  have hkind : ∀ kind, '<' ∉ kindText kind := by
    intro kind
    cases kind <;> decide
  rintro t ht ⟨quote, rest⟩ hfound
  obtain ⟨rfl, kind, more, rfl⟩ := h.opening? hs ht hfound
  have hquote : ('"' ≠ '<' ) := by decide
  exact closes_of_front hquote (hkind kind) more

theorem kind_of_mem_classValues {s v : List Char} (h : Quoted s) (hs : '\'' ∉ s) (hv : v ∈ classValues none s) :
    ∃ kind, v = kindText kind := by
  have hkind : ∀ kind, '"' ∉ kindText kind := by
    intro kind
    cases kind <;> decide
  obtain ⟨t, ht, ⟨quote, rest⟩, hopened, more, hvalue⟩ := opening?_of_mem_classValues hv
  obtain ⟨rfl, kind, behind, rfl⟩ := h.opening? hs ht hopened
  have hcut := splitAt?_append (hkind kind) [] behind
  rw [List.append_assoc, List.singleton_append] at hcut
  rw [hcut] at hvalue
  cases hvalue
  exact ⟨kind, rfl⟩

/-! ## Files with one page -/

theorem quoted_sampleText {coloured : Bool} {r : Region} {text : List Char} (h : r.sampleText? coloured = some text)
    {s : List Char} (hs : Quoted s) : Quoted (text ++ s) := by
  unfold Region.sampleText? at h
  split at h
  · rename_i hsample
    cases r with
    | html => cases h
    | inline code =>
      cases h
      have hcode : '"' ∉ code := by simpa using (Bool.and_eq_true_iff.mp hsample).2
      exact .append (Component.not_mem_entities (by decide) hcode) hs
    | block language code =>
      cases h
      exact quoted_shown (Component.shown_blockCode coloured language code).entities hs
  · cases h

/-- The tokens of a component once its marks are taken out. -/
def usedTokens (t : Theme) (component : String) : TokenSet :=
  t.tokensIn (String.ofList (Component.Brace.unescape component.toList))

theorem usedTokens_eq (t : Theme) (component : String) :
    usedTokens t component =
      .ofList (((classValues none (Component.Brace.unescape component.toList)).flatMap candidates).filter
        fun c => (t.rule? c).isSome) := by
  rw [usedTokens, Theme.tokensIn, String.toList_ofList]

theorem usedTokens_ext {t : Theme} {component component' : String} :
    usedTokens t component = usedTokens t component' ↔
      ∀ token, token ∈ usedTokens t component ↔ token ∈ usedTokens t component' := tokensIn_ext

/-- What a page has of tags and values ends before the next sample. -/
structure Apart (o : MarkdownOptions) (fields : Fields) (regions : List Region) : Prop where
  tidy : Component.Tidy (pageHtml o regions)
  settled : Settled (Component.Brace.unescape (pageOf o fields regions).toList)

/-- What the samples of a file use, each by itself. -/
def ShownBy (o : MarkdownOptions) (regions : List Region) (t : Theme) (token : String) : Prop :=
  ∃ text ∈ sampleTexts o.highlight regions, token ∈ t.tokensIn (String.ofList text)

/-- A component uses what its page uses and what its samples use by themselves. -/
theorem mem_usedTokens {o : MarkdownOptions} {source body code : String} {fields : Fields}
    (hsplit : Deck.splitFrontMatter source = .ok (fields, body)) (hcode : Component.compile o source = .ok code)
    (hapart : Apart o fields (bodyRegions o body))
    (hsamples : ∀ text ∈ sampleTexts o.highlight (bodyRegions o body), Settled (text ++ sampleEnd))
    {t : Theme} {token : String} :
    token ∈ usedTokens t code ↔
      token ∈ usedTokens t (pageOf o fields (bodyRegions o body)) ∨ ShownBy o (bodyRegions o body) t token := by
  obtain ⟨fields', body', hsplit', hleft, -⟩ := Component.unescape_compile hcode
  cases hsplit.symm.trans hsplit'
  obtain ⟨bodies, hperm, hfilled⟩ := Component.filled_component hapart.tidy
  have hvalues (v : List Char) : v ∈ classValues none (Component.Brace.unescape _) ↔ _ :=
    mem_classValues_filled (hfilled.chars false).unescape hapart.settled
      (fun body hbody => hsamples body (hperm.mem_iff.mpr hbody)) Bool.noConfusion v
  simp only [usedTokens, ShownBy, mem_tokensIn, String.toList_ofList, hleft, hvalues, ← hperm.mem_iff]
  constructor
  · rintro ⟨⟨v, hv | ⟨text, htext, hv⟩, htoken⟩, hrule⟩
    · exact .inl ⟨⟨v, hv, htoken⟩, hrule⟩
    · exact .inr ⟨text, htext, ⟨v, hv, htoken⟩, hrule⟩
  · rintro (⟨⟨v, hv, htoken⟩, hrule⟩ | ⟨text, htext, ⟨v, hv, htoken⟩, hrule⟩)
    · exact ⟨⟨v, .inl hv, htoken⟩, hrule⟩
    · exact ⟨⟨v, .inr ⟨text, htext, hv⟩, htoken⟩, hrule⟩

section Plain

variable {o : MarkdownOptions} {regions : List Region}

theorem quoted_of_mem_sampleTexts {text : List Char} (h : text ∈ sampleTexts o.highlight regions) {s : List Char}
    (hs : Quoted s) : Quoted (text ++ s) := by
  obtain ⟨r, -, hr⟩ := List.mem_filterMap.mp h
  exact quoted_sampleText hr hs

/-- Samples without apostrophes close their values. -/
theorem settled_of_plain (hplain : ∀ text ∈ sampleTexts o.highlight regions, '\'' ∉ text) :
    ∀ text ∈ sampleTexts o.highlight regions, Settled (text ++ sampleEnd) := by
  intro text htext
  have hend : '"' ∉ sampleEnd ∧ '\'' ∉ sampleEnd := by decide
  refine settled_of_quoted (quoted_of_mem_sampleTexts htext (.of_not_mem hend.1)) ?_
  rw [List.mem_append, not_or]
  exact ⟨hplain text htext, hend.2⟩

/-- They use nothing where the words of the colours' tags name no rule. -/
theorem not_shownBy_of_plain (hplain : ∀ text ∈ sampleTexts o.highlight regions, '\'' ∉ text) {t : Theme}
    (hwords : ∀ kind, ∀ token ∈ candidates (kindText kind), t.rule? token = none) (token : String) :
    ¬ ShownBy o regions t token := by
  rintro ⟨text, htext, htoken⟩
  obtain ⟨⟨v, hv, hcandidate⟩, hrule⟩ := mem_tokensIn.mp htoken
  have hquoted := quoted_of_mem_sampleTexts htext (.of_not_mem List.not_mem_nil)
  rw [List.append_nil] at hquoted
  rw [String.toList_ofList] at hv
  obtain ⟨kind, rfl⟩ := kind_of_mem_classValues hquoted (hplain text htext) hv
  rw [hwords kind token hcandidate] at hrule
  cases hrule

end Plain

/-- Two files differ in their samples only. -/
structure SamePage (o : MarkdownOptions) (fields : Fields) (source body source' body' : String) : Prop where
  split : Deck.splitFrontMatter source = .ok (fields, body)
  split' : Deck.splitFrontMatter source' = .ok (fields, body')
  emptied : (bodyRegions o body).map Region.emptied = (bodyRegions o body').map Region.emptied

theorem SamePage.page {o : MarkdownOptions} {fields : Fields} {source body source' body' : String}
    (h : SamePage o fields source body source' body') :
    pageHtml o (bodyRegions o body) = pageHtml o (bodyRegions o body') := by
  unfold pageHtml
  rw [h.emptied]

/-- Two files that differ in their samples only use the same tokens exactly if their samples show, besides the
tokens of the page, the same ones. This is so if no sample has an apostrophe and the words of the colours' tags
name no rule. -/
theorem same_tokens_iff {o : MarkdownOptions} {fields : Fields} {source body source' body' code code' : String}
    (h : SamePage o fields source body source' body') (hapart : Apart o fields (bodyRegions o body))
    (hcode : Component.compile o source = .ok code) (hcode' : Component.compile o source' = .ok code')
    (t : Theme) :
    ((∀ text ∈ sampleTexts o.highlight (bodyRegions o body ++ bodyRegions o body'), Settled (text ++ sampleEnd)) →
      (usedTokens t code = usedTokens t code' ↔
        ∀ token, token ∉ usedTokens t (pageOf o fields (bodyRegions o body)) →
          (ShownBy o (bodyRegions o body) t token ↔ ShownBy o (bodyRegions o body') t token))) ∧
    ((∀ text ∈ sampleTexts o.highlight (bodyRegions o body ++ bodyRegions o body'), '\'' ∉ text) →
      (∀ kind, ∀ token ∈ candidates (kindText kind), t.rule? token = none) →
      usedTokens t code = usedTokens t code') := by
  have hsame : pageOf o fields (bodyRegions o body) = pageOf o fields (bodyRegions o body') :=
    congrArg (Component.componentOf o fields) h.page
  have hapart' : Apart o fields (bodyRegions o body') := ⟨h.page ▸ hapart.tidy, hsame ▸ hapart.settled⟩
  have htexts : sampleTexts o.highlight (bodyRegions o body ++ bodyRegions o body') =
      sampleTexts o.highlight (bodyRegions o body) ++ sampleTexts o.highlight (bodyRegions o body') :=
    List.filterMap_append
  rw [htexts]
  have hiff (hsettled : ∀ text ∈ sampleTexts o.highlight (bodyRegions o body), Settled (text ++ sampleEnd))
      (hsettled' : ∀ text ∈ sampleTexts o.highlight (bodyRegions o body'), Settled (text ++ sampleEnd)) :
      usedTokens t code = usedTokens t code' ↔
        ∀ token, token ∉ usedTokens t (pageOf o fields (bodyRegions o body)) →
          (ShownBy o (bodyRegions o body) t token ↔ ShownBy o (bodyRegions o body') t token) := by
    refine usedTokens_ext.trans (forall_congr' fun token => ?_)
    rw [mem_usedTokens h.split hcode hapart hsettled, mem_usedTokens h.split' hcode' hapart' hsettled', ← hsame]
    -- what the page uses is used anyway
    exact ⟨fun hboth hpage => (or_iff_right hpage).symm.trans (hboth.trans (or_iff_right hpage)), or_congr_right'⟩
  refine ⟨fun hsamples => ?_, fun hplain hwords => ?_⟩
  · obtain ⟨hsettled, hsettled'⟩ := List.forall_mem_append.mp hsamples
    exact hiff hsettled hsettled'
  obtain ⟨hleft, hright⟩ := List.forall_mem_append.mp hplain
  refine (hiff (settled_of_plain hleft) (settled_of_plain hright)).mpr fun token _ => ?_
  exact iff_of_false (not_shownBy_of_plain hleft hwords token) (not_shownBy_of_plain hright hwords token)

/-- A line of code. -/
def codeLine (code : String) : String := "`" ++ code ++ "`\n"

/-- A coloured sample. -/
def codeFence (code : String) : String := "```js\n" ++ code ++ "\n```\n"

/-- A utility that is shown in a sample is used, because apostrophes in front of it and behind it stay. -/
theorem apostrophes_reach_stylesheet :
    SamePage {} [] (codeLine "class='mt-4'") (codeLine "class='mt-4'") (codeLine "x") (codeLine "x") ∧
      ∃ code code', Component.compile {} (codeLine "class='mt-4'") = .ok code ∧
        Component.compile {} (codeLine "x") = .ok code' ∧
        usedTokens {} code = ["mt-4"] ∧ usedTokens {} code' = [] := by
  have hpage : SamePage {} [] (codeLine "class='mt-4'") (codeLine "class='mt-4'") (codeLine "x") (codeLine "x") :=
    ⟨by with_unfolding_all rfl, by with_unfolding_all rfl, by decide +kernel⟩
  refine ⟨hpage, _, _, Component.compile_eq_ok.mpr ⟨_, _, hpage.split, by decide +kernel, by decide +kernel, rfl⟩,
    Component.compile_eq_ok.mpr ⟨_, _, hpage.split', by decide +kernel, by decide +kernel, rfl⟩, ?_, ?_⟩
  · rw [usedTokens_eq, Component.componentWith, Component.toList_assemble]
    decide +kernel
  · rw [usedTokens_eq, Component.componentWith, Component.toList_assemble]
    decide +kernel

/-- Double quotes do not reach it, nor do the colours' tags. -/
theorem same_tokens_iff_double_quotes :
    ∃ code code', Component.compile {} (codeFence "x") = .ok code ∧
      Component.compile {} (codeFence "class=\"mt-4\"") = .ok code' ∧ usedTokens {} code = usedTokens {} code' ∧
      ∀ token, token ∉ usedTokens {} (pageOf {} [] (bodyRegions {} (codeFence "x"))) →
        (ShownBy {} (bodyRegions {} (codeFence "x")) {} token ↔
          ShownBy {} (bodyRegions {} (codeFence "class=\"mt-4\"")) {} token) := by
  have hpage : SamePage {} [] (codeFence "x") (codeFence "x") (codeFence "class=\"mt-4\"")
      (codeFence "class=\"mt-4\"") :=
    ⟨by with_unfolding_all rfl, by with_unfolding_all rfl, by decide +kernel⟩
  have hapart : Apart {} [] (bodyRegions {} (codeFence "x")) := by
    refine ⟨⟨by decide +kernel, by decide +kernel⟩, ?_⟩
    rw [pageOf, Component.componentOf, Component.toList_assemble]
    decide +kernel
  have hsamples : ∀ text ∈ sampleTexts true (bodyRegions {} (codeFence "x") ++
      bodyRegions {} (codeFence "class=\"mt-4\"")), Settled (text ++ sampleEnd) ∧ '\'' ∉ text := by decide +kernel
  have hwords : ∀ kind, ∀ token ∈ candidates (kindText kind), ({} : Theme).rule? token = none := by
    intro kind
    cases kind <;> decide
  obtain ⟨code, hcode⟩ : ∃ code, Component.compile {} (codeFence "x") = .ok code :=
    ⟨_, Component.compile_eq_ok.mpr ⟨_, _, hpage.split, by decide +kernel, by decide +kernel, rfl⟩⟩
  obtain ⟨code', hcode'⟩ : ∃ code', Component.compile {} (codeFence "class=\"mt-4\"") = .ok code' :=
    ⟨_, Component.compile_eq_ok.mpr ⟨_, _, hpage.split', by decide +kernel, by decide +kernel, rfl⟩⟩
  obtain ⟨hiff, hsame⟩ := same_tokens_iff hpage hapart hcode hcode' {}
  have htokens := hsame (fun text htext => (hsamples text htext).2) hwords
  exact ⟨code, code', hcode, hcode', htokens, (hiff fun text htext => (hsamples text htext).1).mp htokens⟩

end DeckPress.Style
