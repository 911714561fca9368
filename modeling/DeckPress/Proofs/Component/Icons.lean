import DeckPress.Component.Icon
import DeckPress.Proofs.Text.Search

/-!
# The collection of an icon

The collections are tried in one order, whatever order they are given in, and a longer name comes before a shorter
one. Of the collections that fit a name each starts it, so one that is longer in bytes is longer in characters. The
first that fits is the longest.
-/

namespace DeckPress.Component

open Text

/-- A name starts with a word and a hyphen, and something follows. -/
def Fits (name word rest : List Char) : Prop := name = word ++ '-' :: rest ∧ rest ≠ []

namespace IconOptions

theorem afterWord?_eq_some {word : String} {name rest : List Char} :
    afterWord? word name = some rest ↔ Fits name word.toList rest := by
  unfold afterWord? Fits
  rw [Option.filter_eq_some_iff]
  refine and_congr ⟨fun h => ?_, fun h => ?_⟩ (by simp)
  · simpa using eq_append_of_stripPrefix? h
  · have hwhole := stripPrefix?_append (word.toList ++ ['-']) rest
    rwa [List.append_assoc, List.singleton_append, ← h] at hwhole

/-! ## The order of the collections -/

/-- A longer name comes first, and of two names of one length the smaller. -/
def comesFirst (a b : String) : Bool :=
  b.utf8ByteSize < a.utf8ByteSize || (a.utf8ByteSize = b.utf8ByteSize && (a < b || a = b))

theorem byLength_eq (o : IconOptions) : o.byLength = o.collections.mergeSort comesFirst := rfl

theorem comesFirst_iff {a b : String} :
    comesFirst a b ↔ b.utf8ByteSize < a.utf8ByteSize ∨ (a.utf8ByteSize = b.utf8ByteSize ∧ (a < b ∨ a = b)) := by
  simp [comesFirst]

theorem comesFirst_trans (a b c : String) (hab : comesFirst a b) (hbc : comesFirst b c) : comesFirst a c := by
  rw [comesFirst_iff] at hab hbc ⊢
  rcases hab with hab | ⟨hab, hlt | rfl⟩
  · exact .inl (by omega)
  · rcases hbc with hbc | ⟨hbc, hlt' | rfl⟩
    · exact .inl (by omega)
    · exact .inr ⟨hab.trans hbc, .inl (String.lt_trans hlt hlt')⟩
    · exact .inr ⟨hab, .inl hlt⟩
  · exact hbc

theorem comesFirst_total (a b : String) : (comesFirst a b || comesFirst b a) := by
  rw [Bool.or_eq_true, comesFirst_iff, comesFirst_iff]
  rcases Nat.lt_trichotomy a.utf8ByteSize b.utf8ByteSize with hlt | heq | hlt
  · exact .inr (.inl hlt)
  · by_cases hab : a < b
    · exact .inl (.inr ⟨heq, .inl hab⟩)
    · by_cases hba : b < a
      · exact .inr (.inr ⟨heq.symm, .inl hba⟩)
      · exact .inl (.inr ⟨heq, .inr (String.le_antisymm (String.not_lt.mp hba) (String.not_lt.mp hab))⟩)
  · exact .inl (.inl hlt)

theorem comesFirst_antisymm {a b : String} (hab : comesFirst a b) (hba : comesFirst b a) : a = b := by
  rw [comesFirst_iff] at hab hba
  rcases hab with hab | ⟨hab, hlt | rfl⟩
  · omega
  · rcases hba with hba | ⟨-, hlt' | rfl⟩
    · omega
    · exact absurd hlt' (String.lt_asymm hlt)
    · rfl
  · rfl

theorem pairwise_byLength (o : IconOptions) : o.byLength.Pairwise fun a b => comesFirst a b := by
  rw [byLength_eq]
  exact List.pairwise_mergeSort comesFirst_trans comesFirst_total o.collections

theorem mem_byLength {o : IconOptions} {c : String} : c ∈ o.byLength ↔ c ∈ o.collections := by
  rw [byLength_eq]
  exact (List.mergeSort_perm o.collections comesFirst).mem_iff

theorem byLength_perm {o : IconOptions} {cs : List String} (h : cs.Perm o.collections) :
    { o with collections := cs }.byLength = o.byLength := by
  refine List.Perm.eq_of_pairwise (fun _ _ _ _ => comesFirst_antisymm) (pairwise_byLength _) (pairwise_byLength o) ?_
  exact ((List.mergeSort_perm cs comesFirst).trans h).trans (List.mergeSort_perm o.collections comesFirst).symm

/-! ## The first that fits -/

variable {o : IconOptions} {name : List Char}

/-- Of two words that a name starts with, the one with fewer bytes has fewer characters. -/
theorem length_le_of_fits {a b : String} {rest rest' : List Char} (ha : Fits name a.toList rest)
    (hb : Fits name b.toList rest') (h : a.utf8ByteSize ≤ b.utf8ByteSize) : a.length ≤ b.length := by
  by_contra hlong
  rw [Nat.not_le, ← String.length_toList, ← String.length_toList] at hlong
  have hstart : a.toList <+: name := ⟨_, ha.1.symm⟩
  have hstart' : b.toList <+: name := ⟨_, hb.1.symm⟩
  obtain ⟨more, hmore⟩ := List.prefix_of_prefix_length_le hstart' hstart hlong.le
  -- what it has more of characters it has more of bytes
  have hcut : a = b ++ String.ofList more := String.toList_inj.mp (by simp [hmore])
  rw [hcut, String.utf8ByteSize_append] at h
  have hnone : String.ofList more = "" := String.utf8ByteSize_eq_zero_iff.mp (by omega)
  rw [hcut, hnone, String.append_empty] at hlong
  exact absurd hlong (Nat.lt_irrefl _)

theorem splitCollection?_eq_none :
    o.splitCollection? name = none ↔ ∀ c ∈ o.collections, ∀ rest, ¬ Fits name c.toList rest := by
  rw [splitCollection?, List.findSome?_eq_none_iff]
  refine ⟨fun h c hc rest hfits => ?_, fun h c hc => ?_⟩
  · have hnone := Option.map_eq_none_iff.mp (h c (mem_byLength.mpr hc))
    rw [afterWord?_eq_some.mpr hfits] at hnone
    cases hnone
  · rw [Option.map_eq_none_iff, Option.eq_none_iff_forall_ne_some]
    exact fun rest hrest => h c (mem_byLength.mp hc) rest (afterWord?_eq_some.mp hrest)

/-- The collection that is found fits the name, and none that fits is longer. -/
theorem splitCollection?_longest {icon : Icon} (h : o.splitCollection? name = some icon) :
    icon.collection ∈ o.collections ∧ Fits name icon.collection.toList icon.name.toList ∧
      ∀ c ∈ o.collections, ∀ rest, Fits name c.toList rest → c.length ≤ icon.collection.length := by
  obtain ⟨earlier, found, later, hcut, hfound, hnone⟩ := List.findSome?_eq_some_iff.mp h
  obtain ⟨rest, hrest, rfl⟩ := Option.map_eq_some_iff.mp hfound
  have hfits := afterWord?_eq_some.mp hrest
  have horder := pairwise_byLength o
  rw [hcut, List.pairwise_append, List.pairwise_cons] at horder
  obtain ⟨-, ⟨hfirst, -⟩, -⟩ := horder
  refine ⟨?_, ?_, fun c hc other hother => ?_⟩
  · rw [← mem_byLength, hcut]
    exact List.mem_append_right _ List.mem_cons_self
  · rw [String.toList_ofList]
    exact hfits
  · rw [← mem_byLength, hcut, List.mem_append, List.mem_cons] at hc
    rcases hc with hc | rfl | hc
    · have hnot := hnone c hc
      rw [afterWord?_eq_some.mpr hother] at hnot
      cases hnot
    · exact Nat.le_refl _
    · refine length_le_of_fits hother hfits ?_
      rcases comesFirst_iff.mp (hfirst c hc) with hless | ⟨hsame, -⟩
      · exact hless.le
      · exact hsame.ge

/-! ## The prefix -/

/-- What is looked for in the collections: what follows the icon prefix, if it stands in front of the hyphenated
spelling of a tag, or else the whole of it. -/
inductive Named (o : IconOptions) (kebab : List Char) : Bool → List Char → Prop where
  | behindPrefix {rest : List Char} : lowercase o.tagPrefix.toList ≠ [] →
      Fits kebab (lowercase o.tagPrefix.toList) rest → Named o kebab true rest
  | whole : (∀ rest, lowercase o.tagPrefix.toList ≠ [] → ¬ Fits kebab (lowercase o.tagPrefix.toList) rest) →
      Named o kebab false kebab

theorem afterPrefix?_eq_some {kebab rest : List Char} :
    o.afterPrefix? kebab = some rest ↔
      lowercase o.tagPrefix.toList ≠ [] ∧ Fits kebab (lowercase o.tagPrefix.toList) rest := by
  have hword : (String.ofList (lowercase o.tagPrefix.toList)).isEmpty ↔ lowercase o.tagPrefix.toList = [] := by
    rw [String.isEmpty_iff, ← String.toList_inj, String.toList_ofList]
    rfl
  unfold afterPrefix?
  dsimp only
  split
  · rename_i hempty
    simp [hword.mp hempty]
  · rename_i hsome
    rw [afterWord?_eq_some, String.toList_ofList]
    exact (and_iff_right (mt hword.mpr hsome)).symm

theorem exists_named (o : IconOptions) (kebab : List Char) :
    ∃ prefixed name, o.Named kebab prefixed name ∧
      o.afterPrefix? kebab = if prefixed then some name else none := by
  cases h : o.afterPrefix? kebab with
  | some rest =>
    obtain ⟨hsome, hfits⟩ := afterPrefix?_eq_some.mp h
    exact ⟨true, rest, .behindPrefix hsome hfits, rfl⟩
  | none =>
    refine ⟨false, kebab, .whole fun rest hsome hfits => ?_, rfl⟩
    rw [afterPrefix?_eq_some.mpr ⟨hsome, hfits⟩] at h
    cases h

/-- The order of the collections does not matter. The icon of a tag is in the longest collection that fits what is
looked for. If none fits, it is in the default collection if the tag has the prefix, and else there is none. -/
theorem icon_in_longest_collection (o : IconOptions) (tag : String) :
    (∀ cs, cs.Perm o.collections → { o with collections := cs }.icon? tag = o.icon? tag) ∧
      ∃ prefixed name, o.Named (kebabCase tag).toList prefixed name ∧
        ((∃ c ∈ o.collections, ∃ rest, Fits name c.toList rest) →
          ∃ icon, o.icon? tag = some icon ∧ icon.collection ∈ o.collections ∧
            Fits name icon.collection.toList icon.name.toList ∧
            ∀ c ∈ o.collections, ∀ rest, Fits name c.toList rest → c.length ≤ icon.collection.length) ∧
        ((∀ c ∈ o.collections, ∀ rest, ¬ Fits name c.toList rest) →
          o.icon? tag = if prefixed then some ⟨o.defaultCollection, String.ofList name⟩ else none) := by
  refine ⟨fun cs h => ?_, ?_⟩
  · have hsplit (s : List Char) : { o with collections := cs }.splitCollection? s = o.splitCollection? s := by
      unfold splitCollection?
      rw [byLength_perm h]
    unfold icon?
    simp only [hsplit]
    rfl
  · obtain ⟨prefixed, name, hnamed, hafter⟩ := exists_named o (kebabCase tag).toList
    have hicon : o.icon? tag = (o.splitCollection? name).or
        (if prefixed then some ⟨o.defaultCollection, String.ofList name⟩ else none) := by
      unfold icon?
      dsimp only
      rw [hafter]
      cases hnamed with
      | behindPrefix hsome hfits =>
        rw [if_pos rfl, if_pos rfl]
        dsimp only
        cases o.splitCollection? name <;> rfl
      | whole hnone =>
        rw [if_neg Bool.false_ne_true, if_neg Bool.false_ne_true, Option.or_none]
    refine ⟨prefixed, name, hnamed, fun ⟨c, hc, rest, hfits⟩ => ?_, fun hnone => ?_⟩
    · cases hfound : o.splitCollection? name with
      | none => exact absurd hfits (splitCollection?_eq_none.mp hfound c hc rest)
      | some icon =>
        obtain ⟨hmem, hlongest⟩ := splitCollection?_longest hfound
        exact ⟨icon, by rw [hicon, hfound, Option.some_or], hmem, hlongest⟩
    · rw [hicon, splitCollection?_eq_none.mpr hnone, Option.none_or]

end IconOptions

end DeckPress.Component
