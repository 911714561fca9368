import DeckPress.Proofs.Component.Icons
import DeckPress.Proofs.Component.Imports

/-!
# Spellings of one component

A component has one name, and is looked for by that name in directories. The resolvers for icons and elements go
by the hyphenated spelling of the tag, and two tags of one name may differ in it: `icon-a-b` is `icon-a-b`, but
`IconAB` is `icon-ab`. So two tags of one name stand for the same under all options exactly if their hyphenated
spellings are the same, or neither has a hyphen that could stand behind a prefix.

The spellings of a name in words are the same with hyphens if every word but the last has two letters.
-/

namespace DeckPress.Component

open Text

/-! ## Hyphenated spellings -/

/-- A small letter or a digit. A capital behind it is given a hyphen. -/
def isSmall (c : Char) : Bool := isAsciiLower c || isAsciiDigit c

theorem isSmall_of_upper {c : Char} (h : isAsciiUpper c) : isSmall c = false := by
  simp only [isSmall, isAsciiUpper, isAsciiLower, isAsciiDigit, Bool.and_eq_true, decide_eq_true_eq, Char.le_def,
    UInt32.le_iff_toNat_le, Bool.or_eq_false_iff, Bool.and_eq_false_iff, decide_eq_false_iff_not, Nat.not_le] at h ⊢
  change 65 ≤ c.toNat ∧ c.toNat ≤ 90 at h
  change (c.toNat < 97 ∨ 122 < c.toNat) ∧ (c.toNat < 48 ∨ 57 < c.toNat)
  omega

/-- What is hyphenated behind a text goes by the last character of it. -/
theorem kebabFrom_append {a : List Char} (ha : a ≠ []) (afterSmall : Bool) (b : List Char) :
    kebabFrom afterSmall (a ++ b) = kebabFrom afterSmall a ++ kebabFrom (a.getLast?.any isSmall) b := by
  induction a generalizing afterSmall with
  | nil => exact absurd rfl ha
  | cons c a ih =>
    have hrest : kebabFrom (isSmall c) (a ++ b) =
        kebabFrom (isSmall c) a ++ kebabFrom ((c :: a).getLast?.any isSmall) b := by
      cases a with
      | nil => rfl
      | cons d a => rw [ih (List.cons_ne_nil d a), List.getLast?_cons_cons]
    have hunderscore : isSmall '_' = false := by decide
    rw [List.cons_append, kebabFrom, kebabFrom]
    split
    · rename_i hupper
      rw [isSmall_of_upper hupper] at hrest
      rw [hrest]
      split <;> rfl
    · split
      · rename_i hsign
        rw [hsign, hunderscore] at hrest
        rw [hrest, hsign]
        rfl
      · rw [← isSmall, hrest]
        rfl

/-- What stands in front only matters to a capital. -/
theorem kebabFrom_of_head {s : List Char} (h : s.head?.any isAsciiUpper = false) (afterSmall : Bool) :
    kebabFrom afterSmall s = kebabFrom false s := by
  cases s with
  | nil => rfl
  | cons c s =>
    have hc : ¬ isAsciiUpper c := Bool.eq_false_iff.mp h
    rw [kebabFrom, kebabFrom, if_neg hc, if_neg hc]

theorem asciiLower_asciiUpper (c : Char) : asciiLower (asciiUpper c) = asciiLower c := by
  have hall : ∀ n < 26, asciiLower (asciiUpper (Char.ofNat (n + 97))) = asciiLower (Char.ofNat (n + 97)) := by decide
  by_cases hlower : isAsciiLower c
  · have hcode : 97 ≤ c.toNat ∧ c.toNat ≤ 122 := by
      simpa [isAsciiLower, Char.le_def, UInt32.le_iff_toNat_le] using hlower
    have hback := hall (c.toNat - 97) (by omega)
    rwa [Nat.sub_add_cancel hcode.1, Char.ofNat_toNat] at hback
  · rw [asciiUpper, if_neg hlower]

/-! ## Names in words -/

/-- A word of a name: a letter, and what follows it up to the next sign. A small first letter is not followed by a
capital. -/
structure IsNameWord (c : Char) (w : List Char) : Prop where
  letter : isAsciiAlpha c
  plain : ∀ x ∈ w, isNameBreak x = false
  small : isAsciiLower c → w.head?.any isAsciiUpper = false

/-- A name in words with hyphens or underscores between them. A word in front of a sign ends with a small letter or
a digit behind its first letter. -/
inductive InWords : List Char → Prop where
  | last {c : Char} {w : List Char} : IsNameWord c w → InWords (c :: w)
  | next {c b : Char} {w t : List Char} :
      IsNameWord c w → w.getLast?.any isSmall → b = '-' ∨ b = '_' → InWords t →
      InWords (c :: (w ++ b :: t))

theorem pascalFrom_plain {w : List Char} (h : ∀ x ∈ w, isNameBreak x = false) (t : List Char) :
    pascalFrom false (w ++ t) = w ++ pascalFrom false t := by
  induction w with
  | nil => rfl
  | cons x w ih =>
    obtain ⟨hx, hw⟩ := List.forall_mem_cons.mp h
    rw [List.cons_append, pascalFrom, hx, ih hw]
    rfl

namespace IsNameWord

variable {c : Char} {w : List Char}

theorem pascalFrom_eq (h : IsNameWord c w) (t : List Char) :
    pascalFrom true (c :: (w ++ t)) = asciiUpper c :: (w ++ pascalFrom false t) := by
  have himage : charUpper c = [asciiUpper c] := if_pos (lt_of_alpha h.letter)
  have hbreak : isNameBreak c = false := by
    rw [Bool.eq_false_iff]
    intro hbreak
    simp only [isNameBreak, Bool.or_eq_true, decide_eq_true_eq] at hbreak
    have hletter := h.letter
    rcases hbreak with ((rfl | rfl) | rfl) | rfl <;> exact absurd hletter (by decide)
  rw [pascalFrom, hbreak, himage, pascalFrom_plain h.plain]
  rfl

/-- A word is hyphenated alike with a small first letter and with a capital. -/
theorem kebabFrom_eq (h : IsNameWord c w) {t : List Char} (ht : w = [] → t = []) :
    kebabFrom false (c :: (w ++ t)) = asciiLower c :: kebabFrom false (w ++ t) := by
  rw [kebabFrom]
  split
  · rfl
  · rename_i hupper
    have hlower : isAsciiLower c := by simpa [isAsciiAlpha, hupper] using h.letter
    have hunderscore : c ≠ '_' := by
      rintro rfl
      exact absurd hlower (by decide)
    have hhead : (w ++ t).head?.any isAsciiUpper = false := by
      cases w with
      | nil =>
        rw [ht rfl]
        rfl
      | cons x w => exact h.small hlower
    rw [if_neg hunderscore, kebabFrom_of_head hhead, asciiLower, if_neg hupper]

theorem kebabFrom_upper (h : IsNameWord c w) (t : List Char) :
    kebabFrom false (asciiUpper c :: t) = asciiLower c :: kebabFrom false t ∧
      kebabFrom true (asciiUpper c :: t) = '-' :: asciiLower c :: kebabFrom false t := by
  have hupper := isAsciiUpper_asciiUpper h.letter
  rw [kebabFrom, kebabFrom, if_pos hupper, if_pos hupper, asciiLower_asciiUpper]
  exact ⟨rfl, rfl⟩

end IsNameWord

/-- The name is hyphenated where the words are joined, and nowhere else. -/
theorem InWords.kebabFrom_pascalFrom {t : List Char} (h : InWords t) :
    kebabFrom false (pascalFrom true t) = kebabFrom false t ∧
      kebabFrom true (pascalFrom true t) = '-' :: kebabFrom false t := by
  induction h with
  | @last c w hword =>
    have hname := hword.pascalFrom_eq []
    have hkebab := hword.kebabFrom_eq (t := []) fun _ => rfl
    rw [pascalFrom] at hname
    rw [List.append_nil] at hname hkebab
    rw [hname, hkebab, (hword.kebabFrom_upper w).1, (hword.kebabFrom_upper w).2]
    exact ⟨rfl, rfl⟩
  | @next c b w t hword hends hsign _ ih =>
    have hsome : w ≠ [] := by
      rintro rfl
      cases hends
    have hbreak : isNameBreak b = true := by rcases hsign with rfl | rfl <;> decide
    have hhyphen : kebabFrom true (b :: t) = '-' :: kebabFrom false t := by
      rcases hsign with rfl | rfl <;> rfl
    have hname : pascalFrom true (c :: (w ++ b :: t)) = asciiUpper c :: (w ++ pascalFrom true t) := by
      rw [hword.pascalFrom_eq, pascalFrom, if_pos hbreak]
    have hkebab : kebabFrom false (c :: (w ++ b :: t)) =
        asciiLower c :: (kebabFrom false w ++ '-' :: kebabFrom false t) := by
      rw [hword.kebabFrom_eq fun hnone => absurd hnone hsome, kebabFrom_append hsome, hends, hhyphen]
    have hjoined : kebabFrom false (w ++ pascalFrom true t) = kebabFrom false w ++ '-' :: kebabFrom false t := by
      rw [kebabFrom_append hsome, hends, ih.2]
    rw [hname, hkebab, (hword.kebabFrom_upper _).1, (hword.kebabFrom_upper _).2, hjoined]
    exact ⟨rfl, rfl⟩

theorem kebabCase_pascalCase {tag : String} (h : InWords tag.toList) : kebabCase (pascalCase tag) = kebabCase tag := by
  unfold kebabCase pascalCase
  rw [String.toList_ofList, h.kebabFrom_pascalFrom.1]

/-! ## What the resolvers see of a tag -/

/-- The resolvers that every project has. -/
inductive BuiltIn : Resolver → Prop where
  | icons (o : IconOptions) : BuiltIn o.resolve?
  | elements : BuiltIn Element.resolve?

/-- The hyphenated spelling of a tag has a hyphen, and something stands behind it. -/
def Hyphenated (tag : String) : Prop := ∃ word rest, Fits (kebabCase tag).toList word rest

/-- The resolvers see no difference between two spellings. -/
def SpelledAlike (tag other : String) : Prop :=
  kebabCase tag = kebabCase other ∨ (¬ Hyphenated tag ∧ ¬ Hyphenated other)

theorem SpelledAlike.of_words {tag other : String} (hsame : pascalCase tag = pascalCase other)
    (h : InWords tag.toList) (h' : InWords other.toList) : SpelledAlike tag other := by
  refine .inl ?_
  rw [← kebabCase_pascalCase h, ← kebabCase_pascalCase h', hsame]

theorem icon?_eq_none {tag : String} (h : ¬ Hyphenated tag) (o : IconOptions) : o.icon? tag = none := by
  have hfront : o.afterPrefix? (kebabCase tag).toList = none := by
    rw [Option.eq_none_iff_forall_ne_some]
    exact fun rest hrest => h ⟨_, rest, (IconOptions.afterPrefix?_eq_some.mp hrest).2⟩
  have hcollection : o.splitCollection? (kebabCase tag).toList = none :=
    IconOptions.splitCollection?_eq_none.mpr fun c _ rest hfits => h ⟨_, rest, hfits⟩
  unfold IconOptions.icon?
  dsimp only
  rw [hfront, hcollection]

theorem ofTag?_eq_none {tag : String} (h : ¬ Hyphenated tag) : Element.ofTag? tag = none := by
  have hstart : Element.tagStart.toList = "vue".toList ++ ['-'] := by decide
  unfold Element.ofTag?
  rw [Option.bind_eq_none_iff]
  intro rest hrest
  have hwhole := eq_append_of_stripPrefix? hrest
  rw [hstart, List.append_assoc, List.singleton_append] at hwhole
  cases rest with
  | nil => decide
  | cons c rest => exact absurd ⟨_, _, hwhole, List.cons_ne_nil c rest⟩ h

/-- A resolver goes by the name and the hyphenated spelling. -/
theorem BuiltIn.resolve_eq {r : Resolver} (hr : BuiltIn r) {tag other : String}
    (hsame : pascalCase tag = pascalCase other) (h : SpelledAlike tag other) : r tag = r other := by
  cases hr with
  | icons o =>
    have hicon : o.icon? tag = o.icon? other := by
      rcases h with hkebab | ⟨htag, hother⟩
      · unfold IconOptions.icon?
        rw [hkebab]
      · rw [icon?_eq_none htag, icon?_eq_none hother]
    rw [IconOptions.resolve?, IconOptions.resolve?, hicon, hsame]
  | elements =>
    have helement : Element.ofTag? tag = Element.ofTag? other := by
      rcases h with hkebab | ⟨htag, hother⟩
      · unfold Element.ofTag?
        rw [hkebab]
      · rw [ofTag?_eq_none htag, ofTag?_eq_none hother]
    rw [Element.resolve?, Element.resolve?, helement, hsame]

namespace Importer

/-- An importer without other resolvers than those of every project. -/
def IsBuiltIn (i : Importer) : Prop := ∀ r ∈ i.resolvers, BuiltIn r

theorem found_eq_of_alike {i : Importer} (hbuilt : i.IsBuiltIn) {tag other : String}
    (hsame : pascalCase tag = pascalCase other) (h : SpelledAlike tag other) (d : Disk) (consumer : Option Path)
    (ls : Listings) : i.found d consumer ls tag = i.found d consumer ls other := by
  have hresolvers : i.resolvers.findSome? (· tag) = i.resolvers.findSome? (· other) :=
    findSome?_congr fun r hr => (hbuilt r hr).resolve_eq hsame h
  unfold found
  rw [resolve?_run, resolve?_run, hsame]
  dsimp only
  unfold resolutionOf
  rw [hsame, hresolvers]

/-- A project whose only components are the icons of one collection. -/
def collectionImporter (collection : String) : Importer where
  options := { extensions := [], dirs := [] }
  deckRoot := ⟨"/deck"⟩
  included := []
  resolvers := [({ tagPrefix := "", collections := [collection] } : IconOptions).resolve?]

theorem isBuiltIn_collectionImporter (collection : String) : (collectionImporter collection).IsBuiltIn := by
  intro r hr
  rw [List.mem_singleton.mp hr]
  exact .icons _

/-- A tag is the icon of a collection if it starts with the name of the collection. -/
theorem found_collection_eq (collection tag : String) :
    (collectionImporter collection).found {} none [] tag =
      (IconOptions.afterWord? collection (kebabCase tag).toList).map fun icon =>
        ⟨pascalCase tag, "~icons/" ++ collection ++ "/" ++ String.ofList icon⟩ := by
  have hone : ({ tagPrefix := "", collections := [collection] } : IconOptions).byLength = [collection] :=
    List.mergeSort_singleton _
  have hresolvers : (collectionImporter collection).resolvers =
      [({ tagPrefix := "", collections := [collection] } : IconOptions).resolve?] := rfl
  have hfront : ({ tagPrefix := "", collections := [collection] } : IconOptions).afterPrefix?
      (kebabCase tag).toList = none := rfl
  rw [found_of_no_dirs _ _ rfl, hresolvers, List.findSome?_singleton]
  unfold IconOptions.resolve? IconOptions.icon? IconOptions.splitCollection?
  dsimp only
  rw [hfront, hone, List.findSome?_singleton, Option.map_map]
  rfl

/-- Two spellings that differ with hyphens are told apart by the name of a collection. -/
theorem exists_found_ne {tag other : String} (h : Hyphenated tag) (hne : kebabCase tag ≠ kebabCase other) :
    ∃ i : Importer, i.IsBuiltIn ∧ i.found {} none [] tag ≠ i.found {} none [] other := by
  obtain ⟨word, rest, hfits⟩ := h
  refine ⟨collectionImporter (String.ofList word), isBuiltIn_collectionImporter _, fun hsame => hne ?_⟩
  have hfound : IconOptions.afterWord? (String.ofList word) (kebabCase tag).toList = some rest :=
    IconOptions.afterWord?_eq_some.mpr (by rwa [String.toList_ofList])
  rw [found_collection_eq, found_collection_eq, hfound] at hsame
  cases hother : IconOptions.afterWord? (String.ofList word) (kebabCase other).toList with
  | none =>
    rw [hother] at hsame
    cases hsame
  | some rest' =>
    have hfits' := IconOptions.afterWord?_eq_some.mp hother
    rw [String.toList_ofList] at hfits'
    rw [hother] at hsame
    have hpath := congrArg String.toList (Resolution.mk.inj (Option.some.inj hsame)).2
    simp only [String.toList_append, String.toList_ofList, List.append_cancel_left_eq] at hpath
    rw [← String.toList_inj, hfits.1, hfits'.1, hpath]

/-! ## Files that differ in the order of their tags -/

/-- All component tags of a file, in the order of their use. -/
def componentTags (code : String) : List String :=
  (openingTags (templateSection code.toList)).filter looksLikeComponent

/-- Two files of one directory that use the same tags in whatever order, and declare the same names. -/
structure SameTags (a b : Artifact) : Prop where
  directory : a.directory? = b.directory?
  declared : ∀ name, name ∈ declaredNames a.code ↔ name ∈ declaredNames b.code
  tags : ∀ tag, tag ∈ componentTags a.code ↔ tag ∈ componentTags b.code

theorem SameTags.symm {a b : Artifact} (h : SameTags a b) : SameTags b a :=
  ⟨h.directory.symm, fun name => (h.declared name).symm, fun tag => (h.tags tag).symm⟩

/-- The spellings of each component in a file are alike. -/
def SpellsAlike (code : String) : Prop :=
  ∀ tag ∈ componentTags code, ∀ other ∈ componentTags code,
    pascalCase tag = pascalCase other → SpelledAlike tag other

theorem SpellsAlike.of_sameTags {a b : Artifact} (h : SpellsAlike a.code) (hsame : SameTags a b) : SpellsAlike b.code :=
  fun tag htag other hother => h tag ((hsame.tags tag).mpr htag) other ((hsame.tags other).mpr hother)

variable {i : Importer} {d : Disk} {ls : Listings} {a b : Artifact}

/-- What the one file imports the other imports too, whichever spelling comes first. -/
theorem IsImports.mem_of_sameTags (hbuilt : i.IsBuiltIn) (hsame : SameTags a b) (halike : SpellsAlike a.code)
    {imports imports' : List (String × Resolution)} (h : i.IsImports d ls a imports)
    (h' : i.IsImports d ls b imports') {e : String × Resolution} (he : e ∈ imports) : e ∈ imports' := by
  obtain ⟨tag, hused, hnew, hname, hfound⟩ := (h.mem e.1 e.2).mp he
  have htag : tag ∈ componentTags a.code := mem_of_mem_firstSpellings hused
  obtain ⟨hcounts, -⟩ := exists_mem_firstSpellings.mp ⟨tag, hused, hname⟩
  obtain ⟨other, hused', hname'⟩ : ∃ other ∈ usedTags b.code, pascalCase other = e.1 :=
    exists_mem_firstSpellings.mpr ⟨hcounts, tag, (hsame.tags tag).mp htag, hname⟩
  have hother : other ∈ componentTags a.code := (hsame.tags other).mpr (mem_of_mem_firstSpellings hused')
  have hspelling : pascalCase tag = pascalCase other := hname.trans hname'.symm
  refine (h'.mem e.1 e.2).mpr ⟨other, hused', ?_, hname', ?_⟩
  · rwa [← hsame.declared, ← hspelling]
  · rw [← hsame.directory, ← hfound]
    exact (found_eq_of_alike hbuilt hspelling (halike tag htag other hother hspelling) d _ ls).symm

theorem gathered_eq_of_sameTags (hbuilt : i.IsBuiltIn) (hsame : SameTags a b) (halike : SpellsAlike a.code) :
    (i.gathered d ls a).1 = (i.gathered d ls b).1 := by
  have ha := i.isImports_gathered d ls a
  have hb := i.isImports_gathered d ls b
  refine ha.ascend.ext hb.ascend fun e => ⟨fun he => ?_, fun he => ?_⟩
  · exact ha.mem_of_sameTags hbuilt hsame halike hb he
  · exact hb.mem_of_sameTags hbuilt hsame.symm (halike.of_sameTags hsame) ha he

/--
**Spellings of one name stand for the same exactly if their hyphenated spellings are the same.**

Unless neither has a hyphen with something behind it: then no icon and no element has either. The spellings of a
name in words are the same with hyphens. Where the spellings of each component are alike, it does not matter to the
imports which of them comes first.
-/
theorem resolved_alike_iff_spelled_alike (tag other : String) (a b : Artifact) :
    (pascalCase tag = pascalCase other →
      ((∀ i : Importer, i.IsBuiltIn → ∀ d consumer ls,
          i.found d consumer ls tag = i.found d consumer ls other) ↔
        SpelledAlike tag other) ∧
      (InWords tag.toList → InWords other.toList → SpelledAlike tag other)) ∧
    (SameTags a b → SpellsAlike a.code →
      ∀ (i : Importer) (d : Disk) (ls : Listings), i.IsBuiltIn → i.appliesTo a → i.appliesTo b →
        ∃ imports, ((i.apply d a).run ls).1 = withImports a (imports, i.unresolvedTags d ls a) ∧
          ((i.apply d b).run ls).1 = withImports b (imports, i.unresolvedTags d ls b)) := by
  refine ⟨fun hsame => ⟨⟨fun hall => ?_, fun h i hbuilt d consumer ls => ?_⟩, ?_⟩, ?_⟩
  · by_contra hdiffer
    obtain ⟨hne, hhyphens⟩ := not_or.mp hdiffer
    by_cases htag : Hyphenated tag
    · obtain ⟨i, hbuilt, hfound⟩ := exists_found_ne htag hne
      exact hfound (hall i hbuilt {} none [])
    · have hother : Hyphenated other := by_contra fun hother => hhyphens ⟨htag, hother⟩
      obtain ⟨i, hbuilt, hfound⟩ := exists_found_ne hother (Ne.symm hne)
      exact hfound (hall i hbuilt {} none []).symm
  · exact found_eq_of_alike hbuilt hsame h d consumer ls
  · exact SpelledAlike.of_words hsame
  · intro hsame halike i d ls hbuilt ha hb
    refine ⟨(i.gathered d ls a).1, ?_, ?_⟩
    · rw [i.apply_eq_withImports d ha, ← i.gathered_left d ls a]
    · rw [i.apply_eq_withImports d hb, gathered_eq_of_sameTags hbuilt hsame halike, ← i.gathered_left d ls b]

theorem isBuiltIn_elementImporter : elementImporter.IsBuiltIn := by
  intro r hr
  rw [List.mem_singleton.mp hr]
  exact .elements

/-- A file with two tags. -/
def twoTags (first second : String) : String := "<template>\n<" ++ first ++ "/><" ++ second ++ "/>\n</template>\n"

/-- The spellings of the paragraph stand for the same, and either may come first. -/
theorem resolved_alike_paragraph :
    (∀ i : Importer, i.IsBuiltIn → ∀ d consumer ls,
      i.found d consumer ls "vue-p" = i.found d consumer ls "VueP") ∧
      ∃ imports,
        ((elementImporter.apply {} (compiledFile (twoTags "vue-p" "VueP"))).run []).1 =
          withImports (compiledFile (twoTags "vue-p" "VueP"))
            (imports, elementImporter.unresolvedTags {} [] (compiledFile (twoTags "vue-p" "VueP"))) ∧
        ((elementImporter.apply {} (compiledFile (twoTags "VueP" "vue-p"))).run []).1 =
          withImports (compiledFile (twoTags "VueP" "vue-p"))
            (imports, elementImporter.unresolvedTags {} [] (compiledFile (twoTags "VueP" "vue-p"))) := by
  have htags : componentTags (twoTags "vue-p" "VueP") = ["vue-p", "VueP"] ∧
      componentTags (twoTags "VueP" "vue-p") = ["VueP", "vue-p"] := by decide
  have hnames : declaredNames (twoTags "vue-p" "VueP") = [] ∧ declaredNames (twoTags "VueP" "vue-p") = [] := by
    decide
  have hkebab : kebabCase "vue-p" = kebabCase "VueP" := by decide
  obtain ⟨hresolved, himported⟩ := resolved_alike_iff_spelled_alike "vue-p" "VueP"
    (compiledFile (twoTags "vue-p" "VueP")) (compiledFile (twoTags "VueP" "vue-p"))
  refine ⟨(hresolved (by decide)).1.mpr (.inl hkebab),
    himported ⟨rfl, fun name => ?_, fun tag => ?_⟩ (fun tag htag other hother _ => .inl ?_) elementImporter {} []
      isBuiltIn_elementImporter (by decide) (by decide)⟩
  · rw [compiledFile, compiledFile, hnames.1, hnames.2]
  · rw [compiledFile, compiledFile, htags.1, htags.2, List.mem_pair, List.mem_pair]
    exact or_comm
  · rw [compiledFile, htags.1, List.mem_pair] at htag hother
    rcases htag with rfl | rfl <;> rcases hother with rfl | rfl
    · rfl
    · exact hkebab
    · exact hkebab.symm
    · rfl

/-- The wrapper of the heading element. -/
def headingWrapper : Resolution := ⟨"VueH1", "/@vue-factory/h1"⟩

/-- A file with a heading under both spellings, the one with hyphens first. -/
def hyphensFirst : String := twoTags "vue-h-1" "VueH1"

/-- The same file with the other spelling first. -/
def nameFirst : String := twoTags "VueH1" "vue-h-1"

theorem wantedTags_hyphensFirst : wantedTags (compiledFile hyphensFirst) = ["vue-h-1"] := by decide +kernel

theorem wantedTags_nameFirst : wantedTags (compiledFile nameFirst) = ["VueH1"] := by decide +kernel

/-- The hyphens of one spelling hide an element, and it is not imported where that spelling comes first. -/
theorem heading_hidden_by_spelling :
    pascalCase "vue-h-1" = pascalCase "VueH1" ∧ elementImporter.IsBuiltIn ∧
      (∀ consumer ls, elementImporter.found {} consumer ls "vue-h-1" = none ∧
        elementImporter.found {} consumer ls "VueH1" = some headingWrapper) ∧
      SameTags (compiledFile hyphensFirst) (compiledFile nameFirst) ∧
      ((elementImporter.apply {} (compiledFile hyphensFirst)).run []).1.code = hyphensFirst ∧
      ((elementImporter.apply {} (compiledFile nameFirst)).run []).1.code ≠ nameFirst := by
  have hnone : Element.resolve? "vue-h-1" = none := by decide
  have hsome : Element.resolve? "VueH1" = some headingWrapper := by decide
  have htags : componentTags hyphensFirst = ["vue-h-1", "VueH1"] ∧
      componentTags nameFirst = ["VueH1", "vue-h-1"] := by decide
  have hnames : declaredNames hyphensFirst = [] ∧ declaredNames nameFirst = [] := by decide
  refine ⟨by decide, isBuiltIn_elementImporter, fun consumer ls => ⟨?_, ?_⟩,
    ⟨rfl, fun name => ?_, fun tag => ?_⟩, ?_, ?_⟩
  · rw [found_element, hnone]
  · rw [found_element, hsome]
  · rw [compiledFile, compiledFile, hnames.1, hnames.2]
  · rw [compiledFile, compiledFile, htags.1, htags.2]
    simp only [List.mem_cons, List.not_mem_nil, or_false]
    exact or_comm
  · refine (apply_code_eq_iff elementImporter {} (by decide) []).mpr fun tag htag => ?_
    rw [wantedTags_hyphensFirst] at htag
    rw [List.mem_singleton.mp htag, found_element, hnone]
  · intro hcode
    have hall := (apply_code_eq_iff elementImporter {} (by decide) []).mp hcode "VueH1" (by
      rw [wantedTags_nameFirst]
      exact List.mem_singleton_self _)
    rw [found_element, hsome] at hall
    cases hall

end Importer

end DeckPress.Component
