import Mathlib.Data.List.TakeWhile
import DeckPress.Component.Element
import DeckPress.Component.Icon
import DeckPress.Proofs.Component.Brace
import DeckPress.Proofs.Component.Lookups
import DeckPress.Proofs.Component.ScriptTags
import DeckPress.Proofs.Component.Tags
import DeckPress.Proofs.Disk.Path
import DeckPress.Proofs.Sorted

/-!
# Import statements and marks

An import statement is made of a tag, in another spelling, and of a path. Tags are made of word characters
and hyphens, paths of files are written with slashes, and the paths of icons and elements are made of tags
and options. So no backslash gets into a component with its imports, and none that was there comes to stand
in front of a brace.
-/

namespace DeckPress.Component

open Text

/-! ## Spellings -/

theorem backslash_not_mem_pascalCase {name : String} (h : '\\' ∉ name.toList) :
    '\\' ∉ (pascalCase name).toList := not_mem_pascalCase (by decide) h

theorem asciiLower_ne_backslash {c : Char} (h : isAsciiUpper c) : '\\' ≠ asciiLower c := by
  -- the 26 letters are tried one by one
  have hall : ∀ n < 26, '\\' ≠ Char.ofNat (n + 65 + 32) := by decide
  have hupper : 65 ≤ c.toNat ∧ c.toNat ≤ 90 := by
    simpa [isAsciiUpper, Char.le_def, UInt32.le_iff_toNat_le] using h
  obtain ⟨n, hn⟩ : ∃ n, c.toNat = n + 65 := ⟨c.toNat - 65, by omega⟩
  rw [asciiLower, if_pos h, hn]
  exact hall n (by omega)

theorem backslash_not_mem_kebabFrom {s : List Char} (h : '\\' ∉ s) (afterSmall : Bool) :
    '\\' ∉ kebabFrom afterSmall s := by
  induction s generalizing afterSmall with
  | nil => exact h
  | cons c cs ih =>
    obtain ⟨hc, hcs⟩ := List.ne_and_not_mem_of_not_mem_cons h
    rw [kebabFrom]
    split
    · rename_i hupper
      have hlower := asciiLower_ne_backslash hupper
      split
      · simp [hlower, ih hcs]
      · simp [hlower, ih hcs]
    · split
      · simp [ih hcs]
      · simp [hc, ih hcs]

theorem backslash_not_mem_kebabCase {name : String} (h : '\\' ∉ name.toList) :
    '\\' ∉ (kebabCase name).toList := by
  rw [kebabCase, String.toList_ofList]
  exact backslash_not_mem_kebabFrom h false

/-! ## Tags -/

/-- A tag that is looked for is made of word characters and hyphens. -/
theorem backslash_not_mem_wantedTags {a : Artifact} {tag : String}
    (h : tag ∈ Importer.wantedTags a) : '\\' ∉ tag.toList := by
  have hused : tag ∈ usedTags a.code := List.mem_of_mem_filter h
  intro hmem
  exact absurd ((tagName_of_mem_usedTags hused).rest _ hmem) (by decide)

/-! ## What tags stand for -/

/-- Neither the name nor the path of an import has a backslash. -/
structure Resolution.Plain (r : Resolution) : Prop where
  specifier : '\\' ∉ r.specifier.toList
  path : '\\' ∉ r.path.toList

theorem Resolution.Plain.statement {r : Resolution} (h : r.Plain) : '\\' ∉ r.statement.toList := by
  simp only [Resolution.statement, String.toList_append, List.mem_append, not_or]
  exact ⟨⟨⟨⟨by decide, h.specifier⟩, by decide⟩, h.path⟩, by decide⟩

/-- Tags without backslashes stand for imports without backslashes. -/
def KeepsPlain (resolver : Resolver) : Prop :=
  ∀ tag r, '\\' ∉ tag.toList → resolver tag = some r → r.Plain

theorem eq_of_afterWord? {word : String} {name rest : List Char}
    (h : IconOptions.afterWord? word name = some rest) : word.toList ++ '-' :: rest = name := by
  obtain ⟨hstrip, -⟩ := Option.filter_eq_some_iff.mp h
  rw [eq_append_of_stripPrefix? hstrip, List.append_assoc]
  rfl

theorem IconOptions.subset_of_afterPrefix? {o : IconOptions} {kebab name : List Char}
    (h : o.afterPrefix? kebab = some name) : name ⊆ kebab := by
  unfold afterPrefix? at h
  dsimp only at h
  split at h
  · cases h
  · rw [← eq_of_afterWord? h]
    exact fun c hc => List.mem_append_right _ (List.mem_cons_of_mem _ hc)

theorem IconOptions.eq_of_splitCollection? {o : IconOptions} {name : List Char} {icon : Icon}
    (h : o.splitCollection? name = some icon) :
    icon.collection.toList ++ '-' :: icon.name.toList = name := by
  obtain ⟨collection, -, hfound⟩ := List.exists_of_findSome?_eq_some h
  obtain ⟨rest, hrest, hicon⟩ := Option.map_eq_some_iff.mp hfound
  rw [← hicon, String.toList_ofList]
  exact eq_of_afterWord? hrest

/-- The path of an icon is made of the tag and the name of the default collection. -/
theorem IconOptions.keepsPlain {o : IconOptions} (hdefault : '\\' ∉ o.defaultCollection.toList) :
    KeepsPlain o.resolve? := by
  intro tag r htag hr
  obtain ⟨icon, hicon, rfl⟩ := Option.map_eq_some_iff.mp hr
  have hkebab := backslash_not_mem_kebabCase htag
  have hsplit {name : List Char} (hname : '\\' ∉ name) {icon : Icon}
      (h : o.splitCollection? name = some icon) :
      '\\' ∉ icon.collection.toList ∧ '\\' ∉ icon.name.toList := by
    rw [← eq_of_splitCollection? h] at hname
    simp only [List.mem_append, List.mem_cons, not_or] at hname
    exact ⟨hname.1, hname.2.2⟩
  have hparts : '\\' ∉ icon.collection.toList ∧ '\\' ∉ icon.name.toList := by
    unfold icon? at hicon
    dsimp only at hicon
    split at hicon
    · rename_i name hname
      have hrest : '\\' ∉ name := fun hmem => hkebab (subset_of_afterPrefix? hname hmem)
      split at hicon
      · rename_i found hfound
        cases hicon
        exact hsplit hrest hfound
      · cases hicon
        rw [String.toList_ofList]
        exact ⟨hdefault, hrest⟩
    · exact hsplit hkebab hicon
  refine ⟨backslash_not_mem_pascalCase htag, ?_⟩
  simp only [String.toList_append, List.mem_append, not_or]
  exact ⟨⟨⟨by decide, hparts.1⟩, by decide⟩, hparts.2⟩

theorem Element.keepsPlain : KeepsPlain Element.resolve? := by
  intro tag r htag hr
  obtain ⟨element, helement, rfl⟩ := Option.map_eq_some_iff.mp hr
  have hall : ∀ e ∈ Element.names, '\\' ∉ e.toList := by decide
  obtain ⟨rest, -, hknown⟩ := Option.bind_eq_some_iff.mp helement
  have hname := hall element (List.mem_of_find?_eq_some hknown)
  refine ⟨backslash_not_mem_pascalCase htag, ?_⟩
  rw [String.toList_append, List.mem_append, not_or]
  exact ⟨by decide, hname⟩

namespace Importer

variable {i : Importer} {d : Disk}

theorem plain_resolutionOf (hresolvers : ∀ resolver ∈ i.resolvers, KeepsPlain resolver) {tag : String}
    (htag : '\\' ∉ tag.toList) {file : Option Path} {r : Resolution}
    (h : i.resolutionOf tag file = some r) : r.Plain := by
  cases file with
  | some file =>
    cases h
    exact ⟨backslash_not_mem_pascalCase htag, Path.backslash_not_mem_slashed file⟩
  | none =>
    obtain ⟨resolver, hresolver, hfound⟩ := List.exists_of_findSome?_eq_some h
    exact hresolvers resolver hresolver tag r htag hfound

/-- Whatever listings there are, all imports of a file are free of backslashes. -/
theorem plain_resolveAll (hresolvers : ∀ resolver ∈ i.resolvers, KeepsPlain resolver)
    {tags : List String} (htags : ∀ tag ∈ tags, '\\' ∉ tag.toList) (consumer : Option Path) (ls : Listings) :
    ∀ entry ∈ ((i.resolveAll d consumer tags).run ls).1.1, entry.2.Plain := by
  induction tags generalizing ls with
  | nil => exact fun _ h => nomatch h
  | cons tag tags ih =>
    obtain ⟨htag, htags⟩ := List.forall_mem_cons.mp htags
    rw [← resolveSteps_run, resolveSteps, Steps.run_bind, Steps.run_bind, resolveSteps_run]
    -- which file is found does not matter, nor which listings the lookup leaves behind
    have hothers := ih htags ((i.findSteps d (pascalCase tag) (i.searchDirs consumer)).run ls).2
    generalize ((i.findSteps d (pascalCase tag) (i.searchDirs consumer)).run ls).1 = file
    generalize ((i.resolveAll d consumer tags).run _) = others at hothers
    intro entry hentry
    change entry ∈ (addResolution tag (i.resolutionOf tag file) others.1).1 at hentry
    cases hfound : i.resolutionOf tag file with
    | none =>
      rw [hfound] at hentry
      exact hothers entry hentry
    | some r =>
      rw [hfound] at hentry
      rcases eq_or_mem_of_mem_insertSorted hentry with rfl | hentry
      · exact plain_resolutionOf hresolvers htag hfound
      · exact hothers entry hentry

end Importer

/-! ## The component with its imports -/

theorem backslash_not_mem_block {statements : List String}
    (h : ∀ statement ∈ statements, '\\' ∉ statement.toList) :
    '\\' ∉ (String.intercalate "\n" statements).toList := by
  rw [String.toList_intercalate]
  show '\\' ∉ List.intercalate ['\n'] _
  rw [← joinLines_eq_intercalate]
  intro hmem
  rcases exists_of_mem_joinLines hmem with heq | ⟨line, hline, hmem⟩
  · exact absurd heq (by decide)
  · obtain ⟨statement, hstatement, rfl⟩ := List.mem_map.mp hline
    exact h statement hstatement hmem

theorem clear_insertImports {code : String} {statements : List String} (hcode : Brace.Clear code.toList)
    (hstatements : ∀ statement ∈ statements, '\\' ∉ statement.toList) :
    Brace.Clear (insertImports code statements).toList := by
  have hblock := backslash_not_mem_block hstatements
  unfold insertImports
  dsimp only
  split
  · rename_i before after hsplit
    obtain ⟨front, tag, hbehind, hfirst⟩ := splitAtSetup?_eq_some.mp hsplit
    rw [hfirst.eq, ← List.append_assoc, ← hbehind] at hcode
    have hbefore : Brace.Clear before := hcode.of_infix (List.prefix_append _ _).isInfix
    have hafter : Brace.Clear after := hcode.of_infix (List.suffix_append _ _).isInfix
    -- the line end in front of the statements keeps them apart from the tag
    have hend : Brace.Divides "\n".toList := by decide
    have hwhole := (Brace.clear_between (hend.append hblock) before after).mpr ⟨hbefore, hafter⟩
    simpa only [String.toList_append, String.toList_ofList, List.append_assoc] using hwhole
  · have hbefore : Brace.Clear (trimEnd code.toList) := hcode.of_infix (prefix_trimEnd _).isInfix
    have hopening : Brace.Divides "\n<script setup>\n".toList := by decide
    have hclosing : '\\' ∉ "\n</script>\n".toList := by decide
    have hscript := (hopening.append hblock).append hclosing
    have hwhole := (Brace.clear_between hscript (trimEnd code.toList) []).mpr ⟨hbefore, by decide⟩
    simpa only [String.toList_append, String.toList_ofList, List.append_assoc, List.append_nil] using hwhole

/-- Imports bring no backslash in front of a brace. -/
theorem Importer.clear_apply {i : Importer} (hresolvers : ∀ resolver ∈ i.resolvers, KeepsPlain resolver)
    (d : Disk) {a : Artifact} (ha : Brace.Clear a.code.toList) (ls : Listings) :
    Brace.Clear ((i.apply d a).run ls).1.code.toList := by
  rw [apply_run]
  split
  · unfold withImports
    dsimp only
    split
    · exact ha
    · refine clear_insertImports ha fun statement hstatement => ?_
      obtain ⟨entry, hentry, rfl⟩ := List.mem_map.mp hstatement
      have htags : ∀ tag ∈ wantedTags a, '\\' ∉ tag.toList := fun tag => backslash_not_mem_wantedTags
      exact (plain_resolveAll hresolvers htags _ ls entry hentry).statement
  · exact ha

end DeckPress.Component
