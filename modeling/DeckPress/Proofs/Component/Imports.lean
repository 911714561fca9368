import DeckPress.Component.Element
import DeckPress.Proofs.Component.Declarations
import DeckPress.Proofs.Component.Resolving
import DeckPress.Proofs.Component.ScriptTags
import DeckPress.Proofs.Component.Tags

/-!
# What an import does, and what it does the second time

A file is given an import for each component that it uses and does not declare, in one block: behind the first
opening tag of a setup script, or in a script of its own. The second time nothing is left to import if what was
put in is seen as a declaration. The tag is looked for wherever it stands, but only what stands in a script is
read for declarations. So the block is seen exactly if one is in a script behind the tag.
-/

namespace DeckPress.Component

open Text

/-! ## Statements that are put in -/

/-- How a block is put into a file. -/
inductive Inserted (code block : List Char) : List Char → Prop where
  | behindTag {before tag after : List Char} : FirstSetupTag code before tag after →
      Inserted code block (before ++ (tag ++ ('\n' :: block ++ after)))
  | behindText : (∀ p t r, code = p ++ (t ++ r) → ¬ IsSetupTag t) →
      Inserted code block (trimEnd code ++ ("\n<script setup>\n".toList ++ (block ++ "\n</script>\n".toList)))

/-- The import statements, each on a line of its own. -/
def importBlock (imports : List (String × Resolution)) : List Char :=
  joinLines (imports.map fun e => e.2.statement.toList)

theorem importLines_eq {imports : List (String × Resolution)} (h : imports ≠ []) :
    importLines (imports.map (·.2)) = '\n' :: importBlock imports := by
  induction imports with
  | nil => exact absurd rfl h
  | cons e rest ih =>
    rw [List.map_cons, importLines, List.flatMap_cons, ← importLines, importBlock, List.map_cons]
    cases rest with
    | nil => simp [importLines, joinLines, joinWith]
    | cons other rest =>
      rw [ih (List.cons_ne_nil _ _)]
      simp [importBlock, joinLines, joinWith]

theorem inserted_insertImports (code : String) (imports : List (String × Resolution)) :
    Inserted code.toList (importBlock imports) (insertImports code (imports.map (·.2.statement))).toList := by
  have hblock : (String.intercalate "\n" (imports.map (·.2.statement))).toList = importBlock imports := by
    rw [String.toList_intercalate, importBlock, joinLines_eq_intercalate, List.map_map]
    rfl
  unfold insertImports
  dsimp only
  split
  · rename_i upTo after hsplit
    obtain ⟨before, tag, rfl, hfirst⟩ := splitAtSetup?_eq_some.mp hsplit
    have hcode : (String.ofList (before ++ tag) ++ "\n" ++ String.intercalate "\n" (imports.map (·.2.statement)) ++
        String.ofList after).toList = before ++ (tag ++ ('\n' :: importBlock imports ++ after)) := by
      simp [String.toList_append, hblock]
    rw [hcode]
    exact .behindTag hfirst
  · rename_i hsplit
    have hcode : (String.ofList (trimEnd code.toList) ++ "\n<script setup>\n" ++
        String.intercalate "\n" (imports.map (·.2.statement)) ++ "\n</script>\n").toList =
        trimEnd code.toList ++ ("\n<script setup>\n".toList ++ (importBlock imports ++ "\n</script>\n".toList)) := by
      simp only [String.toList_append, String.toList_ofList, hblock, List.append_assoc]
    rw [hcode]
    exact .behindText (splitAtSetup?_eq_none.mp hsplit)

theorem isSetupTag_script : IsSetupTag "<script setup>".toList :=
  ⟨" setup".toList, ⟨by decide, by decide, by decide⟩, by decide⟩

/-- There is one first tag, and the block is behind it. -/
theorem Inserted.eq_behind {code block code' before tag after : List Char} (h : Inserted code block code')
    (hfirst : FirstSetupTag code before tag after) : code' = (before ++ tag) ++ ('\n' :: block ++ after) := by
  cases h with
  | @behindTag before' tag' after' hfirst' =>
    have hsplit := splitAtSetup?_eq_some.mpr ⟨before, tag, rfl, hfirst⟩
    have hsplit' := splitAtSetup?_eq_some.mpr ⟨before', tag', rfl, hfirst'⟩
    rw [hsplit, Option.some.injEq, Prod.mk.injEq] at hsplit'
    rw [← List.append_assoc, ← hsplit'.1, ← hsplit'.2]
  | behindText hnone => exact absurd hfirst.setup (hnone before tag after hfirst.eq)

/-- Something is put in. -/
theorem Inserted.ne {code block code' : List Char} (h : Inserted code block code') : code' ≠ code := by
  cases h with
  | behindTag hfirst =>
    intro heq
    have hlength := congrArg List.length (heq.trans hfirst.eq)
    simp only [List.length_append, List.length_cons] at hlength
    omega
  | behindText hnone =>
    intro heq
    have hscript : "\n<script setup>\n".toList = ['\n'] ++ ("<script setup>".toList ++ ['\n']) := by decide
    rw [hscript] at heq
    refine hnone (trimEnd code ++ ['\n']) "<script setup>".toList ('\n' :: (block ++ "\n</script>\n".toList)) ?_
      isSetupTag_script
    exact heq.symm.trans (by simp only [List.append_assoc, List.cons_append, List.nil_append])

/-- Signs that are in no name and no path are in no statement, but for its own. -/
theorem not_mem_importLines {x : Char} {rs : List Resolution} (hx : x ∉ "\nimport from '".toList)
    (h : ∀ r ∈ rs, x ∉ r.specifier.toList ∧ x ∉ r.path.toList) : x ∉ importLines rs := by
  have hkeyword : "import".toList ⊆ "\nimport from '".toList := by decide
  have hfrom : " from '".toList ⊆ "\nimport from '".toList := by decide
  intro hmem
  obtain ⟨r, hr, hmem⟩ := List.mem_flatMap.mp hmem
  obtain ⟨hspecifier, hpath⟩ := h r hr
  rw [toList_statement] at hmem
  simp only [List.mem_cons, List.mem_append, List.not_mem_nil, or_false] at hmem
  rcases hmem with rfl | (hword | rfl | hname | hword | hname) | rfl
  · exact hx (by decide)
  · exact hx (hkeyword hword)
  · exact hx (by decide)
  · exact hspecifier hname
  · exact hx (hfrom hword)
  · exact hpath hname
  · exact hx (by decide)

/-! ## The scripts of a text with a block put in -/

theorem declaredNames_eq (code : String) :
    declaredNames code = ((scriptContents code.toList).flatMap namesInScript).map String.ofList := by
  rw [declaredNames, scriptContents, List.flatMap_map]

theorem mem_declaredNames {code name : String} :
    name ∈ declaredNames code ↔
      ∃ content ∈ scriptContents code.toList, name.toList ∈ namesInScript content := by
  rw [declaredNames_eq, List.mem_map]
  constructor
  · rintro ⟨n, hn, rfl⟩
    rw [String.toList_ofList]
    exact List.mem_flatMap.mp hn
  · intro h
    exact ⟨name.toList, List.mem_flatMap.mpr h, String.ofList_toList⟩

/-- What is put in outside of scripts, and opens none, declares nothing. -/
theorem declaredNames_outside {before after z : List Char} (hclosed : EndsClosed before) (houtside : ¬ InScript before)
    (hz : '<' ∉ z) :
    declaredNames (String.ofList (before ++ (z ++ after))) = declaredNames (String.ofList (before ++ after)) := by
  obtain ⟨contents, left, hscanned⟩ := exists_scanned before
  cases left with
  | some content => exact absurd ⟨contents, content, hscanned⟩ houtside
  | none =>
    rw [declaredNames_eq, declaredNames_eq, String.toList_ofList, String.toList_ofList,
      hscanned.contents_append hclosed, hscanned.contents_append hclosed, scriptContents_plain_append hz]

/-- Import statements that are put into a script declare their names, and take none away. -/
theorem declaredNames_inside {before after : List Char} {rs : List Resolution} (hclosed : EndsClosed before)
    (hinside : InScript before) (hends : scriptEnd <:+: after) (hopening : '\x7b' ∉ importLines rs)
    (hclosing : '\x7d' ∉ importLines rs) (hbracket : '<' ∉ importLines rs) :
    (∀ name ∈ declaredNames (String.ofList (before ++ after)), '>' ∉ name.toList →
      name ∈ declaredNames (String.ofList (before ++ (importLines rs ++ after)))) ∧
    ∀ r ∈ rs, IsIdentifier r.specifier.toList →
      r.specifier ∈ declaredNames (String.ofList (before ++ (importLines rs ++ after))) := by
  -- the block becomes a part of the script that is open there, and the other scripts stay
  obtain ⟨contents, x, hscanned⟩ := hinside
  obtain ⟨⟨y, w⟩, hsplit⟩ := Option.ne_none_iff_exists'.mp fun hnone => splitAt?_eq_none.mp hnone hends
  have hy : ¬ scriptEnd <:+: y := not_infix_of_splitAt? scriptEnd_ne_nil hsplit
  have hafter : after = y ++ (scriptEnd ++ w) := eq_append_of_splitAt? hsplit
  have hx : ∀ c ∈ x.getLast?, c = '>' := hscanned.endsClosed_left hclosed
  have hnone : ¬ scriptEnd <:+: importLines rs ++ y := by
    rw [scriptEnd, infix_append_of_not_mem hbracket]
    exact hy
  have hold : scriptContents (before ++ after) = contents ++ (x ++ y) :: scriptContents w := by
    rw [hafter]
    exact hscanned.contents_within hclosed hy w
  have hnew : scriptContents (before ++ (importLines rs ++ after)) =
      contents ++ (x ++ (importLines rs ++ y)) :: scriptContents w := by
    rw [hafter, ← List.append_assoc (importLines rs)]
    exact hscanned.contents_within hclosed hnone w
  simp only [mem_declaredNames, String.toList_ofList, hold, hnew, List.mem_append, List.mem_cons]
  constructor
  · rintro name ⟨content, hcontent, hname⟩ hplain
    rcases hcontent with hcontent | rfl | hcontent
    · exact ⟨content, .inl hcontent, hname⟩
    · exact ⟨_, .inr (.inl rfl), namesInScript_insert hx (importLines_ends rs) hopening hclosing hplain hname⟩
    · exact ⟨content, .inr (.inr hcontent), hname⟩
  · intro r hr hname
    exact ⟨_, .inr (.inl rfl), mem_namesInScript_importLines hx hr hname y⟩

/-! ## Compiled files -/

theorem isSetupTag_scriptTag (typescript : Bool) : IsSetupTag (scriptTag typescript) := by
  cases typescript with
  | false => exact isSetupTag_script
  | true => exact ⟨" setup lang=\"ts\"".toList, ⟨by decide, by decide, by decide⟩, by decide⟩

theorem templateText_parts (o : MarkdownOptions) (fields : Fields) (template : List Char) :
    "<template".toList <+: templateText o fields template ∧ templateEnd <:+: templateText o fields template := by
  have hclosing : "\n</div>\n</template>\n\n".toList = "\n</div>\n".toList ++ (templateEnd ++ "\n\n".toList) := by
    decide
  constructor
  · exact ⟨_, rfl⟩
  · unfold templateText
    rw [hclosing]
    exact ⟨frontText o fields ++ (classText o fields ++ (openText o fields ++ (template ++ "\n</div>\n".toList))),
      "\n\n".toList, by simp only [List.append_assoc]⟩

/-- A compiled file has a template first and a setup script behind it. Behind the first opening tag of a setup
script, wherever that is, a script is closed. -/
theorem exists_firstSetupTag {o : MarkdownOptions} {source code : String} (h : compile o source = .ok code) :
    ∃ before tag after, FirstSetupTag code.toList before tag after ∧ scriptEnd <:+: after ∧
      "<template".toList <+: code.toList ∧ templateEnd <:+: code.toList := by
  obtain ⟨fields, body, hsplit, -⟩ := compile_eq_ok.mp h
  have hcode := congrArg String.toList (eq_assemble_of_compile h hsplit)
  rw [toList_assemble_script] at hcode
  obtain ⟨hstart, hend⟩ := templateText_parts o fields (trim (hoist (renderBody o body)).1)
  have hclosed := scriptEnd_infix_script o fields (hoist (renderBody o body)).2
  have hsetup := isSetupTag_scriptTag (hoist (renderBody o body)).2.typescript
  generalize templateText o fields (trim (hoist (renderBody o body)).1) = front at hcode hstart hend
  generalize scriptTag (hoist (renderBody o body)).2.typescript = written at hcode hsetup
  generalize importText o ++ (frontMatterLines fields ++ behindText o (hoist (renderBody o body)).2) = behind
    at hcode hclosed
  rw [List.append_assoc] at hcode
  -- there is a first tag, since there is the one that the compiler writes
  obtain ⟨⟨upTo, after⟩, hfound⟩ := Option.ne_none_iff_exists'.mp fun hnone =>
    splitAtSetup?_eq_none.mp hnone front written behind hcode hsetup
  obtain ⟨before, tag, -, hfirst⟩ := splitAtSetup?_eq_some.mp hfound
  obtain ⟨attributes, htag, -⟩ := hfirst.setup
  obtain ⟨writtenAttributes, hwritten, -⟩ := id hsetup
  have hlength : before.length < (front ++ written).length := by
    have hle := hfirst.first front written behind hcode hsetup
    have hpos := List.length_pos_iff.mpr hwritten.ne_nil
    rw [List.length_append]
    omega
  -- it ends where the written one does, or before
  obtain ⟨rest, hrest⟩ := htag.within_of_append (hwritten.endsClosed_append front) hlength
    (by rw [← hfirst.eq, hcode, List.append_assoc])
  have hafter : after = rest ++ behind := by
    have hwhole := hfirst.eq.symm.trans hcode
    rw [← List.append_assoc front, hrest] at hwhole
    simpa only [List.append_assoc, List.append_cancel_left_eq] using hwhole
  refine ⟨before, tag, after, hfirst, ?_, ?_, ?_⟩
  · rw [hafter]
    exact hclosed.trans (List.suffix_append _ _).isInfix
  · rw [hcode]
    exact hstart.trans (List.prefix_append _ _)
  · rw [hcode]
    exact hend.trans (List.prefix_append _ _).isInfix

/-! ## The first time -/

namespace Importer

variable (i : Importer) (d : Disk)

/-- The imports of a file, with these listings on record: each component that it uses and does not declare, as
what was found for its tag. -/
structure IsImports (ls : Listings) (a : Artifact) (imports : List (String × Resolution)) : Prop where
  ascend : KeysAscend imports
  mem : ∀ name r, (name, r) ∈ imports ↔
    ∃ tag ∈ usedTags a.code, pascalCase tag ∉ declaredNames a.code ∧ pascalCase tag = name ∧
      i.found d a.directory? ls tag = some r

/-- The tags of a file that are not declared and for which nothing is found. -/
def unresolvedTags (ls : Listings) (a : Artifact) : List String :=
  (usedTags a.code).filter fun tag =>
    pascalCase tag ∉ declaredNames a.code ∧ i.found d a.directory? ls tag = none

/-- What comes of the tags that are looked for. -/
def gathered (ls : Listings) (a : Artifact) : List (String × Resolution) × List String :=
  gather (i.found d a.directory? ls) (wantedTags a)

theorem isImports_gathered (ls : Listings) (a : Artifact) : i.IsImports d ls a (i.gathered d ls a).1 := by
  have hascend := gather_keysAscend (i.found d a.directory? ls) (wantedTags a)
  refine ⟨hascend, fun name r => ?_⟩
  rw [gathered, hascend.mem_iff_lookup, lookup_gather (nodup_wantedTags a)]
  simp only [mem_wantedTags, and_assoc]

theorem gathered_left (ls : Listings) (a : Artifact) : (i.gathered d ls a).2 = i.unresolvedTags d ls a := by
  rw [gathered, gather_left, wantedTags, List.filter_filter, unresolvedTags]
  refine List.filter_congr fun tag _ => ?_
  cases i.found d a.directory? ls tag <;> simp

theorem apply_eq_withImports {a : Artifact} (happlies : i.appliesTo a) (ls : Listings) :
    ((i.apply d a).run ls).1 = withImports a (i.gathered d ls a) := by
  rw [apply_run, if_pos happlies]
  dsimp only
  rw [resolveAll_run]
  rfl

theorem apply_listings {a : Artifact} (happlies : i.appliesTo a) (ls : Listings) :
    ((i.apply d a).run ls).2 = ((i.resolveAll d a.directory? (wantedTags a)).run ls).2 := by
  rw [apply_run, if_pos happlies]

/-- A file is given a block if it has imports, and then it is changed. -/
theorem withImports_code (a : Artifact) (found : List (String × Resolution) × List String) :
    (found.1 = [] → (withImports a found).code = a.code) ∧
      (found.1 ≠ [] → Inserted a.code.toList (importBlock found.1) (withImports a found).code.toList) := by
  constructor
  · intro hnone
    simp [withImports, hnone]
  · intro hsome
    have hcode : (withImports a found).code = insertImports a.code (found.1.map (·.2.statement)) := by
      simp [withImports, hsome]
    rw [hcode]
    exact inserted_insertImports a.code found.1

/-- A file is left as it is if nothing is found for its tags. -/
theorem apply_code_eq_iff {a : Artifact} (happlies : i.appliesTo a) (ls : Listings) :
    ((i.apply d a).run ls).1.code = a.code ↔ ∀ tag ∈ wantedTags a, i.found d a.directory? ls tag = none := by
  have himports := i.isImports_gathered d ls a
  obtain ⟨hsame, hchanged⟩ := withImports_code a (i.gathered d ls a)
  rw [i.apply_eq_withImports d happlies]
  constructor
  · intro hcode tag htag
    have hnone : (i.gathered d ls a).1 = [] := by
      by_contra hsome
      exact (hchanged hsome).ne (congrArg String.toList hcode)
    obtain ⟨hused, hnew⟩ := mem_wantedTags.mp htag
    rw [Option.eq_none_iff_forall_ne_some]
    intro r hr
    have hmem := (himports.mem _ r).mpr ⟨tag, hused, hnew, rfl, hr⟩
    rw [hnone] at hmem
    cases hmem
  · intro hnone
    refine hsame (List.eq_nil_iff_forall_not_mem.mpr fun ⟨name, r⟩ hmem => ?_)
    obtain ⟨tag, hused, hnew, -, hr⟩ := (himports.mem name r).mp hmem
    rw [hnone tag (mem_wantedTags.mpr ⟨hused, hnew⟩)] at hr
    cases hr

/-! ## The second time -/

variable {i d}

/-- Signs that no name of a component has are not in imports that are named for their components. -/
theorem IsImports.not_mem_importLines {ls : Listings} {a : Artifact} {imports : List (String × Resolution)}
    (h : i.IsImports d ls a imports) (hnames : ∀ e ∈ imports, e.2.specifier = e.1) {x : Char}
    (hx : x ∉ "\nimport from '".toList) (hupper : isUpperImage x = false) (hname : isTagNameChar x = false)
    (hpaths : ∀ e ∈ imports, x ∉ e.2.path.toList) : x ∉ importLines (imports.map (·.2)) := by
  refine Component.not_mem_importLines hx fun r hr => ?_
  obtain ⟨e, he, rfl⟩ := List.mem_map.mp hr
  obtain ⟨tag, hused, -, htag, -⟩ := (h.mem e.1 e.2).mp he
  refine ⟨?_, hpaths e he⟩
  rw [hnames e he, ← htag]
  refine not_mem_pascalCase hupper fun hmem => ?_
  rw [(tagName_of_mem_usedTags hused).rest x hmem] at hname
  cases hname

/-- The name of an import is read as a whole if it is made of word characters. -/
theorem IsImports.isIdentifier {ls : Listings} {a : Artifact} {imports : List (String × Resolution)}
    (h : i.IsImports d ls a imports) {e : String × Resolution} (he : e ∈ imports)
    (hword : ∀ c ∈ e.1.toList, isWord c) : IsIdentifier e.1.toList := by
  obtain ⟨tag, hused, -, htag, -⟩ := (h.mem e.1 e.2).mp he
  have hhead := (tagName_of_mem_usedTags hused).head?_pascalCase
  rw [htag] at hhead
  refine ⟨?_, fun c hc => by simp [isIdentifierChar, hword c hc]⟩
  cases hname : e.1.toList with
  | nil =>
    rw [hname] at hhead
    cases hhead
  | cons c rest =>
    rw [hname] at hhead
    have hupper : isAsciiUpper c := hhead
    simp [startsIdentifier, isAsciiAlpha, hupper]

/-- A compiled file in which the importer has put its block behind the first opening tag of a setup script. -/
structure PutIn (code : String) (before tag after : List Char) (rs : List Resolution) (code' : String) : Prop where
  first : FirstSetupTag code.toList before tag after
  start : "<template".toList <+: code.toList
  closed : templateEnd <:+: code.toList
  script : scriptEnd <:+: after
  eq : code'.toList = (before ++ tag) ++ (importLines rs ++ after)

namespace PutIn

variable {code code' : String} {before tag after : List Char} {rs : List Resolution}

theorem code_eq (h : PutIn code before tag after rs code') :
    code = String.ofList ((before ++ tag) ++ after) ∧
      code' = String.ofList ((before ++ tag) ++ (importLines rs ++ after)) := by
  constructor
  · rw [← String.ofList_toList (s := code), h.first.eq, List.append_assoc]
  · rw [← h.eq, String.ofList_toList]

theorem endsClosed (h : PutIn code before tag after rs code') : EndsClosed (before ++ tag) := by
  obtain ⟨attributes, htag, -⟩ := h.first.setup
  exact htag.endsClosed_append before

/-- The tags of the template stay the same. -/
theorem usedTags (h : PutIn code before tag after rs code') (hrs : '<' ∉ importLines rs) :
    Component.usedTags code' = Component.usedTags code := by
  obtain ⟨hcode, hcode'⟩ := h.code_eq
  obtain ⟨front, hfront⟩ : ∃ front, before ++ tag = front ++ ['>'] := by
    obtain ⟨attributes, htag, -⟩ := h.first.setup
    exact ⟨before ++ (scriptStart ++ attributes), by rw [htag.eq]; simp only [List.append_assoc]⟩
  have hwhole : code.toList = front ++ '>' :: after := by
    rw [hcode, String.toList_ofList, hfront, List.append_assoc, List.singleton_append]
  rw [hcode', hcode, hfront, List.append_assoc, List.append_assoc, List.singleton_append, List.singleton_append]
  exact usedTags_insert hrs (hwhole ▸ h.start) (hwhole ▸ h.closed)

end PutIn

/-- An import is read back: its name is made of word characters, and its path has no braces. A character may become
one in upper case that is not known as a word character, and a brace may open or close the list of an import. -/
structure ReadBack (e : String × Resolution) : Prop where
  word : ∀ c ∈ e.1.toList, isWord c
  opening : '\x7b' ∉ e.2.path.toList
  closing : '\x7d' ∉ e.2.path.toList

section Again

variable {a : Artifact} {ls later : Listings}

/-- Whatever is declared of what is used is still declared after the first time: then nothing is put in the second
time exactly if each import is declared. -/
theorem again_iff (happlies : i.appliesTo a) (hlater : Listings.Extends ((i.apply d a).run ls).2 later)
    (hused : usedTags ((i.apply d a).run ls).1.code = usedTags a.code)
    (hkept : ∀ tag ∈ usedTags a.code, pascalCase tag ∈ declaredNames a.code →
      pascalCase tag ∈ declaredNames ((i.apply d a).run ls).1.code) :
    ((i.apply d ((i.apply d a).run ls).1).run later).1.code = ((i.apply d a).run ls).1.code ↔
      ∀ e ∈ (i.gathered d ls a).1, e.1 ∈ declaredNames ((i.apply d a).run ls).1.code := by
  have himports := i.isImports_gathered d ls a
  have hfound : ∀ tag ∈ wantedTags a, i.found d a.directory? later tag = i.found d a.directory? ls tag := by
    rw [i.apply_listings d happlies] at hlater
    exact i.found_later d hlater
  rw [i.apply_eq_withImports d happlies] at hused hkept ⊢
  have happlies' : i.appliesTo (withImports a (i.gathered d ls a)) := happlies
  have hdirectory : (withImports a (i.gathered d ls a)).directory? = a.directory? := rfl
  -- what is looked for the second time was looked for the first time, and stands for the same
  rw [i.apply_code_eq_iff d happlies', hdirectory]
  constructor
  · intro hnone e he
    obtain ⟨tag, htag, hnew, hname, hr⟩ := (himports.mem e.1 e.2).mp he
    by_contra hdeclared
    rw [← hname] at hdeclared
    rw [← hused] at htag
    have hagain := hnone tag (mem_wantedTags.mpr ⟨htag, hdeclared⟩)
    rw [hused] at htag
    rw [hfound tag (mem_wantedTags.mpr ⟨htag, hnew⟩), hr] at hagain
    cases hagain
  · intro hdeclared tag htag
    obtain ⟨hin, hnew'⟩ := mem_wantedTags.mp htag
    rw [hused] at hin
    have hnew : pascalCase tag ∉ declaredNames a.code := fun h => hnew' (hkept tag hin h)
    rw [hfound tag (mem_wantedTags.mpr ⟨hin, hnew⟩), Option.eq_none_iff_forall_ne_some]
    intro r hr
    exact hnew' (hdeclared _ ((himports.mem _ r).mpr ⟨tag, hin, hnew, rfl, hr⟩))

variable {before tag after : List Char}

/-- Outside of scripts the block is not seen. -/
theorem not_again_outside (happlies : i.appliesTo a) (hlater : Listings.Extends ((i.apply d a).run ls).2 later)
    (hput : PutIn a.code before tag after ((i.gathered d ls a).1.map (·.2)) ((i.apply d a).run ls).1.code)
    (hbracket : '<' ∉ importLines ((i.gathered d ls a).1.map (·.2))) (hsome : (i.gathered d ls a).1 ≠ [])
    (houtside : ¬ InScript (before ++ tag)) :
    ((i.apply d ((i.apply d a).run ls).1).run later).1.code ≠ ((i.apply d a).run ls).1.code := by
  have hsame : declaredNames ((i.apply d a).run ls).1.code = declaredNames a.code := by
    obtain ⟨hcode, hcode'⟩ := hput.code_eq
    rw [hcode', hcode]
    exact declaredNames_outside hput.endsClosed houtside hbracket
  rw [ne_eq, again_iff happlies hlater (hput.usedTags hbracket) fun tag _ h => hsame ▸ h, hsame]
  intro hdeclared
  obtain ⟨e, he⟩ := List.exists_mem_of_ne_nil _ hsome
  obtain ⟨tag, -, hnew, hname, -⟩ := ((i.isImports_gathered d ls a).mem e.1 e.2).mp he
  exact hnew (hname ▸ hdeclared e he)

/-- In a script it is seen. -/
theorem again_inside (happlies : i.appliesTo a) (hlater : Listings.Extends ((i.apply d a).run ls).2 later)
    (hput : PutIn a.code before tag after ((i.gathered d ls a).1.map (·.2)) ((i.apply d a).run ls).1.code)
    (hinside : InScript (before ++ tag)) (hnames : ∀ e ∈ (i.gathered d ls a).1, e.2.specifier = e.1)
    (hbracket : ∀ e ∈ (i.gathered d ls a).1, '<' ∉ e.2.path.toList)
    (hreads : ∀ e ∈ (i.gathered d ls a).1, ReadBack e) :
    ((i.apply d ((i.apply d a).run ls).1).run later).1.code = ((i.apply d a).run ls).1.code := by
  have himports := i.isImports_gathered d ls a
  have hplain : '<' ∉ importLines ((i.gathered d ls a).1.map (·.2)) :=
    himports.not_mem_importLines hnames (by decide) (by decide) (by decide) hbracket
  obtain ⟨hcode, hcode'⟩ := hput.code_eq
  obtain ⟨hkept, hnew⟩ := declaredNames_inside hput.endsClosed hinside hput.script
    (himports.not_mem_importLines hnames (by decide) (by decide) (by decide) fun e he => (hreads e he).opening)
    (himports.not_mem_importLines hnames (by decide) (by decide) (by decide) fun e he => (hreads e he).closing) hplain
  rw [← hcode'] at hnew hkept
  rw [← hcode] at hkept
  refine (again_iff happlies hlater (hput.usedTags hplain) fun tag htag hdeclared => ?_).mpr fun e he => ?_
  · refine hkept _ hdeclared (not_mem_pascalCase (by decide) fun hmem => ?_)
    exact absurd ((tagName_of_mem_usedTags htag).rest _ hmem) (by decide)
  · rw [← hnames e he]
    refine hnew e.2 (List.mem_map_of_mem he) ?_
    rw [hnames e he]
    exact himports.isIdentifier he (hreads e he).word

end Again

/-- A file is given an import for each component that it uses and does not declare, and nothing else is changed: the
statements stand in the order of the names, behind the first opening tag of a setup script or in a script behind
the text, and the tags for which nothing is found are noted in the order of their use.

If the file was compiled, each import has the name of its component and no path has an opening bracket, then the
second time nothing is put in only if there are no imports, or one is in a script behind the tag; and nothing is
put in then if the imports are read back. One is in a script behind a tag in which no other bracket opens. -/
theorem apply_and_again (i : Importer) (d : Disk) {a : Artifact} (happlies : i.appliesTo a) (ls : Listings) :
    ∃ imports code, i.IsImports d ls a imports ∧
      ((i.apply d a).run ls).1 =
        { a with
          code
          degradations := a.degradations ++ (i.unresolvedTags d ls a).map .unresolvedComponent } ∧
      (imports = [] → code = a.code) ∧
      (imports ≠ [] → Inserted a.code.toList (importBlock imports) code.toList) ∧
      ∀ o source, compile o source = .ok a.code →
        (∀ e ∈ imports, e.2.specifier = e.1 ∧ '<' ∉ e.2.path.toList) →
        ∃ before tag after, FirstSetupTag a.code.toList before tag after ∧
          ('<' ∉ tag.tail → InScript (before ++ tag)) ∧
          ∀ later, Listings.Extends ((i.apply d a).run ls).2 later →
            (((i.apply d ((i.apply d a).run ls).1).run later).1.code = code →
              imports = [] ∨ InScript (before ++ tag)) ∧
            (imports = [] ∨ (InScript (before ++ tag) ∧ ∀ e ∈ imports, ReadBack e) →
              ((i.apply d ((i.apply d a).run ls).1).run later).1.code = code) := by
  have himports := i.isImports_gathered d ls a
  have hrun := i.apply_eq_withImports d happlies ls
  obtain ⟨hsame, hinserted⟩ := withImports_code a (i.gathered d ls a)
  refine ⟨(i.gathered d ls a).1, ((i.apply d a).run ls).1.code, himports, ?_, ?_, ?_,
    fun o source hcompile hplain => ?_⟩
  · rw [hrun, ← i.gathered_left d ls a]
    rfl
  · rw [hrun]
    exact hsame
  · rw [hrun]
    exact hinserted
  · obtain ⟨before, tag, after, hfirst, hscript, hstart, hclosed⟩ := exists_firstSetupTag hcompile
    have hnames : ∀ e ∈ (i.gathered d ls a).1, e.2.specifier = e.1 := fun e he => (hplain e he).1
    have hbracket : ∀ e ∈ (i.gathered d ls a).1, '<' ∉ e.2.path.toList := fun e he => (hplain e he).2
    have hput (hsome : (i.gathered d ls a).1 ≠ []) :
        PutIn a.code before tag after ((i.gathered d ls a).1.map (·.2)) ((i.apply d a).run ls).1.code := by
      refine ⟨hfirst, hstart, hclosed, hscript, ?_⟩
      rw [hrun, (hinserted hsome).eq_behind hfirst, importLines_eq hsome]
    refine ⟨before, tag, after, hfirst, fun htag => inScript_of_tag hfirst.setup.isScriptTag htag,
      fun later hlater => ⟨fun hagain => ?_, ?_⟩⟩
    · by_cases hsome : (i.gathered d ls a).1 = []
      · exact .inl hsome
      · refine .inr (by_contra fun houtside => ?_)
        refine not_again_outside happlies hlater (hput hsome) ?_ hsome houtside hagain
        exact himports.not_mem_importLines hnames (by decide) (by decide) (by decide) hbracket
    · intro hcase
      by_cases hsome : (i.gathered d ls a).1 = []
      · have hcode : ((i.apply d a).run ls).1.code = a.code := by rw [hrun, hsame hsome]
        rw [again_iff happlies hlater (by rw [hcode]) (fun tag _ h => by rwa [hcode]), hsome]
        exact fun e he => nomatch he
      · obtain ⟨hinside, hreads⟩ := hcase.resolve_left hsome
        exact again_inside happlies hlater (hput hsome) hinside hnames hbracket hreads

/-! ## Elements -/

/-- Signs that are in no path to an element. -/
def isBracket (c : Char) : Bool := c = '<' || c = '\x7b' || c = '\x7d'

/-- Elements are imported under the names of their tags, from paths without brackets and braces. -/
theorem plain_of_element {tag : String} {r : Resolution} (h : Element.resolve? tag = some r) :
    r.specifier = pascalCase tag ∧ ∀ c ∈ r.path.toList, isBracket c = false := by
  have hall : (Element.names.all fun element => element.toList.all (!isBracket ·)) = true := by decide
  have hstart : (Element.idStart.toList.all (!isBracket ·)) = true := by decide
  obtain ⟨element, helement, rfl⟩ := Option.map_eq_some_iff.mp h
  obtain ⟨rest, -, hknown⟩ := Option.bind_eq_some_iff.mp helement
  refine ⟨rfl, fun c hc => ?_⟩
  have hplain := List.all_eq_true.mp hall element (List.mem_of_find?_eq_some hknown)
  rw [String.toList_append, List.mem_append] at hc
  rw [← Bool.not_eq_true']
  exact hc.elim (List.all_eq_true.mp hstart c) (List.all_eq_true.mp hplain c)

/-- A project whose only components are elements. -/
def elementImporter : Importer where
  options := { extensions := [], dirs := [] }
  deckRoot := ⟨"/deck"⟩
  included := ["md", "vue"]
  resolvers := [Element.resolve?]

theorem found_element (consumer : Option Path) (ls : Listings) (tag : String) :
    elementImporter.found {} consumer ls tag = Element.resolve? tag := by
  have hresolvers : elementImporter.resolvers = [Element.resolve?] := rfl
  rw [found_of_no_dirs elementImporter {} rfl, hresolvers, List.findSome?_cons]
  cases Element.resolve? tag <;> rfl

/-- Pages that set no title. -/
def plainOptions : MarkdownOptions := { headEnabled := false }

/-- A file as it is given to the importer. -/
def compiledFile (code : String) : Artifact := { fileId := "/deck/a.md", kind := .script, code }

theorem ok_of_toOption {ε α : Type} {result : Except ε α} {value : α} (h : result.toOption = some value) :
    result = .ok value := by
  cases result with
  | error e => cases h
  | ok v => exact congrArg Except.ok (Option.some.inj h)

/-- The import of the paragraph element. -/
def paragraph : Resolution := ⟨"VueP", "/@vue-factory/p"⟩

theorem resolve?_paragraph : Element.resolve? "VueP" = some paragraph := by decide

theorem pascalCase_paragraph : pascalCase "VueP" = "VueP" := by decide

/-- A slide with a paragraph element. -/
def elementSlide : String := "<VueP/>\n"

/-- The text of the component it becomes. -/
def elementText : List Char :=
  "<template>\n<div>\n<VueP/>\n</div>\n</template>\n\n".toList ++
    ("<script setup>\nconst frontmatter = \x7b\x7d\n".toList ++
      "defineExpose(\x7b frontmatter \x7d)\n</script>\n".toList)

def elementCode : String := String.ofList elementText

theorem toList_elementCode : elementCode.toList = elementText := String.toList_ofList

theorem apply_and_again_element :
    compile plainOptions elementSlide = .ok elementCode ∧ elementImporter.appliesTo (compiledFile elementCode) ∧
      ((elementImporter.apply {} (compiledFile elementCode)).run []).1.code ≠ elementCode ∧
      ∀ later, Listings.Extends ((elementImporter.apply {} (compiledFile elementCode)).run []).2 later →
        ((elementImporter.apply {} ((elementImporter.apply {} (compiledFile elementCode)).run []).1).run later).1.code =
          ((elementImporter.apply {} (compiledFile elementCode)).run []).1.code := by
  have hcompile : compile plainOptions elementSlide = .ok elementCode := ok_of_toOption (by decide +kernel)
  have happlies : elementImporter.appliesTo (compiledFile elementCode) := by decide +kernel
  have htags : usedTags elementCode = ["VueP"] := by
    rw [usedTags, toList_elementCode]
    decide +kernel
  have hnew : "VueP" ∉ declaredNames elementCode := by
    rw [declaredNames, toList_elementCode]
    decide +kernel
  have htag : ∀ split ∈ splitAtSetup? elementCode.toList, ∀ t ∈ split.1.tails,
      t.head? = some '<' → '>' ∉ t.dropLast → '<' ∉ t.tail := by
    rw [toList_elementCode]
    decide +kernel
  have hword : ∀ c ∈ "VueP".toList, isWord c := List.all_eq_true.mp (by decide +kernel)
  obtain ⟨imports, code, himports, hrun, -, hinserted, hagain⟩ := apply_and_again elementImporter {} happlies []
  have hcode : ((elementImporter.apply {} (compiledFile elementCode)).run []).1.code = code := by rw [hrun]
  have hmem : ("VueP", paragraph) ∈ imports := by
    refine (himports.mem _ _).mpr ⟨"VueP", ?_, ?_, pascalCase_paragraph, ?_⟩
    · exact htags ▸ List.mem_singleton_self _
    · rw [pascalCase_paragraph]
      exact hnew
    · rw [found_element, resolve?_paragraph]
  have hall : ∀ e ∈ imports, e.1 = "VueP" ∧ Element.resolve? "VueP" = some e.2 := by
    intro e he
    obtain ⟨tag, hused, -, hsame, hr⟩ := (himports.mem e.1 e.2).mp he
    have hone : tag = "VueP" := List.mem_singleton.mp (htags ▸ hused)
    rw [hone, found_element] at hr
    exact ⟨by rw [← hsame, hone, pascalCase_paragraph], hr⟩
  have hplain : ∀ e ∈ imports, e.2.specifier = e.1 ∧ '<' ∉ e.2.path.toList := by
    intro e he
    obtain ⟨hsame, hr⟩ := hall e he
    obtain ⟨hspecifier, hpath⟩ := plain_of_element hr
    exact ⟨by rw [hspecifier, pascalCase_paragraph, hsame], fun hmem => absurd (hpath _ hmem) (by decide)⟩
  obtain ⟨before, tag, after, hfirst, hinside, hlater⟩ := hagain plainOptions elementSlide hcompile hplain
  have hopen : '<' ∉ tag.tail := by
    obtain ⟨attributes, hattributes, -⟩ := hfirst.setup
    refine htag _ (splitAtSetup?_eq_some.mpr ⟨before, tag, rfl, hfirst⟩) tag
      ((List.mem_tails _ _).mpr (List.suffix_append before tag)) ?_ ?_
    · rw [hattributes.eq]
      rfl
    · rw [hattributes.eq, ← List.append_assoc, List.dropLast_concat, List.mem_append, not_or]
      exact ⟨bracket_not_mem_scriptStart, hattributes.unclosed⟩
  have hreads : ∀ e ∈ imports, ReadBack e := by
    intro e he
    obtain ⟨hsame, hr⟩ := hall e he
    obtain ⟨-, hpath⟩ := plain_of_element hr
    exact ⟨hsame ▸ hword, fun hmem => absurd (hpath _ hmem) (by decide),
      fun hmem => absurd (hpath _ hmem) (by decide)⟩
  refine ⟨hcompile, happlies, ?_, fun later hextends => ?_⟩
  · rw [hcode]
    exact fun h => (hinserted (List.ne_nil_of_mem hmem)).ne (congrArg String.toList h)
  · rw [hcode]
    exact (hlater later hextends).2 (.inr ⟨hinside hopen, hreads⟩)

/-- A slide whose class opens a script, and closes it with what ends as an opening tag of a setup script. -/
def scriptClassSlide : String := "---\nclass: <script><script setup</script>\n---\n\n<VueP/>\n"

/-- The text of the component it becomes, up to the end of that tag. -/
def classFront : List Char := "<template>\n<div class=\"".toList ++ "<script><script setup</script>".toList

def classBehind : List Char :=
  "\">\n<VueP/>\n</div>\n</template>\n\n<script setup>\n".toList ++
    ("const frontmatter = \x7b\"class\":\"<script><script setup</script>\"\x7d\n".toList ++
      "defineExpose(\x7b frontmatter \x7d)\n</script>\n".toList)

/-- The component, with something put in behind the tag. -/
def classCode (block : List Char) : String := String.ofList (classFront ++ (block ++ classBehind))

theorem toList_classCode (block : List Char) : (classCode block).toList = classFront ++ (block ++ classBehind) :=
  String.toList_ofList

/-- The import is put into the class, where it is not seen, and put in once more the second time. -/
theorem import_put_into_class :
    compile plainOptions scriptClassSlide = .ok (classCode []) ∧
      elementImporter.appliesTo (compiledFile (classCode [])) ∧
      (∀ consumer ls tag r, elementImporter.found {} consumer ls tag = some r →
        r.specifier = pascalCase tag ∧ '<' ∉ r.path.toList) ∧
      ((elementImporter.apply {} ((elementImporter.apply {} (compiledFile (classCode []))).run []).1).run
          ((elementImporter.apply {} (compiledFile (classCode []))).run []).2).1.code ≠
        ((elementImporter.apply {} (compiledFile (classCode []))).run []).1.code := by
  have hcompile : compile plainOptions scriptClassSlide = .ok (classCode []) := ok_of_toOption (by decide +kernel)
  have happlies : elementImporter.appliesTo (compiledFile (classCode [])) := by decide +kernel
  have htags (block : List Char) (hblock : block = [] ∨ block = '\n' :: paragraph.statement.toList) :
      usedTags (classCode block) = ["VueP"] := by
    rw [usedTags, toList_classCode]
    rcases hblock with rfl | rfl <;> decide +kernel
  have hnew (block : List Char) (hblock : block = [] ∨ block = '\n' :: paragraph.statement.toList) :
      "VueP" ∉ declaredNames (classCode block) := by
    rw [declaredNames, toList_classCode]
    rcases hblock with rfl | rfl <;> decide +kernel
  have hsplit : splitAtSetup? (classFront ++ ([] ++ classBehind)) = some (classFront, classBehind) := by decide +kernel
  have hread : (compiledFile (classCode [])).code = classCode [] := rfl
  have hgathered : elementImporter.gathered {} [] (compiledFile (classCode [])) = ([("VueP", paragraph)], []) := by
    have hwanted : wantedTags (compiledFile (classCode [])) = ["VueP"] := by
      rw [wantedTags, hread, htags [] (.inl rfl), List.filter_cons_of_pos, List.filter_nil]
      simpa [pascalCase_paragraph] using hnew [] (.inl rfl)
    rw [gathered, hwanted, gather_cons, found_element, resolve?_paragraph, addResolution, pascalCase_paragraph]
    rfl
  have hcode : ((elementImporter.apply {} (compiledFile (classCode []))).run []).1.code =
      classCode ('\n' :: paragraph.statement.toList) := by
    obtain ⟨before, tag, hfront, hfirst⟩ := splitAtSetup?_eq_some.mp hsplit
    rw [← toList_classCode, ← hread] at hfirst
    have hinserted := (withImports_code (compiledFile (classCode [])) ([("VueP", paragraph)], [])).2
      (List.cons_ne_nil _ _)
    rw [apply_eq_withImports _ _ happlies, hgathered, ← String.toList_inj, hinserted.eq_behind hfirst, ← hfront,
      toList_classCode]
    rfl
  refine ⟨hcompile, happlies, fun consumer ls tag r h => ?_, ?_⟩
  · rw [found_element] at h
    obtain ⟨hspecifier, hpath⟩ := plain_of_element h
    exact ⟨hspecifier, fun hmem => absurd (hpath _ hmem) (by decide)⟩
  · have hused : usedTags ((elementImporter.apply {} (compiledFile (classCode []))).run []).1.code =
        usedTags (compiledFile (classCode [])).code := by
      rw [hcode, htags _ (.inr rfl)]
      exact (htags [] (.inl rfl)).symm
    rw [ne_eq, again_iff happlies (Listings.Extends.refl _) hused ?_, hgathered, hcode]
    · exact fun hall => hnew _ (.inr rfl) (hall _ (List.mem_singleton_self _))
    · intro tag htag hdeclared
      have hone : tag = "VueP" := List.mem_singleton.mp (htags [] (.inl rfl) ▸ htag)
      rw [hone, pascalCase_paragraph] at hdeclared
      exact absurd hdeclared (hnew [] (.inl rfl))

end Importer

end DeckPress.Component
