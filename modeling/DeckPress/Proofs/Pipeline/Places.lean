import DeckPress.Pipeline.Output
import DeckPress.Proofs.Disk.Extension
import DeckPress.Proofs.Disk.Writing
import DeckPress.Proofs.Module.Id
import DeckPress.Proofs.Pipeline.Accounts

/-!
# Where the files of a build go

Slides, other files and modules go to directories of their own, and the stylesheet beside them, so files can
only get in each other's way within one of these. Slides are told apart by their numbers and modules by their
names. The other files are told apart by their paths below the root of the deck, or from the top for those that
stand elsewhere, and an extension is put behind the names of those that were compiled or have failed. This is
where two of them may meet.
-/

namespace DeckPress

open Text DeckPress.Path

namespace Build

/-! ## Places -/

/-- The place of a file in the output directory: slides by their numbers, other files by their paths below the
root of the deck, or from the top. -/
def placeOf (root : Path) (fileId : String) : List PathComponent :=
  match ModuleId.parse? fileId with
  | some (.slide number) => [.name "slides", .name (toString number ++ ".md")]
  | _ => .name "files" ::
      (stripComponents? root.components (Path.mk fileId).components).getD (names fileId.toList)

/-- The files that something is written for, each with the extension that it gets. -/
def marked (b : Build) : List (String × Option String) :=
  b.artifacts.map (fun a => (a.fileId, if a.fromMarkdown then some "vue" else none)) ++
    b.failures.map fun f => (f.fileId, some "error")

/-- Components with an extension, if there is one. -/
def markedPlace (root : Path) (x : String × Option String) : List PathComponent :=
  match x.2 with
  | none => placeOf root x.1
  | some extension => extended extension (placeOf root x.1)

/-- What is written for a file, relative to the output directory. -/
def markedText (root : Path) (x : String × Option String) : String :=
  match x.2 with
  | none => (outputPath x.1 root).text
  | some extension => (outputPath x.1 root).text ++ "." ++ extension

/-- A file of a project that has a place of its own: an absolute path that leads nowhere upwards, to something
else than the root, and is not the id of a slide. -/
structure Ordinary (root file : Path) : Prop where
  absolute : file.isAbsolute
  down : PathComponent.parent ∉ names file.chars
  below : ¬ (file == root) = true
  unnumbered : ∀ number, ModuleId.parse? file.text ≠ some (.slide number)

/-- A text that leads down from a directory to a file, and is written without a dot in front. -/
structure Part (s : String) : Prop extends Disk.Tidy s where
  bare : (Path.mk s).components = names s.toList

variable {root : Path}

theorem placeOf_slide {fileId : String} {number : Nat} (h : ModuleId.parse? fileId = some (.slide number)) :
    placeOf root fileId = [.name "slides", .name (toString number ++ ".md")] := by
  unfold placeOf
  rw [h]

theorem placeOf_file {file : Path} (h : Ordinary root file) : placeOf root file.text =
    .name "files" :: (stripComponents? root.components file.components).getD (names file.chars) := by
  unfold placeOf
  split
  · rename_i number hnumber
    exact absurd hnumber (h.unnumbered number)
  · rfl

/-- The directories that files are written to. -/
def directories : List String := ["slides", "files", "modules"]

theorem names_directory {dir : String} (hdir : dir ∈ directories) (rest : String) :
    names (dir ++ "/" ++ rest).toList = .name dir :: names rest.toList := by
  have hcut : (dir ++ "/" ++ rest).toList = dir.toList ++ '/' :: rest.toList := by
    rw [String.toList_append, String.toList_append, List.append_assoc]
    rfl
  have hname : ∀ dir ∈ directories, names dir.toList = [.name dir] := by decide
  rw [hcut, names_append_slash, hname dir hdir, List.singleton_append]

/-- What leads down from one of the directories is a part. -/
theorem part_directory {dir rest : String} (hdir : dir ∈ directories) (hends : EndsInComponent rest.toList)
    (hdown : PathComponent.parent ∉ names rest.toList) : Part (dir ++ "/" ++ rest) := by
  have hcut : (dir ++ "/" ++ rest).toList = dir.toList ++ '/' :: rest.toList := by
    rw [String.toList_append, String.toList_append, List.append_assoc]
    rfl
  have hletter : ∀ c, (dir ++ "/" ++ rest).toList.head? = some c → c ≠ '/' ∧ c ≠ '.' := by
    have hfirst : ∀ dir ∈ directories, ∃ c s, dir.toList = c :: s ∧ c ≠ '/' ∧ c ≠ '.' := by
      simp only [directories, List.forall_mem_cons]
      exact ⟨⟨_, _, rfl, by decide, by decide⟩, ⟨_, _, rfl, by decide, by decide⟩,
        ⟨_, _, rfl, by decide, by decide⟩, nofun⟩
    obtain ⟨first, s, hs, hne⟩ := hfirst dir hdir
    intro c hc
    rw [hcut, hs, List.cons_append, List.head?_cons] at hc
    cases hc
    exact hne
  refine ⟨⟨fun hslash => (hletter _ hslash).1 rfl, ?_, ?_⟩, components_eq_names hletter⟩
  · rw [hcut, endsInComponent_append_slash]
    exact hends
  · rw [names_directory hdir, List.mem_cons]
    exact fun hmem => hmem.elim nofun hdown

/-! ### Slides and files -/

/-- What is written for a file, and where. -/
structure Placed (root : Path) (fileId dir rest : String) : Prop where
  directory : dir ∈ directories
  text : (outputPath fileId root).text = dir ++ "/" ++ rest
  place : placeOf root fileId = .name dir :: names rest.toList
  ends : EndsInComponent rest.toList
  down : PathComponent.parent ∉ names rest.toList

theorem placed_slide {fileId : String} {number : Nat}
    (h : ModuleId.parse? fileId = some (.slide number)) :
    Placed root fileId "slides" (toString number ++ ".md") := by
  have hplain : '/' ∉ (toString number ++ ".md").toList := by
    rw [String.toList_append, List.mem_append]
    rintro (hmem | hmem)
    · rw [Presentation.toList_natText] at hmem
      exact absurd (isAsciiDigit_of_mem_toDigits hmem) (by decide)
    · exact absurd hmem (by decide)
  have hlength : 3 ≤ (toString number ++ ".md").toList.length := by
    rw [String.toList_append, List.length_append]
    exact Nat.le_add_left 3 _
  have hname : component? (toString number ++ ".md").toList =
      some (.name (toString number ++ ".md")) := by
    have hlong : ∀ w, w.length < 3 → (toString number ++ ".md").toList ≠ w := by
      rintro w hw rfl
      omega
    rw [component?_eq_name (hlong _ (by decide)) (hlong _ (by decide)) (hlong _ (by decide)),
      String.ofList_toList]
  have hnames : names (toString number ++ ".md").toList = [.name (toString number ++ ".md")] := by
    rw [names_piece hplain, hname]
    rfl
  refine ⟨by decide, ?_, ?_, ?_, ?_⟩
  · unfold outputPath
    rw [h]
    show "slides/" ++ toString number ++ ".md" = _
    rw [String.append_assoc]
    rfl
  · rw [placeOf_slide h, hnames]
  · unfold EndsInComponent
    rw [splitOn_char_of_not_mem hplain, List.getLast?_singleton, Option.bind_some, hname]
    rfl
  · rw [hnames, List.mem_singleton]
    exact nofun

/-- A file below the root is written under what is left of its path there. -/
theorem placed_below {file rest : Path} (hroot : root.isAbsolute) (hfile : Ordinary root file)
    (hends : EndsInComponent file.chars) (hstrip : file.stripPrefix? root = some rest) :
    rest.chars.head? ≠ some '/' ∧ EndsInComponent rest.chars ∧ PathComponent.parent ∉ names rest.chars ∧
      stripComponents? root.components file.components = some (names rest.chars) := by
  obtain ⟨-, hcomponents, -⟩ := stripPrefix?_eq hroot hstrip
  refine ⟨head?_of_stripPrefix? hroot hstrip, ?_, fun hmem => hfile.down ?_, ?_⟩
  · refine (endsInComponent_of_stripPrefix? hroot hstrip hends).resolve_left fun hnil => ?_
    rw [hnil, names_nil, List.append_nil] at hcomponents
    exact hfile.below (beq_iff.mpr hcomponents)
  · have hall : PathComponent.parent ∈ file.components := by
      rw [hcomponents]
      exact List.mem_append_right _ hmem
    rw [components_of_isAbsolute hfile.absolute] at hall
    exact (List.mem_cons.mp hall).resolve_left nofun
  · rw [hcomponents, stripComponents?_append]

theorem placed_file {file : Path} (hroot : root.isAbsolute) (hfile : Ordinary root file)
    (hends : EndsInComponent file.chars) : ∃ rest, Placed root file.text "files" rest := by
  have hjoin : ∀ rest : String, rest.toList.head? ≠ some '/' →
      (Path.mk "files" / rest).text = "files" ++ "/" ++ rest := by
    intro rest hrest
    show (join (Path.mk "files") rest).text = _
    unfold join
    rw [if_neg (by simpa using hrest), if_neg (by decide)]
  have hpath : outputPath file.text root = (file.stripPrefix? root).elim
      (Path.mk "files" / String.ofList (file.chars.dropWhile (· = '/')))
      (fun rest => Path.mk "files" / rest.text) := by
    unfold outputPath
    split
    · rename_i number hnumber
      exact absurd hnumber (hfile.unnumbered number)
    · cases (Path.mk file.text).stripPrefix? root <;> rfl
  cases hstrip : file.stripPrefix? root with
  | some rest =>
    obtain ⟨hhead, hrest, hdown, hleft⟩ := placed_below hroot hfile hends hstrip
    refine ⟨rest.text, by decide, ?_, ?_, hrest, hdown⟩
    · rw [hpath, hstrip]
      exact hjoin rest.text hhead
    · rw [placeOf_file hfile, hleft]
      rfl
  | none =>
    have hchars : (String.ofList (file.chars.dropWhile (· = '/'))).toList = file.chars.dropWhile (· = '/') :=
      String.toList_ofList
    refine ⟨String.ofList (file.chars.dropWhile (· = '/')), by decide, ?_, ?_, ?_, ?_⟩
    · rw [hpath, hstrip]
      exact hjoin _ (by rw [hchars]; exact head?_dropSlashes _)
    · rw [placeOf_file hfile, stripComponents?_eq_none hstrip, hchars, names_dropSlashes]
      rfl
    · rw [hchars, endsInComponent_dropSlashes]
      exact hends
    · rw [hchars, names_dropSlashes]
      exact hfile.down

/-- The extensions that are put behind names. -/
def extensions : List String := ["vue", "error"]

/-- What is written for a placed file is a part, whose names are the place with its extension. -/
theorem Placed.marked {fileId dir rest : String} (h : Placed root fileId dir rest) {extension : Option String}
    (hextension : ∀ e, extension = some e → e ∈ extensions) :
    Part (markedText root (fileId, extension)) ∧
      names (markedText root (fileId, extension)).toList = markedPlace root (fileId, extension) ∧
      ∃ more, markedPlace root (fileId, extension) = .name dir :: more := by
  cases extension with
  | none =>
    unfold markedText markedPlace
    dsimp only
    rw [h.text, h.place]
    exact ⟨part_directory h.directory h.ends h.down, names_directory h.directory rest, _, rfl⟩
  | some e =>
    have hplain : ∀ e ∈ extensions, '/' ∉ e.toList ∧ e ≠ "" := by decide
    obtain ⟨hslash, hsome⟩ := hplain e (hextension e rfl)
    obtain ⟨hnames, hends⟩ := names_extended h.ends h.down hslash hsome
    obtain ⟨pieces, w, hsplit, -, -, -, hname⟩ := exists_last_name h.ends h.down
    have hrest : names rest.toList = pieces.filterMap component? ++ [.name (String.ofList w)] := by
      rw [names_concat hsplit, hname]
      rfl
    have hdown : PathComponent.parent ∉ names (rest ++ "." ++ e).toList := by
      have hdown := h.down
      rw [hrest, List.mem_append] at hdown
      rw [hnames, hrest, extended_concat, List.mem_append, List.mem_singleton]
      exact fun hmem => hmem.elim (fun hmem => hdown (.inl hmem)) nofun
    have htext : markedText root (fileId, some e) = dir ++ "/" ++ (rest ++ "." ++ e) := by
      unfold markedText
      dsimp only
      rw [h.text]
      simp only [String.append_assoc]
    have hplace : markedPlace root (fileId, some e) = .name dir :: extended e (names rest.toList) := by
      unfold markedPlace
      dsimp only
      rw [h.place]
      exact extended_cons e _ (by rw [hrest]; simp)
    rw [htext, hplace, names_directory h.directory, hnames]
    exact ⟨part_directory h.directory hends hdown, rfl, _, rfl⟩

/-! ### Modules -/

/-- The modules that a build may have. -/
def moduleIds : List ModuleId :=
  .sharedState :: ModuleId.deckModules ++ Component.Element.names.map .element

theorem outputName_nodup : (moduleIds.map ModuleId.outputName).Nodup := by decide

theorem names_outputName : ∀ m ∈ moduleIds, EndsInComponent m.outputName.toList ∧
    names m.outputName.toList = [.name m.outputName] := by
  have hall : moduleIds.all (fun m =>
      ((splitOn (· = '/') m.outputName.toList).getLast?.bind component?).isSome &&
        names m.outputName.toList = [.name m.outputName]) = true := by decide
  intro m hm
  have hnames := List.all_eq_true.mp hall m hm
  rw [Bool.and_eq_true, decide_eq_true_eq] at hnames
  exact hnames

/-- A module is written to its directory under its name. -/
theorem module_part {m : ModuleId} (hm : m ∈ moduleIds) :
    Part ("modules" ++ "/" ++ m.outputName) ∧
      names ("modules" ++ "/" ++ m.outputName).toList = [.name "modules", .name m.outputName] := by
  obtain ⟨hends, hnames⟩ := names_outputName m hm
  refine ⟨part_directory (by decide) hends ?_, ?_⟩
  · rw [hnames, List.mem_singleton]
    exact nofun
  · rw [names_directory (by decide), hnames]

theorem stylesheet_part : Part "windi.css" ∧ names "windi.css".toList = [.name "windi.css"] := by
  have hnames : names "windi.css".toList = [.name "windi.css"] := by decide
  refine ⟨⟨⟨by decide, by unfold EndsInComponent; decide, ?_⟩, by decide⟩, hnames⟩
  rw [hnames, List.mem_singleton]
  exact nofun

/-! ## All outputs -/

/-- The files of a build with their texts, relative to the output directory. -/
def parts (b : Build) (root : Path) : List (String × String) :=
  b.artifacts.map (fun a => (markedText root (a.fileId, if a.fromMarkdown then some "vue" else none), a.code)) ++
    b.failures.map (fun f => (markedText root (f.fileId, some "error"), f.message)) ++
    (b.modules.map (fun x => ("modules" ++ "/" ++ x.1.outputName, x.2)) ++ [("windi.css", b.stylesheet)])

theorem outputPath_ne_empty (fileId : String) : (outputPath fileId root).text ≠ "" := by
  have hjoin : ∀ rest : String, (Path.mk "files" / rest).text ≠ "" := by
    intro rest
    show (join (Path.mk "files") rest).text ≠ ""
    unfold join
    split
    · rintro hempty
      simp_all
    · rw [if_neg (by decide)]
      simp
  unfold outputPath
  split
  · simp
  · split <;> exact hjoin _

theorem outputs_eq (b : Build) (dir root : Path) :
    b.outputs dir root = (b.parts root).map fun x => (dir / x.1, x.2) := by
  have hartifact : ∀ a : Artifact, (if a.fromMarkdown then
      (dir / (outputPath a.fileId root).text).withSuffix "vue" else dir / (outputPath a.fileId root).text) =
      dir / markedText root (a.fileId, if a.fromMarkdown then some "vue" else none) := by
    intro a
    unfold markedText
    cases a.fromMarkdown with
    | true => exact withSuffix_join dir (outputPath_ne_empty _) _
    | false => rfl
  have hfailure : ∀ fileId : String, (dir / (outputPath fileId root).text).withSuffix "error" =
      dir / markedText root (fileId, some "error") :=
    fun fileId => withSuffix_join dir (outputPath_ne_empty _) _
  have hmodule : ∀ m : ModuleId, (dir / "modules" / m.outputName : Path) =
      dir / ("modules" ++ "/" ++ m.outputName) := by
    intro m
    refine join_join dir (by decide) (by decide) (by decide) ?_
    cases m <;> simp [ModuleId.outputName]
  unfold outputs parts
  simp only [List.map_append, List.map_map, List.append_assoc, List.map_cons, List.map_nil, hartifact,
    hfailure, hmodule]
  rfl

/-- A build of which each file has a place and each module a name of its own. -/
structure Accountable (b : Build) (root : Path) : Prop where
  placed : ∀ x ∈ b.marked, ∃ dir rest, dir ≠ "modules" ∧ Placed root x.1 dir rest
  modules : ∃ ids, ids.Sublist moduleIds ∧ (b.modules.map Prod.fst).Perm ids

variable {b : Build}

theorem extension_of_mem_marked {x : String × Option String} (hx : x ∈ b.marked) :
    ∀ e, x.2 = some e → e ∈ extensions := by
  intro e he
  rcases List.mem_append.mp hx with hx | hx
  · obtain ⟨a, -, rfl⟩ := List.mem_map.mp hx
    dsimp only at he
    split at he
    · cases he
      decide
    · cases he
  · obtain ⟨f, -, rfl⟩ := List.mem_map.mp hx
    cases he
    decide

/-- What is written for the files, in terms of their places. -/
theorem map_marked (b : Build) (root : Path) :
    b.marked.map (markedText root) =
      (b.artifacts.map (fun a =>
          (markedText root (a.fileId, if a.fromMarkdown then some "vue" else none), a.code)) ++
        b.failures.map (fun f => (markedText root (f.fileId, some "error"), f.message))).map Prod.fst := by
  unfold marked
  simp only [List.map_append, List.map_map]
  rfl

theorem Accountable.module_mem (h : b.Accountable root) {x : ModuleId × String} (hx : x ∈ b.modules) :
    x.1 ∈ moduleIds := by
  obtain ⟨ids, hsub, hperm⟩ := h.modules
  exact hsub.subset (hperm.subset (List.mem_map_of_mem hx))

theorem Accountable.marked_part (h : b.Accountable root) {x : String × Option String} (hx : x ∈ b.marked) :
    Part (markedText root x) ∧ names (markedText root x).toList = markedPlace root x ∧
      ∃ dir more, dir ∈ directories ∧ dir ≠ "modules" ∧ markedPlace root x = .name dir :: more := by
  obtain ⟨dir, rest, hdir, hplaced⟩ := h.placed x hx
  obtain ⟨hpart, hnames, more, hmore⟩ := hplaced.marked (extension_of_mem_marked hx)
  exact ⟨hpart, hnames, dir, more, hplaced.directory, hdir, hmore⟩

/-- Every output is a part: a file's, a module's, or the stylesheet. -/
theorem Accountable.part (h : b.Accountable root) {x : String × String} (hx : x ∈ b.parts root) :
    Part x.1 := by
  rcases List.mem_append.mp hx with hx | hx
  · have htext : x.1 ∈ b.marked.map (markedText root) := by
      rw [map_marked]
      exact List.mem_map_of_mem hx
    obtain ⟨y, hy, hyx⟩ := List.mem_map.mp htext
    rw [← hyx]
    exact (h.marked_part hy).1
  · rcases List.mem_append.mp hx with hx | hx
    · obtain ⟨m, hm, rfl⟩ := List.mem_map.mp hx
      exact (module_part (h.module_mem hm)).1
    · rw [List.mem_singleton.mp hx]
      exact stylesheet_part.1

/-- Outputs are different files if they have different names below the output directory. -/
theorem Accountable.pairwise_outputs (h : b.Accountable root) (dir : Path) :
    ((b.outputs dir root).Pairwise fun x y => ¬ (x.1 == y.1) = true) ↔
      (b.parts root).Pairwise fun x y => names x.1.toList ≠ names y.1.toList := by
  rw [outputs_eq, List.pairwise_map]
  refine List.Pairwise.iff_of_mem fun {x y} hx hy => ?_
  have hpartx := h.part hx
  have hparty := h.part hy
  rw [beq_iff, components_join_names dir hpartx.relative hpartx.bare,
    components_join_names dir hparty.relative hparty.bare, List.append_cancel_left_eq]

/-- Only files can get in each other's way. -/
theorem Accountable.pairwise_parts (h : b.Accountable root) :
    ((b.parts root).Pairwise fun x y => names x.1.toList ≠ names y.1.toList) ↔
      b.marked.Pairwise fun x y => markedPlace root x ≠ markedPlace root y := by
  have hfiles : (b.artifacts.map (fun a =>
          (markedText root (a.fileId, if a.fromMarkdown then some "vue" else none), a.code)) ++
        b.failures.map (fun f => (markedText root (f.fileId, some "error"), f.message))).Pairwise
        (fun x y => names x.1.toList ≠ names y.1.toList) ↔
      b.marked.Pairwise fun x y => markedPlace root x ≠ markedPlace root y := by
    rw [← List.pairwise_map (f := Prod.fst) (R := fun s t : String => names s.toList ≠ names t.toList),
      ← map_marked, List.pairwise_map]
    refine List.Pairwise.iff_of_mem fun {x y} hx hy => ?_
    rw [(h.marked_part hx).2.1, (h.marked_part hy).2.1]
  have hmodules : (b.modules.map fun x => ("modules" ++ "/" ++ x.1.outputName, x.2)).Pairwise
      fun x y => names x.1.toList ≠ names y.1.toList := by
    obtain ⟨ids, hsub, hperm⟩ := h.modules
    have hnodup : (b.modules.map fun x => x.1.outputName).Nodup := by
      have hnames := (hperm.map ModuleId.outputName).nodup_iff.mpr (outputName_nodup.sublist (hsub.map _))
      rwa [List.map_map] at hnames
    rw [List.pairwise_map]
    refine (List.pairwise_map.mp hnodup).imp_of_mem fun {x y} hx hy hne => ?_
    rw [(module_part (h.module_mem hx)).2, (module_part (h.module_mem hy)).2]
    simpa using hne
  have hstylesheet := stylesheet_part.2
  unfold parts
  rw [List.pairwise_append, hfiles]
  refine ⟨And.left, fun hmarked => ⟨hmarked, ?_, fun x hx y hy => ?_⟩⟩
  · refine List.pairwise_append.mpr ⟨hmodules, List.pairwise_singleton _ _, fun x hx y hy => ?_⟩
    obtain ⟨m, hm, rfl⟩ := List.mem_map.mp hx
    rw [List.mem_singleton.mp hy, (module_part (h.module_mem hm)).2, hstylesheet]
    simp
  · -- the first names are different
    have htext : x.1 ∈ b.marked.map (markedText root) := by
      rw [map_marked]
      exact List.mem_map_of_mem hx
    obtain ⟨z, hz, hzx⟩ := List.mem_map.mp htext
    obtain ⟨-, hnames, dir, more, hdir, hne, hplace⟩ := h.marked_part hz
    rw [← hzx, hnames, hplace]
    rcases List.mem_append.mp hy with hy | hy
    · obtain ⟨m, hm, rfl⟩ := List.mem_map.mp hy
      rw [(module_part (h.module_mem hm)).2]
      simpa using fun heq => absurd heq hne
    · rw [List.mem_singleton.mp hy, hstylesheet]
      rintro heq
      cases heq
      exact absurd hdir (by decide)

/-! ## Clashes -/

/-- Two files get in each other's way: one lies below the root and the other has the same path from the top, or
one is written under the name of the other. -/
inductive Clash (root : Path) : String × Option String → String × Option String → Prop where
  | sides {f g : String} {extension : Option String} :
      (Path.mk f).startsWith root ≠ (Path.mk g).startsWith root → placeOf root f = placeOf root g →
      Clash root (f, extension) (g, extension)
  | ahead {f g extension : String} : extended extension (placeOf root f) = placeOf root g →
      Clash root (f, some extension) (g, none)
  | behind {f g extension : String} : placeOf root f = extended extension (placeOf root g) →
      Clash root (f, none) (g, some extension)

/-- Files that clash go to one directory. -/
theorem Clash.head?_eq {x y : String × Option String} (h : Clash root x y)
    (hx : (placeOf root x.1).tail ≠ []) (hy : (placeOf root y.1).tail ≠ []) :
    (placeOf root x.1).head? = (placeOf root y.1).head? := by
  have hextended : ∀ (extension : String) (cs : List PathComponent), cs.tail ≠ [] →
      (extended extension cs).head? = cs.head? := by
    intro extension cs hcs
    cases cs with
    | nil => exact absurd rfl hcs
    | cons c cs =>
      have hcs : cs ≠ [] := hcs
      rw [extended_cons extension c hcs, List.head?_cons, List.head?_cons]
  cases h with
  | sides _ hplace => exact congrArg List.head? hplace
  | ahead hplace => rw [← hplace, hextended _ _ hx]
  | behind hplace => rw [hplace, hextended _ _ hy]

/-- Two files are told apart by their places, unless they lie on different sides of the root. -/
def Apart (root : Path) (f g : String) : Prop :=
  placeOf root f = placeOf root g → (Path.mk f).startsWith root ≠ (Path.mk g).startsWith root

theorem Apart.symm {f g : String} (h : Apart root f g) : Apart root g f :=
  fun hplace => (h hplace.symm).symm

theorem Placed.exists_name {fileId dir rest : String} (h : Placed root fileId dir rest) :
    ∃ before s, placeOf root fileId = before ++ [.name s] := by
  obtain ⟨pieces, w, hsplit, -, -, -, hname⟩ := exists_last_name h.ends h.down
  rw [h.place, names_concat hsplit, hname, ← List.cons_append]
  exact ⟨_, _, rfl⟩

/-- Extensions are told apart by their last letters. -/
theorem extension_inj {s t e e' : String} (he : e ∈ extensions) (he' : e' ∈ extensions)
    (h : s ++ "." ++ e = t ++ "." ++ e') : e = e' ∧ s = t := by
  have hlast : ∀ e ∈ extensions, ∀ e' ∈ extensions, e.toList.getLast? = e'.toList.getLast? → e = e' := by
    decide
  have hsome : ∀ e ∈ extensions, ∀ before : List Char, (before ++ e.toList).getLast? = e.toList.getLast? := by
    intro e he before
    have hne : e.toList.getLast?.isSome := (by decide : ∀ e ∈ extensions, e.toList.getLast?.isSome) e he
    obtain ⟨c, hc⟩ := Option.isSome_iff_exists.mp hne
    rw [List.getLast?_append, hc, Option.some_or]
  have hsame : e = e' := by
    refine hlast e he e' he' ?_
    have hletters := congrArg (fun u : String => u.toList.getLast?) h
    simpa only [String.toList_append, hsome e he, hsome e' he'] using hletters
  subst hsame
  have hchars := congrArg String.toList h
  simp only [String.toList_append, List.append_left_inj] at hchars
  exact ⟨rfl, String.toList_inj.mp hchars⟩

/-- Where two files are told apart by their places, they are written to one place only if they clash. -/
theorem markedPlace_eq_iff {x y : String × Option String} {dir rest dir' rest' : String}
    (hx : Placed root x.1 dir rest) (hy : Placed root y.1 dir' rest')
    (hex : ∀ e, x.2 = some e → e ∈ extensions) (hey : ∀ e, y.2 = some e → e ∈ extensions)
    (hapart : Apart root x.1 y.1) : markedPlace root x = markedPlace root y ↔ Clash root x y := by
  obtain ⟨f, extension⟩ := x
  obtain ⟨g, extension'⟩ := y
  obtain ⟨before, s, hf⟩ := hx.exists_name
  obtain ⟨before', t, hg⟩ := hy.exists_name
  dsimp only at hf hg hapart
  cases extension with
  | none =>
    cases extension' with
    | none =>
      constructor
      · exact fun h => .sides (hapart h) h
      · intro h
        cases h with
        | sides _ h => exact h
    | some e' =>
      constructor
      · exact .behind
      · intro h
        cases h with
        | behind h => exact h
  | some e =>
    cases extension' with
    | none =>
      constructor
      · exact .ahead
      · intro h
        cases h with
        | ahead h => exact h
    | some e' =>
      constructor
      · intro h
        unfold markedPlace at h
        dsimp only at h
        rw [hf, hg, extended_concat, extended_concat] at h
        obtain ⟨rfl, hnames⟩ := List.append_inj' h rfl
        obtain ⟨rfl, rfl⟩ := extension_inj (hex e rfl) (hey e' rfl)
          (PathComponent.name.inj (List.cons.inj hnames).1)
        exact .sides (hapart (hf.trans hg.symm)) (hf.trans hg.symm)
      · intro h
        cases h with
        | sides _ h => exact congrArg (extended e) h

/-- The outputs of a build whose files are told apart are different files unless two of them clash. -/
theorem Accountable.pairwise_iff (h : b.Accountable root)
    (hapart : b.marked.Pairwise fun x y => Apart root x.1 y.1) (dir : Path) :
    ((b.outputs dir root).Pairwise fun x y => ¬ (x.1 == y.1) = true) ↔
      b.marked.Pairwise fun x y => ¬ Clash root x y := by
  rw [h.pairwise_outputs, h.pairwise_parts]
  have hiff : ∀ x ∈ b.marked, ∀ y ∈ b.marked, Apart root x.1 y.1 →
      (markedPlace root x = markedPlace root y ↔ Clash root x y) := by
    intro x hx y hy hxy
    obtain ⟨dir, rest, -, hplaced⟩ := h.placed x hx
    obtain ⟨dir', rest', -, hplaced'⟩ := h.placed y hy
    exact markedPlace_eq_iff hplaced hplaced' (extension_of_mem_marked hx) (extension_of_mem_marked hy) hxy
  constructor
  · intro hne
    exact (hne.and hapart).imp_of_mem fun {x y} hx hy hxy hclash =>
      hxy.1 ((hiff x hx y hy hxy.2).mpr hclash)
  · intro hclash
    exact (hclash.and hapart).imp_of_mem fun {x y} hx hy hxy heq =>
      hxy.1 ((hiff x hx y hy hxy.2).mp heq)

end Build

end DeckPress
