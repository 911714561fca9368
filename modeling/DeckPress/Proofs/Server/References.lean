import DeckPress.Proofs.Asset.Copies
import DeckPress.Proofs.Component.Lookups
import DeckPress.Proofs.Disk.Walk
import DeckPress.Proofs.Server.Following

/-!
# References to files, and what is served under them

Generated code refers to files in two ways. A file that is imported, as a component, the application, a
stylesheet or a setup file, is written as its own path. The local copy of a remote asset is written as it
is to be asked for: as its path below the deck's directory, or behind a mark.

A session answers the second way of writing only. It looks for an unmarked path below the deck's directory,
also where the path is that of a file. So a copy is served under what is written for it, and an imported
file only if the deck lies at the root of the disk: otherwise the session looks for a file whose path is
that of the deck's directory with the whole path of the imported file behind it.
-/

namespace DeckPress

open Text DeckPress.Path

/-! ## Where the deck is -/

theorem Disk.isAbsolute_pathOf (l : Location) : (Disk.pathOf l).isAbsolute := by
  refine isAbsolute_iff.mpr ⟨(String.intercalate "/" l).toList, ?_⟩
  exact String.toList_append

theorem Disk.isAbsolute_of_absolutePath {d : Disk} {p q : Path} (h : d.absolutePath p = .ok q) :
    q.isAbsolute := by
  unfold Disk.absolutePath Disk.canonicalize at h
  cases hl : d.resolve p with
  | error e => rw [hl] at h; cases h
  | ok l =>
    rw [hl] at h
    cases h
    exact Disk.isAbsolute_pathOf l

/-- The directory of the deck is the parent of the path that the deck is found at. -/
theorem Layout.deckRoot_of_resolve {d : Disk} {entry : Path} {theme : Option String}
    {clientRoot : Option Path} {l : Layout} (h : Layout.resolve d entry theme clientRoot = .ok l) :
    ∃ found, d.absolutePath entry = .ok found ∧ l.deckRoot = found.parent?.getD found := by
  unfold Layout.resolve at h
  cases hfault : d.fileFault? entry with
  | some fault => rw [hfault] at h; cases h
  | none =>
    cases hfound : d.absolutePath entry with
    | error e => rw [hfault, hfound] at h; cases h
    | ok found =>
      rw [hfault, hfound] at h
      dsimp only [bind, Except.bind, pure, Except.pure] at h
      refine ⟨found, rfl, ?_⟩
      -- the theme is given or read from the deck; then theme and client are looked for
      split at h
      · split at h
        · cases h
        split at h
        · cases h
        cases h
        rfl
      · split at h
        · cases h
        split at h
        · cases h
        split at h
        · cases h
        cases h
        rfl

theorem Layout.isAbsolute_deckRoot {d : Disk} {entry : Path} {theme : Option String}
    {clientRoot : Option Path} {l : Layout} (h : Layout.resolve d entry theme clientRoot = .ok l) :
    l.deckRoot.isAbsolute := by
  obtain ⟨found, hfound, hdir⟩ := Layout.deckRoot_of_resolve h
  have habs := Disk.isAbsolute_of_absolutePath hfound
  rw [hdir]
  cases hparent : found.parent? with
  | none => exact habs
  | some dir => exact isAbsolute_of_parent? habs hparent

/-- The deck's directory is an absolute path, and the copies of assets are written with regard to it. -/
theorem Pipeline.deckRoot_of_assemble {d : Disk} {r : Project} {p : Pipeline}
    (h : Pipeline.assemble d r = .ok p) :
    p.layout.deckRoot.isAbsolute ∧ p.rewriter.deckRoot = p.layout.deckRoot := by
  unfold Pipeline.assemble at h
  cases hlayout : Layout.resolve d r.entry r.givenTheme r.givenClient with
  | error e => rw [hlayout] at h; cases h
  | ok layout =>
    rw [hlayout] at h
    have habs := Layout.isAbsolute_deckRoot hlayout
    dsimp only [bind, Except.bind] at h
    split at h
    · cases h
    split at h
    · cases h
    cases h
    exact ⟨habs, rfl⟩

namespace Session

/-! ## References -/

/-- A file that generated code imports by its own path. -/
inductive Import (d : Disk) (p : Pipeline) (deck : Presentation) : Path → Prop
  /-- The file of a component, found by a search for its tag. -/
  | component {consumer : Option Path} {tag : String} {ls : Component.Listings} {f : Path} :
    ((p.importer.findFile? d (Component.pascalCase tag) (p.importer.searchDirs consumer)).run ls).1 =
      some f → Import d p deck f
  | application : Import d p deck (deck.layout.clientRoot / "App.vue")
  | style {f : Path} : f ∈ deck.styles → Import d p deck f
  | setup {f : Path} : f ∈ deck.setupFiles → Import d p deck f

/-- A file with what generated code says to refer to it. -/
inductive Reference (d : Disk) (p : Pipeline) (deck : Presentation) : Path → String → Prop
  | ofImport {f : Path} : Import d p deck f → Reference d p deck f f.slashed
  | ofCopy {url : String} {f : Path} : p.cache d url = .ok f →
    Reference d p deck f (Asset.publicPath p.rewriter.deckRoot f)

/-- Text that stands in a text. -/
def Contains (code part : String) : Prop := part.toList <:+: code.toList

theorem Contains.left {a part : String} (h : Contains a part) (b : String) : Contains (a ++ b) part := by
  unfold Contains
  rw [String.toList_append]
  exact h.trans (List.prefix_append _ _).isInfix

theorem Contains.right {b part : String} (h : Contains b part) (a : String) : Contains (a ++ b) part := by
  unfold Contains
  rw [String.toList_append]
  exact h.trans (List.suffix_append _ _).isInfix

theorem Contains.refl (a : String) : Contains a a := List.infix_refl _

theorem contains_join {parts : List String} {part : String} (h : part ∈ parts) :
    Contains (String.join parts) part := by
  induction parts with
  | nil => cases h
  | cons first parts ih =>
    rw [String.join_cons]
    rcases List.mem_cons.mp h with rfl | h
    · exact (Contains.refl _).left _
    · exact (ih h).right first

theorem exists_mem_numberFrom {α : Type} {xs : List α} {x : α} (h : x ∈ xs) (n : Nat) :
    ∃ i, (i, x) ∈ Presentation.numberFrom n xs := by
  induction xs generalizing n with
  | nil => cases h
  | cons y xs ih =>
    rcases List.mem_cons.mp h with rfl | h
    · exact ⟨n, List.mem_cons_self⟩
    · obtain ⟨i, hi⟩ := ih h (n + 1)
      exact ⟨i, List.mem_cons_of_mem _ hi⟩

/-- Generated code has the path of a file: a tag is resolved to it, or the entry or the setup has a line that
imports it. -/
def Emits (d : Disk) (p : Pipeline) (deck : Presentation) (f : Path) : Prop :=
  (∃ consumer tag ls name, ((p.importer.resolve? d consumer tag).run ls).1 = some ⟨name, f.slashed⟩) ∨
  ∃ name, Contains deck.entry (Presentation.importLine name f.slashed) ∨
    ∀ code, Presentation.setups d deck = .ok code →
      Contains code (Presentation.importLine name f.slashed)

/-- An imported file is one that generated code has the path of. -/
theorem Import.emits {d : Disk} {p : Pipeline} {deck : Presentation} {f : Path} (h : Import d p deck f) :
    Emits d p deck f := by
  cases h with
  | @component consumer tag ls f hfound =>
    refine .inl ⟨consumer, tag, ls, Component.pascalCase tag, ?_⟩
    rw [Component.Importer.resolve?_run, hfound]
    rfl
  | application =>
    refine .inr ⟨some "App", .inl ?_⟩
    unfold Presentation.entry
    simp only [String.append_assoc]
    exact (Contains.refl _).left _ |>.right _ |>.right _
  | style hstyle =>
    refine .inr ⟨none, .inl ?_⟩
    unfold Presentation.entry
    simp only [String.append_assoc]
    have hlines := contains_join (List.mem_map_of_mem (f := fun style : Path =>
      Presentation.importLine none style.slashed) hstyle)
    exact hlines.left _ |>.right _ |>.right _ |>.right _ |>.right _ |>.right _
  | setup hsetup =>
    obtain ⟨i, hi⟩ := exists_mem_numberFrom hsetup 0
    refine .inr ⟨some ("setup" ++ toString i), .inr fun code hcode => ?_⟩
    unfold Presentation.setups at hcode
    split at hcode
    · cases hcode
    · cases hcode
      simp only [String.append_assoc]
      exact (contains_join (List.mem_map.mpr ⟨_, hi, rfl⟩)).left _

/-! ## What is asked for -/

/-- A path that is asked for as that of a file: it stands for no page and no generated module, and it does
not lead upwards. -/
structure AsksForFile (w : String) : Prop where
  noPage : ¬ (w = "/" ∨ w = "/index.html")
  noModule : ModuleId.parse? w = none
  noUp : ['.', '.'] ∉ splitOn (· = '/') w.toList

/-- The mark in front of the path of a file. -/
def mark : String := "/@fs"

/-- The file below the deck's directory that an unmarked path stands for. -/
def fileBelow (p : Pipeline) (w : String) : Path :=
  p.layout.deckRoot / String.ofList (w.toList.dropWhile (· = '/'))

/-- What is written for a file says nothing else: it is asked for as the path of a file that is not the
deck's directory, with the mark only in front of the whole path of the file, and it is neither changed by
slashes nor too long. -/
structure Unambiguous (p : Pipeline) (f : Path) (w : String) : Prop where
  asks : AsksForFile w
  marked : mark.toList <+: w.toList → w = mark ++ f.text
  plain : '\\' ∉ f.chars
  short : ∀ q, requestedFile? p w = some q → Disk.checkPath q = .ok ()
  inside : (f == p.layout.deckRoot) = false

variable {d : Disk} {s : Session} {w : String} {f q : Path}

theorem requestedFile?_eq (p : Pipeline) (h : AsksForFile w) :
    requestedFile? p w = match stripPrefix? mark.toList w.toList with
      | some file => some ⟨String.ofList file⟩
      | none => some (fileBelow p w) := by
  unfold requestedFile?
  rw [if_neg (by simpa using h.noUp)]
  rfl

theorem requestedFile?_marked {p : Pipeline} {t : String} (h : AsksForFile (mark ++ t)) :
    requestedFile? p (mark ++ t) = some ⟨t⟩ := by
  rw [requestedFile?_eq p h, String.toList_append, stripPrefix?_append]
  exact congrArg (fun text => some (Path.mk text)) String.ofList_toList

theorem requestedFile?_unmarked {p : Pipeline} (h : AsksForFile w) (hmark : ¬ mark.toList <+: w.toList) :
    requestedFile? p w = some (fileBelow p w) := by
  have hstrip : stripPrefix? mark.toList w.toList = none := by
    rw [← Option.not_isSome_iff_eq_none, stripPrefix?_isSome]
    exact hmark
  rw [requestedFile?_eq p h, hstrip]

/-- The components of an unmarked path are put behind those of the deck's directory. -/
theorem components_fileBelow {p : Pipeline} (hroot : p.layout.deckRoot.isAbsolute) (w : String) :
    (fileBelow p w).components = p.layout.deckRoot.components ++ names w.toList := by
  unfold fileBelow
  rw [components_join hroot, String.toList_ofList, names_dropSlashes]
  rw [String.toList_ofList]
  exact head?_dropSlashes w.toList

theorem endsInComponent_fileBelow {p : Pipeline} (hroot : p.layout.deckRoot.isAbsolute) (w : String) :
    EndsInComponent (fileBelow p w).chars ↔ EndsInComponent w.toList := by
  have hhead : (String.ofList (w.toList.dropWhile (· = '/'))).toList.head? ≠ some '/' := by
    rw [String.toList_ofList]
    exact head?_dropSlashes w.toList
  obtain ⟨b, hb, -, -⟩ := chars_join hroot hhead
  unfold fileBelow
  rw [hb, endsInComponent_append_slash, String.toList_ofList, endsInComponent_dropSlashes]

theorem servePath_eq (h : AsksForFile w) (hq : requestedFile? s.pipeline w = some q) :
    (servePath d w).run.run s = (serveFile d q).run.run s := by
  unfold servePath
  rw [if_neg (by simpa using h.noPage), h.noModule]
  dsimp only
  rw [Pipeline.get_bind, hq]

/-! ## What is served -/

/-- What a file is served as when it is asked for by a path: its bytes as they are stored, or what a run
under that path makes of its text. -/
def fileContent (d : Disk) (f asked : Path) : ExceptT Error (StateM Session) Content := do
  if FileKind.ofId asked.text = .other then
    return ⟨← ExceptT.mk (pure ((d.readBytes f).mapError .read)), Server.contentType f⟩
  else
    let source ← ExceptT.mk (pure ((d.readText f).mapError .read))
    return .ofText (← transform d asked.text source) (Server.contentType f)

/-- What is asked for is the file itself, by a path equal to its own, and it is served. -/
def Served (d : Disk) (s : Session) (w : String) (f : Path) : Prop :=
  ∃ q, requestedFile? s.pipeline w = some q ∧ (q == f) = true ∧ d.locate q = d.locate f ∧
    (servePath d w).run.run s = (some <$> fileContent d f q).run.run s

theorem contentType_eq (h : q.components = f.components) : Server.contentType q = Server.contentType f := by
  unfold Server.contentType Path.extension Path.extension? Path.fileName?
  rw [h]

theorem isServable_eq (h : d.locate q = d.locate f) (hfile : d.isFile f) (roots : List Path) :
    Server.isServable d roots q = Server.isServable d roots f := by
  obtain ⟨l, bytes, hl, -⟩ := d.isFile_iff.mp hfile
  unfold Server.isServable Disk.canonicalize
  rw [Disk.resolve_of_locate hl, Disk.resolve_of_locate (h.trans hl)]

theorem serveFile_eq (hcomponents : q.components = f.components) (hlocate : d.locate q = d.locate f)
    (hfile : d.isFile f) (hservable : Server.isServable d (servedRoots s.pipeline) f) :
    (serveFile d q).run.run s = (some <$> fileContent d f q).run.run s := by
  have hfound : (!d.isFile q || !Server.isServable d (servedRoots s.pipeline) q) = false := by
    rw [Disk.isFile_eq hlocate, hfile, isServable_eq hlocate hfile, hservable]
    rfl
  unfold serveFile fileContent
  rw [Disk.readBytes_eq hlocate, Disk.readText_eq hlocate, contentType_eq hcomponents]
  rw [Pipeline.get_bind]
  dsimp only
  rw [if_neg (by rw [hfound]; exact Bool.false_ne_true)]
  split
  · simp only [map_bind, map_pure]
  · simp only [map_bind, map_pure]

/-- A file that is asked for by a path with its components is served, if the path is written as one of a
file. -/
theorem served_of_components (hw : Unambiguous s.pipeline f w) (hfile : d.isFile f)
    (hservable : Server.isServable d (servedRoots s.pipeline) f)
    (hq : requestedFile? s.pipeline w = some q) (hcomponents : q.components = f.components)
    (hlocate : d.locate q = d.locate f) : Served d s w f :=
  ⟨q, hq, beq_iff.mpr hcomponents, hlocate,
    (servePath_eq hw.asks hq).trans (serveFile_eq hcomponents hlocate hfile hservable)⟩

/-- A file whose whole path stands behind the mark is served. -/
theorem served_marked (hw : Unambiguous s.pipeline f w) (hfile : d.isFile f)
    (hservable : Server.isServable d (servedRoots s.pipeline) f) (hmark : mark.toList <+: w.toList) :
    Served d s w f := by
  have hasks := hw.asks
  have htext := hw.marked hmark
  rw [htext] at hasks
  refine served_of_components hw hfile hservable ?_ rfl rfl
  rw [htext]
  exact requestedFile?_marked hasks

/-- A file that is found below the deck's directory is served. -/
theorem served_unmarked (hroot : s.pipeline.layout.deckRoot.isAbsolute)
    (hw : Unambiguous s.pipeline f w) (hfile : d.isFile f)
    (hservable : Server.isServable d (servedRoots s.pipeline) f) (hmark : ¬ mark.toList <+: w.toList)
    (hcomponents : f.components = s.pipeline.layout.deckRoot.components ++ names w.toList)
    (hends : EndsInComponent w.toList) : Served d s w f := by
  have hq := requestedFile?_unmarked (p := s.pipeline) hw.asks hmark
  have hsame : (fileBelow s.pipeline w).components = f.components :=
    (components_fileBelow hroot w).trans hcomponents.symm
  have hf : f.isAbsolute := by
    rw [components_of_isAbsolute hroot, List.cons_append] at hcomponents
    exact isAbsolute_of_components hcomponents
  have hbelow : (fileBelow s.pipeline w).isAbsolute := by
    rw [components_of_isAbsolute hf] at hsame
    exact isAbsolute_of_components hsame
  refine served_of_components hw hfile hservable hq hsame ?_
  exact d.locate_eq_of_components hf hbelow hsame hfile ((endsInComponent_fileBelow hroot w).mpr hends)
    (hw.short _ hq)

/-- The path of a copy that is not below a directory is marked. -/
theorem publicPath_marked {root : Path} (h : f.stripPrefix? root = none) :
    mark.toList <+: (Asset.publicPath root f).toList := by
  unfold Asset.publicPath
  rw [h]
  show mark.toList <+: (mark ++ f.slashed).toList
  rw [String.toList_append]
  exact List.prefix_append _ _

/-- What is written for copies leads to the file. -/
theorem served_publicPath (hroot : s.pipeline.layout.deckRoot.isAbsolute)
    (hw : Unambiguous s.pipeline f (Asset.publicPath s.pipeline.layout.deckRoot f)) (hfile : d.isFile f)
    (hservable : Server.isServable d (servedRoots s.pipeline) f) :
    Served d s (Asset.publicPath s.pipeline.layout.deckRoot f) f := by
  -- a path below the deck's directory may start like the mark, and is then taken for a marked one
  by_cases hmark : mark.toList <+: (Asset.publicPath s.pipeline.layout.deckRoot f).toList
  · exact served_marked hw hfile hservable hmark
  cases hstrip : f.stripPrefix? s.pipeline.layout.deckRoot with
  | none => exact absurd (publicPath_marked hstrip) hmark
  | some rest =>
    obtain ⟨hf, hcomponents, -⟩ := stripPrefix?_eq hroot hstrip
    have hchars := Asset.publicPath_below hroot hw.plain hstrip
    refine served_unmarked hroot hw hfile hservable hmark ?_ ?_
    · rw [hchars, names_slash]
      exact hcomponents
    · rw [hchars, endsInComponent_slash]
      -- something is left, or the file would be the directory of the deck
      have hends := endsInComponent_of_stripPrefix? hroot hstrip (d.endsInComponent_of_isFile hfile)
      refine hends.resolve_left fun hnil => ?_
      rw [hnil, names_nil, List.append_nil, ← beq_iff, hw.inside] at hcomponents
      cases hcomponents

theorem parent_not_mem_names (h : AsksForFile w) : PathComponent.parent ∉ names w.toList := by
  intro hmem
  obtain ⟨piece, hpiece, hparent⟩ := List.mem_filterMap.mp hmem
  rcases Disk.component?_cases piece with rfl | rfl | ⟨c, hc, -, hup⟩
  · cases hparent
  · cases hparent
  · rw [hc] at hparent
    rw [hup.mp (Option.some.inj hparent)] at hpiece
    exact h.noUp hpiece

/-- A directory without names is the root. -/
theorem isRoot_iff {dir : Path} (h : dir.isAbsolute) : (dir == (⟨"/"⟩ : Path)) = true ↔ names dir.chars = [] := by
  rw [beq_iff, components_of_isAbsolute h]
  show _ :: names dir.chars = [PathComponent.root] ↔ _
  rw [List.cons_inj_right]

/-- The own path of a file is not marked. -/
theorem not_marked {p : Pipeline} (hw : Unambiguous p f f.slashed) : ¬ mark.toList <+: f.slashed.toList := by
  intro hmark
  have htext := hw.marked hmark
  rw [slashed_eq hw.plain] at htext
  have hlength := congrArg String.length htext
  rw [String.length_append] at hlength
  have hsome : mark.length = 4 := rfl
  omega

/-- The own path of a file is looked for below the deck's directory. -/
theorem names_of_requestedFile? {p : Pipeline} (hroot : p.layout.deckRoot.isAbsolute)
    (hw : Unambiguous p f f.slashed) (hq : requestedFile? p f.slashed = some q) :
    q.isAbsolute ∧ names q.chars = names p.layout.deckRoot.chars ++ names f.chars := by
  have hcomponents := components_fileBelow hroot f.slashed
  rw [requestedFile?_unmarked hw.asks (not_marked hw)] at hq
  rw [Option.some.inj hq, slashed_eq hw.plain, components_of_isAbsolute hroot, List.cons_append]
    at hcomponents
  have habs := isAbsolute_of_components hcomponents
  rw [components_of_isAbsolute habs] at hcomponents
  exact ⟨habs, (List.cons.inj hcomponents).2⟩

/-- An imported file is served only if the directory of the deck has no names. -/
theorem served_slashed_iff (hroot : s.pipeline.layout.deckRoot.isAbsolute) (hf : f.isAbsolute)
    (hw : Unambiguous s.pipeline f f.slashed) (hfile : d.isFile f)
    (hservable : Server.isServable d (servedRoots s.pipeline) f) :
    Served d s f.slashed f ↔ names s.pipeline.layout.deckRoot.chars = [] := by
  constructor
  · rintro ⟨q, hq, hqf, -, -⟩
    obtain ⟨hbelow, hnames⟩ := names_of_requestedFile? hroot hw hq
    rw [beq_iff, components_of_isAbsolute hbelow, components_of_isAbsolute hf, hnames,
      List.cons_inj_right] at hqf
    exact List.append_left_eq_self.mp hqf
  · intro hnone
    refine served_unmarked hroot hw hfile hservable (not_marked hw) ?_ ?_
    · rw [components_of_isAbsolute hf, components_of_isAbsolute hroot, hnone, slashed_eq hw.plain]
      rfl
    · rw [slashed_eq hw.plain]
      exact d.endsInComponent_of_isFile hfile

/-- Where there are no links, the own path of a file leads past it, into the directory of the deck. -/
theorem locate_slashed_ne (hroot : s.pipeline.layout.deckRoot.isAbsolute) (hf : f.isAbsolute)
    (hw : Unambiguous s.pipeline f f.slashed) (hfile : d.isFile f) (hlinkless : d.Linkless)
    (hup : PathComponent.parent ∉ s.pipeline.layout.deckRoot.components)
    (hsome : names s.pipeline.layout.deckRoot.chars ≠ [])
    (hq : requestedFile? s.pipeline f.slashed = some q) : d.locate q ≠ d.locate f := by
  obtain ⟨hbelow, hnames⟩ := names_of_requestedFile? hroot hw hq
  have hupf := parent_not_mem_names hw.asks
  rw [slashed_eq hw.plain] at hupf
  have hupq : PathComponent.parent ∉ names q.chars := by
    rw [components_of_isAbsolute hroot] at hup
    rw [hnames]
    intro hmem
    rcases List.mem_append.mp hmem with hmem | hmem
    · exact hup (List.mem_cons_of_mem _ hmem)
    · exact hupf hmem
  intro hsame
  obtain ⟨l, bytes, hl, -⟩ := d.isFile_iff.mp hfile
  -- both paths lead to what they spell, and one has more names than the other
  have hspelled := (Disk.locate_linkless hlinkless hbelow hupq (hsame.trans hl)).symm.trans
    (Disk.locate_linkless hlinkless hf hupf hl)
  have hlength := congrArg List.length hspelled
  unfold Disk.spelled at hlength
  rw [List.length_map, List.length_map, hnames, List.length_append] at hlength
  exact hsome (List.length_eq_zero_iff.mp (by omega))

/--
**A reference is served exactly if it is written as it is asked for.**

A file of a session that may be served, and whose reference is unambiguous, is served under what is
written for it if that is the path of a copy, below the deck's directory or behind the mark, or if the deck
lies at the root of the disk. So no file that is imported by its own path is served in any other project.
Where there are no links the path does not even lead to the file.
-/
theorem reference_served_iff {d₀ d : Disk} {r : Project} {s : Session} (deck : Presentation) {f : Path}
    {w : String} (hs : Pipeline.assemble d₀ r = .ok s.pipeline) (href : Reference d s.pipeline deck f w)
    (habs : Import d s.pipeline deck f → f.isAbsolute) (hw : Unambiguous s.pipeline f w)
    (hfile : d.isFile f) (hservable : Server.isServable d (servedRoots s.pipeline) f) :
    (Served d s w f ↔ w = Asset.publicPath s.pipeline.rewriter.deckRoot f ∨
      (s.pipeline.layout.deckRoot == (⟨"/"⟩ : Path)) = true) ∧
    (¬ Served d s w f → d.Linkless → PathComponent.parent ∉ s.pipeline.layout.deckRoot.components →
      ∀ q, requestedFile? s.pipeline w = some q → d.locate q ≠ d.locate f) := by
  obtain ⟨hroot, hdir⟩ := Pipeline.deckRoot_of_assemble hs
  have hpublic : w = Asset.publicPath s.pipeline.rewriter.deckRoot f → Served d s w f := by
    rintro rfl
    rw [hdir] at hw ⊢
    exact served_publicPath hroot hw hfile hservable
  rw [isRoot_iff hroot]
  cases href with
  | ofCopy hcopy => exact ⟨iff_of_true (hpublic rfl) (.inl rfl), fun hnot => absurd (hpublic rfl) hnot⟩
  | ofImport himport =>
    have hf := habs himport
    have hiff := served_slashed_iff hroot hf hw hfile hservable
    refine ⟨⟨fun hserved => .inr (hiff.mp hserved), ?_⟩, fun hnot hlinkless hup q hq => ?_⟩
    · rintro (hwritten | hnone)
      · exact hpublic hwritten
      · exact hiff.mpr hnone
    · exact locate_slashed_ne hroot hf hw hfile hlinkless hup (fun hnone => hnot (hiff.mpr hnone)) hq

/-- A deck in a directory of its own, with a component and the local copy of a picture. -/
def deckBelow : Disk where
  entries := (Pipeline.smallDisk []).entries ++
    [(["deck"], .directory), (["deck", "slides.md"], .file "# One\n".toUTF8),
      (["deck", "components"], .directory),
      (["deck", "components", "Card.vue"], .file "<template/>\n".toUTF8),
      (["deck", ".slidev"], .directory), (["deck", ".slidev", "remote-assets"], .directory),
      (["deck", ".slidev", "remote-assets", "a.png"], .file ⟨#[137]⟩)]

/-- The copy of the picture. -/
def pictureFile : Path := ⟨"/deck/.slidev/remote-assets/a.png"⟩

/-- The file of the component. -/
def cardFile : Path := ⟨"/deck/components/Card.vue"⟩

/-- A project whose cache has the picture. -/
def deckBelowProject : Project :=
  { Pipeline.smallProject [] with
    entry := ⟨"/deck/slides.md"⟩
    cache := some fun d url =>
      if d.isFile pictureFile then .ok pictureFile else .error (.validation (.offline url)) }

theorem assemble_of_start {d : Disk} {r : Project} {sync : Bool} {s : Session}
    (h : start d r sync = .ok s) : Pipeline.assemble d r = .ok s.pipeline := by
  obtain ⟨p, hp, rfl⟩ := exists_of_start h
  exact hp

/-- The copy of the picture is served under its path below the directory of the deck. -/
theorem picture_served :
    ∃ s, start deckBelow deckBelowProject false = .ok s ∧
      s.pipeline.cache deckBelow "https://e.org/a.png" = .ok pictureFile ∧
      Served deckBelow s (Asset.publicPath s.pipeline.rewriter.deckRoot pictureFile) pictureFile := by
  obtain ⟨s, hs, hrun⟩ := Pipeline.exists_ok (start deckBelow deckBelowProject false)
    (fun s =>
      ((s.pipeline.cache deckBelow "https://e.org/a.png").toOption.any fun f => f.text = pictureFile.text) &&
      decide (Asset.publicPath s.pipeline.rewriter.deckRoot pictureFile =
        "/.slidev/remote-assets/a.png") &&
      decide (s.pipeline.layout.deckRoot.text = "/deck") &&
      Server.isServable deckBelow (servedRoots s.pipeline) pictureFile)
    (by decide +kernel)
  simp only [Bool.and_eq_true, decide_eq_true_eq] at hrun
  obtain ⟨⟨⟨hcache, hpublic⟩, hdir⟩, hservable⟩ := hrun
  obtain ⟨f, hf, htext⟩ := Pipeline.exists_ok _ _ hcache
  have hcopy : s.pipeline.cache deckBelow "https://e.org/a.png" = .ok pictureFile := by
    rw [hf, eq_of_text (of_decide_eq_true htext)]
  have hroot : s.pipeline.layout.deckRoot = ⟨"/deck"⟩ := eq_of_text hdir
  have hasks : AsksForFile (Asset.publicPath s.pipeline.rewriter.deckRoot pictureFile) := by
    rw [hpublic]
    exact ⟨by decide, by decide, by decide⟩
  have hmark : ¬ mark.toList <+: (Asset.publicPath s.pipeline.rewriter.deckRoot pictureFile).toList := by
    rw [hpublic]
    decide +kernel
  have hw : Unambiguous s.pipeline pictureFile
      (Asset.publicPath s.pipeline.rewriter.deckRoot pictureFile) := by
    refine ⟨hasks, fun h => absurd h hmark, by decide, fun q hq => ?_, ?_⟩
    · rw [requestedFile?_unmarked hasks hmark] at hq
      rw [← Option.some.inj hq, hpublic, fileBelow, hroot]
      decide +kernel
    · rw [hroot]
      decide +kernel
  have hserved := reference_served_iff ⟨s.pipeline.layout, [], [], [], []⟩ (assemble_of_start hs)
    (.ofCopy hcopy) (fun _ => by decide) hw (by decide) hservable
  exact ⟨s, hs, hcopy, hserved.1.mpr (.inl rfl)⟩

/-- No session of the sample deck serves the component, although it is there, may be served, and is what
the tag of the component is resolved to, so that its path stands in generated code. -/
theorem card_not_served :
    ∃ s, start deckBelow deckBelowProject false = .ok s ∧
      (∀ deck, Import deckBelow s.pipeline deck cardFile ∧ Emits deckBelow s.pipeline deck cardFile) ∧
      deckBelow.isFile cardFile ∧ Server.isServable deckBelow (servedRoots s.pipeline) cardFile ∧
      ((servePath deckBelow cardFile.slashed).run.run s).1 = .ok none := by
  obtain ⟨s, hs, hrun⟩ := Pipeline.exists_ok (start deckBelow deckBelowProject false)
    (fun s =>
      decide ((((s.pipeline.importer.findFile? deckBelow (Component.pascalCase "Card")
        (s.pipeline.importer.searchDirs (some ⟨"/deck"⟩))).run []).1.map Path.text) = some cardFile.text) &&
      Server.isServable deckBelow (servedRoots s.pipeline) cardFile &&
      ((servePath deckBelow cardFile.slashed).run.run s).1.toOption.any Option.isNone)
    (by decide +kernel)
  simp only [Bool.and_eq_true, decide_eq_true_eq] at hrun
  obtain ⟨⟨hfound, hservable⟩, hnone⟩ := hrun
  obtain ⟨f, hf, htext⟩ := Option.map_eq_some_iff.mp hfound
  obtain ⟨content, hcontent, hnone⟩ := Pipeline.exists_ok _ _ hnone
  rw [Option.isNone_iff_eq_none.mp hnone] at hcontent
  rw [eq_of_text htext] at hf
  have himport (deck : Presentation) : Import deckBelow s.pipeline deck cardFile := .component hf
  exact ⟨s, hs, fun deck => ⟨himport deck, (himport deck).emits⟩, by decide, hservable, hcontent⟩

end Session

end DeckPress
