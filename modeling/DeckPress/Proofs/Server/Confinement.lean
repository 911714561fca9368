import DeckPress.Proofs.Disk.Canonical
import DeckPress.Proofs.Server.Following
import DeckPress.Proofs.Server.References

/-!
# Files are served from certain directories only

There are three kinds of paths that something is served under. Two of them start the application, a generated
module has its ids, and all others stand for a file. The path of a generated module only says which module is
asked for, and no file is looked for there. What the module says comes from the deck, and so from the files that
the deck imports, wherever they are; but these are the deck's to name, and no request can.

For all other paths, what is looked at before a file is read is where its canonical path is: dots and links are
gone from it, and so it does not matter how the request was written, whether it was marked or not, and what
links there are inside the directories or lead out of them. The place where the file is read is the one that was
looked at, and it is below one of the four directories of the project, name by name.
-/

namespace DeckPress.Session

open Text DeckPress.Path

variable {d : Disk} {s s' : Session} {w : String} {f : Path} {content : Content}

/-! ## Generated modules -/

/-- The code of a generated module. -/
def codeOf (p : Pipeline) (d : Disk) : ModuleId → Pipeline.Work (Option String)
  | .stylesheet => do return p.stylesheet (← get)
  | .sharedState => do return (← get).shared.moduleCode
  | .element name => return Component.Element.moduleCode name
  | module => do
    let deck ← p.presentation d
    ExceptT.mk (pure (deck.provide? d p.options.markdown.monaco module))

/-- What is served as a generated module. -/
def generated (d : Disk) (module : ModuleId) : ExceptT Error (StateM Session) (Option Content) := do
  match ← onPipeline (codeOf · d module) with
  | none => return none
  | some code =>
    match module with
    | .slide _ => return some (.ofText (← transform d module.text code) Server.scriptType)
    | .stylesheet => return some (.ofText code "text/css")
    | _ => return some (.ofText code Server.scriptType)

theorem load_eq_codeOf (p : Pipeline) (d : Disk) {m : ModuleId} (h : ModuleId.parse? w = some m) :
    p.load d w = codeOf p d m := by
  unfold Pipeline.load
  rw [h]
  cases m <;> rfl

/-- A path only says which module is asked for. -/
theorem serveModule_eq (d : Disk) {m : ModuleId} (h : ModuleId.parse? w = some m) :
    serveModule d m w = generated d m := by
  have hload : (fun p : Pipeline => p.load d w) = (codeOf · d m) := funext fun p => load_eq_codeOf p d h
  unfold serveModule generated
  rewrite [hload]
  cases m <;> rfl

/-! ## Files -/

/-- What is made of the bytes of a file: they are served as they are, or a run of their text yields code. -/
inductive MadeOf (d : Disk) (s : Session) (f : Path) (bytes : ByteArray) : Content → Session → Prop where
  | stored : FileKind.ofId f.text = .other → MadeOf d s f bytes ⟨bytes, Server.contentType f⟩ s
  | run {source code : String} {s' : Session} :
      FileKind.ofId f.text ≠ .other → String.fromUTF8? bytes = some source →
      (transform d f.text source).run.run s = (.ok code, s') →
      MadeOf d s f bytes (.ofText code (Server.contentType f)) s'

/-- A file is below one of these directories: its canonical path starts with that of the directory. -/
def Below (d : Disk) (roots : List Path) (f : Path) : Prop :=
  ∃ root ∈ roots, ∃ r c, d.canonicalize root = .ok r ∧ d.canonicalize f = .ok c ∧
    r.components <+: c.components

theorem isServable_iff {roots : List Path} : Server.isServable d roots f ↔ Below d roots f := by
  unfold Server.isServable Below
  cases hf : d.canonicalize f with
  | error e => exact ⟨nofun, fun ⟨_, _, _, _, _, h, _⟩ => nomatch h⟩
  | ok c =>
    dsimp only
    rw [List.any_eq_true]
    constructor
    · rintro ⟨r, hr, hstarts⟩
      obtain ⟨root, hroot, hsome⟩ := List.mem_filterMap.mp hr
      cases hcanonical : d.canonicalize root with
      | error e => rw [hcanonical] at hsome; cases hsome
      | ok r' =>
        rw [hcanonical] at hsome
        cases hsome
        exact ⟨root, hroot, r, c, hcanonical, rfl, Disk.startsWith_iff.mp hstarts⟩
    · rintro ⟨root, hroot, r, c', hr, hc, hprefix⟩
      cases hc
      refine ⟨r, List.mem_filterMap.mpr ⟨root, hroot, ?_⟩, Disk.startsWith_iff.mpr hprefix⟩
      rw [hr]
      rfl

/-- The place where such a file is found is below the place of the directory, name by name. -/
theorem Below.place {roots : List Path} {l : Location} (h : Below d roots f) (hl : d.resolve f = .ok l)
    (hstart : Disk.Plain d.workingDirectory) : ∃ root ∈ roots, ∃ r, d.resolve root = .ok r ∧ r <+: l := by
  obtain ⟨root, hroot, r, c, hr, hc, hprefix⟩ := h
  obtain ⟨r, hresolved, rfl⟩ := Disk.canonicalize_eq_ok.mp hr
  obtain ⟨l', hl', rfl⟩ := Disk.canonicalize_eq_ok.mp hc
  rw [hl] at hl'
  cases hl'
  have hplain := Disk.plain_of_resolve hstart hresolved
  exact ⟨root, hroot, r, hresolved,
    (Disk.components_pathOf_prefix hplain (Disk.plain_of_resolve hstart hl)).mp hprefix⟩

theorem fileContent_eq_ok {l : Location} {bytes : ByteArray} (hl : d.locate f = .ok l)
    (hentry : d.entry? l = some (.file bytes)) :
    (fileContent d f f).run.run s = (.ok content, s') ↔ MadeOf d s f bytes content s' := by
  have hbytes : d.readBytes f = .ok bytes := by
    unfold Disk.readBytes
    rw [hl]
    dsimp only [bind, Except.bind]
    rw [hentry]
  unfold fileContent
  by_cases hkind : FileKind.ofId f.text = .other
  · rw [if_pos hkind, hbytes]
    constructor
    · intro h
      cases h
      exact .stored hkind
    · rintro (_ | ⟨hnot, _, _⟩)
      · rfl
      · exact absurd hkind hnot
  · rw [if_neg hkind, Pipeline.bind_eq_ok]
    have htext : ∀ source, d.readText f = .ok source ↔ String.fromUTF8? bytes = some source := by
      intro source
      unfold Disk.readText
      rw [hbytes]
      dsimp only [bind, Except.bind]
      cases String.fromUTF8? bytes <;> simp
    constructor
    · rintro ⟨source, s₁, hread, hrun⟩
      obtain ⟨code, s₂, htransform, hcontent⟩ := Pipeline.bind_eq_ok.mp hrun
      cases hsource : d.readText f with
      | error e => rw [hsource] at hread; cases hread
      | ok source' =>
        rw [hsource] at hread
        cases hread
        cases hcontent
        exact .run hkind ((htext source).mp hsource) htransform
    · rintro (hother | ⟨_, hsource, htransform⟩)
      · exact absurd hother hkind
      · rw [(htext _).mpr hsource]
        exact ⟨_, s, rfl, Pipeline.bind_eq_ok.mpr ⟨_, s', htransform, rfl⟩⟩

theorem serveFile_eq_none (h : ¬ (d.isFile f ∧ Server.isServable d (servedRoots s.pipeline) f)) :
    (serveFile d f).run.run s = (.ok none, s) := by
  have hrefused : (!d.isFile f || !Server.isServable d (servedRoots s.pipeline) f) = true := by
    rw [Bool.or_eq_true, Bool.not_eq_true', Bool.not_eq_true', ← Bool.not_eq_true, ← Bool.not_eq_true]
    exact Decidable.not_and_iff_not_or_not.mp h
  unfold serveFile
  rw [Pipeline.get_bind]
  dsimp only
  rw [if_pos hrefused]
  rfl

/-- What a file is served as, and that it is a file below one of the directories. -/
theorem serveFile_eq_ok :
    (serveFile d f).run.run s = (.ok (some content), s') ↔
      ∃ l bytes, d.locate f = .ok l ∧ d.entry? l = some (.file bytes) ∧
        MadeOf d s f bytes content s' ∧ Below d (servedRoots s.pipeline) f := by
  by_cases hfound : d.isFile f ∧ Server.isServable d (servedRoots s.pipeline) f
  · obtain ⟨hfile, hservable⟩ := hfound
    obtain ⟨l, bytes, hl, hentry⟩ := d.isFile_iff.mp hfile
    rw [serveFile_eq rfl rfl hfile hservable, map_eq_pure_bind, Pipeline.bind_eq_ok]
    constructor
    · rintro ⟨content', s₁, hcontent, hsome⟩
      cases hsome
      exact ⟨l, bytes, hl, hentry, (fileContent_eq_ok hl hentry).mp hcontent, isServable_iff.mp hservable⟩
    · rintro ⟨l', bytes', hl', hentry', hmade, -⟩
      exact ⟨content, s', (fileContent_eq_ok hl' hentry').mpr hmade, rfl⟩
  · rw [serveFile_eq_none hfound]
    refine ⟨nofun, fun ⟨l, bytes, hl, hentry, _, hbelow⟩ => ?_⟩
    exact absurd ⟨d.isFile_iff.mpr ⟨l, bytes, hl, hentry⟩, isServable_iff.mpr hbelow⟩ hfound

/-! ## Paths -/

theorem noModule_of_page (h : w = "/" ∨ w = "/index.html") : ModuleId.parse? w = none := by
  rcases h with rfl | rfl
  · decide
  · decide

theorem servePath_page (h : w = "/" ∨ w = "/index.html") :
    (servePath d w).run.run s = (.ok (some (.ofText indexPage "text/html")), s) := by
  unfold servePath
  rw [if_pos (by simpa using h)]
  rfl

theorem servePath_module {m : ModuleId} (h : ModuleId.parse? w = some m) :
    (servePath d w).run.run s = (generated d m).run.run s := by
  have hpage : ¬ (w = "/" ∨ w = "/index.html") := by
    intro hpage
    rw [noModule_of_page hpage] at h
    cases h
  unfold servePath
  rw [if_neg (by simpa using hpage), h]
  dsimp only
  rw [serveModule_eq d h]

/-- A path that leads upwards stands for no file. -/
theorem servePath_up (hpage : ¬ (w = "/" ∨ w = "/index.html")) (hmodule : ModuleId.parse? w = none)
    (hup : requestedFile? s.pipeline w = none) : (servePath d w).run.run s = (.ok none, s) := by
  unfold servePath
  rw [if_neg (by simpa using hpage), hmodule]
  dsimp only
  rw [Pipeline.get_bind, hup]
  rfl

theorem noUp_of_requestedFile? {p : Pipeline} (h : requestedFile? p w = some f) :
    ['.', '.'] ∉ splitOn (· = '/') w.toList := by
  intro hup
  unfold requestedFile? at h
  rw [if_pos (List.contains_iff_mem.mpr hup)] at h
  cases h

/--
**What is served as a file is below one of the directories of the project.**

Something is served under a path in exactly three cases. The path asks for the page. Or it is an id of a generated
module, and what is served is generated for the module, however the id is written. Or it is neither and does
not lead upwards, the path of the file that it stands for leads to a file, the canonical path of that file
starts with the canonical path of the deck's directory, the theme's, the client's or that of the cache, and what
is served is made of the bytes of that file. Where the working directory has a proper path, the place of the
file is then below the place of the directory.
-/
theorem served_iff_confined (d : Disk) (s : Session) (w : String) (content : Content) (s' : Session) :
    (servePath d w).run.run s = (.ok (some content), s') ↔
      (w = "/" ∨ w = "/index.html") ∧ content = .ofText indexPage "text/html" ∧ s' = s ∨
      (∃ m, ModuleId.parse? w = some m ∧ (generated d m).run.run s = (.ok (some content), s')) ∨
      AsksForFile w ∧ ∃ f l bytes, requestedFile? s.pipeline w = some f ∧
        d.locate f = .ok l ∧ d.entry? l = some (.file bytes) ∧ MadeOf d s f bytes content s' ∧
        Below d (servedRoots s.pipeline) f ∧
        (Disk.Plain d.workingDirectory →
          ∃ root ∈ servedRoots s.pipeline, ∃ r, d.resolve root = .ok r ∧ r <+: l) := by
  -- a path is looked at as the page first, then as an id, and only then as that of a file
  by_cases hpage : w = "/" ∨ w = "/index.html"
  · have hmodule := noModule_of_page hpage
    rw [servePath_page hpage]
    constructor
    · intro h
      cases h
      exact .inl ⟨hpage, rfl, rfl⟩
    · rintro (⟨-, rfl, rfl⟩ | ⟨m, hm, -⟩ | ⟨hasks, -⟩)
      · rfl
      · rw [hmodule] at hm
        cases hm
      · exact absurd hpage hasks.noPage
  cases hmodule : ModuleId.parse? w with
  | some m =>
    rw [servePath_module hmodule]
    constructor
    · exact fun h => .inr (.inl ⟨m, rfl, h⟩)
    · rintro (⟨h, -⟩ | ⟨m', hm', h⟩ | ⟨hasks, -⟩)
      · exact absurd h hpage
      · cases hm'
        exact h
      · exact absurd (hmodule.symm.trans hasks.noModule) nofun
  | none =>
    cases hfile : requestedFile? s.pipeline w with
    | none =>
      rw [servePath_up hpage hmodule hfile]
      refine ⟨nofun, ?_⟩
      rintro (⟨h, -⟩ | ⟨m, hm, -⟩ | ⟨-, f, -, -, hf, -⟩)
      · exact absurd h hpage
      · cases hm
      · cases hf
    | some f =>
      have hasks : AsksForFile w := ⟨hpage, hmodule, noUp_of_requestedFile? hfile⟩
      rw [servePath_eq hasks hfile, serveFile_eq_ok]
      constructor
      · rintro ⟨l, bytes, hl, hentry, hmade, hbelow⟩
        exact .inr (.inr ⟨hasks, f, l, bytes, rfl, hl, hentry, hmade, hbelow,
          hbelow.place (Disk.resolve_of_locate hl)⟩)
      · rintro (⟨h, -⟩ | ⟨m, hm, -⟩ | ⟨-, f', l, bytes, hf', hl, hentry, hmade, hbelow, -⟩)
        · exact absurd h hpage
        · cases hm
        · cases hf'
          exact ⟨l, bytes, hl, hentry, hmade, hbelow⟩

/-- A link that leads out of the deck, a directory whose name only starts like the deck's, and a link from there
into the deck. -/
def deckWithLinks : Disk where
  entries := deckBelow.entries ++
    [(["deck", "out"], .link ⟨"../deck2"⟩), (["deck2"], .directory), (["deck2", "key"], .file "".toUTF8),
      (["deck2", "in"], .link ⟨"/deck/components"⟩)]

example :
    (Server.isServable deckWithLinks [⟨"/deck"⟩] ⟨"/deck/out/key"⟩,
      Server.isServable deckWithLinks [⟨"/deck"⟩] ⟨"/deck2/key"⟩,
      Server.isServable deckWithLinks [⟨"/deck"⟩] ⟨"/deck2//in/./Card.vue"⟩) = (false, false, true) := by
  decide +kernel

end DeckPress.Session
