import DeckPress.Proofs.Module.Imports

/-!
# Setup files

A deck is set up by the usual file of its theme, then by its own, then by those it declares. A declared file
that is on the list is not put there again. The two usual ones are not compared with each other, and they are
one file where the theme is the directory of the deck. Otherwise no file is on the list twice, and the setup
imports and calls each once, in order.
-/

namespace DeckPress.Presentation

open Text ImportStatement

/-! ## Lists without repetition -/

/-- What is put behind a list of files, of those that are offered. -/
structure Adds (ps offered added : List Path) : Prop where
  /-- They keep the order in which they are offered. -/
  order : added.Sublist offered
  once : (added.map Path.components).Nodup
  new : ∀ a ∈ added, a.components ∉ ps.map Path.components
  /-- Each that is offered is there in the end. -/
  all : ∀ q ∈ offered, q.components ∈ (ps ++ added).map Path.components

theorem contains_iff {ps : List Path} {p : Path} :
    ps.contains p = true ↔ p.components ∈ ps.map Path.components := by
  rw [List.contains_iff_exists_mem_beq, List.mem_map]
  exact exists_congr fun q => and_congr_right' (Path.beq_iff.trans eq_comm)

theorem adds_nil (ps : List Path) : Adds ps [] [] :=
  ⟨List.Sublist.slnil, List.nodup_nil, fun _ h => absurd h List.not_mem_nil, fun _ h => absurd h List.not_mem_nil⟩

theorem Adds.known {ps offered added : List Path} {p : Path} (h : Adds ps offered added)
    (hp : p.components ∈ ps.map Path.components) : Adds ps (p :: offered) added where
  order := h.order.cons p
  once := h.once
  new := h.new
  all q hq := by
    rcases List.mem_cons.mp hq with rfl | hq
    · rw [List.map_append]
      exact List.mem_append_left _ hp
    · exact h.all q hq

theorem Adds.cons {ps offered added : List Path} {p : Path} (h : Adds (ps ++ [p]) offered added)
    (hp : p.components ∉ ps.map Path.components) : Adds ps (p :: offered) (p :: added) where
  order := h.order.cons_cons p
  once := by
    rw [List.map_cons, List.nodup_cons]
    refine ⟨fun hmem => ?_, h.once⟩
    obtain ⟨a, ha, hap⟩ := List.mem_map.mp hmem
    refine h.new a ha ?_
    rw [hap, List.map_append]
    exact List.mem_append_right _ (List.mem_singleton.mpr rfl)
  new a ha := by
    rcases List.mem_cons.mp ha with rfl | ha
    · exact hp
    · intro hmem
      refine h.new a ha ?_
      rw [List.map_append]
      exact List.mem_append_left _ hmem
  all q hq := by
    rcases List.mem_cons.mp hq with rfl | hq
    · exact List.mem_map_of_mem (List.mem_append_right _ List.mem_cons_self)
    · have hall := h.all q hq
      rwa [List.append_assoc, List.singleton_append] at hall

/-- Files that are added one by one are put behind those on the list, each once. -/
theorem foldl_addPath (offered ps : List Path) :
    ∃ added, offered.foldl addPath ps = ps ++ added ∧ Adds ps offered added := by
  induction offered generalizing ps with
  | nil => exact ⟨[], (List.append_nil ps).symm, adds_nil ps⟩
  | cons p offered ih =>
    rw [List.foldl_cons, addPath]
    by_cases hp : ps.contains p
    · rw [if_pos hp]
      obtain ⟨added, hfold, hadds⟩ := ih ps
      exact ⟨added, hfold, hadds.known (contains_iff.mp hp)⟩
    · rw [if_neg hp]
      obtain ⟨added, hfold, hadds⟩ := ih (ps ++ [p])
      refine ⟨p :: added, ?_, hadds.cons (mt contains_iff.mpr hp)⟩
      rw [hfold, List.append_assoc, List.singleton_append]

/-- Nothing that is added repeats what is there. -/
theorem Adds.nodup_iff {ps offered added : List Path} (h : Adds ps offered added) :
    ((ps ++ added).map Path.components).Nodup ↔ (ps.map Path.components).Nodup := by
  rw [List.map_append, List.nodup_append']
  refine ⟨fun hall => hall.1, fun hps => ⟨hps, h.once, fun c hc hadded => ?_⟩⟩
  obtain ⟨a, ha, rfl⟩ := List.mem_map.mp hadded
  exact h.new a ha hc

/-! ## Usual places -/

/-- Where a setup file is looked for in a directory. -/
def usualSetup (root : Path) : Path := root / "setup/main.ts"

/-- The setup files in their usual places. -/
def usualSetups (d : Disk) (l : Layout) : List Path :=
  [usualSetup l.themeRoot, usualSetup l.deckRoot].filter d.isFile

/-- The theme is the directory of the deck, and a setup file is there. -/
structure SharesSetup (d : Disk) (l : Layout) : Prop where
  roots : l.themeRoot == l.deckRoot
  theme : d.isFile (usualSetup l.themeRoot)
  deck : d.isFile (usualSetup l.deckRoot)

theorem components_usualSetup (root : Path) :
    (usualSetup root).components = root.components ++ [.name "setup", .name "main.ts"] := by
  have hnames : (Path.mk "setup/main.ts").components = Path.names "setup/main.ts".toList := by decide
  have hlast : Path.names "setup/main.ts".toList = [.name "setup", .name "main.ts"] := by decide
  rw [usualSetup, Path.components_join_names root (by decide) hnames, hlast]

theorem nodup_usualSetups {d : Disk} {l : Layout} :
    ((usualSetups d l).map Path.components).Nodup ↔ ¬ SharesSetup d l := by
  have hsame : (usualSetup l.themeRoot).components = (usualSetup l.deckRoot).components ↔
      (l.themeRoot == l.deckRoot) = true := by
    rw [components_usualSetup, components_usualSetup, List.append_left_inj, Path.beq_iff]
  unfold usualSetups
  by_cases htheme : d.isFile (usualSetup l.themeRoot)
  · by_cases hdeck : d.isFile (usualSetup l.deckRoot)
    · rw [List.filter_cons_of_pos htheme, List.filter_cons_of_pos hdeck, List.filter_nil]
      simp only [List.map_cons, List.map_nil, List.nodup_cons, List.mem_singleton, List.not_mem_nil, not_false_eq_true,
        List.nodup_nil, and_true, hsame]
      exact not_congr ⟨fun h => ⟨h, htheme, hdeck⟩, fun h => h.roots⟩
    · rw [List.filter_cons_of_pos htheme, List.filter_cons_of_neg hdeck]
      exact iff_of_true (List.nodup_singleton _) fun h => hdeck h.deck
  · refine iff_of_true ?_ fun h => htheme h.theme
    rw [List.filter_cons_of_neg htheme]
    exact (List.nodup_singleton _).sublist (List.filter_sublist.map _)

/-! ## Calls -/

/-- The name that a line calls. -/
def callOf? (line : List Char) : Option String := do
  let rest ← stripPrefix? "  ".toList line
  let name ← stripSuffix? "(app)".toList rest
  return String.ofList name

variable {p : Presentation}

theorem callOf?_setupCall (i : Nat) : callOf? (setupCall i) = some ("setup" ++ toString i) := by
  have hopening : "  setup".toList = "  ".toList ++ "setup".toList := by decide
  unfold callOf? setupCall
  rw [hopening, List.append_assoc, stripPrefix?_append, Option.bind_eq_bind, Option.bind_some, ← List.append_assoc,
    stripSuffix?_append, Option.bind_some, ← String.toList_append, String.ofList_toList]
  rfl

theorem callOf?_text (name : Option String) (file : String) : callOf? (text name file) = none := rfl

theorem calls_setupBody : (readLines callOf? p.setupBody).map some = p.setupImports.map Prod.fst := by
  rw [readLines_setupBody (by decide) (by decide), setupImports, List.map_map]
  simp only [callOf?_setupCall, Option.toList_some, ← List.map_eq_flatMap, List.map_map]
  rfl

/-- Imports that are lines call nothing. -/
theorem calls_eq {d : Disk} {code : String} (h : setups d p = .ok code)
    (hfits : ∀ e ∈ p.setupImports, Literal.Fits e.2.toList) :
    readLines callOf? code = readLines callOf? p.setupBody := by
  have himport : ∀ e ∈ p.setupImports, readLines callOf? (importLine e.1 e.2) = [] := by
    intro e he
    have hline : IsLine (text e.1 e.2) := by
      obtain ⟨x, -, rfl⟩ := List.mem_map.mp he
      refine isLine_text (fun n hn => ?_) (hfits _ he)
      cases hn
      exact (setupName_plain x.1).1 '\n' (by decide)
    rw [readLines_line (ImportStatement.toList_importLine e.1 e.2) hline, callOf?_text]
    rfl
  rw [setups_eq_ok h, readLines_join (fun e => getLast?_importLine e.1 e.2) p.setupImports p.setupBody,
    List.flatMap_eq_nil_iff.mpr himport, List.nil_append]

theorem setupNames_nodup : (p.setupImports.map Prod.fst).Nodup := by
  have hnames : p.setupImports.map Prod.fst =
      ((numberFrom 0 p.setupFiles).map Prod.fst).map fun i => some ("setup" ++ toString i) := by
    rw [setupImports, List.map_map, List.map_map]
    rfl
  rw [hnames, map_fst_numberFrom]
  refine List.Nodup.map (fun i j hij => toString_nat_injective ?_) (List.nodup_range' ..)
  exact (String.append_right_inj _).mp (Option.some.inj hij)

/-! ## Setting up -/

theorem setupFiles_of_load {d : Disk} {l : Layout} (h : load d l = .ok p) :
    p.setupFiles = findSetups d l p.headmatter := by
  obtain ⟨text, deck, -, -, rfl⟩ := load_eq h
  rfl

/-- What the setup of a presentation does. -/
structure Registers (p : Presentation) (code : String) : Prop where
  /-- Each file that is listed has a line that imports it under a name of its own, and then come the calls. -/
  text : code = String.join (p.setupImports.map fun e => importLine e.1 e.2) ++ p.setupBody
  names : (p.setupImports.map Prod.fst).Nodup
  /-- Each name is called once, in the order of the imports. -/
  calls : (readLines callOf? p.setupBody).map some = p.setupImports.map Prod.fst
  /-- If the files can stand between quotes, nothing else is imported or called. -/
  only : (∀ f ∈ p.setupFiles, Literal.Fits f.chars) →
    readLines ofLine? code = p.setupImports.map (fun e => ofFile e.1 e.2) ∧
      readLines callOf? code = readLines callOf? p.setupBody

theorem registers_of_setups {d : Disk} {code : String} (h : setups d p = .ok code) : Registers p code where
  text := setups_eq_ok h
  names := setupNames_nodup
  calls := calls_setupBody
  only hfits := by
    have hall : ∀ e ∈ p.setupImports, Literal.Fits e.2.toList := by
      intro e he
      obtain ⟨x, hx, rfl⟩ := List.mem_map.mp he
      refine Path.fits_slashed.mpr (hfits x.2 ?_)
      rw [← map_snd_numberFrom 0 p.setupFiles]
      exact List.mem_map_of_mem hx
    exact ⟨(setups_names h).all hall, calls_eq h hall⟩

/-- No setup file of a deck is listed twice, unless the theme is the directory of the deck and has one; behind
the usual files stand the declared ones that are new. The setup imports and calls what is listed, in order. -/
theorem setups_once_unless_shared {d : Disk} {l : Layout} (h : load d l = .ok p) :
    ((p.setupFiles.map Path.components).Nodup ↔ ¬ SharesSetup d l) ∧
    (∃ added, p.setupFiles = usualSetups d l ++ added ∧
      Adds (usualSetups d l) (declaredSetups p.headmatter l.deckRoot) added) ∧
    ∀ code, setups d p = .ok code → Registers p code := by
  obtain ⟨added, hfold, hadds⟩ :=
    foldl_addPath (declaredSetups p.headmatter l.deckRoot) (usualSetups d l)
  have hfiles : p.setupFiles = usualSetups d l ++ added := (setupFiles_of_load h).trans hfold
  refine ⟨?_, ⟨added, hfiles, hadds⟩, fun code hcode => registers_of_setups hcode⟩
  rw [hfiles, hadds.nodup_iff, nodup_usualSetups]

/-- A deck in the directory of its theme. -/
def ownThemeDisk : Disk where
  entries := [(["slides.md"], .file "# One\n".toUTF8), (["setup"], .directory),
    (["setup", "main.ts"], .file "".toUTF8), (["node_modules"], .directory),
    (["node_modules", "@slidev"], .directory), (["node_modules", "@slidev", "client"], .directory)]

/-- Where the theme is the directory of the deck, its setup file is imported and called twice. -/
theorem setup_of_own_theme_twice :
    ((Layout.resolve ownThemeDisk ⟨"/slides.md"⟩ (some "./") none).toOption.bind fun l =>
      (load ownThemeDisk l).toOption.bind fun p => (setups ownThemeDisk p).toOption.map fun code =>
        (decide (p.setupFiles.map Path.components).Nodup, p.setupImports.map Prod.snd, readLines callOf? code)) =
      some (false, ["/setup/main.ts", "/setup/main.ts"], ["setup0", "setup1"]) := by
  decide +kernel

theorem setups_once_unless_shared_talk :
    ∃ p code, load (deckDisk "talk") (deckIn "talk") = .ok p ∧ (p.setupFiles.map Path.components).Nodup ∧
      setups (deckDisk "talk") p = .ok code ∧ p.setupImports.map Prod.snd = ["/talk/setup/main.ts"] ∧
      (readLines callOf? p.setupBody).map some = [some "setup0"] := by
  have hseen : ((load (deckDisk "talk") (deckIn "talk")).toOption.any fun p =>
      p.setupImports = [(some "setup0", "/talk/setup/main.ts")] ∧
        (setups (deckDisk "talk") p).toOption.isSome) = true := by
    decide +kernel
  have hapart : ¬ SharesSetup (deckDisk "talk") (deckIn "talk") := fun h => absurd h.roots (by decide +kernel)
  cases hload : load (deckDisk "talk") (deckIn "talk") with
  | error e =>
    rw [hload] at hseen
    cases hseen
  | ok p =>
    rw [hload] at hseen
    obtain ⟨himports, hsome⟩ := of_decide_eq_true hseen
    obtain ⟨honce, -, hregisters⟩ := setups_once_unless_shared hload
    cases hcode : setups (deckDisk "talk") p with
    | error e =>
      rw [hcode] at hsome
      cases hsome
    | ok code =>
      refine ⟨p, code, rfl, honce.mpr hapart, hcode, ?_, ?_⟩
      · rw [himports]
        rfl
      · rw [(hregisters code hcode).calls, himports]
        rfl

end DeckPress.Presentation
