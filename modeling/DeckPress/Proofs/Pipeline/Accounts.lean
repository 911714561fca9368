import DeckPress.Proofs.Module.Slides
import DeckPress.Proofs.Pipeline.Containment
import DeckPress.Proofs.Style.Scope

/-!
# What a build accounts for

A build has one job for each shown slide, in order, and one for each scanned file but the deck, in the
order of paths. Whatever the jobs come to, as long as each comes to its fault or to an artifact of its
file, the build accounts for each of them once. Three places enumerate the slides: the jobs, the list of
slides and the numbers of the shown slides; they agree, since all three read one presentation.
-/

namespace DeckPress

namespace Presentation

/-- The shown slides are numbered 1, 2, and so on. -/
theorem map_fst_visible (p : Presentation) :
    p.visible.map Prod.fst = List.range' 1 p.visible.length := by
  have h := map_fst_numberFrom 1 (p.slides.filter fun s => !s.source.isHidden)
  have hlength := congrArg List.length h
  rw [List.length_map, List.length_range'] at hlength
  unfold visible
  rw [h, hlength]

end Presentation

namespace Pipeline

variable {p : Pipeline} {d : Disk}

/-! ## The jobs -/

variable (p d) in
/-- The ids of the shown slides; there are none if the deck cannot be read. -/
def slideIds : List String :=
  match Presentation.load d p.layout with
  | .ok deck => (List.range' 1 deck.visible.length).map fun number => ModuleId.text (.slide number)
  | .error _ => []

theorem deckJobs_fileId {slides : List Job} (h : p.deckJobs d = .ok slides) :
    slides.map Job.fileId = p.slideIds d := by
  unfold deckJobs at h
  unfold slideIds
  cases hl : Presentation.load d p.layout with
  | error e =>
    rw [hl] at h
    cases h
    rfl
  | ok deck =>
    rw [hl] at h
    dsimp only
    rw [slideJobs_fileId h, ← deck.map_fst_visible, List.map_map]
    rfl

theorem fileJobs_fileId : (p.fileJobs d).map Job.fileId =
    ((p.scope.files d).filter fun file => !(file == p.layout.entry)).map Path.text := by
  rw [fileJobs, List.map_map]
  rfl

/-- A failure is recorded for the jobs with a fault. -/
theorem failure?_fileId (jobs : List Job) :
    (jobs.filterMap p.failure?).map BuildFailure.fileId =
      (jobs.filter fun job => !(p.jobFault job).isNone).map Job.fileId := by
  induction jobs with
  | nil => rfl
  | cons job jobs ih => cases hf : p.jobFault job <;> simp [failure?, hf, ih]

/-! ## The modules -/

/-- The texts of a deck are there only if each of its modules could be made. -/
theorem deckTexts_ok {deck : Presentation} {texts : List (ModuleId × String)}
    (h : p.deckTexts d deck = .ok texts) :
    (∀ m ∈ ModuleId.deckModules, ∃ text, deck.provide? d p.options.markdown.monaco m = .ok text) ∧
      ∀ m code, (m, code) ∈ texts ↔
        m ∈ ModuleId.deckModules ∧ deck.provide? d p.options.markdown.monaco m = .ok (some code) := by
  have hnamed : ∀ (m : ModuleId) (named : Option (ModuleId × String)),
      (do return (← deck.provide? d p.options.markdown.monaco m).map (m, ·)) = Except.ok named ↔
        ∃ text, deck.provide? d p.options.markdown.monaco m = .ok text ∧ named = text.map (m, ·) := by
    intro m named
    cases deck.provide? d p.options.markdown.monaco m <;>
      simp [bind, Except.bind, pure, Except.pure, eq_comm]
  unfold deckTexts at h
  cases hm : ModuleId.deckModules.mapM (fun m => do
      return (← deck.provide? d p.options.markdown.monaco m).map (m, ·) :
        ModuleId → Except Error (Option (ModuleId × String))) with
  | error e =>
    rw [hm] at h
    cases h
  | ok found =>
    rw [hm] at h
    cases h
    refine ⟨fun m hmodule => ?_, fun m code => ?_⟩
    · obtain ⟨named, hn⟩ := mapM_ok hm m hmodule
      obtain ⟨text, htext, -⟩ := (hnamed m named).mp hn
      exact ⟨text, htext⟩
    · rw [List.mem_filterMap]
      simp only [mem_of_mapM_ok hm, id_eq, exists_eq_right, hnamed]
      constructor
      · rintro ⟨m', hmodule, text, htext, hn⟩
        obtain ⟨code', rfl, hpair⟩ := Option.map_eq_some_iff.mp hn.symm
        cases hpair
        exact ⟨hmodule, htext⟩
      · rintro ⟨hmodule, htext⟩
        exact ⟨m, hmodule, some code, htext, rfl⟩

theorem mem_elementModules {artifacts : List Artifact} {m : ModuleId} {code : String} :
    (m, code) ∈ elementModules artifacts ↔ ∃ element ∈ Component.Element.names,
      m = .element element ∧ code = Component.Element.moduleCode element ∧
      ∃ a ∈ artifacts, ∃ before after, a.code = before ++ "'" ++ m.text ++ "'" ++ after := by
  have hquoted : ∀ (a : Artifact) (m : ModuleId),
      Text.containsText ('\'' :: m.text.toList ++ ['\'']) a.code.toList ↔
        ∃ before after, a.code = before ++ "'" ++ m.text ++ "'" ++ after := by
    intro a m
    rw [Text.containsText_iff]
    constructor
    · rintro ⟨before, after, h⟩
      refine ⟨String.ofList before, String.ofList after, String.toList_inj.mp ?_⟩
      simpa using h.symm
    · rintro ⟨before, after, h⟩
      refine ⟨before.toList, after.toList, ?_⟩
      simp [h]
  unfold elementModules
  rw [List.mem_filterMap]
  constructor
  · rintro ⟨element, helement, h⟩
    dsimp only at h
    split at h
    · rename_i hany
      cases h
      obtain ⟨a, ha, hcontains⟩ := List.any_eq_true.mp hany
      exact ⟨element, helement, rfl, rfl, a, ha, (hquoted a _).mp hcontains⟩
    · cases h
  · rintro ⟨element, helement, rfl, rfl, a, ha, hcode⟩
    refine ⟨element, helement, ?_⟩
    dsimp only
    rw [if_pos (List.any_eq_true.mpr ⟨a, ha, (hquoted a _).mpr hcode⟩)]

/-! ## The whole build -/

/-- What a build is made of. -/
theorem yield_eq_ok {results : List (String × Except Error Artifact)} {s : State} {b : Build}
    (h : p.yield d results s = .ok b) :
    ∃ artifacts failures texts, sortResults results = .ok (artifacts, failures) ∧
      p.buildTexts d = .ok texts ∧ b.artifacts = artifacts ∧
      b.failures = p.deckFailures d ++ failures ∧ b.stylesheet = p.stylesheet s ∧
      ∀ m code, (m, code) ∈ b.modules ↔ (m = .sharedState ∧ code = s.shared.moduleCode) ∨
        (m, code) ∈ texts ∨ (m, code) ∈ elementModules artifacts := by
  unfold yield at h
  cases hsort : sortResults results with
  | error e =>
    rw [hsort] at h
    cases h
  | ok sorted =>
    cases htexts : p.buildTexts d with
    | error e =>
      rw [hsort, htexts] at h
      cases h
    | ok texts =>
      rw [hsort, htexts] at h
      cases h
      refine ⟨sorted.1, sorted.2, texts, rfl, rfl, rfl, rfl, rfl, fun m code => ?_⟩
      rw [List.mem_mergeSort]
      simp

/-- Where no result stops the build, its artifacts are those among the results. -/
theorem sortResults_artifacts {results : List (String × Except Error Artifact)} {artifacts : List Artifact}
    {failures : List BuildFailure} (h : sortResults results = .ok (artifacts, failures)) :
    artifacts = results.filterMap fun x => x.2.toOption := by
  induction results generalizing artifacts failures with
  | nil =>
    cases h
    rfl
  | cons x results ih =>
    obtain ⟨fileId, result⟩ := x
    cases result with
    | ok a =>
      rw [sortResults] at h
      cases hrest : sortResults results with
      | error e =>
        rw [hrest] at h
        cases h
      | ok rest =>
        have hartifacts : rest.1 = results.filterMap fun x => x.2.toOption := ih hrest
        rw [hrest] at h
        cases h
        show a :: rest.1 = a :: _
        rw [hartifacts]
    | error e =>
      rw [sortResults] at h
      split at h
      · cases h
      · cases hrest : sortResults results with
        | error e =>
          rw [hrest] at h
          cases h
        | ok rest =>
          rw [hrest] at h
          cases h
          exact ih hrest

/-- The artifacts of a build are those among its results. -/
theorem yield_artifacts {results : List (String × Except Error Artifact)} {s : State} {b : Build}
    (h : p.yield d results s = .ok b) : b.artifacts = results.filterMap fun x => x.2.toOption := by
  obtain ⟨artifacts, failures, texts, hsort, -, hartifacts, -⟩ := yield_eq_ok h
  rw [hartifacts]
  exact sortResults_artifacts hsort

/-- What is yielded depends on the state through the shared state and the tokens alone. -/
theorem yield_congr {s t : State} (hshared : s.shared = t.shared)
    (htokens : s.collection.tokens = t.collection.tokens)
    (results : List (String × Except Error Artifact)) : p.yield d results s = p.yield d results t := by
  unfold yield stylesheet
  rw [hshared, htokens]

variable (p d) in
/-- A build accounts for its jobs, of which these are the slides. -/
structure Accounts (slides : List Job) (b : Build) : Prop where
  /-- There is a job for each shown slide, from the first to the last. -/
  slideJobs : slides.map Job.fileId = p.slideIds d
  /-- There is a job for each scanned file but the deck. -/
  fileJobs : (p.fileJobs d).map Job.fileId =
    ((p.scope.files d).filter fun file => !(file == p.layout.entry)).map Path.text
  /-- The scanned files stand in the order of their paths, each once. -/
  ascend : Style.Scope.Ascend (p.scope.files d)
  /-- Each job is once among the artifacts and the failures; besides, a deck that cannot be read is. -/
  once : (b.artifacts.map Artifact.fileId ++ b.failures.map BuildFailure.fileId).Perm
    ((p.deckFailures d).map BuildFailure.fileId ++ (slides ++ p.fileJobs d).map Job.fileId)
  /-- The artifacts are in the order of their jobs. -/
  artifacts : b.artifacts.map Artifact.fileId =
    ((slides ++ p.fileJobs d).filter fun job => (p.jobFault job).isNone).map Job.fileId
  /-- The failures are in the order of their jobs, behind that of a deck that cannot be read. -/
  failures : b.failures = p.deckFailures d ++ (slides ++ p.fileJobs d).filterMap p.failure?
  /-- There is a list of slides if there is a deck. -/
  listed : (∃ code, (ModuleId.slides, code) ∈ b.modules) ↔
    ∃ deck, Presentation.load d p.layout = .ok deck
  /-- The list of slides imports the slides that there are jobs for. -/
  imported : ∀ code, (ModuleId.slides, code) ∈ b.modules →
    Presentation.importedIds code = slides.map Job.fileId
  /-- There is a wrapper for the elements that some artifact has in quotes. -/
  wrapped : ∀ element, (∃ code, (ModuleId.element element, code) ∈ b.modules) ↔
    element ∈ Component.Element.names ∧ ∃ a ∈ b.artifacts, ∃ before after,
      a.code = before ++ "'" ++ ModuleId.text (.element element) ++ "'" ++ after

/-- The list of slides among the texts of a build; there is one if there is a deck. -/
theorem slides_mem_buildTexts {texts : List (ModuleId × String)} (h : p.buildTexts d = .ok texts) :
    (∀ code, (ModuleId.slides, code) ∈ texts ↔
        ∃ deck, Presentation.load d p.layout = .ok deck ∧ deck.slideList = .ok code) ∧
      ∀ deck, Presentation.load d p.layout = .ok deck → ∃ code, deck.slideList = .ok code := by
  have hdeck : ModuleId.slides ∈ ModuleId.deckModules := by decide
  have hprovide : ∀ (deck : Presentation) (text : Option String),
      deck.provide? d p.options.markdown.monaco .slides = .ok text ↔
        ∃ code, deck.slideList = .ok code ∧ text = some code := by
    intro deck text
    rw [Presentation.provide?]
    cases deck.slideList <;> simp [Except.map, eq_comm]
  unfold buildTexts at h
  cases hl : Presentation.load d p.layout with
  | error e =>
    rw [hl] at h
    cases h
    simp
  | ok deck =>
    rw [hl] at h
    obtain ⟨hall, hmem⟩ := deckTexts_ok h
    refine ⟨fun code => ?_, fun deck' hd => ?_⟩
    · rw [hmem, hprovide]
      simp [hdeck]
    · cases hd
      obtain ⟨text, htext⟩ := hall .slides hdeck
      obtain ⟨code, hcode, -⟩ := (hprovide deck text).mp htext
      exact ⟨code, hcode⟩

theorem element_not_mem_buildTexts {texts : List (ModuleId × String)} (h : p.buildTexts d = .ok texts)
    (element code : String) : (ModuleId.element element, code) ∉ texts := by
  unfold buildTexts at h
  cases hl : Presentation.load d p.layout with
  | error e =>
    rw [hl] at h
    cases h
    simp
  | ok deck =>
    rw [hl] at h
    rw [(deckTexts_ok h).2]
    simp [ModuleId.deckModules]

/-- A build accounts for its jobs, whatever they come to. -/
theorem AllRecorded.accounts {slides : List Job} {results : List (String × Except Error Artifact)}
    {s : State} {b : Build} (hslides : p.deckJobs d = .ok slides)
    (hresults : p.AllRecorded (slides ++ p.fileJobs d) results) (hb : p.yield d results s = .ok b) :
    p.Accounts d slides b := by
  obtain ⟨artifacts, failures, texts, hsort, htexts, rfl, hfailures, -, hmodules⟩ := yield_eq_ok hb
  obtain ⟨artifacts', hsort', hartifacts⟩ := hresults.sortResults_eq
  rw [hsort] at hsort'
  cases hsort'
  have hlisted : ∀ code, (ModuleId.slides, code) ∈ b.modules ↔
      ∃ deck, Presentation.load d p.layout = .ok deck ∧ deck.slideList = .ok code := by
    intro code
    rw [hmodules, (slides_mem_buildTexts htexts).1, mem_elementModules]
    simp
  refine ⟨deckJobs_fileId hslides, fileJobs_fileId, Style.Scope.files_ascend p.scope d, ?_, hartifacts,
    hfailures, ?_, fun code hcode => ?_, fun element => ?_⟩
  · -- the jobs without a fault and those with one are all jobs
    rw [hartifacts, hfailures, List.map_append, failure?_fileId, ← List.append_assoc]
    refine (List.perm_append_comm.append_right _).trans ?_
    rw [List.append_assoc, ← List.map_append]
    exact ((List.filter_append_perm _ _).map _).append_left _
  · simp only [hlisted]
    constructor
    · rintro ⟨code, deck, hl, -⟩
      exact ⟨deck, hl⟩
    · rintro ⟨deck, hl⟩
      obtain ⟨code, hcode⟩ := (slides_mem_buildTexts htexts).2 deck hl
      exact ⟨code, deck, hl, hcode⟩
  · obtain ⟨deck, hl, hs⟩ := (hlisted code).mp hcode
    unfold deckJobs at hslides
    rw [hl] at hslides
    rw [Presentation.importedIds_slideList hs, slideJobs_fileId hslides]
  · simp only [hmodules, mem_elementModules]
    constructor
    · rintro ⟨code, h | h | ⟨element', helement, hm, -, hquoted⟩⟩
      · cases h.1
      · exact absurd h (element_not_mem_buildTexts htexts element code)
      · cases hm
        exact ⟨helement, hquoted⟩
    · rintro ⟨helement, hquoted⟩
      exact ⟨_, .inr (.inr ⟨element, helement, rfl, rfl, hquoted⟩)⟩

end Pipeline

end DeckPress
