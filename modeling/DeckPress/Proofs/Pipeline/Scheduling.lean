import DeckPress.Proofs.Pipeline.Accounts
import DeckPress.Proofs.Pipeline.Schedules

/-!
# What does not depend on the schedule

A build that does its jobs one by one is one of those on a schedule. All of them account for the same jobs,
and fail with the same failures. Where directories that are equal as paths are listed alike, they are even
the same build, and each artifact is what a preview of its file would be. Where they are not, the build
hangs on its schedule: the first file for which one of two such directories is listed decides how the
components in it are imported by the others.
-/

namespace DeckPress.Pipeline

variable {p : Pipeline} {d : Disk}

/-! ## Workers that take turns -/

theorem runJobs_append (jobs more : List Job) (s : State) :
    p.runJobs d (jobs ++ more) s =
      ((p.runJobs d jobs s).1 ++ (p.runJobs d more (p.runJobs d jobs s).2).1,
        (p.runJobs d more (p.runJobs d jobs s).2).2) := by
  induction jobs generalizing s with
  | nil => rfl
  | cons job jobs ih =>
    rw [List.cons_append, runJobs, ih]
    rfl

/-- A worker does its share while the others wait. -/
theorem leads_share (before after : List (Steps State (List (String × Except Error Artifact))))
    (share : List Job) (s : State) :
    Crew.Leads ⟨s, before ++ p.shareSteps d share :: after⟩
      ⟨(p.runJobs d share s).2, before ++ .done (p.runJobs d share s).1 :: after⟩ := by
  have h := Crew.leads_run s before after (p.shareSteps d share)
  rwa [shareSteps_run] at h

/-- Each worker starts when those before it are done. -/
theorem leads_in_turn (answered : List (List (String × Except Error Artifact))) (waiting : List (List Job))
    (s : State) :
    ∃ answers, Crew.Leads ⟨s, answered.map .done ++ waiting.map (p.shareSteps d)⟩
        ⟨(p.runJobs d waiting.flatten s).2, (answered ++ answers).map .done⟩ ∧
      answers.flatten = (p.runJobs d waiting.flatten s).1 := by
  induction waiting generalizing answered s with
  | nil => exact ⟨[], by simpa [runJobs] using Crew.Leads.refl, rfl⟩
  | cons share waiting ih =>
    obtain ⟨answers, hleads, hanswers⟩ :=
      ih (answered ++ [(p.runJobs d share s).1]) (p.runJobs d share s).2
    have hfirst := leads_share (p := p) (d := d) (answered.map .done) (waiting.map (p.shareSteps d)) share s
    refine ⟨(p.runJobs d share s).1 :: answers, ?_, ?_⟩
    · rw [List.map_cons, List.flatten_cons, runJobs_append]
      refine hfirst.trans ?_
      simpa using hleads
    · rw [List.flatten_cons, List.flatten_cons, runJobs_append, hanswers]

/-- Doing the jobs one by one is a schedule, for any number of workers. -/
theorem scheduled_fullBuild (workers : Nat) (s : State) :
    p.Scheduled d workers s ((p.fullBuild d).run.run s).1 ((p.fullBuild d).run.run s).2 := by
  rw [fullBuild_run]
  cases hjobs : p.deckJobs d with
  | error e => exact .refused hjobs
  | ok slides =>
    obtain ⟨answers, hleads, hanswers⟩ :=
      leads_in_turn (p := p) (d := d) [] (shares workers (slides ++ p.fileJobs d)) (p.opened d s)
    rw [flatten_shares] at hleads hanswers
    dsimp only
    rw [← hanswers]
    exact .built hjobs hleads

/-- Of two workers, the second may come first. -/
theorem scheduled_second_first {workers : Nat} {slides first second : List Job}
    (hslides : p.deckJobs d = .ok slides)
    (hshares : shares workers (slides ++ p.fileJobs d) = [first, second]) (s : State) :
    let early := p.runJobs d second (p.opened d s)
    let late := p.runJobs d first early.2
    p.Scheduled d workers s (p.yield d (late.1 ++ early.1) late.2) late.2 := by
  intro early late
  have hsecond := leads_share (p := p) (d := d) [p.shareSteps d first] [] second (p.opened d s)
  have hfirst := leads_share (p := p) (d := d) [] [.done early.1] first early.2
  have hbuilt : p.Scheduled d workers s (p.yield d [late.1, early.1].flatten late.2) late.2 := by
    refine .built hslides ?_
    rw [crew, hshares]
    exact hsecond.trans hfirst
  -- the results are joined in the order of the shares, not in that of the work
  simpa using hbuilt

variable (p d) in
/-- The directories in which components for these jobs are looked for, job by job. -/
def searched (jobs : List Job) : List Path :=
  jobs.flatMap fun job => p.importer.searchDirs (Artifact.ofSource job.fileId "").directory?

/-- Directories that are not written in two ways are listed alike. -/
theorem listedAlike_of_written {jobs : List Job}
    (h : ∀ a ∈ p.searched jobs, ∀ b ∈ p.searched jobs, a == b → a.text = b.text) :
    p.ListedAlike d jobs := by
  rintro a b ⟨x, hx, ha⟩ ⟨y, hy, hb⟩ hab
  have htext : a.text = b.text :=
    h a (List.mem_flatMap.mpr ⟨x, hx, ha⟩) b (List.mem_flatMap.mpr ⟨y, hy, hb⟩) hab
  obtain rfl : a = b := by
    cases a
    cases b
    cases htext
    rfl
  rfl

/-! ## What the files come to -/

theorem preview_result (fileId source : String) (s : State) :
    ((p.preview d fileId source).run.run s).1 = (p.compiled fileId source).map fun a =>
      p.rewriteAssets d ((p.importer.apply d a).run s.listings).1 := by
  have hdraft := p.draft_run d fileId source s
  cases hc : p.compiled fileId source with
  | error e =>
    rw [hc] at hdraft
    unfold preview
    rw [bind_error hdraft]
    rfl
  | ok a =>
    rw [hc] at hdraft
    rw [p.preview_run d hdraft]
    rfl

variable (p d) in
/-- What a preview makes of the file of a job; nothing if it fails. -/
def previewed (s : State) (job : Job) : Option Artifact :=
  job.source.toOption.bind fun source => ((p.preview d job.fileId source).run.run s).1.toOption

/-- A preview makes of a file what a build makes of it, where directories are listed alike. -/
theorem previewed_eq_outcome {jobs : List Job} {s : State} (halike : p.ListedAlike d jobs)
    (hs : p.importer.Truthful d (p.lookedIn jobs) s.listings) {job : Job} (hjob : job ∈ jobs) :
    p.previewed d s job = (p.outcome d job).toOption := by
  unfold previewed outcome jobCompiled
  simp only [preview_result]
  cases hsource : job.source with
  | error cause => rfl
  | ok source =>
    rw [Except.toOption, Option.bind_some]
    dsimp only
    cases hc : p.compiled job.fileId source with
    | error e => rfl
    | ok a =>
      have hdirs : ∀ dir ∈ p.importer.searchDirs a.directory?, p.lookedIn jobs dir := by
        intro dir hdir
        rw [Artifact.directory?, p.compiled_fileId hc] at hdir
        exact ⟨job, hjob, hdir⟩
      show some (p.rewriteAssets d _) = some (p.rewriteAssets d _)
      rw [Component.Importer.apply_truthful halike hs hdirs]

/-- A build that gets its slides and its modules comes to an end on every schedule. -/
theorem Scheduled.ends {workers : Nat} {s s' : State} {r : Except Error Build} {slides : List Job}
    {texts : List (ModuleId × String)} (h : p.Scheduled d workers s r s')
    (hslides : p.deckJobs d = .ok slides) (htexts : p.buildTexts d = .ok texts) : ∃ b, r = .ok b := by
  cases h with
  | refused he =>
    rw [hslides] at he
    cases he
  | built _ hleads =>
    obtain ⟨-, hanswers, -⟩ := crew_done hleads
    obtain ⟨artifacts, hsort, -⟩ := hanswers.recorded.sortResults_eq
    obtain ⟨b, hb, -⟩ := p.yield_ok d hsort htexts s'
    exact ⟨b, hb⟩

/-- A build on any schedule accounts for its jobs. If directories that are equal as paths are listed
alike, its artifacts are the previews of its files, made in a state that has no listings or that in which
the build leaves the pipeline, and it is the build that is made one by one. -/
theorem scheduled_build_settled {workers : Nat} {s s' : State} {b : Build}
    (h : p.Scheduled d workers s (.ok b) s') :
    ∃ slides, p.deckJobs d = .ok slides ∧ p.Accounts d slides b ∧
      (p.ListedAlike d (slides ++ p.fileJobs d) →
        (∀ t : State, t.listings = [] ∨ t.listings = s'.listings →
          b.artifacts = (slides ++ p.fileJobs d).filterMap (p.previewed d t)) ∧
        ((p.fullBuild d).run.run s).1 = .ok b) := by
  generalize hr : Except.ok b = r at h
  cases h with
  | refused => cases hr
  | @built slides _ answers hslides hleads =>
    obtain ⟨hkept, hanswers, hnotes⟩ := crew_done hleads
    refine ⟨slides, hslides, hanswers.recorded.accounts hslides hr.symm, fun halike => ⟨?_, ?_⟩⟩
    · -- a job and a preview of its file both come to what the file comes to alone
      intro t ht
      have hlistings : p.importer.Truthful d (p.lookedIn (slides ++ p.fileJobs d)) t.listings := by
        rcases ht with ht | ht
        · rw [ht]
          exact Component.Importer.truthful_nil
        · rw [ht]
          exact hkept.listings halike
      rw [yield_artifacts hr.symm, hanswers.eq_outcomes halike, List.filterMap_map]
      exact List.filterMap_congr fun job hjob => (previewed_eq_outcome halike hlistings hjob).symm
    · -- one by one, the jobs have the same answers and note the same
      obtain ⟨hkept', hanswers', hnotes'⟩ :=
        runJobs_done (p := p) (d := d) (slides ++ p.fileJobs d) s
      have htokens := hkept'.tidy.tokens_eq hkept.tidy fun token file =>
        (hnotes' (token, file) halike).trans (hnotes (token, file) halike).symm
      rw [fullBuild_run, hslides]
      dsimp only
      rw [hanswers'.eq_outcomes halike, hanswers.eq_outcomes halike]
      exact yield_congr (hkept'.shared.trans hkept.shared.symm) htokens _

/-! ## A component with two paths -/

/-- A file that uses a component. -/
def widgetUser : String := "<Foo/>"

/-- The same with the component imported from this path. -/
def widgetImport (path : String) : String :=
  widgetUser ++ "\n<script setup>\nimport Foo from '" ++ path ++ "'\n</script>\n"

/-- Two files that use a component, which stands beside the second of them. -/
def widgetDisk (deck : String) : Disk where
  entries := (smallDisk [("slides.md", deck), ("a.vue", widgetUser)]).entries ++
    [(["widgets"], .directory), (["widgets", "b.vue"], .file widgetUser.toUTF8),
      (["widgets", "parts"], .directory), (["widgets", "parts", "Foo.vue"], .file "".toUTF8)]

/-- A project that scans the two files and looks for components in these directories. -/
def widgetProject (dirs : List Path) : Project :=
  let scanning := smallProject ["a.vue", "widgets/b.vue"]
  { scanning with overrides := { scanning.overrides with components := { dirs := some dirs } } }

/-- A slide and the two files, with the worker for the second file ahead of the one for the others. -/
theorem scheduled_build_settled_widgets :
    ∃ p slides b s, assemble (widgetDisk "# One\n") (widgetProject [⟨"parts"⟩]) = .ok p ∧
      p.Scheduled (widgetDisk "# One\n") 2 { shared := .initial false } (.ok b) s ∧
      p.deckJobs (widgetDisk "# One\n") = .ok slides ∧
      p.ListedAlike (widgetDisk "# One\n") (slides ++ p.fileJobs (widgetDisk "# One\n")) ∧
      (slides ++ p.fileJobs (widgetDisk "# One\n")).map Job.fileId =
        ["/@slidev/slide/1.md", "/a.vue", "/widgets/b.vue"] ∧
      p.Accounts (widgetDisk "# One\n") slides b ∧
      b.artifacts = (slides ++ p.fileJobs (widgetDisk "# One\n")).filterMap
        (p.previewed (widgetDisk "# One\n") s) ∧
      ((p.fullBuild (widgetDisk "# One\n")).run.run { shared := .initial false }).1 = .ok b := by
  obtain ⟨p, hp, htest⟩ := exists_ok (assemble (widgetDisk "# One\n") (widgetProject [⟨"parts"⟩]))
    (fun p =>
      (p.deckJobs (widgetDisk "# One\n")).toOption.any (fun slides =>
        let jobs := slides ++ p.fileJobs (widgetDisk "# One\n")
        jobs.map Job.fileId = ["/@slidev/slide/1.md", "/a.vue", "/widgets/b.vue"] &&
        (p.searched jobs).all fun a => (p.searched jobs).all fun b => !(a == b) || a.text = b.text) &&
      (p.buildTexts (widgetDisk "# One\n")).toOption.any fun _ => true)
    (by decide +kernel)
  rw [Bool.and_eq_true] at htest
  obtain ⟨slides, hslides, hjobs⟩ := exists_ok _ _ htest.1
  obtain ⟨texts, htexts, -⟩ := exists_ok _ _ htest.2
  dsimp only at hjobs
  simp only [Bool.and_eq_true, decide_eq_true_eq, List.all_eq_true, Bool.or_eq_true,
    Bool.not_eq_true'] at hjobs
  obtain ⟨hids, hwritten⟩ := hjobs
  have hthree : (slides ++ p.fileJobs (widgetDisk "# One\n")).length = 3 := by
    have hlength := congrArg List.length hids
    rwa [List.length_map] at hlength
  have halike : p.ListedAlike (widgetDisk "# One\n") (slides ++ p.fileJobs (widgetDisk "# One\n")) :=
    listedAlike_of_written fun a ha b hb hab =>
      (hwritten a ha b hb).resolve_left fun hne => Bool.noConfusion (hne.symm.trans hab)
  have hschedule := scheduled_second_first hslides (shares_two (by omega)) { shared := .initial false }
  dsimp only at hschedule
  obtain ⟨b, hb⟩ := hschedule.ends hslides htexts
  rw [hb] at hschedule
  obtain ⟨slides', hslides', haccounts, hsettled⟩ := scheduled_build_settled hschedule
  rw [hslides] at hslides'
  cases hslides'
  obtain ⟨hpreviews, hbuild⟩ := hsettled halike
  exact ⟨p, slides, b, _, hp, hschedule, hslides, halike, hids, haccounts, hpreviews _ (.inr rfl), hbuild⟩

/-- What the files that were answered have become. -/
def importedCodes (answers : List (String × Except Error Artifact)) : List String :=
  answers.filterMap fun x => x.2.toOption.map Artifact.code

/-- The directory beside the second file, written in another way for the whole project. -/
def ambiguousProject : Project := widgetProject [⟨"parts"⟩, ⟨"./widgets/parts"⟩]

/-- The worker that comes first decides by which path both files import the component. Previewed afresh,
each file imports it by a path of its own, so no schedule makes both artifacts what the previews are. -/
theorem artifacts_hang_on_schedule :
    ∃ p, assemble (widgetDisk "") ambiguousProject = .ok p ∧
      (∃ b s, p.Scheduled (widgetDisk "") 2 { shared := .initial false } (.ok b) s ∧
        b.artifacts.map Artifact.code =
          [widgetImport "/./widgets/parts/Foo.vue", widgetImport "/./widgets/parts/Foo.vue"]) ∧
      (∃ b s, p.Scheduled (widgetDisk "") 2 { shared := .initial false } (.ok b) s ∧
        b.artifacts.map Artifact.code =
          [widgetImport "/widgets/parts/Foo.vue", widgetImport "/widgets/parts/Foo.vue"]) ∧
      (p.fileJobs (widgetDisk "")).filterMap (fun job =>
          (p.previewed (widgetDisk "") { shared := .initial false } job).map Artifact.code) =
        [widgetImport "/./widgets/parts/Foo.vue", widgetImport "/widgets/parts/Foo.vue"] := by
  obtain ⟨p, hp, htest⟩ := exists_ok (assemble (widgetDisk "") ambiguousProject)
    (fun p =>
      (p.deckJobs (widgetDisk "")).toOption.any (·.isEmpty) &&
      (p.buildTexts (widgetDisk "")).toOption.any (fun _ => true) &&
      (p.fileJobs (widgetDisk "")).length = 2)
    (by decide +kernel)
  -- each of the runs is evaluated for itself
  have hfirst := test_of_ok hp (fun p =>
      importedCodes (p.runJobs (widgetDisk "") (p.fileJobs (widgetDisk ""))
        (p.opened (widgetDisk "") { shared := .initial false })).1 =
        [widgetImport "/./widgets/parts/Foo.vue", widgetImport "/./widgets/parts/Foo.vue"])
    (by decide +kernel)
  have hsecond := test_of_ok hp (fun p =>
      let jobs := p.fileJobs (widgetDisk "")
      let late := p.runJobs (widgetDisk "") (jobs.drop 1)
        (p.opened (widgetDisk "") { shared := .initial false })
      importedCodes ((p.runJobs (widgetDisk "") (jobs.take 1) late.2).1 ++ late.1) =
        [widgetImport "/widgets/parts/Foo.vue", widgetImport "/widgets/parts/Foo.vue"])
    (by decide +kernel)
  have hpreviews := test_of_ok hp (fun p =>
      (p.fileJobs (widgetDisk "")).filterMap (fun job =>
          (p.previewed (widgetDisk "") { shared := .initial false } job).map Artifact.code) =
        [widgetImport "/./widgets/parts/Foo.vue", widgetImport "/widgets/parts/Foo.vue"])
    (by decide +kernel)
  simp only [Bool.and_eq_true, decide_eq_true_eq] at htest hfirst hsecond hpreviews
  obtain ⟨⟨hslides, htexts⟩, htwo⟩ := htest
  obtain ⟨slides, hslides, hnone⟩ := exists_ok _ _ hslides
  obtain rfl := List.isEmpty_iff.mp hnone
  obtain ⟨texts, htexts, -⟩ := exists_ok _ _ htexts
  refine ⟨p, hp, ?_, ?_, hpreviews⟩
  · have hschedule := scheduled_fullBuild (p := p) (d := widgetDisk "") 2 { shared := .initial false }
    obtain ⟨b, hb⟩ := hschedule.ends hslides htexts
    rw [hb] at hschedule
    rw [fullBuild_run, hslides] at hb
    refine ⟨b, _, hschedule, ?_⟩
    rw [yield_artifacts hb, List.map_filterMap]
    exact hfirst
  · have hshares := shares_two (Nat.le_of_eq htwo.symm)
    rw [htwo] at hshares
    have hschedule := scheduled_second_first hslides hshares { shared := .initial false }
    dsimp only at hschedule
    obtain ⟨b, hb⟩ := hschedule.ends hslides htexts
    rw [hb] at hschedule
    refine ⟨b, _, hschedule, ?_⟩
    rw [yield_artifacts hb, List.map_filterMap]
    exact hsecond

end DeckPress.Pipeline
