import DeckPress.Pipeline.Build
import DeckPress.Proofs.Pipeline.Run
import Mathlib.Data.List.Forall2

/-!
# What a full build does

A full build is opened up once: which jobs it has, what doing them in order yields, and which texts the
deck gives. Everything a job can fail with belongs to its file and is recorded there; so a build that
stops does so before its jobs, where the slides are collected, or behind them, where the modules are made.
-/

namespace DeckPress

/-! ## Sequences of answers that may be errors -/

section Sequence

variable {ε α β : Type}

/-- A sequence fails with the first error in it. -/
theorem mapM_error_iff {f : α → Except ε β} {xs : List α} {e : ε} :
    xs.mapM f = .error e ↔
      ∃ before x after, xs = before ++ x :: after ∧ f x = .error e ∧ ∀ y ∈ before, ∃ b, f y = .ok b := by
  induction xs with
  | nil => simp [pure, Except.pure]
  | cons x xs ih =>
    rw [List.mapM_cons]
    cases hx : f x with
    | error e' =>
      constructor
      · intro h
        cases h
        exact ⟨[], x, xs, rfl, hx, fun y hy => by cases hy⟩
      · rintro ⟨before, y, after, hxs, hy, hb⟩
        cases before with
        | nil =>
          cases hxs
          rw [hx] at hy
          cases hy
          rfl
        | cons z before =>
          cases hxs
          obtain ⟨b, hz⟩ := hb x List.mem_cons_self
          rw [hx] at hz
          cases hz
    | ok b =>
      have hrest : (Except.ok b >>= fun b => xs.mapM f >>= fun bs => pure (b :: bs)) = .error e ↔
          xs.mapM f = .error e := by
        cases xs.mapM f <;> simp [bind, Except.bind, pure, Except.pure]
      rw [hrest, ih]
      constructor
      · rintro ⟨before, y, after, hxs, hy, hb⟩
        refine ⟨x :: before, y, after, by rw [hxs]; rfl, hy, fun z hz => ?_⟩
        rcases List.mem_cons.mp hz with rfl | hz
        · exact ⟨b, hx⟩
        · exact hb z hz
      · rintro ⟨before, y, after, hxs, hy, hb⟩
        cases before with
        | nil =>
          cases hxs
          rw [hx] at hy
          cases hy
        | cons z before =>
          cases hxs
          exact ⟨before, y, after, rfl, hy, fun z hz => hb z (List.mem_cons_of_mem _ hz)⟩

theorem mapM_ok {f : α → Except ε β} {xs : List α} {bs : List β} (h : xs.mapM f = .ok bs) :
    ∀ x ∈ xs, ∃ b, f x = .ok b := by
  induction xs generalizing bs with
  | nil => intro x hx; cases hx
  | cons x xs ih =>
    rw [List.mapM_cons] at h
    cases hx : f x with
    | error e => rw [hx] at h; cases h
    | ok b =>
      cases hxs : xs.mapM f with
      | error e => rw [hx, hxs] at h; cases h
      | ok rest =>
        intro y hy
        rcases List.mem_cons.mp hy with rfl | hy
        · exact ⟨b, hx⟩
        · exact ih hxs y hy

/-- What the members of a sequence and of its answers have in common. -/
theorem mapM_map_eq {γ : Type} {f : α → Except ε β} {g : β → γ} {k : α → γ} {xs : List α}
    {bs : List β} (h : xs.mapM f = .ok bs) (hg : ∀ x b, f x = .ok b → g b = k x) :
    bs.map g = xs.map k := by
  induction xs generalizing bs with
  | nil => cases h; rfl
  | cons x xs ih =>
    rw [List.mapM_cons] at h
    cases hx : f x with
    | error e => rw [hx] at h; cases h
    | ok b =>
      cases hxs : xs.mapM f with
      | error e => rw [hx, hxs] at h; cases h
      | ok rest =>
        rw [hx, hxs] at h
        cases h
        rw [List.map_cons, List.map_cons, hg x b hx, ih hxs]

/-- The answers of a sequence. -/
theorem mem_of_mapM_ok {f : α → Except ε β} {xs : List α} {bs : List β} (h : xs.mapM f = .ok bs) {b : β} :
    b ∈ bs ↔ ∃ x ∈ xs, f x = .ok b := by
  induction xs generalizing bs with
  | nil =>
    cases h
    simp
  | cons x xs ih =>
    rw [List.mapM_cons] at h
    cases hx : f x with
    | error e => rw [hx] at h; cases h
    | ok a =>
      cases hxs : xs.mapM f with
      | error e => rw [hx, hxs] at h; cases h
      | ok rest =>
        rw [hx, hxs] at h
        cases h
        simp [ih hxs, hx, eq_comm]

theorem mapM_ok_of_forall {f : α → Except ε β} {xs : List α} (h : ∀ x ∈ xs, ∃ b, f x = .ok b) :
    ∃ bs, xs.mapM f = .ok bs := by
  cases hm : xs.mapM f with
  | ok bs => exact ⟨bs, rfl⟩
  | error e =>
    obtain ⟨before, x, after, hxs, hx, -⟩ := mapM_error_iff.mp hm
    obtain ⟨b, hb⟩ := h x (by rw [hxs]; exact List.mem_append_right _ List.mem_cons_self)
    rw [hx] at hb
    cases hb

end Sequence

namespace Pipeline

variable (p : Pipeline) (d : Disk)

section Work

variable {α β : Type}

theorem pure_run (r : Except Error α) (f : α → Work β) (s : State) :
    (ExceptT.mk (pure r) >>= f : Work β).run.run s =
      match r with
      | .ok a => (f a).run.run s
      | .error e => (.error e, s) := by
  cases r <;> rfl

/-- A sequence of steps that leave the state as it is. -/
theorem mapM_run_of_pure {f : α → Work β} {g : α → Except Error β} {s : State} {xs : List α}
    (h : ∀ x ∈ xs, (f x).run.run s = (g x, s)) : (xs.mapM f).run.run s = (xs.mapM g, s) := by
  induction xs with
  | nil => rfl
  | cons x xs ih =>
    have hx := h x List.mem_cons_self
    have hrest := ih fun y hy => h y (List.mem_cons_of_mem _ hy)
    rw [List.mapM_cons, List.mapM_cons]
    cases hg : g x with
    | error e =>
      rw [hg] at hx
      rw [bind_error hx]
      rfl
    | ok b =>
      rw [hg] at hx
      rw [bind_ok hx]
      cases hgs : xs.mapM g with
      | error e =>
        rw [hgs] at hrest
        rw [bind_error hrest]
        rfl
      | ok bs =>
        rw [hgs] at hrest
        rw [bind_ok hrest]
        rfl

end Work

/-! ## The jobs -/

/-- What is wrong with the file of a job. -/
def jobFault (job : Job) : Option Error :=
  match job.source with
  | .error cause => some (.compile job.fileId (.unreadable cause))
  | .ok source =>
    match p.compiled job.fileId source with
    | .error e => some e
    | .ok _ => none

/-- What is wrong with a file never stops a build. -/
theorem jobFault_contained {job : Job} {e : Error} (h : p.jobFault job = some e) :
    e.isFatal = false := by
  unfold jobFault at h
  split at h
  · cases h
    rfl
  · unfold compiled at h
    cases hc : p.compileMarkdown (.ofSource job.fileId _) with
    | error e' =>
      rw [hc] at h
      cases h
      obtain ⟨fault, rfl⟩ := p.compileMarkdown_error hc
      rfl
    | ok a =>
      rw [hc] at h
      cases h

/-- A job with a fault fails with it and does nothing. -/
theorem runJob_fault {job : Job} {e : Error} (h : p.jobFault job = some e) (s : State) :
    (p.runJob d job).run s = (.error e, s) := by
  unfold jobFault at h
  unfold runJob
  cases hsource : job.source with
  | error cause =>
    rw [hsource] at h
    cases h
    rfl
  | ok source =>
    rw [hsource] at h
    show (p.transform d job.fileId source).run.run s = _
    have hrun := p.transform_run d job.fileId source s
    cases hc : p.compiled job.fileId source with
    | ok a =>
      simp only [hc] at h
      cases h
    | error e' =>
      simp only [hc] at h
      cases h
      rw [hc] at hrun
      exact hrun

/-- A job without a fault yields an artifact of its file. -/
theorem runJob_ok {job : Job} (h : p.jobFault job = none) (s : State) :
    ∃ a s', (p.runJob d job).run s = (.ok a, s') ∧ a.fileId = job.fileId ∧
      s'.deck = s.deck ∧ s'.versions = s.versions := by
  unfold jobFault at h
  unfold runJob
  split at h <;> rename_i source hsource
  · cases h
  · split at h <;> rename_i hc
    · cases h
    · have hrun := p.transform_run d job.fileId source s
      rw [hc] at hrun
      rw [hsource]
      refine ⟨_, _, hrun, ?_, rfl, rfl⟩
      exact (p.importer.apply_fileId d _ _).trans (p.compiled_fileId hc)

/-- The results of jobs done in order, and the state they leave behind. -/
def runJobs : List Job → State → List (String × Except Error Artifact) × State
  | [], s => ([], s)
  | job :: jobs, s =>
    let done := (p.runJob d job).run s
    let rest := runJobs jobs done.2
    ((job.fileId, done.1) :: rest.1, rest.2)

theorem mapM_runJob (jobs : List Job) (s : State) :
    (jobs.mapM (fun job => do
      return (job.fileId, ← ExceptT.lift (p.runJob d job)) : Job → Work _)).run.run s =
      (.ok (p.runJobs d jobs s).1, (p.runJobs d jobs s).2) := by
  induction jobs generalizing s with
  | nil => rfl
  | cons job jobs ih =>
    rw [List.mapM_cons, bind_assoc, lift_run, pure_bind, bind_ok (ih _)]
    rfl

/-- Jobs leave the deck that was read and the versions on record as they are. -/
theorem runJobs_frame (jobs : List Job) (s : State) :
    (p.runJobs d jobs s).2.deck = s.deck ∧ (p.runJobs d jobs s).2.versions = s.versions := by
  induction jobs generalizing s with
  | nil => exact ⟨rfl, rfl⟩
  | cons job jobs ih =>
    obtain ⟨hdeck, hversions⟩ := ih ((p.runJob d job).run s).2
    cases hf : p.jobFault job with
    | some e =>
      rw [runJob_fault p d hf] at hdeck hversions
      exact ⟨by rw [runJobs, runJob_fault p d hf]; exact hdeck,
        by rw [runJobs, runJob_fault p d hf]; exact hversions⟩
    | none =>
      obtain ⟨a, s', hrun, -, hdeck', hversions'⟩ := p.runJob_ok d hf s
      rw [hrun] at hdeck hversions
      exact ⟨by rw [runJobs, hrun]; exact hdeck.trans hdeck',
        by rw [runJobs, hrun]; exact hversions.trans hversions'⟩

/-- What a build records of a job. -/
def failure? (job : Job) : Option BuildFailure :=
  (p.jobFault job).map fun e => ⟨job.fileId, e.message⟩

/-- A result of a job: its fault, or else an artifact of its file. -/
structure Records (job : Job) (result : Except Error Artifact) : Prop where
  fault : ∀ e, p.jobFault job = some e → result = .error e
  artifact : p.jobFault job = none → ∃ a, result = .ok a ∧ a.fileId = job.fileId

/-- Results of jobs, each under the id of its job. -/
def AllRecorded (jobs : List Job) (results : List (String × Except Error Artifact)) : Prop :=
  List.Forall₂ (fun job x => x.1 = job.fileId ∧ p.Records job x.2) jobs results

variable {p} in
/-- Every job is recorded, as an artifact or as a failure, and none stops the others. -/
theorem AllRecorded.sortResults_eq {jobs : List Job} {results : List (String × Except Error Artifact)}
    (h : p.AllRecorded jobs results) :
    ∃ artifacts, sortResults results = .ok (artifacts, jobs.filterMap p.failure?) ∧
      artifacts.map Artifact.fileId =
        (jobs.filter fun job => (p.jobFault job).isNone).map Job.fileId := by
  induction h with
  | nil => exact ⟨[], rfl, rfl⟩
  | @cons job x jobs results hx _ ih =>
    obtain ⟨fileId, result⟩ := x
    obtain ⟨rfl, hrecords⟩ : fileId = job.fileId ∧ p.Records job result := hx
    obtain ⟨artifacts, hsort, hids⟩ := ih
    cases hf : p.jobFault job with
    | some e =>
      refine ⟨artifacts, ?_, by rw [List.filter_cons_of_neg (by simp [hf])]; exact hids⟩
      have hfail : p.failure? job = some ⟨job.fileId, e.message⟩ := by simp [failure?, hf]
      -- the fault is not one of the project, so the rest is sorted as well
      rw [List.filterMap_cons_some hfail, hrecords.fault e hf, sortResults, jobFault_contained p hf,
        hsort]
      rfl
    | none =>
      obtain ⟨a, rfl, hid⟩ := hrecords.artifact hf
      have hfail : p.failure? job = none := by simp [failure?, hf]
      refine ⟨a :: artifacts, ?_, ?_⟩
      · rw [List.filterMap_cons_none hfail, sortResults, hsort]
        rfl
      · rw [List.filter_cons_of_pos (by simp [hf]), List.map_cons, List.map_cons, hid, hids]

theorem runJob_records (job : Job) (s : State) : p.Records job ((p.runJob d job).run s).1 where
  fault e he := by rw [p.runJob_fault d he]
  artifact hnone := by
    obtain ⟨a, s', hrun, hid, -, -⟩ := p.runJob_ok d hnone s
    exact ⟨a, by rw [hrun], hid⟩

theorem runJobs_recorded (jobs : List Job) (s : State) : p.AllRecorded jobs (p.runJobs d jobs s).1 := by
  induction jobs generalizing s with
  | nil => exact .nil
  | cons job jobs ih => exact .cons ⟨rfl, p.runJob_records d job s⟩ (ih _)

theorem sortResults_runJobs (jobs : List Job) (s : State) :
    ∃ artifacts, sortResults (p.runJobs d jobs s).1 = .ok (artifacts, jobs.filterMap p.failure?) ∧
      artifacts.map Artifact.fileId =
        (jobs.filter fun job => (p.jobFault job).isNone).map Job.fileId :=
  (p.runJobs_recorded d jobs s).sortResults_eq

/-! ## The deck of a build -/

/-- What is wrong with a deck never stops a build. -/
theorem load_contained {l : Layout} {e : Error} (h : Presentation.load d l = .error e) :
    e.isFatal = false := by
  unfold Presentation.load at h
  cases ht : d.readText l.entry with
  | error cause =>
    rw [ht] at h
    cases h
    rfl
  | ok text =>
    rw [ht] at h
    cases hp : Deck.parse text with
    | error fault =>
      have : e = .compile l.entry.text fault := by
        simpa [bind, Except.bind, Except.mapError, hp, eq_comm] using h
      rw [this]
      rfl
    | ok deck =>
      simp [bind, Except.bind, Except.mapError, hp, pure, Except.pure] at h

/-- The state in which the jobs of a build start: nothing is remembered but the deck. -/
def opened (s : State) : State :=
  { s with
    deck := (Presentation.load d p.layout).toOption
    listings := []
    collection := s.collection.reset }

/-- What a build records of a deck that cannot be read. -/
def deckFailures : List BuildFailure :=
  match Presentation.load d p.layout with
  | .ok _ => []
  | .error e => [⟨p.layout.entry.text, e.message⟩]

/-- The jobs for the slides of a build; without a deck there are none. -/
def deckJobs : Except Error (List Job) :=
  match Presentation.load d p.layout with
  | .ok deck => slideJobs deck
  | .error _ => .ok []

/-- The texts of the modules that come from a deck. -/
def deckTexts (deck : Presentation) : Except Error (List (ModuleId × String)) := do
  let texts ← ModuleId.deckModules.mapM fun m => do
    return (← deck.provide? d p.options.markdown.monaco m).map (m, ·)
  return texts.filterMap id

/-- The texts of the modules of a build; without a deck there are none. -/
def buildTexts : Except Error (List (ModuleId × String)) :=
  match Presentation.load d p.layout with
  | .ok deck => p.deckTexts d deck
  | .error _ => .ok []

theorem presentation_run {deck : Presentation} {s : State} (h : s.deck = some deck) :
    (p.presentation d).run.run s = (.ok deck, s) := by
  obtain ⟨_, _, _, _, _⟩ := s
  cases h
  rfl

theorem presentation_ok {deck : Presentation} {s : State} (h : s.deck = none)
    (hl : Presentation.load d p.layout = .ok deck) :
    (p.presentation d).run.run s = (.ok deck, { s with deck := some deck }) := by
  obtain ⟨_, _, _, _, _⟩ := s
  cases h
  unfold presentation presentation.liftExcept
  rw [hl]
  rfl

theorem presentation_error {e : Error} {s : State} (h : s.deck = none)
    (hl : Presentation.load d p.layout = .error e) : (p.presentation d).run.run s = (.error e, s) := by
  obtain ⟨_, _, _, _, _⟩ := s
  cases h
  unfold presentation presentation.liftExcept
  rw [hl]
  rfl

theorem deckForBuild_run (s : State) :
    (p.deckForBuild d).run.run { s.invalidate with collection := s.collection.reset } =
      (.ok ((Presentation.load d p.layout).toOption, p.deckFailures d), p.opened d s) := by
  unfold deckForBuild deckFailures opened
  rw [lift_run]
  cases hl : Presentation.load d p.layout with
  | ok deck =>
    rw [p.presentation_ok d rfl hl]
    rfl
  | error e =>
    rw [p.presentation_error d rfl hl]
    dsimp only
    rw [load_contained d hl]
    rfl

theorem parse?_deckModules : ∀ m ∈ ModuleId.deckModules, ModuleId.parse? m.text = some m := by
  decide

theorem load_deckModule {deck : Presentation} {s : State} (h : s.deck = some deck) {m : ModuleId}
    (hm : m ∈ ModuleId.deckModules) :
    (p.load d m.text).run.run s = (deck.provide? d p.options.markdown.monaco m, s) := by
  have hdeck := p.presentation_run d h
  have hparse := parse?_deckModules m hm
  unfold load
  rw [hparse]
  have hlast : ∀ m' : ModuleId, (p.presentation d >>= fun deck =>
      (ExceptT.mk (pure (deck.provide? d p.options.markdown.monaco m')) : Work (Option String))).run.run
        s = (deck.provide? d p.options.markdown.monaco m', s) := fun m' => by
    rw [bind_ok hdeck]
    rfl
  simp only [ModuleId.deckModules, List.mem_cons, List.not_mem_nil, or_false] at hm
  rcases hm with rfl | rfl | rfl | rfl | rfl <;> exact hlast _

theorem deckModules_run {deck : Presentation} {s : State} (h : s.deck = some deck) :
    (p.deckModules d).run.run s = (p.deckTexts d deck, s) := by
  have hm : (ModuleId.deckModules.mapM (fun m => do
      return (← p.load d m.text).map (m, ·) : ModuleId → Work (Option (ModuleId × String)))).run.run s =
      (ModuleId.deckModules.mapM fun m => do
        return (← deck.provide? d p.options.markdown.monaco m).map (m, ·), s) := by
    refine mapM_run_of_pure fun m hm => ?_
    have hload := p.load_deckModule d h hm
    cases hp : deck.provide? d p.options.markdown.monaco m with
    | error e =>
      rw [hp] at hload
      rw [bind_error hload]
      rfl
    | ok text =>
      rw [hp] at hload
      rw [bind_ok hload]
      rfl
  unfold deckModules deckTexts
  cases ht : ModuleId.deckModules.mapM (fun m => do
      return (← deck.provide? d p.options.markdown.monaco m).map (m, ·) :
        ModuleId → Except Error (Option (ModuleId × String))) with
  | error e =>
    rw [ht] at hm
    rw [bind_error hm]
    rfl
  | ok texts =>
    rw [ht] at hm
    rw [bind_ok hm]
    rfl

/-! ## The whole build -/

/-- What a build yields whose jobs have these results and leave this state. -/
def yield (results : List (String × Except Error Artifact)) (s : State) : Except Error Build := do
  let (artifacts, failures) ← sortResults results
  let texts ← p.buildTexts d
  let modules := (ModuleId.sharedState, s.shared.moduleCode) :: texts ++ elementModules artifacts
  return {
    artifacts
    failures := p.deckFailures d ++ failures
    modules := modules.mergeSort fun a b => a.1.text ≤ b.1.text
    stylesheet := p.stylesheet s }

theorem yield_ok {results : List (String × Except Error Artifact)} {artifacts : List Artifact}
    {failures : List BuildFailure} {texts : List (ModuleId × String)}
    (hsort : sortResults results = .ok (artifacts, failures)) (htexts : p.buildTexts d = .ok texts)
    (s : State) :
    ∃ b, p.yield d results s = .ok b ∧ b.artifacts = artifacts ∧
      b.failures = p.deckFailures d ++ failures := by
  unfold yield
  rw [hsort, htexts]
  exact ⟨_, rfl, rfl, rfl⟩

theorem fullBuild_run (s : State) :
    (p.fullBuild d).run.run s =
      match p.deckJobs d with
      | .error e => (.error e, p.opened d s)
      | .ok slides =>
        let done := p.runJobs d (slides ++ p.fileJobs d) (p.opened d s)
        (p.yield d done.1 done.2, done.2) := by
  have hmodify : (modify (fun s => { s.invalidate with collection := s.collection.reset }) :
      Work Unit).run.run s = (.ok (), { s.invalidate with collection := s.collection.reset }) := rfl
  unfold fullBuild
  rw [bind_ok hmodify, bind_ok (p.deckForBuild_run d s)]
  cases hl : Presentation.load d p.layout with
  | error e =>
    have hjobs : p.deckJobs d = .ok [] := by unfold deckJobs; rw [hl]
    have htexts : p.buildTexts d = .ok [] := by unfold buildTexts; rw [hl]
    rw [hjobs]
    unfold yield
    rw [htexts]
    dsimp only [Except.toOption, Option.isSome]
    rw [pure_bind, bind_ok (p.mapM_runJob d _ _), pure_run]
    cases sortResults (p.runJobs d ([] ++ p.fileJobs d) (p.opened d s)).1 with
    | error e => rfl
    | ok sorted => rfl
  | ok deck =>
    have hjobs : p.deckJobs d = slideJobs deck := by unfold deckJobs; rw [hl]
    have htexts : p.buildTexts d = p.deckTexts d deck := by unfold buildTexts; rw [hl]
    rw [hjobs]
    dsimp only [Except.toOption, Option.isSome]
    rw [pure_run]
    cases slideJobs deck with
    | error e => rfl
    | ok slides =>
      -- the modules ask for the deck again, and get the one that was read before the jobs
      have hdeck : (p.runJobs d (slides ++ p.fileJobs d) (p.opened d s)).2.deck = some deck := by
        rw [(p.runJobs_frame d _ _).1, opened, hl]
        rfl
      have hmodules := p.deckModules_run d hdeck
      unfold yield
      rw [htexts]
      dsimp only
      rw [bind_ok (p.mapM_runJob d _ _), pure_run]
      cases sortResults (p.runJobs d (slides ++ p.fileJobs d) (p.opened d s)).1 with
      | error e => rfl
      | ok sorted =>
        dsimp only
        rw [if_pos rfl]
        cases ht : p.deckTexts d deck with
        | error e =>
          rw [ht] at hmodules
          rw [bind_error hmodules]
          rfl
        | ok texts =>
          rw [ht] at hmodules
          rw [bind_ok hmodules]
          rfl

theorem fullBuild_versions (s : State) : ((p.fullBuild d).run.run s).2.versions = s.versions := by
  rw [fullBuild_run]
  cases p.deckJobs d with
  | error e => rfl
  | ok slides => exact (p.runJobs_frame d (slides ++ p.fileJobs d) (p.opened d s)).2

/-- A build that gets its slides and its modules comes to an end, whatever the files are. -/
theorem fullBuild_result (s : State) :
    match p.deckJobs d, p.buildTexts d with
    | .error e, _ => ((p.fullBuild d).run.run s).1 = .error e
    | .ok _, .error e => ((p.fullBuild d).run.run s).1 = .error e
    | .ok slides, .ok _ =>
      ∃ b, ((p.fullBuild d).run.run s).1 = .ok b ∧
        b.failures = p.deckFailures d ++ (slides ++ p.fileJobs d).filterMap p.failure? ∧
        b.artifacts.map Artifact.fileId =
          ((slides ++ p.fileJobs d).filter fun job => (p.jobFault job).isNone).map Job.fileId := by
  have hrun := p.fullBuild_run d s
  cases hjobs : p.deckJobs d with
  | error e =>
    rw [hjobs] at hrun
    exact congrArg Prod.fst hrun
  | ok slides =>
    rw [hjobs] at hrun
    obtain ⟨artifacts, hsort, hids⟩ := p.sortResults_runJobs d (slides ++ p.fileJobs d) (p.opened d s)
    cases htexts : p.buildTexts d with
    | error e =>
      refine (congrArg Prod.fst hrun).trans ?_
      dsimp only
      unfold yield
      rw [hsort, htexts]
      rfl
    | ok texts =>
      obtain ⟨b, hb, hartifacts, hfailures⟩ := p.yield_ok d hsort htexts
        (p.runJobs d (slides ++ p.fileJobs d) (p.opened d s)).2
      refine ⟨b, (congrArg Prod.fst hrun).trans hb, hfailures, ?_⟩
      rw [hartifacts]
      exact hids

end Pipeline

end DeckPress
