import DeckPress.Proofs.Pipeline.Containment
import DeckPress.Proofs.Server.Following
import DeckPress.Proofs.Style.Scope

/-!
# Which edits reach the collection

A session is compared with a log that is kept without any session: which pipeline is in use, and the notes
of the passes that were made since it was last built. The log reads the disk and nothing else, and says
what each batch of changes comes to. A batch is dropped whole if the front matter of the deck cannot be
read, or if a new pipeline is needed and cannot be made; otherwise its files are run, and the slides only
if the deck itself is among them.

The collection of the session is the log. So an edit is lost exactly if the passes that show its tokens
are not in the log, and that happens: a batch that is dropped is not made up for later.
-/

namespace DeckPress.Session

open Pipeline (Pass Note Mentions)

/-- The disk after some edits, and the files that are reported as changed. -/
structure Batch where
  disk : Disk
  changed : List Path

/-- A session after a batch. -/
def step (s : Session) (b : Batch) : Session := ((handleChanges b.disk b.changed).run s).2

/-- The pipeline in use, and the notes made since it was built. -/
structure Log where
  pipeline : Pipeline
  notes : List Note

namespace Log

/-- The log of a pipeline that has just been built. -/
def start (p : Pipeline) (d : Disk) : Log := ⟨p, p.buildNotes d⟩

/-- What a batch comes to. -/
def follow (r : Project) (log : Log) (b : Batch) : Log :=
  match log.pipeline.needsReassemblyFor b.disk b.changed with
  | .ok true =>
    match Pipeline.assemble b.disk r with
    | .ok p => .start p b.disk
    | .error _ => log
  | .ok false =>
    { log with
      notes := log.notes ++
        (log.pipeline.notes b.disk [] (b.changed.flatMap (changePasses log.pipeline b.disk))).1 }
  | .error _ => log

end Log

/-! ## The session keeps the log -/

/-- A session whose collection says what a log says. -/
structure Keeps (r : Project) (log : Log) (s : Session) : Prop where
  project : s.project = r
  pipeline : s.pipeline = log.pipeline
  bounded : Bounded s
  tidy : s.state.collection.Tidy
  notes : ∀ token file, s.state.collection.Notes token file ↔ Mentions log.notes token file

theorem bounded_of_versions {s : Session} (h : s.state.versions = []) : Bounded s := by
  intro fileId version hl
  rw [h] at hl
  cases hl

/-- A session that builds a new pipeline keeps the log of that build. -/
theorem keeps_rebuild (d : Disk) (s : Session) (h : s.state.versions = []) :
    Keeps s.project (.start s.pipeline d) ((rebuild d).run s).2 := by
  obtain ⟨htidy, hnotes⟩ := s.pipeline.fullBuild_notes d s.state
  refine ⟨rfl, rfl, bounded_of_versions ?_, htidy, hnotes⟩
  exact (s.pipeline.fullBuild_versions d s.state).trans h

theorem keeps_start {d : Disk} {r : Project} {sync : Bool} {s : Session}
    (h : start d r sync = .ok s) : Keeps r (.start s.pipeline d) ((rebuild d).run s).2 := by
  obtain ⟨p, -, rfl⟩ := exists_of_start h
  exact keeps_rebuild d { project := r, pipeline := p, state := { shared := .initial sync } } rfl

theorem keeps_step {r : Project} {log : Log} {s : Session} (h : Keeps r log s) (b : Batch) :
    Keeps r (log.follow r b) (step s b) := by
  have hneeds : s.pipeline.needsReassemblyFor b.disk b.changed =
      log.pipeline.needsReassemblyFor b.disk b.changed := by rw [h.pipeline]
  unfold Log.follow step handleChanges
  show Keeps r _ (StateT.run (match s.pipeline.needsReassemblyFor b.disk b.changed with
    | .ok true => _
    | .ok false => _
    | .error _ => _ : StateM Session Unit) s).2
  rw [hneeds]
  cases log.pipeline.needsReassemblyFor b.disk b.changed with
  | error e => exact h
  | ok again =>
    cases again with
    | true =>
      dsimp only
      unfold reassemble
      show Keeps r _ (StateT.run (match Pipeline.assemble b.disk s.project with
        | .ok p => _
        | .error _ => _ : StateM Session Unit) s).2
      rw [h.project]
      cases Pipeline.assemble b.disk r with
      | error e => exact h
      | ok p =>
        have hbuilt := keeps_rebuild b.disk
          { s with pipeline := p, state := { shared := s.state.shared } } rfl
        rw [show Session.project _ = r from h.project] at hbuilt
        exact hbuilt
    | false =>
      -- the session forgets what it read, so its passes start where those of the log do
      have hrun := rescan_follows (d := b.disk) (s := { s with state := s.state.invalidate }) b.changed
        h.bounded (fun deck hd => by cases hd)
      refine ⟨hrun.project.trans h.project, hrun.pipeline.trans h.pipeline, hrun.bounded,
        hrun.after.tidy h.tidy, fun token file => ?_⟩
      rw [Pipeline.mentions_append, ← h.notes, ← h.pipeline]
      exact hrun.after.notes token file

theorem keeps_run {r : Project} {log : Log} {s : Session} (h : Keeps r log s) (batches : List Batch) :
    Keeps r (batches.foldl (Log.follow r) log) (batches.foldl step s) := by
  induction batches generalizing log s with
  | nil => exact h
  | cons b batches ih => exact ih (keeps_step h b)

/-! ## Being caught up -/

/-- The passes of the scanned files that can be read. -/
def filePasses (p : Pipeline) (d : Disk) : List Pass :=
  (p.scannedFiles d).filterMap fun file => (d.readText file).toOption.map (⟨file.text, ·⟩)

/-- All that a build passes over, if the slides can be had. -/
def allPasses (p : Pipeline) (d : Disk) : List Pass := slidePasses p d ++ filePasses p d

theorem filterMap_fileJobs (p : Pipeline) (d : Disk) :
    (p.fileJobs d).filterMap Pipeline.Job.pass? = filePasses p d := by
  unfold Pipeline.fileJobs filePasses
  rw [List.filterMap_map]
  congr 1
  funext file
  simp only [Function.comp_apply, Pipeline.Job.pass?]
  cases d.readText file <;> rfl

theorem filterMap_deckJobs {p : Pipeline} {d : Disk} {slides : List Pipeline.Job}
    (h : p.deckJobs d = .ok slides) : slides.filterMap Pipeline.Job.pass? = slidePasses p d := by
  unfold Pipeline.deckJobs at h
  unfold slidePasses
  cases hl : Presentation.load d p.layout with
  | error e =>
    rw [hl] at h
    cases h
    rfl
  | ok deck =>
    rw [hl] at h
    have hpass : ∀ x job, Pipeline.slideJob x = .ok job → job.pass? = slidePass? x := by
      intro x job hjob
      unfold Pipeline.slideJob at hjob
      unfold slidePass?
      cases hm : x.2.markdown (ModuleId.text (.slide x.1)) with
      | error e => rw [hm] at hjob; cases hjob
      | ok text => rw [hm] at hjob; cases hjob; rfl
    have hmap : slides.map Pipeline.Job.pass? = deck.visible.map slidePass? :=
      mapM_map_eq ((Pipeline.slideJobs_eq deck).symm.trans h) hpass
    simpa using congrArg (List.filterMap id) hmap

/-- If the slides can be had, a build passes over all of them and over all files. -/
theorem buildPasses_eq {p : Pipeline} {d : Disk} {slides : List Pipeline.Job}
    (h : p.deckJobs d = .ok slides) : p.buildPasses d = allPasses p d := by
  unfold Pipeline.buildPasses allPasses
  rw [h]
  dsimp only
  rw [List.filterMap_append, filterMap_deckJobs h, filterMap_fileJobs]

/-- What is scanned is a file that the scope covers, and not the deck. -/
theorem of_mem_scannedFiles {p : Pipeline} {d : Disk} {file : Path} (h : file ∈ p.scannedFiles d) :
    (file == p.layout.entry) = false ∧ d.isFile file = true ∧ p.scope.covers file.text = true := by
  unfold Pipeline.scannedFiles at h
  obtain ⟨hfile, hentry⟩ := List.mem_filter.mp h
  unfold Style.Scope.files at hfile
  rcases Style.Scope.mem_foldl_insertPath hfile with hfile | hfile
  · cases hfile
  · have hcov := (List.mem_filter.mp hfile).2
    simp only [Bool.and_eq_true] at hcov
    exact ⟨by simpa using hentry, hcov⟩

/-- A scanned file that is reported is passed over. -/
theorem filePasses_sub_changePasses {p : Pipeline} {d : Disk} {x : Pass} {file : Path}
    (hx : x ∈ filePasses p d) (hfile : file.text = x.fileId) : x ∈ changePasses p d file := by
  obtain ⟨scanned, hmem, hread⟩ := List.mem_filterMap.mp hx
  obtain ⟨hentry, hisFile, hcov⟩ := of_mem_scannedFiles hmem
  cases hr : d.readText scanned with
  | error e => rw [hr] at hread; cases hread
  | ok source =>
    rw [hr] at hread
    cases hread
    cases file
    cases hfile
    unfold changePasses
    rw [if_neg (by rw [hentry]; exact Bool.false_ne_true), hisFile, hcov, hr]
    exact List.mem_singleton.mpr rfl

/-- Of everything that a build of the disk would pass over there is a note. -/
def CaughtUp (log : Log) (d : Disk) : Prop :=
  ∀ x ∈ allPasses log.pipeline d, ∃ n ∈ log.notes, n.pass = x

theorem exists_note {p : Pipeline} {d : Disk} {ls : Component.Listings} {xs : List Pass} {x : Pass}
    (h : x ∈ xs) : ∃ n ∈ (p.notes d ls xs).1, n.pass = x := by
  rw [← p.notes_pass d ls xs] at h
  exact List.mem_map.mp h

theorem caughtUp_start {p : Pipeline} {d : Disk} {slides : List Pipeline.Job}
    (h : p.deckJobs d = .ok slides) : CaughtUp (.start p d) d := by
  intro x hx
  rw [show allPasses (Log.start p d).pipeline d = p.buildPasses d from (buildPasses_eq h).symm] at hx
  exact exists_note hx

/-- A batch after which nothing is missing, if nothing was missing before. -/
inductive Attends (r : Project) (log : Log) (d : Disk) (b : Batch) : Prop
  /-- A pipeline is needed and made, and the slides can be had. -/
  | rebuilt {p : Pipeline} {slides : List Pipeline.Job}
    (needed : log.pipeline.needsReassemblyFor b.disk b.changed = .ok true)
    (assembled : Pipeline.assemble b.disk r = .ok p)
    (collected : p.deckJobs b.disk = .ok slides)
  /-- The pipeline stays. Files with a new text are reported, and so is the deck if a slide has one. -/
  | followed
    (needless : log.pipeline.needsReassemblyFor b.disk b.changed = .ok false)
    (files : ∀ x ∈ filePasses log.pipeline b.disk, x ∉ filePasses log.pipeline d →
      ∃ file ∈ b.changed, file.text = x.fileId)
    (slides : ∀ x ∈ slidePasses log.pipeline b.disk, x ∉ slidePasses log.pipeline d →
      ∃ file ∈ b.changed, file == log.pipeline.layout.entry)

theorem caughtUp_follow {r : Project} {log : Log} {d : Disk} {b : Batch} (h : Attends r log d b)
    (hlog : CaughtUp log d) : CaughtUp (log.follow r b) b.disk := by
  unfold Log.follow
  cases h with
  | rebuilt needed assembled collected =>
    rw [needed]
    dsimp only
    rw [assembled]
    exact caughtUp_start collected
  | followed needless files slides =>
    rw [needless]
    dsimp only
    -- what was passed over before keeps its note, and what is new is named by the batch
    have hold : ∀ x ∈ allPasses log.pipeline d, ∃ n ∈ log.notes ++ (log.pipeline.notes b.disk []
        (b.changed.flatMap (changePasses log.pipeline b.disk))).1, n.pass = x := by
      intro x hx
      obtain ⟨n, hn, hpass⟩ := hlog x hx
      exact ⟨n, List.mem_append_left _ hn, hpass⟩
    have hnew : ∀ file ∈ b.changed, ∀ x ∈ changePasses log.pipeline b.disk file,
        ∃ n ∈ log.notes ++ (log.pipeline.notes b.disk []
          (b.changed.flatMap (changePasses log.pipeline b.disk))).1, n.pass = x := by
      intro file hfile x hx
      have hnote : ∃ n ∈ (log.pipeline.notes b.disk []
          (b.changed.flatMap (changePasses log.pipeline b.disk))).1, n.pass = x :=
        exists_note (List.mem_flatMap.mpr ⟨file, hfile, hx⟩)
      obtain ⟨n, hn, hpass⟩ := hnote
      exact ⟨n, List.mem_append_right _ hn, hpass⟩
    intro x hx
    rcases List.mem_append.mp hx with hx | hx
    · by_cases hbefore : x ∈ slidePasses log.pipeline d
      · exact hold x (List.mem_append_left _ hbefore)
      · obtain ⟨file, hfile, hentry⟩ := slides x hx hbefore
        refine hnew file hfile x ?_
        unfold changePasses
        rw [if_pos hentry]
        exact hx
    · by_cases hbefore : x ∈ filePasses log.pipeline d
      · exact hold x (List.mem_append_right _ hbefore)
      · obtain ⟨file, hfile, htext⟩ := files x hx hbefore
        exact hnew file hfile x (filePasses_sub_changePasses hx htext)

/-- Batches that are attended to one after the other. -/
def Attended (r : Project) : Log → Disk → List Batch → Prop
  | _, _, [] => True
  | log, d, b :: batches => Attends r log d b ∧ Attended r (log.follow r b) b.disk batches

/-- The disk after some batches. -/
def diskAfter (d : Disk) (batches : List Batch) : Disk := batches.foldl (fun _ b => b.disk) d

theorem caughtUp_run {r : Project} {log : Log} {d : Disk} {batches : List Batch}
    (h : Attended r log d batches) (hlog : CaughtUp log d) :
    CaughtUp (batches.foldl (Log.follow r) log) (diskAfter d batches) := by
  induction batches generalizing log d with
  | nil => exact hlog
  | cons b batches ih => exact ih h.2 (caughtUp_follow h.1 hlog)

/-! ## What is kept -/

/-- A session that builds its project and follows some batches. -/
def after (d : Disk) (batches : List Batch) (s : Session) : Session :=
  batches.foldl step ((rebuild d).run s).2

/-- The log of such a session. -/
def Log.after (r : Project) (p : Pipeline) (d : Disk) (batches : List Batch) : Log :=
  batches.foldl (Log.follow r) (.start p d)

/-- The tokens that a pipeline which has run nothing yet collects in a build. -/
def freshTokens (p : Pipeline) (d : Disk) : Style.TokenSet :=
  ((p.fullBuild d).run.run { shared := .initial false }).2.collection.tokens

/-- A pipeline that finds nothing which the log cannot have: it passes over no more than the pipeline in
use, and a pass brings it no token that it did not bring when its note was made. -/
structure Agrees (p : Pipeline) (log : Log) (d : Disk) : Prop where
  passes : ∀ x ∈ p.buildPasses d, x ∈ allPasses log.pipeline d
  tokens : ∀ n ∈ p.buildNotes d, ∀ m ∈ log.notes, m.pass = n.pass →
    ∀ token ∈ n.tokens, token ∈ m.tokens

instance (p : Pipeline) (log : Log) (d : Disk) : Decidable (Agrees p log d) :=
  decidable_of_iff ((∀ x ∈ p.buildPasses d, x ∈ allPasses log.pipeline d) ∧
      ∀ n ∈ p.buildNotes d, ∀ m ∈ log.notes, m.pass = n.pass → ∀ token ∈ n.tokens, token ∈ m.tokens)
    ⟨fun h => ⟨h.1, h.2⟩, fun h => ⟨h.passes, h.tokens⟩⟩

/-- Where the log is caught up with the disk, it has the tokens of every pipeline that agrees with it. -/
theorem CaughtUp.tokens {p : Pipeline} {log : Log} {d : Disk} (h : CaughtUp log d)
    (hp : Agrees p log d) :
    ∀ n ∈ p.buildNotes d, ∀ token ∈ n.tokens, ∃ m ∈ log.notes, token ∈ m.tokens := by
  intro n hn token htoken
  have hpass : n.pass ∈ p.buildPasses d := by
    rw [← p.notes_pass d [] (p.buildPasses d)]
    exact List.mem_map_of_mem hn
  obtain ⟨m, hm, heq⟩ := h n.pass (hp.passes n.pass hpass)
  exact ⟨m, hm, hp.tokens n hn m hm heq token htoken⟩

/-- A session has the tokens of a build if and only if its log has them. -/
theorem Keeps.tokens_iff {r : Project} {log : Log} {s : Session} (h : Keeps r log s) (p : Pipeline)
    (d : Disk) :
    (∀ token ∈ freshTokens p d, token ∈ s.state.collection.tokens) ↔
      ∀ n ∈ p.buildNotes d, ∀ token ∈ n.tokens, ∃ m ∈ log.notes, token ∈ m.tokens := by
  have hkept : ∀ token, token ∈ s.state.collection.tokens ↔ ∃ m ∈ log.notes, token ∈ m.tokens := by
    intro token
    rw [h.tidy.mem_tokens]
    simp only [h.notes, Mentions]
    grind
  unfold freshTokens
  simp only [hkept, Pipeline.mem_tokens_fullBuild]
  constructor
  · exact fun hall n hn token htoken => hall token ⟨n, hn, htoken⟩
  · rintro hall token ⟨n, hn, htoken⟩
    exact hall n hn token htoken

/--
**An edit is kept exactly if it is in the log.**

A session that was started and built, and then followed any batches of changes, uses the pipeline of its
log and has collected what the notes of the log say. So for every pipeline assembled from the disk as it
is now, the session has the tokens of its build if and only if each is in a note of the log. This is so
if every batch was attended to and the pipeline agrees with the log.
-/
theorem edits_kept_iff {d : Disk} {r : Project} {sync : Bool} {s : Session}
    (h : start d r sync = .ok s) (batches : List Batch) :
    (after d batches s).pipeline = (Log.after r s.pipeline d batches).pipeline ∧
    (∀ token file, (after d batches s).state.collection.Notes token file ↔
      Mentions (Log.after r s.pipeline d batches).notes token file) ∧
    ∀ p,
      ((∀ token ∈ freshTokens p (diskAfter d batches),
          token ∈ (after d batches s).state.collection.tokens) ↔
        ∀ n ∈ p.buildNotes (diskAfter d batches), ∀ token ∈ n.tokens,
          ∃ m ∈ (Log.after r s.pipeline d batches).notes, token ∈ m.tokens) ∧
      ((∃ slides, s.pipeline.deckJobs d = .ok slides) →
        Attended r (.start s.pipeline d) d batches →
        Agrees p (Log.after r s.pipeline d batches) (diskAfter d batches) →
        ∀ token ∈ freshTokens p (diskAfter d batches),
          token ∈ (after d batches s).state.collection.tokens) := by
  have hkeeps : Keeps r (Log.after r s.pipeline d batches) (after d batches s) :=
    keeps_run (keeps_start h) batches
  refine ⟨hkeeps.pipeline, hkeeps.notes, fun p => ⟨hkeeps.tokens_iff p _, ?_⟩⟩
  rintro ⟨slides, hslides⟩ hattended hagrees
  have hcaught : CaughtUp (Log.after r s.pipeline d batches) (diskAfter d batches) :=
    caughtUp_run hattended (caughtUp_start hslides)
  exact (hkeeps.tokens_iff p _).mpr (hcaught.tokens hagrees)

/-- A deck, and a component beside it. -/
def cardDisk (deck card : String) : Disk := Pipeline.smallDisk [("slides.md", deck), ("Card.vue", card)]

/-- A project that scans the component. -/
def cardProject : Project := Pipeline.smallProject ["Card.vue"]

/-- The component without a class. -/
def plainCard : Disk := cardDisk "" "<p/>"

/-- The component with a class. -/
def flexCard : Disk := cardDisk "" "<p class='flex'/>"

/-- If the component alone is changed, and reported, its class is kept. -/
theorem edits_kept_card :
    ∃ s, start plainCard cardProject false = .ok s ∧ "flex" ∈ freshTokens s.pipeline flexCard ∧
      ∀ token ∈ freshTokens s.pipeline flexCard,
        token ∈ (after plainCard [⟨flexCard, [⟨"/Card.vue"⟩]⟩] s).state.collection.tokens := by
  obtain ⟨s, hs, hrun⟩ := Pipeline.exists_ok (start plainCard cardProject false)
    (fun s =>
      (s.pipeline.deckJobs plainCard).toOption.any (fun _ => true) &&
      (s.pipeline.needsReassemblyFor flexCard [⟨"/Card.vue"⟩]).toOption.any (! ·) &&
      decide (∀ x ∈ filePasses s.pipeline flexCard, x ∉ filePasses s.pipeline plainCard →
        ∃ file ∈ [Path.mk "/Card.vue"], file.text = x.fileId) &&
      decide (slidePasses s.pipeline flexCard = []) &&
      decide (Agrees s.pipeline
        (.after cardProject s.pipeline plainCard [⟨flexCard, [⟨"/Card.vue"⟩]⟩]) flexCard) &&
      decide ("flex" ∈ freshTokens s.pipeline flexCard))
    (by decide +kernel)
  simp only [Bool.and_eq_true, decide_eq_true_eq] at hrun
  obtain ⟨⟨⟨⟨⟨hjobs, hneeds⟩, hfiles⟩, hslides⟩, hagrees⟩, hflex⟩ := hrun
  obtain ⟨slides, hjobs, -⟩ := Pipeline.exists_ok _ _ hjobs
  obtain ⟨again, hneeds, hagain⟩ := Pipeline.exists_ok _ _ hneeds
  obtain ⟨-, -, hkept⟩ := edits_kept_iff hs [⟨flexCard, [⟨"/Card.vue"⟩]⟩]
  refine ⟨s, hs, hflex, (hkept s.pipeline).2 ⟨slides, hjobs⟩ ⟨.followed ?_ hfiles ?_, trivial⟩ hagrees⟩
  · simpa [Log.start, hneeds] using hagain
  · intro x hx
    rw [show (Log.start s.pipeline plainCard).pipeline = s.pipeline from rfl, hslides] at hx
    cases hx

/-- The front matter of the deck is broken while the component gets its class, and mended after. -/
def brokenDeck : List Batch :=
  [⟨cardDisk "---\na: [\n---\n" "<p class='flex'/>", [⟨"/slides.md"⟩, ⟨"/Card.vue"⟩]⟩,
    ⟨flexCard, [⟨"/slides.md"⟩]⟩]

/-- The class of the component is lost: the batch that reports it is dropped because of the deck, and the
next one does not report it. A build of the mended deck has the class, and has no failures. -/
theorem edit_lost_of_brokenDeck :
    ∃ s p b b', start plainCard cardProject false = .ok s ∧
      ((s.pipeline.fullBuild plainCard).run.run s.state).1 = .ok b ∧ b.failures = [] ∧
      Pipeline.assemble (diskAfter plainCard brokenDeck) cardProject = .ok p ∧
      ((p.fullBuild (diskAfter plainCard brokenDeck)).run.run { shared := .initial false }).1 = .ok b' ∧
      b'.failures = [] ∧
      "flex" ∈ freshTokens p (diskAfter plainCard brokenDeck) ∧
      "flex" ∉ (after plainCard brokenDeck s).state.collection.tokens := by
  obtain ⟨s, hs, hrun⟩ := Pipeline.exists_ok (start plainCard cardProject false)
    (fun s =>
      ((s.pipeline.fullBuild plainCard).run.run s.state).1.toOption.any (·.failures = []) &&
      decide ("flex" ∉ (after plainCard brokenDeck s).state.collection.tokens))
    (by decide +kernel)
  obtain ⟨p, hp, hfresh⟩ := Pipeline.exists_ok
    (Pipeline.assemble (diskAfter plainCard brokenDeck) cardProject)
    (fun p =>
      ((p.fullBuild (diskAfter plainCard brokenDeck)).run.run
        { shared := .initial false }).1.toOption.any (·.failures = []) &&
      decide ("flex" ∈ freshTokens p (diskAfter plainCard brokenDeck)))
    (by decide +kernel)
  simp only [Bool.and_eq_true, decide_eq_true_eq] at hrun hfresh
  obtain ⟨b, hb, hclean⟩ := Pipeline.exists_ok _ _ hrun.1
  obtain ⟨b', hb', hclean'⟩ := Pipeline.exists_ok _ _ hfresh.1
  exact ⟨s, p, b, b', hs, hb, of_decide_eq_true hclean, hp, hb', of_decide_eq_true hclean', hfresh.2,
    hrun.2⟩

end DeckPress.Session
