import DeckPress.Proofs.Component.Lookups
import DeckPress.Proofs.Pipeline.Build

/-!
# Jobs in any order

The jobs of a full build are shared out among workers, each of which does its share in order while the
others do theirs. A job takes steps: lookups in the listings, the beginning of its scan, and its end. So
what a build yields might depend on how the steps of the workers fall, through the listings that they
share. The terms they work under say how far: what a job fails with and which file its result belongs to
are certain, and where directories are listed alike, everything it yields and notes is.
-/

namespace DeckPress.Pipeline

open Component (Listings Importer)

variable (p : Pipeline) (d : Disk)

/-! ## The steps of a job -/

/-- Begins the scan of a file: the scan is counted, and then it learns its generation. -/
def scanSteps (a : Artifact) : Steps State (Option Style.Scan) :=
  if p.scope.covers a.fileId then
    .step (fun s => { s with collection := s.collection.enter }) fun _ =>
      .step id fun s => .done (p.scanOf s.collection a)
  else .done none

/-- Ends a scan: what it found is taken over, and then it is not counted any more. -/
def handInSteps : Option Style.Scan → Steps State Unit
  | some scan =>
    .step (fun s => { s with collection := s.collection.add scan }) fun _ =>
      .step (fun s => { s with collection := s.collection.leave }) fun _ => .done ()
  | none => .done ()

/-- What becomes of the file of a job before its components are imported. -/
def jobCompiled (job : Job) : Except Error Artifact :=
  match job.source with
  | .ok source => p.compiled job.fileId source
  | .error cause => .error (.compile job.fileId (.unreadable cause))

def withListings (listings : Listings) (s : State) : State := { s with listings }

/-- Imports the components of a file; the listings are a part of the state. -/
def importSteps (a : Artifact) : Steps State Artifact :=
  (p.importer.applySteps d a).within State.listings withListings

/-- Does a job. -/
def jobSteps (job : Job) : Steps State (Except Error Artifact) :=
  match p.jobCompiled job with
  | .error e => .done (.error e)
  | .ok a => (p.importSteps d a).bind fun imported => (p.scanSteps imported).bind fun scan =>
    (handInSteps scan).bind fun _ => .done (.ok (p.rewriteAssets d imported))

/-- Does jobs in their order. -/
def shareSteps : List Job → Steps State (List (String × Except Error Artifact))
  | [] => .done []
  | job :: jobs => (p.jobSteps d job).bind fun result => (shareSteps jobs).bind fun results =>
    .done ((job.fileId, result) :: results)

theorem importSteps_run (a : Artifact) (s : State) :
    (p.importSteps d a).run s =
      (((p.importer.apply d a).run s.listings).1,
        { s with listings := ((p.importer.apply d a).run s.listings).2 }) := by
  have hget : ∀ ls s, (withListings ls s).listings = ls := fun _ _ => rfl
  have hset : ∀ ls ls' s, withListings ls (withListings ls' s) = withListings ls s := fun _ _ _ => rfl
  have hself : ∀ s : State, withListings s.listings s = s := fun _ => rfl
  rw [importSteps, Steps.run_within hget hset hself, p.importer.applySteps_run]
  rfl

theorem jobFault_eq (job : Job) :
    p.jobFault job = match p.jobCompiled job with
      | .error e => some e
      | .ok _ => none := by
  unfold jobFault jobCompiled
  cases job.source with
  | error cause => rfl
  | ok source => cases hc : p.compiled job.fileId source <;> simp only [hc]

theorem jobCompiled_fileId {job : Job} {a : Artifact} (h : p.jobCompiled job = .ok a) :
    a.fileId = job.fileId := by
  unfold jobCompiled at h
  split at h
  · exact p.compiled_fileId h
  · cases h

/-- The end of a scan is reached in the state in which it was begun, if nobody else is at work. -/
theorem scan_run (a : Artifact) (s : State) :
    ((p.scanSteps a).bind handInSteps).run s = ((),
      { s with
        collection := close (p.entered s.collection a.fileId) (p.scanOf s.collection a) true }) := by
  unfold scanSteps scanOf entered
  split
  · rfl
  · rfl

theorem jobSteps_run (job : Job) (s : State) :
    (p.jobSteps d job).run s = (p.runJob d job).run s := by
  unfold jobSteps runJob jobCompiled
  cases job.source with
  | error cause => rfl
  | ok source =>
    show _ = (p.transform d job.fileId source).run.run s
    rw [transform_run]
    dsimp only
    cases hc : p.compiled job.fileId source with
    | error e => rfl
    | ok a =>
      have hid := (p.importer.apply_fileId d a s.listings).trans (p.compiled_fileId hc)
      have hscan := p.scan_run ((p.importer.apply d a).run s.listings).1
        { s with listings := ((p.importer.apply d a).run s.listings).2 }
      rw [Steps.run_bind] at hscan
      dsimp only
      rw [Steps.run_bind, importSteps_run, Steps.run_bind, Steps.run_bind, hscan, hid]
      rfl

theorem shareSteps_run (jobs : List Job) (s : State) :
    (p.shareSteps d jobs).run s = p.runJobs d jobs s := by
  induction jobs generalizing s with
  | nil => rfl
  | cons job jobs ih =>
    rw [shareSteps, Steps.run_bind, Steps.run_bind, jobSteps_run, ih]
    rfl

/-! ## What a job comes to -/

/-- What a job yields where nothing is remembered. -/
def outcome (job : Job) : Except Error Artifact :=
  (p.jobCompiled job).map fun a => p.rewriteAssets d (p.importer.imported d a)

/-- The tokens a job notes where nothing is remembered. -/
def jobTokens (job : Job) : Style.TokenSet :=
  match p.jobCompiled job with
  | .ok a => if p.scope.covers job.fileId then p.vocabulary.tokensIn (p.importer.imported d a).code else []
  | .error _ => []

/-- The directories in which components for the files of jobs are looked for. -/
def lookedIn (jobs : List Job) (dir : Path) : Prop :=
  ∃ job ∈ jobs, dir ∈ p.importer.searchDirs (Artifact.ofSource job.fileId "").directory?

/-- Of the directories in which components for these jobs are looked for, those that are equal as paths
are listed alike. -/
def ListedAlike (jobs : List Job) : Prop := p.importer.ListedAlike d (p.lookedIn jobs)

/-- A result that a job may have; the only one where directories are listed alike. -/
structure Answers (alike : Prop) (job : Job) (result : Except Error Artifact) : Prop where
  records : p.Records job result
  settled : alike → result = p.outcome d job

/-- A token that is noted for a file by one of these jobs. -/
def NotedBy (jobs : List Job) (x : String × String) : Prop :=
  ∃ job ∈ jobs, job.fileId = x.2 ∧ x.1 ∈ p.jobTokens d job

/-- What every job keeps: all of the state it starts from but the listings and the notes. -/
structure Kept (jobs : List Job) (start s : State) : Prop where
  deck : s.deck = start.deck
  versions : s.versions = start.versions
  shared : s.shared = start.shared
  generation : s.collection.generation = start.collection.generation
  tidy : s.collection.Tidy
  listings : p.ListedAlike d jobs → p.importer.Truthful d (p.lookedIn jobs) s.listings

/-- The terms on which jobs are done. Notes are only accounted for where directories are listed alike. -/
def terms (jobs : List Job) (start : State) : Terms State (String × String) where
  holds := p.Kept d jobs start
  noted s x := p.ListedAlike d jobs ∧ s.collection.Notes x.1 x.2

variable {p d}

/-- The collection may change as long as it stays tidy and in its generation. -/
theorem Kept.collection {jobs : List Job} {start s : State} (h : p.Kept d jobs start s)
    {c : Style.Collection} (hgeneration : c.generation = s.collection.generation) (htidy : c.Tidy) :
    p.Kept d jobs start { s with collection := c } :=
  ⟨h.deck, h.versions, h.shared, hgeneration.trans h.generation, htidy, h.listings⟩

theorem importSteps_meets {jobs : List Job} {start : State} {job : Job} {a : Artifact} (hjob : job ∈ jobs)
    (hid : a.fileId = job.fileId) :
    Meets (p.terms d jobs start) ⟨fun b => b.fileId = a.fileId ∧
      (p.ListedAlike d jobs → b = p.importer.imported d a), fun _ => False⟩ (p.importSteps d a) := by
  have hdirs : ∀ dir ∈ p.importer.searchDirs a.directory?, p.lookedIn jobs dir := by
    intro dir hdir
    refine ⟨job, hjob, ?_⟩
    rwa [Artifact.directory?, hid] at hdir
  refine Meets.within (t := p.terms d jobs start) State.listings withListings (fun _ _ h => h)
    (fun _ hs => hs.listings) (fun ls s hls hs => ?_) (fun _ _ _ => Iff.rfl)
    (Component.Importer.applySteps_meets hdirs)
  exact ⟨hs.deck, hs.versions, hs.shared, hs.generation, hs.tidy, hls⟩

theorem scanSteps_meets {jobs : List Job} {start : State} (a : Artifact) :
    Meets (p.terms d jobs start) ⟨fun scan => scan = p.scanOf start.collection a, fun _ => False⟩
      (p.scanSteps a) := by
  unfold scanSteps
  split
  · refine .step (fun _ _ => False) (fun s hs => hs.collection rfl (hs.tidy.of_uses rfl))
      (fun _ _ _ => Iff.rfl) fun s hs => ?_
    refine .step (fun _ _ => False) (fun _ hs => hs) (fun _ _ _ => Iff.rfl) fun s hs => ?_
    refine .done ?_ fun _ h => h
    -- no job starts a new generation, so the one that is read is that of the start
    unfold scanOf Style.Collection.newScan
    rw [hs.generation]
  · rename_i hcovers
    refine .done ?_ fun _ h => h
    rw [scanOf, if_neg hcovers]

theorem handInSteps_meets {jobs : List Job} {start : State} {scan : Option Style.Scan}
    (hscan : ∀ x ∈ scan, x.generation = start.collection.generation) :
    Meets (p.terms d jobs start) ⟨fun _ => True, fun x => p.ListedAlike d jobs ∧
      ∃ found ∈ scan, found.file = x.2 ∧ x.1 ∈ found.tokens⟩ (handInSteps scan) := by
  cases scan with
  | none => exact .done trivial (by simp)
  | some found =>
    refine .step (fun _ _ => False) (fun s hs => ?_) (fun s hs x => ?_) fun s hs => ?_
    · exact hs.collection (Style.Collection.add_generation _ _) ((hs.tidy.commit found).of_uses rfl)
    · have hgeneration : found.generation = s.collection.generation :=
        (hscan found rfl).trans hs.generation.symm
      have hnotes := Style.Collection.commit_notes hgeneration x.1 x.2
      show (p.ListedAlike d jobs ∧ (s.collection.commit found).Notes x.1 x.2) ∨ False ↔ _
      rw [hnotes]
      simp only [terms, Option.mem_some_iff]
      grind
    · refine .step (fun _ _ => False) (fun s hs => hs.collection rfl (hs.tidy.of_uses rfl))
        (fun _ _ _ => Iff.rfl) fun s hs => ?_
      exact .done trivial fun _ h => h

theorem scanOf_generation {c : Style.Collection} {a : Artifact} :
    ∀ x ∈ p.scanOf c a, x.generation = c.generation := by
  intro x hx
  unfold scanOf at hx
  split at hx
  · cases hx
    rfl
  · cases hx

/-- The scan of a file notes the tokens of its code. -/
theorem mem_scanOf {c : Style.Collection} {a : Artifact} {token file : String} :
    (∃ x ∈ p.scanOf c a, x.file = file ∧ token ∈ x.tokens) ↔
      p.scope.covers a.fileId ∧ a.fileId = file ∧ token ∈ p.vocabulary.tokensIn a.code := by
  unfold scanOf
  split
  · rename_i hcovers
    show (∃ x ∈ some _, _) ↔ _
    simp [hcovers, Style.Scan.record, Style.Collection.newScan]
  · rename_i hcovers
    simp [hcovers]

theorem mem_jobTokens {job : Job} {a : Artifact} (h : p.jobCompiled job = .ok a) {token : String} :
    token ∈ p.jobTokens d job ↔ p.scope.covers job.fileId ∧
      token ∈ p.vocabulary.tokensIn (p.importer.imported d a).code := by
  unfold jobTokens
  rw [h]
  dsimp only
  split <;> simp [*]

/-- A job comes to one of its answers, and notes what it is due to note. -/
theorem jobSteps_meets {jobs : List Job} {start : State} {job : Job} (hjob : job ∈ jobs) :
    Meets (p.terms d jobs start) ⟨p.Answers d (p.ListedAlike d jobs) job,
      fun x => p.ListedAlike d jobs ∧ job.fileId = x.2 ∧ x.1 ∈ p.jobTokens d job⟩ (p.jobSteps d job) := by
  have hfault := p.jobFault_eq job
  unfold jobSteps
  cases hc : p.jobCompiled job with
  | error e =>
    rw [hc] at hfault
    refine .done ⟨⟨?_, ?_⟩, ?_⟩ ?_
    · intro e' he
      rw [hfault] at he
      cases he
      rfl
    · intro hnone
      rw [hfault] at hnone
      cases hnone
    · intro _
      rw [outcome, hc]
      rfl
    · simp [jobTokens, hc]
  | ok a =>
    rw [hc] at hfault
    have hid := p.jobCompiled_fileId hc
    -- what is owed is told by the file as it is alone, which matters only where listings agree
    have hdebt : ∀ b : Artifact, b.fileId = a.fileId →
        (p.ListedAlike d jobs → b = p.importer.imported d a) → ∀ x : String × String,
        (p.ListedAlike d jobs ∧ ∃ found ∈ p.scanOf start.collection b, found.file = x.2 ∧
          x.1 ∈ found.tokens) ↔
        p.ListedAlike d jobs ∧ job.fileId = x.2 ∧ x.1 ∈ p.jobTokens d job := by
      intro b hb halone x
      rw [mem_scanOf, mem_jobTokens hc, hb, hid]
      constructor
      · rintro ⟨halike, hcovers, hfile, htoken⟩
        exact ⟨halike, hfile, hcovers, halone halike ▸ htoken⟩
      · rintro ⟨halike, hfile, hcovers, htoken⟩
        exact ⟨halike, hcovers, hfile, (halone halike).symm ▸ htoken⟩
    refine (importSteps_meets hjob hid).bind_owing (fun _ h => h) fun b hb => ?_
    refine (scanSteps_meets b).bind_owing (fun _ h => h) fun scan hscan => ?_
    subst hscan
    refine ((handInSteps_meets scanOf_generation).bind_paid fun _ _ => ?_).mono (fun _ h => h)
      (hdebt b hb.1 hb.2)
    refine .done ⟨⟨?_, fun _ => ⟨_, rfl, hb.1.trans hid⟩⟩, fun halike => ?_⟩ fun _ h => h
    · intro e he
      rw [hfault] at he
      cases he
    · rw [outcome, hc, hb.2 halike]
      rfl

variable (p d) in
/-- The answers of jobs, in their order. -/
def AllAnswer (alike : Prop) (jobs : List Job) (results : List (String × Except Error Artifact)) : Prop :=
  List.Forall₂ (fun job x => x.1 = job.fileId ∧ p.Answers d alike job x.2) jobs results

theorem shareSteps_meets {jobs share : List Job} {start : State} (hshare : ∀ job ∈ share, job ∈ jobs) :
    Meets (p.terms d jobs start) ⟨p.AllAnswer d (p.ListedAlike d jobs) share,
      fun x => p.ListedAlike d jobs ∧ p.NotedBy d share x⟩ (p.shareSteps d share) := by
  induction share with
  | nil => exact .done .nil (by simp [NotedBy])
  | cons job share ih =>
    have hrest := ih fun x hx => hshare x (List.mem_cons_of_mem job hx)
    have hsplit : ∀ x, (p.ListedAlike d jobs ∧ job.fileId = x.2 ∧ x.1 ∈ p.jobTokens d job) ∨
        (p.ListedAlike d jobs ∧ p.NotedBy d share x) ↔
        p.ListedAlike d jobs ∧ p.NotedBy d (job :: share) x := by
      intro x
      simp [NotedBy, and_or_left]
    refine ((jobSteps_meets (hshare job List.mem_cons_self)).bind fun result hresult => ?_).mono
      (fun _ h => h) hsplit
    refine hrest.bind_paid fun results hresults => ?_
    exact .done (.cons ⟨rfl, hresult⟩ hresults) fun _ h => h

theorem AllAnswer.recorded {alike : Prop} {jobs : List Job} {results : List (String × Except Error Artifact)}
    (h : p.AllAnswer d alike jobs results) : p.AllRecorded jobs results :=
  h.imp fun _ _ hx => ⟨hx.1, hx.2.records⟩

/-- Where directories are listed alike, there is one list of answers. -/
theorem AllAnswer.eq_outcomes {alike : Prop} {jobs : List Job}
    {results : List (String × Except Error Artifact)} (h : p.AllAnswer d alike jobs results) (halike : alike) :
    results = jobs.map fun job => (job.fileId, p.outcome d job) := by
  induction h with
  | nil => rfl
  | @cons job x jobs results hx _ ih =>
    obtain ⟨fileId, result⟩ := x
    obtain ⟨rfl, hanswers⟩ : fileId = job.fileId ∧ p.Answers d alike job result := hx
    rw [ih, List.map_cons, hanswers.settled halike]

/-! ## Shares -/

section Shares

variable {α : Type}

/-- Cuts a list into pieces of this length, the last of which may be shorter. -/
def cut (size : Nat) : List α → List (List α)
  | [] => []
  | x :: rest => (x :: rest.take (size - 1)) :: cut size (rest.drop (size - 1))
termination_by xs => xs.length
decreasing_by rw [List.length_drop, List.length_cons]; omega

/-- What each worker gets of a list: as much as is needed for all to have a share, and at least one. -/
def shares (workers : Nat) (xs : List α) : List (List α) :=
  cut (max 1 ((xs.length + workers - 1) / workers)) xs

/-- Nothing is left out of the pieces, and the order is kept. -/
theorem flatten_cut (size : Nat) (xs : List α) : (cut size xs).flatten = xs := by
  induction xs using cut.induct size with
  | case1 => rw [cut]; rfl
  | case2 x rest ih => rw [cut, List.flatten_cons, ih, List.cons_append, List.take_append_drop]

theorem flatten_shares (workers : Nat) (xs : List α) : (shares workers xs).flatten = xs :=
  flatten_cut _ xs

/-- What is not longer than a piece is one. -/
theorem cut_eq_singleton {size : Nat} {xs : List α} (hne : xs ≠ []) (h : xs.length ≤ size) :
    cut size xs = [xs] := by
  cases xs with
  | nil => contradiction
  | cons x rest =>
    rw [List.length_cons] at h
    rw [cut, List.take_of_length_le (by omega), List.drop_eq_nil_of_le (by omega), cut]

/-- Two workers get a half each, the first the larger one. -/
theorem shares_two {xs : List α} (h : 2 ≤ xs.length) :
    shares 2 xs = [xs.take ((xs.length + 1) / 2), xs.drop ((xs.length + 1) / 2)] := by
  unfold shares
  generalize hhalf : (xs.length + 1) / 2 = half
  have hsize : max 1 ((xs.length + 2 - 1) / 2) = half := by omega
  rw [hsize]
  cases xs with
  | nil => cases h
  | cons x rest =>
    rw [List.length_cons] at h hhalf
    obtain ⟨less, rfl⟩ : ∃ less, half = less + 1 := ⟨half - 1, by omega⟩
    have hlength : (rest.drop less).length = rest.length - less := List.length_drop
    have hne : rest.drop less ≠ [] := List.ne_nil_of_length_pos (by omega)
    rw [cut, Nat.add_sub_cancel, cut_eq_singleton hne (by omega)]
    rfl

end Shares

/-! ## Builds on a schedule -/

variable (p d)

/-- The workers of a build, each with its share of the jobs. -/
def crew (workers : Nat) (jobs : List Job) (s : State) : Crew State (List (String × Except Error Artifact)) :=
  ⟨s, (shares workers jobs).map (p.shareSteps d)⟩

/-- What a full build may come to with this many workers, which take their steps in any order. -/
inductive Scheduled (workers : Nat) (s : State) : Except Error Build → State → Prop where
  /-- The slides cannot be collected, and no worker is hired. -/
  | refused {e : Error} : p.deckJobs d = .error e → Scheduled workers s (.error e) (p.opened d s)
  | built {slides : List Job} {s' : State} {answers : List (List (String × Except Error Artifact))} :
      p.deckJobs d = .ok slides →
      (p.crew d workers (slides ++ p.fileJobs d) (p.opened d s)).Leads ⟨s', answers.map .done⟩ →
      Scheduled workers s (p.yield d answers.flatten s') s'

variable {p d}

/-- The terms hold when a build starts, and nothing is noted yet. -/
theorem opened_kept (jobs : List Job) (s : State) : p.Kept d jobs (p.opened d s) (p.opened d s) :=
  ⟨rfl, rfl, rfl, rfl, Style.Collection.Tidy.reset, fun _ => Component.Importer.truthful_nil⟩

theorem opened_not_notes (s : State) (token file : String) :
    ¬ (p.opened d s).collection.Notes token file := Style.Collection.reset_notes s.collection token file

theorem crew_keeps (workers : Nat) (jobs : List Job) (s : State) :
    Crew.Keeps (p.terms d jobs (p.opened d s))
      ((shares workers jobs).map (p.AllAnswer d (p.ListedAlike d jobs)))
      (fun x => p.ListedAlike d jobs ∧ p.NotedBy d jobs x) (p.crew d workers jobs (p.opened d s)) := by
  refine ⟨opened_kept jobs s, (shares workers jobs).map fun share => ⟨p.AllAnswer d (p.ListedAlike d jobs) share,
    fun x => p.ListedAlike d jobs ∧ p.NotedBy d share x⟩, by simp, ?_, fun x => ?_⟩
  · rw [crew, List.forall₂_map_left_iff, List.forall₂_map_right_iff, List.forall₂_same]
    intro share hshare
    refine shareSteps_meets fun job hjob => ?_
    rw [← flatten_shares workers jobs]
    exact List.mem_flatten.mpr ⟨share, hshare, hjob⟩
  · have hnone : ¬ (p.terms d jobs (p.opened d s)).noted (p.opened d s) x := fun h =>
      opened_not_notes s x.1 x.2 h.2
    rw [crew, or_iff_right hnone]
    have hall : p.NotedBy d jobs x ↔ ∃ share ∈ shares workers jobs, p.NotedBy d share x := by
      conv_lhs => rw [← flatten_shares workers jobs]
      unfold NotedBy
      simp only [List.mem_flatten]
      grind
    rw [hall]
    simp only [List.mem_map, exists_exists_and_eq_and]
    grind

/-- What the workers of a build leave when all of them are done. -/
theorem crew_done {workers : Nat} {jobs : List Job} {s s' : State}
    {answers : List (List (String × Except Error Artifact))}
    (h : (p.crew d workers jobs (p.opened d s)).Leads ⟨s', answers.map .done⟩) :
    p.Kept d jobs (p.opened d s) s' ∧ p.AllAnswer d (p.ListedAlike d jobs) jobs answers.flatten ∧
      ∀ x, p.ListedAlike d jobs → (s'.collection.Notes x.1 x.2 ↔ p.NotedBy d jobs x) := by
  obtain ⟨hkept, hanswers, hnotes⟩ := ((crew_keeps workers jobs s).leads h).done
  refine ⟨hkept, ?_, fun x halike => ?_⟩
  · -- answers are joined share by share, which is the order of the jobs
    rw [List.forall₂_map_left_iff] at hanswers
    have hflat := List.rel_flatten hanswers
    rwa [flatten_shares] at hflat
  · have hx := hnotes x
    simpa [terms, halike] using hx

/-- The same when one worker does all jobs in order. -/
theorem runJobs_done (jobs : List Job) (s : State) :
    p.Kept d jobs (p.opened d s) (p.runJobs d jobs (p.opened d s)).2 ∧
      p.AllAnswer d (p.ListedAlike d jobs) jobs (p.runJobs d jobs (p.opened d s)).1 ∧
      ∀ x, p.ListedAlike d jobs →
        ((p.runJobs d jobs (p.opened d s)).2.collection.Notes x.1 x.2 ↔ p.NotedBy d jobs x) := by
  obtain ⟨hanswers, hkept, hnotes⟩ :=
    (shareSteps_meets (p := p) (d := d) fun _ h => h).run (opened_kept jobs s)
  rw [shareSteps_run] at hanswers hkept hnotes
  refine ⟨hkept, hanswers, fun x halike => ?_⟩
  have hx := hnotes x
  have hnone := opened_not_notes (p := p) (d := d) s x.1 x.2
  simpa [terms, halike, hnone] using hx

end DeckPress.Pipeline
