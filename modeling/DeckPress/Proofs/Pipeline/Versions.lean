import DeckPress.Proofs.Pipeline.Run

/-!
# Versions in any order

A run of a version is submitted, goes through its stages, and is finished; between any two of these steps
other runs may be submitted, go on, fail or be finished. The machine below takes the steps of all runs in
any order. A run holds on to nothing but its draft: whether it is superseded is decided when it is
finished, by the version that is then on record.

Two invariants carry the result. The version on record is the largest submitted so far. And a run can be
repeated: in every later state its stages so far make the same of its source, because listings are only
ever added. So what a run emits is what a preview yields, then and at any time after.
-/

namespace DeckPress.Pipeline

open Component (Listings)

/-- A run under way. -/
structure Running where
  commit : Commit
  fileId : String
  source : String
  draft : Draft
  /-- The stages still to come. -/
  ahead : List Stage

/-- A run before its first stage. -/
def Running.begin (commit : Commit) (fileId source : String) : Running :=
  { commit, fileId, source, draft := { artifact := .ofSource fileId source }, ahead := Stage.order }

/-- A pipeline with the runs under way. -/
structure World where
  state : State
  running : List Running := []
  /-- The versions submitted so far, each with its file. -/
  submitted : List (String × Nat) := []
  /-- The runs finished so far, each with what it came to. -/
  answers : List (Running × Outcome) := []

/-- The largest version submitted for a file. -/
def latest? (submitted : List (String × Nat)) (fileId : String) : Option Nat :=
  ((submitted.filter (·.1 = fileId)).map Prod.snd).max?

/-- One step of one run, on a disk that stays as it is. -/
inductive Step (p : Pipeline) (d : Disk) : World → World → Prop where
  | submit {w : World} {fileId source : String} {version : Nat} {s : State} :
      (submit fileId version).run w.state = (true, s) →
      Step p d w { w with
        state := s
        running := w.running ++ [.begin (.ifCurrent version) fileId source]
        submitted := w.submitted ++ [(fileId, version)] }
  /-- There is a newer version, and no run begins. -/
  | refuse {w : World} {fileId : String} {version : Nat} {s : State} :
      (submit fileId version).run w.state = (false, s) →
      Step p d w { w with state := s, submitted := w.submitted ++ [(fileId, version)] }
  | transform (w : World) (fileId source : String) :
      Step p d w { w with running := w.running ++ [.begin .always fileId source] }
  | preview (w : World) (fileId source : String) :
      Step p d w { w with running := w.running ++ [.begin .never fileId source] }
  | stage {w : World} {before after : List Running} {r : Running} {stage : Stage}
      {ahead : List Stage} {draft : Draft} {s : State} :
      w.running = before ++ r :: after → r.ahead = stage :: ahead →
      (p.runStage d r.draft stage).run.run w.state = (.ok draft, s) →
      Step p d w { w with state := s, running := before ++ { r with draft, ahead } :: after }
  | fail {w : World} {before after : List Running} {r : Running} {stage : Stage}
      {ahead : List Stage} {e : Error} {s : State} :
      w.running = before ++ r :: after → r.ahead = stage :: ahead →
      (p.runStage d r.draft stage).run.run w.state = (.error e, s) →
      Step p d w { w with state := s, running := before ++ after }
  | finish {w : World} {before after : List Running} {r : Running} {outcome : Outcome} {s : State} :
      w.running = before ++ r :: after → r.ahead = [] →
      (Pipeline.finish r.commit r.draft).run w.state = (outcome, s) →
      Step p d w { w with
        state := s
        running := before ++ after
        answers := w.answers ++ [(r, outcome)] }

/-- What steps lead to from a state in which no version was submitted. -/
inductive Reachable (p : Pipeline) (d : Disk) : World → Prop where
  | init (s : State) : s.versions = [] → Reachable p d { state := s }
  | tail {w w' : World} : Reachable p d w → Step p d w w' → Reachable p d w'

/-! ## The version on record -/

theorem max?_snoc (versions : List Nat) (v : Nat) :
    (versions ++ [v]).max? = some (max (versions.max?.getD v) v) := by
  cases versions with
  | nil => simp
  | cons x rest =>
    rw [List.cons_append, List.max?_cons', List.max?_cons', List.foldl_append]
    rfl

theorem latest?_snoc (submitted : List (String × Nat)) (fileId other : String) (version : Nat) :
    latest? (submitted ++ [(fileId, version)]) other =
      if other = fileId then some (max ((latest? submitted other).getD version) version)
      else latest? submitted other := by
  unfold latest?
  by_cases h : other = fileId
  · subst h
    rw [if_pos rfl, List.filter_append, List.map_append]
    simpa using max?_snoc ((submitted.filter (·.1 = other)).map Prod.snd) version
  · rw [if_neg h, List.filter_append]
    simp [Ne.symm h]

/-- The version on record for each file is the largest submitted. -/
def Latest (w : World) : Prop :=
  ∀ fileId, w.state.versions.lookup fileId = latest? w.submitted fileId

theorem latest_submit {w : World} {fileId : String} {version : Nat} {s : State}
    (h : Latest w) (hs : (submit fileId version).run w.state = (true, s)) (other : String) :
    s.versions.lookup other = latest? (w.submitted ++ [(fileId, version)]) other := by
  rw [submit_run] at hs
  split at hs
  · rename_i hle
    cases hs
    rw [lookup_insertSorted, latest?_snoc, ← h other]
    by_cases ho : other = fileId
    · subst ho
      rw [if_pos rfl, if_pos rfl, Nat.max_eq_right hle]
    · rw [if_neg ho, if_neg ho]
  · cases hs

theorem latest_refuse {w : World} {fileId : String} {version : Nat} {s : State}
    (h : Latest w) (hs : (submit fileId version).run w.state = (false, s)) :
    s = w.state ∧ ∀ other,
      s.versions.lookup other = latest? (w.submitted ++ [(fileId, version)]) other := by
  rw [submit_run] at hs
  split at hs
  · cases hs
  · rename_i hlt
    cases hs
    refine ⟨rfl, fun other => ?_⟩
    rw [latest?_snoc, ← h other]
    by_cases ho : other = fileId
    · subst ho
      rw [if_pos rfl]
      -- a version is refused only by a larger one on record
      cases hl : w.state.versions.lookup other with
      | none => rw [hl] at hlt; exact absurd (Nat.le_refl _) hlt
      | some n =>
        rw [hl, Option.getD_some] at hlt
        exact congrArg some (Nat.max_eq_left (Nat.le_of_not_le hlt)).symm
    · rw [if_neg ho]

/-! ## Runs can be repeated -/

/-- In every state that has the listings of `s`, the stages make this of the source. -/
def Replays (p : Pipeline) (d : Disk) (s : State) (fileId source : String) (stages : List Stage)
    (a : Artifact) : Prop :=
  ∀ later : State, s.listings.Extends later.listings →
    ∃ draft later', (stages.foldlM (p.runStage d) { artifact := .ofSource fileId source }).run.run later
        = (.ok draft, later') ∧
      draft.artifact = a ∧ later'.listings = later.listings

theorem Replays.mono {p : Pipeline} {d : Disk} {s s' : State} {fileId source : String}
    {stages : List Stage} {a : Artifact} (h : Replays p d s fileId source stages a)
    (hl : s.listings.Extends s'.listings) : Replays p d s' fileId source stages a :=
  fun later hlater => h later (hl.trans hlater)

/-- What a preview of a repeatable run yields. -/
theorem Replays.preview {p : Pipeline} {d : Disk} {s : State} {fileId source : String} {a : Artifact}
    (h : Replays p d s fileId source Stage.order a) :
    ((p.preview d fileId source).run.run s).1 = .ok a := by
  obtain ⟨draft, later, hrun, ha, -⟩ := h s (.refl _)
  rw [preview_run p d hrun, ha]

/-- A run under way: its draft is its file's, with its own scan, and its stages so far can be repeated. -/
structure Sound (p : Pipeline) (d : Disk) (s : State) (r : Running) : Prop where
  own : OwnScan r.draft s
  file : r.draft.artifact.fileId = r.fileId
  replays : ∃ done, done ++ r.ahead = Stage.order ∧
    Replays p d s r.fileId r.source done r.draft.artifact

variable {p : Pipeline} {d : Disk}

theorem Sound.mono {s s' : State} {r : Running} (h : Sound p d s r)
    (hgen : s'.collection.generation = s.collection.generation)
    (hl : s.listings.Extends s'.listings) : Sound p d s' r where
  own scan hs := ⟨(h.own scan hs).1, (h.own scan hs).2.trans hgen.symm⟩
  file := h.file
  replays := by
    obtain ⟨done, hd, hr⟩ := h.replays
    exact ⟨done, hd, hr.mono hl⟩

theorem sound_begin (s : State) (commit : Commit) (fileId source : String) :
    Sound p d s (.begin commit fileId source) where
  own := by intro scan hs; cases hs
  file := rfl
  replays := ⟨[], rfl, fun later _ => ⟨_, later, rfl, rfl, rfl⟩⟩

theorem Sound.stage {s s' : State} {r : Running} {stage : Stage} {ahead : List Stage} {draft : Draft}
    (h : Sound p d s r) (ha : r.ahead = stage :: ahead)
    (hrun : (p.runStage d r.draft stage).run.run s = (.ok draft, s')) :
    Sound p d s' { r with draft, ahead } := by
  obtain ⟨hid, hown⟩ := p.runStage_ok d hrun h.own
  have hgrow : s.listings.Extends s'.listings := by
    have hf := (p.runStage_frame d r.draft stage s).listings
    rwa [hrun] at hf
  refine ⟨hown, hid.trans h.file, ?_⟩
  obtain ⟨done, hd, hrep⟩ := h.replays
  refine ⟨done ++ [stage], by rw [← hd, ha, List.append_assoc]; rfl, fun later hlater => ?_⟩
  obtain ⟨again, mid, hagain, hart, hmid⟩ := hrep later (hgrow.trans hlater)
  obtain ⟨again', later', hstage, hart', hlater'⟩ :=
    p.runStage_again d hrun (by rw [hmid]; exact hlater) hart
  exact ⟨again', later', by rw [foldlM_snoc, bind_ok hagain, hstage], hart', hlater'.trans hmid⟩

/-! ## What holds between any two steps -/

/-- What a finished run came to: an artifact that a preview yields too, or nothing for a version. -/
structure Answered (p : Pipeline) (d : Disk) (s : State) (r : Running) (outcome : Outcome) : Prop where
  emitted : ∀ a, outcome = .emitted a → Replays p d s r.fileId r.source Stage.order a
  superseded : outcome = .superseded → ∃ version, r.commit = .ifCurrent version

structure VersionInv (p : Pipeline) (d : Disk) (w : World) : Prop where
  latest : Latest w
  sound : ∀ r ∈ w.running, Sound p d w.state r
  answered : ∀ x ∈ w.answers, Answered p d w.state x.1 x.2

theorem Answered.mono {s s' : State} {r : Running} {outcome : Outcome}
    (h : Answered p d s r outcome) (hl : s.listings.Extends s'.listings) :
    Answered p d s' r outcome :=
  ⟨fun a ha => (h.emitted a ha).mono hl, h.superseded⟩

theorem finish_superseded {commit : Commit} {draft : Draft} {s : State}
    (h : ((finish commit draft).run s).1 = .superseded) : ∃ version, commit = .ifCurrent version := by
  rw [finish_run] at h
  cases commit with
  | always => cases h
  | never => cases h
  | ifCurrent version => exact ⟨version, rfl⟩

theorem finish_emitted {commit : Commit} {draft : Draft} {s : State} {a : Artifact}
    (h : ((finish commit draft).run s).1 = .emitted a) : a = draft.artifact := by
  rw [finish_run] at h
  cases commit with
  | always => cases h; rfl
  | never => cases h; rfl
  | ifCurrent version =>
    dsimp only at h
    split at h
    · cases h; rfl
    · cases h

theorem versionInv_init {s : State} (h : s.versions = []) : VersionInv p d { state := s } where
  latest := by intro fileId; simp [h, latest?]
  sound := by intro r hr; cases hr
  answered := by intro x hx; cases hx

/-- What happens to the state in a step on one run leaves the other runs sound. -/
theorem VersionInv.others {w : World} {s : State} (h : VersionInv p d w)
    (hgen : s.collection.generation = w.state.collection.generation)
    (hl : w.state.listings.Extends s.listings) :
    (∀ r ∈ w.running, Sound p d s r) ∧ ∀ x ∈ w.answers, Answered p d s x.1 x.2 :=
  ⟨fun r hr => (h.sound r hr).mono hgen hl, fun x hx => (h.answered x hx).mono hl⟩

theorem versionInv_step {w w' : World} (h : VersionInv p d w) (hs : Step p d w w') :
    VersionInv p d w' := by
  cases hs with
  | @submit fileId source version s hsub =>
    have hstate : s.collection = w.state.collection ∧ s.listings = w.state.listings := by
      rw [submit_run] at hsub
      split at hsub <;> cases hsub
      exact ⟨rfl, rfl⟩
    obtain ⟨hruns, hanswers⟩ := h.others (s := s) (by rw [hstate.1]) (by rw [hstate.2]; exact .refl _)
    refine ⟨latest_submit h.latest hsub, fun r hr => ?_, hanswers⟩
    rcases List.mem_append.mp hr with hr | hr
    · exact hruns r hr
    · cases List.mem_singleton.mp hr
      exact sound_begin s _ _ _
  | refuse hsub =>
    obtain ⟨rfl, hlatest⟩ := latest_refuse h.latest hsub
    exact ⟨hlatest, h.sound, h.answered⟩
  | transform fileId source =>
    refine ⟨h.latest, fun r hr => ?_, h.answered⟩
    rcases List.mem_append.mp hr with hr | hr
    · exact h.sound r hr
    · cases List.mem_singleton.mp hr
      exact sound_begin w.state _ _ _
  | preview fileId source =>
    refine ⟨h.latest, fun r hr => ?_, h.answered⟩
    rcases List.mem_append.mp hr with hr | hr
    · exact h.sound r hr
    · cases List.mem_singleton.mp hr
      exact sound_begin w.state _ _ _
  | @stage before after r stage ahead draft s hw ha hrun =>
    have hf : Frame w.state s := by
      have hf := p.runStage_frame d r.draft stage w.state
      rwa [hrun] at hf
    obtain ⟨hruns, hanswers⟩ := h.others hf.generation hf.listings
    have hr : r ∈ w.running := by rw [hw]; exact List.mem_append_right _ List.mem_cons_self
    refine ⟨fun fileId => by rw [hf.versions]; exact h.latest fileId, fun x hx => ?_, hanswers⟩
    have hx' : x = { r with draft, ahead } ∨ x ∈ w.running := by rw [hw]; grind
    rcases hx' with rfl | hx'
    · exact (h.sound r hr).stage ha hrun
    · exact hruns x hx'
  | @fail before after r stage ahead e s hw ha hrun =>
    obtain ⟨rfl, -, -⟩ := p.runStage_error d hrun
    refine ⟨h.latest, fun x hx => h.sound x ?_, h.answered⟩
    rw [hw]
    grind
  | @finish before after r outcome s hw ha hfin =>
    have hr : r ∈ w.running := by rw [hw]; exact List.mem_append_right _ List.mem_cons_self
    have hout : outcome = ((Pipeline.finish r.commit r.draft).run w.state).1 := by rw [hfin]
    have hs : s = ((Pipeline.finish r.commit r.draft).run w.state).2 := by rw [hfin]
    rw [finish_run] at hs
    have hgen : s.collection.generation = w.state.collection.generation := by
      rw [hs]
      exact close_generation _ _ _
    have hl : s.listings = w.state.listings := by rw [hs]
    have hlatest : Latest { w with state := s } := by
      intro fileId
      rw [hs]
      exact h.latest fileId
    obtain ⟨hruns, hanswers⟩ := h.others hgen (hl ▸ .refl _)
    refine ⟨hlatest, fun x hx => hruns x (by rw [hw]; grind), fun x hx => ?_⟩
    rcases List.mem_append.mp hx with hx | hx
    · exact hanswers x hx
    · cases List.mem_singleton.mp hx
      refine ⟨fun a hoa => ?_, fun hos => finish_superseded (hout.symm.trans hos)⟩
      -- all stages are done, so what is replayed is the whole run
      obtain ⟨done, hd, hrep⟩ := (h.sound r hr).replays
      rw [ha, List.append_nil] at hd
      rw [finish_emitted (hout.symm.trans hoa), ← hd]
      exact hrep.mono (hl ▸ .refl _)

theorem versionInv_reachable {w : World} (h : Reachable p d w) : VersionInv p d w := by
  induction h with
  | init s hs => exact versionInv_init hs
  | tail _ hs ih => exact versionInv_step ih hs

/-! ## Whole runs -/

/-- The stages of a run, one after the other with nothing in between, are steps of the machine. -/
theorem reachable_stages {w : World} {before after : List Running} {r : Running}
    (h : Reachable p d w) (hw : w.running = before ++ r :: after) {draft : Draft} {s : State}
    (hrun : (r.ahead.foldlM (p.runStage d) r.draft).run.run w.state = (.ok draft, s)) :
    Reachable p d { w with
      state := s, running := before ++ { r with draft, ahead := [] } :: after } := by
  obtain ⟨commit, fileId, source, start, ahead⟩ := r
  induction ahead generalizing w start with
  | nil =>
    cases hrun
    rw [← hw]
    exact h
  | cons stage ahead ih =>
    rw [List.foldlM_cons] at hrun
    cases hstage : (p.runStage d start stage).run.run w.state with
    | mk result mid =>
      cases result with
      | error e =>
        rw [bind_error hstage] at hrun
        cases hrun
      | ok next =>
        rw [bind_ok hstage] at hrun
        exact ih (h.tail (.stage hw rfl hstage)) next rfl hrun

/-- Running a version at once is a run of the machine that nothing interrupts. -/
theorem reachable_transformVersion {w : World} {fileId source : String} {version : Nat}
    {outcome : Outcome} {s : State} (h : Reachable p d w)
    (hrun : (p.transformVersion d fileId version source).run.run w.state = (.ok outcome, s)) :
    ∃ w', Reachable p d w' ∧ w'.state = s ∧ w'.running = w.running ∧
      w'.submitted = w.submitted ++ [(fileId, version)] := by
  cases hsub : (submit fileId version).run w.state with
  | mk accepted s₀ =>
    cases accepted with
    | false =>
      rw [p.transformVersion_refused d hsub] at hrun
      cases hrun
      exact ⟨_, h.tail (.refuse hsub), rfl, rfl, rfl⟩
    | true =>
      rw [p.transformVersion_accepted d hsub] at hrun
      cases hdraft : (p.draft d fileId source).run.run s₀ with
      | mk result mid =>
        cases result with
        | error e =>
          rw [bind_error hdraft] at hrun
          cases hrun
        | ok draft =>
          rw [bind_ok hdraft] at hrun
          have h₁ := h.tail (@Step.submit p d w fileId source version s₀ hsub)
          have h₂ := reachable_stages h₁ (show _ = w.running ++ _ :: [] from rfl) hdraft
          have h₃ := h₂.tail (.finish (show _ = w.running ++ _ :: [] from rfl) rfl rfl)
          refine ⟨_, h₃, ?_, List.append_nil _, rfl⟩
          exact congrArg Prod.snd hrun

/-! ## Superseding is safe -/

/-- What a run has noted: tokens, all of them for its own file. -/
def Running.Noted (r : Running) (token file : String) : Prop :=
  file = r.fileId ∧ ∃ scan, r.draft.scan = some scan ∧ token ∈ scan.tokens

/-- The collection says what it said before and what the run has noted. -/
def Running.Adds (r : Running) (s s' : State) : Prop :=
  ∀ token file, s'.collection.Notes token file ↔ s.collection.Notes token file ∨ r.Noted token file

/-- The end of a run: what it comes to, and what the collection says afterwards. -/
def Running.Ends (r : Running) (s s' : State) (outcome : Outcome) : Prop :=
  match r.commit with
  | .always => outcome = .emitted r.draft.artifact ∧ r.Adds s s'
  | .never => outcome = .emitted r.draft.artifact ∧ s'.collection.uses = s.collection.uses
  | .ifCurrent version =>
    if s.versions.lookup r.fileId = some version then
      outcome = .emitted r.draft.artifact ∧ r.Adds s s'
    else outcome = .superseded ∧ s'.collection.uses = s.collection.uses

theorem submit_stale {w : World} (h : Latest w) {fileId : String} {version n : Nat}
    (hn : latest? w.submitted fileId = some n) (hlt : version < n) :
    (submit fileId version).run w.state = (false, w.state) := by
  rw [submit_run, h fileId, hn, Option.getD_some, if_neg (Nat.not_le.mpr hlt)]

theorem Sound.ends {s : State} {r : Running} (h : Sound p d s r) :
    ∃ outcome s', (finish r.commit r.draft).run s = (outcome, s') ∧ s'.versions = s.versions ∧
      r.Ends s s' outcome := by
  refine ⟨_, _, finish_run r.commit r.draft s, rfl, ?_⟩
  have hnotes := close_notes h.own
  rw [h.file] at hnotes ⊢
  unfold Running.Ends
  cases r.commit with
  | always => exact ⟨rfl, hnotes⟩
  | never => exact ⟨rfl, close_uses_of_not_kept _ _⟩
  | ifCurrent version =>
    by_cases hv : s.versions.lookup r.fileId = some version
    · have hk : keeps s r.fileId (.ifCurrent version) = true := decide_eq_true hv
      simp only [hv, hk, if_true]
      exact ⟨trivial, hnotes⟩
    · have hk : keeps s r.fileId (.ifCurrent version) = false := decide_eq_false hv
      simp only [hv, hk, if_false, Bool.false_eq_true]
      exact ⟨trivial, close_uses_of_not_kept _ _⟩

/--
**Superseding is safe in every order of steps.**

The version on record is the largest submitted, and a smaller one is refused and changes nothing. Going
through stages, and failing in one, leaves versions and collection as they are. A run that is finished is
emitted, and adds what it noted, exactly if it is unconditional or its version is still on record; what is
emitted is what a preview yields, then and later. Nothing but a version is ever superseded.
-/
theorem superseding_safe {w : World} (h : Reachable p d w) :
    (∀ fileId, w.state.versions.lookup fileId = latest? w.submitted fileId) ∧
    (∀ fileId version n, latest? w.submitted fileId = some n → version < n →
      (submit fileId version).run w.state = (false, w.state) ∧
      ∀ source, (p.transformVersion d fileId version source).run.run w.state =
        (.ok .superseded, w.state)) ∧
    (∀ r ∈ w.running, ∀ stage ahead, r.ahead = stage :: ahead →
      Frame w.state ((p.runStage d r.draft stage).run.run w.state).2) ∧
    (∀ r ∈ w.running, r.ahead = [] →
      ∃ outcome s, (finish r.commit r.draft).run w.state = (outcome, s) ∧
        s.versions = w.state.versions ∧ r.Ends w.state s outcome ∧
        ((p.preview d r.fileId r.source).run.run w.state).1 = .ok r.draft.artifact) ∧
    ∀ x ∈ w.answers,
      (∀ a, x.2 = .emitted a → ((p.preview d x.1.fileId x.1.source).run.run w.state).1 = .ok a) ∧
      (x.2 = .superseded → ∃ version, x.1.commit = .ifCurrent version) := by
  have hinv := versionInv_reachable h
  refine ⟨hinv.latest, fun fileId version n hn hlt => ?_, fun r _ stage _ _ => ?_,
    fun r hr ha => ?_, fun x hx => ?_⟩
  · have hsub := submit_stale hinv.latest hn hlt
    exact ⟨hsub, fun source => p.transformVersion_refused d hsub source⟩
  · exact p.runStage_frame d r.draft stage w.state
  · have hsound := hinv.sound r hr
    obtain ⟨done, hd, hrep⟩ := hsound.replays
    rw [ha, List.append_nil] at hd
    subst hd
    obtain ⟨outcome, s, hfin, hversions, hends⟩ := hsound.ends
    exact ⟨outcome, s, hfin, hversions, hends, hrep.preview⟩
  · have hans := hinv.answered x hx
    exact ⟨fun a ha => (hans.emitted a ha).preview, hans.superseded⟩

/-- A first version is overtaken before it is finished, by a second one that is run at once and emitted: the first
is superseded and adds nothing. -/
theorem superseding_safe_overtaken :
    ∃ p, Pipeline.assemble (smallDisk [("slides.md", "")]) (smallProject ["a.vue"]) = .ok p ∧
      ∃ w, Reachable p (smallDisk [("slides.md", "")]) w ∧
        w.submitted = [("/a.vue", 1), ("/a.vue", 2)] ∧
        (∃ s a, (p.transformVersion (smallDisk [("slides.md", "")]) "/a.vue" 2 "<i/>").run.run s =
          (.ok (.emitted a), w.state)) ∧
        ∃ r ∈ w.running, r.commit = .ifCurrent 1 ∧
          ∃ s, (finish r.commit r.draft).run w.state = (.superseded, s) ∧
            s.collection.uses = w.state.collection.uses := by
  obtain ⟨p, hp, -⟩ := exists_ok
    (Pipeline.assemble (smallDisk [("slides.md", "")]) (smallProject ["a.vue"])) (fun _ => true)
    (by decide +kernel)
  refine ⟨p, hp, ?_⟩
  have h₀ : Reachable p (smallDisk [("slides.md", "")]) { state := { shared := .initial false } } :=
    .init _ rfl
  have h₁ := h₀.tail (@Step.submit p _ _ "/a.vue" "<i class='flex'/>" 1 _ rfl)
  have hdraft := p.draft_run (smallDisk [("slides.md", "")]) "/a.vue" "<i class='flex'/>"
    { shared := .initial false, versions := [("/a.vue", 1)] }
  rw [p.compiled_of_ne_markdown (by decide)] at hdraft
  have h₂ := reachable_stages h₁ (show _ = [] ++ _ :: _ from rfl) hdraft
  have hready : ∃ w, Reachable p (smallDisk [("slides.md", "")]) w ∧ w.submitted = [("/a.vue", 1)] ∧
      w.state.versions = [("/a.vue", 1)] ∧
      ∃ r ∈ w.running, r.commit = .ifCurrent 1 ∧ r.fileId = "/a.vue" ∧ r.ahead = [] :=
    ⟨_, h₂, rfl, rfl, _, List.mem_cons_self, rfl, rfl, rfl⟩
  obtain ⟨w₂, h₂, hfirst, hversions, r, hr, hcommit, hfile, hahead⟩ := hready
  -- the second version is run while the first one waits for its end
  have hnewer : (w₂.state.versions.lookup "/a.vue").getD 2 ≤ 2 := by
    rw [hversions]
    decide
  have hsecond := p.transformVersion_run (d := smallDisk [("slides.md", "")]) hnewer "<i/>"
  rw [p.compiled_of_ne_markdown (by decide)] at hsecond
  obtain ⟨w, hw, hstate, hrunning, hsubmitted⟩ := reachable_transformVersion h₂ hsecond
  rw [hfirst] at hsubmitted
  rw [← hrunning] at hr
  obtain ⟨hlatest, -, -, hfinish, -⟩ := superseding_safe hw
  obtain ⟨outcome, s, hrun, -, hends, -⟩ := hfinish r hr hahead
  have hlookup : w.state.versions.lookup r.fileId = some 2 := by
    rw [hlatest, hsubmitted, hfile]
    decide +kernel
  have hother : (some 2 : Option Nat) ≠ some 1 := by decide
  simp only [Running.Ends, hcommit, hlookup, hother, if_false] at hends
  exact ⟨w, hw, hsubmitted, ⟨w₂.state, _, hsecond.trans (by rw [hstate])⟩, r, hr, hcommit, s,
    by rw [hrun, hends.1], hends.2⟩

end DeckPress.Pipeline
