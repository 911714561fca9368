import DeckPress.Proofs.Pipeline.Notes
import DeckPress.Server.Session

/-!
# How a session follows changes

A session runs files one by one, gives each run a fresh version, and reads the deck once for a batch. None
of this shows in what it collects: whatever it does between two builds is a list of passes, and the notes
of these passes are what its collection gains.
-/

namespace DeckPress.Session

open Pipeline (Pass Note After Mentions)

/-- No version on record is newer than the last one that was given out. -/
def Bounded (s : Session) : Prop :=
  ∀ fileId version, s.state.versions.lookup fileId = some version → version ≤ s.version

/-- The deck that is remembered, if there is one, is the one on the disk. -/
def Fresh (d : Disk) (s : Session) : Prop :=
  ∀ deck, s.state.deck = some deck → Presentation.load d s.pipeline.layout = .ok deck

/-- What running files does to a session. -/
structure Follows (d : Disk) (s s' : Session) (passes : List Pass) : Prop where
  project : s'.project = s.project
  pipeline : s'.pipeline = s.pipeline
  bounded : Bounded s'
  fresh : Fresh d s'
  after : After s.pipeline d s.state s'.state passes

variable {d : Disk}

theorem Follows.refl {s : Session} (hb : Bounded s) (hf : Fresh d s) : Follows d s s [] :=
  ⟨rfl, rfl, hb, hf, After.refl s.state⟩

theorem Follows.trans {s₁ s₂ s₃ : Session} {xs ys : List Pass} (h₁ : Follows d s₁ s₂ xs)
    (h₂ : Follows d s₂ s₃ ys) : Follows d s₁ s₃ (xs ++ ys) where
  project := h₂.project.trans h₁.project
  pipeline := h₂.pipeline.trans h₁.pipeline
  bounded := h₂.bounded
  fresh := h₂.fresh
  after := h₁.after.trans (h₁.pipeline ▸ h₂.after)

theorem onPipeline_run {α : Type} (f : Pipeline → Pipeline.Work α) (s : Session) :
    (onPipeline f).run.run s =
      (((f s.pipeline).run.run s.state).1, { s with state := ((f s.pipeline).run.run s.state).2 }) :=
  rfl

theorem ignoring_run {α : Type} (f : ExceptT Error (StateM Session) α) (s : Session) :
    (ignoring f).run s = ((), (f.run.run s).2) := rfl

/-- A session starts with an assembled pipeline, and with nothing but the schema in its state. -/
theorem exists_of_start {r : Project} {sync : Bool} {s : Session} (h : start d r sync = .ok s) :
    ∃ p, Pipeline.assemble d r = .ok p ∧
      s = { project := r, pipeline := p, state := { shared := .initial sync } } := by
  unfold start at h
  cases hr : d.requireFile r.entry with
  | error e => rw [hr] at h; cases h
  | ok u =>
    rw [hr] at h
    cases hp : Pipeline.assemble d r with
    | error e => rw [hp] at h; cases h
    | ok p =>
      rw [hp] at h
      cases h
      exact ⟨p, rfl, rfl⟩

/-! ## One file -/

/-- A run by the session is never superseded, and leaves the notes of its file. -/
theorem transform_follows {s : Session} (hb : Bounded s) (hf : Fresh d s) (fileId source : String) :
    Follows d s ((transform d fileId source).run.run s).2 [⟨fileId, source⟩] := by
  -- the version given out is newer than all on record, so nothing supersedes it
  have hcurrent : (s.state.versions.lookup fileId).getD (s.version + 1) ≤ s.version + 1 := by
    cases hl : s.state.versions.lookup fileId with
    | none => exact Nat.le_refl _
    | some version => exact Nat.le_succ_of_le (hb fileId version hl)
  have hbounded : ∀ s' : Session, s'.version = s.version + 1 →
      s'.state.versions = insertSorted fileId (s.version + 1) s.state.versions → Bounded s' := by
    intro s' hv hs' other version hl
    rw [hs', lookup_insertSorted] at hl
    split at hl
    · cases hl
      omega
    · have := hb other version hl
      omega
  have hrun := s.pipeline.transformVersion_run d hcurrent source
  have hpipeline := onPipeline_run (·.transformVersion d fileId (s.version + 1) source)
    { s with version := s.version + 1 }
  have hnext : nextVersion.run s = (s.version + 1, { s with version := s.version + 1 }) := rfl
  unfold transform
  rw [show (liftM nextVersion : ExceptT Error (StateM Session) Nat) = ExceptT.lift nextVersion from rfl,
    Pipeline.lift_run, hnext]
  dsimp only at hpipeline ⊢
  rw [hrun] at hpipeline
  cases hc : s.pipeline.compiled fileId source with
  | error e =>
    rw [hc] at hpipeline
    rw [Pipeline.bind_error hpipeline]
    exact ⟨rfl, rfl, hbounded _ rfl rfl, hf, Pipeline.after_fail hc rfl rfl⟩
  | ok a =>
    rw [hc] at hpipeline
    rw [Pipeline.bind_ok hpipeline]
    exact ⟨rfl, rfl, hbounded _ rfl rfl, hf, Pipeline.after_keep hc s.state _ rfl rfl⟩

/-! ## The slides -/

/-- The pass of a shown slide, if its text can be had. -/
def slidePass? (x : Nat × PresentedSlide) : Option Pass :=
  (x.2.markdown (ModuleId.text (.slide x.1))).toOption.map (⟨ModuleId.text (.slide x.1), ·⟩)

/-- The passes of the shown slides. -/
def slidePasses (p : Pipeline) (d : Disk) : List Pass :=
  match Presentation.load d p.layout with
  | .ok deck => deck.visible.filterMap slidePass?
  | .error _ => []

theorem presentation_follows {s : Session} (hb : Bounded s) (hf : Fresh d s) :
    ((onPipeline (·.presentation d)).run.run s).1 = Presentation.load d s.pipeline.layout ∧
      Follows d s ((onPipeline (·.presentation d)).run.run s).2 [] := by
  rw [onPipeline_run]
  cases hdeck : s.state.deck with
  | some deck =>
    have hload := hf deck hdeck
    rw [s.pipeline.presentation_run d hdeck]
    exact ⟨hload.symm, rfl, rfl, hb, hf, After.refl s.state⟩
  | none =>
    cases hload : Presentation.load d s.pipeline.layout with
    | error e =>
      rw [s.pipeline.presentation_error d hdeck hload]
      exact ⟨rfl, rfl, rfl, hb, hf, After.refl s.state⟩
    | ok deck =>
      rw [s.pipeline.presentation_ok d hdeck hload]
      refine ⟨rfl, rfl, rfl, hb, fun deck' h => ?_, ⟨rfl, id, by simp [Mentions, Pipeline.notes]⟩⟩
      cases h
      exact hload

/-- A loop whose every turn leaves its passes. -/
theorem forIn_follows {α : Type} {xs : List α} {body : α → ExceptT Error (StateM Session) PUnit}
    {passes : α → List Pass} {s : Session} (hb : Bounded s) (hf : Fresh d s)
    (hbody : ∀ x ∈ xs, ∀ s' : Session, s'.pipeline = s.pipeline → Bounded s' → Fresh d s' →
      ∃ s'', (body x).run.run s' = (.ok ⟨⟩, s'') ∧ Follows d s' s'' (passes x)) :
    ∃ s', (forIn xs PUnit.unit fun x _ => do body x; pure (ForInStep.yield PUnit.unit)).run.run s
        = ((.ok ⟨⟩ : Except Error PUnit), s') ∧
      Follows d s s' (xs.flatMap passes) := by
  induction xs generalizing s with
  | nil => exact ⟨s, rfl, Follows.refl hb hf⟩
  | cons x xs ih =>
    obtain ⟨s', hrun, hfollows⟩ := hbody x List.mem_cons_self s rfl hb hf
    obtain ⟨s'', hrest, hfollows'⟩ := ih hfollows.bounded hfollows.fresh fun y hy s₁ hp =>
      hbody y (List.mem_cons_of_mem _ hy) s₁ (hp.trans hfollows.pipeline)
    refine ⟨s'', ?_, hfollows.trans hfollows'⟩
    rw [List.forIn_cons, bind_assoc, Pipeline.bind_ok hrun, pure_bind]
    exact hrest

/-- Running the slides again leaves the passes of those that can be had. -/
theorem rescanSlides_follows {s : Session} (hb : Bounded s) (hf : Fresh d s) :
    Follows d s ((rescanSlides d).run s).2 (slidePasses s.pipeline d) := by
  obtain ⟨hdeck, hfollows⟩ := presentation_follows hb hf
  unfold rescanSlides
  rw [ignoring_run]
  cases hrun : (onPipeline (·.presentation d)).run.run s with
  | mk result s₁ =>
    rw [hrun] at hdeck hfollows
    unfold slidePasses
    rw [← hdeck]
    cases result with
    | error e =>
      rw [Pipeline.bind_error hrun]
      exact hfollows
    | ok deck =>
      rw [Pipeline.bind_ok hrun]
      dsimp only
      have hpass : ∀ x ∈ deck.visible, ∀ s' : Session, s'.pipeline = s₁.pipeline → Bounded s' →
          Fresh d s' → ∃ s'', (ExceptT.lift (ignoring (ExceptT.mk (pure (x.2.markdown
            (ModuleId.text (.slide x.1)))) >>= transform d (ModuleId.text (.slide x.1)))) :
              ExceptT Error (StateM Session) PUnit).run.run s' = (.ok ⟨⟩, s'') ∧
            Follows d s' s'' (slidePass? x).toList := by
        intro x _ s' _ hb' hf'
        refine ⟨_, rfl, ?_⟩
        unfold slidePass?
        cases x.2.markdown (ModuleId.text (.slide x.1)) with
        | error e => exact Follows.refl hb' hf'
        | ok text => exact transform_follows hb' hf' _ _
      -- a slide that cannot be had is left out, and the others are run all the same
      obtain ⟨s₂, hloop, hslides⟩ := forIn_follows hfollows.bounded hfollows.fresh hpass
      rw [← List.filterMap_eq_flatMap_toList] at hslides
      have hall : Follows d s s₂ (deck.visible.filterMap slidePass?) := hfollows.trans hslides
      have hend := Pipeline.bind_ok
        (f := fun _ => (pure () : ExceptT Error (StateM Session) Unit)) hloop
      exact (congrArg (fun r => Follows d s r.2 _) hend).mpr hall

/-! ## A batch of changes -/

/-- The passes that a changed file asks for. -/
def changePasses (p : Pipeline) (d : Disk) (file : Path) : List Pass :=
  if file == p.layout.entry then slidePasses p d
  else if d.isFile file && p.scope.covers file.text then
    match d.readText file with
    | .ok source => [⟨file.text, source⟩]
    | .error _ => []
  else []

theorem rescanFile_follows {s : Session} (hb : Bounded s) (hf : Fresh d s) (file : Path) :
    Follows d s ((rescanFile d file).run s).2 (changePasses s.pipeline d file) := by
  unfold rescanFile changePasses
  show Follows d s (StateT.run (if file == s.pipeline.layout.entry then rescanSlides d
    else if d.isFile file && s.pipeline.scope.covers file.text then _ else _ : StateM Session Unit) s).2 _
  by_cases hentry : file == s.pipeline.layout.entry
  · rw [if_pos hentry, if_pos hentry]
    exact rescanSlides_follows hb hf
  · rw [if_neg hentry, if_neg hentry]
    by_cases hcov : (d.isFile file && s.pipeline.scope.covers file.text) = true
    · rw [if_pos hcov, if_pos hcov]
      cases d.readText file with
      | error e => exact Follows.refl hb hf
      | ok source => exact transform_follows hb hf file.text source
    · rw [if_neg hcov, if_neg hcov]
      exact Follows.refl hb hf

/-- The changed files are run one after the other. -/
theorem rescan_follows (changed : List Path) {s : Session} (hb : Bounded s) (hf : Fresh d s) :
    Follows d s ((forIn changed PUnit.unit fun file _ => do
        rescanFile d file; pure (ForInStep.yield PUnit.unit) : StateM Session PUnit).run s).2
      (changed.flatMap (changePasses s.pipeline d)) := by
  induction changed generalizing s with
  | nil => exact Follows.refl hb hf
  | cons file changed ih =>
    have hfile := rescanFile_follows hb hf file
    have hrest := ih hfile.bounded hfile.fresh
    rw [hfile.pipeline] at hrest
    rw [List.forIn_cons]
    exact hfile.trans hrest

end DeckPress.Session
