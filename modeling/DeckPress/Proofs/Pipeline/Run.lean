import DeckPress.Pipeline.Run
import DeckPress.Proofs.Component.Importer
import DeckPress.Proofs.Style.Collection

/-!
# What a run does

Each stage is described once, by the result and the state it leaves behind, and later proofs use only
these descriptions. Three facts follow for every stage. It touches nothing of the state but the listings
and the count of scans. Markdown alone can fail, and then nothing has happened yet. And a stage can be
repeated: in any state that has the listings it left behind it makes the same of the same file.
-/

namespace DeckPress.Pipeline

open Component (Listings Repeatable)

variable (p : Pipeline) (d : Disk)

/-! ## One stage -/

theorem runStage_markdown (draft : Draft) (s : State) :
    (p.runStage d draft .markdown).run.run s =
      ((p.compileMarkdown draft.artifact).map fun a => { draft with artifact := a }, s) := by
  show ((ExceptT.mk (pure (p.compileMarkdown draft.artifact)) >>= fun a =>
    (pure { draft with artifact := a } : Work Draft)).run.run s) = _
  cases p.compileMarkdown draft.artifact <;> rfl

theorem runStage_escape (draft : Draft) (s : State) :
    (p.runStage d draft .escape).run.run s =
      (.ok { draft with artifact := Component.Brace.apply draft.artifact }, s) := rfl

theorem runStage_components (draft : Draft) (s : State) :
    (p.runStage d draft .components).run.run s =
      (.ok { draft with artifact := ((p.importer.apply d draft.artifact).run s.listings).1 },
        { s with listings := ((p.importer.apply d draft.artifact).run s.listings).2 }) := rfl

theorem runStage_styles (draft : Draft) (s : State) :
    (p.runStage d draft .styles).run.run s =
      if p.scope.covers draft.artifact.fileId then
        (.ok { draft with
          scan := some ((s.collection.newScan draft.artifact.fileId).record p.vocabulary
            draft.artifact.code) },
          { s with collection := s.collection.enter })
      else (.ok draft, s) := by
  unfold runStage
  dsimp only
  split <;> rfl

theorem runStage_assets (draft : Draft) (s : State) :
    (p.runStage d draft .assets).run.run s =
      (.ok { draft with artifact := p.rewriteAssets d draft.artifact }, s) := rfl

theorem runStage_modules (draft : Draft) (s : State) :
    (p.runStage d draft .modules).run.run s = (.ok draft, s) := rfl

/-- Compiling markdown changes the code and the kind of a file, but not which file it is. -/
theorem compileMarkdown_fileId {a a' : Artifact} (h : p.compileMarkdown a = .ok a') :
    a'.fileId = a.fileId := by
  unfold compileMarkdown at h
  split at h
  · cases hc : (Component.compile p.options.markdown a.code).mapError (Error.compile a.fileId) with
    | error e => rw [hc] at h; cases h
    | ok code => rw [hc] at h; cases h; rfl
  · cases h; rfl

/-- What is wrong with markdown is laid to its file. -/
theorem compileMarkdown_error {a : Artifact} {e : Error} (h : p.compileMarkdown a = .error e) :
    ∃ fault, e = .compile a.fileId fault := by
  unfold compileMarkdown at h
  split at h
  · cases hc : Component.compile p.options.markdown a.code with
    | error fault => rw [hc] at h; cases h; exact ⟨fault, rfl⟩
    | ok code => rw [hc] at h; cases h
  · cases h

theorem brace_fileId (a : Artifact) : (Component.Brace.apply a).fileId = a.fileId := by
  unfold Component.Brace.apply
  split <;> rfl

/-- What a stage does not touch, and how the listings grow. -/
structure Frame (s s' : State) : Prop where
  deck : s'.deck = s.deck
  versions : s'.versions = s.versions
  shared : s'.shared = s.shared
  uses : s'.collection.uses = s.collection.uses
  generation : s'.collection.generation = s.collection.generation
  listings : s.listings.Extends s'.listings

theorem Frame.refl (s : State) : Frame s s := ⟨rfl, rfl, rfl, rfl, rfl, .refl _⟩

theorem runStage_frame (draft : Draft) (stage : Stage) (s : State) :
    Frame s ((p.runStage d draft stage).run.run s).2 := by
  cases stage with
  | markdown => rw [runStage_markdown]; exact Frame.refl s
  | escape => rw [runStage_escape]; exact Frame.refl s
  | components =>
    exact ⟨rfl, rfl, rfl, rfl, rfl, (p.importer.repeatable_apply d draft.artifact).grows s.listings⟩
  | styles =>
    rw [runStage_styles]
    split
    · exact ⟨rfl, rfl, rfl, rfl, rfl, .refl _⟩
    · exact Frame.refl s
  | assets => rw [runStage_assets]; exact Frame.refl s
  | modules => rw [runStage_modules]; exact Frame.refl s

/-- A scan under way belongs to the file of its draft and to the present generation. -/
def OwnScan (draft : Draft) (s : State) : Prop :=
  ∀ scan, draft.scan = some scan →
    scan.file = draft.artifact.fileId ∧ scan.generation = s.collection.generation

theorem OwnScan.same {draft draft' : Draft} {s s' : State} (h : OwnScan draft s)
    (hid : draft'.artifact.fileId = draft.artifact.fileId) (hscan : draft'.scan = draft.scan)
    (hgen : s'.collection.generation = s.collection.generation) :
    draft'.artifact.fileId = draft.artifact.fileId ∧ OwnScan draft' s' := by
  refine ⟨hid, fun scan hs => ?_⟩
  obtain ⟨hfile, hg⟩ := h scan (hscan ▸ hs)
  exact ⟨hfile.trans hid.symm, hg.trans hgen.symm⟩

/-- The result of a stage is the same file, with its own scan. -/
theorem runStage_ok {draft draft' : Draft} {stage : Stage} {s s' : State}
    (h : (p.runStage d draft stage).run.run s = (.ok draft', s')) (hown : OwnScan draft s) :
    draft'.artifact.fileId = draft.artifact.fileId ∧ OwnScan draft' s' := by
  cases stage with
  | markdown =>
    rw [runStage_markdown] at h
    cases hc : p.compileMarkdown draft.artifact with
    | error e => rw [hc] at h; cases h
    | ok a =>
      rw [hc] at h
      cases h
      exact hown.same (p.compileMarkdown_fileId hc) rfl rfl
  | escape =>
    cases h
    exact hown.same (brace_fileId draft.artifact) rfl rfl
  | components =>
    rw [runStage_components] at h
    cases h
    exact hown.same (p.importer.apply_fileId d draft.artifact s.listings) rfl rfl
  | styles =>
    rw [runStage_styles] at h
    split at h
    · cases h
      refine ⟨rfl, fun scan hs => ?_⟩
      cases hs
      exact ⟨rfl, rfl⟩
    · cases h
      exact ⟨rfl, hown⟩
  | assets => cases h; exact ⟨rfl, hown⟩
  | modules => cases h; exact ⟨rfl, hown⟩

/-- Only markdown fails, before anything was done. -/
theorem runStage_error {draft : Draft} {stage : Stage} {s s' : State} {e : Error}
    (h : (p.runStage d draft stage).run.run s = (.error e, s')) :
    s' = s ∧ stage = .markdown ∧ ∃ fault, e = .compile draft.artifact.fileId fault := by
  cases stage with
  | markdown =>
    rw [runStage_markdown] at h
    cases hc : p.compileMarkdown draft.artifact with
    | error e' =>
      rw [hc] at h
      cases h
      exact ⟨rfl, rfl, p.compileMarkdown_error hc⟩
    | ok a => rw [hc] at h; cases h
  | styles => rw [runStage_styles] at h; split at h <;> cases h
  | escape => cases h
  | components => cases h
  | assets => cases h
  | modules => cases h

/-- A stage makes the same of the same file again, wherever what it left behind is found. -/
theorem runStage_again {draft draft' again : Draft} {stage : Stage} {s s' later : State}
    (h : (p.runStage d draft stage).run.run s = (.ok draft', s'))
    (hl : s'.listings.Extends later.listings) (ha : again.artifact = draft.artifact) :
    ∃ again' later', (p.runStage d again stage).run.run later = (.ok again', later') ∧
      again'.artifact = draft'.artifact ∧ later'.listings = later.listings := by
  cases stage with
  | markdown =>
    rw [runStage_markdown] at h ⊢
    rw [ha]
    cases hc : p.compileMarkdown draft.artifact with
    | error e => rw [hc] at h; cases h
    | ok a => rw [hc] at h; cases h; exact ⟨_, _, rfl, rfl, rfl⟩
  | escape => cases h; exact ⟨_, _, rfl, by rw [ha], rfl⟩
  | components =>
    rw [runStage_components] at h
    cases h
    have hrep := (p.importer.repeatable_apply d draft.artifact).again s.listings later.listings hl
    exact ⟨_, _, p.runStage_components d again later, by rw [ha, hrep], by rw [ha, hrep]⟩
  | styles =>
    rw [runStage_styles] at h ⊢
    rw [ha]
    by_cases hcov : p.scope.covers draft.artifact.fileId
    · rw [if_pos hcov] at h ⊢
      cases h
      exact ⟨_, _, rfl, rfl, rfl⟩
    · rw [if_neg hcov] at h ⊢
      cases h
      exact ⟨_, _, rfl, ha, rfl⟩
  | assets => cases h; exact ⟨_, _, rfl, by rw [ha], rfl⟩
  | modules => cases h; exact ⟨_, _, rfl, ha, rfl⟩

/-! ## Work in sequence -/

section Work

variable {σ α β : Type} {s s' : σ}

theorem bind_ok {w : ExceptT Error (StateM σ) α} {f : α → ExceptT Error (StateM σ) β} {a : α}
    (h : w.run.run s = (.ok a, s')) : (w >>= f).run.run s = (f a).run.run s' := by
  rw [ExceptT.run_bind, StateT.run_bind, h]
  rfl

theorem get_bind (f : σ → ExceptT Error (StateM σ) β) (s : σ) : (get >>= f).run.run s = (f s).run.run s :=
  bind_ok rfl

theorem bind_error {w : ExceptT Error (StateM σ) α} {f : α → ExceptT Error (StateM σ) β} {e : Error}
    (h : w.run.run s = (.error e, s')) : (w >>= f).run.run s = (.error e, s') := by
  rw [ExceptT.run_bind, StateT.run_bind, h]
  rfl

/-- Work in sequence yields something if each part does. -/
theorem bind_eq_ok {w : ExceptT Error (StateM σ) α} {f : α → ExceptT Error (StateM σ) β} {b : β} :
    (w >>= f).run.run s = (.ok b, s') ↔
      ∃ a s₁, w.run.run s = (.ok a, s₁) ∧ (f a).run.run s₁ = (.ok b, s') := by
  rcases hw : w.run.run s with ⟨e | a, s₁⟩
  · rw [bind_error hw]
    exact ⟨nofun, fun ⟨_, _, h, _⟩ => nomatch h⟩
  · rw [bind_ok hw]
    exact ⟨fun h => ⟨a, s₁, rfl, h⟩, fun ⟨_, _, h, hf⟩ => (by cases h; exact hf)⟩

theorem lift_run (w : StateM σ α) (f : α → ExceptT Error (StateM σ) β) (s : σ) :
    (ExceptT.lift w >>= f).run.run s = (f (w.run s).1).run.run (w.run s).2 := by
  rw [ExceptT.run_bind, StateT.run_bind]
  rfl

end Work

theorem foldlM_snoc (stages : List Stage) (stage : Stage) (draft : Draft) :
    (stages ++ [stage]).foldlM (p.runStage d) draft =
      stages.foldlM (p.runStage d) draft >>= fun draft => p.runStage d draft stage := by
  rw [List.foldlM_append]
  congr 1
  funext draft
  exact bind_pure _

/-! ## The end of a run -/

/-- The collection after a scan has ended, taken over or not. -/
def close (c : Style.Collection) (scan : Option Style.Scan) (kept : Bool) : Style.Collection :=
  match scan with
  | some scan => if kept then c.commit scan else c.leave
  | none => c

theorem finish_run (commit : Commit) (draft : Draft) (s : State) :
    (finish commit draft).run s =
      (match commit with
        | .ifCurrent _ =>
          if keeps s draft.artifact.fileId commit then .emitted draft.artifact else .superseded
        | _ => .emitted draft.artifact,
      { s with
        collection := close s.collection draft.scan (keeps s draft.artifact.fileId commit) }) := by
  cases commit with
  | always => rfl
  | never => rfl
  | ifCurrent v => rfl

theorem close_generation (c : Style.Collection) (scan : Option Style.Scan) (kept : Bool) :
    (close c scan kept).generation = c.generation := by
  unfold close
  cases scan with
  | none => rfl
  | some scan => cases kept <;> simp

theorem close_uses_of_not_kept (c : Style.Collection) (scan : Option Style.Scan) :
    (close c scan false).uses = c.uses := by
  cases scan <;> rfl

/-- A scan that is taken over adds its tokens for its file. -/
theorem close_notes {draft : Draft} {s : State} (h : OwnScan draft s) (token file : String) :
    (close s.collection draft.scan true).Notes token file ↔
      s.collection.Notes token file ∨
        file = draft.artifact.fileId ∧ ∃ scan, draft.scan = some scan ∧ token ∈ scan.tokens := by
  cases hscan : draft.scan with
  | none => simp [close]
  | some scan =>
    obtain ⟨hfile, hgen⟩ := h scan hscan
    show (s.collection.commit scan).Notes token file ↔ _
    rw [Style.Collection.commit_notes hgen, hfile]
    simp only [Option.some.injEq, exists_eq_left']
    tauto

theorem preview_run {fileId source : String} {draft : Draft} {s s' : State}
    (h : (p.draft d fileId source).run.run s = (.ok draft, s')) :
    (p.preview d fileId source).run.run s =
      (.ok draft.artifact, { s' with collection := close s'.collection draft.scan false }) := by
  unfold preview
  rw [bind_ok h]
  rfl

theorem submit_run (fileId : String) (version : Nat) (s : State) :
    (submit fileId version).run s =
      if (s.versions.lookup fileId).getD version ≤ version then
        (true, { s with versions := insertSorted fileId version s.versions })
      else (false, s) := by
  unfold submit
  simp only [StateT.run_bind, StateT.run_get, pure_bind]
  split <;> rfl

theorem transformVersion_refused {fileId : String} {version : Nat} {s s' : State}
    (h : (submit fileId version).run s = (false, s')) (source : String) :
    (p.transformVersion d fileId version source).run.run s = (.ok .superseded, s') := by
  unfold transformVersion
  rw [show (liftM (submit fileId version) : Work Bool) = ExceptT.lift (submit fileId version) from rfl,
    lift_run, h]
  rfl

theorem transformVersion_accepted {fileId : String} {version : Nat} {s s' : State}
    (h : (submit fileId version).run s = (true, s')) (source : String) :
    (p.transformVersion d fileId version source).run.run s =
      (p.draft d fileId source >>= fun draft =>
        (ExceptT.lift (finish (.ifCurrent version) draft) : Work Outcome)).run.run s' := by
  unfold transformVersion
  rw [show (liftM (submit fileId version) : Work Bool) = ExceptT.lift (submit fileId version) from rfl,
    lift_run, h]
  rfl

/-! ## All stages at once -/

/-- What becomes of a file before its components are imported. -/
def compiled (fileId source : String) : Except Error Artifact :=
  (p.compileMarkdown (.ofSource fileId source)).map Component.Brace.apply

theorem compiled_of_ne_markdown {fileId source : String}
    (h : (Artifact.ofSource fileId source).kind ≠ .markdown) :
    p.compiled fileId source = .ok (Component.Brace.apply (.ofSource fileId source)) := by
  unfold compiled compileMarkdown
  rw [if_neg h]
  rfl

/-- A markdown file is compiled, and the marks are taken out. -/
theorem compiled_of_markdown {fileId source : String}
    (hmarkdown : (Artifact.ofSource fileId source).kind = .markdown) :
    p.compiled fileId source =
      ((Component.compile p.options.markdown source).mapError (.compile fileId)).map fun code =>
        { fileId, kind := .script, code := String.ofList (Component.Brace.unescape code.toList),
          fromMarkdown := true } := by
  have hcode : (Artifact.ofSource fileId source).code = source := rfl
  unfold compiled compileMarkdown
  rw [if_pos hmarkdown, hcode]
  cases Component.compile p.options.markdown source <;> rfl

/-- The scan of a file as it is after its components were imported. -/
def scanOf (c : Style.Collection) (a : Artifact) : Option Style.Scan :=
  if p.scope.covers a.fileId then some ((c.newScan a.fileId).record p.vocabulary a.code) else none

/-- The collection while the scan of a file is open. -/
def entered (c : Style.Collection) (fileId : String) : Style.Collection :=
  if p.scope.covers fileId then c.enter else c

theorem compiled_fileId {fileId source : String} {a : Artifact}
    (h : p.compiled fileId source = .ok a) : a.fileId = fileId := by
  unfold compiled at h
  cases hc : p.compileMarkdown (.ofSource fileId source) with
  | error e => rw [hc] at h; cases h
  | ok a' =>
    rw [hc] at h
    cases h
    exact (brace_fileId a').trans (p.compileMarkdown_fileId hc)

/-- All stages of a run at once. -/
theorem draft_run (fileId source : String) (s : State) :
    (p.draft d fileId source).run.run s =
      match p.compiled fileId source with
      | .error e => (.error e, s)
      | .ok a =>
        let imported := (p.importer.apply d a).run s.listings
        (.ok ⟨p.rewriteAssets d imported.1, p.scanOf s.collection imported.1⟩,
          { s with listings := imported.2, collection := p.entered s.collection fileId }) := by
  have hstages : p.draft d fileId source =
      (p.runStage d { artifact := .ofSource fileId source } .markdown >>= fun draft =>
        [Stage.escape, .components, .styles, .assets, .modules].foldlM (p.runStage d) draft) := rfl
  have hmarkdown := p.runStage_markdown d { artifact := .ofSource fileId source } s
  rw [hstages]
  unfold compiled
  cases hc : p.compileMarkdown (.ofSource fileId source) with
  | error e =>
    rw [hc] at hmarkdown
    rw [bind_error hmarkdown]
    rfl
  | ok a =>
    rw [hc] at hmarkdown
    have hid : (Component.Brace.apply a).fileId = fileId :=
      (brace_fileId a).trans (p.compileMarkdown_fileId hc)
    rw [bind_ok hmarkdown, List.foldlM_cons, bind_ok (p.runStage_escape d _ s), List.foldlM_cons,
      bind_ok (p.runStage_components d _ s), List.foldlM_cons]
    have hstyles := p.runStage_styles d
      { artifact := ((p.importer.apply d (Component.Brace.apply a)).run s.listings).1 }
      { s with listings := ((p.importer.apply d (Component.Brace.apply a)).run s.listings).2 }
    -- the id is still that of the source, so the scope decides by it
    have himp := p.importer.apply_fileId d (Component.Brace.apply a) s.listings
    dsimp only [Except.map, scanOf, entered]
    rw [himp, hid] at hstyles ⊢
    by_cases hcov : p.scope.covers fileId
    · rw [if_pos hcov] at hstyles
      rw [if_pos hcov, if_pos hcov]
      rw [bind_ok hstyles]
      rfl
    · rw [if_neg hcov] at hstyles
      rw [if_neg hcov, if_neg hcov]
      rw [bind_ok hstyles]
      rfl

/-- A run that is kept hands in what it noted. -/
theorem transform_run (fileId source : String) (s : State) :
    (p.transform d fileId source).run.run s =
      match p.compiled fileId source with
      | .error e => (.error e, s)
      | .ok a =>
        let imported := (p.importer.apply d a).run s.listings
        (.ok (p.rewriteAssets d imported.1), { s with
          listings := imported.2
          collection := close (p.entered s.collection fileId) (p.scanOf s.collection imported.1)
            true }) := by
  have hdraft := p.draft_run d fileId source s
  unfold transform
  cases hc : p.compiled fileId source with
  | error e =>
    rw [hc] at hdraft
    rw [bind_error hdraft]
  | ok a =>
    rw [hc] at hdraft
    rw [bind_ok hdraft]
    rfl

/-- A version that no later one overtakes is run like any file, and put on record. -/
theorem transformVersion_run {fileId : String} {version : Nat} {s : State}
    (h : (s.versions.lookup fileId).getD version ≤ version) (source : String) :
    (p.transformVersion d fileId version source).run.run s =
      match p.compiled fileId source with
      | .error e => (.error e, { s with versions := insertSorted fileId version s.versions })
      | .ok a =>
        let imported := (p.importer.apply d a).run s.listings
        (.ok (.emitted (p.rewriteAssets d imported.1)), { s with
          versions := insertSorted fileId version s.versions
          listings := imported.2
          collection := close (p.entered s.collection fileId) (p.scanOf s.collection imported.1)
            true }) := by
  have hsubmit := submit_run fileId version s
  rw [if_pos h] at hsubmit
  have hdraft := p.draft_run d fileId source { s with versions := insertSorted fileId version s.versions }
  rw [p.transformVersion_accepted d hsubmit]
  cases hc : p.compiled fileId source with
  | error e =>
    rw [hc] at hdraft
    rw [bind_error hdraft]
  | ok a =>
    rw [hc] at hdraft
    have hid : (p.rewriteAssets d ((p.importer.apply d a).run s.listings).1).fileId = fileId :=
      (p.importer.apply_fileId d a s.listings).trans (p.compiled_fileId hc)
    rw [bind_ok hdraft]
    show (fun r : Outcome × State => ((.ok r.1, r.2) : Except Error Outcome × State))
      ((finish (.ifCurrent version) _).run _) = _
    rw [finish_run]
    have hkept : ∀ s' : State, s'.versions = insertSorted fileId version s.versions →
        keeps s' (p.rewriteAssets d ((p.importer.apply d a).run s.listings).1).fileId
          (.ifCurrent version) = true := by
      intro s' hs'
      unfold keeps
      rw [hs', hid, lookup_insertSorted, if_pos rfl]
      exact decide_eq_true rfl
    dsimp only
    rw [hkept _ rfl]
    rfl

/-! ## Small projects -/

/-- A disk with the client runtime, the default theme, and these files beside the deck. -/
def smallDisk (files : List (String × String)) : Disk where
  entries := [(["node_modules"], .directory), (["node_modules", "@slidev"], .directory),
    (["node_modules", "@slidev", "client"], .directory),
    (["node_modules", "@slidev", "theme-default"], .directory)] ++
    files.map fun (name, text) => ([name], .file text.toUTF8)

/-- A project of which these files are scanned. -/
def smallProject (scanned : List String) : Project where
  entry := ⟨"/slides.md"⟩
  overrides := {
    assets := { patterns := some [] }
    style := {
      included := some scanned
      excluded := some []
      scanDirs := some []
      configFiles := some [] } }

theorem exists_ok {ε α : Type} (r : Except ε α) (test : α → Bool) (h : r.toOption.any test = true) :
    ∃ a, r = .ok a ∧ test a = true := by
  cases r with
  | ok a => exact ⟨a, rfl, h⟩
  | error e => cases h

theorem test_of_ok {ε α : Type} {r : Except ε α} {a : α} (hr : r = .ok a) (test : α → Bool)
    (h : r.toOption.any test = true) : test a = true := by
  subst hr
  exact h

end DeckPress.Pipeline
