import DeckPress.Proofs.Pipeline.Build

/-!
# What runs leave in the collection

A run of a file that is kept leaves a note: the file and the tokens of its code. Which tokens these are
depends on the disk and on the listings at hand, because the imports that are added to a file are part of
its code. So notes are computed by the same pass over the files that threads the listings, and nothing
else of the state. A full build leaves exactly the notes of its jobs.
-/

namespace DeckPress.Pipeline

open Component (Listings)

/-- A file with the text that it is run with. -/
structure Pass where
  fileId : String
  source : String
  deriving DecidableEq

/-- What a pass has left in the collection. -/
structure Note where
  pass : Pass
  tokens : Style.TokenSet

variable (p : Pipeline) (d : Disk)

/-- What a pass leaves, and the listings behind it. A file that does not compile leaves no token. -/
def note (ls : Listings) (x : Pass) : Note × Listings :=
  match p.compiled x.fileId x.source with
  | .error _ => (⟨x, []⟩, ls)
  | .ok a =>
    let imported := (p.importer.apply d a).run ls
    (⟨x, if p.scope.covers x.fileId then p.vocabulary.tokensIn imported.1.code else []⟩, imported.2)

/-- What passes leave one after the other. -/
def notes : Listings → List Pass → List Note × Listings
  | ls, [] => ([], ls)
  | ls, x :: xs =>
    let first := p.note d ls x
    let rest := notes first.2 xs
    (first.1 :: rest.1, rest.2)

theorem notes_append (ls : Listings) (xs ys : List Pass) :
    p.notes d ls (xs ++ ys) =
      ((p.notes d ls xs).1 ++ (p.notes d (p.notes d ls xs).2 ys).1,
        (p.notes d (p.notes d ls xs).2 ys).2) := by
  induction xs generalizing ls with
  | nil => rfl
  | cons x xs ih =>
    simp only [List.cons_append, notes, ih]

theorem note_pass (ls : Listings) (x : Pass) : (p.note d ls x).1.pass = x := by
  unfold note
  split <;> rfl

/-- Every pass leaves one note. -/
theorem notes_pass (ls : Listings) (xs : List Pass) : (p.notes d ls xs).1.map Note.pass = xs := by
  induction xs generalizing ls with
  | nil => rfl
  | cons x xs ih =>
    rw [notes, List.map_cons, note_pass, ih]

/-- Whether one of the notes is of this token and this file. -/
def Mentions (ns : List Note) (token file : String) : Prop :=
  ∃ n ∈ ns, n.pass.fileId = file ∧ token ∈ n.tokens

theorem mentions_append (ns ms : List Note) (token file : String) :
    Mentions (ns ++ ms) token file ↔ Mentions ns token file ∨ Mentions ms token file := by
  unfold Mentions
  grind

theorem mentions_singleton (n : Note) (token file : String) :
    Mentions [n] token file ↔ n.pass.fileId = file ∧ token ∈ n.tokens := by
  simp [Mentions]

/-- The state after passes: the listings are those behind them, and their notes are added. -/
structure After (s s' : State) (xs : List Pass) : Prop where
  listings : s'.listings = (p.notes d s.listings xs).2
  tidy : s.collection.Tidy → s'.collection.Tidy
  notes : ∀ token file, s'.collection.Notes token file ↔
    s.collection.Notes token file ∨ Mentions (p.notes d s.listings xs).1 token file

variable {p d}

theorem After.refl (s : State) : After p d s s [] where
  listings := rfl
  tidy := id
  notes := by simp [Mentions, Pipeline.notes]

theorem After.trans {s₁ s₂ s₃ : State} {xs ys : List Pass} (h₁ : After p d s₁ s₂ xs)
    (h₂ : After p d s₂ s₃ ys) : After p d s₁ s₃ (xs ++ ys) where
  listings := by rw [notes_append, h₂.listings, h₁.listings]
  tidy := h₂.tidy ∘ h₁.tidy
  notes := by
    intro token file
    rw [notes_append, mentions_append, h₂.notes, h₁.notes, h₁.listings, or_assoc]

theorem tidy_entered {c : Style.Collection} (h : c.Tidy) (fileId : String) :
    (p.entered c fileId).Tidy := by
  unfold entered
  split
  · exact h.of_uses rfl
  · exact h

theorem tidy_close {c : Style.Collection} (h : c.Tidy) (scan : Option Style.Scan) (kept : Bool) :
    (close c scan kept).Tidy := by
  unfold close
  cases scan with
  | none => exact h
  | some scan =>
    cases kept with
    | true => exact h.commit scan
    | false => exact h.of_uses rfl

/-- A kept run of a file that compiles. -/
theorem after_keep {fileId source : String} {a : Artifact} (h : p.compiled fileId source = .ok a)
    (s s' : State) (hl : s'.listings = ((p.importer.apply d a).run s.listings).2)
    (hc : s'.collection = close (p.entered s.collection fileId)
      (p.scanOf s.collection ((p.importer.apply d a).run s.listings).1) true) :
    After p d s s' [⟨fileId, source⟩] := by
  have hid : ((p.importer.apply d a).run s.listings).1.fileId = fileId :=
    (p.importer.apply_fileId d a s.listings).trans (p.compiled_fileId h)
  have hnote : p.note d s.listings ⟨fileId, source⟩ =
      (⟨⟨fileId, source⟩, if p.scope.covers fileId then
        p.vocabulary.tokensIn ((p.importer.apply d a).run s.listings).1.code else []⟩,
        ((p.importer.apply d a).run s.listings).2) := by
    unfold note
    rw [h]
  refine ⟨?_, fun ht => ?_, fun token file => ?_⟩
  · rw [hl, Pipeline.notes, hnote]
    rfl
  · rw [hc]
    exact tidy_close (tidy_entered ht fileId) _ _
  · rw [Pipeline.notes, hnote, hc]
    dsimp only [Pipeline.notes]
    rw [mentions_singleton]
    unfold scanOf entered
    rw [hid]
    by_cases hcov : p.scope.covers fileId
    · rw [if_pos hcov, if_pos hcov, if_pos hcov]
      show (s.collection.enter.commit _).Notes token file ↔ _
      rw [Style.Collection.commit_notes rfl]
      show token ∈ Style.TokenSet.union [] _ ∧ file = fileId ∨ _ ↔ _
      rw [Style.TokenSet.mem_union, Style.Collection.enter_notes]
      simp only [List.not_mem_nil, false_or]
      constructor
      · rintro (⟨ht, rfl⟩ | hn)
        · exact .inr ⟨rfl, ht⟩
        · exact .inl hn
      · rintro (hn | ⟨rfl, ht⟩)
        · exact .inr hn
        · exact .inl ⟨ht, rfl⟩
    · rw [if_neg hcov, if_neg hcov, if_neg hcov]
      simp [close]

/-- A run of a file that does not compile. -/
theorem after_fail {fileId source : String} {e : Error} (h : p.compiled fileId source = .error e)
    {s s' : State} (hl : s'.listings = s.listings) (hc : s'.collection = s.collection) :
    After p d s s' [⟨fileId, source⟩] := by
  have hnote : p.note d s.listings ⟨fileId, source⟩ = (⟨⟨fileId, source⟩, []⟩, s.listings) := by
    unfold note
    rw [h]
  refine ⟨?_, fun ht => hc ▸ ht, fun token file => ?_⟩
  · rw [hl, Pipeline.notes, hnote]
    rfl
  · rw [Pipeline.notes, hnote, hc]
    dsimp only [Pipeline.notes]
    rw [mentions_singleton]
    simp

/-! ## The notes of a build -/

/-- The pass of a job; a file that cannot be read has none. -/
def Job.pass? (job : Job) : Option Pass :=
  match job.source with
  | .ok source => some ⟨job.fileId, source⟩
  | .error _ => none

theorem after_runJob (job : Job) (s : State) :
    After p d s ((p.runJob d job).run s).2 job.pass?.toList := by
  unfold runJob Job.pass?
  cases job.source with
  | error cause => exact After.refl s
  | ok source =>
    show After p d s ((p.transform d job.fileId source).run.run s).2 [⟨job.fileId, source⟩]
    rw [transform_run]
    cases hc : p.compiled job.fileId source with
    | error e => exact after_fail hc rfl rfl
    | ok a => exact after_keep hc s _ rfl rfl

theorem after_runJobs (jobs : List Job) (s : State) :
    After p d s (p.runJobs d jobs s).2 (jobs.filterMap Job.pass?) := by
  induction jobs generalizing s with
  | nil => exact After.refl s
  | cons job jobs ih =>
    have hjob := (after_runJob job s).trans (ih ((p.runJob d job).run s).2)
    have hpasses : (job :: jobs).filterMap Job.pass? = job.pass?.toList ++ jobs.filterMap Job.pass? := by
      cases hj : job.pass? with
      | none => rw [List.filterMap_cons_none hj]; rfl
      | some x => rw [List.filterMap_cons_some hj]; rfl
    rw [hpasses]
    exact hjob

variable (p d)

/-- The passes of a full build; none where the slides cannot be collected. -/
def buildPasses : List Pass :=
  match p.deckJobs d with
  | .ok slides => (slides ++ p.fileJobs d).filterMap Job.pass?
  | .error _ => []

/-- The notes of a full build. -/
def buildNotes : List Note := (p.notes d [] (p.buildPasses d)).1

/-- A full build forgets all earlier notes and leaves its own. -/
theorem fullBuild_notes (s : State) :
    ((p.fullBuild d).run.run s).2.collection.Tidy ∧
      ∀ token file, ((p.fullBuild d).run.run s).2.collection.Notes token file ↔
        Mentions (p.buildNotes d) token file := by
  have htidy : (p.opened d s).collection.Tidy := Style.Collection.Tidy.reset
  have hnone : ∀ token file, ¬ (p.opened d s).collection.Notes token file :=
    Style.Collection.reset_notes s.collection
  rw [fullBuild_run]
  unfold buildNotes buildPasses
  cases p.deckJobs d with
  | error e =>
    refine ⟨htidy, fun token file => ?_⟩
    simp only [Pipeline.notes, Mentions, List.not_mem_nil, false_and, exists_false, iff_false]
    exact hnone token file
  | ok slides =>
    have hafter := after_runJobs (p := p) (d := d) (slides ++ p.fileJobs d) (p.opened d s)
    refine ⟨hafter.tidy htidy, fun token file => ?_⟩
    dsimp only
    rw [hafter.notes]
    simp only [hnone, false_or]
    rfl

/-- What a full build collects does not depend on what was remembered. -/
theorem mem_tokens_fullBuild (s : State) (token : String) :
    token ∈ ((p.fullBuild d).run.run s).2.collection.tokens ↔ ∃ n ∈ p.buildNotes d, token ∈ n.tokens := by
  obtain ⟨htidy, hnotes⟩ := p.fullBuild_notes d s
  rw [htidy.mem_tokens]
  simp only [hnotes, Mentions]
  grind

end DeckPress.Pipeline
