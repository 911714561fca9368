import DeckPress.Proofs.Pipeline.Build

/-!
# Errors stay with their files

A file that does not compile is recorded and the others are built nevertheless. This holds of every file
that is a job of the build, and of the deck. It does not hold of the files that slides take their text
from: the front matter of such a file is read twice outside the jobs, first when the slides are collected
and again when the list of slides is made, and each time an error stops the build although it belongs to
one file. What is proved is the exact extent of this: a build stops without need if and only if the front
matter of such a file cannot be read, and in all other cases everything is recorded.
-/

namespace DeckPress

namespace PresentedSlide

/-- The slide's file cannot be read. -/
def IsMissing (s : PresentedSlide) : Prop := ∃ file, s.file = some file ∧ file.content = none

/-- The front matter of the slide's file cannot be taken off. -/
def IsMalformed (s : PresentedSlide) : Prop :=
  ∃ file content fault, s.file = some file ∧ file.content = some content ∧
    Deck.splitFrontMatter content = .error fault

/-- The front matter of the slide's file can be taken off, but what is put together from it starts with
front matter that cannot. -/
def IsTangled (s : PresentedSlide) : Prop :=
  ∃ file content fields body fault, s.file = some file ∧ file.content = some content ∧
    Deck.splitFrontMatter content = .ok (fields, body) ∧
    Deck.splitFrontMatter
      (Deck.withFrontMatter (mergedFields fields s.source.frontMatter) body) = .error fault

/-- The slide has its text. -/
def IsReadable (s : PresentedSlide) : Prop := ¬ s.IsMissing ∧ ¬ s.IsMalformed

/-- A slide has its text, or its file is missing, or the front matter of its file is malformed. -/
theorem markdown_cases (s : PresentedSlide) (module : String) :
    (s.IsReadable ∧ ∃ text, s.markdown module = .ok text) ∨
    (s.IsMissing ∧ ∃ e, s.markdown module = .error e ∧ e.isFatal = true) ∨
    (s.IsMalformed ∧ ∃ e, s.markdown module = .error e ∧ e.isFatal = false) := by
  obtain ⟨source, file⟩ := s
  cases file with
  | none =>
    refine .inl ⟨⟨?_, ?_⟩, _, rfl⟩
    · rintro ⟨_, h, -⟩
      cases h
    · rintro ⟨_, _, _, h, -⟩
      cases h
  | some file =>
    obtain ⟨path, content⟩ := file
    cases content with
    | none => exact .inr (.inl ⟨⟨_, rfl, rfl⟩, _, rfl, rfl⟩)
    | some content =>
      cases hs : Deck.splitFrontMatter content with
      | error fault =>
        refine .inr (.inr ⟨⟨_, _, fault, rfl, rfl, hs⟩, .compile path.text fault, ?_, rfl⟩)
        simp [markdown, hs, Except.mapError, bind, Except.bind]
      | ok parts =>
        refine .inl ⟨⟨?_, ?_⟩, Deck.withFrontMatter (mergedFields parts.1 source.frontMatter) parts.2, ?_⟩
        · rintro ⟨_, h, hc⟩
          cases h
          cases hc
        · rintro ⟨_, _, fault, h, hc, hf⟩
          cases h
          cases hc
          rw [hs] at hf
          cases hf
        · simp [markdown, hs, Except.mapError, bind, Except.bind, pure, Except.pure]

theorem markdown_ok_iff (s : PresentedSlide) (module : String) :
    (∃ text, s.markdown module = .ok text) ↔ s.IsReadable := by
  rcases s.markdown_cases module with ⟨hr, hok⟩ | ⟨hm, e, he, -⟩ | ⟨hm, e, he, -⟩
  · exact ⟨fun _ => hr, fun _ => hok⟩
  · refine ⟨?_, fun hr => absurd hm hr.1⟩
    rintro ⟨text, h⟩
    rw [he] at h
    cases h
  · refine ⟨?_, fun hr => absurd hm hr.2⟩
    rintro ⟨text, h⟩
    rw [he] at h
    cases h

/-- A slide stops a build without need exactly if the front matter of its file is malformed. -/
theorem markdown_contained_iff (s : PresentedSlide) (module : String) :
    (∃ e, s.markdown module = .error e ∧ e.isFatal = false) ↔ s.IsMalformed := by
  rcases s.markdown_cases module with ⟨hr, text, hok⟩ | ⟨hm, e, he, hf⟩ | ⟨hm, e, he, hf⟩
  · refine ⟨?_, fun hm => absurd hm hr.2⟩
    rintro ⟨e, h, -⟩
    rw [hok] at h
    cases h
  · constructor
    · rintro ⟨e', h, hf'⟩
      rw [he] at h
      cases h
      rw [hf] at hf'
      cases hf'
    · rintro ⟨file, content, _, hfile, hc, -⟩
      obtain ⟨file', hfile', hn⟩ := hm
      rw [hfile] at hfile'
      cases hfile'
      rw [hc] at hn
      cases hn
  · exact ⟨fun _ => hm, fun _ => ⟨e, he, hf⟩⟩

end PresentedSlide

namespace Presentation

open PresentedSlide (IsReadable IsTangled)

/-- A readable slide is described unless it is tangled, which is then laid to the module that asks. -/
theorem describe_cases {s : PresentedSlide} (h : s.IsReadable) (module : String) :
    (¬ s.IsTangled ∧ ∃ info, describe s module = .ok info) ∨
    (s.IsTangled ∧ ∃ fault, describe s module = .error (.compile module fault)) := by
  obtain ⟨source, file⟩ := s
  cases file with
  | none =>
    refine .inl ⟨?_, _, rfl⟩
    rintro ⟨_, _, _, _, _, h, -⟩
    cases h
  | some file =>
    obtain ⟨path, content⟩ := file
    cases content with
    | none => exact absurd ⟨_, rfl, rfl⟩ h.1
    | some content =>
      cases hs : Deck.splitFrontMatter content with
      | error fault => exact absurd ⟨_, _, fault, rfl, rfl, hs⟩ h.2
      | ok parts =>
        obtain ⟨fields, body⟩ := parts
        have hm : PresentedSlide.markdown ⟨source, some ⟨path, some content⟩⟩ module =
            .ok (Deck.withFrontMatter (PresentedSlide.mergedFields fields source.frontMatter) body) := by
          simp [PresentedSlide.markdown, hs, Except.mapError, bind, Except.bind, pure, Except.pure]
        cases ht : Deck.splitFrontMatter
            (Deck.withFrontMatter (PresentedSlide.mergedFields fields source.frontMatter) body) with
        | error fault =>
          refine .inr ⟨⟨_, _, _, _, fault, rfl, rfl, hs, ht⟩, fault, ?_⟩
          simp [describe, hm, ht, Except.mapError, bind, Except.bind]
        | ok merged =>
          refine .inl ⟨?_, ?_⟩
          · rintro ⟨_, _, fields', body', fault, h₁, h₂, h₃, h₄⟩
            cases h₁
            cases h₂
            rw [hs] at h₃
            cases h₃
            rw [ht] at h₄
            cases h₄
          · unfold describe
            dsimp only
            rw [hm]
            dsimp only [bind, Except.bind]
            rw [ht]
            dsimp only [Except.mapError]
            split <;> exact ⟨_, rfl⟩

theorem slideMeta_cases {s : PresentedSlide} (h : s.IsReadable) (module : String) :
    (¬ s.IsTangled ∧ ∃ info, slideMeta s module = .ok info) ∨
    (s.IsTangled ∧ ∃ fault, slideMeta s module = .error (.compile module fault)) := by
  unfold slideMeta
  rcases describe_cases h module with ⟨ht, info, hd⟩ | ⟨ht, fault, hd⟩
  · exact .inl ⟨ht, by rw [hd]; exact ⟨_, rfl⟩⟩
  · exact .inr ⟨ht, fault, by rw [hd]; rfl⟩

variable {deck : Presentation}

/-- With readable slides the list of slides can be made unless one of them is tangled. -/
theorem slideList_cases (h : ∀ x ∈ deck.visible, x.2.IsReadable) :
    ((∀ x ∈ deck.visible, ¬ x.2.IsTangled) ∧ ∃ text, deck.slideList = .ok text) ∨
    ((∃ x ∈ deck.visible, x.2.IsTangled) ∧
      ∃ fault, deck.slideList = .error (.compile (ModuleId.text .slides) fault)) := by
  unfold slideList
  cases hm : deck.visible.mapM (fun (x : Nat × PresentedSlide) => do
      return slideEntry x.1 (← slideMeta x.2 (ModuleId.text .slides)) :
        Nat × PresentedSlide → Except Error String) with
  | ok entries =>
    refine .inl ⟨fun x hx ht => ?_, _, rfl⟩
    obtain ⟨entry, he⟩ := mapM_ok hm x hx
    rcases slideMeta_cases (h x hx) (ModuleId.text .slides) with ⟨hnt, -⟩ | ⟨-, fault, hf⟩
    · exact hnt ht
    · rw [hf] at he
      cases he
  | error e =>
    obtain ⟨before, x, after, hxs, hx, -⟩ := mapM_error_iff.mp hm
    have hmem : x ∈ deck.visible := by
      rw [hxs]
      exact List.mem_append_right _ List.mem_cons_self
    rcases slideMeta_cases (h x hmem) (ModuleId.text .slides) with ⟨-, info, hi⟩ | ⟨ht, fault, hf⟩
    · rw [hi] at hx
      cases hx
    · rw [hf] at hx
      cases hx
      exact .inr ⟨⟨x, hmem, ht⟩, fault, rfl⟩

/-- With readable slides the editor loader can be made. -/
theorem editor_ok (h : ∀ x ∈ deck.visible, x.2.IsReadable) (enabled : Bool) :
    ∃ text, deck.editor enabled = .ok text := by
  have hwanted : ∀ slides : List (Nat × PresentedSlide), (∀ x ∈ slides, x.2.IsReadable) →
      ∃ b, wantsEditor (ModuleId.text .monaco) slides = .ok b := by
    intro slides
    induction slides with
    | nil => exact fun _ => ⟨false, rfl⟩
    | cons x rest ih =>
      intro hs
      obtain ⟨text, ht⟩ := (x.2.markdown_ok_iff (ModuleId.text .monaco)).mpr (hs x List.mem_cons_self)
      obtain ⟨b, hb⟩ := ih fun y hy => hs y (List.mem_cons_of_mem _ hy)
      unfold wantsEditor
      rw [ht]
      by_cases hw : Code.Editor.wanted text
      · exact ⟨true, by simp [bind, Except.bind, hw, pure, Except.pure]⟩
      · exact ⟨b, by simp [bind, Except.bind, hw, hb]⟩
  unfold editor
  cases enabled with
  | false => exact ⟨_, rfl⟩
  | true =>
    obtain ⟨b, hb⟩ := hwanted deck.visible h
    rw [hb]
    exact ⟨_, rfl⟩

/-- Setup files that are missing stop a build, as an error of the project. -/
theorem setups_fatal {d : Disk} {e : Error} (h : setups d deck = .error e) : e.isFatal = true := by
  unfold setups at h
  split at h
  · cases h
    rfl
  · cases h

end Presentation

namespace Pipeline

variable (p : Pipeline) (d : Disk)

/-- With readable slides the modules of a deck fail without need exactly if a slide is tangled. -/
theorem deckTexts_contained_iff {deck : Presentation} (h : ∀ x ∈ deck.visible, x.2.IsReadable) :
    (∃ e, p.deckTexts d deck = .error e ∧ e.isFatal = false) ↔ ∃ x ∈ deck.visible, x.2.IsTangled := by
  rcases Presentation.slideList_cases h with ⟨hnone, text, htext⟩ | ⟨hsome, fault, hfault⟩
  · refine ⟨?_, fun ⟨x, hx, ht⟩ => absurd ht (hnone x hx)⟩
    rintro ⟨e, he, hf⟩
    exfalso
    obtain ⟨editor, heditor⟩ := Presentation.editor_ok h p.options.markdown.monaco
    unfold deckTexts at he
    cases hs : Presentation.setups d deck with
    | error e' =>
      have : e = e' := by
        simpa [ModuleId.deckModules, Presentation.provide?, htext, hs, bind, Except.bind, Except.map,
          pure, Except.pure, eq_comm] using he
      rw [this, Presentation.setups_fatal hs] at hf
      cases hf
    | ok setups =>
      simp [ModuleId.deckModules, Presentation.provide?, htext, hs, heditor, bind, Except.bind,
        Except.map, pure, Except.pure] at he
  · refine ⟨fun _ => hsome, fun _ => ⟨.compile (ModuleId.text .slides) fault, ?_, rfl⟩⟩
    simp [deckTexts, ModuleId.deckModules, Presentation.provide?, hfault, bind, Except.bind, Except.map,
      pure, Except.pure]

/-- The job for one slide. -/
def slideJob (x : Nat × PresentedSlide) : Except Error Job :=
  (x.2.markdown (ModuleId.text (.slide x.1))).map fun text => ⟨ModuleId.text (.slide x.1), .ok text⟩

theorem slideJobs_eq (deck : Presentation) : slideJobs deck = deck.visible.mapM slideJob := by
  unfold slideJobs
  congr 1

theorem slideJob_ok_iff (x : Nat × PresentedSlide) :
    (∃ job, slideJob x = .ok job) ↔ x.2.IsReadable := by
  rw [← x.2.markdown_ok_iff (ModuleId.text (.slide x.1))]
  unfold slideJob
  cases x.2.markdown (ModuleId.text (.slide x.1)) <;> simp [Except.map]

theorem slideJob_contained_iff (x : Nat × PresentedSlide) :
    (∃ e, slideJob x = .error e ∧ e.isFatal = false) ↔ x.2.IsMalformed := by
  rw [← x.2.markdown_contained_iff (ModuleId.text (.slide x.1))]
  unfold slideJob
  cases x.2.markdown (ModuleId.text (.slide x.1)) <;> simp [Except.map]

theorem slideJob_fileId {x : Nat × PresentedSlide} {job : Job} (h : slideJob x = .ok job) :
    job.fileId = ModuleId.text (.slide x.1) := by
  unfold slideJob at h
  cases hm : x.2.markdown (ModuleId.text (.slide x.1)) with
  | error e => rw [hm] at h; cases h
  | ok text => rw [hm] at h; cases h; rfl

/-- The slides of a deck fail to be collected without need exactly if the first that cannot be had is
malformed. -/
theorem slideJobs_contained_iff (deck : Presentation) :
    (∃ e, slideJobs deck = .error e ∧ e.isFatal = false) ↔
      ∃ before x after, deck.visible = before ++ x :: after ∧ x.2.IsMalformed ∧
        ∀ y ∈ before, y.2.IsReadable := by
  rw [slideJobs_eq]
  constructor
  · rintro ⟨e, he, hf⟩
    obtain ⟨before, x, after, hxs, hx, hb⟩ := mapM_error_iff.mp he
    exact ⟨before, x, after, hxs, (slideJob_contained_iff x).mp ⟨e, hx, hf⟩,
      fun y hy => (slideJob_ok_iff y).mp (hb y hy)⟩
  · rintro ⟨before, x, after, hxs, hx, hb⟩
    obtain ⟨e, he, hf⟩ := (slideJob_contained_iff x).mpr hx
    exact ⟨e, mapM_error_iff.mpr ⟨before, x, after, hxs, he,
      fun y hy => (slideJob_ok_iff y).mpr (hb y hy)⟩, hf⟩

/-- Slides can be collected exactly if all are readable, -/
theorem slideJobs_ok_iff (deck : Presentation) :
    (∃ jobs, slideJobs deck = .ok jobs) ↔ ∀ x ∈ deck.visible, x.2.IsReadable := by
  rw [slideJobs_eq]
  constructor
  · rintro ⟨jobs, h⟩ x hx
    exact (slideJob_ok_iff x).mp (mapM_ok h x hx)
  · exact fun h => mapM_ok_of_forall fun x hx => (slideJob_ok_iff x).mpr (h x hx)

/-- and then there is one job for each. -/
theorem slideJobs_fileId {deck : Presentation} {jobs : List Job} (h : slideJobs deck = .ok jobs) :
    jobs.map Job.fileId = deck.visible.map fun x => ModuleId.text (.slide x.1) := by
  rw [slideJobs_eq] at h
  exact mapM_map_eq h fun _ _ => slideJob_fileId

/-- The front matter of a file that a slide takes its text from cannot be read: that of the first slide
that cannot be had, or, where all can be had, that which one of them is put together with. -/
def BrokenImport : Prop :=
  ∃ deck, Presentation.load d p.layout = .ok deck ∧
    ((∃ before x after, deck.visible = before ++ x :: after ∧ x.2.IsMalformed ∧
      ∀ y ∈ before, y.2.IsReadable) ∨
    ((∀ x ∈ deck.visible, x.2.IsReadable) ∧ ∃ x ∈ deck.visible, x.2.IsTangled))

theorem brokenImport_iff :
    p.BrokenImport d ↔
      (∃ e, p.deckJobs d = .error e ∧ e.isFatal = false) ∨
      ∃ jobs e, p.deckJobs d = .ok jobs ∧ p.buildTexts d = .error e ∧ e.isFatal = false := by
  unfold BrokenImport deckJobs buildTexts
  cases hl : Presentation.load d p.layout with
  | error e => simp
  | ok deck =>
    dsimp only
    rw [slideJobs_contained_iff]
    constructor
    · rintro ⟨deck', hdeck, hslides | ⟨hread, ht⟩⟩
      · cases hdeck
        exact .inl hslides
      · cases hdeck
        obtain ⟨e, he, hf⟩ := (p.deckTexts_contained_iff d hread).mpr ht
        obtain ⟨jobs, hjobs⟩ := (slideJobs_ok_iff deck).mpr hread
        exact .inr ⟨jobs, e, hjobs, he, hf⟩
    · rintro (hslides | ⟨jobs, e, hjobs, he, hf⟩)
      · exact ⟨deck, rfl, .inl hslides⟩
      · have hread := (slideJobs_ok_iff deck).mp ⟨jobs, hjobs⟩
        exact ⟨deck, rfl, .inr ⟨hread, (p.deckTexts_contained_iff d hread).mp ⟨e, he, hf⟩⟩⟩

/--
**A full build contains the errors of its files, but for broken imports.**

A build stops only with errors of the project exactly if no file that a slide takes its text from is
broken. It comes to an end exactly if it gets the slides and the modules of the deck, whatever the scanned
files are. It then has a job for every shown slide and every scanned file: each has its artifact, or its
failure recorded under its own id; and a deck that cannot be read is recorded too.
-/
theorem fullBuild_contains_iff (s : State) :
    ((∀ e, ((p.fullBuild d).run.run s).1 = .error e → e.isFatal = true) ↔ ¬ p.BrokenImport d) ∧
    ((∃ b, ((p.fullBuild d).run.run s).1 = .ok b) ↔
      ∃ slides texts, p.deckJobs d = .ok slides ∧ p.buildTexts d = .ok texts) ∧
    ∀ b, ((p.fullBuild d).run.run s).1 = .ok b →
      ∃ slides, p.deckJobs d = .ok slides ∧
        (∀ deck, Presentation.load d p.layout = .ok deck →
          slides.map Job.fileId = deck.visible.map fun x => ModuleId.text (.slide x.1)) ∧
        b.failures = p.deckFailures d ++ (slides ++ p.fileJobs d).filterMap p.failure? ∧
        b.artifacts.map Artifact.fileId =
          ((slides ++ p.fileJobs d).filter fun job => (p.jobFault job).isNone).map Job.fileId := by
  have hresult := p.fullBuild_result d s
  rw [brokenImport_iff]
  cases hjobs : p.deckJobs d with
  | error e =>
    rw [hjobs] at hresult
    dsimp only at hresult
    rw [hresult]
    refine ⟨?_, by simp, fun b hb => by cases hb⟩
    constructor
    · rintro hfatal (⟨e', he, hf⟩ | ⟨jobs, e', hj, -⟩)
      · cases he
        rw [hfatal e rfl] at hf
        cases hf
      · cases hj
    · intro hnone e' he
      cases he
      by_contra hf
      exact hnone (.inl ⟨e, rfl, by simpa using hf⟩)
  | ok slides =>
    rw [hjobs] at hresult
    cases htexts : p.buildTexts d with
    | error e =>
      rw [htexts] at hresult
      dsimp only at hresult
      rw [hresult]
      refine ⟨?_, by simp, fun b hb => by cases hb⟩
      constructor
      · rintro hfatal (⟨e', he, -⟩ | ⟨jobs, e', -, he, hf⟩)
        · cases he
        · cases he
          rw [hfatal e rfl] at hf
          cases hf
      · intro hnone e' he
        cases he
        by_contra hf
        exact hnone (.inr ⟨slides, e, rfl, rfl, by simpa using hf⟩)
    | ok texts =>
      rw [htexts] at hresult
      obtain ⟨b, hb, hfailures, hartifacts⟩ := hresult
      rw [hb]
      refine ⟨⟨fun _ => ?_, fun _ e he => by cases he⟩, ⟨fun _ => ⟨slides, texts, rfl, rfl⟩,
        fun _ => ⟨b, rfl⟩⟩, fun b' hb' => ?_⟩
      · rintro (⟨e, he, -⟩ | ⟨jobs, e, -, he, -⟩) <;> cases he
      · cases hb'
        refine ⟨slides, rfl, fun deck hl => ?_, hfailures, hartifacts⟩
        have hslides : slideJobs deck = .ok slides := by
          unfold deckJobs at hjobs
          rwa [hl] at hjobs
        exact slideJobs_fileId hslides

/-- A deck of two slides, of which the second has its text in a file whose front matter is left open,
and a component. -/
def openImport : Disk :=
  smallDisk [("slides.md", "# One\n\n---\nsrc: ./part.md\n---\n"), ("part.md", "---\ntitle: Part\n"),
    ("Card.vue", "<template><p class=\"flex\"/></template>\n")]

/-- The open front matter of the one file stops the build of the whole project, although it is no error
of the project. -/
theorem fullBuild_stopped_by_openImport :
    ∃ p, Pipeline.assemble openImport (smallProject ["Card.vue"]) = .ok p ∧
      ∃ e, ((p.fullBuild openImport).run.run { shared := .initial false }).1 = .error e ∧
        e.isFatal = false ∧ e.message = "Failed to compile /./part.md: unterminated front matter" := by
  obtain ⟨p, hp, hrun⟩ := exists_ok (Pipeline.assemble openImport (smallProject ["Card.vue"]))
    (fun p =>
      match ((p.fullBuild openImport).run.run { shared := .initial false }).1 with
      | .error e => !e.isFatal && e.message = "Failed to compile /./part.md: unterminated front matter"
      | .ok _ => false)
    (by decide +kernel)
  refine ⟨p, hp, ?_⟩
  cases hb : ((p.fullBuild openImport).run.run { shared := .initial false }).1 with
  | ok b =>
    rw [hb] at hrun
    cases hrun
  | error e =>
    rw [hb] at hrun
    simp only [Bool.and_eq_true, Bool.not_eq_true', decide_eq_true_eq] at hrun
    exact ⟨e, rfl, hrun⟩

end Pipeline

end DeckPress
