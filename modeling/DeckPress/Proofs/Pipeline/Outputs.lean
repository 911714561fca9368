import Mathlib.Data.List.Pairwise
import DeckPress.Proofs.Asset.Copies
import DeckPress.Proofs.Component.Compile
import DeckPress.Proofs.Pipeline.Places
import DeckPress.Proofs.Pipeline.Scheduling

/-!
# What is left of a build on the disk

A build writes its slides, files and modules one after the other, and whatever it writes it overwrites what was
there. Since slides are told apart by their numbers and scanned files by their paths, nothing that a build writes
is overwritten by something else of it, unless two of its files clash. Then all of it can be read back.
-/

namespace DeckPress

open Text DeckPress.Path

theorem Path.lexLt_irrefl (cs : List PathComponent) : lexLt cs cs = false := by
  induction cs with
  | nil => rfl
  | cons c cs ih => rw [lexLt, beq_self_eq_true, if_pos rfl, ih]

namespace Build

variable {root : Path}

/-! ## Places of the files of a project -/

theorem apart_ordinary {f g : Path} (hf : Ordinary root f) (hg : Ordinary root g)
    (hne : ¬ (f == g) = true) : Apart root f.text g.text := by
  intro hsame hside
  rw [placeOf_file hf, placeOf_file hg, List.cons_inj_right] at hsame
  change (stripComponents? root.components f.components).isSome =
    (stripComponents? root.components g.components).isSome at hside
  refine hne (beq_iff.mpr ?_)
  cases hfleft : stripComponents? root.components f.components with
  | none =>
    cases hgleft : stripComponents? root.components g.components with
    | none =>
      rw [hfleft, hgleft] at hsame
      rw [components_of_isAbsolute hf.absolute, components_of_isAbsolute hg.absolute]
      exact congrArg (_ :: ·) hsame
    | some left =>
      rw [hfleft, hgleft] at hside
      cases hside
  | some left =>
    cases hgleft : stripComponents? root.components g.components with
    | none =>
      rw [hfleft, hgleft] at hside
      cases hside
    | some left' =>
      rw [hfleft, hgleft] at hsame
      rw [eq_append_of_stripComponents? hfleft, eq_append_of_stripComponents? hgleft]
      exact congrArg (root.components ++ ·) hsame

/-- A slide has a place among the slides and a file one among the files. -/
theorem apart_slide_file {fileId : String} {number : Nat} {f : Path}
    (h : ModuleId.parse? fileId = some (.slide number)) (hf : Ordinary root f) : Apart root fileId f.text := by
  intro hsame
  rw [placeOf_slide h, placeOf_file hf] at hsame
  exact absurd (PathComponent.name.inj (List.cons.inj hsame).1) (by decide)

theorem apart_slides {m n : Nat} (hm : 0 < m) (hm' : m < 2 ^ 64) (hn : 0 < n) (hn' : n < 2 ^ 64) (hne : m ≠ n) :
    Apart root (ModuleId.text (.slide m)) (ModuleId.text (.slide n)) := by
  intro hsame
  have hparsem := ModuleId.parse?_slide hm hm'
  have hparsen := ModuleId.parse?_slide hn hn'
  rw [placeOf_slide hparsem, placeOf_slide hparsen] at hsame
  have hnames : toString m ++ ".md" = toString n ++ ".md" := by simpa using hsame
  have htext : ModuleId.text (.slide m) = ModuleId.text (.slide n) := by
    show ModuleId.slideStart ++ toString m ++ ".md" = ModuleId.slideStart ++ toString n ++ ".md"
    rw [String.append_assoc, hnames, String.append_assoc]
  rw [htext, hparsen] at hparsem
  cases hparsem
  exact absurd rfl hne

end Build

namespace Pipeline

variable {p : Pipeline} {d : Disk}

/-! ## Modules of a build -/

theorem sublist_of_mapM {ε α β : Type} {f : α → Except ε (Option (α × β))}
    (hf : ∀ a b, f a = .ok (some b) → b.1 = a) {xs : List α} {found : List (Option (α × β))}
    (h : xs.mapM f = .ok found) : ((found.filterMap id).map Prod.fst).Sublist xs := by
  induction xs generalizing found with
  | nil =>
    cases h
    exact .slnil
  | cons x xs ih =>
    rw [List.mapM_cons] at h
    cases hx : f x with
    | error e =>
      rw [hx] at h
      cases h
    | ok r =>
      cases hxs : xs.mapM f with
      | error e =>
        rw [hx, hxs] at h
        cases h
      | ok rest =>
        rw [hx, hxs] at h
        cases h
        cases r with
        | none => exact (ih hxs).cons x
        | some b =>
          rw [← hf x b hx]
          exact (ih hxs).cons_cons b.1

theorem elementModules_sublist (artifacts : List Artifact) :
    ((elementModules artifacts).map Prod.fst).Sublist (Component.Element.names.map .element) := by
  unfold elementModules
  generalize Component.Element.names = elements
  induction elements with
  | nil => exact .slnil
  | cons element elements ih =>
    rw [List.filterMap_cons, List.map_cons]
    dsimp only
    split
    · rename_i hnone
      exact ih.cons _
    · rename_i x hx
      split at hx
      · cases hx
        exact ih.cons_cons _
      · cases hx

theorem buildTexts_sublist {texts : List (ModuleId × String)} (h : p.buildTexts d = .ok texts) :
    (texts.map Prod.fst).Sublist ModuleId.deckModules := by
  unfold buildTexts at h
  split at h
  · rename_i deck hload
    unfold deckTexts at h
    cases hfound : ModuleId.deckModules.mapM (fun m => do
        return (← deck.provide? d p.options.markdown.monaco m).map (m, ·) :
          ModuleId → Except Error (Option (ModuleId × String))) with
    | error e =>
      rw [hfound] at h
      cases h
    | ok found =>
      rw [hfound] at h
      cases h
      refine sublist_of_mapM (fun m named hnamed => ?_) hfound
      cases hprovide : deck.provide? d p.options.markdown.monaco m with
      | error e =>
        rw [hprovide] at hnamed
        cases hnamed
      | ok text =>
        rw [hprovide] at hnamed
        cases text with
        | none => cases hnamed
        | some text =>
          cases hnamed
          rfl
  · cases h
    exact List.nil_sublist _

/-- The modules of a build are some of those that there are, each once. -/
theorem yield_modules {results : List (String × Except Error Artifact)} {s : State} {b : Build}
    (h : p.yield d results s = .ok b) :
    ∃ ids, ids.Sublist Build.moduleIds ∧ (b.modules.map Prod.fst).Perm ids := by
  unfold yield at h
  cases hsort : sortResults results with
  | error e =>
    rw [hsort] at h
    cases h
  | ok sorted =>
    cases htexts : p.buildTexts d with
    | error e =>
      rw [hsort, htexts] at h
      cases h
    | ok texts =>
      rw [hsort, htexts] at h
      cases h
      refine ⟨_, ?_, (List.mergeSort_perm _ _).map _⟩
      rw [List.map_append, List.map_cons]
      exact ((buildTexts_sublist htexts).cons_cons _).append (elementModules_sublist sorted.1)

/-! ## Files of a build -/

variable (p d) in
/-- A project whose files all have places of their own: they are ordinary, the deck is written as a file is, and
a number of 64 bits is enough for its slides. -/
structure Orderly : Prop where
  root : p.layout.deckRoot.isAbsolute
  entry : EndsInComponent p.layout.entry.chars
  files : ∀ file ∈ p.layout.entry :: p.scannedFiles d, Build.Ordinary p.layout.deckRoot file
  slides : ∀ deck, Presentation.load d p.layout = .ok deck → deck.visible.length < 2 ^ 64

variable (p d) in
/-- The ids of the files that a build accounts for. -/
def accountedIds : List String :=
  (p.deckFailures d).map BuildFailure.fileId ++ (p.slideIds d ++ (p.scannedFiles d).map Path.text)

theorem Accounts.marked_perm {slides : List Job} {b : Build} (h : p.Accounts d slides b) :
    (b.marked.map Prod.fst).Perm (p.accountedIds d) := by
  have hmarked : b.marked.map Prod.fst = b.artifacts.map Artifact.fileId ++ b.failures.map BuildFailure.fileId := by
    unfold Build.marked
    simp only [List.map_append, List.map_map]
    rfl
  have honce := h.once
  rw [List.map_append, h.slideJobs, h.fileJobs] at honce
  rw [hmarked]
  exact honce

/-- The id of a slide is read back. -/
theorem parse?_of_mem_slideIds (ho : p.Orderly d) {fileId : String} (h : fileId ∈ p.slideIds d) :
    ∃ number, ModuleId.parse? fileId = some (.slide number) := by
  unfold slideIds at h
  split at h
  · rename_i deck hload
    obtain ⟨number, hnumber, rfl⟩ := List.mem_map.mp h
    have hrange := List.mem_range'_1.mp hnumber
    have hfits := ho.slides deck hload
    exact ⟨number, ModuleId.parse?_slide (by omega) (by omega)⟩
  · cases h

theorem isFile_of_mem_scannedFiles {file : Path} (h : file ∈ p.scannedFiles d) : d.isFile file := by
  have hfound := (List.mem_filter.mp h).1
  rcases Style.Scope.mem_foldl_insertPath hfound with hnever | hfound
  · cases hnever
  · have htest := (List.mem_filter.mp hfound).2
    rw [Bool.and_eq_true] at htest
    exact htest.1

/-- Only a deck that cannot be read has a failure of its own, and then there are no slides. -/
theorem deckFailures_cases :
    (p.deckFailures d).map BuildFailure.fileId = [] ∨
      (p.deckFailures d).map BuildFailure.fileId = [p.layout.entry.text] ∧ p.slideIds d = [] := by
  unfold deckFailures slideIds
  cases Presentation.load d p.layout with
  | ok deck => exact .inl rfl
  | error e => exact .inr ⟨rfl, rfl⟩

theorem placed_accountedIds (ho : p.Orderly d) {fileId : String} (h : fileId ∈ p.accountedIds d) :
    ∃ dir rest, dir ≠ "modules" ∧ Build.Placed p.layout.deckRoot fileId dir rest := by
  have hfile : ∀ file ∈ p.layout.entry :: p.scannedFiles d, EndsInComponent file.chars →
      ∃ dir rest, dir ≠ "modules" ∧ Build.Placed p.layout.deckRoot file.text dir rest := by
    intro file hfile hends
    obtain ⟨rest, hplaced⟩ := Build.placed_file ho.root (ho.files file hfile) hends
    exact ⟨"files", rest, by decide, hplaced⟩
  rcases List.mem_append.mp h with hdeck | hrest
  · rcases deckFailures_cases (p := p) (d := d) with hnone | ⟨hentry, -⟩
    · rw [hnone] at hdeck
      cases hdeck
    · rw [hentry, List.mem_singleton] at hdeck
      rw [hdeck]
      exact hfile _ List.mem_cons_self ho.entry
  · rcases List.mem_append.mp hrest with hslide | hscanned
    · obtain ⟨number, hnumber⟩ := parse?_of_mem_slideIds ho hslide
      exact ⟨"slides", _, by decide, Build.placed_slide hnumber⟩
    · obtain ⟨file, hmem, rfl⟩ := List.mem_map.mp hscanned
      exact hfile _ (List.mem_cons_of_mem _ hmem)
        (d.endsInComponent_of_isFile (isFile_of_mem_scannedFiles hmem))

theorem apart_slideIds (ho : p.Orderly d) :
    (p.slideIds d).Pairwise (Build.Apart p.layout.deckRoot) := by
  unfold slideIds
  split
  · rename_i deck hload
    have hfits := ho.slides deck hload
    have hascend : (List.range' 1 deck.visible.length).Pairwise (· < ·) := List.pairwise_lt_range'
    rw [List.pairwise_map]
    refine hascend.imp_of_mem fun {m n} hm hn hlt => ?_
    have hm' := List.mem_range'_1.mp hm
    have hn' := List.mem_range'_1.mp hn
    exact Build.apart_slides (by omega) (by omega) (by omega) (by omega) (Nat.ne_of_lt hlt)
  · exact .nil

/-- The files of a build are told apart by their places, unless they lie on different sides of the root. -/
theorem apart_accountedIds (ho : p.Orderly d) :
    (p.accountedIds d).Pairwise (Build.Apart p.layout.deckRoot) := by
  have hfiles : ((p.scannedFiles d).map Path.text).Pairwise (Build.Apart p.layout.deckRoot) := by
    rw [List.pairwise_map]
    refine ((Style.Scope.files_ascend p.scope d).sublist List.filter_sublist).imp_of_mem
      fun {f g} hf hg hlt => ?_
    refine Build.apart_ordinary (ho.files f (List.mem_cons_of_mem _ hf))
      (ho.files g (List.mem_cons_of_mem _ hg)) fun heq => ?_
    unfold Path.lt at hlt
    rw [beq_iff.mp heq, lexLt_irrefl] at hlt
    cases hlt
  have hrest : (p.slideIds d ++ (p.scannedFiles d).map Path.text).Pairwise
      (Build.Apart p.layout.deckRoot) := by
    refine List.pairwise_append.mpr ⟨apart_slideIds ho, hfiles, fun fileId hslide other hother => ?_⟩
    obtain ⟨number, hnumber⟩ := parse?_of_mem_slideIds ho hslide
    obtain ⟨file, hfile, rfl⟩ := List.mem_map.mp hother
    exact Build.apart_slide_file hnumber (ho.files file (List.mem_cons_of_mem _ hfile))
  unfold accountedIds
  rcases deckFailures_cases (p := p) (d := d) with hnone | ⟨hentry, hslides⟩
  · rwa [hnone, List.nil_append]
  · rw [hentry, List.singleton_append]
    refine .cons (fun fileId hfileId => ?_) hrest
    -- the deck is not scanned, and it has no slides
    rw [hslides, List.nil_append] at hfileId
    obtain ⟨file, hfile, rfl⟩ := List.mem_map.mp hfileId
    have hother := (List.mem_filter.mp hfile).2
    refine Build.apart_ordinary (ho.files _ List.mem_cons_self)
      (ho.files file (List.mem_cons_of_mem _ hfile)) fun heq => ?_
    rw [beq_iff] at heq
    rw [Bool.not_eq_true', ← Bool.not_eq_true, beq_iff] at hother
    exact hother heq.symm

/-- A build on any schedule accounts for its jobs, and its modules are some of those that there are. -/
theorem Scheduled.accounts {workers : Nat} {s s' : State} {b : Build}
    (h : p.Scheduled d workers s (.ok b) s') :
    (∃ slides, p.Accounts d slides b) ∧
      ∃ ids, ids.Sublist Build.moduleIds ∧ (b.modules.map Prod.fst).Perm ids := by
  generalize hr : Except.ok b = r at h
  cases h with
  | refused => cases hr
  | @built slides _ answers hslides hleads =>
    obtain ⟨-, hanswers, -⟩ := crew_done hleads
    exact ⟨⟨slides, hanswers.recorded.accounts hslides hr.symm⟩, yield_modules hr.symm⟩

theorem Scheduled.accountable {workers : Nat} {s s' : State} {b : Build}
    (h : p.Scheduled d workers s (.ok b) s') (ho : p.Orderly d) :
    b.Accountable p.layout.deckRoot ∧
      b.marked.Pairwise fun x y => Build.Apart p.layout.deckRoot x.1 y.1 := by
  obtain ⟨⟨slides, haccounts⟩, hmodules⟩ := h.accounts
  have hperm := haccounts.marked_perm
  refine ⟨⟨fun x hx => placed_accountedIds ho (hperm.subset (List.mem_map_of_mem hx)), hmodules⟩, ?_⟩
  rw [← List.pairwise_map (f := Prod.fst), hperm.pairwise_iff Build.Apart.symm]
  exact apart_accountedIds ho

end Pipeline

namespace Build

variable {root : Path} {b : Build}

theorem artifact_mem_outputs {a : Artifact} (dir root : Path) (h : a ∈ b.artifacts) :
    (dir / markedText root (a.fileId, if a.fromMarkdown then some "vue" else none), a.code) ∈
      b.outputs dir root := by
  have hpart : (markedText root (a.fileId, if a.fromMarkdown then some "vue" else none), a.code) ∈
      b.parts root :=
    List.mem_append_left _ (List.mem_append_left _ (List.mem_map.mpr ⟨a, h, rfl⟩))
  rw [outputs_eq]
  exact List.mem_map.mpr ⟨_, hpart, rfl⟩

/-- Outputs lie below the output directory. -/
theorem Accountable.below (h : b.Accountable root) {dir : Path} {x : Path × String}
    (hx : x ∈ b.outputs dir root) :
    ∃ below, below ≠ [] ∧ PathComponent.parent ∉ below ∧ x.1.components = dir.components ++ below := by
  rw [outputs_eq] at hx
  obtain ⟨y, hy, rfl⟩ := List.mem_map.mp hx
  have hpart := h.part hy
  refine ⟨names y.1.toList, fun hnil => ?_, hpart.down,
    components_join_names dir hpart.relative hpart.bare⟩
  exact Disk.spelled_names_ne_nil hpart.toTidy (by rw [hnil]; rfl)

/-- Outputs that are different files are all there when they are written. -/
theorem Accountable.written (h : b.Accountable root) {dir : Path}
    (hapart : (b.outputs dir root).Pairwise fun x y => ¬ (x.1 == y.1) = true) {before after : Disk}
    (hclear : before.Clear dir) {files : List Path}
    (hwrite : (b.write dir root).run.run before = (.ok files, after)) :
    files = (b.outputs dir root).map Prod.fst ∧
      ∀ x ∈ b.outputs dir root, after.readText x.1 = .ok x.2 := by
  rw [h.pairwise_outputs] at hapart
  unfold write at hwrite
  obtain ⟨_, ready, hready, hwrite⟩ := Disk.run_bind_eq_ok hwrite
  obtain ⟨top, hleads⟩ := Disk.leads_of_ensureDirectory hready
  rw [outputs_eq] at hwrite
  have hmap : ((b.parts root).map fun x => (dir / x.1, x.2)).mapM (fun x => do
        Disk.writeFile x.1 x.2
        return x.1 : Path × String → Disk.Work Error Path) =
      (b.parts root).mapM fun x => do
        Disk.writeFile (dir / x.1) x.2
        return dir / x.1 := List.mapM_map
  change (((b.parts root).map fun x => (dir / x.1, x.2)).mapM (fun x => do
        Disk.writeFile x.1 x.2
        return x.1 : Path × String → Disk.Work Error Path)).run.run ready = _ at hwrite
  rw [hmap] at hwrite
  obtain ⟨hfiles, -, hread⟩ := Disk.writeFiles_join (fun x hx => (h.part hx).toTidy) hapart hleads
    (hclear ready top hready hleads) hwrite
  rw [outputs_eq, List.map_map]
  refine ⟨hfiles, fun x hx => ?_⟩
  obtain ⟨y, hy, rfl⟩ := List.mem_map.mp hx
  exact hread y hy

end Build

namespace Pipeline

variable {p : Pipeline} {d : Disk}

/-- What a build of an orderly project writes lies below the output directory, and no two outputs are one file
exactly if no two of its files clash. Then each text is found under its own path when the build is written. -/
theorem outputs_apart_iff {workers : Nat} {s s' : State} {b : Build}
    (h : p.Scheduled d workers s (.ok b) s') (ho : p.Orderly d) (dir : Path) :
    let outputs := b.outputs dir p.layout.deckRoot
    let apart := b.marked.Pairwise fun x y => ¬ Build.Clash p.layout.deckRoot x y
    (∀ x ∈ outputs, ∃ below, below ≠ [] ∧ PathComponent.parent ∉ below ∧
        x.1.components = dir.components ++ below) ∧
      (outputs.Pairwise (fun x y => ¬ (x.1 == y.1) = true) ↔ apart) ∧
      (apart → ∀ before after files, before.Clear dir →
        (b.write dir p.layout.deckRoot).run.run before = (.ok files, after) →
          files = outputs.map Prod.fst ∧ ∀ x ∈ outputs, after.readText x.1 = .ok x.2) := by
  obtain ⟨haccountable, hids⟩ := h.accountable ho
  have hiff := haccountable.pairwise_iff hids dir
  exact ⟨fun x hx => haccountable.below hx, hiff, fun hapart before after files hclear hwrite =>
    haccountable.written (hiff.mpr hapart) hclear hwrite⟩

instance (root file : Path) : Decidable (Build.Ordinary root file) :=
  decidable_of_iff (file.isAbsolute ∧ PathComponent.parent ∉ names file.chars ∧ ¬ (file == root) = true ∧
      (match ModuleId.parse? file.text with
        | some (.slide _) => false
        | _ => true) = true) (by
    constructor
    · rintro ⟨habsolute, hdown, hbelow, hnumber⟩
      refine ⟨habsolute, hdown, hbelow, fun number heq => ?_⟩
      rw [heq] at hnumber
      cases hnumber
    · intro h
      refine ⟨h.absolute, h.down, h.below, ?_⟩
      split
      · rename_i number heq
        exact absurd heq (h.unnumbered number)
      · rfl)

instance : Decidable (p.Orderly d) :=
  decidable_of_iff (p.layout.deckRoot.isAbsolute ∧
      ((splitOn (· = '/') p.layout.entry.chars).getLast?.bind component?).isSome ∧
      (∀ file ∈ p.layout.entry :: p.scannedFiles d, Build.Ordinary p.layout.deckRoot file) ∧
      (Presentation.load d p.layout).toOption.all fun deck => deck.visible.length < 2 ^ 64) (by
    constructor
    · rintro ⟨hroot, hentry, hfiles, hslides⟩
      refine ⟨hroot, hentry, hfiles, fun deck hload => ?_⟩
      rw [hload] at hslides
      exact of_decide_eq_true hslides
    · intro h
      refine ⟨h.root, h.entry, h.files, ?_⟩
      cases hload : Presentation.load d p.layout with
      | ok deck => exact decide_eq_true (h.slides deck hload)
      | error e => rfl)

/-- A deck with one slide, and a file beside it. -/
def apartDisk : Disk := smallDisk [("slides.md", "# One\n"), ("a.vue", "<p/>\n")]

theorem smallDisk_linkless (files : List (String × String)) : (smallDisk files).Linkless := by
  intro l target hlink
  unfold Disk.entry? at hlink
  split at hlink
  · cases hlink
  · obtain ⟨before, after, hentries, -⟩ := List.lookup_eq_some_iff.mp hlink
    have hmem : (l, Entry.link target) ∈ (smallDisk files).entries := by
      rw [hentries]
      simp
    unfold smallDisk at hmem
    simp at hmem

/-- The slide and the file go to directories of their own. -/
theorem outputs_apart_iff_slide :
    ∃ p b s, assemble apartDisk (smallProject ["a.vue"]) = .ok p ∧
      p.Scheduled apartDisk 2 { shared := .initial false } (.ok b) s ∧ p.Orderly apartDisk ∧
      (b.marked.map Prod.fst).Perm ["/@slidev/slide/1.md", "/a.vue"] ∧
      ((b.outputs ⟨"/out"⟩ p.layout.deckRoot).Pairwise fun x y => ¬ (x.1 == y.1) = true) ∧
      ∀ after files, (b.write ⟨"/out"⟩ p.layout.deckRoot).run.run apartDisk = (.ok files, after) →
        ∀ x ∈ b.outputs ⟨"/out"⟩ p.layout.deckRoot, after.readText x.1 = .ok x.2 := by
  obtain ⟨p, hp, htest⟩ := exists_ok (assemble apartDisk (smallProject ["a.vue"])) (fun p =>
    decide (p.Orderly apartDisk) && p.layout.deckRoot.text = "/" &&
      p.accountedIds apartDisk = ["/@slidev/slide/1.md", "/a.vue"] &&
      (p.deckJobs apartDisk).toOption.any (fun _ => true) &&
      (p.buildTexts apartDisk).toOption.any fun _ => true) (by decide +kernel)
  simp only [Bool.and_eq_true, decide_eq_true_eq] at htest
  obtain ⟨⟨⟨⟨horderly, hroot⟩, hids⟩, hslides⟩, htexts⟩ := htest
  obtain ⟨slides, hslides, -⟩ := exists_ok _ _ hslides
  obtain ⟨texts, htexts, -⟩ := exists_ok _ _ htexts
  have hschedule := scheduled_fullBuild (p := p) (d := apartDisk) 2 { shared := .initial false }
  obtain ⟨b, hb⟩ := hschedule.ends hslides htexts
  rw [hb] at hschedule
  obtain ⟨⟨_, haccounts⟩, -⟩ := hschedule.accounts
  have hperm := haccounts.marked_perm
  rw [hids] at hperm
  have hplaces : (["/@slidev/slide/1.md", "/a.vue"].Pairwise fun f g =>
        (Build.placeOf ⟨"/"⟩ f).head? ≠ (Build.placeOf ⟨"/"⟩ g).head?) ∧
      ∀ f ∈ ["/@slidev/slide/1.md", "/a.vue"], (Build.placeOf ⟨"/"⟩ f).tail ≠ [] := by
    decide +kernel
  rw [← eq_of_text (p := p.layout.deckRoot) (q := ⟨"/"⟩) hroot] at hplaces
  have hapart : b.marked.Pairwise fun x y => ¬ Build.Clash p.layout.deckRoot x y := by
    have hpairs := (hperm.pairwise_iff Ne.symm).mpr hplaces.1
    have hlong : ∀ x ∈ b.marked, (Build.placeOf p.layout.deckRoot x.1).tail ≠ [] := fun x hx =>
      hplaces.2 x.1 (hperm.subset (List.mem_map_of_mem hx))
    exact (List.pairwise_map.mp hpairs).imp_of_mem fun {x y} hx hy hne hclash =>
      hne (hclash.head?_eq (hlong x hx) (hlong y hy))
  obtain ⟨-, hiff, hwritten⟩ := outputs_apart_iff hschedule horderly ⟨"/out"⟩
  exact ⟨p, b, _, hp, hschedule, horderly, hperm, hiff.mpr hapart, fun after files hwrite =>
    (hwritten hapart apartDisk after files ((smallDisk_linkless _).clear _) hwrite).2⟩

/-- A compiled file and one that has its name with the further extension. -/
def clashDisk : Disk := smallDisk [("slides.md", ""), ("a.md", ""), ("a.md.vue", "")]

/-- Importing components leaves a file what it is, and does not empty it. -/
theorem imported_eq (a : Artifact) :
    (p.importer.imported d a).fileId = a.fileId ∧ (p.importer.imported d a).fromMarkdown = a.fromMarkdown ∧
      (a.code ≠ "" → (p.importer.imported d a).code ≠ "") := by
  unfold Component.Importer.imported Component.Importer.withImports
  split
  · refine ⟨rfl, rfl, fun hcode => ?_⟩
    dsimp only
    split
    · exact hcode
    · unfold Component.insertImports
      split <;> simp
  · exact ⟨rfl, rfl, id⟩

theorem rewriteAssets_code {a : Artifact} (h : p.rewriter.patterns = []) :
    (p.rewriteAssets d a).code = a.code := by
  show (p.rewriter.rewrite (p.cache d) a.code).1 = a.code
  rw [Asset.Rewriter.rewrite_eq_foldl]
  split
  · rfl
  · rw [h]
    exact String.ofList_toList

/-- The artifacts of a build come from its jobs, each for itself. -/
theorem fullBuild_artifacts {slides : List Job} {s s' : State} {b : Build} (hslides : p.deckJobs d = .ok slides)
    (halike : p.ListedAlike d (slides ++ p.fileJobs d)) (hb : (p.fullBuild d).run.run s = (.ok b, s')) :
    b.artifacts = (slides ++ p.fileJobs d).filterMap fun job => (p.outcome d job).toOption := by
  obtain ⟨-, hanswers, -⟩ := runJobs_done (p := p) (d := d) (slides ++ p.fileJobs d) s
  rw [fullBuild_run, hslides] at hb
  have hartifacts := yield_artifacts (congrArg Prod.fst hb)
  rw [hanswers.eq_outcomes halike, List.filterMap_map] at hartifacts
  exact hartifacts

/-- Of two texts that are written to one path, one is lost. -/
theorem text_lost {outputs : List (Path × String)} {x y : Path × String} (hx : x ∈ outputs) (hy : y ∈ outputs)
    (hpath : x.1 = y.1) (htext : x.2 ≠ y.2) :
    ¬ outputs.Pairwise (fun x y => ¬ (x.1 == y.1) = true) ∧
      ∀ after : Disk, ∃ x ∈ outputs, after.readText x.1 ≠ .ok x.2 := by
  refine ⟨fun hpairs => ?_, fun after => ?_⟩
  · have hsymm : Std.Symm fun x y : Path × String => ¬ (x.1 == y.1) = true :=
      ⟨fun x y hxy hyx => hxy (beq_iff.mpr (beq_iff.mp hyx).symm)⟩
    have hne : x ≠ y := fun heq => htext (congrArg Prod.snd heq)
    exact hpairs.forall hx hy hne (beq_iff.mpr (congrArg _ hpath))
  · by_contra hall
    have hread : ∀ x ∈ outputs, after.readText x.1 = .ok x.2 := by simpa using hall
    have hsame := hread x hx
    rw [hpath, hread y hy] at hsame
    exact htext (Except.ok.inj hsame).symm

/-- What was compiled from markdown has a text. -/
theorem jobCompiled_ne_empty {job : Job} {a : Artifact} (h : p.jobCompiled job = .ok a)
    (hmarkdown : a.fromMarkdown) : a.code ≠ "" := by
  unfold jobCompiled at h
  split at h
  · rename_i source _
    by_cases hkind : (Artifact.ofSource job.fileId source).kind = .markdown
    · rw [p.compiled_of_markdown hkind] at h
      cases hcode : Component.compile p.options.markdown source with
      | error fault =>
        rw [hcode] at h
        cases h
      | ok code =>
        rw [hcode] at h
        cases h
        intro hempty
        have hnone := Component.Brace.unescape_eq_nil.mp (String.ofList_eq_empty_iff.mp hempty)
        exact Component.compile_ne_empty hcode (String.toList_eq_nil_iff.mp hnone)
    · rw [p.compiled_of_ne_markdown hkind] at h
      cases h
      cases hmarkdown
  · cases h

/-- Both are written to one path, so one of the texts is lost. -/
theorem text_overwritten :
    ∃ p b s, assemble clashDisk (smallProject ["a.md", "a.md.vue"]) = .ok p ∧
      (p.fullBuild clashDisk).run.run { shared := .initial false } = (.ok b, s) ∧
      ∀ dir : Path, ¬ (b.outputs dir p.layout.deckRoot).Pairwise (fun x y => ¬ (x.1 == y.1) = true) ∧
        ∀ after : Disk, ∃ x ∈ b.outputs dir p.layout.deckRoot, after.readText x.1 ≠ .ok x.2 := by
  obtain ⟨p, hp, htest⟩ := exists_ok (assemble clashDisk (smallProject ["a.md", "a.md.vue"])) (fun p =>
    (p.deckJobs clashDisk).toOption.any (·.isEmpty) &&
      (p.buildTexts clashDisk).toOption.any (fun _ => true) &&
      p.layout.deckRoot.text = "/" && p.rewriter.patterns.isEmpty &&
      (p.fileJobs clashDisk).length = 2) (by decide +kernel)
  have hwritten := test_of_ok hp (fun p =>
    let dirs := p.searched (p.fileJobs clashDisk)
    dirs.all fun a => dirs.all fun b => !(a == b) || a.text = b.text) (by decide +kernel)
  have hfirst := test_of_ok hp (fun p =>
    (p.fileJobs clashDisk)[0]?.any fun job => (p.jobCompiled job).toOption.any fun a =>
      a.fileId = "/a.md" && a.fromMarkdown) (by decide +kernel)
  have hsecond := test_of_ok hp (fun p =>
    (p.fileJobs clashDisk)[1]?.any fun job => (p.outcome clashDisk job).toOption.any fun a =>
      a.fileId = "/a.md.vue" && !a.fromMarkdown && a.code.isEmpty) (by decide +kernel)
  simp only [Bool.and_eq_true, decide_eq_true_eq, List.all_eq_true, Bool.or_eq_true,
    Bool.not_eq_true'] at htest hwritten
  obtain ⟨⟨⟨⟨hslides, htexts⟩, hroot⟩, hpatterns⟩, htwo⟩ := htest
  obtain ⟨slides, hslides, hnone⟩ := exists_ok _ _ hslides
  obtain rfl := List.isEmpty_iff.mp hnone
  obtain ⟨texts, htexts, -⟩ := exists_ok _ _ htexts
  obtain ⟨first, second, hjobs⟩ := List.length_eq_two.mp htwo
  rw [hjobs] at hfirst hsecond
  obtain ⟨a, ha, hfirst⟩ := exists_ok _ _ hfirst
  obtain ⟨c, hc, hsecond⟩ := exists_ok _ _ hsecond
  simp only [Bool.and_eq_true, decide_eq_true_eq, Bool.not_eq_true'] at hfirst hsecond
  have hwrites := jobCompiled_ne_empty ha hfirst.2
  have hends := scheduled_fullBuild (p := p) (d := clashDisk) 1 { shared := .initial false }
  obtain ⟨b, hb⟩ := hends.ends hslides htexts
  have halike : p.ListedAlike clashDisk (p.fileJobs clashDisk) :=
    listedAlike_of_written fun x hx y hy hxy =>
      (hwritten x hx y hy).resolve_left fun hne => Bool.noConfusion (hne.symm.trans hxy)
  have hartifacts : b.artifacts =
      [p.rewriteAssets clashDisk (p.importer.imported clashDisk a), c] := by
    have hfirst : p.outcome clashDisk first =
        .ok (p.rewriteAssets clashDisk (p.importer.imported clashDisk a)) := by
      unfold outcome
      rw [ha]
      rfl
    have hjobsof := fullBuild_artifacts (p := p) (d := clashDisk) hslides halike (Prod.ext hb rfl)
    rw [hjobs, List.nil_append, List.filterMap_cons, List.filterMap_cons, hfirst, hc] at hjobsof
    exact hjobsof
  refine ⟨p, b, _, hp, Prod.ext hb rfl, fun dir => ?_⟩
  have hpath : Build.markedText ⟨"/"⟩ ("/a.md", some "vue") = Build.markedText ⟨"/"⟩ ("/a.md.vue", none) := by
    decide +kernel
  rw [← eq_of_text (p := p.layout.deckRoot) (q := ⟨"/"⟩) hroot] at hpath
  obtain ⟨hid, hmarkdown, hcode⟩ := p.imported_eq (d := clashDisk) a
  have hcompiled := Build.artifact_mem_outputs dir p.layout.deckRoot (hartifacts ▸ List.mem_cons_self)
  have hplain := Build.artifact_mem_outputs dir p.layout.deckRoot
    (hartifacts ▸ List.mem_cons_of_mem _ List.mem_cons_self : c ∈ b.artifacts)
  change (dir / Build.markedText _ ((p.importer.imported clashDisk a).fileId,
    if (p.importer.imported clashDisk a).fromMarkdown then some "vue" else none),
    (p.rewriteAssets clashDisk (p.importer.imported clashDisk a)).code) ∈ _ at hcompiled
  rw [hid, hmarkdown, hfirst.1, hfirst.2, rewriteAssets_code (List.isEmpty_iff.mp hpatterns),
    if_pos rfl, hpath] at hcompiled
  rw [hsecond.1.1, hsecond.1.2, if_neg Bool.false_ne_true, String.isEmpty_iff.mp hsecond.2] at hplain
  exact text_lost hcompiled hplain rfl (hcode hwrites)

end Pipeline

end DeckPress
