import DeckPress.Proofs.Component.Importer
import DeckPress.Proofs.Workers

/-!
# Looking up listings among others

A directory is looked up in two steps: whether it is listed, and if not, its listing is made and put on
record. Between the two, others may list the same directory or one that is equal to it as a path. Paths
that are equal are one directory to the record, but their files are listed with the path as it was
written. So what a file is given depends on who was first, unless directories that are equal are listed
alike: then every listing on record is the one that would be made, and each file is given what it would
be given alone.
-/

namespace DeckPress.Component.Importer

variable (i : Importer) (d : Disk)

/-! ## The steps of an import -/

/-- Looks up a directory. -/
def listingSteps (dir : Path) : Steps Listings Listing :=
  .step id fun ls =>
    match ls.find? (·.1 == dir) with
    | some (_, l) => .done l
    | none => .step ((dir, i.list d dir) :: ·) fun _ => .done (i.list d dir)

def findSteps (name : String) : List Path → Steps Listings (Option Path)
  | [] => .done none
  | dir :: dirs => (i.listingSteps d dir).bind fun l =>
    match l.lookup name with
    | some file => .done (some file)
    | none => findSteps name dirs

/-- What a tag stands for, once a file was found for it or not. -/
def resolutionOf (tag : String) : Option Path → Option Resolution
  | some file => some ⟨pascalCase tag, file.slashed⟩
  | none => i.resolvers.findSome? (· tag)

/-- Adds what was found for a tag to what was found for the others. -/
def addResolution (tag : String) (found : Option Resolution)
    (others : List (String × Resolution) × List String) : List (String × Resolution) × List String :=
  match found with
  | some r => (insertSorted (pascalCase tag) r others.1, others.2)
  | none => (others.1, tag :: others.2)

def resolveSteps (consumer : Option Path) :
    List String → Steps Listings (List (String × Resolution) × List String)
  | [] => .done ([], [])
  | tag :: tags => (i.findSteps d (pascalCase tag) (i.searchDirs consumer)).bind fun file =>
    (resolveSteps consumer tags).bind fun others =>
      .done (addResolution tag (i.resolutionOf tag file) others)

/-- Imports the components of a file. -/
def applySteps (a : Artifact) : Steps Listings Artifact :=
  if i.appliesTo a then
    (i.resolveSteps d a.directory? (wantedTags a)).bind fun found => .done (withImports a found)
  else .done a

theorem listingSteps_run (dir : Path) (ls : Listings) :
    (i.listingSteps d dir).run ls = (i.listing d dir).run ls := by
  rw [listingSteps, Steps.run]
  cases h : ls.find? (·.1 == dir) with
  | some entry => rw [i.listing_known d h]; rfl
  | none => rw [i.listing_new d h]; rfl

theorem findSteps_run (name : String) (dirs : List Path) (ls : Listings) :
    (i.findSteps d name dirs).run ls = (i.findFile? d name dirs).run ls := by
  induction dirs generalizing ls with
  | nil => rfl
  | cons dir dirs ih =>
    rw [findSteps, findFile?, Steps.run_bind, StateT.run_bind, listingSteps_run]
    rcases (i.listing d dir).run ls with ⟨l, later⟩
    show (match l.lookup name with
      | some file => Steps.done (some file)
      | none => i.findSteps d name dirs).run later =
      (match l.lookup name with
        | some file => pure (some file)
        | none => i.findFile? d name dirs : StateM Listings (Option Path)).run later
    cases l.lookup name with
    | some file => rfl
    | none => exact ih later

theorem resolve?_run (consumer : Option Path) (tag : String) (ls : Listings) :
    (i.resolve? d consumer tag).run ls =
      (i.resolutionOf tag ((i.findFile? d (pascalCase tag) (i.searchDirs consumer)).run ls).1,
        ((i.findFile? d (pascalCase tag) (i.searchDirs consumer)).run ls).2) := by
  rw [resolve?, StateT.run_bind]
  rcases (i.findFile? d (pascalCase tag) (i.searchDirs consumer)).run ls with ⟨file, later⟩
  cases file <;> rfl

theorem resolveSteps_run (consumer : Option Path) (tags : List String) (ls : Listings) :
    (i.resolveSteps d consumer tags).run ls = (i.resolveAll d consumer tags).run ls := by
  induction tags generalizing ls with
  | nil => rfl
  | cons tag tags ih =>
    rw [resolveSteps, resolveAll, Steps.run_bind, findSteps_run, StateT.run_bind, resolve?_run,
      Steps.run_bind, ih]
    rcases (i.findFile? d (pascalCase tag) (i.searchDirs consumer)).run ls with ⟨file, later⟩
    show _ = (i.resolveAll d consumer tags >>= _).run later
    rw [StateT.run_bind]
    rcases (i.resolveAll d consumer tags).run later with ⟨others, last⟩
    dsimp only
    cases i.resolutionOf tag file <;> rfl

/-- The steps of an import, with nobody else at the listings, are the import. -/
theorem applySteps_run (a : Artifact) (ls : Listings) :
    (i.applySteps d a).run ls = (i.apply d a).run ls := by
  rw [apply_run, applySteps]
  split
  · rw [Steps.run_bind, resolveSteps_run]
    rfl
  · rfl

/-! ## What is found where nothing is remembered -/

/-- The file of a component in the first of the directories that has one. -/
def fileIn? (name : String) (dirs : List Path) : Option Path :=
  dirs.findSome? fun dir => (i.list d dir).lookup name

def resolutions (consumer : Option Path) : List String → List (String × Resolution) × List String
  | [] => ([], [])
  | tag :: tags => addResolution tag
    (i.resolutionOf tag (i.fileIn? d (pascalCase tag) (i.searchDirs consumer)))
    (resolutions consumer tags)

/-- A file with the components imported that it uses and does not declare. -/
def imported (a : Artifact) : Artifact :=
  if i.appliesTo a then withImports a (i.resolutions d a.directory? (wantedTags a)) else a

/-! ## Directories that are listed alike -/

/-- Of these directories, those that are equal as paths are listed alike. -/
def ListedAlike (dirs : Path → Prop) : Prop :=
  ∀ a b, dirs a → dirs b → a == b → i.list d a = i.list d b

/-- What is on record for these directories is what their listing would be. -/
def Truthful (dirs : Path → Prop) (ls : Listings) : Prop :=
  ∀ dir entry, dirs dir → ls.find? (·.1 == dir) = some entry → entry.2 = i.list d dir

variable {i d} {dirs : Path → Prop}

theorem truthful_nil : i.Truthful d dirs [] := by
  intro dir entry _ h
  cases h

theorem ListedAlike.truthful_cons (h : i.ListedAlike d dirs) {ls : Listings}
    (hls : i.Truthful d dirs ls) {dir : Path} (hdir : dirs dir) :
    i.Truthful d dirs ((dir, i.list d dir) :: ls) := by
  intro other entry hother hfind
  rw [List.find?_cons] at hfind
  split at hfind
  · rename_i heq
    cases hfind
    exact h dir other hdir hother heq
  · exact hls other entry hother hfind

variable (i d dirs)

/-- The terms of imports that look in these directories; nothing is put on record beyond listings. -/
def terms (ε : Type) : Terms Listings ε where
  holds ls := i.ListedAlike d dirs → i.Truthful d dirs ls
  noted _ _ := False

/-- To come to something that is settled if directories are listed alike. -/
def settled {α ε : Type} (a : α) : Contract α ε where
  result b := i.ListedAlike d dirs → b = a
  debt _ := False

variable {i d dirs} {α ε : Type}

theorem settled_done (a : α) : Meets (i.terms d dirs ε) (i.settled d dirs a) (.done a) :=
  .done (fun _ => rfl) fun _ h => h

/-- The first result may be used to tell what the second is settled to be. -/
theorem settled_bind {β : Type} {f : Steps Listings α} {g : α → Steps Listings β} {a : α} {b : β}
    (hf : Meets (i.terms d dirs ε) (i.settled d dirs a) f)
    (hg : ∀ x, (i.ListedAlike d dirs → x = a) →
      Meets (i.terms d dirs ε) (i.settled d dirs b) (g x)) :
    Meets (i.terms d dirs ε) (i.settled d dirs b) (f.bind g) := by
  exact hf.bind_owing (fun _ h => h) hg

theorem settled_eq {f : Steps Listings α} {a b : α} (hab : i.ListedAlike d dirs → a = b)
    (h : Meets (i.terms d dirs ε) (i.settled d dirs a) f) :
    Meets (i.terms d dirs ε) (i.settled d dirs b) f :=
  h.mono (fun _ hx halike => (hx halike).trans (hab halike)) fun _ => Iff.rfl

theorem listingSteps_meets {dir : Path} (hdir : dirs dir) :
    Meets (i.terms d dirs ε) (i.settled d dirs (i.list d dir)) (i.listingSteps d dir) := by
  refine .step (fun _ _ => False) (fun _ hls => hls) (fun _ _ _ => Iff.rfl) fun ls hls => ?_
  cases hfind : ls.find? (·.1 == dir) with
  | some entry => exact .done (fun halike => hls halike dir entry hdir hfind) fun _ h => h
  | none =>
    -- others may have listed the directory since, so the new listing is added to a later record
    refine .step (fun _ _ => False) (fun later hlater halike => ?_) (fun _ _ _ => Iff.rfl)
      fun _ _ => settled_done _
    exact halike.truthful_cons (hlater halike) hdir

theorem findSteps_meets (name : String) {looked : List Path} (hdirs : ∀ dir ∈ looked, dirs dir) :
    Meets (i.terms d dirs ε) (i.settled d dirs (i.fileIn? d name looked)) (i.findSteps d name looked) := by
  induction looked with
  | nil => exact settled_done _
  | cons dir looked ih =>
    have hrest := ih fun x hx => hdirs x (List.mem_cons_of_mem dir hx)
    refine settled_bind (listingSteps_meets (hdirs dir List.mem_cons_self)) fun l hl => ?_
    have hhead : i.ListedAlike d dirs → i.fileIn? d name (dir :: looked) =
        match l.lookup name with
        | some file => some file
        | none => i.fileIn? d name looked := fun halike => by
      rw [hl halike, fileIn?, List.findSome?_cons]
      cases (i.list d dir).lookup name <;> rfl
    cases hfound : l.lookup name with
    | some file =>
      refine settled_eq (fun halike => ?_) (settled_done (some file))
      rw [hhead halike, hfound]
    | none =>
      refine settled_eq (fun halike => ?_) hrest
      rw [hhead halike, hfound]

theorem resolveSteps_meets {consumer : Option Path} (hdirs : ∀ dir ∈ i.searchDirs consumer, dirs dir)
    (tags : List String) :
    Meets (i.terms d dirs ε) (i.settled d dirs (i.resolutions d consumer tags))
      (i.resolveSteps d consumer tags) := by
  induction tags with
  | nil => exact settled_done _
  | cons tag tags ih =>
    refine settled_bind (findSteps_meets (pascalCase tag) hdirs) fun file hfile => ?_
    refine settled_bind ih fun others hothers => ?_
    refine settled_eq (fun halike => ?_) (settled_done _)
    rw [hfile halike, hothers halike, resolutions]

/-- Where directories are listed alike, a file is given the same imports whoever else is at work; and in
any case it stays the same file. -/
theorem applySteps_meets {a : Artifact} (hdirs : ∀ dir ∈ i.searchDirs a.directory?, dirs dir) :
    Meets (i.terms d dirs ε) ⟨fun b => b.fileId = a.fileId ∧ (i.ListedAlike d dirs → b = i.imported d a),
      fun _ => False⟩ (i.applySteps d a) := by
  unfold applySteps imported
  split
  · refine (resolveSteps_meets hdirs (wantedTags a)).bind_owing (fun _ h => h) fun found hsettled => ?_
    exact .done ⟨rfl, fun halike => by rw [hsettled halike]⟩ fun _ h => h
  · exact .done ⟨rfl, fun _ => rfl⟩ fun _ h => h

/-- Where directories are listed alike, listings that are truthful are as good as none. -/
theorem apply_truthful {a : Artifact} {ls : Listings} (halike : i.ListedAlike d dirs)
    (hls : i.Truthful d dirs ls) (hdirs : ∀ dir ∈ i.searchDirs a.directory?, dirs dir) :
    ((i.apply d a).run ls).1 = i.imported d a := by
  rw [← applySteps_run]
  exact (((applySteps_meets hdirs).run (t := i.terms d dirs Unit) fun _ => hls).1).2 halike

end DeckPress.Component.Importer
