import Mathlib.Data.List.Basic
import DeckPress.Disk.Check
import DeckPress.Proofs.Disk.Walk

/-!
# Writing files

Writing only ever adds to a disk: directories where nothing stood, and files where nothing or a file stood. So
a path that leads somewhere goes on leading there, and what is written under one path is found under it until
another path that leads to the same place is written. Below a directory without links, paths lead to the same
place only if they have the same names.
-/

namespace DeckPress.Disk

open Text DeckPress.Path

variable {d d' : Disk} {l m : Location}

/-! ## Growing -/

/-- A disk has all that another has, except that files at some places may have other bytes. -/
structure Grows (changed : Location → Prop) (d d' : Disk) : Prop where
  workingDirectory : d'.workingDirectory = d.workingDirectory
  kept : ∀ l e, d.entry? l = some e → Disk.entry? d' l = some e ∨
    changed l ∧ (∃ bytes, e = .file bytes) ∧ ∃ bytes, Disk.entry? d' l = some (.file bytes)
  links : ∀ l target, Disk.entry? d' l = some (.link target) → d.entry? l = some (.link target)

namespace Grows

variable {changed changed' : Location → Prop}

theorem refl (d : Disk) : Grows changed d d := ⟨rfl, fun _ _ h => .inl h, fun _ _ h => h⟩

theorem mono (h : Grows changed d d') (hmore : ∀ l, changed l → changed' l) : Grows changed' d d' :=
  ⟨h.workingDirectory, fun l e he => (h.kept l e he).imp_right fun hc => ⟨hmore l hc.1, hc.2⟩, h.links⟩

theorem trans {d'' : Disk} (h : Grows changed d d') (h' : Grows changed d' d'') : Grows changed d d'' := by
  refine ⟨h'.workingDirectory.trans h.workingDirectory, fun l e he => ?_,
    fun l target hlink => h.links l target (h'.links l target hlink)⟩
  rcases h.kept l e he with hsame | ⟨hchanged, hfile, bytes, hnew⟩
  · exact h'.kept l e hsame
  · rcases h'.kept l _ hnew with hkept | ⟨-, -, hlast⟩
    · exact .inr ⟨hchanged, hfile, bytes, hkept⟩
    · exact .inr ⟨hchanged, hfile, hlast⟩

theorem directory (h : Grows changed d d') (hl : d.entry? l = some .directory) :
    Disk.entry? d' l = some .directory := by
  rcases h.kept l _ hl with hsame | ⟨-, ⟨bytes, hfile⟩, -⟩
  · exact hsame
  · cases hfile

theorem unchanged (h : Grows changed d d') {e : Entry} (hl : d.entry? l = some e) (hnot : ¬ changed l) :
    Disk.entry? d' l = some e :=
  (h.kept l e hl).resolve_right fun hc => hnot hc.1

theorem linklessBelow (h : Grows changed d d') {top : Location} (htop : d.LinklessBelow top) :
    d'.LinklessBelow top := fun l target hl hlink => htop l target hl (h.links l target hlink)

/-- A piece that is not refused goes on doing what it does. -/
theorem move_eq (h : Grows changed d d') {piece : String} (hmove : ∀ e, d.move l piece ≠ .refused e) :
    d'.move l piece = d.move l piece := by
  unfold move at hmove ⊢
  cases hl : d.entry? l with
  | none =>
    rw [hl] at hmove
    exact absurd rfl (hmove _)
  | some e =>
    rw [hl] at hmove
    cases e with
    | file bytes => exact absurd rfl (hmove _)
    | link target => exact absurd rfl (hmove _)
    | directory =>
      rw [h.directory hl]
      dsimp only at hmove ⊢
      split
      · rfl
      split
      · rfl
      split
      · rfl
      rename_i hdot hup hlong
      rw [if_neg hdot, if_neg hup, if_neg hlong] at hmove
      cases hnext : d.entry? (l ++ [piece]) with
      | none =>
        rw [hnext] at hmove
        exact absurd rfl (hmove _)
      | some e =>
        rcases h.kept _ _ hnext with hsame | ⟨-, ⟨bytes, rfl⟩, bytes', hnew⟩
        · rw [hsame]
        · rw [hnew]

theorem walkNames_eq_ok (h : Grows changed d d')
    {follow follow' : Location → List String → Except IoError Location}
    (hfollow : ∀ start pieces m, follow start pieces = .ok m → follow' start pieces = .ok m)
    {pieces : List String} (hm : d.walkNames follow l pieces = .ok m) :
    d'.walkNames follow' l pieces = .ok m := by
  induction pieces generalizing l with
  | nil => exact hm
  | cons piece pieces ih =>
    rw [walkNames_cons] at hm ⊢
    have hmove : ∀ e, d.move l piece ≠ .refused e := by
      intro e he
      rw [he] at hm
      cases hm
    rw [h.move_eq hmove]
    cases hnext : d.move l piece with
    | lead next =>
      rw [hnext] at hm
      exact ih hm
    | link start target =>
      rw [hnext] at hm
      exact hfollow _ _ _ hm
    | refused e => exact absurd hnext (hmove e)

/-- A walk that leads somewhere goes on leading there. -/
theorem walk_eq_ok (h : Grows changed d d') {n : Nat} {pieces : List String}
    (hm : d.walk n l pieces = .ok m) : d'.walk n l pieces = .ok m := by
  induction n generalizing l m pieces with
  | zero => exact h.walkNames_eq_ok (fun _ _ _ hnever => by cases hnever) hm
  | succ n ih => exact h.walkNames_eq_ok (fun _ _ _ => ih) hm

theorem walkStart_eq (h : Grows changed d d') (p : Path) : d'.walkStart p = d.walkStart p := by
  unfold walkStart
  rw [h.workingDirectory]

theorem locate_eq_ok (h : Grows changed d d') {p : Path} (hl : d.locate p = .ok l) :
    d'.locate p = .ok l := by
  obtain ⟨hcheck, hsome, hwalk, hentry⟩ := d.locate_eq_ok.mp hl
  obtain ⟨e, he⟩ := Option.isSome_iff_exists.mp hentry
  refine d'.locate_eq_ok.mpr ⟨hcheck, hsome, h.walkStart_eq p ▸ h.walk_eq_ok hwalk, ?_⟩
  rcases h.kept l e he with hsame | ⟨-, -, bytes, hnew⟩
  · rw [hsame]
    rfl
  · rw [hnew]
    rfl

end Grows

/-! ## Putting something somewhere -/

theorem lookup_filter_ne {α : Type} (entries : List (Location × α)) {k : Location} (hk : k ≠ l) :
    (entries.filter (·.1 ≠ l)).lookup k = entries.lookup k := by
  induction entries with
  | nil => rfl
  | cons x entries ih =>
    by_cases hx : x.1 = l
    · rw [List.filter_cons_of_neg (by simpa using hx), ih, List.lookup_cons,
        show (k == x.1) = false from beq_false_of_ne (hx ▸ hk)]
    · rw [List.filter_cons_of_pos (by simpa using hx), List.lookup_cons, List.lookup_cons, ih]

theorem lookup_filter_self {α : Type} (entries : List (Location × α)) :
    (entries.filter (·.1 ≠ l)).lookup l = none := by
  rw [List.lookup_eq_none_iff]
  intro x hx
  have hne := (List.mem_filter.mp hx).2
  exact bne_iff_ne.mpr (Ne.symm (of_decide_eq_true hne))

theorem put_self (d : Disk) (hl : l ≠ []) (e : Entry) : Disk.entry? (d.put l e) l = some e := by
  unfold entry? put
  rw [if_neg (by simpa using hl), List.lookup_append, lookup_filter_self, Option.none_or, List.lookup_cons,
    beq_self_eq_true]

theorem put_ne (d : Disk) {k : Location} (hk : k ≠ l) (e : Entry) :
    Disk.entry? (d.put l e) k = d.entry? k := by
  unfold entry? put
  split
  · rfl
  · rw [List.lookup_append, lookup_filter_ne _ hk, List.lookup_cons, beq_false_of_ne hk, List.lookup_nil]
    exact Option.or_none

/-- Putting a file where there is a file or nothing, or a directory where there is nothing. -/
theorem grows_put {e : Entry} (hl : l ≠ []) (hnot : ∀ target, e ≠ .link target)
    (h : d.entry? l = none ∨ (∃ bytes, d.entry? l = some (.file bytes)) ∧ ∃ bytes, e = .file bytes) :
    Grows (· = l) d (d.put l e) := by
  refine ⟨rfl, fun k old hk => ?_, fun k target hlink => ?_⟩
  · by_cases hkl : k = l
    · subst hkl
      rcases h with hnone | ⟨⟨bytes, hfile⟩, bytes', rfl⟩
      · rw [hnone] at hk
        cases hk
      · rw [hfile] at hk
        cases hk
        exact .inr ⟨rfl, ⟨bytes, rfl⟩, bytes', d.put_self hl _⟩
    · exact .inl (by rw [d.put_ne hkl, hk])
  · by_cases hkl : k = l
    · subst hkl
      rw [d.put_self hl] at hlink
      exact absurd (Option.some.inj hlink) (hnot target)
    · rwa [d.put_ne hkl] at hlink

/-! ## Places for something new -/

/-- The pieces of a path that are names or dots. -/
def pieces (p : Path) : List String := nonempty (splitOn (· = '/') p.chars)

/-- A name leads to what stands there, if that is no link. -/
theorem move_name {top : Location} {name : String} {e : Entry} (hdot : name ≠ ".") (hup : name ≠ "..")
    (hlong : ¬ 255 < name.utf8ByteSize) (htop : d.entry? top = some .directory)
    (hlink : ∀ target, e ≠ .link target) (he : d.entry? (top ++ [name]) = some e) :
    d.move top name = .lead (top ++ [name]) := by
  unfold move
  rw [htop, he]
  dsimp only
  rw [if_neg hdot, if_neg hup, if_neg hlong]
  cases e with
  | directory => rfl
  | file bytes => rfl
  | link target => exact absurd rfl (hlink target)

/-- Something new stands in a directory that is there, under a name that is none of the dots. -/
theorem placeFor_eq_ok {p : Path} (h : d.placeFor p = .ok l) :
    checkPath p = .ok () ∧ ∃ (before : List String) (name : String) (top : Location),
      pieces p = before ++ [name] ∧ d.walk 40 (d.walkStart p) before = .ok top ∧
      d.entry? top = some .directory ∧ name ≠ "." ∧ l = top ++ [name] ∧
      ∀ d' : Disk, Disk.entry? d' top = some .directory → ∀ e, (∀ target, e ≠ .link target) →
        Disk.entry? d' l = some e → d'.move top name = .lead l := by
  unfold placeFor at h
  cases hcheck : checkPath p with
  | error e =>
    rw [hcheck] at h
    cases h
  | ok u =>
    rw [hcheck] at h
    dsimp only [bind, Except.bind] at h
    split at h
    · cases h
    · rename_i name hlast
      change (pieces p).getLast? = some name at hlast
      obtain ⟨before, hpieces⟩ := List.getLast?_eq_some_iff.mp hlast
      split at h
      · cases h
      · rename_i top hwalk
        change d.walk 40 (d.walkStart p) (pieces p).dropLast = .ok top at hwalk
        rw [hpieces, List.dropLast_concat] at hwalk
        split at h
        · rename_i hdirectory
          split at h
          · cases h
          · rename_i hdots
            split at h
            · cases h
            · rename_i hlong
              cases h
              rw [Bool.or_eq_true, not_or, decide_eq_true_eq, decide_eq_true_eq] at hdots
              exact ⟨rfl, before, name, top, hpieces, hwalk, hdirectory, hdots.1, rfl,
                fun d' htop e hlink he => move_name hdots.1 hdots.2 hlong htop hlink he⟩
        · cases h
        · cases h

theorem grows_makeDirectory {p : Path} (h : d.makeDirectory p = .ok d') : Grows (fun _ => False) d d' := by
  unfold makeDirectory at h
  cases hplace : d.placeFor p with
  | error e =>
    rw [hplace] at h
    cases h
  | ok l =>
    rw [hplace] at h
    change (if (d.entry? l).isSome then _ else _) = _ at h
    split at h
    · cases h
    · rename_i hnone
      cases h
      obtain ⟨-, before, name, top, -, -, -, -, rfl, -⟩ := placeFor_eq_ok hplace
      have hfree : d.entry? (top ++ [name]) = none := by simpa using hnone
      have hput := grows_put (d := d) (e := .directory) (l := top ++ [name])
        (List.append_ne_nil_of_right_ne_nil top (List.cons_ne_nil _ _)) nofun (.inl hfree)
      refine ⟨hput.workingDirectory, fun l e he => .inl ?_, hput.links⟩
      refine hput.unchanged he fun heq => ?_
      rw [heq, hfree] at he
      cases he

/-! ## Making directories -/

/-- Work that only ever adds to the disk, also where it fails. -/
def Adds {ε α : Type} (w : Work ε α) : Prop := ∀ d, Grows (fun _ => False) d (w.run.run d).2

variable {ε α β : Type}

theorem Adds.pure (a : α) : Adds (pure a : Work ε α) := fun d => .refl d

theorem Adds.throw (e : ε) : Adds (throw e : Work ε α) := fun d => .refl d

theorem Adds.bind {w : Work ε α} {f : α → Work ε β} (hw : Adds w) (hf : ∀ a, Adds (f a)) :
    Adds (w >>= f) := by
  intro d
  have hfirst := hw d
  rw [ExceptT.run_bind, StateT.run_bind]
  cases hrun : w.run.run d with
  | mk r d₁ =>
    rw [hrun] at hfirst
    cases r with
    | error e => exact hfirst
    | ok a => exact hfirst.trans (hf a d₁)

/-- Work in two parts is done if both are. -/
theorem run_bind_eq_ok {w : Work ε α} {f : α → Work ε β} {b : β} (h : (w >>= f).run.run d = (.ok b, d')) :
    ∃ a d₁, w.run.run d = (.ok a, d₁) ∧ (f a).run.run d₁ = (.ok b, d') := by
  rw [ExceptT.run_bind, StateT.run_bind] at h
  cases hrun : w.run.run d with
  | mk r d₁ =>
    rw [hrun] at h
    cases r with
    | error e => cases h
    | ok a => exact ⟨a, d₁, rfl, h⟩

theorem Adds.get_bind {f : Disk → Work ε β} (hf : ∀ d, Adds (f d)) : Adds (get >>= f) :=
  Adds.bind (fun d => .refl d) hf

theorem change_run (f : Disk → Except ε Disk) (d : Disk) :
    (change f).run.run d = match f d with
      | .ok d' => (.ok (), d')
      | .error e => (.error e, d) := by
  have hget : (change f).run.run d = (match f d with
      | .ok d' => set d'
      | .error e => throw e : Work ε Unit).run.run d := rfl
  rw [hget]
  cases f d <;> rfl

theorem adds_change {f : Disk → Except ε Disk} (hf : ∀ d d', f d = .ok d' → Grows (fun _ => False) d d') :
    Adds (change f) := by
  intro d
  rw [change_run]
  cases hd : f d with
  | error e => exact .refl d
  | ok d' => exact hf d d' hd

/-- What is done to make a directory that may be there already. -/
def makeMissing (p : Path) (d : Disk) : Except IoError Disk :=
  match d.makeDirectory p with
  | .error e => if d.isDirectory p then .ok d else .error e
  | made => made

theorem makeMissing_eq_ok {p : Path} (h : makeMissing p d = .ok d') :
    d.makeDirectory p = .ok d' ∨ d.isDirectory p ∧ d' = d := by
  unfold makeMissing at h
  split at h
  · split at h
    · rename_i hdirectory
      cases h
      exact .inr ⟨hdirectory, rfl⟩
    · cases h
  · exact .inl h

theorem adds_makeMissing (p : Path) : Adds (change (makeMissing p)) := by
  refine adds_change fun d d' h => ?_
  rcases makeMissing_eq_ok h with hmade | ⟨-, rfl⟩
  · exact grows_makeDirectory hmade
  · exact .refl _

theorem adds_createDirectories (p : Path) : Adds (createDirectories p) := by
  unfold createDirectories
  generalize p.ancestors = paths
  induction paths with
  | nil => exact .pure ()
  | cons q above ih =>
    unfold createDirectories.go
    split
    · exact .pure ()
    · refine .get_bind fun d => ?_
      dsimp only
      split
      · exact .bind ih fun _ => adds_makeMissing q
      · exact adds_makeMissing q

theorem Adds.adapt {ε' : Type} {w : Work ε α} (hw : Adds w) (f : ε → ε') : Adds (w.adapt f) := hw

theorem adds_ensureDirectory (p : Path) : Adds (ensureDirectory p) := by
  unfold ensureDirectory
  refine .get_bind fun d => ?_
  split
  · exact (adds_createDirectories p).adapt Error.read
  · split
    · exact .throw _
    · exact .pure ()

theorem adds_ensureParent (p : Path) : Adds (ensureParent p) := by
  unfold ensureParent
  split
  · exact adds_ensureDirectory _
  · exact .pure ()

/-! ## Walking in two parts -/

section Follow

variable {follow : Location → List String → Except IoError Location} {before : List String}

theorem walkNames_append {n : Nat} (hself : ∀ l rest, d.walk n l rest = d.walkNames follow l rest)
    (hfollow : ∀ start pieces m, follow start pieces = .ok m →
      ∃ k, ∀ rest, follow start (pieces ++ rest) = d.walk k m rest)
    (hm : d.walkNames follow l before = .ok m) :
    ∃ k, ∀ rest, d.walkNames follow l (before ++ rest) = d.walk k m rest := by
  induction before generalizing l with
  | nil =>
    cases hm
    exact ⟨n, fun rest => (hself _ rest).symm⟩
  | cons piece before ih =>
    simp only [List.cons_append, walkNames_cons] at hm ⊢
    cases hmove : d.move l piece with
    | lead next =>
      rw [hmove] at hm
      exact ih hm
    | link start target =>
      rw [hmove] at hm
      obtain ⟨k, hk⟩ := hfollow _ _ _ hm
      refine ⟨k, fun rest => ?_⟩
      rw [← hk, List.append_assoc]
      rfl
    | refused e =>
      rw [hmove] at hm
      cases hm

/-- Behind the place that the first pieces lead to, a walk goes on as one from there. -/
theorem walk_append {n : Nat} (hm : d.walk n l before = .ok m) :
    ∃ k, ∀ rest, d.walk n l (before ++ rest) = d.walk k m rest := by
  induction n generalizing l m before with
  | zero => exact walkNames_append (n := 0) (fun _ _ => rfl) (fun _ _ _ hnever => by cases hnever) hm
  | succ n ih => exact walkNames_append (n := n + 1) (fun _ _ => rfl) (fun _ _ _ => ih) hm

theorem walkNames_beginning {rest : List String}
    (hfollow : ∀ start pieces m, follow start (pieces ++ rest) = .ok m → ∃ mid, follow start pieces = .ok mid)
    (hm : d.walkNames follow l (before ++ rest) = .ok m) : ∃ mid, d.walkNames follow l before = .ok mid := by
  induction before generalizing l with
  | nil => exact ⟨l, rfl⟩
  | cons piece before ih =>
    rw [List.cons_append, walkNames_cons] at hm
    rw [walkNames_cons]
    cases hmove : d.move l piece with
    | lead next =>
      rw [hmove] at hm
      exact ih hm
    | link start target =>
      rw [hmove] at hm
      refine hfollow start (target ++ before) m ?_
      rw [List.append_assoc]
      exact hm
    | refused e =>
      rw [hmove] at hm
      cases hm

/-- The first pieces of a path that leads somewhere lead somewhere. -/
theorem walk_beginning {n : Nat} {rest : List String} (hm : d.walk n l (before ++ rest) = .ok m) :
    ∃ mid, d.walk n l before = .ok mid := by
  induction n generalizing l m before with
  | zero => exact walkNames_beginning (fun _ _ _ hnever => by cases hnever) hm
  | succ n ih => exact walkNames_beginning (fun _ _ _ => ih) hm

end Follow

/-! ## Files below a directory -/

/-- The pieces of a path that are walked first lead to a place. -/
def Leads (d : Disk) (dir : Path) (top : Location) : Prop :=
  d.walk 40 (d.walkStart dir) (pieces dir) = .ok top

theorem Grows.leads {changed : Location → Prop} (h : Grows changed d d') {dir : Path} {top : Location}
    (hleads : d.Leads dir top) : d'.Leads dir top := by
  unfold Leads
  rw [h.walkStart_eq]
  exact h.walk_eq_ok hleads

theorem leads_of_isDirectory {dir : Path} (h : d.isDirectory dir) : ∃ top, d.Leads dir top := by
  unfold isDirectory find? at h
  cases hl : d.locate dir with
  | error e =>
    rw [hl] at h
    cases h
  | ok l =>
    obtain ⟨-, -, hwalk, -⟩ := d.locate_eq_ok.mp hl
    exact walk_beginning hwalk

theorem leads_of_makeDirectory {dir : Path} (h : d.makeDirectory dir = .ok d') : ∃ top, d'.Leads dir top := by
  have hgrows := grows_makeDirectory h
  unfold makeDirectory at h
  cases hplace : d.placeFor dir with
  | error e =>
    rw [hplace] at h
    cases h
  | ok l =>
    rw [hplace] at h
    change (if (d.entry? l).isSome then _ else _) = _ at h
    split at h
    · cases h
    · cases h
      obtain ⟨-, before, name, mid, hpieces, hwalk, hmid, -, rfl, hmove⟩ := placeFor_eq_ok hplace
      have hput := d.put_self (List.append_ne_nil_of_right_ne_nil mid (List.cons_ne_nil name [])) .directory
      have hstep := hmove _ (hgrows.directory hmid) .directory nofun hput
      obtain ⟨k, hk⟩ := walk_append (hgrows.walk_eq_ok hwalk)
      refine ⟨mid ++ [name], ?_⟩
      unfold Leads
      rw [hgrows.walkStart_eq, hpieces, hk]
      cases k <;> (rw [walk, walkNames_cons, hstep]; rfl)

/-- Dots lead nowhere else. -/
theorem walkNames_dots {follow : Location → List String → Except IoError Location}
    (hl : d.entry? l = some .directory) {dots : List String} (hdots : ∀ piece ∈ dots, piece = ".") :
    d.walkNames follow l dots = .ok l := by
  induction dots with
  | nil => rfl
  | cons piece dots ih =>
    obtain ⟨rfl, hrest⟩ := List.forall_mem_cons.mp hdots
    rw [walkNames, hl]
    exact ih hrest

/-- A path without a parent leads to the root or, if it is empty, to the working directory. -/
theorem leads_of_parent?_eq_none {dir : Path} (h : dir.parent? = none) : ∃ top, d.Leads dir top := by
  unfold Leads pieces
  rcases cases_of_parent?_eq_none h with ⟨habs, hnames⟩ | hempty
  · have hdots : ∀ piece ∈ nonempty (splitOn (· = '/') dir.chars), piece = "." := by
      intro piece hpiece
      by_contra hne
      have hmem : piece ∈ (nonempty (splitOn (· = '/') dir.chars)).filter (· ≠ ".") :=
        List.mem_filter.mpr ⟨hpiece, by simpa using hne⟩
      rw [filter_nonempty, show (splitOn (· = '/') dir.chars).filterMap component? = [] from hnames] at hmem
      cases hmem
    rw [walkStart, if_pos habs]
    exact ⟨[], walkNames_dots rfl hdots⟩
  · rw [hempty]
    exact ⟨_, rfl⟩

theorem leads_of_createDirectories {dir : Path} (h : (createDirectories dir).run.run d = (.ok (), d')) :
    ∃ top, d'.Leads dir top := by
  cases hparent : dir.parent? with
  | none => exact leads_of_parent?_eq_none hparent
  | some q =>
    have hmore : (ancestors.go dir.components.length q).isEmpty = false := by
      cases dir.components.length with
      | zero => rfl
      | succ n =>
        rw [ancestors.go]
        cases q.parent? <;> rfl
    unfold createDirectories ancestors ancestors.go at h
    rw [hparent] at h
    unfold createDirectories.go at h
    rw [hmore] at h
    dsimp only [Bool.false_eq_true, ↓reduceIte] at h
    -- the last thing that is done is to make the directory itself
    obtain ⟨d₁, hmade⟩ : ∃ d₁, (change (makeMissing dir)).run.run d₁ = (.ok (), d') := by
      obtain ⟨_, _, -, h⟩ := run_bind_eq_ok h
      split at h
      · obtain ⟨_, d₁, -, hchange⟩ := run_bind_eq_ok h
        exact ⟨d₁, hchange⟩
      · exact ⟨_, h⟩
    rw [change_run] at hmade
    split at hmade
    · rename_i d₂ hmake
      cases hmade
      rcases makeMissing_eq_ok hmake with hnew | ⟨hdirectory, rfl⟩
      · exact leads_of_makeDirectory hnew
      · exact leads_of_isDirectory hdirectory
    · cases hmade

/-- Where a directory was created, its path leads somewhere. -/
theorem leads_of_ensureDirectory {dir : Path} (h : (ensureDirectory dir).run.run d = (.ok (), d')) :
    ∃ top, d'.Leads dir top := by
  change (if !d.exists? dir then (createDirectories dir).adapt Error.read
    else if !d.isDirectory dir then throw (Error.validation (.notDirectory dir))
    else pure () : Work Error Unit).run.run d = _ at h
  split at h
  · change ((fun x : Except IoError Unit × Disk => (x.1.mapError Error.read, x.2))
      ((createDirectories dir).run.run d)) = _ at h
    cases hrun : (createDirectories dir).run.run d with
    | mk r d₂ =>
      rw [hrun] at h
      cases r with
      | error e => cases h
      | ok u =>
        cases h
        exact leads_of_createDirectories hrun
  · split at h
    · cases h
    · rename_i hdirectory
      cases h
      exact leads_of_isDirectory (by simpa using hdirectory)

/-- Below this directory, once it is created, there are no links. -/
def Clear (d : Disk) (dir : Path) : Prop :=
  ∀ d' top, (ensureDirectory dir).run.run d = (.ok (), d') → d'.Leads dir top → d'.LinklessBelow top

theorem Linkless.clear (h : d.Linkless) (dir : Path) : d.Clear dir := by
  intro d' top hrun _ l target _ hlink
  have hadds := adds_ensureDirectory dir d
  rw [hrun] at hadds
  exact h l target (hadds.links l target hlink)

/-- A text that leads down from a directory to a file. -/
structure Tidy (s : String) : Prop where
  relative : s.toList.head? ≠ some '/'
  ends : EndsInComponent s.toList
  down : PathComponent.parent ∉ names s.toList

theorem nonempty_append_slash (b s : List Char) :
    nonempty (splitOn (· = '/') (b ++ '/' :: s)) =
      nonempty (splitOn (· = '/') b) ++ nonempty (splitOn (· = '/') s) := by
  rw [splitOn_append_cons (by decide)]
  unfold nonempty
  rw [List.filter_append, List.map_append]

theorem pieces_join (dir : Path) {s : String} (hs : s.toList.head? ≠ some '/') :
    pieces (dir / s) = pieces dir ++ nonempty (splitOn (· = '/') s.toList) := by
  unfold pieces
  rcases chars_join_cases dir hs with ⟨hempty, hjoin⟩ | ⟨b, hjoin, hb, -⟩
  · rw [hjoin, chars, chars, String.isEmpty_iff.mp hempty]
    rfl
  · rw [hjoin, nonempty_append_slash]
    rcases hb with hb | hb
    · rw [hb]
    · rw [hb, nonempty_append_slash]
      exact congrArg (· ++ _) (List.append_nil _).symm

theorem walkStart_join (d : Disk) (dir : Path) {s : String} (hs : s.toList.head? ≠ some '/') :
    d.walkStart (dir / s) = d.walkStart dir := by
  unfold walkStart
  rw [isAbsolute_join_eq dir hs]

namespace Tidy

variable {dir : Path} {s : String}

theorem ends_join (hs : Tidy s) (dir : Path) : EndsInComponent (dir / s).chars := by
  rcases chars_join_cases dir hs.relative with ⟨-, hjoin⟩ | ⟨b, hjoin, -, -⟩
  · rw [hjoin]
    exact hs.ends
  · rw [hjoin, endsInComponent_append_slash]
    exact hs.ends

theorem text_join (hs : Tidy s) (dir : Path) : (dir / s).text.isEmpty = false := by
  rw [Bool.eq_false_iff]
  intro hempty
  have hends := hs.ends_join dir
  rw [chars, String.isEmpty_iff.mp hempty] at hends
  exact not_endsInComponent_nil hends

theorem walkPieces_join (hs : Tidy s) (dir : Path) :
    walkPieces (dir / s) = pieces dir ++ nonempty (splitOn (· = '/') s.toList) := by
  rw [← pieces_join dir hs.relative]
  rcases walkPieces_cases (hs.text_join dir) with ⟨hnot, -⟩ | ⟨-, hpieces⟩
  · exact absurd (hs.ends_join dir) hnot
  · exact hpieces

theorem up_not_mem (hs : Tidy s) : ".." ∉ nonempty (splitOn (· = '/') s.toList) := by
  intro hmem
  have hpieces : ".." ∈ walkPieces ⟨s⟩ := List.mem_append_left _ hmem
  exact up_not_mem_walkPieces (p := ⟨s⟩) hs.down hpieces

/-- The pieces of the text lead down from a directory to the place that its names spell. -/
theorem walk_eq (hs : Tidy s) {top : Location} (hlinks : d.LinklessBelow top) {k : Nat}
    (hm : d.walk k top (nonempty (splitOn (· = '/') s.toList)) = .ok m) :
    m = top ++ spelled (names s.toList) := by
  rw [walk_linkless hlinks (List.prefix_refl top) hs.up_not_mem hm, filter_nonempty]
  rfl

end Tidy

section Write

variable {dir : Path} {top : Location} {s : String}

/-- Where a path below the directory leads. -/
theorem locate_join (hleads : d.Leads dir top) (hlinks : d.LinklessBelow top) (hs : Tidy s)
    (hl : d.locate (dir / s) = .ok l) : l = top ++ spelled (names s.toList) := by
  obtain ⟨-, -, hwalk, -⟩ := d.locate_eq_ok.mp hl
  obtain ⟨k, hk⟩ := walk_append hleads
  rw [hs.walkPieces_join, walkStart_join d dir hs.relative, hk] at hwalk
  exact hs.walk_eq hlinks hwalk

/-- Something new below the directory stands where its names spell. -/
theorem placeFor_join (hleads : d.Leads dir top) (hlinks : d.LinklessBelow top) (hs : Tidy s)
    (hl : d.placeFor (dir / s) = .ok l) :
    l ≠ [] ∧ l = top ++ spelled (names s.toList) ∧
      ∀ d', Grows (fun _ => True) d d' → ∀ e, (∀ target, e ≠ .link target) → Disk.entry? d' l = some e →
        d'.locate (dir / s) = .ok l := by
  obtain ⟨hcheck, before, name, mid, hpieces, hwalk, hmid, hname, rfl, hmove⟩ := placeFor_eq_ok hl
  rw [pieces_join dir hs.relative] at hpieces
  refine ⟨List.append_ne_nil_of_right_ne_nil _ (List.cons_ne_nil _ _), ?_, fun d' hgrows e hlink he => ?_⟩
  · -- the directory that it is to stand in is walked to without its name, and the name is no dot
    obtain ⟨last, others, hlast⟩ := (nonempty (splitOn (· = '/') s.toList)).eq_nil_or_concat.resolve_left
      (nonempty_ne_nil hs.ends)
    rw [hlast, List.concat_eq_append, ← List.append_assoc] at hpieces
    obtain ⟨rfl, hsame⟩ := List.append_inj' hpieces rfl
    cases hsame
    obtain ⟨k, hk⟩ := walk_append hleads
    rw [walkStart_join d dir hs.relative, hk] at hwalk
    have hup : ".." ∉ last := fun hmem => hs.up_not_mem (hlast ▸ by simp [hmem])
    rw [walk_linkless hlinks (List.prefix_refl top) hup hwalk, List.append_assoc]
    have hfilter := filter_nonempty (splitOn (· = '/') s.toList)
    rw [hlast, List.concat_eq_append, List.filter_append,
      List.filter_cons_of_pos (by simpa using hname)] at hfilter
    exact congrArg (top ++ ·) hfilter
  · refine d'.locate_eq_ok.mpr ⟨hcheck, hs.text_join dir, ?_, by rw [he]; rfl⟩
    obtain ⟨k, hk⟩ := walk_append (hgrows.walk_eq_ok hwalk)
    have hstep := hmove d' (hgrows.directory hmid) e hlink he
    rw [hs.walkPieces_join, hpieces, hgrows.walkStart_eq, hk]
    cases k <;> (rw [walk, walkNames_cons, hstep]; rfl)

theorem spelled_names_ne_nil (hs : Tidy s) : spelled (names s.toList) ≠ [] := by
  intro hnil
  have hends := hs.ends
  unfold EndsInComponent at hends
  cases hlast : (splitOn (· = '/') s.toList).getLast? with
  | none =>
    rw [hlast] at hends
    cases hends
  | some piece =>
    rw [hlast, Option.bind_some] at hends
    obtain ⟨c, hc⟩ := Option.isSome_iff_exists.mp hends
    have hmem : c ∈ names s.toList := List.mem_filterMap.mpr ⟨piece, List.mem_of_getLast? hlast, hc⟩
    rw [List.map_eq_nil_iff.mp hnil] at hmem
    cases hmem

/-- Where no file is found but a new one may stand, nothing stands: it would have been found, or is a link. -/
theorem free_of_notFound (hleads : d.Leads dir top) (hlinks : d.LinklessBelow top) (hs : Tidy s)
    (hl : d.locate (dir / s) = .error .notFound) {l : Location} (hplace : d.placeFor (dir / s) = .ok l) :
    d.entry? (top ++ spelled (names s.toList)) = none := by
  obtain ⟨-, rfl, hfound⟩ := placeFor_join hleads hlinks hs hplace
  cases hentry : d.entry? (top ++ spelled (names s.toList)) with
  | none => rfl
  | some e =>
    have hlink : ∀ target, e ≠ .link target := fun target heq =>
      hlinks _ target (List.prefix_append _ _) (heq ▸ hentry)
    rw [hfound d (.refl d) e hlink hentry] at hl
    cases hl

/-- A file that is written below the directory stands where its names spell, and is found there. -/
theorem write_join (hleads : d.Leads dir top) (hlinks : d.LinklessBelow top) (hs : Tidy s)
    {bytes : ByteArray} (h : d.write (dir / s) bytes = .ok d') :
    Grows (· = top ++ spelled (names s.toList)) d d' ∧
      d'.locate (dir / s) = .ok (top ++ spelled (names s.toList)) ∧
      Disk.entry? d' (top ++ spelled (names s.toList)) = some (.file bytes) := by
  have hne : top ++ spelled (names s.toList) ≠ [] :=
    List.append_ne_nil_of_right_ne_nil top (spelled_names_ne_nil hs)
  unfold write at h
  cases hl : d.locate (dir / s) with
  | ok l =>
    obtain rfl := locate_join hleads hlinks hs hl
    rw [hl] at h
    dsimp only at h
    obtain ⟨-, -, -, hentry⟩ := d.locate_eq_ok.mp hl
    obtain ⟨e, he⟩ := Option.isSome_iff_exists.mp hentry
    rw [he] at h
    cases e with
    | directory => cases h
    | link target => exact absurd he (hlinks _ target (List.prefix_append _ _))
    | file old =>
      cases h
      have hgrows := grows_put hne (e := .file bytes) nofun (.inr ⟨⟨old, he⟩, bytes, rfl⟩)
      exact ⟨hgrows, hgrows.locate_eq_ok hl, d.put_self hne _⟩
  | error cause =>
    rw [hl] at h
    cases cause with
    | notFound =>
      cases hplace : d.placeFor (dir / s) with
      | error e =>
        rw [hplace] at h
        cases h
      | ok l =>
        rw [hplace] at h
        change (if (dir / s).chars.getLast? = some '/' then _ else _) = _ at h
        split at h
        · cases h
        · cases h
          have hnone := free_of_notFound hleads hlinks hs hl hplace
          obtain ⟨-, rfl, hfound⟩ := placeFor_join hleads hlinks hs hplace
          have hgrows := grows_put hne (e := .file bytes) nofun (.inl hnone)
          exact ⟨hgrows, hfound _ (hgrows.mono fun _ _ => trivial) (.file bytes) nofun (d.put_self hne _),
            d.put_self hne _⟩
    | notDirectory | isDirectory | alreadyExists | tooManyLinks | nameTooLong | zeroInName | invalidUtf8 =>
      cases h

/-- The same for a file whose directory is created where needed. -/
theorem writeFile_join (hleads : d.Leads dir top) (hlinks : d.LinklessBelow top) (hs : Tidy s)
    {text : String} (h : (writeFile (dir / s) text).run.run d = (.ok (), d')) :
    Grows (· = top ++ spelled (names s.toList)) d d' ∧
      d'.locate (dir / s) = .ok (top ++ spelled (names s.toList)) ∧
      Disk.entry? d' (top ++ spelled (names s.toList)) = some (.file text.toUTF8) := by
  have hadds := adds_ensureParent (dir / s) d
  unfold writeFile at h
  obtain ⟨_, d₁, hrun, h⟩ := run_bind_eq_ok h
  rw [hrun] at hadds
  rw [change_run] at h
  cases hwrite : d₁.writeText (dir / s) text with
  | error e =>
    rw [hwrite] at h
    cases h
  | ok d₂ =>
    rw [hwrite] at h
    cases h
    have hgrows : Grows (· = top ++ spelled (names s.toList)) d d₁ := hadds.mono fun _ => False.elim
    obtain ⟨hafter, hfound, hentry⟩ := write_join (hadds.leads hleads) (hadds.linklessBelow hlinks) hs hwrite
    exact ⟨hgrows.trans hafter, hfound, hentry⟩

theorem readText_of_locate {p : Path} {text : String} (hl : d.locate p = .ok l)
    (hentry : d.entry? l = some (.file text.toUTF8)) : d.readText p = .ok text := by
  have hbytes : d.readBytes p = .ok text.toUTF8 := by
    unfold readBytes
    rw [hl]
    dsimp only [bind, Except.bind]
    rw [hentry]
  have htext : String.fromUTF8? text.toUTF8 = some text := dif_pos text.isValidUTF8
  unfold readText
  rw [hbytes]
  dsimp only [bind, Except.bind]
  rw [htext]

/-- The components of a text are read off the place that they spell. -/
theorem filterMap_spelled (s : List Char) :
    (spelled (names s)).filterMap (fun piece => component? piece.toList) = names s := by
  have hpiece : ∀ c ∈ names s, component? (spelling c).toList = some c := by
    intro c hc
    obtain ⟨piece, -, hpiece⟩ := List.mem_filterMap.mp hc
    rcases component?_cases piece with rfl | rfl | ⟨c', hc', hspelling, -⟩
    · cases hpiece
    · cases hpiece
    · rw [hpiece] at hc'
      cases hc'
      rw [hspelling, String.toList_ofList, hpiece]
  rw [spelled, List.filterMap_map]
  refine (List.filterMap_congr fun c hc => ?_).trans List.filterMap_some
  exact hpiece c hc

theorem spelled_names_inj {a b : List Char} (h : spelled (names a) = spelled (names b)) :
    names a = names b := by
  rw [← filterMap_spelled a, h, filterMap_spelled]

/-- Files with different names that are written below a directory without links are all found there, each
with its text. -/
theorem writeFiles_join {files : List (String × String)} (htidy : ∀ x ∈ files, Tidy x.1)
    (hapart : files.Pairwise fun x y => names x.1.toList ≠ names y.1.toList)
    (hleads : d.Leads dir top) (hlinks : d.LinklessBelow top) {written : List Path}
    (h : (files.mapM fun x => do
        writeFile (dir / x.1) x.2
        return dir / x.1 : Work Error (List Path)).run.run d = (.ok written, d')) :
    written = files.map (fun x => dir / x.1) ∧
      Grows (fun l => ∃ x ∈ files, l = top ++ spelled (names x.1.toList)) d d' ∧
      ∀ x ∈ files, d'.readText (dir / x.1) = .ok x.2 := by
  induction files generalizing d written with
  | nil =>
    cases h
    exact ⟨rfl, .refl _, fun x hx => nomatch hx⟩
  | cons x files ih =>
    obtain ⟨hhere, hrest⟩ := List.pairwise_cons.mp hapart
    obtain ⟨hx, hfiles⟩ := List.forall_mem_cons.mp htidy
    rw [List.mapM_cons, bind_assoc] at h
    obtain ⟨_, d₁, hrun, h⟩ := run_bind_eq_ok h
    obtain ⟨hgrows, hfound, hentry⟩ := writeFile_join hleads hlinks hx hrun
    change (files.mapM (fun x => do
        writeFile (dir / x.1) x.2
        return dir / x.1 : String × String → Work Error Path) >>= fun rest =>
      pure (dir / x.1 :: rest)).run.run d₁ = _ at h
    obtain ⟨rest, d₂, hmore, h⟩ := run_bind_eq_ok h
    cases h
    obtain ⟨rfl, hafter, hread⟩ := ih hfiles hrest (hgrows.leads hleads) (hgrows.linklessBelow hlinks) hmore
    refine ⟨rfl, ?_, List.forall_mem_cons.mpr ⟨?_, hread⟩⟩
    · exact (hgrows.mono fun l hl => ⟨x, List.mem_cons_self, hl⟩).trans
        (hafter.mono fun l ⟨y, hy, hl⟩ => ⟨y, List.mem_cons_of_mem x hy, hl⟩)
    · -- the files behind this one stand elsewhere
      refine readText_of_locate (hafter.locate_eq_ok hfound) (hafter.unchanged hentry ?_)
      rintro ⟨y, hy, hl⟩
      exact hhere y hy (spelled_names_inj (List.append_cancel_left hl))

end Write

end DeckPress.Disk
