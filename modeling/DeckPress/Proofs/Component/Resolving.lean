import DeckPress.Proofs.Component.Lookups
import DeckPress.Proofs.Sorted

/-!
# Tags are resolved each for itself

The tags of a file are resolved one behind the other, and each lookup may leave listings behind. All lookups
of a file go through the same directories in the same order, so a listing that is met on record is the one
that would be made there. What a tag stands for does not depend on the tags before it.
-/

namespace DeckPress.Component

theorem findSome?_congr {α β : Type} {f g : α → Option β} {l : List α} (h : ∀ x ∈ l, f x = g x) :
    l.findSome? f = l.findSome? g := by
  induction l with
  | nil => rfl
  | cons x l ih =>
    obtain ⟨hx, hl⟩ := List.forall_mem_cons.mp h
    rw [List.findSome?_cons, List.findSome?_cons, hx, ih hl]

/-- The spellings that are kept belong to different components. -/
theorem nodup_firstSpellings (seen tags : List String) :
    ((firstSpellings seen tags).map pascalCase).Nodup ∧
      ∀ tag ∈ firstSpellings seen tags, pascalCase tag ∉ seen := by
  induction tags generalizing seen with
  | nil => exact ⟨List.nodup_nil, fun _ h => nomatch h⟩
  | cons tag tags ih =>
    rw [firstSpellings]
    split
    · exact ih seen
    · rename_i hnew
      obtain ⟨hnodup, hseen⟩ := ih (pascalCase tag :: seen)
      refine ⟨?_, List.forall_mem_cons.mpr ⟨by simpa using hnew, fun other hother => ?_⟩⟩
      · refine List.nodup_cons.mpr ⟨fun hname => ?_, hnodup⟩
        obtain ⟨other, hother, hsame⟩ := List.mem_map.mp hname
        exact hseen other hother (hsame ▸ List.mem_cons_self)
      · exact List.not_mem_of_not_mem_cons (hseen other hother)

/-- Each component has a spelling that is kept, unless its name counts no more. -/
theorem exists_mem_firstSpellings {seen tags : List String} {name : String} :
    (∃ tag ∈ firstSpellings seen tags, pascalCase tag = name) ↔
      name ∉ seen ∧ ∃ tag ∈ tags, pascalCase tag = name := by
  induction tags generalizing seen with
  | nil => simp [firstSpellings]
  | cons first tags ih =>
    rw [firstSpellings]
    split
    · rename_i hseen
      have hseen : pascalCase first ∈ seen := by simpa using hseen
      rw [ih, List.exists_mem_cons_iff]
      refine and_congr_right fun hnew => (or_iff_right fun hfirst => hnew ?_).symm
      rwa [← hfirst]
    · rename_i hnew
      have hnew : pascalCase first ∉ seen := by simpa using hnew
      rw [List.exists_mem_cons_iff, List.exists_mem_cons_iff, ih, List.mem_cons, not_or]
      by_cases hfirst : pascalCase first = name
      · simp [hfirst, hfirst ▸ hnew]
      · simp [hfirst, Ne.symm hfirst]

namespace Importer

variable (i : Importer) (d : Disk)

/-- What a tag stands for, with these listings on record. -/
def found (consumer : Option Path) (ls : Listings) (tag : String) : Option Resolution :=
  ((i.resolve? d consumer tag).run ls).1

/-- Without directories only the resolvers are asked. -/
theorem found_of_no_dirs (h : i.options.dirs = []) (consumer : Option Path) (ls : Listings) (tag : String) :
    i.found d consumer ls tag = i.resolvers.findSome? (· tag) := by
  have hdirs : i.searchDirs consumer = [] := by
    unfold searchDirs
    rw [h]
    cases consumer with
    | none => rfl
    | some dir =>
      dsimp only
      split <;> rfl
  have hnone : (i.findFile? d (pascalCase tag) []).run ls = (none, ls) := rfl
  rw [found, resolve?_run, hdirs, hnone, resolutionOf]

theorem findFile?_cons_run (name : String) (dir : Path) (dirs : List Path) (ls : Listings) :
    (i.findFile? d name (dir :: dirs)).run ls =
      match ((i.listing d dir).run ls).1.lookup name with
      | some file => (some file, ((i.listing d dir).run ls).2)
      | none => (i.findFile? d name dirs).run ((i.listing d dir).run ls).2 := by
  rw [findFile?, StateT.run_bind]
  rcases (i.listing d dir).run ls with ⟨l, later⟩
  show (match l.lookup name with
    | some file => pure (some file)
    | none => i.findFile? d name dirs : StateM Listings (Option Path)).run later = _
  dsimp only
  cases l.lookup name <;> rfl

/-- A lookup in these directories leaves the result of another one as it was. -/
theorem findFile?_after (name other : String) (dirs : List Path) (ls : Listings) :
    ((i.findFile? d name dirs).run ((i.findFile? d other dirs).run ls).2).1 =
      ((i.findFile? d name dirs).run ls).1 := by
  induction dirs generalizing ls with
  | nil => rfl
  | cons dir dirs ih =>
    -- the first directory is on record after either lookup, with the same listing
    have hgrows : Listings.Extends ((i.listing d dir).run ls).2
        ((i.findFile? d other (dir :: dirs)).run ls).2 := by
      rw [findFile?_cons_run]
      split
      · exact Listings.Extends.refl _
      · exact (i.repeatable_findFile? d other dirs).grows _
    have hagain := (i.repeatable_listing d dir).again ls _ hgrows
    rw [findFile?_cons_run, findFile?_cons_run i d name dir dirs ls, hagain]
    dsimp only
    cases ((i.listing d dir).run ls).1.lookup name with
    | some file => rfl
    | none =>
      dsimp only
      rw [findFile?_cons_run]
      split
      · rfl
      · exact ih _

theorem found_after (consumer : Option Path) (tag other : String) (ls : Listings) :
    i.found d consumer ((i.resolve? d consumer other).run ls).2 tag = i.found d consumer ls tag := by
  unfold found
  rw [resolve?_run, resolve?_run, resolve?_run]
  dsimp only
  rw [findFile?_after]

theorem resolveAll_cons_listings (consumer : Option Path) (tag : String) (tags : List String) (ls : Listings) :
    ((i.resolveAll d consumer (tag :: tags)).run ls).2 =
      ((i.resolveAll d consumer tags).run ((i.resolve? d consumer tag).run ls).2).2 := by
  rw [resolveAll, StateT.run_bind]
  rcases (i.resolve? d consumer tag).run ls with ⟨found, middle⟩
  show ((i.resolveAll d consumer tags >>= _).run middle).2 = ((i.resolveAll d consumer tags).run middle).2
  rw [StateT.run_bind]
  rcases (i.resolveAll d consumer tags).run middle with ⟨others, later⟩
  cases found <;> rfl

/-- With the listings that are left behind, each tag stands for what it stood for. -/
theorem found_later {consumer : Option Path} {tags : List String} {ls later : Listings}
    (h : Listings.Extends ((i.resolveAll d consumer tags).run ls).2 later) :
    ∀ tag ∈ tags, i.found d consumer later tag = i.found d consumer ls tag := by
  induction tags generalizing ls with
  | nil => exact fun tag htag => nomatch htag
  | cons first tags ih =>
    rw [resolveAll_cons_listings] at h
    intro tag htag
    rcases List.mem_cons.mp htag with rfl | htag
    · have hgrows := ((i.repeatable_resolveAll d consumer tags).grows _).trans h
      rw [found, (i.repeatable_resolve? d consumer tag).again ls later hgrows, found]
    · exact (ih h tag htag).trans (i.found_after d consumer tag first ls)

/-- What comes of tags, each with what was found for it: the imports by name, and the tags left over. -/
def gather (found : String → Option Resolution) (tags : List String) :
    List (String × Resolution) × List String :=
  tags.foldr (fun tag others => addResolution tag (found tag) others) ([], [])

theorem gather_cons (found : String → Option Resolution) (tag : String) (tags : List String) :
    gather found (tag :: tags) = addResolution tag (found tag) (gather found tags) := rfl

theorem resolveAll_run (consumer : Option Path) (tags : List String) (ls : Listings) :
    ((i.resolveAll d consumer tags).run ls).1 = gather (i.found d consumer ls) tags := by
  induction tags generalizing ls with
  | nil => rfl
  | cons tag tags ih =>
    have hothers := ih ((i.resolve? d consumer tag).run ls).2
    have hsame : i.found d consumer ((i.resolve? d consumer tag).run ls).2 = i.found d consumer ls :=
      funext fun other => i.found_after d consumer other tag ls
    rw [hsame] at hothers
    rw [gather_cons, ← hothers, found, ← resolveSteps_run, resolveSteps, Steps.run_bind, Steps.run_bind,
      resolveSteps_run, findSteps_run, resolve?_run]
    rfl

variable {found : String → Option Resolution} {tags : List String}

theorem gather_left (found : String → Option Resolution) (tags : List String) :
    (gather found tags).2 = tags.filter fun tag => (found tag).isNone := by
  induction tags with
  | nil => rfl
  | cons tag tags ih =>
    rw [gather_cons]
    cases hfound : found tag with
    | none => rw [addResolution, List.filter_cons_of_pos (by simp [hfound]), ih]
    | some r => rw [addResolution, List.filter_cons_of_neg (by simp [hfound]), ih]

theorem gather_keysAscend (found : String → Option Resolution) (tags : List String) :
    KeysAscend (gather found tags).1 := by
  induction tags with
  | nil => exact keysAscend_nil
  | cons tag tags ih =>
    rw [gather_cons]
    cases found tag with
    | none => exact ih
    | some r => exact ih.insertSorted _ _

/-- A name is imported as what its tag stands for. -/
theorem lookup_gather (hnames : (tags.map pascalCase).Nodup) (name : String) (r : Resolution) :
    (gather found tags).1.lookup name = some r ↔ ∃ tag ∈ tags, pascalCase tag = name ∧ found tag = some r := by
  induction tags with
  | nil => simp [gather]
  | cons tag tags ih =>
    obtain ⟨hnew, hnames⟩ := List.nodup_cons.mp hnames
    have hnone : ∀ r, ¬ ∃ other ∈ tags, pascalCase other = pascalCase tag ∧ found other = some r := by
      rintro r ⟨other, hother, hsame, -⟩
      exact hnew (hsame ▸ List.mem_map_of_mem hother)
    rw [gather_cons]
    simp only [List.mem_cons, exists_eq_or_imp]
    rw [← ih hnames]
    cases hfound : found tag with
    | none => simp [addResolution]
    | some own =>
      rw [addResolution, lookup_insertSorted]
      by_cases hname : name = pascalCase tag
      · subst hname
        rw [if_pos rfl, ih hnames, or_iff_left (hnone r)]
        simp
      · rw [if_neg hname]
        simp [Ne.symm hname]

theorem mem_wantedTags {a : Artifact} {tag : String} :
    tag ∈ wantedTags a ↔ tag ∈ usedTags a.code ∧ pascalCase tag ∉ declaredNames a.code := by
  simp [wantedTags, List.mem_filter]

theorem nodup_wantedTags (a : Artifact) : ((wantedTags a).map pascalCase).Nodup :=
  (nodup_firstSpellings _ _).1.sublist (List.filter_sublist.map pascalCase)

end Importer

end DeckPress.Component
