import DeckPress.Component.Importer

/-!
# Listings are a memory

The importer lists a directory when it first needs it and keeps the listing. What a computation over the
listings yields depends on those that are there when it starts; but once it has run, every listing it
consulted is there. So it yields the same again in every later state, and makes no further listing. That
is what lets runs of different files share their listings in any order.
-/

namespace DeckPress.Component

/-- Every listing found in the one is found in the other. -/
def Listings.Extends (old new : Listings) : Prop :=
  ∀ dir entry, old.find? (·.1 == dir) = some entry → new.find? (·.1 == dir) = some entry

namespace Listings.Extends

theorem refl (ls : Listings) : Extends ls ls := fun _ _ h => h

theorem trans {a b c : Listings} (hab : Extends a b) (hbc : Extends b c) : Extends a c :=
  fun dir entry h => hbc dir entry (hab dir entry h)

/-- A directory that is not listed may be added. -/
theorem cons {ls : Listings} {dir : Path} (l : Listing) (h : ls.find? (·.1 == dir) = none) :
    Extends ls ((dir, l) :: ls) := by
  intro other entry ho
  rw [List.find?_cons]
  by_cases hd : dir == other
  · -- two directories that are equal as paths are listed together
    have hsame : (fun e : Path × Listing => e.1 == other) = fun e => e.1 == dir := by
      have hc : dir.components = other.components := beq_iff_eq.mp hd
      funext e
      show (e.1.components == other.components) = (e.1.components == dir.components)
      rw [hc]
    rw [hsame, h] at ho
    cases ho
  · simp only [hd]
    exact ho

end Listings.Extends

/-- A computation over the listings that can be repeated: it only adds listings, and wherever what it
left behind is found it yields the same and adds nothing. -/
structure Repeatable {α : Type} (f : StateM Listings α) : Prop where
  grows : ∀ ls, Listings.Extends ls (f.run ls).2
  again : ∀ ls later, Listings.Extends (f.run ls).2 later → f.run later = ((f.run ls).1, later)

namespace Repeatable

variable {α β : Type}

theorem pure (a : α) : Repeatable (pure a) where
  grows ls := Listings.Extends.refl ls
  again _ _ _ := rfl

theorem bind {f : StateM Listings α} {g : α → StateM Listings β} (hf : Repeatable f)
    (hg : ∀ a, Repeatable (g a)) : Repeatable (f >>= g) where
  grows ls := (hf.grows ls).trans ((hg _).grows _)
  again ls later h := by
    have hlater : f.run later = ((f.run ls).1, later) :=
      hf.again ls later (((hg _).grows _).trans h)
    have hrest : (g (f.run ls).1).run later = (((g (f.run ls).1).run (f.run ls).2).1, later) :=
      (hg (f.run ls).1).again (f.run ls).2 later h
    calc (f >>= g).run later = (g (f.run later).1).run (f.run later).2 := rfl
      _ = (g (f.run ls).1).run later := by rw [hlater]
      _ = (((f >>= g).run ls).1, later) := hrest

end Repeatable

namespace Importer

variable (i : Importer) (d : Disk)

theorem listing_known {dir : Path} {ls : Listings} {entry : Path × Listing}
    (h : ls.find? (·.1 == dir) = some entry) : (i.listing d dir).run ls = (entry.2, ls) := by
  simp only [listing, StateT.run_bind, StateT.run_get, pure_bind, h]
  rfl

theorem listing_new {dir : Path} {ls : Listings} (h : ls.find? (·.1 == dir) = none) :
    (i.listing d dir).run ls = (i.list d dir, (dir, i.list d dir) :: ls) := by
  simp only [listing, StateT.run_bind, StateT.run_get, pure_bind, h]
  rfl

theorem repeatable_listing (dir : Path) : Repeatable (i.listing d dir) where
  grows ls := by
    cases h : ls.find? (·.1 == dir) with
    | some entry =>
      rw [i.listing_known d h]
      exact Listings.Extends.refl ls
    | none =>
      rw [i.listing_new d h]
      exact Listings.Extends.cons _ h
  again ls later hl := by
    cases h : ls.find? (·.1 == dir) with
    | some entry =>
      rw [i.listing_known d h] at hl ⊢
      rw [i.listing_known d (hl dir entry h)]
    | none =>
      rw [i.listing_new d h] at hl ⊢
      -- what a first listing has put on record is what a later one finds
      have hown : ((dir, i.list d dir) :: ls).find? (·.1 == dir) = some (dir, i.list d dir) := by
        have hd : (dir == dir) = true := beq_self_eq_true dir.components
        simp [hd]
      rw [i.listing_known d (hl dir _ hown)]

theorem repeatable_findFile? (name : String) (dirs : List Path) :
    Repeatable (i.findFile? d name dirs) := by
  induction dirs with
  | nil => exact Repeatable.pure _
  | cons dir dirs ih =>
    refine (i.repeatable_listing d dir).bind fun l => ?_
    split
    · exact Repeatable.pure _
    · exact ih

theorem repeatable_resolve? (consumer : Option Path) (tag : String) :
    Repeatable (i.resolve? d consumer tag) := by
  refine (i.repeatable_findFile? d _ _).bind fun found => ?_
  split <;> exact Repeatable.pure _

theorem repeatable_resolveAll (consumer : Option Path) (tags : List String) :
    Repeatable (i.resolveAll d consumer tags) := by
  induction tags with
  | nil => exact Repeatable.pure _
  | cons tag tags ih =>
    refine (i.repeatable_resolve? d consumer tag).bind fun found => ?_
    refine ih.bind fun ⟨resolved, left⟩ => ?_
    dsimp only
    split <;> exact Repeatable.pure _

/-- The tags of a file that are looked for. -/
def wantedTags (a : Artifact) : List String :=
  (usedTags a.code).filter fun tag => !(declaredNames a.code).contains (pascalCase tag)

/-- A file with its tags resolved: the imports are added, and what is left over is noted. -/
def withImports (a : Artifact) (found : List (String × Resolution) × List String) : Artifact :=
  { a with
    code := if found.1.isEmpty then a.code else insertImports a.code (found.1.map (·.2.statement))
    degradations := a.degradations ++ found.2.map .unresolvedComponent }

theorem apply_run (a : Artifact) (ls : Listings) :
    (i.apply d a).run ls =
      if i.appliesTo a then
        let r := (i.resolveAll d a.directory? (wantedTags a)).run ls
        (withImports a r.1, r.2)
      else (a, ls) := by
  unfold apply
  cases happ : i.appliesTo a with
  | false => rfl
  | true =>
    have htags : (usedTags a.code).filter (fun tag => !(declaredNames a.code).contains (pascalCase tag))
        = wantedTags a := rfl
    rw [if_neg (by simp), if_pos rfl]
    dsimp only
    rw [htags, StateT.run_bind]
    rcases (i.resolveAll d a.directory? (wantedTags a)).run ls with ⟨⟨resolved, left⟩, later⟩
    unfold withImports
    show (if resolved.isEmpty then _ else _ : StateM Listings Artifact).run later = _
    dsimp only
    split <;> rfl

/-- Importing the components of a file can be repeated. -/
theorem repeatable_apply (a : Artifact) : Repeatable (i.apply d a) := by
  by_cases happ : i.appliesTo a
  · have hr := i.repeatable_resolveAll d a.directory? (wantedTags a)
    constructor
    · intro ls
      rw [apply_run, if_pos happ]
      exact hr.grows ls
    · intro ls later h
      rw [apply_run, if_pos happ] at h ⊢
      rw [apply_run, if_pos happ]
      dsimp only
      rw [hr.again ls later h]
  · have hrun : ∀ ls, (i.apply d a).run ls = (a, ls) := fun ls => by rw [apply_run, if_neg happ]
    constructor
    · intro ls
      rw [hrun]
      exact Listings.Extends.refl ls
    · intro ls later _
      rw [hrun, hrun]

/-- Importing changes the code of a file, but not which file it is. -/
theorem apply_fileId (a : Artifact) (ls : Listings) :
    ((i.apply d a).run ls).1.fileId = a.fileId := by
  rw [apply_run]
  split <;> rfl

end Importer

end DeckPress.Component
