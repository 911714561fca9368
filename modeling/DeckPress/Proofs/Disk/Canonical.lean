import Mathlib.Data.List.Infix
import DeckPress.Proofs.Disk.Walk

/-!
# Canonical paths

A path that is walked leads to a location, the names on the way to it from the root, with no links, dots or
slashes left in them. The canonical path of what the path leads to is these names with slashes between them,
and its components are the names again. So one canonical path starts with the components of another exactly
if the one location lies below the other: a directory whose name only begins like that of another is not
below it.
-/

namespace DeckPress.Disk

open Text DeckPress.Path

/-- What stands between the slashes of a path, if it is not empty. -/
structure IsPiece (s : String) : Prop where
  nonempty : s ≠ ""
  noSlash : '/' ∉ s.toList

/-- What something in a directory may be called. -/
structure IsName (s : String) : Prop extends IsPiece s where
  notDot : s ≠ "."
  notUp : s ≠ ".."

/-- A location that consists of names. -/
def Plain (l : Location) : Prop := ∀ s ∈ l, IsName s

variable {d : Disk} {l m r : Location} {p : Path}

/-! ## Walks lead to names -/

theorem Plain.dropLast (h : Plain l) : Plain l.dropLast := fun s hs => h s (List.mem_of_mem_dropLast hs)

theorem Plain.concat (h : Plain l) {s : String} (hs : IsName s) : Plain (l ++ [s]) := by
  intro x hx
  rcases List.mem_append.mp hx with hx | hx
  · exact h x hx
  · exact List.mem_singleton.mp hx ▸ hs

theorem isPiece_of_mem_walkPieces {s : String} (h : s ∈ walkPieces p) : IsPiece s := by
  rcases List.mem_append.mp h with h | h
  · obtain ⟨piece, hpiece, rfl⟩ := List.mem_map.mp h
    obtain ⟨hcut, hsome⟩ := List.mem_filter.mp hpiece
    refine ⟨fun hempty => ?_, fun hslash => ?_⟩
    · rw [eq_toList_of_ofList hempty] at hsome
      cases hsome
    · rw [String.toList_ofList] at hslash
      exact absurd (not_mem_of_mem_splitOn hcut hslash) (by decide)
  · split at h
    · cases List.mem_singleton.mp h
      exact ⟨by decide, by decide⟩
    · cases h

/-- A step that leads to names, or to a link whose pieces are walked from names. -/
def Move.Proper : Move → Prop
  | .lead m => Plain m
  | .link start target => Plain start ∧ ∀ s ∈ target, IsPiece s
  | .refused _ => True

theorem proper_move {piece : String} (hl : Plain l) (hpiece : IsPiece piece) : (d.move l piece).Proper := by
  unfold move
  split
  · split
    · exact hl
    split
    · exact hl.dropLast
    split
    · trivial
    · -- the piece is a name here; a link is walked from the root or from where it stands
      rename_i hdot hup _
      split
      · trivial
      · refine ⟨?_, fun s hs => isPiece_of_mem_walkPieces hs⟩
        split
        · exact nofun
        · exact hl
      · exact hl.concat ⟨hpiece, hdot, hup⟩
  · trivial
  · trivial

theorem plain_walkNames {follow : Location → List String → Except IoError Location}
    (hfollow : ∀ l pieces m, Plain l → (∀ s ∈ pieces, IsPiece s) → follow l pieces = .ok m → Plain m)
    {pieces : List String} (hl : Plain l) (hpieces : ∀ s ∈ pieces, IsPiece s)
    (h : d.walkNames follow l pieces = .ok m) : Plain m := by
  induction pieces generalizing l with
  | nil =>
    cases h
    exact hl
  | cons piece pieces ih =>
    have hrest : ∀ s ∈ pieces, IsPiece s := fun s hs => hpieces s (List.mem_cons_of_mem piece hs)
    have hproper : (d.move l piece).Proper := proper_move hl (hpieces piece List.mem_cons_self)
    rw [walkNames_cons] at h
    cases hmove : d.move l piece with
    | lead next =>
      rw [hmove] at h hproper
      exact ih hproper hrest h
    | link start target =>
      rw [hmove] at h hproper
      obtain ⟨hstart, htarget⟩ := hproper
      refine hfollow start (target ++ pieces) m hstart (fun s hs => ?_) h
      rcases List.mem_append.mp hs with hs | hs
      · exact htarget s hs
      · exact hrest s hs
    | refused e =>
      rw [hmove] at h
      cases h

theorem plain_walk {n : Nat} {pieces : List String} (hl : Plain l) (hpieces : ∀ s ∈ pieces, IsPiece s)
    (h : d.walk n l pieces = .ok m) : Plain m := by
  induction n generalizing l m pieces with
  | zero => exact plain_walkNames (fun _ _ _ _ _ hnever => by cases hnever) hl hpieces h
  | succ n ih => exact plain_walkNames (fun _ _ _ => ih) hl hpieces h

/-- Whatever links and dots a path has, it leads to a location that consists of names, if the working directory
does. -/
theorem plain_of_resolve (hstart : Plain d.workingDirectory) (h : d.resolve p = .ok l) : Plain l := by
  have hwalk : d.walk 40 (d.walkStart p) (walkPieces p) = .ok l := by
    unfold resolve at h
    split at h
    · cases h
    split at h
    · cases h
    cases hwalk : d.walk 40 (d.walkStart p) (walkPieces p) with
    | error e => rw [hwalk] at h; cases h
    | ok m =>
      rw [hwalk] at h
      dsimp only [bind, Except.bind] at h
      split at h
      · exact h
      · cases h
  refine plain_walk ?_ (fun s hs => isPiece_of_mem_walkPieces hs) hwalk
  unfold walkStart
  split
  · exact nofun
  · exact hstart

/-! ## Canonical paths -/

theorem IsName.component? {s : String} (h : IsName s) : component? s.toList = some (.name s) := by
  have hnonempty : s.toList ≠ [] := fun hnil => h.nonempty (String.toList_eq_nil_iff.mp hnil)
  have hdot : s.toList ≠ ['.'] := fun heq => h.notDot (by rw [← String.ofList_toList (s := s), heq])
  have hup : s.toList ≠ ['.', '.'] := fun heq => h.notUp (by rw [← String.ofList_toList (s := s), heq])
  unfold Path.component?
  rw [if_neg (by simp [hnonempty, hdot]), if_neg hup, String.ofList_toList]

theorem names_intercalate (h : Plain l) : names (String.intercalate "/" l).toList = l.map .name := by
  rw [String.toList_intercalate]
  induction l with
  | nil => rfl
  | cons s l ih =>
    have hs : IsName s := h s List.mem_cons_self
    have hpiece : names s.toList = [.name s] := by
      rw [names_piece hs.noSlash, hs.component?]
      rfl
    cases l with
    | nil =>
      rw [List.map_cons, List.map_nil, List.intercalate_singleton]
      exact hpiece
    | cons s' l =>
      have hrest := ih fun x hx => h x (List.mem_cons_of_mem s hx)
      rw [List.map_cons, List.map_cons, List.intercalate_cons_cons, List.append_assoc]
      exact (names_append_slash _ _).trans (congrArg₂ (· ++ ·) hpiece hrest)

/-- The components of a canonical path are the names that lead to the place. -/
theorem components_pathOf (h : Plain l) : (pathOf l).components = .root :: l.map .name := by
  have hchars : (pathOf l).chars = '/' :: (String.intercalate "/" l).toList := String.toList_append
  have habsolute : (pathOf l).isAbsolute := isAbsolute_iff.mpr ⟨_, hchars⟩
  rw [components_of_isAbsolute habsolute, hchars, names_slash, names_intercalate h]

/-- One canonical path starts with another if the one place is below the other. -/
theorem components_pathOf_prefix (hr : Plain r) (hl : Plain l) :
    (pathOf r).components <+: (pathOf l).components ↔ r <+: l := by
  rw [components_pathOf hr, components_pathOf hl, List.prefix_cons_inj]
  exact List.prefix_map_iff_of_injective fun _ _ => PathComponent.name.inj

theorem canonicalize_eq_ok {c : Path} : d.canonicalize p = .ok c ↔ ∃ l, d.resolve p = .ok l ∧ c = pathOf l := by
  unfold canonicalize
  cases d.resolve p with
  | error e => exact ⟨nofun, nofun⟩
  | ok l => exact ⟨fun h => ⟨l, rfl, (Except.ok.inj h).symm⟩, fun ⟨m, hm, hc⟩ => by cases hm; rw [hc]; rfl⟩

/-- A path starts with another if its components do. -/
theorem startsWith_iff {a b : Path} : a.startsWith b ↔ b.components <+: a.components := by
  unfold Path.startsWith
  generalize a.components = cs
  generalize b.components = bs
  induction bs generalizing cs with
  | nil => exact ⟨fun _ => List.nil_prefix, fun _ => rfl⟩
  | cons b bs ih =>
    cases cs with
    | nil =>
      refine ⟨fun h => ?_, fun h => absurd (List.prefix_nil.mp h) (List.cons_ne_nil b bs)⟩
      cases h
    | cons c cs =>
      rw [stripComponents?, List.cons_prefix_cons]
      by_cases hbc : b = c
      · rw [if_pos (beq_iff_eq.mpr hbc), ih]
        exact (and_iff_right hbc).symm
      · rw [if_neg (mt beq_iff_eq.mp hbc)]
        refine ⟨fun h => ?_, fun h => absurd h.1 hbc⟩
        cases h

end DeckPress.Disk
