import DeckPress.Style.Scope
import Mathlib.Data.String.Basic

/-!
# The order of scanned files

Paths are totally ordered up to equality as paths, so the files that are scanned stand in ascending order,
each once.
-/

namespace DeckPress

theorem PathComponent.trans {a b c : PathComponent} (hab : a.lt b) (hbc : b.lt c) : a.lt c := by
  cases a with
  | name a =>
    cases b with
    | name b =>
      cases c with
      | name c => exact decide_eq_true (lt_trans (of_decide_eq_true hab) (of_decide_eq_true hbc))
      | root | current | parent => cases hbc
    | root | current | parent => cases hab
  | root | current | parent => cases b <;> cases c <;> simp_all [lt, rank]

theorem PathComponent.total (a b : PathComponent) : a.lt b ∨ a = b ∨ b.lt a := by
  cases a with
  | name a =>
    cases b with
    | name b =>
      rcases lt_trichotomy a b with h | rfl | h
      · exact .inl (decide_eq_true h)
      · exact .inr (.inl rfl)
      · exact .inr (.inr (decide_eq_true h))
    | root | current | parent => exact .inr (.inr rfl)
  | root | current | parent => cases b <;> simp [lt, rank]

theorem PathComponent.irrefl (a : PathComponent) : a.lt a = false := by
  cases a with
  | name a => exact decide_eq_false (lt_irrefl a)
  | root | current | parent => rfl

namespace Path

theorem lexLt_trans {a b c : List PathComponent} (hab : lexLt a b) (hbc : lexLt b c) : lexLt a c := by
  induction c generalizing a b with
  | nil => cases b <;> cases hbc
  | cons z c ih =>
    cases a with
    | nil => rfl
    | cons x a =>
      cases b with
      | nil => cases hab
      | cons y b =>
        by_cases hxy : x = y
        · subst hxy
          by_cases hxz : x = z
          · subst hxz
            simp only [lexLt, beq_self_eq_true, if_true] at hab hbc ⊢
            exact ih hab hbc
          · simpa [lexLt, hxz] using hbc
        · have hlt : x.lt y := by simpa [lexLt, hxy] using hab
          -- the three lists part where the first two do, or earlier
          have hxz : x.lt z := by
            by_cases hyz : y = z
            · exact hyz ▸ hlt
            · exact PathComponent.trans hlt (by simpa [lexLt, hyz] using hbc)
          have hne : x ≠ z := by
            rintro rfl
            rw [x.irrefl] at hxz
            cases hxz
          simpa [lexLt, hne] using hxz

theorem lexLt_total (a b : List PathComponent) : lexLt a b ∨ a = b ∨ lexLt b a := by
  induction a generalizing b with
  | nil =>
    cases b with
    | nil => exact .inr (.inl rfl)
    | cons y b => exact .inl rfl
  | cons x a ih =>
    cases b with
    | nil => exact .inr (.inr rfl)
    | cons y b =>
      by_cases hxy : x = y
      · subst hxy
        simpa [lexLt] using ih b
      · simpa [lexLt, hxy, Ne.symm hxy] using x.total y

end Path

namespace Style.Scope

theorem mem_insertPath {a b : Path} {files : List Path} (h : a ∈ insertPath b files) :
    a = b ∨ a ∈ files := by
  induction files with
  | nil => simpa [insertPath] using h
  | cons c files ih =>
    unfold insertPath at h
    split at h
    · simpa using h
    · split at h
      · exact .inr h
      · rcases List.mem_cons.mp h with rfl | h
        · exact .inr List.mem_cons_self
        · exact (ih h).imp_right (List.mem_cons_of_mem c)

theorem mem_foldl_insertPath {a : Path} {found files : List Path}
    (h : a ∈ found.foldl (fun acc file => insertPath file acc) files) : a ∈ files ∨ a ∈ found := by
  induction found generalizing files with
  | nil => exact .inl h
  | cons b found ih =>
    rcases ih h with h | h
    · exact (mem_insertPath h).elim (fun h => .inr (h ▸ List.mem_cons_self)) .inl
    · exact .inr (List.mem_cons_of_mem b h)

/-- Paths in ascending order. -/
def Ascend (files : List Path) : Prop := files.Pairwise fun a b => a.lt b

theorem Ascend.insertPath {files : List Path} (h : Ascend files) (p : Path) :
    Ascend (insertPath p files) := by
  induction files with
  | nil => exact List.pairwise_singleton _ _
  | cons q files ih =>
    obtain ⟨hhead, htail⟩ := List.pairwise_cons.mp h
    unfold Scope.insertPath
    split
    · rename_i hlt
      refine List.pairwise_cons.mpr ⟨fun x hx => ?_, h⟩
      rcases List.mem_cons.mp hx with rfl | hx
      · exact hlt
      · exact Path.lexLt_trans hlt (hhead x hx)
    · rename_i hlt
      split
      · exact h
      · rename_i hne
        refine List.pairwise_cons.mpr ⟨fun x hx => ?_, ih htail⟩
        rcases mem_insertPath hx with rfl | hx
        · rcases Path.lexLt_total x.components q.components with h' | h' | h'
          · exact absurd h' hlt
          · exact absurd (beq_iff_eq.mpr h') hne
          · exact h'
        · exact hhead x hx

/-- The files that are scanned stand in the order of their paths, each once. -/
theorem files_ascend (s : Scope) (d : Disk) : Ascend (s.files d) := by
  have hfold : ∀ (found files : List Path), Ascend files →
      Ascend (found.foldl (fun acc p => Scope.insertPath p acc) files) := by
    intro found
    induction found with
    | nil => exact fun _ h => h
    | cons p found ih => exact fun files h => ih _ (h.insertPath p)
  exact hfold _ [] List.Pairwise.nil

end Style.Scope

end DeckPress
