import Mathlib.Data.List.Forall2
import Mathlib.Data.List.Infix
import DeckPress.Component.Brace
import DeckPress.Proofs.Text.Lines

/-!
# Marks and what is left when they are gone

A text is marked if backslashes were put in front of some of its opening braces, and nothing else was done
to it. Taking the marks out cannot tell them from other backslashes in that place: it drops every run of
backslashes that ends at an opening brace. So of two texts that differ in marks only the same is left, and
this is the text without marks exactly if no backslash of its own stands in front of an opening brace.
-/

namespace DeckPress.Component.Brace

open Text

/-- Writes backslashes as entities and marks nothing. -/
def entities (html : List Char) : List Char :=
  html.flatMap fun c => if c = '\\' then "&#92;".toList else [c]

/-- The first text is the second with marks in front of some of its opening braces. -/
inductive Marked : List Char → List Char → Prop where
  | nil : Marked [] []
  | keep (c : Char) {s t : List Char} : Marked s t → Marked (c :: s) (c :: t)
  | mark {s t : List Char} : Marked s t → Marked ('\\' :: '{' :: s) ('{' :: t)

/-- No backslash stands in front of an opening brace. -/
def Clear (s : List Char) : Prop := ¬ ['\\', '{'] <:+: s

instance (s : List Char) : Decidable (Clear s) := inferInstanceAs (Decidable (¬ _))

namespace Marked

variable {a b s t : List Char}

theorem refl : ∀ s : List Char, Marked s s
  | [] => .nil
  | c :: s => .keep c (refl s)

theorem append (hab : Marked a b) (hst : Marked s t) : Marked (a ++ s) (b ++ t) := by
  induction hab with
  | nil => exact hst
  | keep c _ ih => exact .keep c ih
  | mark _ ih => exact .mark ih

/-- Texts that are put together of marked pieces are marked. -/
theorem flatMap {α β : Type} {f : α → List Char} {g : β → List Char} {xs : List α} {ys : List β}
    (h : List.Forall₂ (fun x y => Marked (f x) (g y)) xs ys) : Marked (xs.flatMap f) (ys.flatMap g) := by
  induction h with
  | nil => exact .nil
  | cons hxy _ ih =>
    rw [List.flatMap_cons, List.flatMap_cons]
    exact hxy.append ih

end Marked

/-! ## Taking marks out -/

theorem unescape_cons (c : Char) (cs : List Char) :
    unescape (c :: cs) =
      if c = '\\' && (unescape cs).head? = some '{' then unescape cs else c :: unescape cs := rfl

/-- Where there is no backslash nothing is taken out. -/
theorem unescape_append {p : List Char} (hp : '\\' ∉ p) (s : List Char) : unescape (p ++ s) = p ++ unescape s := by
  induction p with
  | nil => rfl
  | cons c p ih =>
    obtain ⟨hc, hp⟩ := List.ne_and_not_mem_of_not_mem_cons hp
    rw [List.cons_append, unescape_cons, ih hp, if_neg (by simp [hc.symm])]
    rfl

theorem unescape_length_le (s : List Char) : (unescape s).length ≤ s.length := by
  induction s with
  | nil => exact Nat.le_refl 0
  | cons c cs ih =>
    rw [unescape_cons]
    split
    · exact Nat.le_succ_of_le ih
    · exact Nat.succ_le_succ ih

theorem unescape_eq_nil {s : List Char} : unescape s = [] ↔ s = [] := by
  constructor
  · intro h
    cases s with
    | nil => rfl
    | cons c cs =>
      rw [unescape_cons] at h
      split at h
      · rename_i hmark
        simp [h] at hmark
      · cases h
  · rintro rfl
    rfl

/-- Marks leave no trace. -/
theorem Marked.unescape_eq {s t : List Char} (h : Marked s t) : unescape s = unescape t := by
  induction h with
  | nil => rfl
  | keep c _ ih => rw [unescape_cons, unescape_cons, ih]
  | @mark s t _ ih =>
    have hbrace : unescape ('{' :: s) = '{' :: unescape t := by
      rw [unescape_cons, if_neg (by simp), ih]
    rw [unescape_cons, hbrace, if_pos (by simp), unescape_cons, if_neg (by simp)]

theorem clear_cons {c : Char} {cs : List Char} :
    Clear (c :: cs) ↔ ¬ (c = '\\' ∧ cs.head? = some '{') ∧ Clear cs := by
  unfold Clear
  rw [List.infix_cons_iff, not_or]
  refine and_congr_left fun _ => not_congr ?_
  cases cs <;> simp [List.cons_prefix_cons, eq_comm]

/-- Taking the marks out of a text changes it unless there is nothing that looks like a mark. -/
theorem unescape_eq_self_iff {s : List Char} : unescape s = s ↔ Clear s := by
  induction s with
  | nil => exact ⟨fun _ => by decide, fun _ => rfl⟩
  | cons c cs ih =>
    rw [unescape_cons, clear_cons, ← ih]
    split
    · rename_i hmark
      simp only [Bool.and_eq_true, decide_eq_true_eq] at hmark
      constructor
      · intro h
        -- a backslash was dropped, so the result is too short
        have hlength := unescape_length_le cs
        rw [h, List.length_cons] at hlength
        omega
      · rintro ⟨hnot, hcs⟩
        exact absurd ⟨hmark.1, hcs ▸ hmark.2⟩ hnot
    · rename_i hmark
      simp only [Bool.and_eq_true, decide_eq_true_eq] at hmark
      rw [List.cons.injEq, and_iff_right rfl]
      exact ⟨fun hcs => ⟨hcs ▸ hmark, hcs⟩, And.right⟩

theorem clear_of_not_mem {s : List Char} (h : '\\' ∉ s) : Clear s :=
  fun hmark => h (hmark.subset List.mem_cons_self)

/-- A piece that keeps what stands in front of it and what stands behind it apart: it has no backslashes and
does not start with an opening brace. -/
def Divides (p : List Char) : Prop := '\\' ∉ p ∧ p ≠ [] ∧ p.head? ≠ some '{'

instance (p : List Char) : Decidable (Divides p) := inferInstanceAs (Decidable (_ ∧ _))

theorem Divides.append {p t : List Char} (hp : Divides p) (ht : '\\' ∉ t) : Divides (p ++ t) := by
  obtain ⟨hbackslash, hsome, hbrace⟩ := hp
  obtain ⟨c, p, rfl⟩ := List.exists_cons_of_ne_nil hsome
  refine ⟨?_, List.cons_ne_nil _ _, hbrace⟩
  rw [List.mem_append, not_or]
  exact ⟨hbackslash, ht⟩

theorem clear_append_of_not_mem {p : List Char} (hp : '\\' ∉ p) (t : List Char) :
    Clear (p ++ t) ↔ Clear t := by
  induction p with
  | nil => rfl
  | cons c p ih =>
    obtain ⟨hc, hp⟩ := List.ne_and_not_mem_of_not_mem_cons hp
    rw [List.cons_append, clear_cons, ih hp]
    exact and_iff_right fun h => hc h.1.symm

theorem clear_between {p : List Char} (hp : Divides p) (s t : List Char) :
    Clear (s ++ (p ++ t)) ↔ Clear s ∧ Clear t := by
  obtain ⟨hbackslash, hsome, hbrace⟩ := hp
  induction s with
  | nil =>
    rw [List.nil_append, clear_append_of_not_mem hbackslash]
    exact (and_iff_right (by decide)).symm
  | cons c s ih =>
    simp only [List.cons_append, clear_cons, ih, and_assoc]
    refine and_congr_left fun _ => ?_
    cases s with
    | cons x s => rfl
    | nil =>
      -- behind the last character in front of the piece stands the first one of the piece
      obtain ⟨x, p, rfl⟩ := List.exists_cons_of_ne_nil hsome
      simpa using fun _ => by simpa using hbrace

/-- Pieces that are followed by one that keeps them apart are looked at one by one. -/
theorem clear_flatMap {α : Type} {p : List Char} (hp : Divides p) (f : α → List Char) (xs : List α)
    (t : List Char) :
    Clear (xs.flatMap (fun x => f x ++ p) ++ t) ↔ (∀ x ∈ xs, Clear (f x)) ∧ Clear t := by
  induction xs with
  | nil => exact (and_iff_right (by simp)).symm
  | cons x xs ih =>
    rw [List.flatMap_cons, List.append_assoc, List.append_assoc, clear_between hp, ih, List.forall_mem_cons,
      and_assoc]

theorem Clear.of_infix {s t : List Char} (h : Clear s) (ht : t <:+: s) : Clear t :=
  fun hmark => h (hmark.trans ht)

/-! ## What is left -/

/-- The first character of a text, if it is left. A backslash is not if it belongs to a run of backslashes
that ends in front of an opening brace. -/
def left? : List Char → Option Char
  | [] => none
  | c :: cs => if c = '\\' ∧ (cs.dropWhile (· = '\\')).head? = some '{' then none else some c

/-- What is left of a text begins with an opening brace if this is so behind its backslashes. -/
theorem head?_unescape (s : List Char) :
    (unescape s).head? = some '{' ↔ (s.dropWhile (· = '\\')).head? = some '{' := by
  induction s with
  | nil => rfl
  | cons c cs ih =>
    rw [unescape_cons]
    by_cases hc : c = '\\'
    · rw [List.dropWhile_cons_of_pos (by simpa using hc), ← ih]
      by_cases hbrace : (unescape cs).head? = some '{'
      · simp [hc, hbrace]
      · simp [hc, hbrace]
    · rw [List.dropWhile_cons_of_neg (by simpa using hc), if_neg (by simp [hc])]
      rfl

/-- Character by character, only backslashes of such runs are taken out. -/
theorem unescape_eq_left (s : List Char) : unescape s = s.tails.filterMap left? := by
  induction s with
  | nil => rfl
  | cons c cs ih =>
    have hleft : left? (c :: cs) = if c = '\\' ∧ (unescape cs).head? = some '{' then none else some c := by
      simp only [left?, head?_unescape]
    rw [unescape_cons, List.tails_cons, List.filterMap_cons, hleft, ← ih]
    by_cases hmark : c = '\\' ∧ (unescape cs).head? = some '{'
    · rw [if_pos (by simp [hmark]), if_pos hmark]
    · rw [if_neg (by simpa using hmark), if_neg hmark]

theorem clear_unescape (s : List Char) : Clear (unescape s) := by
  induction s with
  | nil => decide
  | cons c cs ih =>
    rw [unescape_cons]
    split
    · exact ih
    · rename_i hkept
      exact clear_cons.mpr ⟨by simpa using hkept, ih⟩

theorem unescape_unescape (s : List Char) : unescape (unescape s) = unescape s :=
  unescape_eq_self_iff.mpr (clear_unescape s)

/-! ## Code samples -/

/-- A protected code sample is marked, and but for that has entities only. -/
theorem marked_protect (html : List Char) : Marked (protect html) (entities html) := by
  induction html with
  | nil => exact .nil
  | cons c html ih =>
    unfold protect entities at ih ⊢
    rw [List.flatMap_cons, List.flatMap_cons]
    split
    · exact (Marked.refl _).append ih
    · split
      · rename_i hbrace
        subst hbrace
        exact .mark ih
      · exact .keep c ih

theorem backslash_not_mem_entities (html : List Char) : '\\' ∉ entities html := by
  unfold entities
  rw [List.mem_flatMap]
  rintro ⟨c, -, hc⟩
  split at hc
  · exact absurd hc (by decide)
  · rename_i hne
    exact hne (List.mem_singleton.mp hc).symm

/-- Of a protected code sample the entities are left. -/
theorem unescape_protect (html : List Char) : unescape (protect html) = entities html := by
  rw [(marked_protect html).unescape_eq, unescape_eq_self_iff]
  exact clear_of_not_mem (backslash_not_mem_entities html)

end DeckPress.Component.Brace
