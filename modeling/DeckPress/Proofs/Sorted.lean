import DeckPress.Style.Tokens
import Mathlib.Data.String.Basic

/-!
# Lists in ascending order

The model keeps its finite maps as lists sorted by their keys and its finite sets as sorted lists. What a
lookup sees of an insertion does not depend on the order: it holds for every list. The order is only
needed to know that no key stands there twice, which is what makes the keys a set.
-/

namespace DeckPress

section Map

variable {α : Type}

theorem lookup_cons_eq (key k : String) (v : α) (rest : List (String × α)) :
    ((k, v) :: rest).lookup key = if key = k then some v else rest.lookup key := by
  by_cases h : key = k
  · subst h
    simp
  · have hb : (key == k) = false := beq_eq_false_iff_ne.mpr h
    simp [List.lookup_cons, hb, h]

theorem lookup_insertSorted (key other : String) (value : α) (entries : List (String × α)) :
    (insertSorted key value entries).lookup other =
      if other = key then some value else entries.lookup other := by
  induction entries with
  | nil => simp only [insertSorted, lookup_cons_eq, List.lookup_nil]
  | cons entry rest ih =>
    obtain ⟨k, v⟩ := entry
    unfold insertSorted
    split
    · rw [lookup_cons_eq]
    · split
      · rename_i hk
        subst hk
        rw [lookup_cons_eq, lookup_cons_eq]
        split <;> rfl
      · rename_i hk
        rw [lookup_cons_eq, lookup_cons_eq, ih]
        by_cases ho : other = k
        · subst ho
          rw [if_pos rfl, if_pos rfl, if_neg (Ne.symm hk)]
        · rw [if_neg ho, if_neg ho]

/-- What is in a list after an insertion was put in or was there. -/
theorem eq_or_mem_of_mem_insertSorted {key : String} {value : α} {entries : List (String × α)}
    {entry : String × α} (h : entry ∈ insertSorted key value entries) :
    entry = (key, value) ∨ entry ∈ entries := by
  induction entries with
  | nil => exact .inl (List.mem_singleton.mp h)
  | cons first rest ih =>
    obtain ⟨k, v⟩ := first
    unfold insertSorted at h
    split at h
    · exact List.mem_cons.mp h
    · split at h
      · rcases List.mem_cons.mp h with h | h
        · exact .inl h
        · exact .inr (List.mem_cons_of_mem _ h)
      · rcases List.mem_cons.mp h with h | h
        · exact .inr (h ▸ List.mem_cons_self)
        · exact (ih h).imp_right (List.mem_cons_of_mem _)

theorem mem_keys_insertSorted (key other : String) (value : α) (entries : List (String × α)) :
    other ∈ (insertSorted key value entries).map Prod.fst ↔
      other = key ∨ other ∈ entries.map Prod.fst := by
  induction entries with
  | nil => simp [insertSorted]
  | cons entry rest ih =>
    obtain ⟨k, v⟩ := entry
    unfold insertSorted
    split
    · simp
    · split
      · rename_i hk
        subst hk
        simp
      · simp only [List.map_cons, List.mem_cons, ih]
        grind

/-- The keys of a list, each smaller than those behind it. -/
def KeysAscend (entries : List (String × α)) : Prop := (entries.map Prod.fst).Pairwise (· < ·)

theorem keysAscend_nil : KeysAscend ([] : List (String × α)) := List.Pairwise.nil

theorem KeysAscend.nodup {entries : List (String × α)} (h : KeysAscend entries) :
    (entries.map Prod.fst).Nodup :=
  h.imp fun hlt heq => by subst heq; exact lt_irrefl _ hlt

theorem KeysAscend.insertSorted {entries : List (String × α)} (h : KeysAscend entries)
    (key : String) (value : α) : KeysAscend (insertSorted key value entries) := by
  induction entries with
  | nil => exact List.pairwise_singleton _ _
  | cons entry rest ih =>
    obtain ⟨k, v⟩ := entry
    obtain ⟨hhead, htail⟩ := List.pairwise_cons.mp h
    unfold DeckPress.insertSorted
    split
    · rename_i hlt
      refine List.pairwise_cons.mpr ⟨?_, h⟩
      intro x hx
      rcases List.mem_cons.mp hx with rfl | hx
      · exact hlt
      · exact lt_trans hlt (hhead x hx)
    · rename_i hnlt
      split
      · rename_i heq
        subst heq
        exact List.pairwise_cons.mpr ⟨hhead, htail⟩
      · rename_i hne
        refine List.pairwise_cons.mpr ⟨?_, ih htail⟩
        intro x hx
        rcases (mem_keys_insertSorted key x value rest).mp hx with rfl | hx
        · exact lt_of_le_of_ne (not_lt.mp hnlt) (Ne.symm hne)
        · exact hhead x hx

/-- A key is there exactly if a lookup finds something. -/
theorem mem_keys_iff_lookup (entries : List (String × α)) (key : String) :
    key ∈ entries.map Prod.fst ↔ ∃ value, entries.lookup key = some value := by
  induction entries with
  | nil => simp
  | cons entry rest ih =>
    obtain ⟨k, v⟩ := entry
    rw [lookup_cons_eq, List.map_cons, List.mem_cons, ih]
    by_cases hk : key = k <;> simp [hk]

/-- A key leads to one value. -/
theorem KeysAscend.mem_iff_lookup {entries : List (String × α)} (h : KeysAscend entries) {key : String} {value : α} :
    (key, value) ∈ entries ↔ entries.lookup key = some value := by
  induction entries with
  | nil => simp
  | cons entry rest ih =>
    obtain ⟨k, v⟩ := entry
    obtain ⟨hnew, hrest⟩ := List.nodup_cons.mp h.nodup
    rw [lookup_cons_eq, List.mem_cons, Prod.mk.injEq]
    by_cases hk : key = k
    · subst hk
      have hother : (key, value) ∉ rest := fun hmem => hnew (List.mem_map.mpr ⟨_, hmem, rfl⟩)
      rw [if_pos rfl, Option.some.injEq, or_iff_left hother]
      exact ⟨fun hv => hv.2.symm, fun hv => ⟨rfl, hv.symm⟩⟩
    · rw [if_neg hk, ← ih (List.pairwise_cons.mp h).2, or_iff_right fun hv => hk hv.1]

theorem KeysAscend.nodup_entries {entries : List (String × α)} (h : KeysAscend entries) : entries.Nodup :=
  (List.pairwise_map.mp h).imp fun hlt heq => by subst heq; exact lt_irrefl _ hlt

/-- There is one such list of given entries. -/
theorem KeysAscend.ext {entries other : List (String × α)} (h : KeysAscend entries) (h' : KeysAscend other)
    (hmem : ∀ entry, entry ∈ entries ↔ entry ∈ other) : entries = other := by
  have hperm : entries.Perm other := (List.perm_ext_iff_of_nodup h.nodup_entries h'.nodup_entries).mpr hmem
  exact List.Perm.eq_of_pairwise (fun _ _ _ _ hlt hlt' => absurd hlt' (lt_asymm hlt)) (List.pairwise_map.mp h)
    (List.pairwise_map.mp h') hperm

end Map

namespace Style.TokenSet

@[simp] theorem mem_insert (token other : String) (ts : TokenSet) :
    other ∈ insert token ts ↔ other = token ∨ other ∈ ts := by
  induction ts with
  | nil => simp [insert]
  | cons t rest ih =>
    unfold insert
    split
    · simp
    · split
      · rename_i ht
        subst ht
        simp
      · simp only [List.mem_cons, ih]
        grind

@[simp] theorem mem_union (a b : TokenSet) (token : String) :
    token ∈ a.union b ↔ token ∈ a ∨ token ∈ b := by
  unfold union
  induction b generalizing a with
  | nil => simp
  | cons t rest ih =>
    rw [List.foldl_cons, ih, mem_insert, List.mem_cons]
    grind

@[simp] theorem mem_ofList (tokens : List String) (token : String) :
    token ∈ ofList tokens ↔ token ∈ tokens := by
  have h := mem_union [] tokens token
  simpa [union, ofList] using h

end Style.TokenSet

end DeckPress
