import DeckPress.Proofs.Sorted
import DeckPress.Style.Collection
import DeckPress.Style.Sheet
import Mathlib.Data.List.Sort

/-!
# What a collection notes

A collection is read through one relation, `Notes`: a file uses a token. Taking over a scan of the present
generation adds the pairs of that scan and no others, every other operation keeps the relation or empties
it. The stylesheet is then a function of the relation alone, since a token that is noted has a rule and
stands in the collection once.
-/

namespace DeckPress.Style

/-- What the list of uses says of one token and one file. -/
def NotedIn (uses : List (String × TokenSet)) (token file : String) : Prop :=
  ∃ files, uses.lookup token = some files ∧ file ∈ files

theorem notedIn_addUse (uses : List (String × TokenSet)) (file token file' token' : String) :
    NotedIn (Collection.addUse file token uses) token' file' ↔
      (token' = token ∧ file' = file) ∨ NotedIn uses token' file' := by
  unfold NotedIn Collection.addUse
  rw [lookup_insertSorted]
  by_cases ht : token' = token
  · subst ht
    cases hl : uses.lookup token' <;> simp
  · simp [ht]

theorem notedIn_foldl (file : String) (tokens : List String) (uses : List (String × TokenSet))
    (token' file' : String) :
    NotedIn (tokens.foldl (fun uses t => Collection.addUse file t uses) uses) token' file' ↔
      (token' ∈ tokens ∧ file' = file) ∨ NotedIn uses token' file' := by
  induction tokens generalizing uses with
  | nil => simp
  | cons t rest ih =>
    rw [List.foldl_cons, ih, notedIn_addUse, List.mem_cons]
    grind

namespace Collection

/-- Whether a file is noted as a user of a token. -/
def Notes (c : Collection) (token file : String) : Prop := NotedIn c.uses token file

/-- The form a collection always has: its tokens ascend, and each is noted for some file. -/
structure Tidy (c : Collection) : Prop where
  ascend : KeysAscend c.uses
  used : ∀ token ∈ c.tokens, ∃ file, c.Notes token file

/-! ## What the operations change -/

section Fields

variable (c : Collection) (s : Scan)

@[simp] theorem enter_openScans : c.enter.openScans = c.openScans + 1 := rfl

@[simp] theorem leave_generation : c.leave.generation = c.generation := rfl

@[simp] theorem leave_openScans : c.leave.openScans = c.openScans - 1 := rfl

@[simp] theorem add_generation : (c.add s).generation = c.generation := by
  unfold add; split <;> rfl

@[simp] theorem add_openScans : (c.add s).openScans = c.openScans := by
  unfold add; split <;> rfl

@[simp] theorem commit_generation : (c.commit s).generation = c.generation := add_generation c s

@[simp] theorem commit_openScans : (c.commit s).openScans = c.openScans - 1 := by
  rw [commit, leave_openScans, add_openScans]

theorem commit_uses : (c.commit s).uses = (c.add s).uses := rfl

end Fields

@[simp] theorem enter_notes (c : Collection) (token file : String) :
    c.enter.Notes token file ↔ c.Notes token file := Iff.rfl

theorem reset_notes (c : Collection) (token file : String) : ¬ c.reset.Notes token file := by
  rintro ⟨files, hl, -⟩
  simp [reset] at hl

/-- A scan of the present generation hands in its tokens, for its file. -/
theorem commit_notes {c : Collection} {s : Scan} (h : s.generation = c.generation)
    (token file : String) :
    (c.commit s).Notes token file ↔
      (token ∈ s.tokens ∧ file = s.file) ∨ c.Notes token file := by
  unfold Notes
  rw [commit_uses, add, if_pos h]
  exact notedIn_foldl s.file s.tokens c.uses token file

/-! ## Collections are tidy -/

theorem mem_tokens_of_notes {c : Collection} {token file : String} (h : c.Notes token file) :
    token ∈ c.tokens := by
  obtain ⟨files, hl, -⟩ := h
  exact (mem_keys_iff_lookup c.uses token).mpr ⟨files, hl⟩

/-- The tokens of a tidy collection are those noted for some file. -/
theorem Tidy.mem_tokens {c : Collection} (h : c.Tidy) (token : String) :
    token ∈ c.tokens ↔ ∃ file, c.Notes token file :=
  ⟨h.used token, fun ⟨_, hn⟩ => mem_tokens_of_notes hn⟩

/-- Tidy collections with the same notes have the same tokens, in the same order. -/
theorem Tidy.tokens_eq {c c' : Collection} (h : c.Tidy) (h' : c'.Tidy)
    (hnotes : ∀ token file, c.Notes token file ↔ c'.Notes token file) : c.tokens = c'.tokens := by
  refine List.Pairwise.eq_of_mem_iff h.ascend h'.ascend fun token => ?_
  show token ∈ c.tokens ↔ token ∈ c'.tokens
  rw [h.mem_tokens, h'.mem_tokens]
  exact exists_congr (hnotes token)

theorem tidy_empty (generation openScans : Nat) : Tidy ⟨generation, [], openScans⟩ where
  ascend := keysAscend_nil
  used := by intro token h; simp [tokens] at h

/-- Only the uses matter to the form. -/
theorem Tidy.of_uses {c c' : Collection} (h : c.Tidy) (hu : c'.uses = c.uses) : c'.Tidy where
  ascend := hu ▸ h.ascend
  used := by
    intro token ht
    unfold tokens at ht
    rw [hu] at ht
    obtain ⟨file, hn⟩ := h.used token ht
    exact ⟨file, by unfold Notes; rw [hu]; exact hn⟩

theorem Tidy.reset {c : Collection} : c.reset.Tidy := tidy_empty _ _

theorem keysAscend_addUses (file : String) (tokens : List String)
    {uses : List (String × TokenSet)} (h : KeysAscend uses) :
    KeysAscend (tokens.foldl (fun uses t => addUse file t uses) uses) := by
  induction tokens generalizing uses with
  | nil => exact h
  | cons t rest ih => exact ih (h.insertSorted t _)

theorem mem_keys_addUses (file : String) (tokens : List String) (uses : List (String × TokenSet))
    (token : String) :
    token ∈ (tokens.foldl (fun uses t => addUse file t uses) uses).map Prod.fst ↔
      token ∈ tokens ∨ token ∈ uses.map Prod.fst := by
  induction tokens generalizing uses with
  | nil => simp
  | cons t rest ih =>
    rw [List.foldl_cons, ih, addUse, mem_keys_insertSorted, List.mem_cons]
    grind

theorem Tidy.commit {c : Collection} (h : c.Tidy) (s : Scan) : (c.commit s).Tidy := by
  by_cases hg : s.generation = c.generation
  · have hu : (c.commit s).uses = s.tokens.foldl (fun uses t => addUse s.file t uses) c.uses := by
      rw [commit_uses, add, if_pos hg]
    constructor
    · rw [hu]
      exact keysAscend_addUses s.file s.tokens h.ascend
    · intro token ht
      unfold tokens at ht
      rw [hu] at ht
      rcases (mem_keys_addUses s.file s.tokens c.uses token).mp ht with hs | hc
      · exact ⟨s.file, (commit_notes hg token s.file).mpr (.inl ⟨hs, rfl⟩)⟩
      · obtain ⟨file, hn⟩ := h.used token hc
        exact ⟨file, (commit_notes hg token file).mpr (.inr hn)⟩
  · refine h.of_uses ?_
    rw [commit_uses, add, if_neg hg]

end Collection

/-! ## Rules of a stylesheet -/

/-- A rule carries the token it was made for. -/
theorem rule?_token {t : Theme} {token : String} {r : Rule} (h : t.rule? token = some r) :
    r.token = token := by
  unfold Theme.rule? at h
  simp only [Option.bind_eq_bind, Option.bind_eq_some_iff] at h
  obtain ⟨utility, -, h⟩ := h
  split at h
  · cases h
  · obtain ⟨v, -, h⟩ := Option.bind_eq_some_iff.mp h
    split at h <;>
    · obtain ⟨ds, -, h⟩ := Option.bind_eq_some_iff.mp h
      cases h
      rfl

/-- Every token of a text has a rule. -/
theorem rule?_of_mem_tokensIn {t : Theme} {code token : String} (h : token ∈ t.tokensIn code) :
    ∃ r, t.rule? token = some r := by
  unfold Theme.tokensIn at h
  have hf := (List.mem_filter.mp ((TokenSet.mem_ofList _ token).mp h)).2
  exact Option.isSome_iff_exists.mp hf

/-- The rules of a stylesheet, in their order. -/
def Theme.sheetRules (t : Theme) (tokens : TokenSet) : List Rule :=
  (tokens.filterMap t.rule?).mergeSort Rule.le

theorem stylesheet_eq (t : Theme) (tokens : TokenSet) :
    t.stylesheet tokens = sheetHeader ++ rulesText none (t.sheetRules tokens) := rfl

theorem mem_sheetRules (t : Theme) (tokens : TokenSet) (r : Rule) :
    r ∈ t.sheetRules tokens ↔ r.token ∈ tokens ∧ t.rule? r.token = some r := by
  unfold Theme.sheetRules
  rw [List.mem_mergeSort, List.mem_filterMap]
  constructor
  · rintro ⟨token, hm, hr⟩
    rw [rule?_token hr]
    exact ⟨hm, hr⟩
  · rintro ⟨hm, hr⟩
    exact ⟨r.token, hm, hr⟩

theorem map_token_filterMap (t : Theme) (tokens : TokenSet) :
    (tokens.filterMap t.rule?).map Rule.token = tokens.filter fun token => (t.rule? token).isSome := by
  induction tokens with
  | nil => rfl
  | cons token rest ih =>
    cases hr : t.rule? token with
    | none => simp [hr, ih]
    | some r => simp [hr, ih, rule?_token hr]

/-- No token has two rules in a stylesheet. -/
theorem nodup_sheetRules (t : Theme) {tokens : TokenSet} (h : tokens.Nodup) :
    ((t.sheetRules tokens).map Rule.token).Nodup := by
  have hperm := (List.mergeSort_perm (tokens.filterMap t.rule?) Rule.le).map Rule.token
  refine hperm.nodup_iff.mpr ?_
  rw [map_token_filterMap]
  exact h.filter _

end DeckPress.Style
