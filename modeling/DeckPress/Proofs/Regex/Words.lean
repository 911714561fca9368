import DeckPress.Proofs.Regex.Ends

/-!
# Words and runs

Without repetitions and assertions an expression stands for finitely many words, each a row of sets, and leads
to a place for each word that stands in the text. A greedy repetition of a set leads through a run of its
characters and prefers to go as far as it can.
-/

namespace DeckPress

namespace Text.CodeRanges

variable {t : CodeRanges} {n : Nat}

/-! ## Sets of characters -/

theorem mem_of_search {fuel lo hi : Nat} (h : t.search n fuel lo hi = true) :
    ∃ x ∈ t.toList, x.1 ≤ n ∧ n ≤ x.2 := by
  induction fuel generalizing lo hi with
  | zero => cases h
  | succ fuel ih =>
    rw [search] at h
    dsimp only at h
    split at h
    · split at h
      · cases h
      · rename_i a b hmid
        split at h
        · exact ih h
        · split at h
          · exact ih h
          · exact ⟨(a, b), Array.mem_toList_iff.mpr (Array.mem_of_getElem? hmid), by omega, by omega⟩
    · cases h

/-- Ranges in ascending order. -/
structure Ascending (t : CodeRanges) : Prop where
  ranges : ∀ x ∈ t.toList, x.1 ≤ x.2
  order : t.toList.Pairwise fun x y => x.2 < y.1

theorem Ascending.lt (h : t.Ascending) {i j : Nat} {x y : Nat × Nat} (hij : i < j)
    (hi : t.ranges[i]? = some x) (hj : t.ranges[j]? = some y) : x.2 < y.1 := by
  obtain ⟨hi', rfl⟩ := Array.getElem?_eq_some_iff.mp hi
  obtain ⟨hj', rfl⟩ := Array.getElem?_eq_some_iff.mp hj
  exact List.pairwise_iff_getElem.mp h.order i j hi' hj' hij

/-- Halving finds a range among ascending ones. -/
theorem Ascending.search_eq (h : t.Ascending) {fuel lo hi i : Nat} {x : Nat × Nat}
    (hx : t.ranges[i]? = some x) (hn : x.1 ≤ n ∧ n ≤ x.2) (hlo : lo ≤ i) (hhi : i < hi)
    (hsize : hi ≤ t.ranges.size) (hfuel : hi - lo < fuel) : t.search n fuel lo hi = true := by
  induction fuel generalizing lo hi with
  | zero => omega
  | succ fuel ih =>
    rw [search, if_pos (by omega)]
    have hmid : (lo + hi) / 2 < t.ranges.size := by omega
    have hget : t.ranges[(lo + hi) / 2]? = some t.ranges[(lo + hi) / 2] := Array.getElem?_eq_getElem hmid
    have hrange := h.ranges _ (Array.mem_toList_iff.mpr (Array.mem_of_getElem? hget))
    dsimp only
    rw [hget]
    dsimp only
    rcases Nat.lt_trichotomy i ((lo + hi) / 2) with hless | heq | hmore
    · have hlt := h.lt hless hx hget
      rw [if_pos (by omega)]
      exact ih hlo hless (by omega) (by omega)
    · rw [heq, hget] at hx
      cases hx
      rw [if_neg (by omega), if_neg (by omega)]
    · have hlt := h.lt hmore hget hx
      rw [if_neg (by omega), if_pos (by omega)]
      exact ih hmore hhi hsize (by omega)

theorem Ascending.contains_iff (h : t.Ascending) : t.contains n ↔ ∃ x ∈ t.toList, x.1 ≤ n ∧ n ≤ x.2 := by
  constructor
  · exact mem_of_search
  · rintro ⟨x, hx, hn⟩
    obtain ⟨i, hi⟩ := List.mem_iff_getElem?.mp hx
    have hget : t.ranges[i]? = some x := by rw [← Array.getElem?_toList]; exact hi
    obtain ⟨hsize, -⟩ := Array.getElem?_eq_some_iff.mp hget
    exact h.search_eq hget hn (Nat.zero_le _) hsize (Nat.le_refl _) (by omega)

theorem contains_single {c : Char} : (single c).contains n ↔ n = c.toNat := by
  have hascend : (single c).Ascending := ⟨by simp [single, range, toList], by simp [single, range, toList]⟩
  rw [hascend.contains_iff]
  simp only [single, range, toList, List.mem_singleton, exists_eq_left]
  omega

end Text.CodeRanges

namespace Regex

open Text

/-! ## Words -/

namespace Place

/-- The place behind a word, if it stands here. -/
def along? : List CodeRanges → Place → Option Place
  | [], p => some p
  | s :: word, p =>
    match p.rest with
    | c :: rest => if s.contains c.toNat then along? word ⟨some c, rest⟩ else none
    | [] => none

theorem along?_append (v w : List CodeRanges) (p : Place) :
    along? (v ++ w) p = (along? v p).bind (along? w) := by
  induction v generalizing p with
  | nil => rfl
  | cons s v ih =>
    rw [List.cons_append, along?, along?]
    split
    · split
      · exact ih _
      · rfl
    · rfl

theorem getLast?_cons_or (c : Char) (w : List Char) (before : Option Char) :
    (c :: w).getLast?.or before = w.getLast?.or (some c) := by
  rw [List.getLast?_cons]
  cases w.getLast? <;> rfl

/-- A word of single characters stands where its text does. -/
theorem along?_single {w : List Char} {p q : Place} :
    along? (w.map CodeRanges.single) p = some q ↔
      p.rest = w ++ q.rest ∧ q.before = w.getLast?.or p.before := by
  induction w generalizing p with
  | nil =>
    rw [List.map_nil, along?, Option.some_inj]
    constructor
    · rintro rfl
      exact ⟨rfl, rfl⟩
    · rintro ⟨hrest, hbefore⟩
      cases p
      cases q
      cases hrest
      cases hbefore
      rfl
  | cons c w ih =>
    obtain ⟨before, rest⟩ := p
    rw [List.map_cons, along?]
    cases rest with
    | nil => simp
    | cons c' rest =>
      dsimp only
      rw [getLast?_cons_or, List.cons_append, List.cons.injEq]
      by_cases hc : c' = c
      · subst hc
        rw [if_pos (CodeRanges.contains_single.mpr rfl), ih, eq_self, true_and]
      · have hother : ¬ (CodeRanges.single c).contains c'.toNat = true :=
          mt (fun h => Char.toNat_inj.mp (CodeRanges.contains_single.mp h)) hc
        rw [if_neg hother]
        exact ⟨nofun, fun h => absurd h.1.1 hc⟩

end Place

namespace Reader

/-- The words that an expression stands for, preferred ones first; nothing is said of repetitions and
assertions. -/
def words : Reader → List (List CodeRanges)
  | .nothing => [[]]
  | .oneOf s _ => [[s]]
  | .sequence a b => a.words.flatMap fun v => b.words.map (v ++ ·)
  | .choice a b => a.words ++ b.words
  | _ => []

/-- Whether an expression has no repetitions and assertions. -/
def isWordy : Reader → Bool
  | .nothing => true
  | .oneOf _ _ => true
  | .sequence a b => a.isWordy && b.isWordy
  | .choice a b => a.isWordy && b.isWordy
  | _ => false

/-- A place is led to for each word that stands in the text. -/
theorem ends_of_isWordy {e : Reader} (he : e.isWordy) (p : Place) :
    e.ends p = e.words.filterMap (Place.along? · p) := by
  induction e generalizing p with
  | nothing => rfl
  | oneOf s behind =>
    rw [ends, words, List.filterMap_cons]
    obtain ⟨before, rest⟩ := p
    cases rest with
    | nil => rfl
    | cons c rest =>
      rw [Place.along?]
      dsimp only
      split <;> rfl
  | sequence a b iha ihb =>
    rw [isWordy, Bool.and_eq_true] at he
    rw [ends, words, iha he.1]
    induction a.words with
    | nil => rfl
    | cons v vs ih =>
      rw [List.flatMap_cons, List.filterMap_append, ← ih, List.filterMap_cons, List.filterMap_map]
      have halong : (fun w => Place.along? w p) ∘ (v ++ ·) =
          fun w => (Place.along? v p).bind (Place.along? w) := funext fun w => Place.along?_append v w p
      rw [halong]
      cases hv : Place.along? v p with
      | none => simp
      | some q => rw [List.flatMap_cons, ihb he.2]; rfl
  | choice a b iha ihb =>
    rw [isWordy, Bool.and_eq_true] at he
    rw [ends, words, iha he.1, ihb he.2, List.filterMap_append]
  | anchor | again | star => cases he

/-- Where the words are texts, it is led behind those of them that stand here. -/
theorem mem_ends_of_words {e : Reader} (he : e.isWordy) {texts : List (List Char)}
    (hwords : e.words = texts.map (·.map CodeRanges.single)) {p q : Place} :
    q ∈ e.ends p ↔ ∃ w ∈ texts, p.rest = w ++ q.rest ∧ q.before = w.getLast?.or p.before := by
  rw [ends_of_isWordy he, hwords, List.mem_filterMap]
  simp only [List.mem_map, exists_exists_and_eq_and, Place.along?_single]

/-! ## Runs -/

section Run

variable {s : CodeRanges} {behind : Option Nat}

/-- A run that is not empty is a character and a run. -/
theorem ends_again_cons (before : Option Char) (c : Char) (rest : List Char) :
    (again (.oneOf s behind) true).ends ⟨before, c :: rest⟩ =
      if s.contains c.toNat then (star (.oneOf s behind) true).ends ⟨some c, rest⟩ else [] := by
  rw [ends_again rfl]
  show (if s.contains c.toNat then [Place.mk (some c) rest] else []).flatMap _ = _
  by_cases hc : s.contains c.toNat
  · rw [if_pos hc, if_pos hc, List.flatMap_singleton, if_pos rfl, ends_star, if_pos rfl]
  · rw [if_neg hc, if_neg hc, List.flatMap_nil]

/-- A run goes on as long as there are characters of the set, and prefers to go on. -/
theorem ends_run_cons (before : Option Char) (c : Char) (rest : List Char) :
    (star (.oneOf s behind) true).ends ⟨before, c :: rest⟩ =
      (if s.contains c.toNat then (star (.oneOf s behind) true).ends ⟨some c, rest⟩ else []) ++
        [⟨before, c :: rest⟩] := by
  rw [ends_star, if_pos rfl, ends_again_cons]

theorem mem_ends_run {p q : Place} :
    q ∈ (star (.oneOf s behind) true).ends p ↔
      ∃ w : List Char, (∀ c ∈ w, s.contains c.toNat) ∧ p.rest = w ++ q.rest ∧
        q.before = w.getLast?.or p.before := by
  obtain ⟨before, rest⟩ := p
  obtain ⟨before', rest'⟩ := q
  induction rest generalizing before with
  | nil =>
    show Place.mk before' rest' ∈ [Place.mk before []] ↔ _
    rw [List.mem_singleton, Place.mk.injEq]
    constructor
    · rintro ⟨rfl, rfl⟩
      exact ⟨[], nofun, rfl, rfl⟩
    · rintro ⟨w, -, hw, hbefore⟩
      obtain ⟨rfl, rfl⟩ := List.append_eq_nil_iff.mp hw.symm
      exact ⟨hbefore, rfl⟩
  | cons c rest ih =>
    rw [ends_run_cons, List.mem_append, List.mem_singleton, Place.mk.injEq]
    constructor
    · rintro (hmore | ⟨rfl, rfl⟩)
      · split at hmore
        · rename_i hc
          obtain ⟨w, hw, hrest, hbefore⟩ := (ih (some c)).mp hmore
          refine ⟨c :: w, List.forall_mem_cons.mpr ⟨hc, hw⟩, congrArg (c :: ·) hrest, ?_⟩
          rw [Place.getLast?_cons_or]
          exact hbefore
        · cases hmore
      · exact ⟨[], nofun, rfl, rfl⟩
    · rintro ⟨w, hw, hrest, hbefore⟩
      cases w with
      | nil => exact .inr ⟨hbefore, hrest.symm⟩
      | cons c' w =>
        obtain ⟨rfl, htail⟩ := List.cons.inj hrest
        rw [Place.getLast?_cons_or] at hbefore
        obtain ⟨hc, hw⟩ := List.forall_mem_cons.mp hw
        rw [if_pos hc]
        exact .inl ((ih (some c)).mpr ⟨w, hw, htail, hbefore⟩)

/-- Nearer ends are less preferred. -/
theorem pairwise_ends_run (p : Place) :
    ((star (.oneOf s behind) true).ends p).Pairwise fun x y => x.rest.length < y.rest.length := by
  obtain ⟨before, rest⟩ := p
  induction rest generalizing before with
  | nil => exact List.pairwise_singleton _ _
  | cons c rest ih =>
    rw [ends_run_cons]
    refine List.pairwise_append.mpr ⟨?_, List.pairwise_singleton _ _, fun x hx y hy => ?_⟩
    · split
      · exact ih _
      · exact .nil
    · rw [List.mem_singleton.mp hy]
      split at hx
      · exact Nat.lt_succ_of_le (ends_le _ hx)
      · cases hx

/-- The preferred end is that of the whole run. -/
theorem head?_ends_run (s : CodeRanges) (behind : Option Nat) (p : Place) :
    ∃ q, ((star (.oneOf s behind) true).ends p).head? = some q ∧
      ∀ c ∈ q.rest.head?, ¬ s.contains c.toNat = true := by
  obtain ⟨before, rest⟩ := p
  induction rest generalizing before with
  | nil => exact ⟨⟨before, []⟩, rfl, nofun⟩
  | cons c rest ih =>
    rw [ends_run_cons]
    split
    · obtain ⟨q, hq, hstop⟩ := ih (some c)
      exact ⟨q, by rw [List.head?_append, hq, Option.some_or], hstop⟩
    · rename_i hc
      refine ⟨_, rfl, ?_⟩
      rintro c' ⟨⟩
      exact hc

end Run

/-- The first end of all is the first behind the first place that has one. -/
theorem head?_flatMap {α β : Type} {R : α → α → Prop} {xs : List α} (hxs : xs.Pairwise R)
    {f : α → List β} {y : β}
    (h : (xs.flatMap f).head? = some y) :
    ∃ x ∈ xs, (f x).head? = some y ∧ ∀ x' ∈ xs, R x' x → ¬ R x x' → f x' = [] := by
  induction hxs with
  | nil => cases h
  | @cons x xs hfirst _ ih =>
    rw [List.flatMap_cons] at h
    cases hx : f x with
    | nil =>
      rw [hx] at h
      obtain ⟨z, hz, hhead, hrest⟩ := ih h
      refine ⟨z, List.mem_cons_of_mem _ hz, hhead, List.forall_mem_cons.mpr ⟨fun _ _ => hx, hrest⟩⟩
    | cons y' ys =>
      rw [hx] at h
      refine ⟨x, List.mem_cons_self, by rw [hx]; exact h, List.forall_mem_cons.mpr ⟨?_, ?_⟩⟩
      · exact fun hxx hnot => absurd hxx hnot
      · exact fun z hz _ hnot => absurd (hfirst z hz) hnot

end Reader

end Regex

end DeckPress
