import Mathlib.Data.List.Induction
import Mathlib.Data.List.Nodup
import DeckPress.Proofs.Text.Lines
import DeckPress.Style.Rule

/-!
# What the variants of a token ask for

A token is read one variant after the other, and what they ask for is carried along. Read together, variants
are admissible if each is known and stands there once and at most one of them is a screen width; and then
what they ask for does not depend on the order in which they are read, but for the order of the states.
-/

namespace DeckPress.Style

open Text

/-- The screen width that a variant asks for: its place among the breakpoints, counted from 1, and its
condition. -/
def screen? (name : String) : Option (Nat × String) :=
  match breakpoints.findIdx? (·.1 = name), breakpoints.lookup name with
  | some i, some condition => some (i + 1, condition)
  | _, _ => none

/-- The variants that are counted as states: those that are states of the element, and dark pages. -/
def countedVariants : List String := "dark" :: stateVariants

/-- Variants that may stand in front of a utility. -/
structure Admissible (names : List String) : Prop where
  nodup : names.Nodup
  known : ∀ name ∈ names, (screen? name).isSome ∨ name ∈ countedVariants
  oneScreen : (names.filterMap screen?).length ≤ 1

/-- What variants ask for together. -/
def Variants.ofList (names : List String) : Variants where
  media := names.findSome? screen?
  dark := "dark" ∈ names
  states := names.filter (· ∈ stateVariants)
  seen := names.reverse

/-! ## Screen widths -/

theorem screen?_eq_none_of_not_mem {name : String} (h : name ∉ breakpoints.map Prod.fst) :
    screen? name = none := by
  have hlookup : breakpoints.lookup name = none := by
    rw [List.lookup_eq_none_iff]
    intro p hp
    rw [bne_iff_ne]
    rintro rfl
    exact h (List.mem_map_of_mem hp)
  unfold screen?
  rw [hlookup]
  cases breakpoints.findIdx? (·.1 = name) <;> rfl

/-- What is true of the names of all breakpoints is true of the variants that are screen widths. -/
theorem forall_screen? {P : String → Prop} (h : ∀ name ∈ breakpoints.map Prod.fst, P name) {name : String}
    (hname : (screen? name).isSome) : P name := by
  by_contra hnot
  rw [screen?_eq_none_of_not_mem fun hmem => hnot (h name hmem)] at hname
  cases hname

/-- A screen width is not counted. -/
theorem not_counted_of_screen {name : String} (h : (screen? name).isSome) : name ∉ countedVariants :=
  forall_screen? (P := (· ∉ countedVariants)) (by decide) h

theorem screen?_snd (name : String) : (screen? name).map Prod.snd = breakpoints.lookup name := by
  by_cases hmem : name ∈ breakpoints.map Prod.fst
  · have hall : ∀ name ∈ breakpoints.map Prod.fst,
        (screen? name).map Prod.snd = breakpoints.lookup name := by decide
    exact hall name hmem
  · rw [screen?_eq_none_of_not_mem hmem, Option.map_none, eq_comm, List.lookup_eq_none_iff]
    intro p hp
    rw [bne_iff_ne]
    rintro rfl
    exact hmem (List.mem_map_of_mem hp)

/-! ## One variant after the other -/

namespace Variants

theorem add?_eq (v : Variants) (name : String) :
    v.add? name =
      if name ∈ v.seen then none
      else
        match screen? name with
        | some screen =>
          if v.media.isSome then none else some { v with seen := name :: v.seen, media := some screen }
        | none =>
          if name ∈ stateVariants then
            some { v with seen := name :: v.seen, states := v.states ++ [name] }
          else if name = "dark" then some { v with seen := name :: v.seen, dark := true }
          else none := by
  unfold add? screen?
  simp only [List.contains_iff_mem]
  split
  · rfl
  · cases breakpoints.findIdx? (·.1 = name) with
    | none => rfl
    | some i => cases breakpoints.lookup name <;> rfl

theorem ofList_snoc (names : List String) (name : String) :
    ofList (names ++ [name]) = {
      media := (names.findSome? screen?).or (screen? name)
      dark := "dark" ∈ names ∨ name = "dark"
      states := names.filter (· ∈ stateVariants) ++ if name ∈ stateVariants then [name] else []
      seen := name :: names.reverse } := by
  have hdark : "dark" = name ↔ name = "dark" := eq_comm
  simp [ofList, List.findSome?_append, List.filter_singleton, hdark]

/-- One more variant is accepted if it has not been there, is known, and is no second screen width. -/
theorem add?_ofList {names : List String} {name : String} {v : Variants} :
    (ofList names).add? name = some v ↔
      (name ∉ names ∧ ((screen? name).isSome ∨ name ∈ countedVariants) ∧
        ((screen? name).isSome → names.filterMap screen? = [])) ∧ v = ofList (names ++ [name]) := by
  rw [add?_eq, ofList_snoc]
  have hseen : name ∈ (ofList names).seen ↔ name ∈ names := List.mem_reverse
  have hmedia : (ofList names).media.isSome ↔ names.filterMap screen? ≠ [] := by
    simp [ofList, Option.isSome_iff_ne_none]
  by_cases hmem : name ∈ names
  · simp [hseen, hmem]
  rw [if_neg (mt hseen.mp hmem)]
  cases hscreen : screen? name with
  | some screen =>
    have hsome : (screen? name).isSome := by rw [hscreen]; rfl
    have hcounted := not_counted_of_screen hsome
    obtain ⟨hdark, hstate⟩ := List.ne_and_not_mem_of_not_mem_cons hcounted
    by_cases hnone : names.filterMap screen? = []
    · have hfind : names.findSome? screen? = none :=
        List.findSome?_eq_none_iff.mpr (List.filterMap_eq_nil_iff.mp hnone)
      simp [ofList, hmem, hnone, hfind, hstate, hdark, eq_comm]
    · simp [hmedia, hnone]
  | none =>
    by_cases hstate : name ∈ stateVariants
    · have hdark : name ≠ "dark" := by
        rintro rfl
        exact absurd hstate (by decide)
      simp [ofList, countedVariants, hmem, hdark, hstate, eq_comm]
    · by_cases hdark : name = "dark"
      · subst hdark
        simp [ofList, countedVariants, hmem, hstate, eq_comm]
      · simp [countedVariants, hdark, hstate]

end Variants

theorem admissible_snoc {names : List String} {name : String} :
    Admissible (names ++ [name]) ↔
      Admissible names ∧ name ∉ names ∧ ((screen? name).isSome ∨ name ∈ countedVariants) ∧
        ((screen? name).isSome → names.filterMap screen? = []) := by
  have hscreens : ((names ++ [name]).filterMap screen?).length ≤ 1 ↔
      (names.filterMap screen?).length ≤ 1 ∧ ((screen? name).isSome → names.filterMap screen? = []) := by
    rw [List.filterMap_append, List.length_append, ← List.length_eq_zero_iff]
    cases hscreen : screen? name with
    | none => simp [hscreen]
    | some screen =>
      rw [List.filterMap_cons_some hscreen, List.filterMap_nil, List.length_singleton]
      simp only [Option.isSome_some, true_imp_iff]
      omega
  constructor
  · rintro ⟨hnodup, hknown, hone⟩
    obtain ⟨hmem, hnodup⟩ := List.nodup_cons.mp (List.nodup_append_comm.mp hnodup)
    obtain ⟨hknown, hname⟩ := List.forall_mem_append.mp hknown
    obtain ⟨hone, hscreen⟩ := hscreens.mp hone
    exact ⟨⟨hnodup, hknown, hone⟩, hmem, hname name (List.mem_singleton_self name), hscreen⟩
  · rintro ⟨⟨hnodup, hknown, hone⟩, hmem, hname, hscreen⟩
    exact ⟨List.nodup_append_comm.mpr (List.nodup_cons.mpr ⟨hmem, hnodup⟩),
      List.forall_mem_append.mpr ⟨hknown, List.forall_mem_singleton.mpr hname⟩,
      hscreens.mpr ⟨hone, hscreen⟩⟩

/-- Variants are accepted if they are admissible, and what is carried along in the end is what they ask for
together. -/
theorem foldlM_add? {names : List String} {v : Variants} :
    names.foldlM Variants.add? {} = some v ↔ Admissible names ∧ v = Variants.ofList names := by
  -- from the right: what the last variant adds depends on all those before it
  induction names using List.reverseRec generalizing v with
  | nil =>
    have hnil : Admissible [] := ⟨List.nodup_nil, nofun, Nat.zero_le 1⟩
    simp [hnil, Variants.ofList, eq_comm]
  | append_singleton names name ih =>
    have hlast (w : Variants) : [name].foldlM Variants.add? w = w.add? name := by simp
    rw [List.foldlM_append, admissible_snoc, and_assoc, Option.bind_eq_bind, Option.bind_eq_some_iff]
    simp only [hlast, ih]
    constructor
    · rintro ⟨w, ⟨hnames, rfl⟩, hadd⟩
      exact ⟨hnames, Variants.add?_ofList.mp hadd⟩
    · rintro ⟨hnames, hadd⟩
      exact ⟨_, ⟨hnames, rfl⟩, Variants.add?_ofList.mpr hadd⟩

theorem countP_counted (names : List String) :
    names.countP (· ∈ countedVariants) = names.countP (· ∈ stateVariants) + names.countP (· = "dark") := by
  induction names with
  | nil => rfl
  | cons name names ih =>
    have hone : (if name ∈ countedVariants then 1 else 0) =
        (if name ∈ stateVariants then 1 else 0) + if name = "dark" then 1 else 0 := by
      by_cases hdark : name = "dark"
      · subst hdark
        decide
      · simp [countedVariants, hdark]
    simp only [List.countP_cons, decide_eq_true_eq]
    omega

/-- The number of states that variants ask for. -/
theorem stateCount_ofList {names : List String} (h : names.Nodup) :
    (Variants.ofList names).stateCount = names.countP (· ∈ countedVariants) := by
  have hdark : (if "dark" ∈ names then 1 else 0) = names.countP (· = "dark") := by
    rw [← h.count, List.count_eq_countP]
    exact List.countP_congr fun name _ => by simp
  rw [countP_counted, ← hdark, List.countP_eq_length_filter]
  simp [Variants.stateCount, Variants.ofList]

/-! ## Rules -/

/-- The variants of a token. -/
def variantsOf (token : String) : List String :=
  ((splitOn (· = ':') token.toList).dropLast).map String.ofList

/-- What stands behind the variants of a token. -/
def utilityOf (token : String) : List Char := ((splitOn (· = ':') token.toList).getLast?).getD []

/-- Whether a utility is important, and the utility without the sign for that. -/
def splitImportant (utility : List Char) : Bool × List Char :=
  match utility with
  | '!' :: rest => (true, rest)
  | _ => (false, utility)

/-- The rule of a token whose variants ask for `v` and whose utility declares `ds`. -/
def ruleOf (token : String) (v : Variants) (ds : List Declaration) : Rule where
  token
  selector := selectorOf token v
  media := v.media.map Prod.snd
  declarations := if (splitImportant (utilityOf token)).1 then makeImportant ds else ds
  order := ((v.media.map Prod.fst).getD 0, v.stateCount)

/-- A token has a rule if it names a utility, its variants are admissible and the utility is known. -/
theorem rule?_eq_some {t : Theme} {token : String} {r : Rule} :
    t.rule? token = some r ↔
      utilityOf token ≠ [] ∧ Admissible (variantsOf token) ∧
        ∃ ds, declarations? t (splitImportant (utilityOf token)).2 = some ds ∧
          ruleOf token (.ofList (variantsOf token)) ds = r := by
  have hlast : (splitOn (· = ':') token.toList).getLast? = some (utilityOf token) := by
    rw [utilityOf, List.getLast?_eq_some_getLast (splitOn_ne_nil _ _)]
    rfl
  have hfold : ((splitOn (· = ':') token.toList).dropLast.foldlM
      (fun (v : Variants) p => v.add? (String.ofList p)) {}) = (variantsOf token).foldlM Variants.add? {} := by
    rw [variantsOf, List.foldlM_map]
  have hrule : t.rule? token =
      if (utilityOf token).isEmpty then none
      else
        ((variantsOf token).foldlM Variants.add? {}).bind fun v =>
          (declarations? t (splitImportant (utilityOf token)).2).map (ruleOf token v) := by
    unfold Theme.rule?
    simp only [Option.bind_eq_bind, hlast, Option.bind_some, hfold]
    split
    · rfl
    · exact Option.bind_congr fun v _ => (Option.map_eq_bind (f := ruleOf token v)).symm
  rw [hrule, Option.ite_none_left_eq_some, List.isEmpty_iff, Option.bind_eq_some_iff]
  simp only [foldlM_add?, Option.map_eq_some_iff]
  constructor
  · rintro ⟨hutility, v, ⟨hnames, rfl⟩, hds⟩
    exact ⟨hutility, hnames, hds⟩
  · rintro ⟨hutility, hnames, hds⟩
    exact ⟨hutility, _, ⟨hnames, rfl⟩, hds⟩

end DeckPress.Style
