import Mathlib.Data.List.Perm.Basic
import DeckPress.Proofs.Style.Variants

/-!
# The order of variants

What the variants of a token ask for was said of all of them together, so that only the selector can tell their
order. Variants that are accepted are different from each other and of a finite vocabulary, which bounds the
number of states that are counted on the way, however long a token is.
-/

namespace DeckPress.Style

open Text

/-- A token: variants in front of a utility, with a colon behind each of them. -/
def tokenOf (names : List String) (utility : String) : String := String.join (names.map (· ++ ":")) ++ utility

/-- What a rule does apart from its selector: where it holds, what it declares, and its place in the order. -/
def Rule.effect (r : Rule) : Option String × List Declaration × (Nat × Nat) := (r.media, r.declarations, r.order)

/-- The names of the variants that ask for a screen width. -/
def screenVariants : List String := breakpoints.map Prod.fst

/-! ## Tokens and their parts -/

theorem toList_tokenOf_cons (name : String) (names : List String) (utility : String) :
    (tokenOf (name :: names) utility).toList = name.toList ++ ':' :: (tokenOf names utility).toList := by
  simp [tokenOf]

theorem tokenOf_nil (utility : String) : tokenOf [] utility = utility := String.empty_append

theorem splitOn_tokenOf {names : List String} (h : ∀ name ∈ names, ':' ∉ name.toList) (utility : String) :
    splitOn (· = ':') (tokenOf names utility).toList =
      names.map String.toList ++ splitOn (· = ':') utility.toList := by
  induction names with
  | nil => rw [tokenOf_nil, List.map_nil, List.nil_append]
  | cons name names ih =>
    obtain ⟨hname, hnames⟩ := List.forall_mem_cons.mp h
    rw [toList_tokenOf_cons, splitOn_append_cons (by simp), splitOn_char_of_not_mem hname, ih hnames]
    rfl

theorem variantsOf_tokenOf {names : List String} (h : ∀ name ∈ names, ':' ∉ name.toList) (utility : String) :
    variantsOf (tokenOf names utility) = names ++ variantsOf utility := by
  unfold variantsOf
  rw [splitOn_tokenOf h, List.dropLast_append_of_ne_nil (splitOn_ne_nil _ _), List.map_append, List.map_map]
  simp [Function.comp_def]

theorem utilityOf_tokenOf {names : List String} (h : ∀ name ∈ names, ':' ∉ name.toList) (utility : String) :
    utilityOf (tokenOf names utility) = utilityOf utility := by
  unfold utilityOf
  rw [splitOn_tokenOf h, List.getLast?_append_of_ne_nil _ (splitOn_ne_nil _ _)]

/-! ## Variants in another order -/

theorem screen?_isSome_iff {name : String} : (screen? name).isSome ↔ name ∈ screenVariants := by
  constructor
  · exact forall_screen? fun name hname => hname
  · have hall : ∀ name ∈ screenVariants, (screen? name).isSome := by decide
    exact hall name

theorem Admissible.perm {names names' : List String} (h : Admissible names) (hperm : names.Perm names') :
    Admissible names' where
  nodup := hperm.nodup_iff.mp h.nodup
  known name hname := h.known name (hperm.mem_iff.mpr hname)
  oneScreen := by
    rw [← (hperm.filterMap screen?).length_eq]
    exact h.oneScreen

/-- Of variants that may stand together, the screen width does not depend on their order. -/
theorem Admissible.media_perm {names names' : List String} (h : Admissible names) (hperm : names.Perm names') :
    names.findSome? screen? = names'.findSome? screen? := by
  have hscreens := hperm.filterMap screen?
  have hone := h.oneScreen
  rw [← List.head?_filterMap, ← List.head?_filterMap]
  -- at most one width is there, and a list of at most one element has no other order
  rcases hfirst : names.filterMap screen? with _ | ⟨screen, _ | ⟨other, rest⟩⟩
  · rw [hfirst] at hscreens
    rw [hscreens.symm.eq_nil]
  · rw [hfirst] at hscreens
    rw [List.singleton_perm.mp hscreens]
  · rw [hfirst] at hone
    simp at hone

theorem Admissible.stateCount_perm {names names' : List String} (h : Admissible names)
    (hperm : names.Perm names') :
    (Variants.ofList names).stateCount = (Variants.ofList names').stateCount := by
  rw [stateCount_ofList h.nodup, stateCount_ofList (h.perm hperm).nodup]
  exact hperm.countP_eq _

/-- A token has a rule in the one order if it has one in the other, and both rules have the same effect. -/
theorem effect_tokenOf_perm {t : Theme} {utility : String} {names names' : List String}
    (hcolon : ∀ name ∈ names, ':' ∉ name.toList) (hperm : names.Perm names') {r : Rule}
    (h : t.rule? (tokenOf names utility) = some r) :
    ∃ r', t.rule? (tokenOf names' utility) = some r' ∧ r'.effect = r.effect := by
  have hcolon' : ∀ name ∈ names', ':' ∉ name.toList := fun name hname => hcolon name (hperm.mem_iff.mpr hname)
  obtain ⟨hutility, hnames, ds, hds, rfl⟩ := rule?_eq_some.mp h
  rw [utilityOf_tokenOf hcolon] at hutility hds
  rw [variantsOf_tokenOf hcolon] at hnames
  have hall : (names ++ variantsOf utility).Perm (names' ++ variantsOf utility) := hperm.append_right _
  refine ⟨ruleOf (tokenOf names' utility) (.ofList (variantsOf (tokenOf names' utility))) ds,
    rule?_eq_some.mpr ⟨?_, ?_, ds, ?_, rfl⟩, ?_⟩
  · rwa [utilityOf_tokenOf hcolon']
  · rw [variantsOf_tokenOf hcolon']
    exact hnames.perm hall
  · rwa [utilityOf_tokenOf hcolon']
  · have hmedia : (Variants.ofList (names ++ variantsOf utility)).media =
        (Variants.ofList (names' ++ variantsOf utility)).media := hnames.media_perm hall
    simp only [Rule.effect, ruleOf, utilityOf_tokenOf hcolon, utilityOf_tokenOf hcolon',
      variantsOf_tokenOf hcolon, variantsOf_tokenOf hcolon', hmedia, hnames.stateCount_perm hall]

/-! ## Variants that are refused -/

theorem length_filterMap_screen? (names : List String) :
    (names.filterMap screen?).length = names.countP (· ∈ screenVariants) := by
  rw [List.length_filterMap_eq_countP]
  exact List.countP_congr fun name _ => by rw [decide_eq_true_eq]; exact screen?_isSome_iff

/-- Variants are refused if one is repeated or unknown, or if two of them are screen widths. -/
theorem not_admissible {names rest : List String}
    (h : ¬ names.Nodup ∨ (∃ name ∈ names, name ∉ screenVariants ∧ name ∉ countedVariants) ∨
      2 ≤ names.countP (· ∈ screenVariants)) : ¬ Admissible (names ++ rest) := by
  intro hall
  rcases h with hrepeated | ⟨name, hname, hscreen, hcounted⟩ | htwo
  · exact hrepeated (List.nodup_append.mp hall.nodup).1
  · rcases hall.known name (List.mem_append_left rest hname) with h | h
    · exact hscreen (screen?_isSome_iff.mp h)
    · exact hcounted h
  · have hone := hall.oneScreen
    rw [length_filterMap_screen?, List.countP_append] at hone
    omega

/-- No more states are counted than there are. -/
theorem stateCount_le {names : List String} (h : names.Nodup) :
    (Variants.ofList names).stateCount ≤ countedVariants.length := by
  rw [stateCount_ofList h, List.countP_eq_length_filter]
  refine (List.subperm_of_subset (h.filter _) fun name hname => ?_).length_le
  simpa using (List.mem_filter.mp hname).2

/-! ## Tokens -/

/-- The order of variants matters neither to whether a token has a rule nor to what the rule does. A token has
none if a variant is repeated or unknown, or if two are screen widths. And at every moment while the variants of
a token are read, at most six states have been counted. -/
theorem variants_in_any_order (t : Theme) (utility : String) {names names' : List String}
    (hcolon : ∀ name ∈ names, ':' ∉ name.toList) (hperm : names.Perm names') :
    (t.rule? (tokenOf names utility)).map Rule.effect = (t.rule? (tokenOf names' utility)).map Rule.effect ∧
    (¬ names.Nodup ∨ (∃ name ∈ names, name ∉ screenVariants ∧ name ∉ countedVariants) ∨
        2 ≤ names.countP (· ∈ screenVariants) → t.rule? (tokenOf names utility) = none) ∧
    ∀ token front v, front <+: variantsOf token →
      front.foldlM Variants.add? {} = some v → v.stateCount ≤ 6 := by
  refine ⟨?_, fun hrefused => ?_, fun token front v _ hv => ?_⟩
  · have hcolon' : ∀ name ∈ names', ':' ∉ name.toList :=
      fun name hname => hcolon name (hperm.mem_iff.mpr hname)
    cases hrule : t.rule? (tokenOf names utility) with
    | some r =>
      obtain ⟨r', hr', heffect⟩ := effect_tokenOf_perm hcolon hperm hrule
      rw [hr', Option.map_some, Option.map_some, heffect]
    | none =>
      cases hrule' : t.rule? (tokenOf names' utility) with
      | none => rfl
      | some r' =>
        obtain ⟨r, hr, -⟩ := effect_tokenOf_perm hcolon' hperm.symm hrule'
        rw [hrule] at hr
        cases hr
  · rw [Option.eq_none_iff_forall_ne_some]
    intro r hr
    obtain ⟨-, hnames, -⟩ := rule?_eq_some.mp hr
    rw [variantsOf_tokenOf hcolon] at hnames
    exact not_admissible hrefused hnames
  · obtain ⟨hnames, rfl⟩ := foldlM_add?.mp hv
    exact stateCount_le hnames.nodup

/-- All six states with a screen width, in one order and in another; and a token with one of them twice. -/
theorem variants_in_any_order_six :
    (({} : Theme).rule? "md:dark:hover:focus:active:visited:disabled:-mt-2").map Rule.effect =
        some (some "(min-width: 768px)", [⟨"margin-top", "-0.5rem"⟩], (2, 6)) ∧
      (({} : Theme).rule? "disabled:visited:active:focus:hover:dark:md:-mt-2").map Rule.effect =
        (({} : Theme).rule? "md:dark:hover:focus:active:visited:disabled:-mt-2").map Rule.effect ∧
      ({} : Theme).rule? "hover:md:hover:-mt-2" = none := by
  have hreversed : (["md", "dark", "hover", "focus", "active", "visited", "disabled"] : List String).Perm
      ["disabled", "visited", "active", "focus", "hover", "dark", "md"] := by decide
  have hsix := variants_in_any_order {} "-mt-2" (by decide) hreversed
  have htwice := variants_in_any_order {} "-mt-2" (by decide) (List.Perm.refl ["hover", "md", "hover"])
  refine ⟨by decide +kernel, hsix.1.symm, htwice.2.1 (.inl (by decide))⟩

end DeckPress.Style
