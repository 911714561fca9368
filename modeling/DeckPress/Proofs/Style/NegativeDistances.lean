import Mathlib.Data.List.Forall2
import DeckPress.Proofs.Module.Id
import DeckPress.Proofs.Style.VariantOrder

/-!
# Distances with a sign

A minus sign in front of a utility is for the names that set a distance, and it goes in front of the value
that the name without it has. That value is a length for all names but those that end in `auto`, a keyword,
and those with a number too large for the format. Paddings, gaps and all other utilities have no sign.
-/

namespace DeckPress.Style

open Text

/-- Digits, at least one of them. -/
def Digits (s : List Char) : Prop := s ≠ [] ∧ ∀ c ∈ s, isAsciiDigit c

/-- A number without a sign, in positional notation. -/
inductive IsNumber : List Char → Prop
  | whole {digits : List Char} (h : Digits digits) : IsNumber digits
  | fraction {digits decimals : List Char} (h : Digits digits) (h' : Digits decimals) :
      IsNumber (digits ++ '.' :: decimals)

/-- A number of pixels or of font sizes. -/
def IsLength (value : String) : Prop :=
  ∃ number, IsNumber number ∧ (value = String.ofList number ++ "px" ∨ value = String.ofList number ++ "rem")

/-- A number that has a given sign. -/
inductive HasSign (negative : Bool) : Binary64 → Prop
  | finite (m : Nat) (e : Int) : HasSign negative (.finite negative m e)
  | infinite : HasSign negative (.infinite negative)

/-- What a name that may have a sign says about its distance. -/
def distance? (value : List Char) : Option String :=
  if value = "auto".toList then some "auto" else spacing? value

/-- Whether a name that sets a distance says a number of steps, within the format, or one pixel. -/
def namesLength (utility : List Char) : Bool :=
  match byStart? spacings utility with
  | some (_, _, value) =>
    value = ['0'] || value = ['p', 'x'] || (number? value).any fun n => (n.mul quarter).isFinite
  | none => false

/-- What stands behind the value of an important declaration, and of one that is not. -/
def importance (important : Bool) : String := if important then " !important" else ""

/-- The exclamation mark of an important utility. -/
def exclamation (important : Bool) : List Char := if important then ['!'] else []

/-- A token without the sign of its utility. -/
def unsigned (token : String) : String :=
  let (important, utility) := splitImportant (utilityOf token)
  tokenOf (variantsOf token) (String.ofList (exclamation important ++ utility.tail))

/-- A declaration made important or left as it is. -/
def Declaration.marked (important : Bool) (d : Declaration) : Declaration :=
  { d with value := d.value ++ importance important }

/-- One declaration gives a property a length, and the other gives it that length with a minus sign. -/
structure Negates (important : Bool) (d d' : Declaration) : Prop where
  property : d'.property = d.property
  value : d'.value = "-" ++ d.value
  length : ∃ length, IsLength length ∧ d.value = length ++ importance important

/-! ## Lengths -/

theorem digits_toDigits (n : Nat) : Digits (Nat.toDigits 10 n) :=
  ⟨Nat.toDigits_ne_nil, fun _ => isAsciiDigit_of_mem_toDigits⟩

theorem Digits.append_zeros {s : List Char} (h : Digits s) (n : Nat) : Digits (s ++ List.replicate n '0') := by
  refine ⟨List.append_ne_nil_of_left_ne_nil h.1 _, fun c hc => ?_⟩
  rcases List.mem_append.mp hc with hc | hc
  · exact h.2 c hc
  · rw [List.eq_of_mem_replicate hc]
    rfl

theorem isNumber_positional {ds : List Char} (h : Digits ds) (place : Int) :
    IsNumber (numberLayout.positional ds place) := by
  unfold FloatLayout.positional
  split
  · -- all digits stand behind the point
    refine .fraction (digits_toDigits 0) ⟨List.append_ne_nil_of_right_ne_nil _ h.1, fun c hc => ?_⟩
    rcases List.mem_append.mp hc with hc | hc
    · rw [List.eq_of_mem_replicate hc]
      rfl
    · exact h.2 c hc
  · rename_i hplace
    dsimp only
    split
    · have hwhole : numberLayout.wholeEnd.toList = [] := rfl
      rw [hwhole, List.append_nil]
      exact .whole (h.append_zeros _)
    · rename_i hlong
      refine .fraction ⟨?_, fun c hc => h.2 c (List.mem_of_mem_take hc)⟩
        ⟨?_, fun c hc => h.2 c (List.mem_of_mem_drop hc)⟩
      · rw [List.ne_nil_iff_length_pos, List.length_take]
        omega
      · rw [List.ne_nil_iff_length_pos, List.length_drop]
        omega

theorem isNumber_magnitude (m : Nat) (e : Int) : IsNumber (numberLayout.magnitude m e) := by
  unfold FloatLayout.magnitude
  split
  · exact .whole (digits_toDigits 0)
  · -- the layout has no exponents
    exact isNumber_positional (digits_toDigits _) _

theorem isLength_rem (m : Nat) (e : Int) : IsLength (numberLayout.render (.finite false m e) ++ "rem") :=
  ⟨_, isNumber_magnitude m e, .inr rfl⟩

/-- A length starts with a digit. -/
theorem IsLength.head {value : String} (h : IsLength value) : ∃ c ∈ value.toList.head?, isAsciiDigit c := by
  obtain ⟨number, hnumber, hvalue⟩ := h
  have hfirst : ∃ c rest, number = c :: rest ∧ isAsciiDigit c := by
    cases hnumber with
    | whole h =>
      obtain ⟨c, rest, rfl⟩ := List.exists_cons_of_ne_nil h.1
      exact ⟨c, rest, rfl, h.2 c List.mem_cons_self⟩
    | @fraction digits decimals h h' =>
      obtain ⟨c, rest, rfl⟩ := List.exists_cons_of_ne_nil h.1
      exact ⟨c, rest ++ '.' :: decimals, rfl, h.2 c List.mem_cons_self⟩
  obtain ⟨c, rest, rfl, hc⟩ := hfirst
  refine ⟨c, ?_, hc⟩
  rcases hvalue with rfl | rfl <;> simp

theorem not_isLength_auto : ¬ IsLength "auto" := by
  intro h
  obtain ⟨c, hc, hdigit⟩ := h.head
  cases Option.mem_some.mp hc
  cases hdigit

theorem not_isLength_infinite : ¬ IsLength (numberLayout.render (.infinite false) ++ "rem") := by
  intro h
  obtain ⟨c, hc, hdigit⟩ := h.head
  cases Option.mem_some.mp hc
  cases hdigit

/-! ## Numbers of steps -/

theorem hasSign_nearest (negative : Bool) (num den : Nat) : HasSign negative (.nearest negative num den) := by
  unfold Binary64.nearest
  split
  · exact .finite _ _
  · -- the parts are split where they are computed: unfolded, the bounds are too large to be compared
    extract_lets e
    split
    extract_lets m
    split
    split
    · exact .infinite
    · exact .finite _ _

theorem hasSign_toBinary64 (d : Decimal) : HasSign d.negative d.toBinary64 := by
  unfold Decimal.toBinary64
  extract_lets size
  split
  · exact .finite _ _
  split
  · exact .infinite
  split
  · exact hasSign_nearest _ _ _
  · exact hasSign_nearest _ _ _

theorem read?_sign {s : List Char} {d : Decimal} (h : Decimal.read? s = some d) :
    d.negative = (Decimal.splitSign s).1 := by
  unfold Decimal.read? at h
  dsimp only at h
  split at h
  all_goals
    obtain ⟨-, h⟩ := Option.ite_none_left_eq_some.mp h
    obtain ⟨e, -, rfl⟩ := Option.map_eq_some_iff.mp h
    rfl

/-- Digits are read as a number without a sign. -/
theorem hasSign_number? {s : List Char} {n : Binary64} (h : number? s = some n) : HasSign false n := by
  obtain ⟨hall, h⟩ := Option.ite_none_right_eq_some.mp h
  obtain ⟨d, hd, rfl⟩ := Option.map_eq_some_iff.mp h
  have hsign : d.negative = false := by
    rw [read?_sign hd]
    unfold Decimal.splitSign
    split
    · simp [isAsciiDigit] at hall
    · rfl
    · rfl
  rw [← hsign]
  exact hasSign_toBinary64 d

theorem HasSign.mul_quarter {n : Binary64} (h : HasSign false n) : HasSign false (n.mul quarter) := by
  have hquarter : quarter = .finite false (Nat.pow 2 52) (-54) := by decide
  rw [hquarter]
  cases h with
  | finite m e => exact hasSign_nearest false _ _
  | infinite => exact .infinite

/-- A number of steps is a length if it is within the format. -/
theorem isLength_steps_iff {n : Binary64} (h : HasSign false n) :
    IsLength (numberLayout.render (n.mul quarter) ++ "rem") ↔ (n.mul quarter).isFinite := by
  have hsign := h.mul_quarter
  generalize n.mul quarter = steps at hsign ⊢
  cases hsign with
  | finite m e => exact iff_of_true (isLength_rem m e) rfl
  | infinite => exact iff_of_false not_isLength_infinite Bool.false_ne_true

/-- The distance in a name is a length unless it is the keyword or a number too large for the format. -/
theorem isLength_distance?_iff {value : List Char} {v : String} (h : distance? value = some v) :
    IsLength v ↔ value = ['0'] ∨ value = ['p', 'x'] ∨
      ∃ n, number? value = some n ∧ (n.mul quarter).isFinite := by
  unfold distance? spacing? at h
  split at h
  · -- the keyword is neither of the fixed distances, and it has no digits
    rename_i hauto
    subst hauto
    cases h
    refine iff_of_false not_isLength_auto ?_
    rintro (h | h | ⟨n, hn, -⟩)
    · cases h
    · cases h
    · cases hn
  split at h
  · rename_i hzero
    cases h
    exact iff_of_true ⟨['0'], .whole (digits_toDigits 0), .inl rfl⟩ (.inl hzero)
  split at h
  · rename_i hpixel
    cases h
    exact iff_of_true ⟨['1'], .whole (digits_toDigits 1), .inl rfl⟩ (.inr (.inl hpixel))
  · rename_i hzero hpixel
    obtain ⟨n, hn, rfl⟩ := Option.map_eq_some_iff.mp h
    rw [isLength_steps_iff (hasSign_number? hn)]
    simp [hzero, hpixel, hn]

/-! ## Signs -/

/-- A distance with a sign has the value of the distance without it, behind a minus sign. -/
theorem spacingDeclarations?_sign {start : String} {properties : List String} {value : List Char}
    {ds : List Declaration} (h : spacingDeclarations? true start properties value = some ds) :
    ∃ v, distance? value = some v ∧ ds = properties.map (⟨·, "-" ++ v⟩) ∧
      spacingDeclarations? false start properties value = some (properties.map (⟨·, v⟩)) := by
  unfold spacingDeclarations? at h ⊢
  by_cases hsigned : (!start.startsWith "p" && !start.startsWith "gap") = true
  · simp only [hsigned, Bool.not_true, Bool.and_false, Bool.false_eq_true, if_false, Bool.true_and,
      decide_eq_true_eq, if_true] at h ⊢
    obtain ⟨v, hv, rfl⟩ := Option.map_eq_some_iff.mp h
    exact ⟨v, hv, rfl, by rw [hv]; rfl⟩
  · simp [hsigned] at h

theorem byStart?_properties {name : List Char} {start : String} {properties : List String} {value : List Char}
    (h : byStart? spacings name = some (start, properties, value)) : properties ≠ [] := by
  have hall : ∀ entry ∈ spacings, entry.2 ≠ [] := by decide
  obtain ⟨entry, hentry, hfound⟩ := List.exists_of_findSome?_eq_some h
  obtain ⟨v, -, hv⟩ := Option.map_eq_some_iff.mp hfound
  cases hv
  exact hall _ hentry

/-- The names that stand for fixed declarations neither have a sign nor set a distance. -/
theorem fixedUtilities_lookup {utility : List Char}
    (h : utility.head? = some '-' ∨ (byStart? spacings utility).isSome) :
    fixedUtilities.lookup (String.ofList utility) = none := by
  have hall : ∀ entry ∈ fixedUtilities,
      entry.1.toList.head? ≠ some '-' ∧ byStart? spacings entry.1.toList = none := by decide +kernel
  rw [List.lookup_eq_none_iff]
  intro entry hentry
  obtain ⟨hsign, hstart⟩ := hall entry hentry
  rw [bne_iff_ne]
  intro heq
  rw [← heq, String.toList_ofList] at hsign hstart
  rcases h with h | h
  · exact hsign h
  · rw [hstart] at h
    cases h

/-- A name that sets a distance has no sign. -/
theorem baseDeclarations?_distance (t : Theme) {name : List Char} {start : String} {properties : List String}
    {value : List Char} (h : byStart? spacings name = some (start, properties, value)) :
    baseDeclarations? t name = spacingDeclarations? false start properties value := by
  have hfixed : fixedUtilities.lookup (String.ofList name) = none :=
    fixedUtilities_lookup (.inr (by rw [h]; rfl))
  -- no start of a distance begins with the sign, so the name is looked up as it stands
  have hsign : ∀ rest, name ≠ '-' :: rest := by
    rintro rest rfl
    cases h
  simp [baseDeclarations?, hfixed, h]

theorem baseDeclarations?_minus (t : Theme) (name : List Char) :
    baseDeclarations? t ('-' :: name) = (byStart? spacings name).bind fun (start, properties, value) =>
      spacingDeclarations? true start properties value := by
  unfold baseDeclarations?
  rw [fixedUtilities_lookup (.inl rfl)]
  change (match byStart? spacings name with
    | some (start, properties, value) => spacingDeclarations? true start properties value
    | none => none) = _
  cases byStart? spacings name <;> rfl

/-- A name with a sign has declarations only if it sets a distance, and the name without the sign then has the
same, but for the minus sign in front of the value. -/
theorem baseDeclarations?_sign {t : Theme} {name : List Char} {ds : List Declaration}
    (h : baseDeclarations? t ('-' :: name) = some ds) :
    ∃ start properties value v, byStart? spacings name = some (start, properties, value) ∧
      distance? value = some v ∧ ds = properties.map (⟨·, "-" ++ v⟩) ∧
      baseDeclarations? t name = some (properties.map (⟨·, v⟩)) := by
  rw [baseDeclarations?_minus] at h
  obtain ⟨⟨start, properties, value⟩, hstart, hds⟩ := Option.bind_eq_some_iff.mp h
  obtain ⟨v, hv, hds, hunsigned⟩ := spacingDeclarations?_sign hds
  exact ⟨start, properties, value, v, hstart, hv, hds, by rw [baseDeclarations?_distance t hstart, hunsigned]⟩

theorem namesLength_iff {name : List Char} {start : String} {properties : List String} {value : List Char}
    {v : String} (hstart : byStart? spacings name = some (start, properties, value))
    (hv : distance? value = some v) : namesLength name ↔ IsLength v := by
  rw [isLength_distance?_iff hv]
  simp [namesLength, hstart, or_assoc, Option.any_eq_true]

/-! ## Tokens -/

theorem colon_not_mem_variantsOf {token name : String} (h : name ∈ variantsOf token) : ':' ∉ name.toList := by
  obtain ⟨piece, hpiece, rfl⟩ := List.mem_map.mp h
  intro hcolon
  rw [String.toList_ofList] at hcolon
  exact absurd (not_mem_of_mem_splitOn ((List.dropLast_sublist _).subset hpiece) hcolon) (by decide)

theorem colon_not_mem_utilityOf (token : String) : ':' ∉ utilityOf token := by
  intro hcolon
  have hlast : utilityOf token ∈ splitOn (· = ':') token.toList := by
    unfold utilityOf
    rw [List.getLast?_eq_some_getLast (splitOn_ne_nil _ _)]
    exact List.getLast_mem _
  exact absurd (not_mem_of_mem_splitOn hlast hcolon) (by decide)

theorem eq_of_splitImportant {utility name : List Char} {important : Bool}
    (h : splitImportant utility = (important, name)) : utility = exclamation important ++ name := by
  unfold splitImportant at h
  split at h
  all_goals
    cases h
    rfl

theorem splitImportant_exclamation (important : Bool) {name : List Char} (h : ∀ rest, name ≠ '!' :: rest) :
    splitImportant (exclamation important ++ name) = (important, name) := by
  cases important with
  | true => rfl
  | false =>
    unfold splitImportant
    split
    · rename_i rest hrest
      exact absurd hrest (h rest)
    · rfl

/-- The token without the sign has the same variants, and its utility is as important. -/
theorem unsigned_parts {token : String} {important : Bool} {name : List Char}
    (h : splitImportant (utilityOf token) = (important, '-' :: name)) :
    variantsOf (unsigned token) = variantsOf token ∧
      utilityOf (unsigned token) = exclamation important ++ name := by
  have hunsigned : unsigned token =
      tokenOf (variantsOf token) (String.ofList (exclamation important ++ name)) := by
    unfold unsigned
    rw [h]
    rfl
  have hcolon : ':' ∉ exclamation important ++ name := by
    have hutility := colon_not_mem_utilityOf token
    rw [eq_of_splitImportant h] at hutility
    simp only [List.mem_append, List.mem_cons, not_or] at hutility ⊢
    exact ⟨hutility.1, hutility.2.2⟩
  have hpieces : splitOn (· = ':') (String.ofList (exclamation important ++ name)).toList =
      [exclamation important ++ name] := by
    rw [String.toList_ofList, splitOn_char_of_not_mem hcolon]
  rw [hunsigned, variantsOf_tokenOf fun _ => colon_not_mem_variantsOf,
    utilityOf_tokenOf fun _ => colon_not_mem_variantsOf]
  constructor
  · have hnone : variantsOf (String.ofList (exclamation important ++ name)) = [] := by
      rw [variantsOf, hpieces]
      rfl
    rw [hnone, List.append_nil]
  · rw [utilityOf, hpieces]
    rfl

theorem ruleOf_declarations (token : String) (v : Variants) (ds : List Declaration) :
    (ruleOf token v ds).declarations = ds.map (Declaration.marked (splitImportant (utilityOf token)).1) := by
  unfold ruleOf
  cases (splitImportant (utilityOf token)).1 with
  | true => rfl
  | false =>
    have hid : Declaration.marked false = id := by
      funext d
      simp [Declaration.marked, importance]
    rw [hid, List.map_id]
    rfl

theorem negates_marked_iff {important : Bool} {d : Declaration} {property v : String} :
    Negates important (d.marked important) (Declaration.marked important ⟨property, "-" ++ v⟩) ↔
      d = ⟨property, v⟩ ∧ IsLength v := by
  obtain ⟨property', value'⟩ := d
  -- both values end alike and the second begins with the minus sign, so what is between them is the same
  constructor
  · rintro ⟨hproperty, hvalue, length, hlength, heq⟩
    simp only [Declaration.marked, String.append_assoc, String.append_right_inj, String.append_left_inj]
      at hproperty hvalue heq
    subst hproperty hvalue heq
    exact ⟨rfl, hlength⟩
  · rintro ⟨⟨⟩, hlength⟩
    exact ⟨rfl, String.append_assoc, v, hlength, rfl⟩

/-- Declarations are those of a distance with a sign exactly if they are those of the distance, and it is a
length. -/
theorem forall₂_negates_iff {important : Bool} {properties : List String} (hne : properties ≠ []) {v : String}
    {ds : List Declaration} :
    List.Forall₂ (Negates important) (ds.map (Declaration.marked important))
        ((properties.map (⟨·, "-" ++ v⟩)).map (Declaration.marked important)) ↔
      ds = properties.map (⟨·, v⟩) ∧ IsLength v := by
  rw [List.map_map, List.forall₂_map_left_iff, List.forall₂_map_right_iff]
  simp only [Function.comp_apply, negates_marked_iff]
  constructor
  · intro h
    have heach : List.Forall₂ (· = ·) ds (properties.map (⟨·, v⟩)) :=
      List.forall₂_map_right_iff.mpr (h.imp fun _ _ => And.left)
    rw [List.forall₂_eq_eq_eq] at heach
    refine ⟨heach, ?_⟩
    cases h with
    | nil => exact absurd rfl hne
    | cons hfirst _ => exact hfirst.2
  · rintro ⟨rfl, hlength⟩
    rw [List.forall₂_map_left_iff, List.forall₂_same]
    exact fun _ _ => ⟨rfl, hlength⟩

/-- The token without the sign has the rules that are made from the declarations of its name. -/
theorem exists_rule?_unsigned_iff {t : Theme} {token : String} {important : Bool} {name : List Char}
    (hvariants : Admissible (variantsOf token))
    (hutility : splitImportant (utilityOf token) = (important, '-' :: name))
    (hstart : (byStart? spacings name).isSome) {P : List Declaration → Prop} :
    (∃ r, t.rule? (unsigned token) = some r ∧ P r.declarations) ↔
      ∃ ds, declarations? t name = some ds ∧ P (ds.map (Declaration.marked important)) := by
  obtain ⟨hvariants', hutility'⟩ := unsigned_parts hutility
  have hexclamation : ∀ rest, name ≠ '!' :: rest := by
    rintro rest rfl
    cases hstart
  have hsplit : splitImportant (utilityOf (unsigned token)) = (important, name) := by
    rw [hutility', splitImportant_exclamation important hexclamation]
  have hne : utilityOf (unsigned token) ≠ [] := by
    rw [hutility']
    refine List.append_ne_nil_of_right_ne_nil _ ?_
    rintro rfl
    cases hstart
  have hmarked (v : Variants) (ds : List Declaration) :
      (ruleOf (unsigned token) v ds).declarations = ds.map (Declaration.marked important) := by
    rw [ruleOf_declarations, hsplit]
  simp only [rule?_eq_some, hvariants', hsplit]
  constructor
  · rintro ⟨r, ⟨-, -, ds, hds, rfl⟩, hP⟩
    rw [hmarked] at hP
    exact ⟨ds, hds, hP⟩
  · rintro ⟨ds, hds, hP⟩
    refine ⟨_, ⟨hne, hvariants, ds, hds, rfl⟩, ?_⟩
    rw [hmarked]
    exact hP

/-- A utility that is no shortcut and has a sign is the utility without the sign, negated, exactly if that names
a length and means in the configuration what it means by itself. -/
theorem sign_negates_iff (t : Theme) {token : String} {important : Bool} {name : List Char} {r : Rule}
    (hutility : splitImportant (utilityOf token) = (important, '-' :: name))
    (hshortcut : t.shortcuts.lookup (String.ofList ('-' :: name)) = none) (hrule : t.rule? token = some r) :
    (∃ r', t.rule? (unsigned token) = some r' ∧
        List.Forall₂ (Negates important) r'.declarations r.declarations) ↔
      namesLength name ∧ declarations? t name = baseDeclarations? t name := by
  obtain ⟨-, hvariants, ds, hds, rfl⟩ := rule?_eq_some.mp hrule
  rw [hutility] at hds
  -- the sign is looked at only where the utility is no shortcut
  have hbase : baseDeclarations? t ('-' :: name) = some ds := by
    rw [← hds, declarations?, hshortcut]
  obtain ⟨start, properties, value, v, hstart, hv, rfl, hunsigned⟩ := baseDeclarations?_sign hbase
  have hdistance : (byStart? spacings name).isSome := Option.isSome_iff_exists.mpr ⟨_, hstart⟩
  rw [ruleOf_declarations, hutility, hunsigned, namesLength_iff hstart hv,
    exists_rule?_unsigned_iff hvariants hutility hdistance (P := fun ds' => List.Forall₂ (Negates important) ds'
      ((properties.map (⟨·, "-" ++ v⟩)).map (Declaration.marked important)))]
  simp only [forall₂_negates_iff (byStart?_properties hstart)]
  constructor
  · rintro ⟨ds, hds, rfl, hlength⟩
    exact ⟨hlength, hds⟩
  · rintro ⟨hlength, hds⟩
    exact ⟨_, hds, rfl, hlength⟩

/-- A margin in steps, with a variant and important. -/
theorem sign_negates_margin :
    unsigned "hover:!-mx-2" = "hover:!mx-2" ∧
      ∃ r r', ({} : Theme).rule? "hover:!-mx-2" = some r ∧ ({} : Theme).rule? "hover:!mx-2" = some r' ∧
        List.Forall₂ (Negates true) r'.declarations r.declarations := by
  have htoken : unsigned "hover:!-mx-2" = "hover:!mx-2" := by decide
  have hutility : splitImportant (utilityOf "hover:!-mx-2") = (true, '-' :: "mx-2".toList) := by decide
  have hlength : namesLength "mx-2".toList := by decide
  have hsome : (({} : Theme).rule? "hover:!-mx-2").isSome := by decide +kernel
  obtain ⟨r, hr⟩ := Option.isSome_iff_exists.mp hsome
  obtain ⟨r', hr', hnegates⟩ := (sign_negates_iff {} hutility rfl hr).mpr ⟨hlength, rfl⟩
  rw [htoken] at hr'
  exact ⟨htoken, r, r', hr, hr', hnegates⟩

/-- The keyword for automatic margins is negated, although it is no length. -/
theorem auto_negated :
    unsigned "-m-auto" = "m-auto" ∧
      (({} : Theme).rule? "-m-auto").map Rule.declarations = some [⟨"margin", "-auto"⟩] ∧
      (({} : Theme).rule? "m-auto").map Rule.declarations = some [⟨"margin", "auto"⟩] ∧ ¬ IsLength "auto" :=
  ⟨by decide +kernel, by decide +kernel, by decide +kernel, not_isLength_auto⟩

end DeckPress.Style
