import DeckPress.Proofs.Style.Collection
import DeckPress.Proofs.Text.Search

/-!
# Class attributes

A class attribute is read in two steps: what opens its value, up to the quote, and then the value, up to the
same quote. The search for attributes goes from one to the next without counting steps. What a text uses is
told by the values that it shows.
-/

namespace DeckPress.Style

open Text

/-! ## Opening a value -/

/-- The quote behind an equals sign, and what follows. -/
def readOpening? (s : List Char) : Option (Char × List Char) :=
  (stripPrefix? ['='] (trimStart s)).bind fun rest =>
    match trimStart rest with
    | '"' :: rest => some ('"', rest)
    | '\'' :: rest => some ('\'', rest)
    | _ => none

/-- What opens the value of a class attribute at the start of a text, and what follows. -/
def opening? (s : List Char) : Option (Char × List Char) :=
  ((stripPrefix? "class".toList s).bind readOpening?).or ((stripPrefix? "className".toList s).bind readOpening?)

/-- The same where `before` is the character in front of the text. -/
def openingAt? (before : Option Char) (s : List Char) : Option (Char × List Char) :=
  if before.any isWord then none else opening? s

theorem readValue?_eq (s : List Char) :
    readValue? s = (readOpening? s).bind fun found => splitAt? [found.1] found.2 := by
  unfold readValue? readOpening?
  rw [Option.bind_assoc]
  refine Option.bind_congr fun rest _ => ?_
  split <;> simp_all

theorem readOpening?_letter {c : Char} (hwhite : isWhite c = false) (hequals : c ≠ '=') (s : List Char) :
    readOpening? (c :: s) = none := by
  unfold readOpening? trimStart
  rw [List.dropWhile_cons_of_neg (by simp [hwhite]), stripPrefix?, if_neg hequals.symm]
  rfl

/-- The longer name is the shorter one and more. -/
theorem className_eq : "className".toList = "class".toList ++ "Name".toList := by decide

theorem readOpening?_name (s : List Char) : readOpening? ("Name".toList ++ s) = none :=
  readOpening?_letter (by decide) (by decide) _

/-- What stands behind the name: an equals sign, white space around it, and a quote. -/
theorem readOpening?_eq_some {s rest : List Char} {quote : Char} :
    readOpening? s = some (quote, rest) ↔
      (quote = '"' ∨ quote = '\'') ∧
        ∃ w w' : List Char, (∀ c ∈ w, isWhite c) ∧ (∀ c ∈ w', isWhite c) ∧
        s = w ++ '=' :: (w' ++ quote :: rest) := by
  have hread (s : List Char) : (match s with
      | '"' :: rest => some ('"', rest)
      | '\'' :: rest => some ('\'', rest)
      | _ => none) = some (quote, rest) ↔ (quote = '"' ∨ quote = '\'') ∧ s = quote :: rest := by
    split
    · grind
    · grind
    · rename_i hdouble hsingle
      refine iff_of_false (fun h => nomatch h) ?_
      rintro ⟨rfl | rfl, rfl⟩
      · exact hdouble _ rfl
      · exact hsingle _ rfl
  have htrim {x : Char} (hx : isWhite x = false) {t more : List Char} :
      trimStart t = x :: more ↔ ∃ w : List Char, (∀ c ∈ w, isWhite c) ∧ t = w ++ x :: more := by
    constructor
    · intro h
      refine ⟨t.takeWhile isWhite, fun c hc => List.mem_takeWhile_imp hc, ?_⟩
      rw [← h]
      exact List.takeWhile_append_dropWhile.symm
    · rintro ⟨w, hw, rfl⟩
      rw [trimStart, List.dropWhile_append_of_pos hw, List.dropWhile_cons_of_neg (by simp [hx])]
  have hsign (t more : List Char) : stripPrefix? ['='] t = some more ↔ t = '=' :: more :=
    ⟨eq_append_of_stripPrefix?, fun h => by rw [h, stripPrefix?, if_pos rfl, stripPrefix?]⟩
  unfold readOpening?
  rw [Option.bind_eq_some_iff]
  constructor
  · rintro ⟨more, hmore, h⟩
    obtain ⟨w, hw, rfl⟩ := (htrim (by decide)).mp ((hsign _ _).mp hmore)
    obtain ⟨hquote, h⟩ := (hread _).mp h
    obtain ⟨w', hw', rfl⟩ := (htrim (by rcases hquote with rfl | rfl <;> decide)).mp h
    exact ⟨hquote, w, w', hw, hw', rfl⟩
  · rintro ⟨hquote, w, w', hw, hw', rfl⟩
    refine ⟨w' ++ quote :: rest, (hsign _ _).mpr ((htrim (by decide)).mpr ⟨w, hw, rfl⟩),
      (hread _).mpr ⟨hquote, ?_⟩⟩
    exact (htrim (by rcases hquote with rfl | rfl <;> decide)).mpr ⟨w', hw', rfl⟩

/-- A text that opens the value of a class attribute. -/
structure Opens (quote : Char) (front : List Char) : Prop where
  quotes : quote = '"' ∨ quote = '\''
  reads : ∃ name ∈ ["class", "className"],
    ∃ w w' : List Char, (∀ c ∈ w, isWhite c) ∧ (∀ c ∈ w', isWhite c) ∧
    front = name.toList ++ (w ++ '=' :: (w' ++ [quote]))

theorem opening?_eq_some {s rest : List Char} {quote : Char} :
    opening? s = some (quote, rest) ↔ ∃ front, Opens quote front ∧ s = front ++ rest := by
  have hname {name : String} (hname : name ∈ ["class", "className"])
      (h : (stripPrefix? name.toList s).bind readOpening? = some (quote, rest)) :
      ∃ front, Opens quote front ∧ s = front ++ rest := by
    obtain ⟨behind, hbehind, h⟩ := Option.bind_eq_some_iff.mp h
    obtain ⟨hquote, w, w', hw, hw', rfl⟩ := readOpening?_eq_some.mp h
    refine ⟨_, ⟨hquote, name, hname, w, w', hw, hw', rfl⟩, ?_⟩
    rw [eq_append_of_stripPrefix? hbehind]
    simp
  constructor
  · intro h
    rcases Option.or_eq_some_iff.mp h with h | ⟨-, h⟩
    · exact hname (by decide) h
    · exact hname (by decide) h
  · rintro ⟨front, ⟨hquote, name, hmem, w, w', hw, hw', rfl⟩, rfl⟩
    have hread : readOpening? (w ++ '=' :: (w' ++ quote :: rest)) = some (quote, rest) :=
      readOpening?_eq_some.mpr ⟨hquote, w, w', hw, hw', rfl⟩
    have htext (name : List Char) : name ++ (w ++ '=' :: (w' ++ [quote])) ++ rest =
        name ++ (w ++ '=' :: (w' ++ quote :: rest)) := by simp
    rw [htext]
    unfold opening?
    simp only [List.mem_cons, List.not_mem_nil, or_false] at hmem
    rcases hmem with rfl | rfl
    · rw [stripPrefix?_append, Option.bind_some, hread, Option.some_or]
    · rw [stripPrefix?_append, className_eq, List.append_assoc, stripPrefix?_append, Option.bind_some,
        Option.bind_some, readOpening?_name, hread, Option.none_or]

/-- Where a value is opened behind the shorter name, the longer one does not stand. -/
theorem not_className {rest : List Char} (h : (readOpening? rest).isSome) :
    stripPrefix? "className".toList ("class".toList ++ rest) = none := by
  rw [stripPrefix?_eq_none, className_eq, List.prefix_append_right_inj]
  rintro ⟨more, rfl⟩
  rw [readOpening?_name] at h
  cases h

/-- An attribute is opened, and then its value is read. -/
theorem readClassAttribute?_eq (s : List Char) :
    readClassAttribute? s = (opening? s).bind fun found => splitAt? [found.1] found.2 := by
  have hread (name : List Char) : (stripPrefix? name s).bind readValue? =
      ((stripPrefix? name s).bind readOpening?).bind fun found => splitAt? [found.1] found.2 := by
    rw [Option.bind_assoc]
    exact Option.bind_congr fun rest _ => readValue?_eq rest
  have hboth : readClassAttribute? s =
      ((stripPrefix? "class".toList s).bind readValue?).or
        ((stripPrefix? "className".toList s).bind readValue?) := by
    unfold readClassAttribute?
    simp only [List.findSome?_cons, List.findSome?_nil]
    cases (stripPrefix? "class".toList s).bind readValue? <;>
      cases (stripPrefix? "className".toList s).bind readValue? <;> rfl
  rw [hboth, hread, hread, opening?]
  cases hclass : (stripPrefix? "class".toList s).bind readOpening? with
  | none => rw [Option.bind_none, Option.none_or, Option.none_or]
  | some found =>
    obtain ⟨rest, hrest, hfound⟩ := Option.bind_eq_some_iff.mp hclass
    rw [eq_append_of_stripPrefix? hrest, not_className (by rw [hfound]; rfl), Option.bind_none, Option.bind_none,
      Option.or_none, Option.or_none]

/-! ## Going from attribute to attribute -/

theorem Opens.ne_nil {quote : Char} {front : List Char} (h : Opens quote front) : front ≠ [] := by
  obtain ⟨-, name, -, w, w', -, -, rfl⟩ := h
  simp

theorem opening?_length {s rest : List Char} {quote : Char} (h : opening? s = some (quote, rest)) :
    rest.length < s.length := by
  obtain ⟨front, hopens, rfl⟩ := opening?_eq_some.mp h
  rw [List.length_append]
  exact Nat.lt_add_of_pos_left (List.length_pos_of_ne_nil hopens.ne_nil)

/-- The value of an attribute that is read at some place, and what follows it. -/
def valueAt? (before : Option Char) (s : List Char) : Option (List Char × List Char) :=
  (openingAt? before s).bind fun found => splitAt? [found.1] found.2

theorem valueAt?_length {before : Option Char} {s value rest : List Char}
    (h : valueAt? before s = some (value, rest)) :
    rest.length < s.length := by
  obtain ⟨⟨quote, behind⟩, hopening, hsplit⟩ := Option.bind_eq_some_iff.mp h
  unfold openingAt? at hopening
  split at hopening
  · cases hopening
  · have hshorter := opening?_length hopening
    have hvalue := congrArg List.length (eq_append_of_splitAt? hsplit)
    simp only [List.length_append, List.length_cons] at hvalue
    omega

theorem classValues_go_cons (fuel : Nat) (before : Option Char) (c : Char) (cs : List Char) :
    classValues.go (fuel + 1) before (c :: cs) =
      match valueAt? before (c :: cs) with
      | some (value, rest) => value :: classValues.go fuel (some '"') rest
      | none => classValues.go fuel (some c) cs := by
  have hfound : (if before.any isWord then none else readClassAttribute? (c :: cs)) = valueAt? before (c :: cs) := by
    rw [valueAt?, openingAt?]
    split
    · rfl
    · exact readClassAttribute?_eq (c :: cs)
  show (match (if before.any isWord then none else readClassAttribute? (c :: cs)) with
    | some (value, rest) => value :: classValues.go fuel (some '"') rest
    | none => classValues.go fuel (some c) cs) = _
  rw [hfound]

/-- The number of steps is only a bound. -/
theorem classValues_go_eq {s : List Char} {fuel fuel' : Nat} (h : s.length ≤ fuel) (h' : s.length ≤ fuel')
    (before : Option Char) : classValues.go fuel before s = classValues.go fuel' before s := by
  induction fuel generalizing s fuel' before with
  | zero =>
    cases List.eq_nil_of_length_eq_zero (Nat.le_zero.mp h)
    cases fuel' <;> rfl
  | succ fuel ih =>
    cases s with
    | nil => cases fuel' <;> rfl
    | cons c s =>
      obtain ⟨fuel', rfl⟩ := Nat.exists_eq_add_one_of_ne_zero (Nat.ne_zero_of_lt h')
      rw [classValues_go_cons, classValues_go_cons]
      cases hvalue : valueAt? before (c :: s) with
      | none => exact ih (Nat.le_of_succ_le_succ h) (Nat.le_of_succ_le_succ h') (some c)
      | some found =>
        have hshorter := @valueAt?_length _ _ found.1 found.2 hvalue
        exact congrArg _ (ih (Nat.le_of_lt_succ (hshorter.trans_le h)) (Nat.le_of_lt_succ (hshorter.trans_le h')) _)

theorem classValues_nil (before : Option Char) : classValues before [] = [] := rfl

theorem classValues_cons (before : Option Char) (c : Char) (cs : List Char) :
    classValues before (c :: cs) =
      match valueAt? before (c :: cs) with
      | some (value, rest) => value :: classValues (some '"') rest
      | none => classValues (some c) cs := by
  unfold classValues
  rw [List.length_cons, classValues_go_cons]
  cases hvalue : valueAt? before (c :: cs) with
  | none => rfl
  | some found =>
    have hshorter := @valueAt?_length _ _ found.1 found.2 hvalue
    exact congrArg _ (classValues_go_eq (Nat.le_of_lt_succ hshorter) (Nat.le_refl _) _)

/-! ## Tokens -/

theorem mem_tokensIn {t : Theme} {code token : String} :
    token ∈ t.tokensIn code ↔
      (∃ value ∈ classValues none code.toList, token ∈ candidates value) ∧ (t.rule? token).isSome := by
  rw [Theme.tokensIn, TokenSet.mem_ofList, List.mem_filter, List.mem_flatMap]

theorem TokenSet.pairwise_insert (token : String) {tokens : TokenSet} (h : tokens.Pairwise (· < ·)) :
    (TokenSet.insert token tokens).Pairwise (· < ·) := by
  induction tokens with
  | nil => exact List.pairwise_singleton _ _
  | cons t ts ih =>
    obtain ⟨hfirst, hrest⟩ := List.pairwise_cons.mp h
    unfold TokenSet.insert
    split
    · rename_i hless
      refine .cons (fun other hother => ?_) h
      rcases List.mem_cons.mp hother with rfl | hother
      · exact hless
      · exact hless.trans (hfirst other hother)
    · split
      · exact h
      · rename_i hless hne
        refine .cons (fun other hother => ?_) (ih hrest)
        rcases (TokenSet.mem_insert token other ts).mp hother with rfl | hother
        · exact lt_of_le_of_ne (not_lt.mp hless) (Ne.symm hne)
        · exact hfirst other hother

theorem pairwise_tokensIn (t : Theme) (code : String) : (t.tokensIn code).Pairwise (· < ·) := by
  unfold Theme.tokensIn TokenSet.ofList
  generalize ((classValues none code.toList).flatMap candidates).filter _ = tokens
  suffices h : ∀ found : TokenSet, found.Pairwise (· < ·) →
      (tokens.foldl (fun acc t => TokenSet.insert t acc) found).Pairwise (· < ·) from h [] .nil
  induction tokens with
  | nil => exact fun _ h => h
  | cons token tokens ih => exact fun found h => ih _ (TokenSet.pairwise_insert token h)

theorem tokensIn_ext {t : Theme} {code code' : String} :
    t.tokensIn code = t.tokensIn code' ↔ ∀ token, token ∈ t.tokensIn code ↔ token ∈ t.tokensIn code' :=
  ⟨fun h token => by rw [h], fun h =>
    List.Pairwise.eq_of_mem_iff (pairwise_tokensIn t code) (pairwise_tokensIn t code') fun {token} => h token⟩

end DeckPress.Style
