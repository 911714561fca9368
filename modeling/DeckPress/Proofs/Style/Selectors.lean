import DeckPress.Proofs.Style.Variants
import DeckPress.Text.CodeRange

/-!
# What selectors denote

A selector is read by the rules of CSS for names: what is neither a letter, a digit, a hyphen nor an underscore
is a part of a name behind a backslash only. The class that stands in the selector of a token then reads as the
token. The signs that are put around it for its variants belong to no name, so they are not taken for a part of
it, and no two tokens have the same selector.
-/

namespace DeckPress.Style

open Text

/-! ## Names in selectors -/

/-- The characters that stand in a name without a backslash. -/
def isNameChar (c : Char) : Bool := isAsciiAlnum c || c = '-' || c = '_' || 0x80 ≤ c.toNat

/-- The character of a code point. What is no character is read as the sign for that. -/
def charOfCode (code : Nat) : Char := if code = 0 || !code.isValidChar then '\ufffd' else Char.ofNat code

/-- Skips one space. -/
def skipSpace : List Char → List Char
  | ' ' :: s => s
  | s => s

theorem length_skipSpace_le (s : List Char) : (skipSpace s).length ≤ s.length := by
  unfold skipSpace
  split
  · exact Nat.le_succ _
  · exact Nat.le_refl _

/-- The name that a text starts with, and what follows it. A backslash and at most six hexadecimal digits are a
code point, with a space behind them that belongs to them; a backslash and any other character are that
character. -/
def readName : List Char → List Char × List Char
  | [] => ([], [])
  | [c] => if isNameChar c then ([c], []) else ([], [c])
  | c :: d :: s =>
    if c = '\\' then
      if isHexDigit d then
        let digits := (s.takeWhile isHexDigit).take 5
        (readName (skipSpace (s.drop digits.length))).map (charOfCode (hexValue (d :: digits)) :: ·) id
      else (readName s).map (d :: ·) id
    else if isNameChar c then (readName (d :: s)).map (c :: ·) id
    else ([], c :: d :: s)
termination_by s => s.length
decreasing_by
  · have hskip := length_skipSpace_le (s.drop ((s.takeWhile isHexDigit).take 5).length)
    have hdrop := (List.drop_sublist ((s.takeWhile isHexDigit).take 5).length s).length_le
    simp only [List.length_cons]
    omega
  · simp only [List.length_cons]
    omega
  · simp only [List.length_cons]
    omega

/-- What a name cannot go on with. -/
def StopsName (s : List Char) : Prop := ∀ c ∈ s.head?, isNameChar c = false ∧ c ≠ '\\'

theorem readName_stops {s : List Char} (h : StopsName s) : readName s = ([], s) := by
  match s with
  | [] => rw [readName]
  | [c] =>
    obtain ⟨hc, -⟩ := h c rfl
    rw [readName, if_neg (by simp [hc])]
  | c :: d :: s =>
    obtain ⟨hc, hslash⟩ := h c rfl
    rw [readName, if_neg hslash, if_neg (by simp [hc])]

theorem readName_plain {c : Char} (hc : isNameChar c) (s : List Char) :
    readName (c :: s) = (readName s).map (c :: ·) id := by
  have hslash : c ≠ '\\' := by
    rintro rfl
    exact absurd hc (by decide)
  cases s with
  | nil => simp [readName, hc]
  | cons d s => rw [readName, if_neg hslash, if_pos hc]

theorem readName_escaped {c : Char} (hc : isHexDigit c = false) (s : List Char) :
    readName ('\\' :: c :: s) = (readName s).map (c :: ·) id := by
  rw [readName, if_pos rfl, if_neg (by simp [hc])]

/-- A digit is read from its code point, which ends in the digit itself. -/
theorem readName_digit {c : Char} (hc : isAsciiDigit c) (s : List Char) :
    readName ('\\' :: '3' :: c :: ' ' :: s) = (readName s).map (c :: ·) id := by
  have hdigits : ∀ n < 10, isHexDigit (Char.ofNat (n + 48)) ∧
      charOfCode (hexValue ['3', Char.ofNat (n + 48)]) = Char.ofNat (n + 48) := by decide
  have hrange : 48 ≤ c.toNat ∧ c.toNat ≤ 57 := by
    simpa [isAsciiDigit, Char.le_def, UInt32.le_iff_toNat_le] using hc
  obtain ⟨hhex, hcode⟩ := hdigits (c.toNat - 48) (by omega)
  rw [Nat.sub_add_cancel hrange.1, Char.ofNat_toNat] at hhex hcode
  have hrun : ((c :: ' ' :: s).takeWhile isHexDigit).take 5 = [c] := by
    rw [List.takeWhile_cons_of_pos hhex, List.takeWhile_cons_of_neg (by decide)]
    rfl
  rw [readName, if_pos rfl, if_pos (by decide), hrun]
  show (readName s).map (charOfCode (hexValue ['3', c]) :: ·) id = _
  rw [hcode]

/-! ## The class of a token -/

/-- A character of a class behind the first one. -/
def escapeSign (c : Char) : List Char := if isAsciiAlnum c || c = '-' || c = '_' then [c] else ['\\', c]

theorem escapeSelector_cons (c : Char) (s : List Char) :
    escapeSelector (c :: s) =
      (if isAsciiDigit c then ['\\', '3', c, ' '] else escapeSign c) ++ s.flatMap escapeSign := rfl

theorem isAsciiAlnum_of_isHexDigit {c : Char} (h : isHexDigit c) : isAsciiAlnum c := by
  simp only [isHexDigit, isAsciiAlnum, isAsciiAlpha, isAsciiLower, isAsciiUpper, isAsciiDigit, Bool.or_eq_true,
    Bool.and_eq_true, decide_eq_true_eq, Char.le_def, UInt32.le_iff_toNat_le] at h ⊢
  rcases h with (hdigit | ⟨hlow, hhigh⟩) | ⟨hlow, hhigh⟩
  · exact .inr hdigit
  · exact .inl (.inl ⟨hlow, Nat.le_trans hhigh (by decide)⟩)
  · exact .inl (.inr ⟨hlow, Nat.le_trans hhigh (by decide)⟩)

theorem readName_escapeSign (c : Char) (s : List Char) :
    readName (escapeSign c ++ s) = (readName s).map (c :: ·) id := by
  unfold escapeSign
  split
  · rename_i hplain
    refine readName_plain ?_ s
    rw [isNameChar, hplain, Bool.true_or]
  · rename_i hsign
    refine readName_escaped ?_ s
    -- a hexadecimal digit would stand there without the backslash
    rw [Bool.eq_false_iff]
    intro hhex
    exact hsign (by rw [isAsciiAlnum_of_isHexDigit hhex, Bool.true_or, Bool.true_or])

/-- A class is read as the token that it was made of, up to what it cannot go on with. -/
theorem readName_escapeSelector (token : List Char) {rest : List Char} (h : StopsName rest) :
    readName (escapeSelector token ++ rest) = (token, rest) := by
  have hsigns : ∀ s : List Char, readName (s.flatMap escapeSign ++ rest) = (s, rest) := by
    intro s
    induction s with
    | nil => exact readName_stops h
    | cons c s ih =>
      rw [List.flatMap_cons, List.append_assoc, readName_escapeSign, ih]
      rfl
  cases token with
  | nil => exact readName_stops h
  | cons c s =>
    rw [escapeSelector_cons, List.append_assoc]
    split
    · rename_i hdigit
      show readName ('\\' :: '3' :: c :: ' ' :: (s.flatMap escapeSign ++ rest)) = _
      rw [readName_digit hdigit, hsigns]
      rfl
    · rw [readName_escapeSign, hsigns]
      rfl

/-! ## Selectors -/

/-- The states that a selector asks for. -/
def statesText (v : Variants) : List Char := v.states.flatMap fun name => ':' :: name.toList

theorem toList_selectorOf (token : String) (v : Variants) :
    (selectorOf token v).toList = (if v.dark then ".dark .".toList else ['.']) ++
      (escapeSelector token.toList ++ statesText v) := by
  have hstates : (String.join (v.states.map (":" ++ ·))).toList = statesText v := by
    rw [String.toList_join, List.flatMap_map]
    exact List.flatMap_congr fun name _ => String.toList_append
  unfold selectorOf
  rw [String.toList_append, String.toList_append, String.toList_ofList, hstates, List.append_assoc]
  split <;> rfl

/-- States belong to no name. -/
theorem stopsName_statesText (v : Variants) : StopsName (statesText v) := by
  intro c hc
  unfold statesText at hc
  cases hstates : v.states with
  | nil =>
    rw [hstates] at hc
    cases hc
  | cons name names =>
    rw [hstates] at hc
    cases hc
    decide

/-- The mark of dark pages is not taken for the class of a token on any page. -/
theorem ne_dark (token : List Char) (v : Variants) (s : List Char) :
    escapeSelector token ++ statesText v ≠ "dark .".toList ++ s := by
  intro h
  have hstops : StopsName (" .".toList ++ s) := by
    rintro c ⟨⟩
    decide
  have hread := readName_escapeSelector token (stopsName_statesText v)
  have hdark : readName ("dark .".toList ++ s) = ("dark".toList, " .".toList ++ s) :=
    readName_escapeSelector "dark".toList hstops
  rw [h, hdark] at hread
  have hstates : " .".toList ++ s = statesText v := congrArg Prod.snd hread
  -- states start with a colon
  cases hnames : v.states with
  | nil =>
    rw [statesText, hnames] at hstates
    cases hstates
  | cons name names =>
    rw [statesText, hnames] at hstates
    cases hstates

/-- A selector tells the token that it was made for, whatever the variants ask for. -/
theorem token_of_selectorOf {token token' : String} {v v' : Variants}
    (h : selectorOf token v = selectorOf token' v') : token = token' := by
  have hread (token : String) (v : Variants) :
      readName (escapeSelector token.toList ++ statesText v) = (token.toList, statesText v) :=
    readName_escapeSelector token.toList (stopsName_statesText v)
  have hlist := congrArg String.toList h
  rw [toList_selectorOf, toList_selectorOf] at hlist
  have hsame : escapeSelector token.toList ++ statesText v = escapeSelector token'.toList ++ statesText v' := by
    cases hdark : v.dark with
    | true =>
      cases hdark' : v'.dark with
      | true =>
        rw [hdark, hdark'] at hlist
        exact List.append_cancel_left hlist
      | false =>
        rw [hdark, hdark'] at hlist
        exact absurd (List.cons.inj hlist).2.symm (ne_dark _ v' _)
    | false =>
      cases hdark' : v'.dark with
      | true =>
        rw [hdark, hdark'] at hlist
        exact absurd (List.cons.inj hlist).2 (ne_dark _ v _)
      | false =>
        rw [hdark, hdark'] at hlist
        exact List.append_cancel_left hlist
  have hboth := (hread token v).symm.trans ((congrArg readName hsame).trans (hread token' v'))
  exact String.toList_inj.mp (congrArg Prod.fst hboth)

/-- Rules with one selector are of one token. -/
theorem token_of_selector {t : Theme} {token token' : String} {r r' : Rule} (hr : t.rule? token = some r)
    (hr' : t.rule? token' = some r') (h : r.selector = r'.selector) : token = token' := by
  obtain ⟨-, -, ds, -, rfl⟩ := rule?_eq_some.mp hr
  obtain ⟨-, -, ds', -, rfl⟩ := rule?_eq_some.mp hr'
  exact token_of_selectorOf h

/-- The class in the selector of a token is read as the token, and different tokens that have a rule have
different selectors, with all that is put around the class for their variants. -/
theorem selectors_denote_tokens :
    (∀ token : List Char, readName (escapeSelector token) = (token, [])) ∧
    ∀ (t : Theme) (token token' : String) (r r' : Rule), t.rule? token = some r → t.rule? token' = some r' →
      token ≠ token' → r.selector ≠ r'.selector := by
  refine ⟨fun token => ?_, fun t token token' r r' hr hr' hne hsame => hne ?_⟩
  · have hend : StopsName [] := fun c hc => nomatch hc
    have hread := readName_escapeSelector token hend
    rwa [List.append_nil] at hread
  · exact token_of_selector hr hr' hsame

/-- A token that starts with a digit, for any page and for dark ones. -/
theorem selectors_denote_tokens_wide :
    escapeSelector "2xl:w-1/2".toList = "\\32 xl\\:w-1\\/2".toList ∧
      readName "\\32 xl\\:w-1\\/2".toList = ("2xl:w-1/2".toList, []) ∧
      (({} : Theme).rule? "2xl:w-1/2").map Rule.selector = some ".\\32 xl\\:w-1\\/2" ∧
      (({} : Theme).rule? "2xl:dark:w-1/2").map Rule.selector = some ".dark .\\32 xl\\:dark\\:w-1\\/2" ∧
      ".\\32 xl\\:w-1\\/2" ≠ ".dark .\\32 xl\\:dark\\:w-1\\/2" := by
  obtain ⟨hread, hdiffer⟩ := selectors_denote_tokens
  have hwide : (({} : Theme).rule? "2xl:w-1/2").map Rule.selector = some ".\\32 xl\\:w-1\\/2" := by
    decide
  have hdark : (({} : Theme).rule? "2xl:dark:w-1/2").map Rule.selector =
      some ".dark .\\32 xl\\:dark\\:w-1\\/2" := by decide
  obtain ⟨r, hr, hselector⟩ := Option.map_eq_some_iff.mp hwide
  obtain ⟨r', hr', hselector'⟩ := Option.map_eq_some_iff.mp hdark
  refine ⟨rfl, hread "2xl:w-1/2".toList, hwide, hdark, ?_⟩
  rw [← hselector, ← hselector']
  exact hdiffer {} _ _ r r' hr hr' (by decide)

end DeckPress.Style
