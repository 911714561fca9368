import DeckPress.Code.Editor
import DeckPress.Proofs.Text.Lines

/-!
# Fences that ask for an editor

A text is changed by the replacement of its editor fences exactly if it has one. Whether it has one hangs
on how its lines end: a line with a carriage return at its end neither opens nor closes an editor fence.
So a text has all the fences again that it had, when the ends of its lines are taken off, and perhaps more.
-/

namespace DeckPress.Code.Editor

open Text

/-- A line of text without its line feed. -/
abbrev Line := List Char

/-! ## Lines that open and close -/

/-- A line that ends with a sign and blanks does not end with a carriage return. -/
theorem noReturn_of_blank {c : Char} {p r : List Char} (hc : c ≠ '\r') (hr : r.all isLineBlank) :
    (p ++ c :: r).getLast? ≠ some '\r' := by
  intro hlast
  have hend : (c :: r).getLast? = some '\r' := by
    rw [List.getLast?_append, List.getLast?_cons] at hlast
    rw [List.getLast?_cons]
    exact hlast
  rcases List.mem_cons.mp (List.mem_of_getLast? hend) with h | h
  · exact hc h.symm
  · exact absurd (List.all_eq_true.mp hr '\r' h) (by decide)

theorem closes_iff {l : Line} : closes l ↔ ∃ r, r.all isLineBlank ∧ l = "```".toList ++ r := by
  unfold closes
  constructor
  · intro h
    cases hstrip : stripPrefix? "```".toList l with
    | none => rw [hstrip] at h; cases h
    | some r =>
      rw [hstrip] at h
      exact ⟨r, h, eq_append_of_stripPrefix? hstrip⟩
  · rintro ⟨r, hr, rfl⟩
    rw [stripPrefix?_append]
    exact hr

theorem noReturn_of_closes {l : Line} (h : closes l) : l.getLast? ≠ some '\r' := by
  obtain ⟨r, hr, rfl⟩ := closes_iff.mp h
  exact noReturn_of_blank (p := ['`', '`']) (by decide) hr

/-- A line that opens an editor fence starts with the mark of a fence and ends with a brace and blanks. -/
theorem shape_of_opening? {l : Line} (h : (opening? l).isSome) :
    ∃ p r, r.all isLineBlank ∧ l = "```".toList ++ (p ++ '}' :: r) := by
  obtain ⟨found, h⟩ := Option.isSome_iff_exists.mp h
  unfold opening? at h
  obtain ⟨rest, hmark, h⟩ := Option.bind_eq_some_iff.mp h
  dsimp only at h
  split at h
  · cases h
  obtain ⟨inner, hinner, h⟩ := Option.bind_eq_some_iff.mp h
  split at h
  · rename_i r hbrace
    split at h
    · rename_i hr
      -- the brace and the blanks end what stands behind the mark
      have hword : '}' :: r <:+ inner := hbrace ▸ List.dropWhile_suffix isOptionChar
      have hinner' : inner <:+ (rest.dropWhile isWord).dropWhile isLineBlank :=
        ⟨_, (eq_append_of_stripPrefix? hinner).symm⟩
      have hrest := (hword.trans hinner').trans
        ((List.dropWhile_suffix isLineBlank).trans (List.dropWhile_suffix isWord))
      obtain ⟨p, hp⟩ := hrest
      exact ⟨p, r, hr, by rw [hp, eq_append_of_stripPrefix? hmark]⟩
    · cases h
  · cases h

theorem noReturn_of_opening? {l : Line} (h : (opening? l).isSome) : l.getLast? ≠ some '\r' := by
  obtain ⟨p, r, hr, rfl⟩ := shape_of_opening? h
  rw [← List.append_assoc]
  exact noReturn_of_blank (by decide) hr

/-- The mark of a fence is where an editor fence starts. -/
theorem mark_prefix_of_opening? {l : Line} (h : (opening? l).isSome) : "```".toList <+: l := by
  obtain ⟨p, r, -, rfl⟩ := shape_of_opening? h
  exact List.prefix_append _ _

/-! ## Fences among lines -/

theorem isIn_cons {l : Line} {ls : List Line} :
    isIn (l :: ls) ↔ ((opening? l).isSome ∧ ls.any closes) ∨ isIn ls := by
  rw [isIn, Bool.or_eq_true, Bool.and_eq_true]

/-- Lines in front of a fence do not hide it. -/
theorem isIn_append_left (as : List Line) {bs : List Line} (h : isIn bs) : isIn (as ++ bs) := by
  induction as with
  | nil => exact h
  | cons l as ih => exact isIn_cons.mpr (.inr ih)

/-- Lines that open no fence have none to themselves. -/
theorem isIn_append {as bs : List Line} (h : ∀ l ∈ as, opening? l = none) :
    isIn (as ++ bs) ↔ isIn bs := by
  induction as with
  | nil => rfl
  | cons l as ih =>
    obtain ⟨hl, has⟩ := List.forall_mem_cons.mp h
    rw [List.cons_append, isIn_cons, ih has, hl]
    exact or_iff_right fun hnone => absurd hnone.1 (by decide)

/-- An empty line at the end neither opens nor closes a fence. -/
theorem isIn_snoc_nil (ls : List Line) : isIn (ls ++ [[]]) ↔ isIn ls := by
  induction ls with
  | nil => decide
  | cons l ls ih =>
    have hcloses : (ls ++ [[]]).any closes = ls.any closes := by
      have hnil : closes [] = false := rfl
      rw [List.any_append, List.any_cons, hnil, List.any_nil, Bool.or_false, Bool.or_false]
    rw [List.cons_append, isIn_cons, isIn_cons, ih, hcloses]

/-! ## Ends of lines -/

theorem dropReturn_eq_self {l : Line} (h : l.getLast? ≠ some '\r') : dropReturn l = l := if_neg h

/-- A line that closes a fence does so without its end. -/
theorem any_closes_cutEnds {ls : List Line} (h : ls.any closes) : (cutEnds ls).any closes := by
  induction ls with
  | nil => exact h
  | cons l ls ih =>
    cases ls with
    | nil =>
      have hl : closes l := by simpa using h
      have hne : l ≠ [] := by
        rintro rfl
        exact absurd hl (by decide)
      rw [cutEnds, if_neg hne]
      exact h
    | cons m ms =>
      rw [cutEnds, List.any_cons, Bool.or_eq_true]
      rw [List.any_cons, Bool.or_eq_true] at h
      rcases h with h | h
      · exact .inl (by rw [dropReturn_eq_self (noReturn_of_closes h), h])
      · exact .inr (ih h)

/-- A text whose lines keep their carriage returns has no more fences than without them. -/
theorem isIn_cutEnds {ls : List Line} (h : isIn ls) : isIn (cutEnds ls) := by
  induction ls with
  | nil => exact h
  | cons l ls ih =>
    cases ls with
    | nil =>
      -- a fence does not open and close in one line
      rcases isIn_cons.mp h with ⟨-, hnone⟩ | hnone
      · cases hnone
      · cases hnone
    | cons m ms =>
      rw [cutEnds, isIn_cons]
      rcases isIn_cons.mp h with ⟨hopen, hcloses⟩ | h
      · exact .inl ⟨by rwa [dropReturn_eq_self (noReturn_of_opening? hopen)], any_closes_cutEnds hcloses⟩
      · exact .inr (ih h)

/-- Where no line has a carriage return, only an empty line is lost. -/
theorem cutEnds_of_noReturn {ls : List Line} (h : ∀ l ∈ ls, l.getLast? ≠ some '\r') :
    ls = cutEnds ls ∨ ls = cutEnds ls ++ [[]] := by
  induction ls with
  | nil => exact .inl rfl
  | cons l ls ih =>
    obtain ⟨hl, hls⟩ := List.forall_mem_cons.mp h
    cases ls with
    | nil =>
      rw [cutEnds]
      split
      · rename_i hnil
        rw [hnil]
        exact .inr rfl
      · exact .inl rfl
    | cons m ms =>
      rw [cutEnds, dropReturn_eq_self hl]
      rcases ih hls with hsame | hsame
      · exact .inl (congrArg _ hsame)
      · exact .inr (congrArg _ hsame)

theorem isIn_of_noReturn {ls : List Line} (h : ∀ l ∈ ls, l.getLast? ≠ some '\r') :
    isIn (cutEnds ls) ↔ isIn ls := by
  rcases cutEnds_of_noReturn h with hsame | hsame
  · rw [← hsame]
  · rw [hsame, isIn_snoc_nil, ← hsame]

/-! ## What is replaced -/

theorem findIdx?_closes {ls : List Line} : (ls.findIdx? closes).isSome = ls.any closes :=
  List.findIdx?_isSome

/-- An editor takes the place of a fence. -/
theorem replaceIn_fence {l : Line} {ls : List Line} (hopen : (opening? l).isSome) (hclose : ls.any closes) :
    ∃ language options sample rest,
      replaceIn (l :: ls) = component language options sample :: [] :: replaceIn rest := by
  obtain ⟨⟨language, options⟩, hopening⟩ := Option.isSome_iff_exists.mp hopen
  rw [← findIdx?_closes] at hclose
  obtain ⟨close, hclosing⟩ := Option.isSome_iff_exists.mp hclose
  refine ⟨language, options, ls.take close, ls.drop (close + 1), ?_⟩
  rw [replaceIn, hopening]
  dsimp only
  rw [hclosing]

/-- Other lines stay. -/
theorem replaceIn_line {l : Line} {ls : List Line} (h : ¬ ((opening? l).isSome ∧ ls.any closes)) :
    replaceIn (l :: ls) = l :: replaceIn ls := by
  rw [replaceIn]
  cases hopening : opening? l with
  | none => rfl
  | some found =>
    cases hclosing : ls.findIdx? closes with
    | none => rfl
    | some close =>
      have hclose : ls.any closes := by
        rw [← findIdx?_closes, hclosing]
        rfl
      exact absurd ⟨by rw [hopening]; rfl, hclose⟩ h

theorem replaceIn_of_not_isIn {ls : List Line} (h : ¬ isIn ls) : replaceIn ls = ls := by
  induction ls with
  | nil => rw [replaceIn]
  | cons l ls ih =>
    rw [isIn_cons, not_or] at h
    rw [replaceIn_line h.1, ih h.2]

theorem replaceIn_ne_nil {ls : List Line} (h : ls ≠ []) : replaceIn ls ≠ [] := by
  obtain ⟨l, ls, rfl⟩ := List.exists_cons_of_ne_nil h
  by_cases hfence : (opening? l).isSome ∧ ls.any closes
  · obtain ⟨_, _, _, _, hreplace⟩ := replaceIn_fence hfence.1 hfence.2
    rw [hreplace]
    exact List.cons_ne_nil _ _
  · rw [replaceIn_line hfence]
    exact List.cons_ne_nil _ _

theorem head?_joinLines {l : Line} (h : l ≠ []) (ls : List Line) :
    (joinLines (l :: ls)).head? = l.head? := by
  obtain ⟨c, l, rfl⟩ := List.exists_cons_of_ne_nil h
  cases ls <;> rfl

theorem joinLines_cons {l : Line} {ls : List Line} (h : ls ≠ []) :
    joinLines (l :: ls) = l ++ '\n' :: joinLines ls := by
  obtain ⟨m, ls, rfl⟩ := List.exists_cons_of_ne_nil h
  show l ++ ['\n'] ++ joinLines (m :: ls) = _
  rw [List.append_assoc, List.singleton_append]

/-- An editor is written as a tag. -/
theorem head?_component (language options : List Char) (sample : List Line) :
    (component language options sample).head? = some '<' := by
  unfold component
  simp only [List.append_assoc]
  rfl

/-- Text with an editor in place of a fence differs from the text with the fence. -/
theorem joinLines_replaceIn_ne {ls : List Line} (h : isIn ls) :
    joinLines (replaceIn ls) ≠ joinLines ls := by
  induction ls with
  | nil => cases h
  | cons l ls ih =>
    intro hsame
    by_cases hfence : (opening? l).isSome ∧ ls.any closes
    · obtain ⟨language, options, sample, rest, hreplace⟩ := replaceIn_fence hfence.1 hfence.2
      obtain ⟨r, hl⟩ := mark_prefix_of_opening? hfence.1
      have hcomponent := head?_component language options sample
      -- the text starts with the fence, and a text with an editor in its place starts with a tag
      have hhead := congrArg List.head? hsame
      rw [hreplace, head?_joinLines (by intro hnil; rw [hnil] at hcomponent; cases hcomponent), hcomponent,
        ← hl, head?_joinLines (by simp)] at hhead
      exact absurd hhead (by simp)
    · have hrest : isIn ls := (isIn_cons.mp h).resolve_left hfence
      have hne : ls ≠ [] := by
        rintro rfl
        cases hrest
      rw [replaceIn_line hfence, joinLines_cons (replaceIn_ne_nil hne), joinLines_cons hne] at hsame
      exact ih hrest (List.cons.inj (List.append_cancel_left hsame)).2

/-- A text is changed exactly if it has a fence that asks for an editor. -/
theorem replace_ne_iff {text : String} : replace text ≠ text ↔ wanted text := by
  have hself : text = String.ofList (joinLines (splitOn (· = '\n') text.toList)) := by
    rw [joinLines_splitOn, String.ofList_toList]
  unfold replace wanted
  by_cases hisIn : isIn (splitOn (· = '\n') text.toList)
  · refine iff_of_true ?_ hisIn
    intro hsame
    exact joinLines_replaceIn_ne hisIn (String.ofList_injective (hsame.trans hself))
  · refine iff_of_false ?_ hisIn
    rw [replaceIn_of_not_isIn hisIn]
    exact fun hne => hne hself.symm

end DeckPress.Code.Editor
