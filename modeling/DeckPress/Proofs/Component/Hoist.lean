import Mathlib.Data.List.Forall2
import Mathlib.Data.List.TakeWhile
import DeckPress.Component.Hoist
import DeckPress.Proofs.Component.Brace

/-!
# Marks are carried along

Nothing that looks for elements in a template looks for a backslash or an opening brace. So scripts and
styles are cut out of a marked text where they are cut out of the text without marks, and every piece of
the one is marked with respect to the same piece of the other. The scanners are gone through one by one.
-/

namespace DeckPress.Component.Brace.Marked

open Text

variable {s t : List Char}

/-- A text in which no mark can stand. -/
def Plain (p : List Char) : Prop := ∀ c ∈ p, c ≠ '\\' ∧ c ≠ '{'

instance (p : List Char) : Decidable (Plain p) := List.decidableBAll (fun c => c ≠ '\\' ∧ c ≠ '{') p

/-- A class of characters to which neither character of a mark belongs. -/
structure Misses (p : Char → Bool) : Prop where
  backslash : p '\\' = false
  brace : p '{' = false

/-- Tests that agree on what is related agree on what is found. -/
theorem any_eq {α : Type} {r : α → α → Prop} {a b : Option α} (h : Option.Rel r a b) {f : α → Bool}
    (hf : ∀ x y, r x y → f x = f y) : a.any f = b.any f := by
  cases h with
  | none => rfl
  | some hxy => exact hf _ _ hxy

/-- Related readers that go on from related places end in related places. -/
theorem bind_rel {α β : Type} {r : α → α → Prop} {q : β → β → Prop} {a b : Option α}
    {f g : α → Option β} (h : Option.Rel r a b) (hf : ∀ x y, r x y → Option.Rel q (f x) (g y)) :
    Option.Rel q (a.bind f) (b.bind g) := by
  cases h with
  | none => exact .none
  | some hxy => exact hf _ _ hxy

/-- Two texts have been read up to `a` and `b`: what was read is marked, and so is what is left. -/
structure Read (s t a b : List Char) : Prop where
  rest : Marked a b
  taken : ∃ p q, Marked p q ∧ s = p ++ a ∧ t = q ++ b

namespace Read

variable {a b c d : List Char}

theorem start (h : Marked s t) : Read s t s t := ⟨h, [], [], .nil, rfl, rfl⟩

theorem trans (h : Read s t a b) (h' : Read a b c d) : Read s t c d := by
  obtain ⟨p, q, hpq, rfl, rfl⟩ := h.taken
  obtain ⟨p', q', hpq', rfl, rfl⟩ := h'.taken
  exact ⟨h'.rest, p ++ p', q ++ q', hpq.append hpq', (List.append_assoc ..).symm,
    (List.append_assoc ..).symm⟩

theorem keep (x : Char) (h : Read s t a b) : Read (x :: s) (x :: t) a b := by
  obtain ⟨p, q, hpq, rfl, rfl⟩ := h.taken
  exact ⟨h.rest, x :: p, x :: q, .keep x hpq, rfl, rfl⟩

theorem mark (h : Read s t a b) : Read ('\\' :: '{' :: s) ('{' :: t) a b := by
  obtain ⟨p, q, hpq, rfl, rfl⟩ := h.taken
  exact ⟨h.rest, '\\' :: '{' :: p, '{' :: q, .mark hpq, rfl, rfl⟩

/-- What was read is what stands in front of the rest. -/
theorem take (h : Read s t a b) :
    Marked (s.take (s.length - a.length)) (t.take (t.length - b.length)) := by
  obtain ⟨p, q, hpq, rfl, rfl⟩ := h.taken
  simpa using hpq

end Read

/-! ## Prefixes and occurrences -/

theorem stripPrefix? {p : List Char} (hp : Plain p) (h : Marked s t) :
    Option.Rel (Read s t) (Text.stripPrefix? p s) (Text.stripPrefix? p t) := by
  induction p generalizing s t with
  | nil =>
    rw [Text.stripPrefix?, Text.stripPrefix?]
    exact .some (.start h)
  | cons x p ih =>
    obtain ⟨hx, hp⟩ := List.forall_mem_cons.mp hp
    cases h with
    | nil => exact .none
    | @keep c s t h =>
      rw [Text.stripPrefix?, Text.stripPrefix?]
      split
      · have hrest := ih hp h
        generalize Text.stripPrefix? p s = a at hrest
        generalize Text.stripPrefix? p t = b at hrest
        cases hrest with
        | none => exact .none
        | some hread => exact .some (hread.keep c)
      · exact .none
    | mark h =>
      -- one text starts with the backslash of a mark and the other with its brace, and the prefix with neither
      rw [Text.stripPrefix?, Text.stripPrefix?, if_neg hx.1, if_neg hx.2]
      exact .none

theorem splitAt? {needle : List Char} (hneedle : Plain needle) (hsome : needle ≠ []) (h : Marked s t) :
    Option.Rel (fun a b => Marked a.1 b.1 ∧ Read s t a.2 b.2) (Text.splitAt? needle s)
      (Text.splitAt? needle t) := by
  obtain ⟨x, needle, rfl⟩ := List.exists_cons_of_ne_nil hsome
  have hx := hneedle x List.mem_cons_self
  induction h with
  | nil => exact .none
  | @keep c s t h ih =>
    have hhere := (Marked.keep c h).stripPrefix? hneedle
    rw [Text.splitAt?, Text.splitAt?]
    generalize Text.stripPrefix? (x :: needle) (c :: s) = a at hhere
    generalize Text.stripPrefix? (x :: needle) (c :: t) = b at hhere
    cases hhere with
    | some hread => exact .some ⟨.nil, hread⟩
    | none =>
      generalize Text.splitAt? (x :: needle) s = found at ih
      generalize Text.splitAt? (x :: needle) t = found' at ih
      cases ih with
      | none => exact .none
      | some hboth => exact .some ⟨.keep c hboth.1, hboth.2.keep c⟩
  | @mark s t h ih =>
    have hbackslash (r : List Char) : Text.stripPrefix? (x :: needle) ('\\' :: r) = none := by
      rw [Text.stripPrefix?, if_neg hx.1]
    have hbrace (r : List Char) : Text.stripPrefix? (x :: needle) ('{' :: r) = none := by
      rw [Text.stripPrefix?, if_neg hx.2]
    -- in the marked text two characters are passed over where it is one in the other
    rw [Text.splitAt?, hbackslash, Text.splitAt?, hbrace, Text.splitAt?, hbrace]
    generalize Text.splitAt? (x :: needle) s = found at ih
    generalize Text.splitAt? (x :: needle) t = found' at ih
    cases ih with
    | none => exact .none
    | some hboth => exact .some ⟨.mark hboth.1, hboth.2.mark⟩

theorem head?_any {p : Char → Bool} (hp : Misses p) (h : Marked s t) : s.head?.any p = t.head?.any p := by
  cases h with
  | nil => rfl
  | keep c h => rfl
  | mark h => exact hp.backslash.trans hp.brace.symm

/-! ## White space -/

theorem all_eq {p : Char → Bool} (hp : Misses p) (h : Marked s t) : s.all p = t.all p := by
  induction h with
  | nil => rfl
  | keep c _ ih => rw [List.all_cons, List.all_cons, ih]
  | mark _ _ => simp [hp.backslash, hp.brace]

theorem dropWhile {p : Char → Bool} (hp : Misses p) (h : Marked s t) :
    Marked (s.dropWhile p) (t.dropWhile p) := by
  induction h with
  | nil => exact .nil
  | keep c h ih =>
    rw [List.dropWhile_cons, List.dropWhile_cons]
    split
    · exact ih
    · exact .keep c h
  | mark h _ =>
    rw [List.dropWhile_cons, if_neg (by simp [hp.backslash]), List.dropWhile_cons,
      if_neg (by simp [hp.brace])]
    exact .mark h

theorem dropEndWhile_cons (p : Char → Bool) (c : Char) (cs : List Char) :
    dropEndWhile p (c :: cs) = if cs.all p && p c then [] else c :: dropEndWhile p cs := by
  unfold dropEndWhile
  rw [List.reverse_cons, List.dropWhile_append]
  have hnone : (cs.reverse.dropWhile p).isEmpty = cs.all p := by
    rw [Bool.eq_iff_iff, List.isEmpty_iff, List.dropWhile_eq_nil_iff, List.all_eq_true]
    simp
  rw [hnone]
  cases hall : cs.all p with
  | true =>
    have hempty : cs.reverse.dropWhile p = [] := List.isEmpty_iff.mp (hnone.trans hall)
    cases hc : p c <;> simp [hc, hempty]
  | false => simp

theorem dropEndWhile {p : Char → Bool} (hp : Misses p) (h : Marked s t) :
    Marked (Text.dropEndWhile p s) (Text.dropEndWhile p t) := by
  induction h with
  | nil => exact .nil
  | keep c h ih =>
    rw [dropEndWhile_cons, dropEndWhile_cons, h.all_eq hp]
    split
    · exact .nil
    · exact .keep c ih
  | mark h ih =>
    rw [dropEndWhile_cons, dropEndWhile_cons, dropEndWhile_cons]
    simp only [hp.backslash, hp.brace, Bool.and_false, Bool.false_eq_true, if_false]
    exact .mark ih

theorem misses_isWhite : Misses isWhite := ⟨by decide, by decide⟩

theorem misses_isWord : Misses isWord := ⟨by decide, by decide⟩

theorem trim (h : Marked s t) : Marked (Text.trim s) (Text.trim t) :=
  (h.dropWhile misses_isWhite).dropEndWhile misses_isWhite

/-! ## Attributes -/

/-- Marks split no word: the pieces of text between separators are the same but for empty ones. -/
theorem splitOn {p : Char → Bool} (hbackslash : p '\\' = true) (hbrace : p '{' = true) (h : Marked s t) :
    ∃ w ws vs, Text.splitOn p s = w :: ws ∧ Text.splitOn p t = w :: vs ∧
      ∀ v ≠ [], v ∈ ws ↔ v ∈ vs := by
  induction h with
  | nil => exact ⟨[], [], [], rfl, rfl, fun _ _ => Iff.rfl⟩
  | keep c _ ih =>
    obtain ⟨w, ws, vs, hs, ht, hsame⟩ := ih
    rw [Text.splitOn, Text.splitOn, hs, ht]
    split
    · refine ⟨[], w :: ws, w :: vs, rfl, rfl, fun v hv => ?_⟩
      rw [List.mem_cons, List.mem_cons, hsame v hv]
    · exact ⟨c :: w, ws, vs, rfl, rfl, hsame⟩
  | mark _ ih =>
    obtain ⟨w, ws, vs, hs, ht, hsame⟩ := ih
    rw [Text.splitOn, if_pos hbackslash, Text.splitOn, if_pos hbrace, Text.splitOn, if_pos hbrace, hs, ht]
    refine ⟨[], [] :: w :: ws, w :: vs, rfl, rfl, fun v hv => ?_⟩
    rw [List.mem_cons, List.mem_cons, List.mem_cons, hsame v hv, or_iff_right hv]

theorem containsWord {word : String} (hword : word.toList ≠ []) (h : Marked s t) :
    Component.containsWord word s = Component.containsWord word t := by
  obtain ⟨w, ws, vs, hs, ht, hsame⟩ :=
    h.splitOn (p := (!isWord ·)) (by simp [misses_isWord.backslash]) (by simp [misses_isWord.brace])
  unfold Component.containsWord
  rw [hs, ht, Bool.eq_iff_iff, List.contains_iff_mem, List.contains_iff_mem, List.mem_cons, List.mem_cons,
    hsame _ hword]

/-- Whether a text starts with the quoted name of TypeScript. -/
def startsTypeScript : List Char → Bool
  | q :: 't' :: 's' :: q' :: _ => isQuote q && isQuote q'
  | _ => false

theorem startsTypeScript_iff {s : List Char} :
    startsTypeScript s ↔ ∃ q q', isQuote q ∧ isQuote q' ∧ [q, 't', 's', q'] <+: s := by
  constructor
  · intro h
    unfold startsTypeScript at h
    split at h
    · rename_i q q' rest
      obtain ⟨hq, hq'⟩ := Bool.and_eq_true_iff.mp h
      exact ⟨q, q', hq, hq', rest, rfl⟩
    · cases h
  · rintro ⟨q, q', hq, hq', rest, rfl⟩
    exact Bool.and_eq_true_iff.mpr ⟨hq, hq'⟩

theorem namesTypeScript_cons (before : Option Char) (c : Char) (cs : List Char) :
    Component.namesTypeScript before (c :: cs) =
      ((Text.stripPrefix? "lang=".toList (c :: cs)).any startsTypeScript && isBoundary before (some c) ||
        Component.namesTypeScript (some c) cs) := by
  rw [Component.namesTypeScript]
  congr 1
  cases Text.stripPrefix? "lang=".toList (c :: cs) with
  | none => rfl
  | some rest =>
    rw [Option.any_some]
    unfold startsTypeScript
    split
    · rename_i hrest
      cases hrest
      rfl
    · rename_i hrest
      split
      · exact absurd rfl (hrest _ _ _)
      · rfl

theorem prefix_iff {p : List Char} (hp : Plain p) (h : Marked s t) : p <+: s ↔ p <+: t := by
  have hrest := h.stripPrefix? hp
  rw [← stripPrefix?_isSome, ← stripPrefix?_isSome]
  generalize Text.stripPrefix? p s = rest at hrest ⊢
  generalize Text.stripPrefix? p t = rest' at hrest ⊢
  cases hrest <;> simp

theorem isQuote_iff {c : Char} : isQuote c ↔ c = '"' ∨ c = '\'' := by simp [isQuote]

theorem startsTypeScript_eq (h : Marked s t) : startsTypeScript s = startsTypeScript t := by
  rw [Bool.eq_iff_iff, startsTypeScript_iff, startsTypeScript_iff]
  refine exists_congr fun q => exists_congr fun q' => and_congr_right fun hq => and_congr_right fun hq' =>
    h.prefix_iff ?_
  rcases isQuote_iff.mp hq with rfl | rfl <;> rcases isQuote_iff.mp hq' with rfl | rfl <;> decide

theorem namesTypeScript {before before' : Option Char} (h : Marked s t)
    (hbefore : before.any isWord = before'.any isWord) :
    Component.namesTypeScript before s = Component.namesTypeScript before' t := by
  induction h generalizing before before' with
  | nil => rfl
  | keep c h ih =>
    have hhere := any_eq ((Marked.keep c h).stripPrefix? (p := "lang=".toList) (by decide))
      fun _ _ hread => hread.rest.startsTypeScript_eq
    rw [namesTypeScript_cons, namesTypeScript_cons, ih rfl, hhere, isBoundary, isBoundary, hbefore]
  | mark h ih =>
    have hnone {c : Char} (hc : c ≠ 'l') (r : List Char) : Text.stripPrefix? "lang=".toList (c :: r) = none :=
      if_neg hc.symm
    rw [namesTypeScript_cons, hnone (by decide), namesTypeScript_cons, hnone (by decide),
      namesTypeScript_cons, hnone (by decide), ih rfl]
    simp only [Option.any_none, Bool.false_and, Bool.false_or]

/-! ## Elements -/

/-- What stands behind an element: a line feed belongs to it. -/
def behind (s : List Char) : List Char :=
  match s with
  | '\n' :: rest => rest
  | _ => s

theorem read_behind (h : Marked s t) : Read s t (behind s) (behind t) := by
  rcases h with _ | ⟨c, h⟩ | h
  · exact .start .nil
  · unfold behind
    split
    · rename_i heq
      cases heq
      exact (Read.start h).keep '\n'
    · rename_i hne
      split
      · rename_i heq
        cases heq
        exact absurd rfl (hne _)
      · exact .start (.keep c h)
  · exact .start (.mark h)

/-- Elements that are the same but for marks. -/
structure Similar (e f : Element) : Prop where
  attributes : Marked e.attributes f.attributes
  content : Marked e.content f.content
  whole : Marked e.whole f.whole

/-- The closing tag of an element. -/
def closingTag (name : String) : List Char := "</".toList ++ name.toList ++ ['>']

theorem readElement?_eq (name : String) (s : List Char) :
    Component.readElement? name s =
      (Text.stripPrefix? ('<' :: name.toList) s).bind fun rest =>
        if rest.head?.any isWord then none
        else (Text.splitAt? ['>'] rest).bind fun (attributes, rest) =>
          (Text.splitAt? (closingTag name) rest).bind fun (content, rest) =>
            some (⟨attributes, content, s.take (s.length - (behind rest).length)⟩, behind rest) := by
  unfold Component.readElement?
  refine Option.bind_congr fun rest _ => ?_
  cases rest.head?.any isWord with
  | true => rfl
  | false => rfl

/-- An element is read of a text if it is read of the text without marks, and is the same but for marks. -/
theorem readElement? {name : String} (hname : Plain name.toList) (h : Marked s t) :
    Option.Rel (fun a b => Similar a.1 b.1 ∧ Marked a.2 b.2)
      (Component.readElement? name s) (Component.readElement? name t) := by
  have hopening : Plain ('<' :: name.toList) := List.forall_mem_cons.mpr ⟨by decide, hname⟩
  have hclosing : Plain (closingTag name) := by
    intro c hc
    simp only [closingTag, List.mem_append] at hc
    rcases hc with (hc | hc) | hc
    · exact (show Plain "</".toList by decide) c hc
    · exact hname c hc
    · exact (show Plain ['>'] by decide) c hc
  rw [readElement?_eq, readElement?_eq]
  refine bind_rel (h.stripPrefix? hopening) fun s₁ t₁ h₁ => ?_
  rw [h₁.rest.head?_any misses_isWord]
  split
  · exact .none
  refine bind_rel (h₁.rest.splitAt? (by decide) (by decide)) fun (attributes, s₂) (attributes', t₂) h₂ => ?_
  obtain ⟨hattributes, h₂⟩ := h₂
  refine bind_rel (h₂.rest.splitAt? hclosing (by simp [closingTag])) fun (content, s₃) (content', t₃) h₃ => ?_
  obtain ⟨hcontent, h₃⟩ := h₃
  have hread := h₁.trans (h₂.trans (h₃.trans (read_behind h₃.rest)))
  exact .some ⟨⟨hattributes, hcontent, hread.take⟩, hread.rest⟩

/-- An element takes up a character at least. -/
theorem readElement?_length {name : String} {e : Element} {rest : List Char}
    (h : Component.readElement? name s = some (e, rest)) : rest.length < s.length := by
  rw [readElement?_eq] at h
  obtain ⟨s₁, h₁, h⟩ := Option.bind_eq_some_iff.mp h
  split at h
  · cases h
  obtain ⟨⟨attributes, s₂⟩, h₂, h⟩ := Option.bind_eq_some_iff.mp h
  obtain ⟨⟨content, s₃⟩, h₃, h⟩ := Option.bind_eq_some_iff.mp h
  cases h
  have hbehind : (behind s₃).length ≤ s₃.length := by
    unfold behind
    split <;> simp
  rw [eq_append_of_stripPrefix? h₁, eq_append_of_splitAt? h₂, eq_append_of_splitAt? h₃]
  simp only [List.length_append, List.length_cons]
  omega

/-- Elements cut out of a text are those cut out of the text without marks, but for marks, and so is what
is left. -/
theorem cutElements_go {name : String} (hname : Plain name.toList) (h : Marked s t) (fuel fuel' : Nat)
    (hfuel : s.length ≤ fuel) (hfuel' : t.length ≤ fuel') :
    Marked (Component.cutElements.go name fuel s).1 (Component.cutElements.go name fuel' t).1 ∧
      List.Forall₂ Similar (Component.cutElements.go name fuel s).2
        (Component.cutElements.go name fuel' t).2 := by
  -- by the steps for the text without marks; the other text needs as many, and one more for each mark
  induction fuel' generalizing s t fuel with
  | zero =>
    cases List.eq_nil_of_length_eq_zero (Nat.le_zero.mp hfuel')
    cases h
    rw [Component.cutElements.go, Component.cutElements.go]
    exact ⟨.nil, .nil⟩
  | succ fuel' ih =>
    cases h with
    | nil =>
      rw [Component.cutElements.go, Component.cutElements.go]
      exact ⟨.nil, .nil⟩
    | @keep c s t h =>
      obtain ⟨fuel, rfl⟩ := Nat.exists_eq_add_one_of_ne_zero (Nat.ne_zero_of_lt hfuel)
      have hread := (Marked.keep c h).readElement? hname
      rw [Component.cutElements.go, Component.cutElements.go]
      cases hs : Component.readElement? name (c :: s) <;> cases ht : Component.readElement? name (c :: t) <;>
        rw [hs, ht] at hread <;> cases hread
      · obtain ⟨htext, helements⟩ := ih h fuel (Nat.le_of_succ_le_succ hfuel) (Nat.le_of_succ_le_succ hfuel')
        exact ⟨.keep c htext, helements⟩
      · rename_i hboth
        obtain ⟨hsimilar, hrest⟩ := hboth
        obtain ⟨htext, helements⟩ := ih hrest fuel
          (Nat.le_of_lt_succ ((readElement?_length hs).trans_le hfuel))
          (Nat.le_of_lt_succ ((readElement?_length ht).trans_le hfuel'))
        exact ⟨htext, .cons hsimilar helements⟩
    | @mark s t h =>
      have hnone {c : Char} (hc : c ≠ '<') (r : List Char) : Component.readElement? name (c :: r) = none := by
        rw [readElement?_eq, Text.stripPrefix?, if_neg hc.symm, Option.bind_none]
      -- no element starts in a mark
      obtain ⟨fuel, rfl⟩ : ∃ n, fuel = n + 1 + 1 := ⟨fuel - 2, by simp at hfuel; omega⟩
      obtain ⟨htext, helements⟩ := ih h fuel (by simpa using hfuel) (Nat.le_of_succ_le_succ hfuel')
      simp only [Component.cutElements.go, hnone (c := '\\') (by decide), hnone (c := '{') (by decide)]
      exact ⟨.mark htext, helements⟩

theorem cutElements (name : String) (hname : Plain name.toList) (h : Marked s t) :
    Marked (Component.cutElements name s).1 (Component.cutElements name t).1 ∧
      List.Forall₂ Similar (Component.cutElements name s).2 (Component.cutElements name t).2 :=
  cutElements_go hname h _ _ (Nat.le_refl _) (Nat.le_refl _)

/-! ## What is taken out of a template -/

/-- What is taken out of two templates is the same but for marks. -/
structure HoistedAlike (h h' : Hoisted) : Prop where
  setup : List.Forall₂ Marked h.setup h'.setup
  scripts : List.Forall₂ Marked h.scripts h'.scripts
  styles : List.Forall₂ Marked h.styles h'.styles
  typescript : h.typescript = h'.typescript

/-- What is got of similar elements is got of those that a test, the same for all similar ones, lets
through. -/
theorem filter_map {es fs : List Element} (h : List.Forall₂ Similar es fs) {p : Element → Bool}
    (hp : ∀ e f, Similar e f → p e = p f) {get : Element → List Char}
    (hget : ∀ e f, Similar e f → Marked (get e) (get f)) :
    List.Forall₂ Marked ((es.filter p).map get) ((fs.filter p).map get) := by
  rw [List.forall₂_map_left_iff, List.forall₂_map_right_iff]
  refine (List.rel_filter (fun e f hef => ?_) h).imp hget
  show p e = true ↔ p f = true
  rw [hp e f hef]

/-- Similar elements agree on whether one of them is written in TypeScript. -/
theorem any_namesTypeScript {es fs : List Element} (h : List.Forall₂ Similar es fs) :
    es.any (Component.namesTypeScript none ·.attributes) =
      fs.any (Component.namesTypeScript none ·.attributes) := by
  induction h with
  | nil => rfl
  | cons hef _ ih => rw [List.any_cons, List.any_cons, hef.attributes.namesTypeScript rfl, ih]

theorem hoist (h : Marked s t) :
    Marked (Component.hoist s).1 (Component.hoist t).1 ∧
      HoistedAlike (Component.hoist s).2 (Component.hoist t).2 := by
  obtain ⟨htext, hscripts⟩ := h.cutElements "script" (by decide)
  obtain ⟨htemplate, hstyles⟩ := htext.cutElements "style" (by decide)
  have hsetup (e f : Element) (hef : Similar e f) :
      Component.containsWord "setup" e.attributes = Component.containsWord "setup" f.attributes :=
    hef.attributes.containsWord (by decide)
  have hother (e f : Element) (hef : Similar e f) :
      (!Component.containsWord "setup" e.attributes) = (!Component.containsWord "setup" f.attributes) :=
    congrArg _ (hsetup e f hef)
  refine ⟨htemplate, ?_, ?_, ?_, ?_⟩
  · exact filter_map hscripts hsetup fun _ _ hef => hef.content
  · exact filter_map hscripts hother fun _ _ hef => hef.whole
  · exact (List.forall₂_map_left_iff.mpr <| List.forall₂_map_right_iff.mpr <|
      hstyles.imp fun _ _ hef => hef.whole)
  · exact any_namesTypeScript hscripts

end DeckPress.Component.Brace.Marked
