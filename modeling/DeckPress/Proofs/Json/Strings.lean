import DeckPress.Proofs.Json.Printer
import DeckPress.Proofs.Text.Lines

/-!
# What JSON text contains

JSON text escapes quotes, backslashes and control characters, and nothing else. A tag of HTML has none of
them, and begins with a character that JSON itself has no use for: it stands in the text of a value
exactly if it stands in one of the strings or keys of the value.
-/

namespace DeckPress.Json

open Text

mutual

/-- The strings of a value and the keys of its objects. -/
def strings : Json → List String
  | .str s => [s]
  | .arr items => itemStrings items
  | .obj fields => fieldStrings fields
  | _ => []

def itemStrings : List Json → List String
  | [] => []
  | v :: vs => strings v ++ itemStrings vs

def fieldStrings : List (String × Json) → List String
  | [] => []
  | (k, v) :: rest => k :: strings v ++ fieldStrings rest

end

/-- A text like a tag of HTML: `<` and characters that stand for themselves in strings and have no use
between them. -/
structure IsTag (tag : List Char) : Prop where
  angle : tag.head? = some '<'
  same : ∀ c ∈ tag, escapeChar c = [c]
  apart : ∀ c ∈ ['[', ']', '\x7b', '\x7d', ',', ':', '"'], c ∉ tag

variable {tag : List Char}

/-- Escapes have no angle bracket. -/
theorem angle_not_mem_escapeChar {c : Char} (hc : c ≠ '<') : '<' ∉ escapeChar c := by
  have hcontrol : ∀ n < 0x20, '<' ∉ controlEscape n := by decide
  unfold escapeChar
  split
  case h_6 =>
    split
    · decide
    split
    · decide
    split
    · rename_i h
      exact hcontrol _ h
    · simpa using hc.symm
  all_goals decide

/-- A character that is escaped is written with a backslash. -/
theorem escapeChar_eq (c : Char) : escapeChar c = [c] ∨ (escapeChar c).head? = some '\\' := by
  unfold escapeChar controlEscape
  split
  case h_6 =>
    split
    · exact .inr rfl
    split
    · exact .inr rfl
    split
    · exact .inr rfl
    · exact .inl rfl
  all_goals exact .inr rfl

theorem prefix_flatMap_escapeChar (hsame : ∀ c ∈ tag, escapeChar c = [c]) (s : List Char) :
    tag <+: s.flatMap escapeChar ↔ tag <+: s := by
  induction tag generalizing s with
  | nil => simp
  | cons x tag ih =>
    have hx := hsame x List.mem_cons_self
    have htag := ih fun c hc => hsame c (List.mem_cons_of_mem x hc)
    cases s with
    | nil => simp
    | cons c s =>
      rw [List.flatMap_cons, List.cons_prefix_cons]
      rcases escapeChar_eq c with hc | hc
      · rw [hc, List.singleton_append, List.cons_prefix_cons, htag]
      · -- the escape begins with a backslash, and so does not stand for what is looked for
        have hne : x ≠ '\\' := by
          rintro rfl
          exact absurd hx (by decide)
        have hother : x ≠ c := by
          rintro rfl
          rw [hx] at hc
          exact hne (Option.some.inj hc)
        cases hescape : escapeChar c with
        | nil =>
          rw [hescape] at hc
          cases hc
        | cons y ys =>
          rw [hescape] at hc
          cases hc
          rw [List.cons_append, List.cons_prefix_cons]
          simp [hne, hother]

theorem infix_flatMap_escapeChar (h : IsTag tag) (s : List Char) :
    tag <:+: s.flatMap escapeChar ↔ tag <:+: s := by
  obtain ⟨rest, rfl⟩ : ∃ rest, tag = '<' :: rest := by
    cases tag with
    | nil => cases h.angle
    | cons c rest =>
      cases h.angle
      exact ⟨rest, rfl⟩
  induction s with
  | nil => rfl
  | cons c s ih =>
    -- only at an angle bracket the tag can begin, and none is in the escape of another character
    rw [List.infix_cons_iff]
    by_cases hc : c = '<'
    · have hbegins := prefix_flatMap_escapeChar h.same (c :: s)
      subst hc
      rw [List.flatMap_cons] at hbegins ⊢
      rw [show escapeChar '<' = ['<'] from rfl, List.singleton_append] at hbegins ⊢
      rw [List.infix_cons_iff, hbegins, ih]
    · rw [List.flatMap_cons, infix_append_of_not_mem (angle_not_mem_escapeChar hc), ih,
        List.cons_prefix_cons]
      simp [Ne.symm hc]

theorem IsTag.ne_nil (h : IsTag tag) : tag ≠ [] := by
  rintro rfl
  cases h.angle

/-- A tag does not stand where no angle bracket does. -/
theorem IsTag.not_infix (h : IsTag tag) {s : List Char} (hs : '<' ∉ s) : ¬ tag <:+: s := by
  intro htag
  have hhead := List.mem_of_mem_head? (Option.mem_def.mpr h.angle)
  exact hs (htag.subset hhead)

theorem IsTag.infix_cons (h : IsTag tag) {c : Char}
    (hc : c ∈ ['[', ']', '\x7b', '\x7d', ',', ':', '"']) (b : List Char) : tag <:+: c :: b ↔ tag <:+: b := by
  have hcut := infix_append_cons (h.apart c hc) [] b
  rw [List.nil_append] at hcut
  rw [hcut, List.infix_nil]
  exact or_iff_right h.ne_nil

theorem IsTag.infix_between (h : IsTag tag) {c : Char}
    (hc : c ∈ ['[', ']', '\x7b', '\x7d', ',', ':', '"']) (a b : List Char) :
    tag <:+: a ++ c :: b ↔ tag <:+: a ∨ tag <:+: b := infix_append_cons (h.apart c hc) a b

theorem infix_renderString (h : IsTag tag) (s : String) : tag <:+: renderString s ↔ tag <:+: s.toList := by
  rw [renderString, List.cons_append, h.infix_cons (by decide), h.infix_between (by decide),
    infix_flatMap_escapeChar h, List.infix_nil]
  exact or_iff_left h.ne_nil

/-- A tag stands in one of the texts. -/
def InSome (tag : List Char) (texts : List String) : Prop := ∃ s ∈ texts, tag <:+: s.toList

@[simp] theorem inSome_nil : ¬ InSome tag [] := by simp [InSome]

@[simp] theorem inSome_cons (s : String) (texts : List String) :
    InSome tag (s :: texts) ↔ tag <:+: s.toList ∨ InSome tag texts := by simp [InSome]

@[simp] theorem inSome_append (as bs : List String) :
    InSome tag (as ++ bs) ↔ InSome tag as ∨ InSome tag bs := by
  simp [InSome, or_and_right, exists_or]

theorem angle_not_mem_renderFloat (x : Binary64) : '<' ∉ renderFloat x :=
  not_mem_renderFloat ⟨by decide, by decide, by decide, by decide⟩ (by decide) x

mutual

theorem infix_render (h : IsTag tag) : ∀ v : Json, tag <:+: render v ↔ InSome tag v.strings
  | .null => by
    rw [render, strings]
    · simpa using h.not_infix (by decide)
    all_goals simp
  | .bool b => by
    have hnone : '<' ∉ render (.bool b) := by cases b <;> decide
    rw [strings]
    · simpa using h.not_infix hnone
    all_goals simp
  | .int n => by
    rw [render, strings]
    · simpa using h.not_infix (not_mem_int (by decide) (by decide) n)
    all_goals simp
  | .float x => by
    rw [render, strings]
    · simpa using h.not_infix (angle_not_mem_renderFloat x)
    all_goals simp
  | .str s => by
    rw [render, strings, infix_renderString h]
    simp
  | .arr items => by
    rw [render, strings, List.cons_append, h.infix_cons (by decide), h.infix_between (by decide),
      infix_renderItems h items, List.infix_nil]
    exact or_iff_left h.ne_nil
  | .obj fields => by
    rw [render, strings, List.cons_append, h.infix_cons (by decide), h.infix_between (by decide),
      infix_renderFields h fields, List.infix_nil]
    exact or_iff_left h.ne_nil

theorem infix_renderItems (h : IsTag tag) :
    ∀ vs : List Json, tag <:+: renderItems vs ↔ InSome tag (itemStrings vs)
  | [] => by
    rw [renderItems, itemStrings, List.infix_nil]
    simpa using h.ne_nil
  | [v] => by
    rw [renderItems, itemStrings, itemStrings, List.append_nil]
    exact infix_render h v
  | v :: w :: vs => by
    have hrest := infix_renderItems h (w :: vs)
    rw [renderItems, itemStrings, inSome_append, h.infix_between (by decide), infix_render h v, hrest]
    simp

theorem infix_renderFields (h : IsTag tag) :
    ∀ fields : List (String × Json), tag <:+: renderFields fields ↔ InSome tag (fieldStrings fields)
  | [] => by
    rw [renderFields, fieldStrings, List.infix_nil]
    simpa using h.ne_nil
  | [(k, v)] => by
    rw [renderFields, fieldStrings, fieldStrings, List.append_nil, inSome_cons,
      h.infix_between (by decide), infix_renderString h, infix_render h v]
  | (k, v) :: entry :: rest => by
    have hrest := infix_renderFields h (entry :: rest)
    rw [renderFields, fieldStrings, inSome_append, inSome_cons, h.infix_between (by decide),
      h.infix_between (by decide), infix_renderString h, infix_render h v, hrest]
    simp

end

/-- A tag stands in the text of a value exactly if it stands in one of its strings or keys. -/
theorem infix_text (h : IsTag tag) (v : Json) :
    tag <:+: v.text.toList ↔ ∃ s ∈ v.strings, tag <:+: s.toList := by
  rw [text, String.toList_ofList]
  exact infix_render h v

end DeckPress.Json
