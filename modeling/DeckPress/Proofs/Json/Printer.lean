import Mathlib.Data.List.Basic
import DeckPress.Json.Printer

/-!
# JSON text is one line

A line feed in a text is written as an escape, and nothing else that is written has one. So the text of a
value can stand inside a line.
-/

namespace DeckPress

theorem not_mem_toDigits {c : Char} (hc : c.isDigit = false) (n : Nat) : c ∉ Nat.toDigits 10 n := by
  intro h
  rw [Nat.isDigit_of_mem_toDigits (by decide) (by decide) h] at hc
  cases hc

theorem feed_not_mem_toDigits (n : Nat) : '\n' ∉ Nat.toDigits 10 n := not_mem_toDigits (by decide) n

namespace FloatLayout

/-- A layout of numbers in which a character has no place. -/
structure Lacks (f : FloatLayout) (c : Char) : Prop where
  digit : c.isDigit = false
  sign : c ∉ ['-', '.', 'e']
  wholeEnd : c ∉ f.wholeEnd.toList
  positiveExponent : c ∉ f.positiveExponent.toList

variable {f : FloatLayout} {c : Char}

theorem Lacks.zero (h : f.Lacks c) : c ≠ '0' := by
  rintro rfl
  exact absurd h.digit (by decide)

theorem Lacks.positional (h : f.Lacks c) {ds : List Char} (hds : c ∉ ds) (place : Int) :
    c ∉ f.positional ds place := by
  have hzero := h.zero
  have hsign := h.sign
  unfold FloatLayout.positional
  split
  · simp_all [List.mem_replicate]
  · dsimp only
    split
    · simp_all [List.mem_replicate, h.wholeEnd]
    · have htake : c ∉ ds.take place.toNat := fun hm => hds (List.mem_of_mem_take hm)
      have hdrop : c ∉ ds.drop place.toNat := fun hm => hds (List.mem_of_mem_drop hm)
      simp_all

theorem Lacks.scientific (h : f.Lacks c) {ds : List Char} (hds : c ∉ ds) (exponent : Int) :
    c ∉ f.scientific ds exponent := by
  have hsign := h.sign
  have htail : c ∉ (if exponent < 0 then '-' :: Nat.toDigits 10 (-exponent).toNat
      else f.positiveExponent.toList ++ Nat.toDigits 10 exponent.toNat) := by
    split
    · simp_all [not_mem_toDigits h.digit]
    · simp [not_mem_toDigits h.digit, h.positiveExponent]
  unfold FloatLayout.scientific
  dsimp only
  rw [List.mem_append, List.mem_cons]
  rintro (hm | hm | hm)
  · split at hm
    · simp_all
    · exact hds hm
  · exact hsign (by simp [hm])
  · exact htail hm

theorem Lacks.magnitude (h : f.Lacks c) (m : Nat) (e : Int) : c ∉ f.magnitude m e := by
  unfold FloatLayout.magnitude
  split
  · simp [h.zero, h.wholeEnd]
  · dsimp only
    split
    · exact h.scientific (not_mem_toDigits h.digit _) _
    · exact h.positional (not_mem_toDigits h.digit _) _

end FloatLayout

namespace Json

theorem not_mem_renderFloat {c : Char} (h : floatLayout.Lacks c) (hnull : c ∉ "null".toList)
    (x : Binary64) : c ∉ renderFloat x := by
  unfold renderFloat
  split
  · cases x with
    | finite s m e =>
      rw [FloatLayout.render, String.toList_ofList, List.mem_append]
      rintro (hm | hm)
      · have hsign := h.sign
        cases s <;> simp_all
      · exact h.magnitude m e hm
    | infinite s => simp_all [Binary64.isFinite]
    | nan => exact hnull
  · exact hnull

theorem not_mem_int {c : Char} (hc : c.isDigit = false) (hsign : c ≠ '-') (n : Int) :
    c ∉ (toString n).toList := by
  cases n with
  | ofNat m =>
    show c ∉ (Nat.repr m).toList
    rw [Nat.toList_repr]
    exact not_mem_toDigits hc m
  | negSucc m =>
    show c ∉ ("-" ++ Nat.repr m.succ).toList
    rw [String.toList_append, Nat.toList_repr, List.mem_append]
    rintro (hm | hm)
    · exact hsign (List.mem_singleton.mp hm)
    · exact not_mem_toDigits hc _ hm

theorem feed_not_mem_controlEscape {n : Nat} (h : n < 0x20) : '\n' ∉ controlEscape n := by
  have hall : ∀ n < 0x20, '\n' ∉ controlEscape n := by decide
  exact hall n h

theorem feed_not_mem_escapeChar (c : Char) : '\n' ∉ escapeChar c := by
  unfold escapeChar
  split
  -- a character that no letter is there to escape
  case h_6 =>
    rename_i hfeed _ _
    split
    · decide
    split
    · decide
    split
    · rename_i hcontrol
      exact feed_not_mem_controlEscape hcontrol
    · intro hm
      exact hfeed (List.mem_singleton.mp hm).symm
  all_goals decide

theorem feed_not_mem_renderString (s : String) : '\n' ∉ renderString s := by
  unfold renderString
  simp only [List.cons_append, List.mem_cons, List.mem_append, List.mem_flatMap]
  rintro (hm | ⟨c, -, hm⟩ | hm | hm)
  · cases hm
  · exact feed_not_mem_escapeChar c hm
  · cases hm
  · cases hm

mutual

theorem feed_not_mem_render : ∀ v : Json, '\n' ∉ render v
  | .null => by decide
  | .bool true => by decide
  | .bool false => by decide
  | .int n => by
    rw [render]
    exact not_mem_int (by decide) (by decide) n
  | .float x => by
    rw [render]
    exact not_mem_renderFloat ⟨by decide, by decide, by decide, by decide⟩ (by decide) x
  | .str s => by
    rw [render]
    exact feed_not_mem_renderString s
  | .arr items => by
    have hitems := feed_not_mem_renderItems items
    rw [render]
    simp [hitems]
  | .obj fields => by
    have hfields := feed_not_mem_renderFields fields
    rw [render]
    simp [hfields]

theorem feed_not_mem_renderItems : ∀ vs : List Json, '\n' ∉ renderItems vs
  | [] => by rw [renderItems]; exact List.not_mem_nil
  | [v] => by
    rw [renderItems]
    exact feed_not_mem_render v
  | v :: w :: vs => by
    have hv := feed_not_mem_render v
    have hrest := feed_not_mem_renderItems (w :: vs)
    rw [renderItems]
    · simp [hv, hrest]
    · simp

theorem feed_not_mem_renderFields : ∀ fields : List (String × Json), '\n' ∉ renderFields fields
  | [] => by rw [renderFields]; exact List.not_mem_nil
  | [(k, v)] => by
    have hv := feed_not_mem_render v
    rw [renderFields]
    simp [hv, feed_not_mem_renderString]
  | (k, v) :: entry :: rest => by
    have hv := feed_not_mem_render v
    have hrest := feed_not_mem_renderFields (entry :: rest)
    rw [renderFields]
    · simp [hv, hrest, feed_not_mem_renderString]
    · simp

end

/-- The text of a value has no line feed. -/
theorem feed_not_mem_text (v : Json) : '\n' ∉ v.text.toList := by
  rw [text, String.toList_ofList]
  exact feed_not_mem_render v

end Json

end DeckPress
