import Mathlib.Data.List.Basic
import DeckPress.Text.Case

/-!
# Letter case and ASCII

What a character becomes in upper case is of letters: of the characters of ASCII, only capital letters come
up in the images of others. For characters above ASCII this is read off the table, line by line.
-/

namespace DeckPress.Text

/-- A capital letter, or a character above ASCII. -/
def isUpperImage (c : Char) : Bool := isAsciiUpper c || 0x80 ≤ c.toNat

/-! ## The table -/

def allUpperImages (entries : List (Nat × List Char)) : Bool := entries.all fun e => e.2.all isUpperImage

/-- A line is looked at as the characters it is made of. -/
theorem allUpperImages_ofList {s : List Char} (h : allUpperImages (CodeMap.readEntries s)) :
    allUpperImages (CodeMap.readEntries (String.ofList s).toList) := by
  rw [String.toList_ofList]
  exact h

theorem allUpperImages_line :
    ∀ line ∈ upperCaseLines, allUpperImages (CodeMap.readEntries line.toList) := by
  unfold upperCaseLines
  repeat' refine List.forall_mem_cons.mpr ⟨allUpperImages_ofList (by decide), ?_⟩
  exact List.forall_mem_nil _

theorem upperCaseTable_image {n : Nat} {image : List Char} (h : (n, image) ∈ upperCaseTable.entries) :
    ∀ c ∈ image, isUpperImage c := by
  obtain ⟨line, hline, hentry⟩ := List.mem_flatMap.mp (List.mem_toArray.mp h)
  have hall := List.all_eq_true.mp (allUpperImages_line line hline) _ hentry
  exact List.all_eq_true.mp hall

/-- What the search finds is in the table. -/
theorem CodeMap.mem_of_search {t : CodeMap} {n fuel lo hi : Nat} {image : List Char}
    (h : t.search n fuel lo hi = some image) : ∃ a, (a, image) ∈ t.entries := by
  induction fuel generalizing lo hi with
  | zero => cases h
  | succ fuel ih =>
    rw [search] at h
    split at h
    · dsimp only at h
      split at h
      · cases h
      · rename_i a found hfound
        split at h
        · exact ih h
        · split at h
          · exact ih h
          · cases h
            exact ⟨a, Array.mem_of_getElem? hfound⟩
    · cases h

/-! ## Characters -/

/-- A letter of ASCII in upper case. -/
theorem isAsciiUpper_asciiUpper {c : Char} (h : isAsciiAlpha c) : isAsciiUpper (asciiUpper c) := by
  have hall : ∀ n < 26, isAsciiUpper (Char.ofNat (n + 97 - 32)) := by decide
  by_cases hlower : isAsciiLower c
  · have hcode : 97 ≤ c.toNat ∧ c.toNat ≤ 122 := by
      simpa [isAsciiLower, Char.le_def, UInt32.le_iff_toNat_le] using hlower
    obtain ⟨n, hn⟩ : ∃ n, c.toNat = n + 97 := ⟨c.toNat - 97, by omega⟩
    rw [asciiUpper, if_pos hlower, hn]
    exact hall n (by omega)
  · rw [asciiUpper, if_neg hlower]
    simpa [isAsciiAlpha, hlower] using h

theorem isUpperImage_asciiUpper {c : Char} (h : isAsciiLower c) : isUpperImage (asciiUpper c) := by
  have hupper := isAsciiUpper_asciiUpper (c := c) (by simp [isAsciiAlpha, h])
  rw [isUpperImage, hupper, Bool.true_or]

/-- In upper case a character stays what it is, or becomes capital letters and characters above ASCII. -/
theorem mem_charUpper {c x : Char} (h : x ∈ charUpper c) : x = c ∨ isUpperImage x := by
  unfold charUpper at h
  split at h
  · rw [List.mem_singleton.mp h]
    by_cases hlower : isAsciiLower c
    · exact .inr (isUpperImage_asciiUpper hlower)
    · exact .inl (if_neg hlower)
  · cases hfound : upperCaseTable.get? c.toNat with
    | none =>
      rw [hfound] at h
      exact .inl (List.mem_singleton.mp h)
    | some image =>
      rw [hfound] at h
      obtain ⟨a, hentry⟩ := CodeMap.mem_of_search hfound
      exact .inr (upperCaseTable_image hentry x h)

theorem not_mem_charUpper {c x : Char} (hx : isUpperImage x = false) (hc : x ≠ c) : x ∉ charUpper c := by
  intro h
  rcases mem_charUpper h with hsame | himage
  · exact hc hsame
  · rw [hx] at himage
    cases himage

end DeckPress.Text
