import DeckPress.Component.Tag
import DeckPress.Proofs.Text.Case
import DeckPress.Proofs.Text.Search

/-!
# The tags of a template

A tag starts with a bracket and a letter, and its name is made of word characters and hyphens. So its name in
the spelling of components starts with a capital, and has no sign but those of words. The tags in front of a
place behind a closing bracket are found without those behind it, and a text without opening brackets has none:
put in at such a place, it leaves the tags of the template as they are.
-/

namespace DeckPress.Component

open Text

/-! ## Opening tags -/

/-- What stands behind the bracket of an opening tag: a letter, and characters of names. -/
structure TagName (s : List Char) : Prop where
  start : s.head?.any isAsciiAlpha
  rest : ∀ c ∈ s, isTagNameChar c

theorem lt_of_alpha {c : Char} (h : isAsciiAlpha c) : c.toNat < 0x80 := by
  simp only [isAsciiAlpha, isAsciiLower, isAsciiUpper, Bool.or_eq_true, Bool.and_eq_true, decide_eq_true_eq,
    Char.le_def, UInt32.le_iff_toNat_le] at h
  change (97 ≤ c.toNat ∧ c.toNat ≤ 122) ∨ (65 ≤ c.toNat ∧ c.toNat ≤ 90) at h
  omega

theorem isTagNameChar_of_alpha {c : Char} (h : isAsciiAlpha c) : isTagNameChar c := by
  simp [isTagNameChar, isWord, lt_of_alpha h, isAsciiAlnum, h]

theorem tagName_of_mem_openingTags {s : List Char} {tag : String} (h : tag ∈ openingTags s) : TagName tag.toList := by
  -- each step reads the longest name behind a bracket, and goes on somewhere behind it
  have hgo : ∀ fuel s, tag ∈ openingTags.go fuel s → TagName tag.toList := by
    intro fuel
    induction fuel with
    | zero => intro s h; cases h
    | succ fuel ih =>
      intro s h
      cases s with
      | nil => cases h
      | cons c cs =>
        rw [openingTags.go] at h
        split at h
        · rename_i hopens
          rcases List.mem_cons.mp h with rfl | h
          · rw [String.toList_ofList]
            refine ⟨?_, fun c hc => List.mem_takeWhile_imp hc⟩
            rw [Bool.and_eq_true] at hopens
            cases cs with
            | nil => cases hopens.2
            | cons d cs =>
              rw [List.takeWhile_cons_of_pos (isTagNameChar_of_alpha hopens.2)]
              exact hopens.2
          · exact ih _ h
        · exact ih _ h
  exact hgo s.length s h

theorem openingTags_go_eq {s : List Char} {fuel fuel' : Nat} (h : s.length ≤ fuel) (h' : s.length ≤ fuel') :
    openingTags.go fuel s = openingTags.go fuel' s := by
  induction fuel generalizing s fuel' with
  | zero =>
    cases List.eq_nil_of_length_eq_zero (Nat.le_zero.mp h)
    cases fuel' <;> rfl
  | succ fuel ih =>
    cases s with
    | nil => cases fuel' <;> rfl
    | cons c cs =>
      obtain ⟨fuel', rfl⟩ := Nat.exists_eq_add_one_of_ne_zero (Nat.ne_zero_of_lt h')
      have hrest := (List.dropWhile_suffix isTagNameChar (l := cs)).length_le
      have hfuel : cs.length ≤ fuel := Nat.le_of_succ_le_succ h
      have hfuel' : cs.length ≤ fuel' := Nat.le_of_succ_le_succ h'
      rw [openingTags.go, openingTags.go, ih (hrest.trans hfuel) (hrest.trans hfuel'), ih hfuel hfuel']

theorem openingTags_cons (c : Char) (cs : List Char) :
    openingTags (c :: cs) =
      if c = '<' && cs.head?.any isAsciiAlpha then
        String.ofList (cs.takeWhile isTagNameChar) :: openingTags (cs.dropWhile isTagNameChar)
      else openingTags cs := by
  have hrest := (List.dropWhile_suffix isTagNameChar (l := cs)).length_le
  unfold openingTags
  rw [List.length_cons, openingTags.go, openingTags_go_eq hrest (Nat.le_refl _)]

/-- A text without opening brackets has no tags. -/
theorem openingTags_plain_append {s : List Char} (h : '<' ∉ s) (rest : List Char) :
    openingTags (s ++ rest) = openingTags rest := by
  induction s with
  | nil => rfl
  | cons c s ih =>
    obtain ⟨hc, hs⟩ := List.ne_and_not_mem_of_not_mem_cons h
    rw [List.cons_append, openingTags_cons, if_neg (by simp [hc.symm]), ih hs]

/-- The tags in front of a closing bracket and those behind it. -/
theorem openingTags_append {a : List Char} (ha : ∀ c ∈ a.getLast?, c = '>') (b : List Char) :
    openingTags (a ++ b) = openingTags a ++ openingTags b := by
  have hcut (s : List Char) : openingTags (s ++ '>' :: b) = openingTags (s ++ ['>']) ++ openingTags b := by
    induction hlength : s.length using Nat.strong_induction_on generalizing s with
    | _ n ih =>
      subst hlength
      cases s with
      | nil =>
        rw [List.nil_append, List.nil_append, openingTags_cons, openingTags_cons]
        rfl
      | cons c s =>
        have hshorter := (List.dropWhile_suffix isTagNameChar (l := s)).length_le
        have hname : isTagNameChar '>' = false := by decide
        have hletter : isAsciiAlpha '>' = false := by decide
        rw [List.cons_append, List.cons_append, openingTags_cons, openingTags_cons, head?_any_append_cons hletter,
          head?_any_append_cons hletter, takeWhile_append_cons hname, takeWhile_append_cons hname,
          dropWhile_append_cons hname, dropWhile_append_cons hname,
          ih _ (Nat.lt_succ_of_le hshorter) _ rfl, ih _ (Nat.lt_succ_self _) _ rfl]
        split <;> rfl
  cases hlast : a.getLast? with
  | none =>
    rw [List.getLast?_eq_none_iff.mp hlast]
    rfl
  | some c =>
    obtain ⟨front, rfl⟩ := List.getLast?_eq_some_iff.mp hlast
    rw [ha c hlast, List.append_assoc, List.singleton_append, hcut]

/-! ## Spellings -/

/-- A sign that is no image of a letter does not get into a name. -/
theorem not_mem_pascalFrom {x : Char} (hx : isUpperImage x = false) {s : List Char} (h : x ∉ s) (upperNext : Bool) :
    x ∉ pascalFrom upperNext s := by
  induction s generalizing upperNext with
  | nil => exact h
  | cons c cs ih =>
    obtain ⟨hc, hcs⟩ := List.ne_and_not_mem_of_not_mem_cons h
    rw [pascalFrom]
    split
    · exact ih hcs true
    · split
      · rw [List.mem_append, not_or]
        exact ⟨not_mem_charUpper hx hc, ih hcs false⟩
      · rw [List.mem_cons, not_or]
        exact ⟨hc, ih hcs false⟩

theorem not_mem_pascalCase {x : Char} (hx : isUpperImage x = false) {name : String} (h : x ∉ name.toList) :
    x ∉ (pascalCase name).toList := by
  rw [pascalCase, String.toList_ofList]
  exact not_mem_pascalFrom hx h true

/-- The name of a component starts with a capital. -/
theorem TagName.head?_pascalCase {tag : String} (h : TagName tag.toList) :
    (pascalCase tag).toList.head?.any isAsciiUpper := by
  rw [pascalCase, String.toList_ofList]
  cases hname : tag.toList with
  | nil =>
    have hstart := h.start
    rw [hname] at hstart
    cases hstart
  | cons c rest =>
    have hc : isAsciiAlpha c := by
      have hstart := h.start
      rwa [hname] at hstart
    have hbreak : isNameBreak c = false := by
      rw [Bool.eq_false_iff]
      intro hbreak
      simp only [isNameBreak, Bool.or_eq_true, decide_eq_true_eq] at hbreak
      rcases hbreak with ((rfl | rfl) | rfl) | rfl <;> exact absurd hc (by decide)
    have himage : charUpper c = [asciiUpper c] := if_pos (lt_of_alpha hc)
    rw [pascalFrom, hbreak, himage]
    exact isAsciiUpper_asciiUpper hc

theorem mem_of_mem_firstSpellings {seen tags : List String} {tag : String}
    (h : tag ∈ firstSpellings seen tags) : tag ∈ tags := by
  induction tags generalizing seen with
  | nil => cases h
  | cons other tags ih =>
    rw [firstSpellings] at h
    split at h
    · exact List.mem_cons_of_mem other (ih h)
    · rcases List.mem_cons.mp h with rfl | h
      · exact List.mem_cons_self
      · exact List.mem_cons_of_mem other (ih h)

theorem tagName_of_mem_usedTags {code : String} {tag : String} (h : tag ∈ usedTags code) : TagName tag.toList :=
  tagName_of_mem_openingTags (List.mem_of_mem_filter (mem_of_mem_firstSpellings h))

/-! ## The template of a file -/

/-- The closing tag of a template. -/
def templateEnd : List Char := "</template>".toList

/-- A template starts the file and goes up to the last closing tag. -/
theorem templateSection_eq {u v : List Char} (hstart : "<template".toList <+: u ++ (templateEnd ++ v))
    (hlast : ¬ templateEnd <:+: v) : templateSection (u ++ (templateEnd ++ v)) = u := by
  have hsome : u ≠ [] := by
    rintro rfl
    obtain ⟨rest, hrest⟩ := hstart
    nomatch hrest
  have hopening : splitAt? "<template".toList (u ++ (templateEnd ++ v)) = 
      some ([], (u ++ (templateEnd ++ v)).drop "<template".toList.length) := by
    rw [splitAt?_eq_some]
    refine ⟨?_, fun _ _ _ => Nat.zero_le _⟩
    obtain ⟨rest, hrest⟩ := hstart
    rw [← hrest, List.drop_left, List.nil_append]
  have hclosing : splitAtLast? templateEnd (u ++ (templateEnd ++ v)) = some (u, v) := by
    have hreverse : ¬ templateEnd.reverse <:+: v.reverse := mt List.reverse_infix.mp hlast
    have hsplit : splitAt? templateEnd.reverse (v.reverse ++ (templateEnd.reverse ++ u.reverse)) =
        some (v.reverse, u.reverse) := splitAt?_first (by decide) hreverse u.reverse
    rw [splitAtLast?, List.reverse_append, List.reverse_append, List.append_assoc, hsplit]
    simp
  unfold templateSection
  dsimp only
  rw [hopening]
  unfold templateEnd at hclosing ⊢
  rw [hclosing]
  exact if_pos (List.length_pos_iff.mpr hsome)

/-- The last closing tag. -/
theorem exists_last_templateEnd {s : List Char} (h : templateEnd <:+: s) :
    ∃ u v, s = u ++ (templateEnd ++ v) ∧ ¬ templateEnd <:+: v := by
  have hfound : splitAt? templateEnd.reverse s.reverse ≠ none := by
    rw [ne_eq, splitAt?_eq_none, not_not]
    exact List.reverse_infix.mpr h
  obtain ⟨⟨v, u⟩, hsplit⟩ := Option.ne_none_iff_exists'.mp hfound
  refine ⟨u.reverse, v.reverse, ?_, fun hlater => ?_⟩
  · have hwhole := congrArg List.reverse (eq_append_of_splitAt? hsplit)
    simpa using hwhole
  · refine not_infix_of_splitAt? (by decide) hsplit ?_
    rw [← List.reverse_infix, List.reverse_reverse]
    exact hlater

/-- What has no opening bracket and is put in behind a closing one leaves the tags of the template as they are. -/
theorem usedTags_insert {front z rest : List Char} (hz : '<' ∉ z)
    (hstart : "<template".toList <+: front ++ '>' :: rest) (hend : templateEnd <:+: front ++ '>' :: rest) :
    usedTags (String.ofList (front ++ '>' :: (z ++ rest))) = usedTags (String.ofList (front ++ '>' :: rest)) := by
  have hends : templateEnd = "</template".toList ++ ['>'] := by decide
  have hbegins (behind : List Char) : "<template".toList <+: front ++ '>' :: behind :=
    (prefix_append_cons (by decide) front behind).mpr ((prefix_append_cons (by decide) front rest).mp hstart)
  obtain ⟨u, v, heq, hlast⟩ := exists_last_templateEnd hend
  have hsection : openingTags (templateSection (front ++ '>' :: (z ++ rest))) = openingTags u := by
    have hcut : front ++ '>' :: rest = u ++ ("</template".toList ++ '>' :: v) := by
      rw [heq, hends, List.append_assoc, List.singleton_append]
    rcases cut_of_not_mem (by decide) hcut with ⟨behind, rfl, rfl⟩ | ⟨between, hv, rfl⟩
    · -- the place is in the template
      have hnew : front ++ '>' :: (z ++ (behind ++ ("</template".toList ++ '>' :: v))) =
          (front ++ '>' :: (z ++ behind)) ++ (templateEnd ++ v) := by
        rw [hends]
        simp only [List.append_assoc, List.cons_append, List.nil_append]
      have hclosed : ∀ c ∈ (front ++ ['>']).getLast?, c = '>' := fun c hc => by
        rw [List.getLast?_concat] at hc
        exact (Option.some.inj hc).symm
      have htags (s : List Char) : openingTags (front ++ '>' :: s) = openingTags (front ++ ['>']) ++ openingTags s := by
        rw [← openingTags_append hclosed, List.append_assoc, List.singleton_append]
      rw [hnew, templateSection_eq (hnew ▸ hbegins _) hlast, htags, htags behind, openingTags_plain_append hz]
    · -- the place is behind it
      obtain ⟨w, rfl, hw, hclosed⟩ :
          ∃ w, v = w ++ rest ∧ '>' :: w = between ++ ['>'] ∧ ∀ c ∈ w.getLast?, c = '>' := by
        cases between with
        | nil => exact ⟨[], (List.cons.inj hv).2, rfl, fun c hc => nomatch hc⟩
        | cons c between =>
          obtain ⟨rfl, rfl⟩ := List.cons.inj hv
          refine ⟨between ++ ['>'], by simp, rfl, fun c hc => ?_⟩
          rw [List.getLast?_concat] at hc
          exact (Option.some.inj hc).symm
      have hnew : u ++ ("</template".toList ++ between) ++ '>' :: (z ++ rest) =
          u ++ (templateEnd ++ (w ++ (z ++ rest))) := by
        have hstep : "</template".toList ++ between ++ ['>'] = templateEnd ++ w := by
          rw [hends, List.append_assoc, ← hw, List.append_assoc, List.singleton_append]
        calc _ = u ++ (("</template".toList ++ between ++ ['>']) ++ (z ++ rest)) := by simp
          _ = _ := by rw [hstep, List.append_assoc]
      have hlater : ¬ templateEnd <:+: w ++ (z ++ rest) := by
        intro h
        rcases infix_append_of_ends (by decide) hclosed (hends ▸ h) with h | h
        · exact hlast (hends ▸ h.trans (List.prefix_append _ _).isInfix)
        · exact hlast ((((infix_append_of_not_mem hz _ _).mp h)).trans (List.suffix_append _ _).isInfix)
      rw [hnew, templateSection_eq (hnew ▸ hbegins _) hlater]
  unfold usedTags
  rw [String.toList_ofList, String.toList_ofList, hsection, heq, templateSection_eq (heq ▸ hstart) hlast]

end DeckPress.Component
