import DeckPress.Deck.Slide
import DeckPress.Proofs.Deck.Parsing
import DeckPress.Proofs.Text.Search

/-!
# The presenter's note

The note of a slide is meant to be the comment that its content ends with. Comments are read from the left: a
mark opens one, and the next closing mark ends it, whatever stands between the two. The note is taken from the
first opening mark on, without a look at the closing marks on the way. So it is the comment at the end exactly
if no comment is closed before; otherwise it runs through all comments, with what stands between them.
-/

namespace DeckPress.Deck

open Text

/-- The mark that opens a comment. -/
def commentStart : List Char := ['<', '!', '-', '-']

/-- The mark that closes a comment. -/
def commentEnd : List Char := ['-', '-', '>']

/-- A text that ends outside of its comments: each comment that it opens is closed. -/
inductive Closed : List Char → Prop where
  | prose {s : List Char} : ¬ commentStart <:+: s → Closed s
  | comment {p c rest : List Char} : ¬ commentStart <:+: p → ¬ commentEnd <:+: c → Closed rest →
      Closed (p ++ (commentStart ++ (c ++ (commentEnd ++ rest))))

/-- The content ends with the comment that has this text, but for white space. -/
def EndsInComment (content comment : List Char) : Prop :=
  ∃ before, trimEnd content = before ++ (commentStart ++ (comment ++ commentEnd)) ∧ Closed before ∧
    ¬ commentEnd <:+: comment

/-- What the presenter is to be told: the comment at the end, unless it is blank. -/
def IsNote (content note : String) : Prop :=
  ∃ comment, EndsInComment content.toList comment ∧ note.toList = trim comment ∧ note ≠ ""

/-- What stands between the first opening mark and the closing mark at the end, unless it is blank. -/
def RunsFromFirst (content note : String) : Prop :=
  ∃ before comment, trimEnd content.toList = before ++ (commentStart ++ (comment ++ commentEnd)) ∧
    ¬ commentStart <:+: before ∧ note.toList = trim comment ∧ note ≠ ""

/-- A comment is closed before the mark at the end of the content. -/
def ClosedEarlier (content : List Char) : Prop :=
  ∃ before between, trimEnd content = before ++ (commentStart ++ (between ++ commentEnd)) ∧
    commentEnd <:+: between

/-! ## What is taken for the note -/

theorem commentStart_ne_nil : commentStart ≠ [] := List.cons_ne_nil _ _

/-- The note is taken from behind the first opening mark. -/
theorem trailingComment?_eq_some {content note : String} :
    trailingComment? content = some note ↔ RunsFromFirst content note := by
  unfold trailingComment? RunsFromFirst
  simp only [Option.bind_eq_bind, Option.bind_eq_some_iff]
  constructor
  · rintro ⟨front, hfront, ⟨before, comment⟩, hsplit, hnote⟩
    dsimp only at hnote
    split at hnote
    · cases hnote
    · rename_i hsome
      cases hnote
      have hbefore : ¬ commentStart <:+: before := not_infix_of_splitAt? commentStart_ne_nil hsplit
      refine ⟨before, comment, ?_, hbefore, String.toList_ofList, ?_⟩
      · rw [stripSuffix?_eq_some.mp hfront, eq_append_of_splitAt? hsplit]
        simp only [List.append_assoc]
        rfl
      · intro hempty
        rw [String.ofList_eq_empty_iff] at hempty
        exact hsome (List.isEmpty_iff.mpr hempty)
  · rintro ⟨before, comment, htrim, hbefore, hnote, hsome⟩
    have hfront : stripSuffix? "-->".toList (trimEnd content.toList) =
        some (before ++ (commentStart ++ comment)) := by
      rw [stripSuffix?_eq_some, htrim]
      simp only [List.append_assoc]
      rfl
    have hsplit : splitAt? "<!--".toList (before ++ (commentStart ++ comment)) = some (before, comment) :=
      splitAt?_first (by decide) hbefore comment
    refine ⟨_, hfront, _, hsplit, ?_⟩
    dsimp only
    rw [← hnote, String.ofList_toList, if_neg]
    intro hempty
    exact hsome (String.toList_eq_nil_iff.mp (List.isEmpty_iff.mp hempty))

/-- A closing mark is not cut off with the white space around it. -/
theorem commentEnd_infix_trim {s : List Char} (h : commentEnd <:+: s) : commentEnd <:+: trim s :=
  infix_trim ['-'] (by decide) (by decide) h

/-- What is cut off around a comment does not make a closing mark. -/
theorem commentEnd_infix_of_trim {s : List Char} (h : commentEnd <:+: trim s) : commentEnd <:+: s :=
  (h.trans (prefix_trimEnd _).isInfix).trans (List.dropWhile_suffix isWhite).isInfix

/-! ## When it is the comment at the end -/

/-- A text that opens a comment and ends outside of it closes the comment. -/
theorem Closed.closes {s : List Char} (h : Closed s) (hopens : commentStart <:+: s) :
    ∃ p c rest, s = p ++ (commentStart ++ (c ++ (commentEnd ++ rest))) := by
  cases h with
  | prose hnone => exact absurd hopens hnone
  | @comment p c rest _ _ _ => exact ⟨p, c, rest, rfl⟩

variable {content note : String}

/-- If nothing is closed before the end, the first opening mark is that of the comment at the end. -/
theorem isNote_of_trailingComment? (hopen : ¬ ClosedEarlier content.toList)
    (h : trailingComment? content = some note) : IsNote content note := by
  obtain ⟨before, comment, htrim, hbefore, hnote, hsome⟩ := trailingComment?_eq_some.mp h
  have hcomment : ¬ commentEnd <:+: comment := fun hends => hopen ⟨before, comment, htrim, hends⟩
  exact ⟨comment, ⟨before, htrim, .prose hbefore, hcomment⟩, hnote, hsome⟩

theorem trailingComment?_of_isNote (hopen : ¬ ClosedEarlier content.toList) (h : IsNote content note) :
    trailingComment? content = some note := by
  obtain ⟨comment, ⟨before, htrim, hclosed, -⟩, hnote, hsome⟩ := h
  refine trailingComment?_eq_some.mpr ⟨before, comment, htrim, fun hopens => ?_, hnote, hsome⟩
  -- an earlier comment would be closed before the one at the end starts
  obtain ⟨p, c, rest, rfl⟩ := hclosed.closes hopens
  refine hopen ⟨p, c ++ (commentEnd ++ (rest ++ (commentStart ++ comment))), ?_, ?_⟩
  · rw [htrim]
    simp only [List.append_assoc]
  · exact List.infix_append' _ _ _

/-- No note that is meant has a closing mark in it. -/
theorem IsNote.not_infix (h : IsNote content note) : ¬ commentEnd <:+: note.toList := by
  obtain ⟨comment, ⟨_, _, _, hcomment⟩, hnote, -⟩ := h
  rw [hnote]
  exact fun hends => hcomment (commentEnd_infix_of_trim hends)

/-- If a comment is closed before the end, what is taken for the note has the closing mark. -/
theorem exists_of_closedEarlier (h : ClosedEarlier content.toList) :
    ∃ note, trailingComment? content = some note ∧ commentEnd <:+: note.toList := by
  obtain ⟨before, between, htrim, hends⟩ := h
  -- the first opening mark stands there or before
  have hopens : commentStart <:+: before ++ (commentStart ++ between) := List.infix_append' _ _ _
  obtain ⟨⟨first, comment⟩, hsplit⟩ := Option.isSome_iff_exists.mp (containsText_iff.mpr hopens)
  obtain ⟨hwhole, hfirst⟩ := splitAt?_eq_some.mp hsplit
  have hbehind : between <:+ comment := by
    have hle : first.length ≤ before.length := hfirst before between rfl
    refine List.suffix_of_suffix_length_le (?_ : _ <:+ before ++ (commentStart ++ between)) ?_ ?_
    · exact ⟨before ++ commentStart, by simp⟩
    · exact ⟨first ++ commentStart, by rw [hwhole, List.append_assoc]⟩
    · have hlength := congrArg List.length hwhole
      simp only [List.length_append] at hlength
      omega
  have hcomment : commentEnd <:+: trim comment := commentEnd_infix_trim (hends.trans hbehind.isInfix)
  refine ⟨String.ofList (trim comment), trailingComment?_eq_some.mpr ⟨first, comment, ?_, ?_, ?_, ?_⟩, ?_⟩
  · have hjoin : before ++ (commentStart ++ (between ++ commentEnd)) =
        before ++ (commentStart ++ between) ++ commentEnd := by simp only [List.append_assoc]
    rw [htrim, hjoin, hwhole]
    simp only [List.append_assoc]
  · exact not_infix_of_splitAt? commentStart_ne_nil hsplit
  · exact String.toList_ofList
  · intro hempty
    rw [String.ofList_eq_empty_iff] at hempty
    rw [hempty] at hcomment
    exact absurd hcomment (by decide)
  · rwa [String.toList_ofList]

/-- The note of a slide runs from the first opening mark to the end of its content. So it is the comment at the
end exactly if no comment is closed before; and exactly otherwise there is a note that has a closing mark in
it. -/
theorem note_last_comment_iff (s : Slide) :
    (∀ note, s.note? = some note ↔ RunsFromFirst s.content note) ∧
    ((∀ note, s.note? = some note ↔ IsNote s.content note) ↔ ¬ ClosedEarlier s.content.toList) ∧
    ((∃ note, s.note? = some note ∧ commentEnd <:+: note.toList) ↔ ClosedEarlier s.content.toList) := by
  have hlater {note : String} (hnote : s.note? = some note) (hends : commentEnd <:+: note.toList) :
      ClosedEarlier s.content.toList := by
    obtain ⟨before, comment, htrim, -, htext, -⟩ := trailingComment?_eq_some.mp hnote
    rw [htext] at hends
    exact ⟨before, comment, htrim, commentEnd_infix_of_trim hends⟩
  refine ⟨fun note => trailingComment?_eq_some, ⟨fun hall hclosed => ?_, fun hopen note => ?_⟩,
    fun ⟨note, hnote, hends⟩ => hlater hnote hends, exists_of_closedEarlier⟩
  · obtain ⟨note, hnote, hends⟩ := exists_of_closedEarlier hclosed
    exact IsNote.not_infix ((hall note).mp hnote) hends
  · exact ⟨isNote_of_trailingComment? hopen, trailingComment?_of_isNote hopen⟩

/-- A slide with a draft and a note, both in comments. -/
def draftedDeck : String := "# One\n\n<!-- draft -->\n\n<!-- say hello -->\n"

/-- The note begins with the draft, and has the marks between the two comments. -/
theorem note_begins_with_draft :
    ∃ deck, parse draftedDeck = .ok deck ∧ ∃ slide ∈ deck.slides,
      IsNote slide.content "say hello" ∧ slide.note? = some "draft -->\n\n<!-- say hello" := by
  have hread : (parse draftedDeck).toOption.any (·.slides.any fun slide =>
      slide.content = draftedDeck ∧ slide.note? = some "draft -->\n\n<!-- say hello") = true := by
    decide +kernel
  obtain ⟨deck, hparse, htest⟩ := exists_deck hread
  obtain ⟨slide, hslide, hfound⟩ := List.any_eq_true.mp htest
  obtain ⟨hcontent, hnote⟩ := of_decide_eq_true hfound
  refine ⟨deck, hparse, slide, hslide, ?_, hnote⟩
  rw [hcontent]
  have hdraft : Closed "# One\n\n<!-- draft -->\n\n".toList :=
    @Closed.comment "# One\n\n".toList " draft ".toList "\n\n".toList (by decide +kernel) (by decide +kernel)
      (.prose (by decide +kernel))
  exact ⟨" say hello ".toList, ⟨_, by decide +kernel, hdraft, by decide +kernel⟩, by decide, by decide⟩

end DeckPress.Deck
