import DeckPress.Component.Script
import DeckPress.Proofs.Component.FrontMatter
import DeckPress.Proofs.Component.Hoist
import DeckPress.Proofs.Text.Search

/-!
# Tags of scripts and the scripts themselves

Whoever puts statements into a setup script looks for an opening tag, wherever it stands; whoever reads scripts
goes from one to the next, each from its opening tag up to the first closing tag. What a text has of scripts up
to some place is said for the text in front of the place alone: which scripts end there, and whether one is
left open. So the two can be compared, and so can a text before and after something was put in at that place.
-/

namespace DeckPress.Component

open Text

/-- What the opening tag of a script starts with. -/
def scriptStart : List Char := "<script".toList

/-- An opening tag of a script with these attributes: it ends with the first bracket. -/
structure ScriptTag (tag attributes : List Char) : Prop where
  eq : tag = scriptStart ++ (attributes ++ ['>'])
  apart : attributes.head?.any isWord = false
  unclosed : '>' ∉ attributes

def IsScriptTag (tag : List Char) : Prop := ∃ attributes, ScriptTag tag attributes

/-- The opening tag of a setup script. -/
def IsSetupTag (tag : List Char) : Prop :=
  ∃ attributes, ScriptTag tag attributes ∧ containsWord "setup" attributes = true

theorem IsSetupTag.isScriptTag {tag : List Char} (h : IsSetupTag tag) : IsScriptTag tag :=
  h.imp fun _ h => h.1

/-- A text is empty or ends with a bracket. -/
def EndsClosed (s : List Char) : Prop := ∀ c ∈ s.getLast?, c = '>'

theorem EndsClosed.of_append {a b : List Char} (h : EndsClosed (a ++ b)) : EndsClosed b := by
  intro c hc
  exact h c (by rw [List.getLast?_append, Option.mem_def.mp hc]; rfl)

theorem EndsClosed.of_cons {c : Char} {s : List Char} (h : EndsClosed (c :: s)) : EndsClosed s :=
  EndsClosed.of_append (a := [c]) h

/-- Up to the first bracket. -/
theorem splitAt?_bracket {s attributes rest : List Char} :
    splitAt? ['>'] s = some (attributes, rest) ↔ s = attributes ++ '>' :: rest ∧ '>' ∉ attributes := by
  constructor
  · intro h
    refine ⟨eq_append_of_splitAt? h, fun hmem => ?_⟩
    obtain ⟨a, b, rfl⟩ := List.append_of_mem hmem
    exact not_infix_of_splitAt? (List.cons_ne_nil _ _) h ⟨a, b, by simp⟩
  · rintro ⟨rfl, hopen⟩
    have hcut := splitAt?_append hopen [] rest
    rwa [List.append_assoc] at hcut

/-! ## Opening tags -/

theorem bracket_not_mem_scriptStart : '>' ∉ scriptStart := by decide

namespace ScriptTag

variable {tag attributes : List Char}

theorem ne_nil (h : ScriptTag tag attributes) : tag ≠ [] := by
  rw [h.eq]
  exact List.cons_ne_nil _ _

theorem endsClosed_append (h : ScriptTag tag attributes) (front : List Char) : EndsClosed (front ++ tag) := by
  intro c hc
  rw [h.eq, ← List.append_assoc, ← List.append_assoc, List.getLast?_append] at hc
  exact (Option.some.inj hc).symm

/-- The only bracket of a tag is at its end. -/
theorem eq_of_bracket (h : ScriptTag tag attributes) {a b : List Char} (htag : tag = a ++ '>' :: b) : b = [] := by
  rw [h.eq, ← List.append_assoc] at htag
  have hbefore : '>' ∉ scriptStart ++ attributes := by
    rw [List.mem_append, not_or]
    exact ⟨bracket_not_mem_scriptStart, h.unclosed⟩
  exact eq_nil_of_snoc_eq hbefore htag

/-- A tag that starts in a text which ends with a bracket ends in it. -/
theorem prefix_of_append (h : ScriptTag tag attributes) {s z rest : List Char} (hs : EndsClosed s) (hsome : s ≠ [])
    (heq : s ++ z = tag ++ rest) : ∃ rest', s = tag ++ rest' := by
  rcases List.append_eq_append_iff.mp heq with ⟨more, htag, -⟩ | ⟨rest', hrest', -⟩
  · obtain ⟨front, hfront⟩ := List.getLast?_eq_some_iff.mp
      ((List.getLast?_eq_some_getLast hsome).trans
        (congrArg some (hs _ (List.getLast?_eq_some_getLast hsome))))
    have hnone : more = [] := h.eq_of_bracket (a := front) (by rw [htag, hfront]; simp)
    exact ⟨[], by rw [htag, hnone]; simp⟩
  · exact ⟨rest', hrest'⟩

/-- A tag that starts within such a text, and not behind it, ends in it. -/
theorem within_of_append (h : ScriptTag tag attributes) {p s z rest : List Char} (hs : EndsClosed s)
    (hstart : p.length < s.length) (heq : s ++ z = p ++ (tag ++ rest)) : ∃ rest', s = p ++ (tag ++ rest') := by
  rcases List.append_eq_append_iff.mp heq with ⟨more, hp, -⟩ | ⟨behind, hbehind, hmore⟩
  · rw [hp, List.length_append] at hstart
    omega
  · have hsome : behind ≠ [] := by
      rintro rfl
      rw [hbehind, List.append_nil] at hstart
      exact absurd hstart (Nat.lt_irrefl _)
    rw [hbehind] at hs
    obtain ⟨rest', hrest'⟩ := h.prefix_of_append hs.of_append hsome hmore.symm
    exact ⟨rest', by rw [hbehind, hrest']⟩

end ScriptTag

/-! ## The first opening tag of a setup script -/

/-- The first opening tag of a setup script in a text, with what stands before and behind it. -/
structure FirstSetupTag (s before tag after : List Char) : Prop where
  eq : s = before ++ (tag ++ after)
  setup : IsSetupTag tag
  first : ∀ p t r, s = p ++ (t ++ r) → IsSetupTag t → before.length ≤ p.length

/-- An opening tag of a setup script at the start of a text. -/
def readSetupTag? (s : List Char) : Option (List Char × List Char) :=
  (stripPrefix? scriptStart s).bind fun rest =>
    if rest.head?.any isWord then none
    else (splitAt? ['>'] rest).bind fun (attributes, rest) =>
      if containsWord "setup" attributes then some (scriptStart ++ (attributes ++ ['>']), rest) else none

theorem readSetupTag?_eq_some {s tag rest : List Char} :
    readSetupTag? s = some (tag, rest) ↔ s = tag ++ rest ∧ IsSetupTag tag := by
  unfold readSetupTag?
  constructor
  · intro h
    obtain ⟨behind, hstart, h⟩ := Option.bind_eq_some_iff.mp h
    split at h
    · cases h
    · rename_i hapart
      obtain ⟨⟨attributes, more⟩, hclose, h⟩ := Option.bind_eq_some_iff.mp h
      dsimp only at h
      split at h
      · rename_i hsetup
        cases h
        obtain ⟨rfl, hopen⟩ := splitAt?_bracket.mp hclose
        refine ⟨?_, attributes, ⟨rfl, ?_, hopen⟩, hsetup⟩
        · rw [eq_append_of_stripPrefix? hstart]
          simp
        · cases attributes with
          | nil => rfl
          | cons c attributes => simpa using hapart
      · cases h
  · rintro ⟨rfl, attributes, ⟨rfl, hapart, hopen⟩, hsetup⟩
    have hhead : ((attributes ++ ['>'] ++ rest).head?.any isWord) = false := by
      cases attributes with
      | nil => exact (by decide : isWord '>' = false)
      | cons c attributes => exact hapart
    rw [List.append_assoc, stripPrefix?_append, Option.bind_some, hhead, if_neg Bool.false_ne_true,
      splitAt?_bracket.mpr ⟨List.append_assoc _ _ _, hopen⟩]
    dsimp only [Option.bind_some]
    rw [if_pos hsetup]
    rfl

theorem splitAtSetup?_go_cons (passed : List Char) (c : Char) (cs : List Char) :
    splitAtSetup?.go passed (c :: cs) =
      match readSetupTag? (c :: cs) with
      | some (tag, rest) => some (passed.reverse ++ tag, rest)
      | none => splitAtSetup?.go (c :: passed) cs := by
  have hstart : "<script".toList = scriptStart := rfl
  rw [splitAtSetup?.go, readSetupTag?]
  simp only [hstart, Option.bind_eq_bind]
  cases stripPrefix? scriptStart (c :: cs) with
  | none => rfl
  | some rest =>
    simp only [Option.bind_some]
    cases rest.head?.any isWord with
    | true => rfl
    | false =>
      simp only [Bool.false_eq_true, if_false]
      cases splitAt? ['>'] rest with
      | none => rfl
      | some found =>
        simp only [Option.bind_some]
        cases containsWord "setup" found.1 with
        | true =>
          simp only [if_true, List.append_assoc]
        | false => rfl

theorem firstSetupTag_of_read {s t r : List Char} (h : readSetupTag? s = some (t, r)) {before tag after : List Char} :
    FirstSetupTag s before tag after ↔ before = [] ∧ tag = t ∧ after = r := by
  obtain ⟨hs, ht⟩ := readSetupTag?_eq_some.mp h
  constructor
  · intro hfirst
    have hnone : before = [] := List.eq_nil_of_length_eq_zero (Nat.le_zero.mp (hfirst.first [] t r hs ht))
    have hwhole : s = tag ++ after := by rw [hfirst.eq, hnone, List.nil_append]
    have hread := readSetupTag?_eq_some.mpr ⟨hwhole, hfirst.setup⟩
    rw [h] at hread
    cases hread
    exact ⟨hnone, rfl, rfl⟩
  · rintro ⟨rfl, rfl, rfl⟩
    exact ⟨hs, ht, fun _ _ _ _ _ => Nat.zero_le _⟩

theorem firstSetupTag_cons {c : Char} {s : List Char} (h : readSetupTag? (c :: s) = none)
    {before tag after : List Char} :
    FirstSetupTag (c :: s) before tag after ↔ ∃ b, before = c :: b ∧ FirstSetupTag s b tag after := by
  have hnot {t r : List Char} (heq : c :: s = t ++ r) : ¬ IsSetupTag t := by
    intro ht
    rw [readSetupTag?_eq_some.mpr ⟨heq, ht⟩] at h
    cases h
  constructor
  · rintro ⟨heq, hsetup, hfirst⟩
    cases before with
    | nil => exact absurd hsetup (hnot heq)
    | cons x b =>
      obtain ⟨rfl, hs⟩ := List.cons.inj heq
      refine ⟨b, rfl, hs, hsetup, fun p t r hpt ht => ?_⟩
      exact Nat.le_of_succ_le_succ (hfirst (c :: p) t r (by rw [hpt, List.cons_append]) ht)
  · rintro ⟨b, rfl, rfl, hsetup, hfirst⟩
    refine ⟨rfl, hsetup, fun p t r hpt ht => ?_⟩
    cases p with
    | nil => exact absurd ht (hnot hpt)
    | cons x p => exact Nat.succ_le_succ (hfirst p t r (List.cons.inj hpt).2 ht)

theorem splitAtSetup?_eq_some {s upTo after : List Char} :
    splitAtSetup? s = some (upTo, after) ↔
      ∃ before tag, upTo = before ++ tag ∧ FirstSetupTag s before tag after := by
  have hgo : ∀ passed s, splitAtSetup?.go passed s = some (upTo, after) ↔
      ∃ before tag, upTo = passed.reverse ++ (before ++ tag) ∧ FirstSetupTag s before tag after := by
    intro passed s
    induction s generalizing passed with
    | nil =>
      refine iff_of_false (fun h => nomatch h) ?_
      rintro ⟨before, tag, -, hfirst⟩
      obtain ⟨attributes, htag, -⟩ := hfirst.setup
      exact htag.ne_nil (List.append_eq_nil_iff.mp (List.append_eq_nil_iff.mp hfirst.eq.symm).2).1
    | cons c s ih =>
      rw [splitAtSetup?_go_cons]
      cases hread : readSetupTag? (c :: s) with
      | some found =>
        obtain ⟨t, r⟩ := found
        simp only [firstSetupTag_of_read hread]
        constructor
        · rintro ⟨⟩
          exact ⟨[], t, rfl, rfl, rfl, rfl⟩
        · rintro ⟨_, _, rfl, rfl, rfl, rfl⟩
          rfl
      | none =>
        simp only [firstSetupTag_cons hread]
        rw [ih]
        constructor
        · rintro ⟨before, tag, hupTo, hfirst⟩
          exact ⟨c :: before, tag, by rw [hupTo]; simp, before, rfl, hfirst⟩
        · rintro ⟨_, tag, hupTo, before, rfl, hfirst⟩
          exact ⟨before, tag, by rw [hupTo]; simp, hfirst⟩
  exact hgo [] s

theorem splitAtSetup?_eq_none {s : List Char} :
    splitAtSetup? s = none ↔ ∀ p t r, s = p ++ (t ++ r) → ¬ IsSetupTag t := by
  have hgo : ∀ passed s, splitAtSetup?.go passed s = none ↔ ∀ p t r, s = p ++ (t ++ r) → ¬ IsSetupTag t := by
    intro passed s
    induction s generalizing passed with
    | nil =>
      refine iff_of_true rfl fun p t r heq ⟨attributes, htag, _⟩ => ?_
      exact htag.ne_nil (List.append_eq_nil_iff.mp (List.append_eq_nil_iff.mp heq.symm).2).1
    | cons c s ih =>
      rw [splitAtSetup?_go_cons]
      cases hread : readSetupTag? (c :: s) with
      | some found =>
        obtain ⟨heq, ht⟩ := readSetupTag?_eq_some.mp hread
        exact iff_of_false (fun h => nomatch h) fun hnone => hnone [] _ _ heq ht
      | none =>
        dsimp only
        rw [ih]
        constructor
        · intro hnone p t r heq ht
          cases p with
          | nil =>
            rw [readSetupTag?_eq_some.mpr ⟨heq.trans (List.nil_append _), ht⟩] at hread
            cases hread
          | cons x p => exact hnone p t r (List.cons.inj heq).2 ht
        · exact fun hnone p t r heq => hnone (c :: p) t r (by rw [heq, List.cons_append])
  exact hgo [] s

/-! ## The scripts of a text -/

/-- The contents of the scripts of a text. -/
def scriptContents (s : List Char) : List (List Char) := (cutElements "script" s).2.map (·.content)

/-- An opening tag of a script stands at the start. -/
def BeginsScript (s : List Char) : Prop := ∃ tag rest, s = tag ++ rest ∧ IsScriptTag tag

/-- A text is read for scripts from the left. It has the contents of the scripts that end in it, and the
content so far of the one that is left open. -/
inductive Scanned : List Char → List (List Char) → Option (List Char) → Prop where
  | nothing : Scanned [] [] none
  | text {c : Char} {s : List Char} {contents : List (List Char)} {left : Option (List Char)} :
      ¬ BeginsScript (c :: s) → Scanned s contents left → Scanned (c :: s) contents left
  | script {tag content rest : List Char} {contents : List (List Char)} {left : Option (List Char)} :
      IsScriptTag tag → ¬ scriptEnd <:+: content → Scanned rest contents left →
      Scanned (tag ++ (content ++ (scriptEnd ++ rest))) (content :: contents) left
  | within {tag content : List Char} :
      IsScriptTag tag → ¬ scriptEnd <:+: content → Scanned (tag ++ content) [] (some content)

/-- Behind this text one is in a script: one that is opened in the text and not closed. -/
def InScript (s : List Char) : Prop := ∃ contents content, Scanned s contents (some content)

theorem scriptEnd_ne_nil : scriptEnd ≠ [] := List.cons_ne_nil _ _

theorem exists_scanned (s : List Char) : ∃ contents left, Scanned s contents left := by
  induction hlength : s.length using Nat.strong_induction_on generalizing s with
  | _ n ih =>
    subst hlength
    cases s with
    | nil => exact ⟨[], none, .nothing⟩
    | cons c s =>
      by_cases hbegins : BeginsScript (c :: s)
      · -- the script goes up to the first closing tag, or is left open
        obtain ⟨tag, rest, heq, htag⟩ := hbegins
        rw [heq]
        cases hclose : splitAt? scriptEnd rest with
        | none =>
          have hopen : ¬ scriptEnd <:+: rest := splitAt?_eq_none.mp hclose
          exact ⟨[], some rest, .within htag hopen⟩
        | some found =>
          obtain ⟨content, behind⟩ := found
          have hrest := eq_append_of_splitAt? hclose
          have hshorter : behind.length < (c :: s).length := by
            rw [heq, hrest]
            simp only [List.length_append, scriptEnd, List.length_cons]
            omega
          obtain ⟨contents, left, hscanned⟩ := ih _ hshorter behind rfl
          rw [hrest]
          exact ⟨_, _, .script htag (not_infix_of_splitAt? scriptEnd_ne_nil hclose) hscanned⟩
      · obtain ⟨contents, left, hscanned⟩ := ih _ (Nat.lt_succ_self _) s rfl
        exact ⟨_, _, .text hbegins hscanned⟩

/-! ## Cutting scripts out -/

theorem cutElements_go_eq {name : String} {s : List Char} {fuel fuel' : Nat} (h : s.length ≤ fuel)
    (h' : s.length ≤ fuel') : cutElements.go name fuel s = cutElements.go name fuel' s := by
  induction fuel generalizing s fuel' with
  | zero =>
    cases List.eq_nil_of_length_eq_zero (Nat.le_zero.mp h)
    rw [cutElements.go, cutElements.go]
  | succ fuel ih =>
    cases s with
    | nil => rw [cutElements.go, cutElements.go]
    | cons c s =>
      obtain ⟨fuel', rfl⟩ := Nat.exists_eq_add_one_of_ne_zero (Nat.ne_zero_of_lt h')
      rw [cutElements.go, cutElements.go]
      cases hread : readElement? name (c :: s) with
      | none =>
        dsimp only
        rw [ih (Nat.le_of_succ_le_succ h) (Nat.le_of_succ_le_succ h')]
      | some found =>
        have hshorter := Brace.Marked.readElement?_length hread
        dsimp only
        rw [ih (Nat.le_of_lt_succ (hshorter.trans_le h)) (Nat.le_of_lt_succ (hshorter.trans_le h'))]

theorem scriptContents_cons (c : Char) (s : List Char) :
    scriptContents (c :: s) =
      match readElement? "script" (c :: s) with
      | some (e, rest) => e.content :: scriptContents rest
      | none => scriptContents s := by
  unfold scriptContents cutElements
  rw [List.length_cons, cutElements.go]
  cases hread : readElement? "script" (c :: s) with
  | none => rfl
  | some found =>
    have hshorter := Brace.Marked.readElement?_length hread
    dsimp only
    rw [cutElements_go_eq (Nat.le_of_lt_succ hshorter) (Nat.le_refl _)]
    rfl

theorem readElement?_of_not_begins {s : List Char} (h : ¬ BeginsScript s) : readElement? "script" s = none := by
  rw [Brace.Marked.readElement?_eq, Option.bind_eq_none_iff]
  intro rest hstart
  split
  · rfl
  · rename_i hapart
    rw [Option.bind_eq_none_iff]
    rintro ⟨attributes, behind⟩ hclose
    obtain ⟨rfl, hopen⟩ := splitAt?_bracket.mp hclose
    refine absurd ⟨scriptStart ++ (attributes ++ ['>']), behind, ?_, attributes, rfl, ?_, hopen⟩ h
    · have hword : scriptStart = '<' :: "script".toList := by decide
      rw [eq_append_of_stripPrefix? hstart, hword]
      simp only [List.append_assoc, List.cons_append, List.nil_append]
    · cases attributes with
      | nil => rfl
      | cons c attributes => simpa using hapart

theorem readElement?_script {tag content : List Char} (htag : IsScriptTag tag) (hcontent : ¬ scriptEnd <:+: content)
    (rest : List Char) :
    ∃ e, readElement? "script" (tag ++ (content ++ (scriptEnd ++ rest))) = some (e, Brace.Marked.behind rest) ∧
      e.content = content := by
  obtain ⟨attributes, rfl, hapart, hopen⟩ := htag
  have hhead : ((attributes ++ '>' :: (content ++ (scriptEnd ++ rest))).head?.any isWord) = false := by
    cases attributes with
    | nil => exact (by decide : isWord '>' = false)
    | cons c attributes => exact hapart
  have hstart : scriptStart ++ (attributes ++ ['>']) ++ (content ++ (scriptEnd ++ rest)) =
      scriptStart ++ (attributes ++ '>' :: (content ++ (scriptEnd ++ rest))) := by simp
  have hend : splitAt? (Brace.Marked.closingTag "script") (content ++ (scriptEnd ++ rest)) = some (content, rest) :=
    splitAt?_first (by decide) hcontent rest
  rw [Brace.Marked.readElement?_eq, hstart]
  show ∃ e, ((stripPrefix? scriptStart _).bind _) = _ ∧ _
  rw [stripPrefix?_append, Option.bind_some, hhead, if_neg Bool.false_ne_true, splitAt?_bracket.mpr ⟨rfl, hopen⟩,
    Option.bind_some]
  dsimp only
  rw [hend]
  exact ⟨_, rfl, rfl⟩

theorem scriptContents_text {c : Char} {s : List Char} (h : ¬ BeginsScript (c :: s)) :
    scriptContents (c :: s) = scriptContents s := by
  rw [scriptContents_cons, readElement?_of_not_begins h]

theorem not_beginsScript {c : Char} (hc : c ≠ '<') (s : List Char) : ¬ BeginsScript (c :: s) := by
  rintro ⟨_, rest, heq, attributes, rfl, -, -⟩
  exact hc (List.cons.inj heq).1

/-- A text without an opening bracket has no script, and opens none. -/
theorem scriptContents_plain_append {p : List Char} (hp : '<' ∉ p) (s : List Char) :
    scriptContents (p ++ s) = scriptContents s := by
  induction p with
  | nil => rfl
  | cons c p ih =>
    obtain ⟨hc, hp⟩ := List.ne_and_not_mem_of_not_mem_cons hp
    rw [List.cons_append, scriptContents_text (not_beginsScript hc.symm _), ih hp]

theorem scriptContents_script {tag content : List Char} (htag : IsScriptTag tag) (hcontent : ¬ scriptEnd <:+: content)
    (rest : List Char) :
    scriptContents (tag ++ (content ++ (scriptEnd ++ rest))) = content :: scriptContents rest := by
  obtain ⟨e, hread, he⟩ := readElement?_script htag hcontent rest
  have hbehind : scriptContents (Brace.Marked.behind rest) = scriptContents rest := by
    unfold Brace.Marked.behind
    split
    · exact (scriptContents_plain_append (p := ['\n']) (by decide) _).symm
    · rfl
  obtain ⟨attributes, ht⟩ := htag
  obtain ⟨c, s, hs⟩ := List.exists_cons_of_ne_nil (List.append_ne_nil_of_left_ne_nil ht.ne_nil
    (content ++ (scriptEnd ++ rest)))
  rw [hs] at hread ⊢
  rw [scriptContents_cons, hread]
  dsimp only
  rw [he, hbehind]

/-! ## Going on behind a text -/

/-- What goes on behind a text that ends with a bracket opens no script in it. -/
theorem not_beginsScript_append {s : List Char} (hclosed : EndsClosed s) (hsome : s ≠ []) (h : ¬ BeginsScript s)
    (z : List Char) : ¬ BeginsScript (s ++ z) := by
  rintro ⟨tag, rest, heq, attributes, htag⟩
  obtain ⟨rest', hrest'⟩ := htag.prefix_of_append hclosed hsome heq
  exact h ⟨tag, rest', hrest', attributes, htag⟩

/-- A closing tag is not cut by the end of a text that ends with a bracket. -/
theorem scriptEnd_infix_append {a b : List Char} (ha : EndsClosed a) (hna : ¬ scriptEnd <:+: a)
    (hnb : ¬ scriptEnd <:+: b) : ¬ scriptEnd <:+: a ++ b := fun h =>
  (infix_append_of_ends (m := "</script".toList) (by decide) ha h).elim hna hnb

theorem Scanned.contents_append {s : List Char} {contents : List (List Char)} (h : Scanned s contents none)
    (hclosed : EndsClosed s) (z : List Char) : scriptContents (s ++ z) = contents ++ scriptContents z := by
  generalize hleft : (none : Option (List Char)) = left at h
  induction h with
  | nothing => rfl
  | @text c s contents left hbegins h ih =>
    rw [List.cons_append, scriptContents_text, ih hclosed.of_cons hleft]
    exact not_beginsScript_append hclosed (List.cons_ne_nil c s) hbegins z
  | @script tag content rest contents left htag hcontent h ih =>
    have hrest : EndsClosed rest := (hclosed.of_append.of_append.of_append)
    simp only [List.append_assoc, List.cons_append]
    rw [scriptContents_script htag hcontent, ih hrest hleft]
  | within => cases hleft

/-- A script that is left open goes on behind the text, up to the first closing tag. -/
theorem Scanned.contents_within {s x : List Char} {contents : List (List Char)} (h : Scanned s contents (some x))
    (hclosed : EndsClosed s) {y : List Char} (hy : ¬ scriptEnd <:+: y) (w : List Char) :
    scriptContents (s ++ (y ++ (scriptEnd ++ w))) = contents ++ (x ++ y) :: scriptContents w := by
  generalize hleft : some x = left at h
  induction h with
  | nothing => cases hleft
  | @text c s contents left hbegins h ih =>
    rw [List.cons_append, scriptContents_text, ih hclosed.of_cons hleft]
    exact not_beginsScript_append hclosed (List.cons_ne_nil c s) hbegins _
  | @script tag content rest contents left htag hcontent h ih =>
    have hrest : EndsClosed rest := (hclosed.of_append.of_append.of_append)
    have hwhole : tag ++ (content ++ (scriptEnd ++ rest)) ++ (y ++ (scriptEnd ++ w)) =
        tag ++ (content ++ (scriptEnd ++ (rest ++ (y ++ (scriptEnd ++ w))))) := by
      simp only [List.append_assoc]
    rw [hwhole, scriptContents_script htag hcontent, ih hrest hleft, List.cons_append]
  | @within tag content htag hcontent =>
    cases hleft
    have hopen : ¬ scriptEnd <:+: x ++ y := scriptEnd_infix_append hclosed.of_append hcontent hy
    have hwhole : tag ++ x ++ (y ++ (scriptEnd ++ w)) = tag ++ (x ++ y ++ (scriptEnd ++ w)) := by
      simp only [List.append_assoc]
    rw [hwhole, scriptContents_script htag hopen, List.nil_append]

/-- What is left open ends as the text does. -/
theorem Scanned.endsClosed_left {s x : List Char} {contents : List (List Char)} (h : Scanned s contents (some x))
    (hclosed : EndsClosed s) : EndsClosed x := by
  generalize hleft : some x = left at h
  induction h with
  | nothing => cases hleft
  | text _ _ ih => exact ih hclosed.of_cons hleft
  | script _ _ _ ih => exact ih hclosed.of_append.of_append.of_append hleft
  | within =>
    cases hleft
    exact hclosed.of_append

/-- A tag in which no other bracket opens does not end as a script does. -/
theorem not_script_eq_tag {tag : List Char} (htag : IsScriptTag tag) (hplain : '<' ∉ tag.tail)
    {script before : List Char} : script ++ scriptEnd ≠ before ++ tag := by
  intro heq
  obtain ⟨attributes, rfl, -, -⟩ := htag
  rcases List.append_eq_append_iff.mp heq with ⟨more, -, hend⟩ | ⟨more, -, htag⟩
  · cases more with
    | nil => cases hend
    | cons c more =>
      have hmem : '<' ∈ scriptEnd.tail := by
        rw [hend]
        exact List.mem_append_right more List.mem_cons_self
      exact absurd hmem (by decide)
  · cases more with
    | nil => cases htag
    | cons c more =>
      rw [htag] at hplain
      exact hplain (List.mem_append_right more List.mem_cons_self)

/-- The end of a tag ends a script only if it is the closing tag of the script itself. -/
theorem Scanned.left_of_tag {s : List Char} {contents : List (List Char)} {left : Option (List Char)}
    (h : Scanned s contents left) {before tag : List Char} (hs : s = before ++ tag) (htag : IsScriptTag tag)
    (hplain : '<' ∉ tag.tail) : left ≠ none := by
  induction h generalizing before with
  | nothing =>
    obtain ⟨attributes, ht⟩ := htag
    exact absurd (List.append_eq_nil_iff.mp hs.symm).2 ht.ne_nil
  | @text c s contents left hbegins h ih =>
    cases before with
    | nil => exact absurd ⟨tag, [], by rw [hs]; simp, htag⟩ hbegins
    | cons x before => exact ih (List.cons.inj hs).2
  | @script first content rest contents left hfirst hcontent h ih =>
    have hcut : (first ++ (content ++ scriptEnd)) ++ rest = before ++ tag := by
      rw [← hs]
      simp only [List.append_assoc]
    rcases List.append_eq_append_iff.mp hcut with ⟨more, -, hrest⟩ | ⟨more, hmore, htail⟩
    · exact ih hrest
    · cases hlast : more.getLast? with
      | none =>
        rw [List.getLast?_eq_none_iff.mp hlast, List.nil_append] at htail
        exact ih (htail.symm.trans (List.nil_append tag).symm)
      | some c =>
        -- the tag ends where the script does
        obtain ⟨front, rfl⟩ := List.getLast?_eq_some_iff.mp hlast
        obtain ⟨attributes, ht⟩ := id htag
        have hc : c = '>' := by
          have hends := congrArg List.getLast? hmore
          rw [← List.append_assoc, ← List.append_assoc, List.getLast?_append, List.getLast?_concat] at hends
          exact (Option.some.inj hends).symm
        have hrest : rest = [] := ht.eq_of_bracket (a := front) (by rw [htail, hc]; simp)
        rw [hrest, List.append_nil] at htail
        rw [← htail, ← List.append_assoc] at hmore
        exact absurd hmore (not_script_eq_tag htag hplain)
  | within => exact Option.some_ne_none _

/-- A tag in which no other bracket opens leaves one in a script. -/
theorem inScript_of_tag {before tag : List Char} (htag : IsScriptTag tag) (hplain : '<' ∉ tag.tail) :
    InScript (before ++ tag) := by
  obtain ⟨contents, left, hscanned⟩ := exists_scanned (before ++ tag)
  cases left with
  | none => exact absurd rfl (hscanned.left_of_tag rfl htag hplain)
  | some content => exact ⟨contents, content, hscanned⟩

end DeckPress.Component
