import DeckPress.Proofs.Component.Compile
import DeckPress.Proofs.Json.Strings

/-!
# Front matter in a component

Front matter is put into a component as it is: as JSON into the script that the compiler writes, and its
class into an attribute. A reader takes for the script what stands in front of the first closing tag, and
for the classes what stands in front of the first quote. So it finds the front matter unless a string of
the front matter closes the script, and the classes unless they have a quote.
-/

namespace DeckPress.Component

open Text

/-! ## Reading a component -/

/-- The end of a script. -/
def scriptEnd : List Char := ['<', '/', 's', 'c', 'r', 'i', 'p', 't', '>']

/-- What stands in front of the script that the compiler writes. -/
def templateText (o : MarkdownOptions) (fields : Fields) (template : List Char) : List Char :=
  frontText o fields ++ (classText o fields ++ (openText o fields ++ (template ++
    "\n</div>\n</template>\n\n".toList)))

/-- The opening tag of the script that the compiler writes. -/
def scriptTag (typescript : Bool) : List Char :=
  (if typescript then "<script setup lang=\"ts\">" else "<script setup>").toList

/-- The script that the compiler writes behind `front`, as it is read: up to the first closing tag. -/
def readScript? (front : List Char) (typescript : Bool) (code : String) : Option (List Char) :=
  (stripPrefix? (front ++ scriptTag typescript) code.toList).bind fun behind =>
    (splitAt? scriptEnd behind).map (·.1)

/-- The classes of the element around the content, as they are read: up to the first quote. -/
def readClass? (code : String) : Option (List Char) :=
  (stripPrefix? "<template>\n<div class=\"".toList code.toList).bind fun behind =>
    (splitAt? ['"'] behind).map (·.1)

/-- The line with the front matter, without its value, and the line end before it. -/
def constantText : List Char := "\nconst frontmatter = ".toList

/-- The line that makes the front matter known. -/
def exposeLine : List Char := "defineExpose(\x7b frontmatter \x7d)".toList

/-- The line with the front matter and the line behind it, with the line ends around them. -/
def frontMatterLines (fields : Fields) : List Char :=
  constantText ++ ((Json.text (.obj fields)).toList ++ '\n' :: exposeLine) ++ ['\n']

/-! ## The script -/

/-- The lines of the script in front of the one with the front matter. -/
def importText (o : MarkdownOptions) : List Char :=
  (if o.headEnabled then "\nimport \x7b useHead \x7d from '@vueuse/head'" else "").toList

/-- What stands behind the lines with the front matter. -/
def behindText (o : MarkdownOptions) (h : Hoisted) : List Char :=
  (if o.headEnabled then
    "useHead(\x7b title: frontmatter.title, meta: frontmatter.meta \x7d)\n" else "").toList ++
    (blockTexts h.setup ++ (scriptEnd ++ '\n' ::
      (h.scripts ++ h.styles).flatMap fun s => '\n' :: (trim s ++ ['\n'])))

theorem headText_eq (o : MarkdownOptions) (typescript : Bool) :
    headText o typescript =
      "\n</div>\n</template>\n\n".toList ++ (scriptTag typescript ++ (importText o ++ constantText)) := by
  unfold headText scriptTag importText constantText
  cases typescript <;> cases o.headEnabled <;> decide

theorem toList_assemble_script (o : MarkdownOptions) (fields : Fields) (template : List Char) (h : Hoisted) :
    (assemble o fields template h).toList =
      templateText o fields template ++ scriptTag h.typescript ++
        (importText o ++ (frontMatterLines fields ++ behindText o h)) := by
  rw [toList_assemble, headText_eq]
  unfold templateText frontMatterLines behindText
  simp only [List.append_assoc]
  rfl

theorem isTag_scriptEnd : Json.IsTag scriptEnd :=
  ⟨rfl, by simp [scriptEnd, Json.escapeChar], by simp [scriptEnd]⟩

/-- In the lines with the front matter, only the front matter can close the script. -/
theorem scriptEnd_infix_iff (fields : Fields) :
    scriptEnd <:+: constantText ++ ((Json.text (.obj fields)).toList ++ '\n' :: exposeLine) ↔
      ∃ s ∈ Json.fieldStrings fields, scriptEnd <:+: s.toList := by
  have hopening : '<' ∉ constantText := by decide
  have hclosing : ¬ scriptEnd <:+: exposeLine := by decide
  have htext := Json.infix_text isTag_scriptEnd (.obj fields)
  rw [Json.strings] at htext
  rw [scriptEnd, infix_append_of_not_mem hopening, ← scriptEnd, infix_append_cons (by decide), htext]
  exact or_iff_left hclosing

/-- The script that the compiler writes is closed. -/
theorem scriptEnd_infix_script (o : MarkdownOptions) (fields : Fields) (h : Hoisted) :
    scriptEnd <:+: importText o ++ (frontMatterLines fields ++ behindText o h) := by
  rw [behindText]
  exact (((List.infix_append' _ _ _).trans (List.suffix_append _ _).isInfix).trans
    (List.suffix_append _ _).isInfix).trans (List.suffix_append _ _).isInfix

/-- A script is read, and it has the front matter exactly if no string of the front matter closes it. -/
theorem readScript_assemble (o : MarkdownOptions) (fields : Fields) (template : List Char) (h : Hoisted) :
    ∃ script,
      readScript? (templateText o fields template) h.typescript (assemble o fields template h) = some script ∧
      (frontMatterLines fields <:+: script ↔
        ∀ s ∈ Json.fieldStrings fields, ¬ scriptEnd <:+: s.toList) := by
  have hread : readScript? (templateText o fields template) h.typescript (assemble o fields template h) =
      (splitAt? scriptEnd (importText o ++ (frontMatterLines fields ++ behindText o h))).map (·.1) := by
    rw [readScript?, toList_assemble_script, stripPrefix?_append]
    rfl
  have hends : containsText scriptEnd (importText o ++ (frontMatterLines fields ++ behindText o h)) :=
    containsText_iff.mpr (scriptEnd_infix_script o fields h)
  obtain ⟨⟨script, rest⟩, hsplit⟩ := Option.isSome_iff_exists.mp hends
  refine ⟨script, by rw [hread, hsplit]; rfl, ?_⟩
  constructor
  · intro hlines s hs hclose
    have hclosed := (scriptEnd_infix_iff fields).mpr ⟨s, hs, hclose⟩
    have hlater : scriptEnd <:+: frontMatterLines fields := hclosed.trans (List.prefix_append _ _).isInfix
    exact not_infix_of_splitAt? isTag_scriptEnd.ne_nil hsplit (hlater.trans hlines)
  · intro hopen
    -- up to the end of the last of the lines nothing closes the script
    have himport : '<' ∉ importText o := by
      unfold importText
      cases o.headEnabled <;> decide
    have hlead : ¬ scriptEnd <:+:
        importText o ++ (constantText ++ ((Json.text (.obj fields)).toList ++ '\n' :: exposeLine)) := by
      rw [scriptEnd, infix_append_of_not_mem himport, ← scriptEnd, scriptEnd_infix_iff]
      rintro ⟨s, hs, hclose⟩
      exact hopen s hs hclose
    have hcut := splitAt?_append_cons (c := '\n') (by decide) hlead (behindText o h)
    have hwhole : importText o ++ (frontMatterLines fields ++ behindText o h) =
        importText o ++ (constantText ++ ((Json.text (.obj fields)).toList ++ '\n' :: exposeLine)) ++
          '\n' :: behindText o h := by
      rw [frontMatterLines]
      simp only [List.append_assoc, List.singleton_append]
    rw [← hwhole, hsplit] at hcut
    obtain ⟨⟨before, after⟩, -, hbefore⟩ := Option.map_eq_some_iff.mp hcut.symm
    cases hbefore
    refine ⟨importText o, before, ?_⟩
    rw [frontMatterLines]
    simp only [List.append_assoc, List.singleton_append]

/-! ## The classes -/

theorem splitAt?_quote (s rest : List Char) :
    (splitAt? ['"'] (s ++ '"' :: rest)).map (·.1) = some (s.takeWhile (· ≠ '"')) := by
  induction s with
  | nil =>
    rw [List.nil_append, splitAt?, stripPrefix?, if_pos rfl]
    cases rest <;> rfl
  | cons c s ih =>
    rw [List.cons_append, splitAt?, stripPrefix?]
    by_cases hc : c = '"'
    · rw [if_pos hc.symm]
      cases s <;> simp [stripPrefix?, hc]
    · rw [if_neg (Ne.symm hc), List.takeWhile_cons_of_pos (by simpa using hc)]
      simpa using ih

/-- The classes are read up to their first quote. Without classes there is no attribute. -/
theorem readClass_assemble (o : MarkdownOptions) (fields : Fields) (template : List Char) (h : Hoisted) :
    readClass? (assemble o fields template h) =
      if wrapperClasses o fields = [] then none
      else some ((classText o fields).takeWhile (· ≠ '"')) := by
  have hopening : "<template>\n<div class=\"".toList = "<template>\n<div".toList ++ " class=\"".toList := by
    decide
  rw [readClass?, toList_assemble]
  unfold frontText openText
  by_cases hnone : wrapperClasses o fields = []
  · -- the element is closed where the attribute would begin
    have hattribute : " class=\"".toList = ' ' :: "class=\"".toList := by decide
    have hclose : ">\n".toList = '>' :: ['\n'] := by decide
    have hclasses : classText o fields = [] := by
      rw [classText, hnone]
      rfl
    simp only [hnone, List.isEmpty_nil, if_true, hopening, hattribute, hclose, hclasses, List.append_nil,
      List.nil_append, List.cons_append]
    rw [stripPrefix?_of_ne (by decide)]
    rfl
  · have hempty : (wrapperClasses o fields).isEmpty = false := by simpa using hnone
    simp only [hempty, Bool.false_eq_true, if_false]
    rw [if_neg hnone, ← hopening, stripPrefix?_append]
    exact splitAt?_quote _ _

/-! ## Compiled files -/

theorem eq_assemble_of_compile {o : MarkdownOptions} {source code body : String} {fields : Fields}
    (h : compile o source = .ok code) (hsplit : Deck.splitFrontMatter source = .ok (fields, body)) :
    code = assemble o fields (trim (hoist (renderBody o body)).1) (hoist (renderBody o body)).2 := by
  obtain ⟨fields', body', hsplit', -, -, hcode⟩ := compile_eq_ok.mp h
  cases hsplit.symm.trans hsplit'
  rw [hcode, componentWith, renderBody_eq]

/-- When a file is compiled, then a script is read behind the template of the component, and it has the line
with the front matter and the line behind it exactly if no string and no key of the front matter has a
closing tag for scripts. The classes of the element around the content are read exactly if they have no
quote; without classes there are none to read. -/
theorem frontMatter_read_iff {o : MarkdownOptions} {source code : String} (h : compile o source = .ok code) :
    ∃ fields body, Deck.splitFrontMatter source = .ok (fields, body) ∧
      (∃ script,
        readScript? (templateText o fields (trim (hoist (renderBody o body)).1))
          (hoist (renderBody o body)).2.typescript code = some script ∧
        (frontMatterLines fields <:+: script ↔
          ∀ s ∈ Json.fieldStrings fields, ¬ scriptEnd <:+: s.toList)) ∧
      (wrapperClasses o fields ≠ [] →
        (readClass? code = some (classText o fields) ↔ '"' ∉ classText o fields)) ∧
      (wrapperClasses o fields = [] → readClass? code = none) := by
  obtain ⟨fields, body, hsplit, -⟩ := compile_eq_ok.mp h
  rw [eq_assemble_of_compile h hsplit]
  refine ⟨fields, body, hsplit, readScript_assemble _ _ _ _, fun hsome => ?_, fun hnone => ?_⟩
  · rw [readClass_assemble, if_neg hsome, Option.some.injEq, List.takeWhile_eq_self_iff]
    constructor
    · intro hall hquote
      simpa using hall '"' hquote
    · intro hquote c hc
      have hne : c ≠ '"' := fun h => hquote (h ▸ hc)
      simpa using hne
  · rw [readClass_assemble, if_pos hnone]

theorem exists_compiled (o : MarkdownOptions) (source : String) (test : Fields × String → Bool)
    (hok : (compile o source).toOption.isSome)
    (htest : (Deck.splitFrontMatter source).toOption.any test) :
    ∃ code fields body, compile o source = .ok code ∧
      Deck.splitFrontMatter source = .ok (fields, body) ∧ test (fields, body) := by
  cases hcode : compile o source with
  | error fault =>
    rw [hcode] at hok
    cases hok
  | ok code =>
    cases hsplit : Deck.splitFrontMatter source with
    | error fault =>
      rw [hsplit] at htest
      cases htest
    | ok split =>
      rw [hsplit] at htest
      exact ⟨code, split.1, split.2, rfl, rfl, htest⟩

/-- A slide with a title and a class. -/
def titledSlide : String := "---\ntitle: Hi\nclass: text-center\n---\n\n# Hello\n"

theorem frontMatter_read_iff_titled :
    ∃ code fields body, compile {} titledSlide = .ok code ∧
      Deck.splitFrontMatter titledSlide = .ok (fields, body) ∧
      Json.text (.obj fields) = "\x7b\"class\":\"text-center\",\"title\":\"Hi\"\x7d" ∧
      (∃ script,
        readScript? (templateText {} fields (trim (hoist (renderBody {} body)).1))
          (hoist (renderBody {} body)).2.typescript code = some script ∧
        frontMatterLines fields <:+: script) ∧
      readClass? code = some "text-center".toList := by
  obtain ⟨code, fields, body, hcode, hsplit, htest⟩ := exists_compiled {} titledSlide
    (fun split =>
      Json.text (.obj split.1) = "\x7b\"class\":\"text-center\",\"title\":\"Hi\"\x7d" &&
        (Json.fieldStrings split.1).all (fun s => ¬ scriptEnd <:+: s.toList) &&
        wrapperClasses {} split.1 = ["text-center"])
    (by decide +kernel) (by decide +kernel)
  simp only [Bool.and_eq_true, decide_eq_true_eq, List.all_eq_true] at htest
  obtain ⟨⟨htext, hopen⟩, hclasses⟩ := htest
  obtain ⟨fields', body', hsplit', ⟨script, hread, hlines⟩, hclass, -⟩ := frontMatter_read_iff hcode
  cases hsplit.symm.trans hsplit'
  have hquote : classText {} fields = "text-center".toList := by
    rw [classText, hclasses]
    rfl
  refine ⟨code, fields, body, hcode, hsplit, htext, ⟨script, hread, hlines.mpr hopen⟩, ?_⟩
  rw [hquote] at hclass
  exact (hclass (by simp [hclasses])).mpr (by decide)

/-- A slide whose title closes the script. -/
def closingSlide : String := "---\ntitle: </script>\n---\n\n# Hi\n"

/-- The front matter is cut off within the title. -/
theorem script_closed_by_title :
    ∃ code fields body, compile {} closingSlide = .ok code ∧
      Deck.splitFrontMatter closingSlide = .ok (fields, body) ∧
      Json.text (.obj fields) = "\x7b\"title\":\"</script>\"\x7d" ∧
      ∃ script,
        readScript? (templateText {} fields (trim (hoist (renderBody {} body)).1))
          (hoist (renderBody {} body)).2.typescript code = some script ∧
        ¬ frontMatterLines fields <:+: script := by
  obtain ⟨code, fields, body, hcode, hsplit, htest⟩ := exists_compiled {} closingSlide
    (fun split =>
      Json.text (.obj split.1) = "\x7b\"title\":\"</script>\"\x7d" &&
        (Json.fieldStrings split.1).any fun s => scriptEnd <:+: s.toList)
    (by decide +kernel) (by decide +kernel)
  simp only [Bool.and_eq_true, decide_eq_true_eq, List.any_eq_true] at htest
  obtain ⟨htext, s, hs, hclose⟩ := htest
  refine ⟨code, fields, body, hcode, hsplit, htext, ?_⟩
  rw [eq_assemble_of_compile hcode hsplit]
  obtain ⟨script, hread, hlines⟩ := readScript_assemble {} fields (trim (hoist (renderBody {} body)).1)
    (hoist (renderBody {} body)).2
  exact ⟨script, hread, fun h => hlines.mp h s hs hclose⟩

end DeckPress.Component
