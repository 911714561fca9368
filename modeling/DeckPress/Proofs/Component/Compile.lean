import DeckPress.Component.Compile
import DeckPress.Proofs.Component.Hoist

/-!
# What is left of a compiled component

The marks are taken out of a whole component, not out of its code samples. A component is therefore
compared with the one that would be put together if code samples were written without marks: the two are
the same but for marks. What is left of the one is the other exactly if in none of the parts that come
from the file a backslash stands in front of an opening brace.
-/

namespace DeckPress.Component

open Text

/-! ## Components with code samples written in some way -/

/-- The final form of a piece, with code samples written by `write`. -/
def Region.renderWith (write : List Char → List Char) (coloured : Bool) : Region → List Char
  | .html text => text
  | .inline code => "<code v-pre>".toList ++ write code ++ "</code>".toList
  | .block language code =>
    let body := write (blockCode coloured language code)
    match language with
    | some name =>
      "<pre class=\"language-".toList ++ name ++ "\" v-pre><code class=\"language-".toList ++ name ++
        "\">".toList ++ body ++ "</code></pre>".toList
    | none => "<pre v-pre><code>".toList ++ body ++ "</code></pre>".toList

/-- The HTML of a body, with code samples written by `write`. -/
def renderBodyWith (write : List Char → List Char) (o : MarkdownOptions) (body : String) : List Char :=
  let body := if o.monaco then Code.Editor.replace body else body
  (regionsOf (Markdown.toHtml { allowHtml := o.html, linkAddresses := o.linkify } body.toList)).flatMap
    (·.renderWith write o.highlight)

/-- The component around a body, with code samples written by `write`. -/
def componentWith (write : List Char → List Char) (o : MarkdownOptions) (fields : Fields) (body : String) :
    String :=
  let cut := hoist (renderBodyWith write o body)
  assemble o fields (trim cut.1) cut.2

theorem renderBody_eq (o : MarkdownOptions) (body : String) :
    renderBody o body = renderBodyWith Brace.protect o body := by
  have hrender (r : Region) : r.render o.highlight = r.renderWith Brace.protect o.highlight := by
    cases r <;> rfl
  unfold renderBody renderBodyWith renderCode
  simp only [hrender]

/-- How a file is compiled once its front matter is read. -/
theorem compile_of_split {o : MarkdownOptions} {source body : String} {fields : Fields}
    (hsplit : Deck.splitFrontMatter source = .ok (fields, body)) :
    compile o source =
      match openFence? 1 none (lines body.toList) with
      | some line => .error (.openFence line)
      | none =>
        if interpolationsClosed (renderBody o body) then .ok (componentWith Brace.protect o fields body)
        else .error .openInterpolation := by
  have hcomponent : componentWith Brace.protect o fields body =
      assemble o fields (trim (hoist (renderBody o body)).1) (hoist (renderBody o body)).2 := by
    rw [componentWith, renderBody_eq]
  rw [hcomponent, compile, hsplit]
  simp only [bind, Except.bind]
  generalize renderBody o body = html
  cases openFence? 1 none (lines body.toList) with
  | some line => rfl
  | none =>
    cases interpolationsClosed html with
    | true => rfl
    | false => rfl

/-- A file is compiled if its front matter can be read, its fences are closed and its interpolations are. -/
theorem compile_eq_ok {o : MarkdownOptions} {source code : String} :
    compile o source = .ok code ↔
      ∃ fields body, Deck.splitFrontMatter source = .ok (fields, body) ∧
        openFence? 1 none (lines body.toList) = none ∧ interpolationsClosed (renderBody o body) ∧
        code = componentWith Brace.protect o fields body := by
  constructor
  · intro h
    cases hsplit : Deck.splitFrontMatter source with
    | error fault =>
      rw [compile, hsplit] at h
      nomatch h
    | ok split =>
      rw [compile_of_split hsplit] at h
      refine ⟨split.1, split.2, rfl, ?_⟩
      split at h
      · cases h
      · rename_i hfence
        split at h
        · rename_i hclosed
          cases h
          exact ⟨hfence, hclosed, rfl⟩
        · cases h
  · rintro ⟨fields, body, hsplit, hfence, hclosed, hcode⟩
    rw [compile_of_split hsplit, hfence, hcode]
    exact if_pos hclosed

/-! ## Texts of components -/

/-- The classes of the element around the content, as they are written. -/
def classText (o : MarkdownOptions) (fields : Fields) : List Char :=
  (String.intercalate " " (wrapperClasses o fields)).toList

/-- What stands in front of the classes. -/
def frontText (o : MarkdownOptions) (fields : Fields) : List Char :=
  "<template>\n<div".toList ++ if (wrapperClasses o fields).isEmpty then [] else " class=\"".toList

/-- What stands between the classes and the content. -/
def openText (o : MarkdownOptions) (fields : Fields) : List Char :=
  (if (wrapperClasses o fields).isEmpty then [] else ['"']) ++ ">\n".toList

/-- What stands between the content and the front matter. -/
def headText (o : MarkdownOptions) (typescript : Bool) : List Char :=
  "\n</div>\n</template>\n\n".toList ++
  (if typescript then "<script setup lang=\"ts\">\n" else "<script setup>\n").toList ++
  (if o.headEnabled then "import \x7b useHead \x7d from '@vueuse/head'\n" else "").toList ++
  "const frontmatter = ".toList

/-- What stands between the front matter and the setup scripts. -/
def exposeText (o : MarkdownOptions) : List Char :=
  "\ndefineExpose(\x7b frontmatter \x7d)\n".toList ++
  (if o.headEnabled then "useHead(\x7b title: frontmatter.title, meta: frontmatter.meta \x7d)\n" else "").toList

/-- Scripts and styles as they are written, each on lines of its own. -/
def blockTexts (texts : List (List Char)) : List Char := texts.flatMap fun s => trim s ++ ['\n']

theorem toList_assemble (o : MarkdownOptions) (fields : Fields) (template : List Char) (h : Hoisted) :
    (assemble o fields template h).toList =
      frontText o fields ++ (classText o fields ++ (openText o fields ++ (template ++
        (headText o h.typescript ++ ((Json.text (.obj fields)).toList ++ (exposeText o ++
          (blockTexts h.setup ++ ("</script>\n".toList ++
            (h.scripts ++ h.styles).flatMap fun s => '\n' :: (trim s ++ ['\n']))))))))) := by
  unfold assemble frontText classText openText headText exposeText blockTexts
  simp only [String.toList_append, String.toList_join, String.toList_ofList, List.flatMap_map]
  cases hempty : (wrapperClasses o fields).isEmpty with
  | true =>
    have hnone : wrapperClasses o fields = [] := List.isEmpty_iff.mp hempty
    simp [hnone]
  | false => simp

theorem frontText_ne_nil (o : MarkdownOptions) (fields : Fields) : frontText o fields ≠ [] := by
  unfold frontText
  exact List.append_ne_nil_of_left_ne_nil (by simp) _

theorem compile_ne_empty {o : MarkdownOptions} {source code : String} (h : compile o source = .ok code) :
    code ≠ "" := by
  obtain ⟨fields, body, -, -, -, hcode⟩ := compile_eq_ok.mp h
  intro hempty
  have htext := congrArg String.toList (hcode.symm.trans hempty)
  rw [componentWith, toList_assemble, String.toList_empty] at htext
  exact frontText_ne_nil o fields (List.append_eq_nil_iff.mp htext).1

/-- The parts of a component that come from the file. -/
def parts (o : MarkdownOptions) (fields : Fields) (template : List Char) (h : Hoisted) : List (List Char) :=
  [classText o fields, template, (Json.text (.obj fields)).toList] ++
    (h.setup ++ (h.scripts ++ h.styles)).map trim

/-- A backslash stands in front of an opening brace of a component if it does so in one of the parts that
come from the file: the text between them keeps them apart. -/
theorem clear_assemble {o : MarkdownOptions} {fields : Fields} {template : List Char} {h : Hoisted} :
    Brace.Clear (assemble o fields template h).toList ↔
      ∀ part ∈ parts o fields template h, Brace.Clear part := by
  -- what the compiler writes itself has no backslash, and keeps what stands around it apart
  have hfront : '\\' ∉ frontText o fields := by
    unfold frontText
    cases (wrapperClasses o fields).isEmpty <;> decide
  have hopen : Brace.Divides (openText o fields) := by
    unfold openText
    cases (wrapperClasses o fields).isEmpty <;> decide
  have hhead : Brace.Divides (headText o h.typescript) := by
    unfold headText
    cases h.typescript <;> cases o.headEnabled <;> decide
  have hexpose : Brace.Divides (exposeText o) := by
    unfold exposeText
    cases o.headEnabled <;> decide
  have hend : Brace.Divides "</script>\n".toList := by decide
  have hline : Brace.Divides ['\n'] := by decide
  have hothers : Brace.Clear ((h.scripts ++ h.styles).flatMap fun s => '\n' :: (trim s ++ ['\n'])) ↔
      ∀ s ∈ h.scripts ++ h.styles, Brace.Clear (trim s) := by
    have hcut := Brace.clear_flatMap hline (fun s => '\n' :: trim s) (h.scripts ++ h.styles) []
    rw [List.append_nil] at hcut
    refine hcut.trans ((and_iff_left (by decide)).trans ?_)
    refine forall₂_congr fun s _ => ?_
    rw [Brace.clear_cons]
    exact and_iff_right fun hmark => absurd hmark.1 (by decide)
  rw [toList_assemble, Brace.clear_append_of_not_mem hfront, Brace.clear_between hopen,
    Brace.clear_between hhead, Brace.clear_between hexpose, blockTexts, Brace.clear_flatMap hline,
    Brace.clear_append_of_not_mem hend.1, hothers]
  simp only [parts, List.forall_mem_append, List.forall_mem_cons, List.forall_mem_map, List.map_append]
  simp [and_assoc]

namespace Brace

theorem Marked.renderWith (coloured : Bool) (r : Region) :
    Marked (r.renderWith protect coloured) (r.renderWith entities coloured) := by
  have around (a c : List Char) (b : List Char) : Marked (a ++ protect b ++ c) (a ++ entities b ++ c) :=
    ((Marked.refl a).append (marked_protect b)).append (.refl c)
  cases r with
  | html text => exact .refl text
  | inline code => exact around _ _ code
  | block language code =>
    cases language with
    | none => exact around _ _ _
    | some name => exact around _ _ _

theorem Marked.renderBodyWith (o : MarkdownOptions) (body : String) :
    Marked (Component.renderBodyWith protect o body) (Component.renderBodyWith entities o body) :=
  .flatMap (List.forall₂_same.mpr fun r _ => .renderWith o.highlight r)

theorem Marked.assemble {o : MarkdownOptions} {fields : Fields} {s t : List Char} {h h' : Hoisted}
    (htemplate : Marked s t) (hhoisted : Marked.HoistedAlike h h') :
    Marked (Component.assemble o fields s h).toList (Component.assemble o fields t h').toList := by
  have hlines {ss ts : List (List Char)} (hst : List.Forall₂ Marked ss ts) (before after : List Char) :
      Marked (ss.flatMap fun s => before ++ (Text.trim s ++ after))
        (ts.flatMap fun s => before ++ (Text.trim s ++ after)) :=
    .flatMap (hst.imp fun _ _ h => (Marked.refl before).append (h.trim.append (.refl after)))
  rw [toList_assemble, toList_assemble, hhoisted.typescript]
  refine (Marked.refl _).append ((Marked.refl _).append ((Marked.refl _).append (htemplate.append ?_)))
  refine (Marked.refl _).append ((Marked.refl _).append ((Marked.refl _).append ?_))
  refine (hlines hhoisted.setup [] ['\n']).append ((Marked.refl _).append ?_)
  exact hlines (List.rel_append hhoisted.scripts hhoisted.styles) ['\n'] ['\n']

/-- A component is the one without marks, but for its marks. -/
theorem Marked.componentWith (o : MarkdownOptions) (fields : Fields) (body : String) :
    Marked (Component.componentWith protect o fields body).toList
      (Component.componentWith entities o fields body).toList := by
  obtain ⟨htemplate, hhoisted⟩ := (Marked.renderBodyWith o body).hoist
  unfold Component.componentWith
  exact .assemble htemplate.trim hhoisted

end Brace

/-- The parts of the component without marks that come from the file. -/
def bodyParts (o : MarkdownOptions) (fields : Fields) (body : String) : List (List Char) :=
  let cut := hoist (renderBodyWith Brace.entities o body)
  parts o fields (trim cut.1) cut.2

/-- What is left of a component is the component without marks exactly if in none of the parts that come from
the file a backslash stands in front of an opening brace. -/
theorem unescape_componentWith_iff {o : MarkdownOptions} {fields : Fields} {body : String} :
    Brace.unescape (componentWith Brace.protect o fields body).toList =
        (componentWith Brace.entities o fields body).toList ↔
      ∀ part ∈ bodyParts o fields body, Brace.Clear part := by
  rw [(Brace.Marked.componentWith o fields body).unescape_eq, Brace.unescape_eq_self_iff]
  exact clear_assemble

/-- When a file is compiled and the marks are taken out, then what is left is what is left of the component
without marks, and it is that component exactly if in none of the parts that come from the file (classes,
content, front matter, scripts and styles) a backslash stands in front of an opening brace. -/
theorem unescape_compile {o : MarkdownOptions} {source code : String} (h : compile o source = .ok code) :
    ∃ fields body, Deck.splitFrontMatter source = .ok (fields, body) ∧
      Brace.unescape code.toList = Brace.unescape (componentWith Brace.entities o fields body).toList ∧
      (Brace.unescape code.toList = (componentWith Brace.entities o fields body).toList ↔
        ∀ part ∈ bodyParts o fields body, Brace.Clear part) := by
  obtain ⟨fields, body, hsplit, -, -, hcode⟩ := compile_eq_ok.mp h
  rw [hcode]
  exact ⟨fields, body, hsplit, (Brace.Marked.componentWith o fields body).unescape_eq,
    unescape_componentWith_iff⟩

/-- A slide with a code sample that has a backslash in front of a brace. -/
def sampleSlide : String := "Write `\\\x7bx\x7d`.\n"

theorem unescape_compile_sample :
    ∃ code, compile {} sampleSlide = .ok code ∧
      Brace.unescape code.toList = (componentWith Brace.entities {} [] sampleSlide).toList := by
  have hok : (compile {} sampleSlide).toOption.isSome = true := by decide +kernel
  have hclear : ∀ part ∈ bodyParts {} [] sampleSlide, Brace.Clear part := by decide +kernel
  have hsplit : Deck.splitFrontMatter sampleSlide = .ok ([], sampleSlide) := by with_unfolding_all rfl
  cases hcode : compile {} sampleSlide with
  | error fault => rw [hcode] at hok; cases hok
  | ok code =>
    obtain ⟨fields, body, hsplit', -, hiff⟩ := unescape_compile hcode
    cases hsplit.symm.trans hsplit'
    exact ⟨code, rfl, hiff.mpr hclear⟩

/-- A slide whose setup script has a regular expression for a brace. -/
def regexSlide : String := "<script setup>\nconst brace = /\\\x7b/\n</script>\n"

/-- The regular expression loses its backslash together with the marks, of which there are none. -/
theorem regex_changed_by_unescape :
    ∃ code, compile {} regexSlide = .ok code ∧ Deck.splitFrontMatter regexSlide = .ok ([], regexSlide) ∧
      Brace.unescape code.toList ≠ (componentWith Brace.entities {} [] regexSlide).toList := by
  have hok : (compile {} regexSlide).toOption.isSome = true := by decide +kernel
  have hunclear : ¬ ∀ part ∈ bodyParts {} [] regexSlide, Brace.Clear part := by decide +kernel
  have hsplit : Deck.splitFrontMatter regexSlide = .ok ([], regexSlide) := by with_unfolding_all rfl
  cases hcode : compile {} regexSlide with
  | error fault => rw [hcode] at hok; cases hok
  | ok code =>
    obtain ⟨fields, body, hsplit', -, -, hcode'⟩ := compile_eq_ok.mp hcode
    cases hsplit.symm.trans hsplit'
    refine ⟨code, rfl, hsplit, ?_⟩
    rw [hcode']
    exact mt unescape_componentWith_iff.mp hunclear

end DeckPress.Component
