import DeckPress.Proofs.Asset.Copies
import DeckPress.Proofs.Component.Statements
import DeckPress.Proofs.Pipeline.Run
import DeckPress.Proofs.Regex.Ends

/-!
# Marks are gone for good

The compiler marks opening braces in code samples, and the marks are taken out of the component before
anything else is done to it. The stages behind put texts into it: import statements, and the paths of local
copies in place of addresses. None of these texts has a backslash, and none starts with a brace, so they
neither bring a mark nor make one where they are put in.
-/

namespace DeckPress

open Component
open Component.Brace (Clear Divides)

/-! ## Copies of remote assets -/

namespace Asset

variable {materialize : String → Except Error Path} {deckRoot : Path}

theorem divides_publicPath (root file : Path) : Divides (publicPath root file).toList := by
  have hroot : Divides "/".toList := by decide
  have hmark : Divides "/@fs".toList := by decide
  unfold publicPath
  cases file.stripPrefix? root with
  | some rest =>
    rw [String.toList_append]
    exact hroot.append rest.backslash_not_mem_slashed
  | none =>
    rw [String.toList_append]
    exact hmark.append file.backslash_not_mem_slashed

/-- The paths of all copies known keep what is around them apart. -/
def Known.Divide (k : Known) : Prop :=
  ∀ url copy, k.copies.lookup url = some (some copy) → Divides copy.toList

theorem Known.Divide.ask {k : Known} (h : k.Divide) (url : String) :
    (k.ask materialize deckRoot url).Divide := by
  intro other copy hcopy
  rw [lookup_ask, Option.or_eq_some_iff] at hcopy
  rcases hcopy with hcopy | ⟨-, hnew⟩
  · exact h other copy hcopy
  · split at hnew
    · unfold copyOf? at hnew
      cases hurl : materialize url with
      | ok file =>
        rw [hurl] at hnew
        cases hnew
        exact divides_publicPath deckRoot file
      | error e =>
        rw [hurl] at hnew
        cases hnew
    · cases hnew

theorem Known.Divide.askAll {k : Known} (h : k.Divide) (urls : List (List Char)) :
    (k.askAll materialize deckRoot urls).Divide := by
  induction urls generalizing k with
  | nil => exact h
  | cons url urls ih => exact ih (h.ask (String.ofList url))

/-- An address stays, or a path that keeps what is around it apart takes its place. -/
theorem Known.Divide.image {k : Known} (h : k.Divide) (url : List Char) :
    k.image url = url ∨ Divides (k.image url) := by
  unfold Known.image
  split
  · rename_i copy hcopy
    exact .inr (h _ copy hcopy)
  · exact .inl rfl

/-- Whatever matches are, images that keep what is around them apart make no mark. -/
theorem clear_replaced {image : List Char → List Char} (himage : ∀ url, image url = url ∨ Divides (image url))
    (pieces : List Piece) (before : List Char) (h : Brace.Clear (before ++ pieces.flatMap Piece.text)) :
    Brace.Clear (before ++ pieces.flatMap (Piece.replaced image)) := by
  induction pieces generalizing before with
  | nil => exact h
  | cons piece pieces ih =>
    rw [List.flatMap_cons] at h ⊢
    have hkept (hsame : piece.replaced image = piece.text) :
        Brace.Clear (before ++ (piece.replaced image ++ pieces.flatMap (Piece.replaced image))) := by
      rw [← List.append_assoc] at h
      rw [hsame, ← List.append_assoc]
      -- what stays belongs to what is in front of the next piece
      exact ih _ h
    cases piece with
    | kept c => exact hkept rfl
    | found url =>
      rcases himage url with hsame | hdivides
      · exact hkept hsame
      · -- what is in front and what is behind are looked at one by one
        have hbefore : Brace.Clear before := h.of_infix (List.prefix_append _ _).isInfix
        have hlater : Brace.Clear ([] ++ pieces.flatMap Piece.text) :=
          h.of_infix ((List.suffix_append _ _).trans (List.suffix_append _ _)).isInfix
        exact (Brace.clear_between hdivides _ _).mpr ⟨hbefore, ih [] hlater⟩

theorem clear_applyPattern {state : List Char × Known} (hcode : Brace.Clear state.1) (hknown : state.2.Divide)
    (r : Regex) :
    Brace.Clear (applyPattern materialize deckRoot state r).1 ∧
      (applyPattern materialize deckRoot state r).2.Divide := by
  have hlater : (state.2.askAll materialize deckRoot ((r.pieces state.1).filterMap Piece.found?)).Divide :=
    hknown.askAll _
  rw [← r.flatMap_text_pieces state.1] at hcode
  exact ⟨clear_replaced hlater.image (r.pieces state.1) [] hcode, hlater⟩

/-- Rewriting brings no backslash in front of a brace, whatever the patterns and the cache are. -/
theorem Rewriter.clear_rewrite (w : Rewriter) {code : String} (h : Brace.Clear code.toList) :
    Brace.Clear (w.rewrite materialize code).1.toList := by
  have hpatterns : ∀ (patterns : List Regex) (state : List Char × Known),
      Brace.Clear state.1 → state.2.Divide →
        Brace.Clear (patterns.foldl (applyPattern materialize w.deckRoot) state).1 := by
    intro patterns
    induction patterns with
    | nil => exact fun _ hcode _ => hcode
    | cons r patterns ih =>
      intro state hcode hknown
      obtain ⟨hcode, hknown⟩ := clear_applyPattern hcode hknown r
      exact ih _ hcode hknown
  rw [Rewriter.rewrite_eq_foldl]
  split
  · exact h
  · dsimp only
    rw [String.toList_ofList]
    exact hpatterns w.patterns _ h fun _ _ hcopy => nomatch hcopy

end Asset

/-! ## Runs -/

namespace Pipeline

theorem importer_of_assemble {d : Disk} {r : Project} {p : Pipeline} (h : assemble d r = .ok p) :
    p.importer = importerFor p.options p.layout.deckRoot r.resolvers := by
  unfold assemble at h
  dsimp only [bind, Except.bind] at h
  split at h
  · cases h
  split at h
  · cases h
  split at h
  · cases h
  cases h
  rfl

/-- A pipeline to which no resolvers were added resolves icons and elements, and files. -/
theorem keepsPlain_resolvers {d : Disk} {r : Project} {p : Pipeline} (h : assemble d r = .ok p)
    (hresolvers : r.resolvers = []) (hicons : '\\' ∉ p.options.icons.defaultCollection.toList) :
    ∀ resolver ∈ p.importer.resolvers, KeepsPlain resolver := by
  intro resolver hmem
  rw [importer_of_assemble h, hresolvers] at hmem
  change resolver ∈ [p.options.icons.resolve?, Component.Element.resolve?] at hmem
  rcases List.mem_cons.mp hmem with rfl | hmem
  · exact Component.IconOptions.keepsPlain hicons
  · rw [List.mem_singleton.mp hmem]
    exact Component.Element.keepsPlain

theorem clear_compiled {p : Pipeline} {fileId source : String} {a : Artifact}
    (hmarkdown : (Artifact.ofSource fileId source).kind = .markdown) (h : p.compiled fileId source = .ok a) :
    Clear a.code.toList := by
  rw [p.compiled_of_markdown hmarkdown] at h
  cases hcode : Component.compile p.options.markdown source with
  | error fault =>
    rw [hcode] at h
    cases h
  | ok code =>
    rw [hcode] at h
    cases h
    rw [String.toList_ofList]
    exact Brace.clear_unescape code.toList

/-- A marked text has no marks when they have been taken out, character by character nothing else is taken
out, and to take them out once more changes nothing. What is left of a protected code sample is the sample
with its backslashes as entities. And when a markdown file is run by a pipeline to which no resolvers were
added, and whose icons have no backslash in the name of their default collection, then what is emitted has
no mark, whatever is imported and rewritten. -/
theorem no_marks_emitted :
    (∀ s, Clear (Brace.unescape s) ∧
      Brace.unescape s = s.tails.filterMap Brace.left? ∧
      Brace.unescape (Brace.unescape s) = Brace.unescape s) ∧
    (∀ html, Brace.unescape (Brace.protect html) = Brace.entities html) ∧
    ∀ (built d : Disk) (r : Project) (p : Pipeline), assemble built r = .ok p → r.resolvers = [] →
      '\\' ∉ p.options.icons.defaultCollection.toList →
      ∀ fileId source, (Artifact.ofSource fileId source).kind = .markdown → ∀ s s' a,
        (p.transform d fileId source).run.run s = (.ok a, s') → Clear a.code.toList := by
  refine ⟨fun s => ⟨Brace.clear_unescape s, Brace.unescape_eq_left s,
    Brace.unescape_unescape s⟩, Brace.unescape_protect, ?_⟩
  intro built d r p hassemble hresolvers hicons fileId source hmarkdown s s' a hrun
  have hplain := keepsPlain_resolvers hassemble hresolvers hicons
  rw [transform_run] at hrun
  cases hcompiled : p.compiled fileId source with
  | error e =>
    rw [hcompiled] at hrun
    cases hrun
  | ok compiled =>
    rw [hcompiled] at hrun
    cases hrun
    have hclear := clear_compiled hmarkdown hcompiled
    have himported := Component.Importer.clear_apply hplain d hclear s.listings
    exact p.rewriter.clear_rewrite himported

/-- A project whose addresses are words, all of them with a copy. -/
def copyingProject : Project where
  entry := ⟨"/slides.md"⟩
  overrides := {
    assets := { patterns := some ["remote"] }
    style := {
      included := some []
      excluded := some []
      scanDirs := some []
      configFiles := some [] } }
  cache := some fun _ _ => .ok ⟨"/copies\\picture.png"⟩

/-- A file with a code sample to be marked, an icon and an address. -/
def markedFile : String := "`a\\\x7bb` <carbon-add/> remote\n"

theorem no_marks_emitted_sample :
    ∃ p a s', assemble (smallDisk [("slides.md", "")]) copyingProject = .ok p ∧
      copyingProject.resolvers = [] ∧ '\\' ∉ p.options.icons.defaultCollection.toList ∧
      (Artifact.ofSource "/a.md" markedFile).kind = .markdown ∧
      (p.transform (smallDisk [("slides.md", "")]) "/a.md" markedFile).run.run { shared := .initial false } =
        (.ok a, s') ∧
      Clear a.code.toList := by
  obtain ⟨p, hp, htest⟩ := exists_ok (assemble (smallDisk [("slides.md", "")]) copyingProject) (fun p =>
    '\\' ∉ p.options.icons.defaultCollection.toList &&
      (Component.compile p.options.markdown markedFile).toOption.any fun _ => true) (by decide +kernel)
  simp only [Bool.and_eq_true, decide_eq_true_eq] at htest
  obtain ⟨hicons, hcompile⟩ := htest
  obtain ⟨code, hcode, -⟩ := exists_ok _ _ hcompile
  have hmarkdown : (Artifact.ofSource "/a.md" markedFile).kind = .markdown := by decide
  have hrun := p.transform_run (smallDisk [("slides.md", "")]) "/a.md" markedFile { shared := .initial false }
  rw [p.compiled_of_markdown hmarkdown, hcode] at hrun
  obtain ⟨-, -, hclear⟩ := no_marks_emitted
  exact ⟨p, _, _, hp, rfl, hicons, hmarkdown, hrun,
    hclear _ _ _ p hp rfl hicons _ _ hmarkdown _ _ _ hrun⟩

end Pipeline

end DeckPress
