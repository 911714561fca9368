import Mathlib.Data.List.Forall2
import DeckPress.Module.Deck
import DeckPress.Proofs.Json.Printer
import DeckPress.Proofs.Text.Lines

/-!
# What the list of slides imports

The module with the list of slides is read line by line for what it imports. It imports each shown slide
once, in order, and nothing else: whatever the slides say of themselves stands inside a line that starts
otherwise.
-/

namespace DeckPress

open Text

namespace Presentation

theorem map_fst_numberFrom {α : Type} (n : Nat) (xs : List α) :
    (numberFrom n xs).map Prod.fst = List.range' n xs.length := by
  induction xs generalizing n with
  | nil => rfl
  | cons x xs ih => rw [numberFrom, List.map_cons, ih, List.length_cons, List.range'_succ]

theorem map_snd_numberFrom {α : Type} (n : Nat) (xs : List α) : (numberFrom n xs).map Prod.snd = xs := by
  induction xs generalizing n with
  | nil => rfl
  | cons x xs ih => rw [numberFrom, List.map_cons, ih]

/-- The id of the module that a line imports under a name. -/
def importOf? (line : List Char) : Option String := do
  let rest ← stripPrefix? "import ".toList line
  let (_, source) ← splitAt? " from '".toList rest
  (stripSuffix? ['\''] source).map String.ofList

/-- The ids that a module imports under names. -/
def importedIds (code : String) : List String := (lines code.toList).filterMap importOf?

/-- The line that imports a shown slide. -/
def slideImport (number : Nat) : List Char :=
  ("import n" ++ toString number ++ " from '" ++ ModuleId.text (.slide number) ++ "'").toList

/-- The line of a shown slide in the list. -/
def slideLine (number : Nat) (info : Json) : List Char :=
  let n := toString number
  ("  \x7b no: " ++ n ++ ", path: '" ++ n ++ "', component: n" ++ n ++ ", meta: " ++ info.text ++ " \x7d,").toList

theorem toList_natText (n : Nat) : (toString n).toList = Nat.toDigits 10 n := Nat.toList_repr

theorem isLine_slideImport (number : Nat) : IsLine (slideImport number) where
  noFeed := by
    unfold slideImport ModuleId.text ModuleId.slideStart
    simp only [String.toList_append, toList_natText, List.mem_append, not_or]
    simp [feed_not_mem_toDigits]
  noReturn := by
    have hlast : "'".toList.getLast? = some '\'' := by decide
    rw [slideImport, String.toList_append, List.getLast?_append, hlast, Option.some_or]
    decide

theorem isLine_slideLine (number : Nat) (info : Json) : IsLine (slideLine number info) where
  noFeed := by
    unfold slideLine
    simp only [String.toList_append, toList_natText, List.mem_append, not_or]
    simp [feed_not_mem_toDigits, Json.feed_not_mem_text]
  noReturn := by
    have hlast : " \x7d,".toList.getLast? = some ',' := by decide
    rw [slideLine, String.toList_append, List.getLast?_append, hlast, Option.some_or]
    decide

theorem importOf?_slideImport (number : Nat) :
    importOf? (slideImport number) = some (ModuleId.text (.slide number)) := by
  have hblank : ' ' ∉ 'n' :: Nat.toDigits 10 number := by
    rw [List.mem_cons]
    rintro (h | h)
    · cases h
    · exact absurd (Nat.isDigit_of_mem_toDigits (by decide) (by decide) h) (by decide)
  have hline : slideImport number = "import ".toList ++ ('n' :: Nat.toDigits 10 number ++
      ' ' :: "from '".toList ++ ((ModuleId.text (.slide number)).toList ++ ['\''])) := by
    unfold slideImport
    simp only [String.toList_append, toList_natText, List.append_assoc]
    rfl
  unfold importOf?
  rw [hline, stripPrefix?_append]
  dsimp only [Option.bind_eq_bind, Option.bind]
  have hsplit := splitAt?_append hblank "from '".toList ((ModuleId.text (.slide number)).toList ++ ['\''])
  rw [show " from '".toList = ' ' :: "from '".toList from rfl, hsplit]
  dsimp only
  rw [stripSuffix?_append, Option.map_some, String.ofList_toList]

theorem importOf?_slideLine (number : Nat) (info : Json) : importOf? (slideLine number info) = none := by
  have hstart : ∃ rest, slideLine number info = ' ' :: rest := by
    unfold slideLine
    simp only [String.toList_append, List.append_assoc]
    exact ⟨_, rfl⟩
  obtain ⟨rest, hrest⟩ := hstart
  rw [hrest]
  rfl

theorem toList_importLine (number : Nat) :
    (importLine (some ("n" ++ toString number)) (ModuleId.text (.slide number))).toList =
      slideImport number ++ ['\n'] := by
  unfold importLine slideImport
  simp only [String.toList_append, List.append_assoc]
  rfl

theorem toList_slideEntry (number : Nat) (info : Json) :
    (slideEntry number info).toList = slideLine number info ++ ['\n'] := by
  unfold slideEntry slideLine
  simp only [String.toList_append, List.append_assoc]
  rfl

/-- The entries of the list are the descriptions of the slides, one for each. -/
theorem exists_entries {slides : List (Nat × PresentedSlide)} {module : String} {texts : List String}
    (h : slides.mapM (fun x => do return slideEntry x.1 (← slideMeta x.2 module)) = Except.ok texts) :
    ∃ entries : List (Nat × Json), texts = entries.map (fun x => slideEntry x.1 x.2) ∧
      List.Forall₂ (fun x entry => entry.1 = x.1 ∧ slideMeta x.2 module = .ok entry.2) slides entries := by
  induction slides generalizing texts with
  | nil =>
    cases h
    exact ⟨[], rfl, .nil⟩
  | cons x slides ih =>
    rw [List.mapM_cons] at h
    cases hinfo : slideMeta x.2 module with
    | error e =>
      rw [hinfo] at h
      cases h
    | ok info =>
      rw [hinfo] at h
      cases hrest : slides.mapM (fun x => do return slideEntry x.1 (← slideMeta x.2 module)) with
      | error e =>
        rw [hrest] at h
        cases h
      | ok more =>
        rw [hrest] at h
        cases h
        obtain ⟨entries, rfl, hentries⟩ := ih hrest
        exact ⟨(x.1, info) :: entries, rfl, .cons ⟨rfl, hinfo⟩ hentries⟩

/-- The list of slides, line by line. -/
theorem slideList_lines {p : Presentation} {code : String} (h : p.slideList = .ok code) :
    ∃ entries : List (Nat × Json),
      List.Forall₂ (fun x entry => entry.1 = x.1 ∧ slideMeta x.2 (ModuleId.text .slides) = .ok entry.2)
        p.visible entries ∧
      lines code.toList =
        p.visible.map (fun x => slideImport x.1) ++ [] :: "export const slides = [".toList ::
          (entries.map (fun x => slideLine x.1 x.2) ++ ["]".toList, "export default slides".toList]) := by
  unfold slideList at h
  cases htexts : p.visible.mapM (fun (x : Nat × PresentedSlide) => do
      return slideEntry x.1 (← slideMeta x.2 (ModuleId.text .slides)) : _ → Except Error String) with
  | error e =>
    rw [htexts] at h
    cases h
  | ok texts =>
    rw [htexts] at h
    cases h
    obtain ⟨entries, rfl, hmatch⟩ := exists_entries htexts
    have hopening : "\nexport const slides = [\n".toList =
        endedLines [[], "export const slides = [".toList] := by decide
    have hclosing : "]\nexport default slides\n".toList =
        endedLines ["]".toList, "export default slides".toList] := by decide
    have himports : (p.visible.map fun x => importLine (some ("n" ++ toString x.1))
        (ModuleId.text (.slide x.1))).flatMap String.toList =
        endedLines (p.visible.map fun x => slideImport x.1) := by
      simp only [List.flatMap_map, toList_importLine, endedLines]
    have hentries : (entries.map fun x => slideEntry x.1 x.2).flatMap String.toList =
        endedLines (entries.map fun x => slideLine x.1 x.2) := by
      simp only [List.flatMap_map, toList_slideEntry, endedLines]
    -- every part of the text ends its lines, so the lines of the whole are those of the parts
    refine ⟨entries, hmatch, ?_⟩
    simp only [String.toList_append, String.toList_join, himports, hentries, hopening, hclosing,
      ← endedLines_append]
    rw [lines_endedLines, List.append_assoc, List.append_assoc]
    · rfl
    · intro l hl
      simp only [List.mem_append, List.mem_cons, List.mem_map, List.not_mem_nil, or_false] at hl
      rcases hl with ((⟨x, -, rfl⟩ | rfl | rfl) | ⟨x, -, rfl⟩) | rfl | rfl
      · exact isLine_slideImport x.1
      · exact ⟨by decide, by decide⟩
      · exact ⟨by decide, by decide⟩
      · exact isLine_slideLine x.1 x.2
      · exact ⟨by decide, by decide⟩
      · exact ⟨by decide, by decide⟩

/-- The list of slides imports the shown slides, in order, and nothing else. -/
theorem importedIds_slideList {p : Presentation} {code : String} (h : p.slideList = .ok code) :
    importedIds code = p.visible.map fun x => ModuleId.text (.slide x.1) := by
  obtain ⟨entries, -, hlines⟩ := slideList_lines h
  have himports : (p.visible.map fun x => slideImport x.1).filterMap importOf? =
      p.visible.map fun x => ModuleId.text (.slide x.1) := by
    rw [List.filterMap_map, ← List.filterMap_eq_map]
    congr 1
    funext x
    exact importOf?_slideImport x.1
  have hentries : (entries.map fun x => slideLine x.1 x.2).filterMap importOf? = [] := by
    rw [List.filterMap_eq_nil_iff]
    intro l hl
    obtain ⟨x, -, rfl⟩ := List.mem_map.mp hl
    exact importOf?_slideLine x.1 x.2
  unfold importedIds
  rw [hlines, List.filterMap_append, himports, List.filterMap_cons_none (by decide),
    List.filterMap_cons_none (by decide), List.filterMap_append, hentries,
    List.filterMap_cons_none (by decide), List.filterMap_cons_none (by decide)]
  exact List.append_nil _

end Presentation

end DeckPress
