import Mathlib.Data.List.Permutation
import DeckPress.Proofs.Deck.Parsing
import DeckPress.Proofs.Module.Id
import DeckPress.Proofs.Module.Slides

/-!
# Numbers of slides

The shown slides are numbered in five places: where one is looked up, in the total that the entry declares,
in the imports and in the entries of the list of slides, and in the ids of modules. None of them asks the
others. All count the same slides from one on, so under each number the same slide is found everywhere.
-/

namespace DeckPress

open Text

namespace Presentation

variable {p : Presentation}

/-! ## Counting -/

variable (p) in
/-- The slides that are not hidden, in the order of the deck. -/
def shown : List PresentedSlide := p.slides.filter fun s => !s.source.isHidden

theorem length_numberFrom {α : Type} (n : Nat) (xs : List α) : (numberFrom n xs).length = xs.length := by
  induction xs generalizing n with
  | nil => rfl
  | cons x xs ih => rw [numberFrom, List.length_cons, ih, List.length_cons]

theorem getElem?_numberFrom {α : Type} (n i : Nat) (xs : List α) :
    (numberFrom n xs)[i]? = xs[i]?.map (n + i, ·) := by
  induction xs generalizing n i with
  | nil => rfl
  | cons x xs ih =>
    cases i with
    | zero => rfl
    | succ i => rw [numberFrom, List.getElem?_cons_succ, List.getElem?_cons_succ, ih, Nat.add_right_comm,
        Nat.add_assoc]

theorem lookup_numberFrom {α : Type} (n m : Nat) (xs : List α) :
    (numberFrom n xs).lookup m = if n ≤ m then xs[m - n]? else none := by
  induction xs generalizing n with
  | nil => simp [numberFrom]
  | cons x xs ih =>
    rw [numberFrom, List.lookup_cons, ih]
    by_cases hm : m = n
    · subst hm
      simp
    · rw [show (m == n) = false from beq_false_of_ne hm]
      dsimp only
      by_cases hle : n ≤ m
      · rw [if_pos hle, if_pos (by omega), show m - n = m - (n + 1) + 1 by omega, List.getElem?_cons_succ]
      · rw [if_neg hle, if_neg (by omega)]

theorem length_visible : p.visible.length = p.shown.length := length_numberFrom 1 p.shown

theorem getElem?_visible (i : Nat) : p.visible[i]? = p.shown[i]?.map (i + 1, ·) := by
  rw [Nat.add_comm]
  exact getElem?_numberFrom 1 i p.shown

/-- The slide with a number is the one that stands there among the shown slides. -/
theorem slide?_eq (n : Nat) :
    p.slide? n = if 1 ≤ n ∧ n ≤ p.shown.length then p.shown[n - 1]? else none := by
  have hlookup : p.slide? n = if 1 ≤ n then p.shown[n - 1]? else none := lookup_numberFrom 1 n p.shown
  rw [hlookup]
  by_cases hpos : 1 ≤ n
  · by_cases hle : n ≤ p.shown.length
    · rw [if_pos hpos, if_pos ⟨hpos, hle⟩]
    · rw [if_pos hpos, if_neg fun h => hle h.2, List.getElem?_eq_none_iff]
      omega
  · rw [if_neg hpos, if_neg fun h => hpos h.1]

/-! ## The total -/

/-- The total that a line declares, as it is written. -/
def totalOf? (line : List Char) : Option String :=
  (stripPrefix? "export const total = ".toList line).map String.ofList

/-- The total that a module declares last. -/
def declaredTotal? (code : String) : Option String := ((lines code.toList).filterMap totalOf?).getLast?

/-- What stands on lines of its own in front of a module does not change the total it declares. -/
theorem declaredTotal?_behind {a b total : String} (ha : a = "" ∨ a.toList.getLast? = some '\n')
    (hb : declaredTotal? b = some total) : declaredTotal? (a ++ b) = some total := by
  rcases ha with rfl | ha
  · rwa [String.empty_append]
  · obtain ⟨front, hfront⟩ := List.getLast?_eq_some_iff.mp ha
    unfold declaredTotal? at hb ⊢
    rw [String.toList_append, hfront, List.append_assoc, List.singleton_append, lines_behind,
      List.filterMap_append, List.getLast?_append, hb, Option.some_or]

theorem getLast?_importLine (name : Option String) (file : String) :
    (importLine name file).toList.getLast? = some '\n' := by
  have hend : "'\n".toList.getLast? = some '\n' := by decide
  cases name with
  | none => rw [importLine, String.toList_append, List.getLast?_append, hend, Option.some_or]
  | some name => rw [importLine, String.toList_append, List.getLast?_append, hend, Option.some_or]

theorem getLast?_imports (files : List Path) :
    String.join (files.map fun file => importLine none file.slashed) = "" ∨
      (String.join (files.map fun file => importLine none file.slashed)).toList.getLast? = some '\n' := by
  rcases List.eq_nil_or_concat files with rfl | ⟨before, last, rfl⟩
  · exact .inl rfl
  · right
    simp only [List.concat_eq_append, List.map_append, List.map_cons, List.map_nil, String.toList_join,
      List.flatMap_append, List.flatMap_cons, List.flatMap_nil, List.append_nil]
    rw [List.getLast?_append, getLast?_importLine, Option.some_or]

theorem totalOf?_total (n : Nat) : totalOf? ("export const total = " ++ toString n).toList = some (toString n) := by
  unfold totalOf?
  rw [String.toList_append, stripPrefix?_append, Option.map_some, String.ofList_toList]

/-- The entry declares how many slides are shown. -/
theorem declaredTotal?_entry : declaredTotal? p.entry = some (toString p.shown.length) := by
  have hline : IsLine ("export const total = " ++ toString p.shown.length).toList := by
    constructor
    · rw [String.toList_append, toList_natText, List.mem_append]
      rintro (hmem | hmem)
      · exact absurd hmem (by decide)
      · exact feed_not_mem_toDigits _ hmem
    · intro hlast
      have hmem := List.mem_of_getLast? hlast
      rw [String.toList_append, toList_natText, List.mem_append] at hmem
      rcases hmem with hmem | hmem
      · exact absurd hmem (by decide)
      · exact absurd (isAsciiDigit_of_mem_toDigits hmem) (by decide)
  unfold entry
  rw [length_visible]
  simp only [String.append_assoc]
  -- the imports stand on lines of their own, whatever files they name
  refine declaredTotal?_behind (.inr (by decide)) (declaredTotal?_behind (.inr (by decide))
    (declaredTotal?_behind (.inr (getLast?_importLine _ _)) (declaredTotal?_behind
    (.inr (getLast?_importLine _ _)) (declaredTotal?_behind (.inr (getLast?_importLine _ _))
    (declaredTotal?_behind (getLast?_imports _) (declaredTotal?_behind (.inr (getLast?_importLine _ _))
    (declaredTotal?_behind (.inr (by decide)) ?_)))))))
  have hfeed : ∀ rest : String, ("\n" ++ rest).toList = '\n' :: rest.toList := fun rest => by
    rw [String.toList_append]
    rfl
  rw [← String.append_assoc]
  unfold declaredTotal?
  rw [String.toList_append, hfeed, lines_line hline, List.filterMap_cons_some (totalOf?_total _)]
  have hrest : ∀ rest : List Char, (lines rest).filterMap totalOf? = [] →
      (toString p.shown.length :: (lines rest).filterMap totalOf?).getLast? =
        some (toString p.shown.length) := fun rest h => by rw [h]; rfl
  simp only [String.toList_append]
  exact hrest _ (by decide +kernel)

/-! ## The list -/

/-- The entry of a slide in the list, as it is written. -/
structure Listing where
  number : String
  path : String
  component : String
  info : String

/-- The entry that a line holds. -/
def listingOf? (line : List Char) : Option Listing := do
  let rest ← stripPrefix? "  \x7b no: ".toList line
  let (number, rest) ← splitAt? ", path: '".toList rest
  let (path, rest) ← splitAt? "', component: ".toList rest
  let (component, rest) ← splitAt? ", meta: ".toList rest
  let info ← stripSuffix? " \x7d,".toList rest
  return ⟨String.ofList number, String.ofList path, String.ofList component, String.ofList info⟩

/-- The entries of a list of slides. -/
def listings (code : String) : List Listing := (lines code.toList).filterMap listingOf?

/-- The name under which a line imports a module. -/
def importName? (line : List Char) : Option String := do
  let rest ← stripPrefix? "import ".toList line
  let (name, _) ← splitAt? " from '".toList rest
  return String.ofList name

/-- The names under which a module imports others. -/
def importNames (code : String) : List String := (lines code.toList).filterMap importName?

/-- The name of the component of a slide. -/
def componentName (number : Nat) : String := "n" ++ toString number

theorem not_mem_digits {c : Char} (h : isAsciiDigit c = false) (n : Nat) : c ∉ (toString n).toList := by
  intro hmem
  rw [toList_natText] at hmem
  rw [isAsciiDigit_of_mem_toDigits hmem] at h
  cases h

theorem not_mem_componentName {c : Char} (hn : c ≠ 'n') (h : isAsciiDigit c = false) (n : Nat) :
    c ∉ (componentName n).toList := by
  unfold componentName
  rw [String.toList_append, List.mem_append]
  rintro (hmem | hmem)
  · exact hn (List.mem_singleton.mp hmem)
  · exact not_mem_digits h n hmem

theorem splitAt?_mark {c : Char} {beginning : List Char} (h : c ∉ beginning) (mark rest : List Char) :
    splitAt? (c :: mark) (beginning ++ (c :: mark ++ rest)) = some (beginning, rest) := by
  rw [← List.append_assoc]
  exact splitAt?_append h mark rest

/-- The line of a slide says its number three times, and then what there is to say about it. -/
theorem listingOf?_slideLine (number : Nat) (info : Json) :
    listingOf? (slideLine number info) =
      some ⟨toString number, toString number, componentName number, info.text⟩ := by
  have hline : slideLine number info = "  \x7b no: ".toList ++ ((toString number).toList ++
      (", path: '".toList ++ ((toString number).toList ++ ("', component: ".toList ++
        ((componentName number).toList ++ (", meta: ".toList ++ (info.text.toList ++ " \x7d,".toList))))))) := by
    unfold slideLine componentName
    simp only [String.toList_append, List.append_assoc]
    rfl
  have hpath := splitAt?_mark (not_mem_digits (c := ',') (by decide) number) " path: '".toList
  have hcomponent := splitAt?_mark (not_mem_digits (c := '\'') (by decide) number) ", component: ".toList
  have hinfo := splitAt?_mark (not_mem_componentName (c := ',') (by decide) (by decide) number)
    " meta: ".toList
  unfold listingOf?
  rw [hline, stripPrefix?_append]
  show (splitAt? (',' :: " path: '".toList) (_ ++ (',' :: " path: '".toList ++ _))).bind _ = _
  rw [hpath]
  show (splitAt? ('\'' :: ", component: ".toList) (_ ++ ('\'' :: ", component: ".toList ++ _))).bind _ = _
  rw [hcomponent]
  show (splitAt? (',' :: " meta: ".toList) (_ ++ (',' :: " meta: ".toList ++ _))).bind _ = _
  rw [hinfo]
  show (stripSuffix? " \x7d,".toList (info.text.toList ++ " \x7d,".toList)).bind _ = _
  rw [stripSuffix?_append]
  show some (Listing.mk (String.ofList (toString number).toList) (String.ofList (toString number).toList)
    (String.ofList (componentName number).toList) (String.ofList info.text.toList)) = _
  simp only [String.ofList_toList]

theorem listingOf?_slideImport (number : Nat) : listingOf? (slideImport number) = none := by
  have hstart : ∃ rest, slideImport number = 'i' :: rest := by
    unfold slideImport
    simp only [String.toList_append, List.append_assoc]
    exact ⟨_, rfl⟩
  obtain ⟨rest, hrest⟩ := hstart
  rw [hrest]
  rfl

theorem importName?_slideImport (number : Nat) :
    importName? (slideImport number) = some (componentName number) := by
  have hline : slideImport number = "import ".toList ++ ((componentName number).toList ++
      (" from '".toList ++ ((ModuleId.text (.slide number)).toList ++ ['\'']))) := by
    unfold slideImport componentName
    simp only [String.toList_append, List.append_assoc]
    rfl
  have hname := splitAt?_mark (not_mem_componentName (c := ' ') (by decide) (by decide) number)
    "from '".toList
  unfold importName?
  rw [hline, stripPrefix?_append]
  show (splitAt? (' ' :: "from '".toList) (_ ++ (' ' :: "from '".toList ++ _))).bind _ = _
  rw [hname]
  exact congrArg some String.ofList_toList

theorem importName?_slideLine (number : Nat) (info : Json) : importName? (slideLine number info) = none := by
  have hstart : ∃ rest, slideLine number info = ' ' :: rest := by
    unfold slideLine
    simp only [String.toList_append, List.append_assoc]
    exact ⟨_, rfl⟩
  obtain ⟨rest, hrest⟩ := hstart
  rw [hrest]
  rfl

/-- Numbers that are taken over are those of a numbering. -/
theorem numberFrom_of_forall₂ {α β : Type} {r : α → β → Prop} {n : Nat} {xs : List α}
    {entries : List (Nat × β)}
    (h : List.Forall₂ (fun x entry => entry.1 = x.1 ∧ r x.2 entry.2) (numberFrom n xs) entries) :
    entries = numberFrom n (entries.map Prod.snd) ∧ List.Forall₂ r xs (entries.map Prod.snd) := by
  induction xs generalizing n entries with
  | nil =>
    cases h
    exact ⟨rfl, .nil⟩
  | cons x xs ih =>
    rw [numberFrom] at h
    cases h with
    | @cons _ entry _ entries hentry hrest =>
      obtain ⟨hentries, hmatch⟩ := ih hrest
      obtain ⟨hnumber, hhere⟩ := hentry
      obtain ⟨number, b⟩ := entry
      cases hnumber
      exact ⟨congrArg (_ :: ·) hentries, .cons hhere hmatch⟩

/-- What the list of slides says about the shown slides, and how it is written. -/
theorem slideList_eq {code : String} (h : p.slideList = .ok code) :
    ∃ infos : List Json,
      List.Forall₂ (fun s info => slideMeta s (ModuleId.text .slides) = .ok info) p.shown infos ∧
      importNames code = p.visible.map (fun x => componentName x.1) ∧
      listings code = (numberFrom 1 infos).map fun x =>
        ⟨toString x.1, toString x.1, componentName x.1, x.2.text⟩ := by
  obtain ⟨entries, hmatch, hlines⟩ := slideList_lines h
  obtain ⟨hentries, hinfos⟩ := numberFrom_of_forall₂
    (r := fun s info => slideMeta s (ModuleId.text .slides) = .ok info) hmatch
  have hread : ∀ {α : Type} (read : List Char → Option α), read [] = none →
      read "export const slides = [".toList = none → read "]".toList = none →
      read "export default slides".toList = none →
      (lines code.toList).filterMap read = p.visible.filterMap (fun x => read (slideImport x.1)) ++
        entries.filterMap (fun x => read (slideLine x.1 x.2)) := by
    intro α read hblank hopening hclosing hdefault
    rw [hlines, List.filterMap_append, List.filterMap_map, List.filterMap_cons_none hblank,
      List.filterMap_cons_none hopening, List.filterMap_append, List.filterMap_map,
      List.filterMap_cons_none hclosing, List.filterMap_cons_none hdefault, List.filterMap_nil,
      List.append_nil]
    rfl
  refine ⟨entries.map Prod.snd, hinfos, ?_, ?_⟩
  · unfold importNames
    rw [hread importName? rfl rfl rfl rfl]
    simp only [importName?_slideImport, importName?_slideLine, List.filterMap_eq_map', List.filterMap_none,
      List.append_nil]
  · unfold listings
    rw [hread listingOf? rfl rfl rfl rfl, ← hentries]
    simp only [listingOf?_slideImport, listingOf?_slideLine, List.filterMap_eq_map', List.filterMap_none,
      List.nil_append]

/-! ## What is said about a slide -/

/-- A field of what the list says about a slide. -/
def infoField? (info : Json) (key : String) : Option Json :=
  match info with
  | .obj fields => Fields.get? fields key
  | _ => none

/-- The fields in the order of their keys. -/
theorem ofList_info (fields title note index start stop : Json) :
    Fields.ofList [("frontmatter", fields), ("title", title), ("note", note), ("index", index),
        ("start", start), ("end", stop)] =
      [("end", stop), ("frontmatter", fields), ("index", index), ("note", note), ("start", start),
        ("title", title)] := by
  cbv

/-- What the list of slides says about a slide that can be described. -/
theorem slideMeta_eq_ok {s : PresentedSlide} {module : String} {info : Json}
    (h : slideMeta s module = .ok info) :
    ∃ fields title, describe s module = .ok (fields, title) ∧
      infoField? info "frontmatter" = some (.obj fields) ∧
      infoField? info "title" = some (optionalText title) ∧
      infoField? info "note" = some (optionalText s.source.note?) ∧
      infoField? info "index" = some (.int s.source.index) := by
  unfold slideMeta at h
  cases hd : describe s module with
  | error e =>
    rw [hd] at h
    cases h
  | ok described =>
    rw [hd] at h
    cases h
    rw [ofList_info]
    exact ⟨described.1, described.2, rfl, rfl, rfl, rfl, rfl⟩

/-- What the list of slides has of the slide with a number. -/
structure Lists (p : Presentation) (code : String) (number : Nat) (s : PresentedSlide) (info : Json) : Prop where
  /-- The list imports the module of the slide. -/
  imported : (importedIds code)[number - 1]? = some (ModuleId.text (.slide number))
  /-- The id that is imported is the slide's. A number has 64 bits. -/
  parsed : number < 2 ^ 64 → ModuleId.parse? (ModuleId.text (.slide number)) = some (.slide number)
  /-- That module is the markdown of the slide. -/
  provided : ∀ d editors, p.provide? d editors (.slide number) =
    (s.markdown (ModuleId.text (.slide number))).map some
  /-- The entry carries the number, the name under which the module is imported, and what there is to say
  about the slide. -/
  listed : (importNames code)[number - 1]? = some (componentName number) ∧
    (listings code)[number - 1]? =
      some ⟨toString number, toString number, componentName number, info.text⟩
  described : slideMeta s (ModuleId.text .slides) = .ok info

/-! ## Agreement -/

/-- A presentation is that of the deck that its entry holds. -/
theorem load_eq {d : Disk} {l : Layout} (h : Presentation.load d l = .ok p) :
    ∃ text deck, d.readText l.entry = .ok text ∧ Deck.parse text = .ok deck ∧
      p = { layout := l, headmatter := deck.headmatter, slides := deck.slides.map (withFile d l.deckRoot),
            styles := findStyles d l, setupFiles := findSetups d l deck.headmatter } := by
  unfold load at h
  cases hread : d.readText l.entry with
  | error e =>
    rw [hread] at h
    cases h
  | ok text =>
    rw [hread] at h
    cases hparse : Deck.parse text with
    | error fault => simp [bind, Except.bind, Except.mapError, hparse] at h
    | ok deck =>
      simp only [bind, Except.bind, Except.mapError, hparse, pure, Except.pure, Except.ok.injEq] at h
      exact ⟨text, deck, rfl, hparse, h.symm⟩

theorem load_eq_ok {d : Disk} {l : Layout} (h : Presentation.load d l = .ok p) :
    ∃ text deck, d.readText l.entry = .ok text ∧ Deck.parse text = .ok deck ∧ p.layout = l ∧
      p.slides = deck.slides.map (withFile d l.deckRoot) := by
  obtain ⟨text, deck, hread, hparse, rfl⟩ := load_eq h
  exact ⟨text, deck, hread, hparse, rfl, rfl⟩

/-- Shown slides stand in the order of the deck. -/
theorem shown_ascend {d : Disk} {l : Layout} (h : Presentation.load d l = .ok p) :
    p.shown.Pairwise fun s t => s.source.index < t.source.index := by
  obtain ⟨text, deck, -, hparse, -, hslides⟩ := load_eq_ok h
  obtain ⟨sections, -, hfrom⟩ := Deck.parse_eq_ok.mp hparse
  have hindices : p.slides.map (·.source.index) = List.range' 0 deck.slides.length := by
    rw [hslides, List.map_map]
    exact hfrom.index_eq
  have hall : p.slides.Pairwise fun s t => s.source.index < t.source.index := by
    rw [← List.pairwise_map, hindices]
    exact List.pairwise_lt_range'
  exact hall.sublist List.filter_sublist

/-- The place in the deck that the list gives for a slide. -/
def indexOf? (info : Json) : Option Int :=
  match infoField? info "index" with
  | some (.int index) => some index
  | _ => none

theorem indexOf?_slideMeta {s : PresentedSlide} {module : String} {info : Json}
    (h : slideMeta s module = .ok info) : indexOf? info = some (s.source.index : Int) := by
  obtain ⟨-, -, -, -, -, -, hindex⟩ := slideMeta_eq_ok h
  rw [indexOf?, hindex]

/-- What is said about slides ascends with them. -/
theorem indexOf?_ascend {module : String} {slides : List PresentedSlide} {infos : List Json}
    (h : List.Forall₂ (fun s info => slideMeta s module = .ok info) slides infos)
    (hslides : slides.Pairwise fun s t => s.source.index < t.source.index) :
    infos.Pairwise fun a b => ∃ i j, indexOf? a = some i ∧ indexOf? b = some j ∧ i < j := by
  induction h with
  | nil => exact .nil
  | @cons s info slides infos hinfo hrest ih =>
    obtain ⟨hfirst, hslides⟩ := List.pairwise_cons.mp hslides
    refine .cons (fun other hother => ?_) (ih hslides)
    obtain ⟨k, hk, rfl⟩ := List.getElem_of_mem hother
    have hks : k < slides.length := hrest.length_eq ▸ hk
    refine ⟨s.source.index, slides[k].source.index, indexOf?_slideMeta hinfo,
      indexOf?_slideMeta (hrest.get hks hk), ?_⟩
    exact Int.ofNat_lt.mpr (hfirst _ (List.getElem_mem hks))

/-- The list of slides has each shown slide under its number. -/
theorem lists_of_slideList {code : String} (h : p.slideList = .ok code) :
    (importedIds code).length = p.shown.length ∧ (listings code).length = p.shown.length ∧
      ∃ infos : List Json,
        List.Forall₂ (fun s info => slideMeta s (ModuleId.text .slides) = .ok info) p.shown infos ∧
        ∀ k s info, p.shown[k]? = some s → infos[k]? = some info → p.Lists code (k + 1) s info := by
  obtain ⟨infos, hinfos, himports, hlistings⟩ := slideList_eq h
  have hids := importedIds_slideList h
  refine ⟨?_, ?_, infos, hinfos, fun k s info hs hinfo => ?_⟩
  · rw [hids, List.length_map, length_visible]
  · rw [hlistings, List.length_map, length_numberFrom, hinfos.length_eq]
  · have hshown : p.visible[k]? = some (k + 1, s) := by
      rw [getElem?_visible, hs]
      rfl
    have hwithin := (List.getElem?_eq_some_iff.mp hs).1
    refine ⟨?_, ModuleId.parse?_slide (by omega), fun d editors => ?_, ⟨?_, ?_⟩, ?_⟩
    · rw [Nat.add_sub_cancel, hids, List.getElem?_map, hshown]
      rfl
    · have hslide : p.slide? (k + 1) = some s := by
        rw [slide?_eq, if_pos ⟨by omega, by omega⟩, Nat.add_sub_cancel, hs]
      rw [provide?, slideModule, hslide]
    · rw [Nat.add_sub_cancel, himports, List.getElem?_map, hshown]
      rfl
    · rw [Nat.add_sub_cancel, hlistings, List.getElem?_map, getElem?_numberFrom, hinfo, Nat.add_comm 1 k]
      rfl
    · obtain ⟨hk, rfl⟩ := List.getElem?_eq_some_iff.mp hs
      obtain ⟨hk', rfl⟩ := List.getElem?_eq_some_iff.mp hinfo
      exact hinfos.get hk hk'

/-- All who number the slides of a deck number the same ones: those that are shown, in order, from one on.
So the entry declares as many as the list imports and describes, and under each number the list has the
module and the description of the slide that is found under it. -/
theorem numbering_agrees {d : Disk} {l : Layout} (h : Presentation.load d l = .ok p) :
    (∀ n, p.slide? n = if 1 ≤ n ∧ n ≤ p.shown.length then p.shown[n - 1]? else none) ∧
      declaredTotal? p.entry = some (toString p.shown.length) ∧
      ∀ code, p.slideList = .ok code →
        (importedIds code).length = p.shown.length ∧ (listings code).length = p.shown.length ∧
        ∃ infos : List Json, infos.length = p.shown.length ∧
          (∀ k s info, p.shown[k]? = some s → infos[k]? = some info → p.Lists code (k + 1) s info) ∧
          infos.Pairwise fun a b => ∃ i j, indexOf? a = some i ∧ indexOf? b = some j ∧ i < j := by
  refine ⟨slide?_eq, declaredTotal?_entry, fun code hcode => ?_⟩
  obtain ⟨himports, hlistings, infos, hinfos, hlists⟩ := lists_of_slideList hcode
  exact ⟨himports, hlistings, infos, hinfos.length_eq.symm, hlists,
    indexOf?_ascend hinfos (shown_ascend h)⟩

/-- A disk with a deck of three slides, of which the second is hidden. -/
def hiddenDisk : Disk where
  entries := [(["slides.md"], .file "# One\n\n---\nhide: true\n---\n# Two\n\n---\n---\n# Three\n".toUTF8)]

/-- The layout of a deck beside which nothing stands. -/
def bareLayout : Layout where
  theme := "default"
  entry := ⟨"/slides.md"⟩
  deckRoot := ⟨"/"⟩
  clientRoot := ⟨"/client"⟩
  themeRoot := ⟨"/theme"⟩

theorem numbering_agrees_hidden :
    ∃ p, Presentation.load hiddenDisk bareLayout = .ok p ∧ declaredTotal? p.entry = some "2" ∧
      (p.slide? 2).map (·.source.index) = some 2 ∧
      ∃ code, p.slideList = .ok code ∧ (importedIds code).length = 2 ∧ (listings code).length = 2 := by
  have hseen : (Presentation.load hiddenDisk bareLayout).toOption.any (fun p =>
      p.shown.map (·.source.index) = [0, 2] ∧ p.slideList.toOption.isSome) = true := by decide +kernel
  cases hload : Presentation.load hiddenDisk bareLayout with
  | error e =>
    rw [hload] at hseen
    cases hseen
  | ok p =>
    rw [hload] at hseen
    obtain ⟨hshown, hlisted⟩ := of_decide_eq_true hseen
    have hlength : p.shown.length = 2 := by rw [← List.length_map, hshown]; rfl
    obtain ⟨hslide, htotal, hlist⟩ := numbering_agrees hload
    cases hcode : p.slideList with
    | error e =>
      rw [hcode] at hlisted
      cases hlisted
    | ok code =>
      obtain ⟨himports, hlistings, -⟩ := hlist code hcode
      refine ⟨p, rfl, ?_, ?_, code, hcode, himports.trans hlength, hlistings.trans hlength⟩
      · rw [htotal, hlength]
        rfl
      · rw [hslide, hlength, if_pos (by decide), ← List.getElem?_map, hshown]
        rfl

end Presentation

end DeckPress
