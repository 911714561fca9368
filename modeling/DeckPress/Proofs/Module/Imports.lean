import DeckPress.Proofs.Component.Lookups
import DeckPress.Proofs.Component.Statements
import DeckPress.Proofs.Component.Tags
import DeckPress.Proofs.Module.Numbering

/-!
# Imports of files

Components, setup files, stylesheets and the application are imported by their paths, which are put between
single quotes as they are, with forward slashes. Whoever runs the module reads a string literal there, in
which a backslash starts an escape, a quote ends the text and a line may not end. A path that is written has
no backslash left. So an import names its file unless the path has a quote or a line end in it.
-/

namespace DeckPress

open Text

/-! ## String literals -/

namespace Literal

/-- The units of 16 bits that a code point is written in: one, or a pair of surrogates. -/
def unitsAt (n : Nat) : List Nat :=
  if n < 0x10000 then [n] else [0xd800 + (n - 0x10000) / 0x400, 0xdc00 + (n - 0x10000) % 0x400]

/-- The units of a text, which is what a literal denotes. -/
def units (s : List Char) : List Nat := s.flatMap fun c => unitsAt c.toNat

/-- The characters behind a backslash that stand for one unit. -/
def escapes : List (Char × Nat) :=
  [('\'', 0x27), ('"', 0x22), ('\\', 0x5c), ('b', 0x08), ('f', 0x0c), ('n', 0x0a), ('r', 0x0d), ('t', 0x09),
    ('v', 0x0b)]

/-- The ends of lines in a script. -/
def endsLine (c : Char) : Bool := ['\n', '\r', '\u2028', '\u2029'].contains c

/-- The number that hexadecimal digits stand for. -/
def hexNumber? (s : List Char) : Option Nat :=
  if s.isEmpty || !s.all isHexDigit then none else some (hexValue s)

/-- What is denoted behind a backslash, and what follows. The end of a line denotes nothing, and a character
that needs no backslash itself; digits but a lone zero are no escapes in modules. -/
def readEscape? : List Char → Option (List Nat × List Char)
  | [] => none
  | '\r' :: '\n' :: rest => some ([], rest)
  | 'x' :: a :: b :: rest => (hexNumber? [a, b]).map fun n => ([n], rest)
  | 'u' :: '\x7b' :: rest => do
    let (digits, rest) ← splitAt? ['\x7d'] rest
    let n ← hexNumber? digits
    if n ≤ 0x10ffff then some (unitsAt n, rest) else none
  | 'u' :: a :: b :: c :: d :: rest => (hexNumber? [a, b, c, d]).map fun n => ([n], rest)
  | c :: rest =>
    match escapes.lookup c with
    | some n => some ([n], rest)
    | none =>
      if endsLine c then some ([], rest)
      else if c = '0' && !rest.head?.any isAsciiDigit then some ([0], rest)
      else if isAsciiDigit c || c = 'x' || c = 'u' then none
      else some (unitsAt c.toNat, rest)

/-- The literal in single quotes of which the first is read, and what follows. A line feed or a carriage
return must not stand in it; the other ends of lines may. -/
def read? (s : List Char) : Option (List Nat × List Char) := go s.length s
where
  /-- Every step uses up a character, so `fuel` is the length of the text. -/
  go : Nat → List Char → Option (List Nat × List Char)
    | 0, _ => none
    | _ + 1, [] => none
    | fuel + 1, c :: cs =>
      if c = '\'' then some ([], cs)
      else if c = '\n' || c = '\r' then none
      else do
        let (here, rest) ← if c = '\\' then readEscape? cs else some (unitsAt c.toNat, cs)
        let (more, rest) ← go fuel rest
        return (here ++ more, rest)

/-- Characters that a literal cannot hold as they are. -/
def breaks : List Char := ['\'', '\n', '\r']

/-- A text that can stand between single quotes. -/
def Fits (s : List Char) : Prop := ∀ c ∈ breaks, c ∉ s

-- the few characters are looked through; there is also an instance that would try every character there is
instance (s : List Char) : Decidable (Fits s) := List.decidableBAll (· ∉ s) breaks

theorem forall_breaks {p : Char → Prop} : (∀ c ∈ breaks, p c) ↔ p '\'' ∧ p '\n' ∧ p '\r' := by
  simp [breaks]

theorem units_cons (c : Char) (s : List Char) : units (c :: s) = unitsAt c.toNat ++ units s := rfl

theorem fits_cons {c : Char} {s : List Char} : Fits (c :: s) ↔ c ∉ breaks ∧ Fits s := by
  simp only [Fits, List.mem_cons, not_or, forall₂_and]
  refine and_congr_left' ⟨fun h hc => h c hc rfl, fun h x hx hxc => h (hxc ▸ hx)⟩

theorem not_mem_breaks {c : Char} : c ∉ breaks ↔ c ≠ '\'' ∧ ¬ (c = '\n' || c = '\r') = true := by
  simp [breaks]

/-- A text that fits is read as itself. -/
theorem read?_of_fits {s : List Char} (h : Fits s) (hplain : '\\' ∉ s) (rest : List Char) :
    read? (s ++ '\'' :: rest) = some (units s, rest) := by
  suffices hgo : ∀ fuel, s.length < fuel → read?.go fuel (s ++ '\'' :: rest) = some (units s, rest) from
    hgo _ (by simp)
  induction s with
  | nil =>
    intro fuel hfuel
    obtain ⟨fuel, rfl⟩ := Nat.exists_eq_add_one_of_ne_zero (Nat.ne_zero_of_lt hfuel)
    exact if_pos rfl
  | cons c s ih =>
    intro fuel hfuel
    obtain ⟨fuel, rfl⟩ := Nat.exists_eq_add_one_of_ne_zero (Nat.ne_zero_of_lt hfuel)
    obtain ⟨hc, hs⟩ := fits_cons.mp h
    obtain ⟨hquote, hend⟩ := not_mem_breaks.mp hc
    obtain ⟨hback, hplain⟩ := List.ne_and_not_mem_of_not_mem_cons hplain
    rw [List.cons_append, read?.go, if_neg hquote, if_neg hend, if_neg hback.symm, units_cons]
    dsimp only [bind, Option.bind]
    rw [ih hs hplain fuel (Nat.lt_of_succ_lt_succ hfuel)]
    rfl

/-- What is read of a text without backslashes fits and stands in front of a quote. -/
theorem exists_of_read? {t : List Char} {us : List Nat} {rest : List Char} (h : read? t = some (us, rest))
    (hplain : '\\' ∉ t) : ∃ s, Fits s ∧ us = units s ∧ t = s ++ '\'' :: rest := by
  unfold read? at h
  generalize t.length = fuel at h
  induction fuel generalizing t us rest with
  | zero => cases h
  | succ fuel ih =>
    cases t with
    | nil => cases h
    | cons c cs =>
      obtain ⟨hback, hplain⟩ := List.ne_and_not_mem_of_not_mem_cons hplain
      rw [read?.go] at h
      split at h
      · rename_i hquote
        cases h
        exact ⟨[], by simp [Fits], rfl, by rw [hquote]; rfl⟩
      · rename_i hquote
        split at h
        · cases h
        · rename_i hend
          rw [if_neg hback.symm] at h
          obtain ⟨⟨here, after⟩, hhere, h⟩ := Option.bind_eq_some_iff.mp h
          cases hhere
          obtain ⟨⟨more, after⟩, hmore, h⟩ := Option.bind_eq_some_iff.mp h
          cases h
          obtain ⟨s, hs, rfl, rfl⟩ := ih hplain hmore
          exact ⟨c :: s, fits_cons.mpr ⟨not_mem_breaks.mpr ⟨hquote, hend⟩, hs⟩, rfl, rfl⟩

/-- A character of one unit is in a text if its unit is denoted. -/
theorem mem_units {c : Char} (hc : c.toNat < 0xd800) {s : List Char} : c.toNat ∈ units s ↔ c ∈ s := by
  unfold units unitsAt
  rw [List.mem_flatMap]
  constructor
  · rintro ⟨x, hx, hmem⟩
    split at hmem
    · rwa [Char.toNat_inj.mp (List.mem_singleton.mp hmem)]
    · simp only [List.mem_cons, List.not_mem_nil, or_false] at hmem
      omega
  · intro h
    exact ⟨c, h, by rw [if_pos (by omega)]; exact List.mem_singleton.mpr rfl⟩

theorem fits_iff_units {s : List Char} : Fits s ↔ ∀ c ∈ breaks, c.toNat ∉ units s := by
  have hsmall : ∀ c ∈ breaks, c.toNat < 0xd800 := forall_breaks.mpr (by decide)
  exact forall₂_congr fun c hc => not_congr (mem_units (hsmall c hc)).symm

end Literal

/-! ## Reading line by line -/

/-- What is read of the lines of a text. -/
def readLines {α : Type} (read? : List Char → Option α) (code : String) : List α :=
  (lines code.toList).filterMap read?

section

variable {α β : Type} {read? : List Char → Option α}

theorem readLines_append {a : String} (ha : a = "" ∨ a.toList.getLast? = some '\n') (b : String) :
    readLines read? (a ++ b) = readLines read? a ++ readLines read? b := by
  rcases ha with rfl | ha
  · simp [readLines, lines]
  · obtain ⟨front, hfront⟩ := List.getLast?_eq_some_iff.mp ha
    unfold readLines
    rw [String.toList_append, hfront, List.append_assoc, List.singleton_append, lines_behind front b.toList,
      lines_behind front [], List.filterMap_append, List.filterMap_append]
    simp [lines]

theorem readLines_join {f : β → String} (hf : ∀ x, (f x).toList.getLast? = some '\n') (xs : List β)
    (rest : String) : readLines read? (String.join (xs.map f) ++ rest) =
      (xs.flatMap fun x => readLines read? (f x)) ++ readLines read? rest := by
  induction xs with
  | nil => rw [List.map_nil, String.join_nil, String.empty_append]; rfl
  | cons x xs ih =>
    rw [List.map_cons, String.join_cons, String.append_assoc, readLines_append (.inr (hf x)), ih,
      List.flatMap_cons, List.append_assoc]

theorem readLines_join_nil {xs : List String} (hends : ∀ l ∈ xs, l.toList.getLast? = some '\n')
    (hnone : ∀ l ∈ xs, readLines read? l = []) : readLines read? (String.join xs) = [] := by
  induction xs with
  | nil => simp [readLines, lines]
  | cons x xs ih =>
    obtain ⟨hend, hends⟩ := List.forall_mem_cons.mp hends
    obtain ⟨hfirst, hnone⟩ := List.forall_mem_cons.mp hnone
    rw [String.join_cons, readLines_append (.inr hend), hfirst, ih hends hnone, List.append_nil]

theorem readLines_line {code : String} {l : List Char} (hcode : code.toList = l ++ ['\n']) (hl : IsLine l) :
    readLines read? code = (read? l).toList := by
  unfold readLines
  rw [hcode, lines_line hl, List.filterMap_cons]
  cases read? l <;> rfl

end

/-! ## Import statements -/

/-- An import: what stands between the keyword and the literal, and what the literal denotes. -/
structure ImportStatement where
  binding : String
  specifier : List Nat
  deriving DecidableEq, Repr

namespace ImportStatement

open Literal

/-- The import that a line holds, with nothing behind the literal. -/
def ofLine? (line : List Char) : Option ImportStatement := do
  let rest ← stripPrefix? "import ".toList line
  let (binding, rest) ← splitAt? ['\''] rest
  let (specifier, rest) ← Literal.read? rest
  if rest.isEmpty then some ⟨String.ofList binding, specifier⟩ else none

/-- What stands in front of the literal. -/
def bindingOf (name : Option String) : String := name.elim "" (· ++ " from ")

/-- The import of a file under a name, or for its effects. -/
def ofFile (name : Option String) (file : String) : ImportStatement := ⟨bindingOf name, units file.toList⟩

/-- The text of an import of a file, without the end of its line. -/
def text (name : Option String) (file : String) : List Char :=
  "import ".toList ++ ((bindingOf name).toList ++ '\'' :: (file.toList ++ ['\'']))

theorem not_mem_bindingOf {c : Char} {name : Option String} (hc : c ∉ " from ".toList)
    (hname : ∀ n ∈ name, c ∉ n.toList) : c ∉ (bindingOf name).toList := by
  cases name with
  | none => exact List.not_mem_nil
  | some n =>
    rw [bindingOf, Option.elim_some, String.toList_append, List.mem_append, not_or]
    exact ⟨hname n rfl, hc⟩

theorem toList_importLine (name : Option String) (file : String) :
    (Presentation.importLine name file).toList = text name file ++ ['\n'] := by
  unfold Presentation.importLine text bindingOf
  cases name <;> simp

/-- An import of a file is read as such, if neither its name nor the file has what a literal cannot hold. -/
theorem ofLine?_text {name : Option String} {file : String} (hname : ∀ n ∈ name, '\'' ∉ n.toList)
    (hfits : Fits file.toList) (hplain : '\\' ∉ file.toList) :
    ofLine? (text name file) = some (ofFile name file) := by
  have hcut : splitAt? ['\''] ((bindingOf name).toList ++ '\'' :: (file.toList ++ ['\''])) =
      some ((bindingOf name).toList, file.toList ++ ['\'']) :=
    Presentation.splitAt?_mark (not_mem_bindingOf (by decide) hname) [] _
  unfold ofLine? text
  rw [stripPrefix?_append, Option.bind_eq_bind, Option.bind_some, hcut, Option.bind_eq_bind, Option.bind_some]
  dsimp only
  rw [read?_of_fits hfits hplain, Option.bind_eq_bind, Option.bind_some]
  show some (ImportStatement.mk (String.ofList _) _) = _
  rw [String.ofList_toList]
  rfl

theorem isLine_text {name : Option String} {file : String} (hname : ∀ n ∈ name, '\n' ∉ n.toList)
    (hfits : Fits file.toList) : IsLine (text name file) := by
  have hkeyword : '\n' ∉ "import ".toList := by decide
  have hbinding := not_mem_bindingOf (by decide) hname
  unfold text
  generalize "import ".toList = keyword at hkeyword
  constructor
  · simp [hkeyword, hbinding, hfits '\n' (by decide)]
  · rw [← List.cons_append, ← List.append_assoc, ← List.append_assoc, List.getLast?_concat]
    decide

/-! ## Imports in a text -/

theorem readLines_importLine {name : Option String} {file : String} (hname : ∀ n ∈ name, Fits n.toList)
    (hfits : Fits file.toList) (hplain : '\\' ∉ file.toList) :
    readLines ofLine? (Presentation.importLine name file) = [ofFile name file] := by
  rw [readLines_line (toList_importLine name file) (isLine_text (fun n hn => hname n hn '\n' (by decide)) hfits),
    ofLine?_text (fun n hn => hname n hn '\'' (by decide)) hfits hplain]
  rfl

theorem mem_of_mem_lines {c : Char} {l s : List Char} (hl : l ∈ lines s) (hc : c ∈ l) : c ∈ s := by
  induction s using lines.induct generalizing l with
  | case1 => cases hl
  | case2 cs ih =>
    rcases List.mem_cons.mp hl with rfl | hl
    · cases hc
    · exact List.mem_cons_of_mem _ (ih hl hc)
  | case3 cs ih =>
    rcases List.mem_cons.mp hl with rfl | hl
    · cases hc
    · exact List.mem_cons_of_mem _ (List.mem_cons_of_mem _ (ih hl hc))
  | case4 x cs hfeed hreturn ih =>
    rw [lines] at hl
    · rcases mem_consLine hl with hl | rfl | ⟨m, hm, rfl⟩
      · exact List.mem_cons_of_mem _ (ih hl hc)
      · exact List.mem_singleton.mp hc ▸ List.mem_cons_self
      · rcases List.mem_cons.mp hc with rfl | hc
        · exact List.mem_cons_self
        · exact List.mem_cons_of_mem _ (ih hm hc)
    all_goals assumption

/-- In a text without backslashes no import denotes what a literal cannot hold as it is. -/
theorem fits_of_mem_readLines {code : String} (hplain : '\\' ∉ code.toList) {name : Option String} {file : String}
    (h : ofFile name file ∈ readLines ofLine? code) : Fits file.toList := by
  obtain ⟨line, hline, hread⟩ := List.mem_filterMap.mp h
  obtain ⟨behind, hstart, hread⟩ := Option.bind_eq_some_iff.mp hread
  obtain ⟨⟨binding, literal⟩, hcut, hread⟩ := Option.bind_eq_some_iff.mp hread
  obtain ⟨⟨specifier, rest⟩, hliteral, hread⟩ := Option.bind_eq_some_iff.mp hread
  dsimp only at hliteral hread
  have hno : '\\' ∉ literal := by
    intro hmem
    refine hplain (mem_of_mem_lines hline ?_)
    rw [eq_append_of_stripPrefix? hstart, eq_append_of_splitAt? hcut]
    simp [hmem]
  obtain ⟨s, hs, rfl, -⟩ := exists_of_read? hliteral hno
  split at hread
  · obtain ⟨-, hunits⟩ := ImportStatement.mk.inj (Option.some.inj hread)
    rw [fits_iff_units] at hs ⊢
    rwa [← hunits]
  · cases hread

theorem backslash_not_mem_importLine {name : Option String} {file : String} (hname : ∀ n ∈ name, '\\' ∉ n.toList)
    (hfile : '\\' ∉ file.toList) : '\\' ∉ (Presentation.importLine name file).toList := by
  have hkeyword : '\\' ∉ "import ".toList := by decide
  have hbinding := not_mem_bindingOf (by decide) hname
  rw [toList_importLine]
  unfold text
  generalize "import ".toList = keyword at hkeyword ⊢
  simp [hkeyword, hbinding, hfile]

/-- What a module says about the files that it is to import, under names or for their effects. -/
structure Names (code : String) (files : List (Option String × String)) : Prop where
  /-- An import of a file is read exactly if the file can stand between single quotes. -/
  each : ∀ e ∈ files, ofFile e.1 e.2 ∈ readLines ofLine? code ↔ Fits e.2.toList
  /-- If they all can, the imports are those of the files, each on a line of its own. -/
  all : (∀ e ∈ files, Fits e.2.toList) → readLines ofLine? code = files.map fun e => ofFile e.1 e.2

/-- Imports of files name them in front of anything that has no imports, if no backslash is around. -/
theorem names_imports {files : List (Option String × String)} {rest : String}
    (hname : ∀ e ∈ files, ∀ n ∈ e.1, Fits n.toList ∧ '\\' ∉ n.toList)
    (hfile : ∀ e ∈ files, '\\' ∉ e.2.toList) (hrest : readLines ofLine? rest = [])
    (hplain : '\\' ∉ rest.toList) :
    Names (String.join (files.map fun e => Presentation.importLine e.1 e.2) ++ rest) files := by
  have hread : ∀ e ∈ files, Fits e.2.toList →
      readLines ofLine? (Presentation.importLine e.1 e.2) = [ofFile e.1 e.2] := fun e he hfits =>
    readLines_importLine (fun n hn => (hname e he n hn).1) hfits (hfile e he)
  have hcode : readLines ofLine? (String.join (files.map fun e => Presentation.importLine e.1 e.2) ++ rest) =
      files.flatMap fun e => readLines ofLine? (Presentation.importLine e.1 e.2) := by
    rw [readLines_join (fun e => Presentation.getLast?_importLine e.1 e.2) files rest, hrest, List.append_nil]
  constructor
  · intro e he
    constructor
    · refine fits_of_mem_readLines ?_
      rw [String.toList_append, String.toList_join, List.mem_append, not_or]
      refine ⟨fun hmem => ?_, hplain⟩
      obtain ⟨line, hline, hmem⟩ := List.mem_flatMap.mp hmem
      obtain ⟨x, hx, rfl⟩ := List.mem_map.mp hline
      exact backslash_not_mem_importLine (fun n hn => (hname x hx n hn).2) (hfile x hx) hmem
    · intro hfits
      rw [hcode]
      exact List.mem_flatMap.mpr ⟨e, he, hread e he hfits ▸ List.mem_singleton.mpr rfl⟩
  · intro hall
    rw [hcode, ← List.flatMap_singleton' (files.map fun e => ofFile e.1 e.2), List.flatMap_map]
    exact List.flatMap_congr fun e he => hread e he (hall e he)

end ImportStatement

/-! ## Files that are imported -/

theorem Path.fits_slashed {p : Path} : Literal.Fits p.slashed.toList ↔ Literal.Fits p.chars := by
  have hslash : ∀ c ∈ Literal.breaks, c ≠ '/' ∧ c ≠ '\\' := Literal.forall_breaks.mpr (by decide)
  refine forall₂_congr fun c hc => not_congr ?_
  rw [Path.slashed, String.toList_ofList, List.mem_map]
  constructor
  · rintro ⟨x, hx, hxc⟩
    split at hxc
    · exact absurd hxc.symm (hslash c hc).1
    · exact hxc ▸ hx
  · exact fun hmem => ⟨c, hmem, if_neg (hslash c hc).2⟩

open ImportStatement Literal

namespace Presentation

variable {p : Presentation}

variable (p) in
/-- The setup files under the names by which they are imported. -/
def setupImports : List (Option String × String) :=
  (numberFrom 0 p.setupFiles).map fun x => (some ("setup" ++ toString x.1), x.2.slashed)

variable (p) in
/-- What the entry imports. -/
def entryImports : List (Option String × String) :=
  [(some "\x7b createApp \x7d", "vue"), (some "\x7b createRouter, createWebHistory \x7d", "vue-router"),
    (some "App", (p.layout.clientRoot / "App.vue").slashed), (some "slides", ModuleId.text .slides),
    (some "setup", ModuleId.text .setups)] ++
  p.styles.map (fun style => (none, style.slashed)) ++ [(none, ModuleId.text .stylesheet)]

theorem setupName_plain (i : Nat) :
    Fits ("setup" ++ toString i).toList ∧ '\\' ∉ ("setup" ++ toString i).toList := by
  have hsetup : ∀ c ∈ '\\' :: breaks, c ∉ "setup".toList ∧ isAsciiDigit c = false :=
    List.forall_mem_cons.mpr ⟨by decide, forall_breaks.mpr (by decide)⟩
  have hall : ∀ c ∈ '\\' :: breaks, c ∉ ("setup" ++ toString i).toList := fun c hc => by
    rw [String.toList_append, List.mem_append, not_or]
    exact ⟨(hsetup c hc).1, not_mem_digits (hsetup c hc).2 i⟩
  exact ⟨fun c hc => hall c (List.mem_cons_of_mem _ hc), hall _ List.mem_cons_self⟩

/-- The line that calls a setup file. -/
def setupCall (i : Nat) : List Char := "  setup".toList ++ ((toString i).toList ++ "(app)".toList)

theorem toList_setupCall (i : Nat) : ("  setup" ++ toString i ++ "(app)\n").toList = setupCall i ++ ['\n'] := by
  unfold setupCall
  rw [String.toList_append, String.toList_append, List.append_assoc, List.append_assoc, List.append_assoc]
  rfl

theorem isLine_setupCall (i : Nat) : IsLine (setupCall i) := by
  have hopening : '\n' ∉ "  setup".toList := by decide
  have hclosing : '\n' ∉ "(app)".toList ∧ "(app)".toList.getLast? = some ')' := by decide
  unfold setupCall
  generalize "  setup".toList = opening at hopening ⊢
  generalize "(app)".toList = closing at hclosing ⊢
  constructor
  · simp only [List.mem_append, not_or]
    exact ⟨hopening, not_mem_digits (by decide) i, hclosing.1⟩
  · simp [List.getLast?_append, hclosing.2]

variable (p) in
/-- What follows the imports of the setup: the function that calls the setup files. -/
def setupBody : String :=
  "\nexport default function setup(app) \x7b\n" ++
    (String.join ((numberFrom 0 p.setupFiles).map fun x => "  setup" ++ toString x.1 ++ "(app)\n") ++ "\x7d\n")

theorem setups_eq_ok {d : Disk} {code : String} (h : setups d p = .ok code) :
    code = String.join (p.setupImports.map fun e => importLine e.1 e.2) ++ p.setupBody := by
  unfold setups at h
  split at h
  · cases h
  · cases h
    rw [setupImports, List.map_map, String.append_assoc, String.append_assoc]
    rfl

/-- What is read of the calls, if nothing is read of the lines around them. -/
theorem readLines_setupBody {α : Type} {read? : List Char → Option α}
    (hopening : readLines read? "\nexport default function setup(app) \x7b\n" = [])
    (hclosing : readLines read? "\x7d\n" = []) :
    readLines read? p.setupBody = (numberFrom 0 p.setupFiles).flatMap fun x => (read? (setupCall x.1)).toList := by
  have hcalls : ∀ x : Nat × Path, ("  setup" ++ toString x.1 ++ "(app)\n").toList.getLast? = some '\n' :=
    fun x => by rw [toList_setupCall, List.getLast?_concat]
  unfold setupBody
  rw [readLines_append (.inr (by decide)), readLines_join hcalls, hopening, hclosing, List.nil_append,
    List.append_nil]
  exact List.flatMap_congr fun x _ => readLines_line (toList_setupCall x.1) (isLine_setupCall x.1)

theorem backslash_not_mem_setupBody : '\\' ∉ p.setupBody.toList := by
  unfold setupBody
  rw [String.toList_append, String.toList_append, String.toList_join, List.mem_append, List.mem_append, not_or,
    not_or]
  refine ⟨by decide, fun hmem => ?_, by decide⟩
  obtain ⟨line, hline, hmem⟩ := List.mem_flatMap.mp hmem
  obtain ⟨x, -, rfl⟩ := List.mem_map.mp hline
  rw [String.toList_append, String.toList_append, List.mem_append, List.mem_append] at hmem
  rcases hmem with (hmem | hmem) | hmem
  · exact absurd hmem (by decide)
  · exact not_mem_digits (by decide) x.1 hmem
  · exact absurd hmem (by decide)

theorem setups_names {d : Disk} {code : String} (h : setups d p = .ok code) : Names code p.setupImports := by
  rw [setups_eq_ok h]
  refine names_imports (fun e he n hn => ?_) (fun e he => ?_) ?_ backslash_not_mem_setupBody
  · obtain ⟨x, -, rfl⟩ := List.mem_map.mp he
    cases hn
    exact setupName_plain x.1
  · obtain ⟨x, -, rfl⟩ := List.mem_map.mp he
    exact x.2.backslash_not_mem_slashed
  · rw [readLines_setupBody (by decide) (by decide)]
    exact List.flatMap_eq_nil_iff.mpr fun _ _ => rfl

/-- The lines of an entry that do not depend on the deck. -/
def entryTail : List String :=
  ["const router = createRouter(\x7b\n", "  history: createWebHistory(),\n", "  routes: [\n",
    "    \x7b path: '/', redirect: '/1' \x7d,\n",
    "    ...slides.map(s => (\x7b path: \x60/$\x7bs.no\x7d\x60, component: s.component, meta: s.meta \x7d)),\n",
    "  ],\n", "\x7d)\n", "const app = createApp(App)\n", "app.use(router)\n", "setup(app)\n", "app.mount('#app')\n"]

theorem readLines_entryTail : readLines ofLine? (String.join entryTail) = [] :=
  readLines_join_nil (by simp [entryTail]) (by decide +kernel)

theorem backslash_not_mem_entryTail : '\\' ∉ (String.join entryTail).toList := by
  rw [String.toList_join, List.mem_flatMap]
  simp [entryTail]

variable (p) in
/-- The entry imports what it is to import, and says the total and what does not depend on the deck. -/
theorem entry_eq : p.entry = String.join (p.entryImports.map fun e => importLine e.1 e.2) ++
    ("\n" ++ ("export const total = " ++ (toString p.visible.length ++ ("\n" ++ String.join entryTail)))) := by
  have hfirst : importLine (some "\x7b createApp \x7d") "vue" =
      "import \x7b createApp \x7d from 'vue'\n" := by decide
  have hsecond : importLine (some "\x7b createRouter, createWebHistory \x7d") "vue-router" =
      "import \x7b createRouter, createWebHistory \x7d from 'vue-router'\n" := by decide
  unfold entry entryImports entryTail
  simp only [List.map_append, List.map_map, String.join_append, List.map_cons, List.map_nil, String.join_cons,
    String.join_nil, hfirst, hsecond, String.append_assoc, String.append_empty]
  rfl

theorem readLines_total (n : Nat) (rest : String) :
    readLines ofLine? ("export const total = " ++ (toString n ++ ("\n" ++ rest))) = readLines ofLine? rest := by
  have hline : ("export const total = " ++ (toString n ++ "\n")).toList =
      ("export const total = ".toList ++ (toString n).toList) ++ ['\n'] := by
    rw [String.toList_append, String.toList_append, List.append_assoc]
    rfl
  have htotal : IsLine ("export const total = ".toList ++ (toString n).toList) := by
    constructor
    · rw [List.mem_append, not_or]
      exact ⟨by decide, not_mem_digits (by decide) n⟩
    · intro hlast
      rcases List.mem_append.mp (List.mem_of_getLast? hlast) with hmem | hmem
      · exact absurd hmem (by decide)
      · exact not_mem_digits (by decide) n hmem
  have hnone : readLines ofLine? ("export const total = " ++ (toString n ++ "\n")) = [] := by
    rw [readLines_line hline htotal]
    rfl
  have hcut : "export const total = " ++ (toString n ++ ("\n" ++ rest)) =
      ("export const total = " ++ (toString n ++ "\n")) ++ rest := by simp only [String.append_assoc]
  rw [hcut, readLines_append (.inr (by rw [hline, List.getLast?_concat])), hnone, List.nil_append]

theorem entry_names : Names p.entry p.entryImports := by
  have hfixed : ∀ n ∈ ["\x7b createApp \x7d", "\x7b createRouter, createWebHistory \x7d", "App", "slides", "setup"],
      Fits n.toList ∧ '\\' ∉ n.toList := by decide
  have hmodules : ∀ n ∈ ["vue", "vue-router", ModuleId.text .slides,
      ModuleId.text .setups, ModuleId.text .stylesheet],
      '\\' ∉ n.toList := by decide
  rw [entry_eq]
  refine names_imports (fun e he => ?_) (fun e he => ?_) ?_ ?_
  · simp only [entryImports, List.mem_append, List.mem_cons, List.mem_map, List.not_mem_nil, or_false] at he
    rcases he with ((rfl | rfl | rfl | rfl | rfl) | ⟨style, -, rfl⟩) | rfl
    all_goals
      rintro n ⟨⟩
    all_goals exact hfixed _ (by simp)
  · simp only [entryImports, List.mem_append, List.mem_cons, List.mem_map, List.not_mem_nil, or_false] at he
    rcases he with ((rfl | rfl | rfl | rfl | rfl) | ⟨style, -, rfl⟩) | rfl
    · exact hmodules _ (by simp)
    · exact hmodules _ (by simp)
    · exact Path.backslash_not_mem_slashed _
    · exact hmodules _ (by simp)
    · exact hmodules _ (by simp)
    · exact style.backslash_not_mem_slashed
    · exact hmodules _ (by simp)
  · rw [readLines_append (.inr (by decide)), readLines_total, readLines_entryTail]
    rfl
  · simp only [String.toList_append, List.mem_append, not_or]
    exact ⟨by decide, by decide, not_mem_digits (by decide) _, by decide, backslash_not_mem_entryTail⟩

end Presentation

/-! ## Components -/

namespace Component

/-- A statement names what it imports from. -/
theorem Resolution.Plain.names {r : Resolution} (h : r.Plain) (hname : Literal.Fits r.specifier.toList) :
    Names r.statement [(some r.specifier, r.path)] := by
  have htext : r.statement.toList = text (some r.specifier) r.path := by
    unfold Resolution.statement text bindingOf
    simp
  have hread : Literal.Fits r.path.toList → readLines ofLine? r.statement = [ofFile (some r.specifier) r.path] := by
    intro hfits
    have hquote : ∀ c ∈ breaks, ∀ n ∈ some r.specifier, c ∉ n.toList := fun c hc n hn =>
      Option.some.inj hn ▸ hname c hc
    have hline := isLine_text (hquote '\n' (by decide)) hfits
    have hsome : text (some r.specifier) r.path ≠ [] := List.append_ne_nil_of_left_ne_nil (by decide) _
    have hnone : ∀ l ∈ ([] : List (List Char)), '\n' ∉ l := by simp
    have hlines := lines_endedLines_append hnone hline.noFeed
    rw [if_neg hsome] at hlines
    rw [readLines, htext]
    refine (congrArg (List.filterMap ofLine?) hlines).trans ?_
    rw [List.map_nil, List.nil_append, List.filterMap_cons, ofLine?_text (hquote '\'' (by decide)) hfits h.path]
    rfl
  refine ⟨fun e he => ?_, fun hall => hread (hall _ (List.mem_singleton.mpr rfl))⟩
  cases List.mem_singleton.mp he
  exact ⟨fits_of_mem_readLines h.statement, fun hfits => hread hfits ▸ List.mem_singleton.mpr rfl⟩

/-- The statement that imports a component names the file of the component. -/
theorem Importer.resolve?_names {i : Importer} {d : Disk} {ls : Listings} {consumer : Option Path}
    {code tag : String} {file : Path} (htag : tag ∈ usedTags code)
    (hfile : ((i.findFile? d (pascalCase tag) (i.searchDirs consumer)).run ls).1 = some file) :
    ∃ r, ((i.resolve? d consumer tag).run ls).1 = some r ∧
      Names r.statement [(some (pascalCase tag), file.slashed)] := by
  have hspelling : ∀ c ∈ '\\' :: breaks, isUpperImage c = false ∧ isTagNameChar c = false :=
    List.forall_mem_cons.mpr ⟨by decide, Literal.forall_breaks.mpr (by decide)⟩
  have hname : ∀ c ∈ '\\' :: breaks, c ∉ (pascalCase tag).toList := fun c hc =>
    not_mem_pascalCase (hspelling c hc).1 fun hmem => by
      have hchar := (tagName_of_mem_usedTags htag).rest c hmem
      rw [(hspelling c hc).2] at hchar
      cases hchar
  rw [i.resolve?_run d, hfile]
  have hplain : Resolution.Plain ⟨pascalCase tag, file.slashed⟩ :=
    ⟨hname _ List.mem_cons_self, file.backslash_not_mem_slashed⟩
  exact ⟨_, rfl, hplain.names fun c hc => hname c (List.mem_cons_of_mem _ hc)⟩

end Component

/-! ## Whose files are named -/

/-- The modules and the statements that import files name exactly those whose paths have neither a single
quote nor a line feed nor a carriage return. -/
theorem imports_name_files (d : Disk) (p : Presentation) (i : Component.Importer) (ls : Component.Listings)
    (consumer : Option Path) :
    (∀ path : Path, Fits path.slashed.toList ↔ Fits path.chars) ∧
    (∀ code : String, Presentation.setups d p = .ok code → Names code p.setupImports) ∧
    Names p.entry p.entryImports ∧
    ∀ (code tag : String) (file : Path), tag ∈ Component.usedTags code →
      ((i.findFile? d (Component.pascalCase tag) (i.searchDirs consumer)).run ls).1 = some file →
      ∃ r, ((i.resolve? d consumer tag).run ls).1 = some r ∧
        Names r.statement [(some (Component.pascalCase tag), file.slashed)] :=
  ⟨fun _ => Path.fits_slashed, fun _ => Presentation.setups_names, Presentation.entry_names,
    fun _ _ _ => Component.Importer.resolve?_names⟩

/-- A deck in a directory, with a setup file and a component. -/
def deckDisk (dir : String) : Disk where
  entries := [([dir], .directory), ([dir, "slides.md"], .file "# One\n".toUTF8),
    ([dir, "setup"], .directory), ([dir, "setup", "main.ts"], .file "".toUTF8), ([dir, "components"], .directory),
    ([dir, "components", "Counter.vue"], .file "".toUTF8)]

def deckIn (dir : String) : Layout where
  theme := "default"
  entry := ⟨"/" ++ dir ++ "/slides.md"⟩
  deckRoot := ⟨"/" ++ dir⟩
  clientRoot := ⟨"/client"⟩
  themeRoot := ⟨"/theme"⟩

def deckImporter (dir : String) : Component.Importer where
  options := { extensions := ["vue"], dirs := [⟨"components"⟩] }
  deckRoot := ⟨"/" ++ dir⟩
  included := ["vue", "md"]
  resolvers := []

/-- A quote in a directory's name ends the literal, and no import is read. -/
theorem quote_ends_import :
    ((Presentation.load (deckDisk "it's") (deckIn "it's")).toOption.bind fun p =>
      (Presentation.setups (deckDisk "it's") p).toOption.map fun code => (p.setupImports, readLines ofLine? code)) =
        some ([(some "setup0", "/it's/setup/main.ts")], []) := by
  decide +kernel

theorem imports_name_files_talk :
    ∃ (p : Presentation) (code : String) (file : Path) (r : Component.Resolution),
      Presentation.setups (deckDisk "talk") p = .ok code ∧
      readLines ofLine? code = [ofFile (some "setup0") "/talk/setup/main.ts"] ∧
      "Counter" ∈ Component.usedTags "<template><Counter/></template>" ∧
      (((deckImporter "talk").findFile? (deckDisk "talk") (Component.pascalCase "Counter")
        ((deckImporter "talk").searchDirs none)).run []).1 = some file ∧
      (((deckImporter "talk").resolve? (deckDisk "talk") none "Counter").run []).1 = some r ∧
      readLines ofLine? r.statement = [ofFile (some "Counter") "/talk/components/Counter.vue"] := by
  have hseen : ((Presentation.load (deckDisk "talk") (deckIn "talk")).toOption.any fun p =>
      p.setupImports = [(some "setup0", "/talk/setup/main.ts")] ∧
        (Presentation.setups (deckDisk "talk") p).toOption.isSome) = true := by
    decide +kernel
  have htag : "Counter" ∈ Component.usedTags "<template><Counter/></template>" := by decide +kernel
  have hfound : (((deckImporter "talk").findFile? (deckDisk "talk") (Component.pascalCase "Counter")
      ((deckImporter "talk").searchDirs none)).run []).1.map Path.text = some "/talk/components/Counter.vue" := by
    decide +kernel
  obtain ⟨⟨_⟩, hfile, rfl⟩ := Option.map_eq_some_iff.mp hfound
  cases hload : Presentation.load (deckDisk "talk") (deckIn "talk") with
  | error e =>
    rw [hload] at hseen
    cases hseen
  | ok p =>
    rw [hload] at hseen
    obtain ⟨himports, hsome⟩ := of_decide_eq_true hseen
    cases hcode : Presentation.setups (deckDisk "talk") p with
    | error e =>
      rw [hcode] at hsome
      cases hsome
    | ok code =>
      obtain ⟨-, hsetups, -, hcomponents⟩ := imports_name_files (deckDisk "talk") p (deckImporter "talk") [] none
      obtain ⟨r, hr, hnames⟩ := hcomponents _ _ _ htag hfile
      refine ⟨p, code, _, r, hcode, ?_, htag, hfile, hr, ?_⟩
      · have hall := (hsetups code hcode).all
        rw [himports] at hall
        exact hall (by decide)
      · exact hnames.all (by decide)

end DeckPress
