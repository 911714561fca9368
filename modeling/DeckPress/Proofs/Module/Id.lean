import Mathlib.Algebra.Group.Nat.Defs
import Mathlib.Data.List.TakeWhile
import Mathlib.Data.Set.Function
import DeckPress.Module.Id
import DeckPress.Proofs.Json.Printer
import DeckPress.Proofs.Text.Lines

/-!
# The ids of modules are read back

A module has an id, and an id to which something was added is read as the module that it is the id of: no
id holds a question mark, starts with a NUL character or is that of the stylesheet behind a slash. The number
of a slide is read from its digits as long as it fits a machine word. So ids tell modules apart, and what
an id is read as has an id that is read the same.
-/

namespace DeckPress

open Text Component

theorem isAsciiDigit_of_mem_toDigits {n : Nat} {c : Char} (h : c ∈ Nat.toDigits 10 n) : isAsciiDigit c :=
  Nat.isDigit_of_mem_toDigits (by decide) (by decide) h

theorem foldl_digits (s : List Char) (n : Nat) :
    s.foldl (fun n c => n * 10 + (c.toNat - '0'.toNat)) n = Nat.ofDigitChars 10 s n := by
  rw [Nat.ofDigitChars_eq_foldl]
  simp only [Nat.mul_comm]

/-- A number is read back from its digits if it is below the bound. -/
theorem readNatBelow?_toDigits {n bound : Nat} (h : n < bound) :
    readNatBelow? bound (Nat.toDigits 10 n) = some n := by
  have hdigits : (Nat.toDigits 10 n).all isAsciiDigit = true :=
    List.all_eq_true.mpr fun _ => isAsciiDigit_of_mem_toDigits
  have hplus : ∀ rest, Nat.toDigits 10 n ≠ '+' :: rest := by
    intro rest hrest
    have hmem : '+' ∈ Nat.toDigits 10 n := hrest ▸ List.mem_cons_self
    exact absurd (isAsciiDigit_of_mem_toDigits hmem) (by decide)
  unfold readNatBelow?
  split
  · rename_i rest hrest
    exact absurd hrest (hplus rest)
  · rw [if_neg (by simp [hdigits, Nat.toDigits_ne_nil]), foldl_digits, Nat.ofDigitChars_ten_toDigits]
    exact if_pos h

theorem toString_nat_injective {n n' : Nat} (h : toString n = toString n') : n = n' := by
  have hdigits : Nat.toDigits 10 n = Nat.toDigits 10 n' := by
    rw [← Nat.toList_repr, ← Nat.toList_repr]
    exact congrArg String.toList h
  have hlt : n < n + n' + 1 := by omega
  have hlt' : n' < n + n' + 1 := by omega
  have hread := readNatBelow?_toDigits hlt
  rw [hdigits, readNatBelow?_toDigits hlt'] at hread
  exact (Option.some.inj hread).symm

theorem lt_of_readNatBelow? {n bound : Nat} {s : List Char} (h : readNatBelow? bound s = some n) :
    n < bound := by
  unfold readNatBelow? at h
  simp only [Option.ite_none_left_eq_some, Option.ite_none_right_eq_some, Option.some.injEq] at h
  obtain ⟨-, hlt, rfl⟩ := h
  exact hlt

namespace ModuleId

/-- The modules that there are: slides have numbers that fit a machine word, and only some elements can be
wrapped. -/
def Valid : ModuleId → Prop
  | .slide number => 0 < number ∧ number < 2 ^ 64
  | .element name => name ∈ Element.names
  | _ => True

/-! ## What is added to an id -/

/-- What a server puts behind an id: nothing, or a query. -/
def IsQuery (query : String) : Prop := query = "" ∨ ∃ rest, query = "?" ++ rest

/-- A text from which what is added can be told: it starts as ids do and has no question mark. -/
structure Bare (s : List Char) : Prop where
  start : (∃ rest, s = '/' :: '@' :: rest) ∨ s = "virtual:windi.css".toList
  noQuery : '?' ∉ s

theorem IsQuery.takeWhile_append {query : String} (h : IsQuery query) {s : List Char} (hs : '?' ∉ s) :
    (s ++ query.toList).takeWhile (· ≠ '?') = s := by
  have hall : ∀ c ∈ s, decide (c ≠ '?') = true := by
    intro c hc
    rw [decide_eq_true_eq]
    rintro rfl
    exact hs hc
  rw [List.takeWhile_append_of_pos hall]
  rcases h with rfl | ⟨rest, rfl⟩
  · exact List.append_nil s
  · rw [String.toList_append]
    exact List.append_nil s

/-- What is added to an id is taken away. -/
theorem bareId_added {s : List Char} (h : Bare s) (nuls : Nat) {query : String} (hquery : IsQuery query) :
    bareId (String.ofList (List.replicate nuls '\x00') ++ String.ofList s ++ query) = s := by
  have hfront : ((List.replicate nuls '\x00' ++ s) ++ query.toList).dropWhile (· = '\x00') =
      s ++ query.toList := by
    have hnuls : ∀ c ∈ List.replicate nuls '\x00', decide (c = '\x00') = true :=
      fun c hc => decide_eq_true (List.eq_of_mem_replicate hc)
    rw [List.append_assoc, List.dropWhile_append_of_pos hnuls]
    rcases h.start with ⟨rest, rfl⟩ | rfl
    · rfl
    · rfl
  unfold bareId
  rw [String.toList_append, String.toList_append, String.toList_ofList, String.toList_ofList, hfront,
    hquery.takeWhile_append h.noQuery]
  rcases h.start with ⟨rest, rfl⟩ | rfl
  · rfl
  · rfl

/-! ## Ids -/

theorem toList_text_slide (n : Nat) :
    (text (.slide n)).toList = slideStart.toList ++ (Nat.toDigits 10 n ++ ".md".toList) := by
  unfold text
  rw [String.toList_append, String.toList_append, List.append_assoc]
  exact congrArg (fun s => slideStart.toList ++ (s ++ ".md".toList)) Nat.toList_repr

theorem bare_slide (n : Nat) : Bare (text (.slide n)).toList := by
  rw [toList_text_slide]
  refine ⟨.inl ⟨_, rfl⟩, ?_⟩
  rw [List.mem_append, List.mem_append]
  rintro (hc | hc | hc)
  · exact absurd hc (by decide)
  · exact absurd (isAsciiDigit_of_mem_toDigits hc) (by decide)
  · exact absurd hc (by decide)

theorem bare_element {name : String} (h : name ∈ Element.names) : Bare (text (.element name)).toList := by
  have hplain : ∀ name ∈ Element.names, '?' ∉ name.toList := by decide
  rw [text, String.toList_append]
  refine ⟨.inl ⟨_, rfl⟩, ?_⟩
  rw [List.mem_append, not_or]
  exact ⟨by decide, hplain name h⟩

/-- Nothing in an id can be taken for something that was added to it. -/
theorem bare_text {m : ModuleId} (h : m.Valid) : Bare (text m).toList := by
  cases m with
  | slide n => exact bare_slide n
  | element name => exact bare_element h
  | stylesheet => exact ⟨.inr rfl, by decide⟩
  | configs | entry | slides | setups | monaco | sharedState => exact ⟨.inl ⟨_, rfl⟩, by decide⟩

/-! ## Reading -/

/-- What an id is read as once nothing is added to it. -/
def ofBare? (s : List Char) : Option ModuleId :=
  match fixedIds.lookup (String.ofList s) with
  | some m => some m
  | none =>
    match stripPrefix? Element.idStart.toList s with
    | some name => (Element.known? (String.ofList name)).map .element
    | none => (slideNumber? s).map .slide

theorem parse?_eq (id : String) : parse? id = ofBare? (bareId id) := rfl

/-- A text that starts like no fixed id is none. -/
theorem lookup_fixedIds_of_start {start : List Char} (hstart : ∀ p ∈ fixedIds, ¬ start <+: p.1.toList)
    (rest : List Char) : fixedIds.lookup (String.ofList (start ++ rest)) = none := by
  rw [List.lookup_eq_none_iff]
  intro p hp
  rw [bne_iff_ne]
  intro hid
  refine hstart p hp ?_
  rw [← hid, String.toList_ofList]
  exact List.prefix_append _ _

theorem ofBare?_slide {n : Nat} (hpos : 0 < n) (hlt : n < 2 ^ 64) :
    ofBare? (text (.slide n)).toList = some (.slide n) := by
  have hnumber : slideNumber? (slideStart.toList ++ (Nat.toDigits 10 n ++ ".md".toList)) = some n := by
    unfold slideNumber?
    rw [stripPrefix?_append]
    dsimp only [Option.bind_eq_bind, Option.bind]
    rw [stripSuffix?_append]
    dsimp only
    have hbelow : n < Nat.pow 2 64 := hlt
    rw [readNatBelow?_toDigits hbelow, Option.filter_some, if_pos (decide_eq_true hpos)]
  unfold ofBare?
  rw [toList_text_slide, lookup_fixedIds_of_start (by decide), hnumber]
  rfl

theorem ofBare?_element {name : String} (h : name ∈ Element.names) :
    ofBare? (text (.element name)).toList = some (.element name) := by
  have hknown : ∀ name ∈ Element.names, Element.known? name = some name := by decide
  unfold ofBare?
  rw [text, String.toList_append, lookup_fixedIds_of_start (by decide), stripPrefix?_append]
  dsimp only
  rw [String.ofList_toList, hknown name h]
  rfl

/-- An id is read as the module that it is the id of. -/
theorem ofBare?_text {m : ModuleId} (h : m.Valid) : ofBare? (text m).toList = some m := by
  cases m with
  | slide n => exact ofBare?_slide h.1 h.2
  | element name => exact ofBare?_element h
  | configs | entry | slides | setups | monaco | stylesheet | sharedState => decide

/-- An id is read as its module, whatever was added to it. -/
theorem parse?_added {m : ModuleId} (h : m.Valid) (nuls : Nat) {query : String} (hquery : IsQuery query) :
    parse? (String.ofList (List.replicate nuls '\x00') ++ text m ++ query) = some m := by
  have hbare := bareId_added (bare_text h) nuls hquery
  rw [String.ofList_toList] at hbare
  rw [parse?_eq, hbare, ofBare?_text h]

theorem parse?_text {m : ModuleId} (h : m.Valid) : parse? (text m) = some m := by
  have hquery : IsQuery "" := .inl rfl
  simpa using parse?_added h 0 hquery

/-- The id of a slide is read as that slide. -/
theorem parse?_slide {n : Nat} (hpos : 0 < n) (hlt : n < 2 ^ 64) :
    parse? (text (.slide n)) = some (.slide n) := parse?_text (m := .slide n) ⟨hpos, hlt⟩

/-- Only modules that there are are read. -/
theorem valid_of_parse? {id : String} {m : ModuleId} (h : parse? id = some m) : m.Valid := by
  rw [parse?_eq, ofBare?] at h
  split at h
  · rename_i m' hfixed
    cases h
    have hall : ∀ p ∈ fixedIds, p.2.Valid := by simp [fixedIds, Valid]
    obtain ⟨before, after, hids, -⟩ := List.lookup_eq_some_iff.mp hfixed
    exact hall (_, m) (hids ▸ List.mem_append_right before List.mem_cons_self)
  · split at h
    · obtain ⟨name, hknown, rfl⟩ := Option.map_eq_some_iff.mp h
      exact List.mem_of_find?_eq_some hknown
    · obtain ⟨n, hnumber, rfl⟩ := Option.map_eq_some_iff.mp h
      obtain ⟨rest, -, hnumber⟩ := Option.bind_eq_some_iff.mp hnumber
      obtain ⟨digits, -, hnumber⟩ := Option.bind_eq_some_iff.mp hnumber
      obtain ⟨hread, hpos⟩ := Option.filter_eq_some_iff.mp hnumber
      exact ⟨of_decide_eq_true hpos, lt_of_readNatBelow? hread⟩

/-! ## Names of files -/

/-- How the name of the file for a module starts. -/
def outputStart : ModuleId → List Char
  | .configs => "config".toList
  | .entry => "entry.".toList
  | .slides => "slides".toList
  | .setups => "setups".toList
  | .monaco => "monaco".toList
  | .slide _ => "slide-".toList
  | .stylesheet => "windi.".toList
  | .sharedState => "server".toList
  | .element _ => "vue-fa".toList

theorem take_outputName (m : ModuleId) : (outputName m).toList.take 6 = outputStart m := by
  cases m with
  | slide n | element name =>
    rw [outputName, String.toList_append, String.toList_append, List.append_assoc]
    rfl
  | configs | entry | slides | setups | monaco | stylesheet | sharedState => rfl

/-- Different modules are written to different files. -/
theorem outputName_injective : Function.Injective outputName := by
  intro m m' h
  have hstart : outputStart m = outputStart m' := by rw [← take_outputName, h, take_outputName]
  cases m <;> cases m'
  case slide.slide n n' =>
    have hnumber : toString n = toString n' := by simpa [outputName] using h
    exact congrArg slide (toString_nat_injective hnumber)
  case element.element name name' =>
    have hname : name = name' := by simpa [outputName] using h
    exact congrArg element hname
  -- the names start differently, unless it is one module
  all_goals
    dsimp only [outputStart] at hstart
    first
    | rfl
    | exact absurd hstart (by decide)

/-- Ids are read back. Whatever NUL characters stand in front of an id and whatever query behind it, it is read
as its module; whatever is read as a module, the id of that module is read the same, so that asking
for the id of an id once more changes nothing; and different modules have different ids and different files. -/
theorem ids_read_back :
    (∀ m : ModuleId, m.Valid → ∀ (nuls : Nat) (query : String), IsQuery query →
      parse? (String.ofList (List.replicate nuls '\x00') ++ text m ++ query) = some m) ∧
    (∀ id m, parse? id = some m → m.Valid ∧ parse? (text m) = some m) ∧
    (∀ id, (canonical? id).bind canonical? = canonical? id) ∧
    Set.InjOn text {m | m.Valid} ∧ Function.Injective outputName := by
  have hagain : ∀ id m, parse? id = some m → m.Valid ∧ parse? (text m) = some m := fun id m h =>
    have hvalid := valid_of_parse? h
    ⟨hvalid, parse?_text hvalid⟩
  refine ⟨fun m hm nuls query hquery => parse?_added hm nuls hquery, hagain, fun id => ?_,
    fun m hm m' hm' htext => ?_, outputName_injective⟩
  · unfold canonical?
    cases hread : parse? id with
    | none => rfl
    | some m =>
      show (parse? (text m)).map text = some (text m)
      rw [(hagain id m hread).2]
      rfl
  · have hread : some m = some m' := by rw [← parse?_text hm, htext, parse?_text hm']
    exact Option.some.inj hread

/-- A slide whose id has additions, and an id with a sign and zeros in front of the number. -/
theorem ids_read_back_slide :
    parse? "\x00\x00/@slidev/slide/3.md?import" = some (.slide 3) ∧
      canonical? "/@slidev/slide/+003.md" = some "/@slidev/slide/3.md" ∧
      parse? "/@slidev/slide/3.md" = some (.slide 3) := by
  obtain ⟨hadded, hagain, -, -, -⟩ := ids_read_back
  have hsigned : parse? "/@slidev/slide/+003.md" = some (.slide 3) := by decide
  refine ⟨hadded (.slide 3) ⟨by decide, by decide⟩ 2 "?import" (.inr ⟨"import", rfl⟩), ?_, ?_⟩
  · rw [canonical?, hsigned]
    rfl
  · exact (hagain _ _ hsigned).2

end ModuleId

end DeckPress
