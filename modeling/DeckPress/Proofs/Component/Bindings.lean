import DeckPress.Proofs.Component.Spellings

/-!
# The bindings of imports

A component is not imported if its name is declared. The search for declared names knows a keyword with a name behind
it and the list of an import. An import may bind a name in other ways, behind a star or behind `type`, and these are
not seen: a component of that name is imported once more. What is seen is found if the search comes to the keyword of
the import: the text in front may not end within a word or a declaration of its own, or within a list that is left
open.
-/

namespace DeckPress.Component

open Text

/-! ## Blanks and names -/

/-- White space, which is in no name. -/
def isBlankChar (c : Char) : Bool := isWhite c && !isIdentifierChar c

def Blank (b : List Char) : Prop := ∀ c ∈ b, isBlankChar c

/-- At least one blank. -/
structure Gap (g : List Char) : Prop where
  blank : Blank g
  some : g ≠ []

/-- A name that stands apart from blanks. -/
structure IsName (n : List Char) : Prop extends IsIdentifier n where
  white : ∀ c ∈ n, isWhite c = false

/-- A text behind a name that does not go on with it. -/
def EndsName (behind : List Char) : Prop := ∃ c rest, behind = c :: rest ∧ isIdentifierChar c = false

namespace Blank

variable {b : List Char}

theorem white (h : Blank b) {c : Char} (hc : c ∈ b) : isWhite c := (Bool.and_eq_true_iff.mp (h c hc)).1

theorem endsName_append (h : Blank b) {t : List Char} (ht : EndsName t) : EndsName (b ++ t) := by
  cases b with
  | nil => exact ht
  | cons c b =>
    refine ⟨c, b ++ t, rfl, ?_⟩
    simpa using (Bool.and_eq_true_iff.mp (h c List.mem_cons_self)).2

theorem not_mem (h : Blank b) {c : Char} (hc : isWhite c = false) : c ∉ b := fun hmem => by
  rw [h.white hmem] at hc
  cases hc

theorem trimStart_append (h : Blank b) (s : List Char) : trimStart (b ++ s) = trimStart s :=
  List.dropWhile_append_of_pos fun _ hc => h.white hc

end Blank

theorem trimStart_cons {c : Char} (hc : isWhite c = false) (s : List Char) : trimStart (c :: s) = c :: s :=
  List.dropWhile_cons_of_neg (by simp [hc])

namespace Gap

variable {g : List Char}

theorem head?_append (h : Gap g) (t : List Char) : (g ++ t).head?.any isWhite := by
  obtain ⟨c, rest, rfl⟩ := List.exists_cons_of_ne_nil h.some
  exact h.blank.white List.mem_cons_self

theorem endsName_append (h : Gap g) (t : List Char) : EndsName (g ++ t) := by
  obtain ⟨c, rest, rfl⟩ := List.exists_cons_of_ne_nil h.some
  have hc := (Bool.and_eq_true_iff.mp (h.blank c List.mem_cons_self)).2
  exact ⟨c, rest ++ t, rfl, by simpa using hc⟩

end Gap

namespace IsName

variable {n : List Char}

theorem trimStart_append (h : IsName n) (s : List Char) : trimStart (n ++ s) = n ++ s := by
  obtain ⟨c, rest, rfl, hc⟩ := h.exists_cons
  exact trimStart_cons (isWhite_of_startsIdentifier hc) _

theorem not_mem (h : IsName n) {c : Char} (hc : isIdentifierChar c = false) : c ∉ n := fun hmem => by
  rw [h.rest c hmem] at hc
  cases hc

theorem readIdentifier? (h : IsName n) {behind : List Char} (hbehind : EndsName behind) :
    Component.readIdentifier? (n ++ behind) = some (n, behind) := by
  obtain ⟨c, rest, rfl, hc⟩ := hbehind
  exact h.toIsIdentifier.readIdentifier? hc rest

end IsName

/-! ## What is read, and where -/

/-- A keyword, a gap and a name are read together. -/
theorem readDeclaration?_of_name {n g behind : List Char} (hn : IsName n) (hg : Gap g) (hbehind : EndsName behind)
    (keyword : String) : readDeclaration? keyword (keyword.toList ++ (g ++ (n ++ behind))) = some (n, behind) := by
  unfold readDeclaration?
  rw [stripPrefix?_append]
  simp only [Option.bind_eq_bind, Option.bind_some]
  rw [if_pos (hg.head?_append _), hg.blank.trimStart_append, hn.trimStart_append, hn.readIdentifier? hbehind]

/-! ## Searching behind a text -/

variable {α : Type} {read : List Char → Option (α × List Char)}

namespace Cuts

/-- What is found in a text is read somewhere in it. -/
theorem exists_of_mem (hread : Cuts read) {before : Option Char} {s : List Char} {value : α}
    (h : value ∈ findAtWords read before s) : ∃ p q rest, s = p ++ q ∧ read q = some (value, rest) := by
  -- the search goes on behind what was read, or one character further
  induction hlength : s.length using Nat.strong_induction_on generalizing s before with
  | _ n ih =>
    subst hlength
    cases s with
    | nil => cases h
    | cons c s =>
      have hskip (hnone : before.any isWord = false → read (c :: s) = none) :
          ∃ p q rest, c :: s = p ++ q ∧ read q = some (value, rest) := by
        rw [hread.findAtWords_skip hnone] at h
        obtain ⟨p, q, rest, rfl, hq⟩ := ih _ (Nat.lt_succ_self _) h rfl
        exact ⟨c :: p, q, rest, rfl, hq⟩
      by_cases hword : before.any isWord = true
      · exact hskip fun hfree => absurd hword (Bool.eq_false_iff.mp hfree)
      · cases hfound : read (c :: s) with
        | none => exact hskip fun _ => hfound
        | some found =>
          obtain ⟨first, rest⟩ := found
          have hshorter := hread.consumes _ _ _ hfound
          obtain ⟨p, hp, hs⟩ := hread _ _ _ hfound
          rw [hs] at h hfound hshorter ⊢
          rw [hread.findAtWords_read hp hfound (Bool.eq_false_iff.mpr hword)] at h
          rcases List.mem_cons.mp h with rfl | h
          · exact ⟨[], p ++ rest, rest, rfl, hfound⟩
          · obtain ⟨p', q, rest', rfl, hq⟩ := ih _ (hs ▸ hshorter) h rfl
            exact ⟨p ++ p', q, rest', (List.append_assoc ..).symm, hq⟩

/-- If nothing that is read in a text goes beyond its end, then the search comes to what stands behind it. -/
theorem exists_findAtWords_append (hread : Cuts read) {u t : List Char}
    (hwithin : ∀ q value rest, q <:+ u → q ≠ [] → read (q ++ t) = some (value, rest) → ∃ r, rest = r ++ t)
    (before : Option Char) :
    ∃ values, findAtWords read before (u ++ t) = values ++ findAtWords read (u.getLast?.or before) t := by
  induction hlength : u.length using Nat.strong_induction_on generalizing u before with
  | _ n ih =>
    subst hlength
    cases u with
    | nil => exact ⟨[], rfl⟩
    | cons c u =>
      have hskip (hnone : before.any isWord = false → read (c :: (u ++ t)) = none) :
          ∃ values, findAtWords read before (c :: u ++ t) =
            values ++ findAtWords read ((c :: u).getLast?.or before) t := by
        obtain ⟨values, hvalues⟩ := ih _ (Nat.lt_succ_self _)
          (fun q value rest hq => hwithin q value rest (hq.trans (List.suffix_cons c u))) (some c) rfl
        refine ⟨values, ?_⟩
        rw [List.cons_append, hread.findAtWords_skip hnone, hvalues, List.getLast?_cons]
        cases u.getLast? <;> rfl
      by_cases hword : before.any isWord = true
      · exact hskip fun hfree => absurd hword (Bool.eq_false_iff.mp hfree)
      · cases hfound : read (c :: (u ++ t)) with
        | none => exact hskip fun _ => hfound
        | some found =>
          obtain ⟨first, rest⟩ := found
          obtain ⟨p, hp, hs⟩ := hread _ _ _ hfound
          obtain ⟨r, rfl⟩ := hwithin (c :: u) first rest List.suffix_rfl (List.cons_ne_nil c u) hfound
          have hu : c :: u = p ++ r := by
            rw [← List.cons_append, ← List.append_assoc] at hs
            exact List.append_cancel_right hs
          have hshorter : r.length < (c :: u).length := by
            have hlength := List.length_pos_iff.mpr hp
            rw [hu, List.length_append]
            omega
          rw [← List.cons_append] at hfound
          rw [hu] at hwithin hfound ⊢
          obtain ⟨values, hvalues⟩ := ih _ hshorter
            (fun q value rest hq => hwithin q value rest (hq.trans (List.suffix_append p r))) p.getLast? rfl
          refine ⟨first :: values, ?_⟩
          rw [List.append_assoc] at hfound ⊢
          rw [hread.findAtWords_read hp hfound (Bool.eq_false_iff.mpr hword), hvalues, List.getLast?_append]
          obtain ⟨x, hx⟩ := Option.isSome_iff_exists.mp (List.getLast?_isSome.mpr hp)
          rw [hx]
          cases r.getLast? <;> rfl

/-- What is read behind such a text is found, unless it goes on a word. -/
theorem mem_findAtWords_append (hread : Cuts read) {u t : List Char}
    (hwithin : ∀ q value rest, q <:+ u → q ≠ [] → read (q ++ t) = some (value, rest) → ∃ r, rest = r ++ t)
    (hword : u.getLast?.any isWord = false) {value : α} {rest : List Char} (h : read t = some (value, rest)) :
    value ∈ findAtWords read none (u ++ t) := by
  obtain ⟨values, hvalues⟩ := hread.exists_findAtWords_append hwithin none
  obtain ⟨p, hp, rfl⟩ := hread t value rest h
  rw [hvalues, Option.or_none, hread.findAtWords_read hp h hword]
  exact List.mem_append_right _ List.mem_cons_self

end Cuts

/-! ## Texts at whose end nothing is under way -/

/-- A text that ends neither within a word nor with the keyword of an import. -/
structure Halts (q : List Char) : Prop where
  some : q ≠ []
  apart : ∀ c ∈ q.getLast?, isIdentifierChar c = false
  ended : ∀ p b, q = p ++ ("import".toList ++ b) → ∃ c ∈ b, isWhite c = false

theorem getLast?_append_of_some {a b : List α} (hb : b ≠ []) : (a ++ b).getLast? = b.getLast? := by
  obtain ⟨x, hx⟩ := Option.isSome_iff_exists.mp (List.getLast?_isSome.mpr hb)
  rw [List.getLast?_append, hx]
  rfl

theorem stripPrefix?_ended {p q : List Char} (hq : q ≠ []) (hp : ∀ c ∈ q.getLast?, c ∉ p) (t : List Char) :
    stripPrefix? p (q ++ t) = (stripPrefix? p q).map (· ++ t) := by
  obtain ⟨a, c, rfl⟩ := (List.eq_nil_or_concat q).resolve_left hq
  rw [List.concat_eq_append] at hp ⊢
  have hc : c ∉ p := hp c List.getLast?_concat
  rw [stripPrefix?_stops hc a [], List.append_assoc, List.singleton_append, stripPrefix?_stops hc a t, Option.map_map]
  congr 1
  funext rest
  simp

theorem stripPrefix?_sign {x c : Char} (hc : x ≠ c) (a t : List Char) :
    stripPrefix? [x] (a ++ c :: t) = (stripPrefix? [x] a).map (· ++ c :: t) := by
  cases a with
  | nil => exact if_neg hc
  | cons d a =>
    show (if x = d then stripPrefix? [] (a ++ c :: t) else none) =
      (if x = d then stripPrefix? [] a else none).map (· ++ c :: t)
    split
    · cases a <;> rfl
    · rfl

theorem trimStart_append {c : Char} (hc : isWhite c = false) (a t : List Char) :
    trimStart (a ++ c :: t) = trimStart a ++ c :: t :=
  dropWhile_append_cons hc a t

theorem head?_append_of_some {a : List α} (ha : a ≠ []) (b : List α) : (a ++ b).head? = a.head? := by
  obtain ⟨c, a, rfl⟩ := List.exists_cons_of_ne_nil ha
  rfl

theorem readIdentifier?_ended {q : List Char} (hq : q ≠ [])
    (hapart : ∀ c ∈ q.getLast?, isIdentifierChar c = false)
    (t : List Char) : readIdentifier? (q ++ t) = (readIdentifier? q).map fun (n, rest) => (n, rest ++ t) := by
  have hhead : (q ++ t).head? = q.head? := head?_append_of_some hq t
  obtain ⟨a, c, rfl⟩ := (List.eq_nil_or_concat q).resolve_left hq
  rw [List.concat_eq_append] at hapart hhead ⊢
  have hc : isIdentifierChar c = false := hapart c List.getLast?_concat
  unfold readIdentifier?
  rw [hhead, List.append_assoc, List.singleton_append, takeWhile_append_cons hc, takeWhile_append_cons hc,
    dropWhile_append_cons hc, dropWhile_append_cons hc]
  split <;> simp

theorem letters_of_import {c : Char} (hc : isIdentifierChar c = false) : c ∉ "import".toList := by
  have hall : ∀ x ∈ "import".toList, isIdentifierChar x = true := List.forall_iff_forall_mem.mp (by decide)
  intro hmem
  rw [hall c hmem] at hc
  cases hc

namespace Halts

variable {q : List Char}

theorem stripImport? (h : Halts q) (t : List Char) :
    stripPrefix? "import".toList (q ++ t) = (stripPrefix? "import".toList q).map (· ++ t) :=
  stripPrefix?_ended h.some (fun c hc => letters_of_import (h.apart c hc)) t

/-- Behind the keyword comes more than white space. -/
theorem behind (h : Halts q) {rest : List Char} (hstrip : stripPrefix? "import".toList q = Option.some rest) :
    rest ≠ [] ∧ trimStart rest ≠ [] ∧ ∀ c ∈ (trimStart rest).getLast?, isIdentifierChar c = false := by
  have hq : q = "import".toList ++ rest := eq_append_of_stripPrefix? hstrip
  obtain ⟨c, hc, hwhite⟩ := h.ended [] rest (by rw [hq, List.nil_append])
  have hrest : rest ≠ [] := List.ne_nil_of_mem hc
  have htrim : trimStart rest ≠ [] := fun hnone => by
    rw [List.dropWhile_eq_nil_iff.mp hnone c hc] at hwhite
    cases hwhite
  refine ⟨hrest, htrim, fun x hx => h.apart x ?_⟩
  obtain ⟨b, hb⟩ := List.dropWhile_suffix isWhite (l := rest)
  rw [hq, getLast?_append_of_some hrest, ← hb]
  exact (getLast?_append_of_some htrim).trans hx

/-- A declaration in the text ends in it. -/
theorem readDeclaration? (h : Halts q) (t : List Char) :
    Component.readDeclaration? "import" (q ++ 'i' :: t) =
      (Component.readDeclaration? "import" q).map fun (n, rest) => (n, rest ++ 'i' :: t) := by
  unfold Component.readDeclaration?
  rw [h.stripImport?]
  cases hstrip : stripPrefix? "import".toList q with
  | none => rfl
  | some rest =>
    obtain ⟨hrest, htrim, hapart⟩ := h.behind hstrip
    simp only [Option.map_some, Option.bind_eq_bind, Option.bind_some]
    rw [head?_append_of_some hrest, trimStart_append (by decide), readIdentifier?_ended htrim hapart]
    split <;> rfl

theorem afterDefault? {x : List Char} (hx : x ≠ []) (hapart : ∀ c ∈ x.getLast?, isIdentifierChar c = false)
    (t : List Char) :
    Component.afterDefault? (x ++ 'i' :: t) = (Component.afterDefault? x).map (· ++ 'i' :: t) := by
  unfold Component.afterDefault?
  rw [readIdentifier?_ended hx hapart]
  cases readIdentifier? x with
  | none => rfl
  | some found =>
    obtain ⟨name, rest⟩ := found
    simp only [Option.map_some, Option.bind_some]
    rw [trimStart_append (by decide), stripPrefix?_sign (by decide), Option.map_map, Option.map_map]
    congr 1
    funext more
    exact trimStart_append (by decide) more t

/-- A list that opens in the text. -/
theorem readListStart? (h : Halts q) (t : List Char) :
    Component.readListStart? (q ++ 'i' :: t) = (Component.readListStart? q).map (· ++ 'i' :: t) := by
  unfold Component.readListStart?
  rw [h.stripImport?]
  cases hstrip : stripPrefix? "import".toList q with
  | none => rfl
  | some rest =>
    obtain ⟨-, htrim, hapart⟩ := h.behind hstrip
    simp only [Option.map_some, Option.bind_some]
    rw [trimStart_append (by decide), afterDefault? htrim hapart]
    cases Component.afterDefault? (trimStart rest) with
    | none => exact stripPrefix?_sign (by decide) _ t
    | some more => exact stripPrefix?_sign (by decide) _ t

end Halts

/-- The search for declared names comes to what stands behind the text. -/
structure Free (u : List Char) : Prop where
  apart : ∀ c ∈ u.getLast?, isIdentifierChar c = false
  ended : ∀ p b, u = p ++ ("import".toList ++ b) → ∃ c ∈ b, isWhite c = false
  closed : ∀ p q body, u = p ++ q → readListStart? q = some body → '\x7d' ∈ body

namespace Free

variable {u : List Char}

theorem halts (h : Free u) {q : List Char} (hq : q <:+ u) (hsome : q ≠ []) : Halts q := by
  obtain ⟨p, rfl⟩ := hq
  refine ⟨hsome, fun c hc => h.apart c ?_, fun a b hcut => h.ended (p ++ a) b (by rw [hcut, List.append_assoc])⟩
  rwa [getLast?_append_of_some hsome]

theorem word (h : Free u) : u.getLast?.any isWord = false := by
  cases hlast : u.getLast? with
  | none => rfl
  | some c => exact (Bool.or_eq_false_iff.mp (h.apart c hlast)).1

/-- A list that opens in the text is closed in it. -/
theorem list_within (h : Free u) {p q list rest : List Char} {t : List Char} (hu : u = p ++ q) (hsome : q ≠ [])
    (hread : readNamedImport? (q ++ 'i' :: t) = some (list, rest)) : ∃ r, rest = r ++ 'i' :: t := by
  obtain ⟨-, -, hlist, hstart⟩ := exists_of_readNamedImport? hread
  rw [(h.halts ⟨p, hu.symm⟩ hsome).readListStart?] at hstart
  obtain ⟨body, hbody, heq⟩ := Option.map_eq_some_iff.mp hstart
  obtain ⟨front, more, rfl, hfirst⟩ := List.eq_append_cons_of_mem (h.closed p q body hu hbody)
  rw [List.append_assoc, List.cons_append] at heq
  -- both are cut at the first brace
  rcases List.append_eq_append_iff.mp heq with ⟨cut, hcut, hrest⟩ | ⟨cut, hcut, hrest⟩
  · cases cut with
    | nil => exact ⟨more, (List.cons.inj hrest).2.symm⟩
    | cons c cut =>
      rw [← (List.cons.inj hrest).1] at hcut
      exact absurd (hcut ▸ List.mem_append_right front List.mem_cons_self) hlist
  · cases cut with
    | nil => exact ⟨more, (List.cons.inj hrest).2⟩
    | cons c cut =>
      rw [← (List.cons.inj hrest).1] at hcut
      exact absurd (hcut ▸ List.mem_append_right list List.mem_cons_self) hfirst

end Free

/-! ## Imports as they are written -/

/-- How an import binds a name: as its default import, in its list, or for the whole module. -/
inductive Binding where
  | alone
  | listed
  | whole

/-- What stands between the keyword and the list or the star. With `type` the import is one of types. -/
inductive Lead : Bool → List Char → Prop where
  | bare {b : List Char} : Blank b → Lead false b
  | behindDefault {g d b b' : List Char} : Gap g → IsName d → Blank b → Blank b' →
      Lead false (g ++ (d ++ (b ++ ',' :: b')))
  | type {g b : List Char} : Gap g → Blank b → Lead true (g ++ ("type".toList ++ b))

/-- What stands in front of the name in an entry of the list: nothing, `type`, or what is renamed and `as`. -/
inductive EntryFront : List Char → Prop where
  | bare {b : List Char} : Blank b → EntryFront b
  | type {b g : List Char} : Blank b → Gap g → EntryFront (b ++ ("type".toList ++ g))
  | renamed {w g : List Char} : (∀ c ∈ w, c ∉ [',', '\x7b', '\x7d']) → Gap g →
      EntryFront (w ++ ("as".toList ++ g))

/-- The texts between the keyword of an import and a name that it binds, and behind the name. -/
inductive Binds : Bool → Binding → List Char → List Char → Prop where
  | alone {g behind : List Char} : Gap g → EndsName behind → Binds false .alone g behind
  | type {g g' behind : List Char} : Gap g → Gap g' → EndsName behind →
      Binds true .alone (g ++ ("type".toList ++ g')) behind
  | listed {typed : Bool} {lead earlier entry b later rest : List Char} : Lead typed lead →
      (∀ c ∈ earlier, c ∉ ['\x7b', '\x7d']) → (∀ c ∈ earlier.getLast?, c = ',') →
      EntryFront entry → Blank b →
      '\x7d' ∉ later → (∀ c ∈ later.head?, c = ',') →
      Binds typed .listed (lead ++ '\x7b' :: (earlier ++ entry)) (b ++ (later ++ '\x7d' :: rest))
  | whole {typed : Bool} {lead b g behind : List Char} : Lead typed lead → Blank b → Gap g → EndsName behind →
      Binds typed .whole (lead ++ '*' :: (b ++ ("as".toList ++ g))) behind

/-- A text in which an import binds a name. -/
def bindingText (front n behind : List Char) : List Char := "import".toList ++ (front ++ (n ++ behind))

theorem import_cons (s : List Char) : "import".toList ++ s = 'i' :: ("mport".toList ++ s) := rfl

theorem bindingText_cons (front n behind : List Char) :
    bindingText front n behind = 'i' :: ("mport".toList ++ (front ++ (n ++ behind))) := import_cons _

theorem append_bindingText (u front n behind : List Char) :
    u ++ bindingText front n behind = u ++ ("import".toList ++ front) ++ (n ++ behind) := by
  unfold bindingText
  simp only [List.append_assoc]

/-! ### The start of a list -/

theorem readIdentifier?_eq_none {c : Char} (hc : startsIdentifier c = false) (s : List Char) :
    readIdentifier? (c :: s) = none := if_neg (by simp [hc])

theorem stripPrefix?_eq_none_of_ne {x c : Char} (hc : x ≠ c) (s : List Char) : stripPrefix? [x] (c :: s) = none :=
  if_neg hc

theorem afterDefault?_name {d behind : List Char} (hd : IsName d) (hbehind : EndsName behind) :
    afterDefault? (d ++ behind) = (stripPrefix? [','] (trimStart behind)).map trimStart := by
  rw [afterDefault?, hd.readIdentifier? hbehind]
  rfl

/-- Behind a default import, or behind blanks only, the list starts if there is a brace. -/
theorem Lead.readListStart? {lead : List Char} (h : Lead false lead) {c : Char} (hwhite : isWhite c = false)
    (hstart : startsIdentifier c = false) (s : List Char) :
    Component.readListStart? ("import".toList ++ (lead ++ c :: s)) = stripPrefix? ['\x7b'] (c :: s) := by
  unfold Component.readListStart?
  rw [stripPrefix?_append, Option.bind_some]
  cases h with
  | bare hb =>
    have hnone : afterDefault? (c :: s) = none := by
      rw [afterDefault?, readIdentifier?_eq_none hstart]
      rfl
    rw [hb.trimStart_append, trimStart_cons hwhite, hnone]
    rfl
  | @behindDefault g d b b' hg hd hb hb' =>
    have hcomma : EndsName (b ++ ',' :: (b' ++ c :: s)) := hb.endsName_append ⟨',', _, rfl, by decide⟩
    have hafter : afterDefault? (d ++ (b ++ ',' :: (b' ++ c :: s))) = some (c :: s) := by
      have hstrip : stripPrefix? [','] (',' :: (b' ++ c :: s)) = some (b' ++ c :: s) := stripPrefix?_append [','] _
      rw [afterDefault?_name hd hcomma, hb.trimStart_append, trimStart_cons (by decide), hstrip, Option.map_some,
        hb'.trimStart_append, trimStart_cons hwhite]
    have hlead : g ++ (d ++ (b ++ ',' :: b')) ++ c :: s = g ++ (d ++ (b ++ ',' :: (b' ++ c :: s))) := by simp
    rw [hlead, hg.blank.trimStart_append, hd.trimStart_append, hafter]
    rfl

theorem Lead.opens {lead : List Char} (h : Lead false lead) (body : List Char) :
    Component.readListStart? ("import".toList ++ (lead ++ '\x7b' :: body)) = some body :=
  (h.readListStart? (by decide) (by decide) body).trans (stripPrefix?_append ['\x7b'] body)

theorem Lead.brace_not_mem {typed : Bool} {lead : List Char} (h : Lead typed lead) : '\x7b' ∉ lead := by
  cases h with
  | bare hb => exact hb.not_mem (by decide)
  | behindDefault hg hd hb hb' =>
    simp only [List.mem_append, List.mem_cons, not_or]
    exact ⟨hg.blank.not_mem (by decide), hd.not_mem (by decide), hb.not_mem (by decide), by decide,
      hb'.not_mem (by decide)⟩
  | type hg hb =>
    simp only [List.mem_append, not_or]
    exact ⟨hg.blank.not_mem (by decide), by decide, hb.not_mem (by decide)⟩

theorem isName_type : IsName "type".toList where
  start := by decide
  rest := List.forall_iff_forall_mem.mp (by decide)
  white := List.forall_iff_forall_mem.mp (by decide)

/-- Behind `type` no list starts. -/
theorem readListStart?_type {g b s : List Char} (hg : Gap g) (hb : Blank b) {c : Char} (hwhite : isWhite c = false)
    (hcomma : ',' ≠ c) (hends : EndsName (b ++ c :: s)) :
    readListStart? ("import".toList ++ (g ++ ("type".toList ++ (b ++ c :: s)))) = none := by
  have hafter : afterDefault? ("type".toList ++ (b ++ c :: s)) = none := by
    rw [afterDefault?_name isName_type hends, hb.trimStart_append, trimStart_cons hwhite,
      stripPrefix?_eq_none_of_ne hcomma]
    rfl
  unfold readListStart?
  rw [stripPrefix?_append, Option.bind_some, hg.blank.trimStart_append, isName_type.trimStart_append, hafter]
  rfl

/-! ### Names that are found -/

theorem Blank.plain {b : List Char} (h : Blank b) : ∀ c ∈ b, c ∉ ['\x7b', '\x7d'] := by
  have hsigns : ∀ x ∈ ['\x7b', '\x7d'], isWhite x = false := List.forall_iff_forall_mem.mp (by decide)
  exact fun c hc hsign => h.not_mem (hsigns c hsign) hc

namespace EntryFront

variable {entry : List Char}

theorem plain (h : EntryFront entry) : ∀ c ∈ entry, c ∉ ['\x7b', '\x7d'] := by
  have htype : ∀ c ∈ "type".toList, c ∉ ['\x7b', '\x7d'] := List.forall_iff_forall_mem.mp (by decide)
  have has : ∀ c ∈ "as".toList, c ∉ ['\x7b', '\x7d'] := List.forall_iff_forall_mem.mp (by decide)
  cases h with
  | bare hb => exact hb.plain
  | type hb hg =>
    exact List.forall_mem_append.mpr ⟨hb.plain, List.forall_mem_append.mpr ⟨htype, hg.blank.plain⟩⟩
  | renamed hw hg =>
    refine List.forall_mem_append.mpr ⟨fun c hc hsign => hw c hc (List.mem_cons_of_mem _ hsign), ?_⟩
    exact List.forall_mem_append.mpr ⟨has, hg.blank.plain⟩

/-- White space stands in front of the name, or nothing. -/
theorem white (h : EntryFront entry) : ∀ c ∈ entry.getLast?, isWhite c := by
  have hgap {w g : List Char} (hg : Gap g) : ∀ c ∈ (w ++ g).getLast?, isWhite c := fun c hc => by
    rw [getLast?_append_of_some hg.some] at hc
    exact hg.blank.white (List.mem_of_getLast? hc)
  cases h with
  | bare hb => exact fun c hc => hb.white (List.mem_of_getLast? hc)
  | type hb hg =>
    rw [← List.append_assoc]
    exact hgap hg
  | renamed hw hg =>
    rw [← List.append_assoc]
    exact hgap hg

end EntryFront

theorem IsName.break {n : List Char} (hn : IsName n) {c : Char} (hc : c ∈ n) : isListBreak c = false := by
  have hcomma : c ≠ ',' := by
    rintro rfl
    exact hn.not_mem (by decide) hc
  simp [isListBreak, hn.white c hc, hcomma]

/-- The name in an entry is bound by the list. -/
theorem mem_boundNames_entry {n earlier entry b later : List Char} (hn : IsName n)
    (hearlier : ∀ c ∈ earlier.getLast?, c = ',') (hentry : EntryFront entry) (hb : Blank b)
    (hlater : ∀ c ∈ later.head?, c = ',') : n ∈ boundNames (earlier ++ entry ++ (n ++ b ++ later)) := by
  obtain ⟨x, rest, hcons, -⟩ := hn.exists_cons
  refine mem_boundNames.mpr ⟨earlier ++ entry, b, later, rfl, fun c hc => ?_, fun c hc => hb.white hc, hlater,
    hcons ▸ List.cons_ne_nil x rest, fun c hc => hn.break hc⟩
  unfold isListBreak
  rw [List.getLast?_append] at hc
  cases hlast : entry.getLast? with
  | none =>
    rw [hlast, Option.none_or] at hc
    simp [hearlier c hc]
  | some d =>
    rw [hlast] at hc
    cases hc
    simp [hentry.white c hlast]

/-- A name is found if it is bound in a way that is seen and the search comes to the keyword. -/
theorem mem_namesInScript_of_binds {u n front behind : List Char} {form : Binding} (hn : IsName n)
    (hbinds : Binds false form front behind) (hform : form ≠ .whole) (hfree : Free u) :
    n ∈ namesInScript (u ++ bindingText front n behind) := by
  unfold namesInScript
  rw [List.mem_append, List.mem_append]
  cases hbinds with
  | alone hg hbehind =>
    refine .inl (.inl ((cuts_readDeclaration? (by decide)).mem_findAtWords_append
      (fun q value rest hq hsome hread => ?_)
      hfree.word (readDeclaration?_of_name hn hg hbehind "import")))
    rw [bindingText_cons, (hfree.halts hq hsome).readDeclaration?] at hread
    obtain ⟨⟨value', r⟩, -, hrest⟩ := Option.map_eq_some_iff.mp hread
    exact ⟨r, (Prod.mk.inj hrest).2.symm⟩
  | @listed _ lead earlier entry b later rest hlead hearlier hlast hentry hb hlater hhead =>
    have hlist : '\x7d' ∉ earlier ++ entry ++ (n ++ b ++ later) := by
      have hname : '\x7d' ∉ n := hn.not_mem (by decide)
      have hearlier : '\x7d' ∉ earlier := fun hmem => hearlier _ hmem (by decide)
      have hentry : '\x7d' ∉ entry := fun hmem => hentry.plain _ hmem (by decide)
      have hb : '\x7d' ∉ b := hb.not_mem (by decide)
      simp only [List.mem_append, not_or]
      exact ⟨⟨hearlier, hentry⟩, ⟨hname, hb⟩, hlater⟩
    have hread : readNamedImport? (bindingText (lead ++ '\x7b' :: (earlier ++ entry)) n
        (b ++ (later ++ '\x7d' :: rest))) = some (earlier ++ entry ++ (n ++ b ++ later), rest) := by
      have hbody : lead ++ '\x7b' :: (earlier ++ entry) ++ (n ++ (b ++ (later ++ '\x7d' :: rest))) =
          lead ++ '\x7b' :: (earlier ++ entry ++ (n ++ b ++ later) ++ '\x7d' :: rest) := by
        simp only [List.append_assoc, List.cons_append]
      have hstart : readListStart? (bindingText (lead ++ '\x7b' :: (earlier ++ entry)) n
          (b ++ (later ++ '\x7d' :: rest))) = some (earlier ++ entry ++ (n ++ b ++ later) ++ '\x7d' :: rest) := by
        unfold bindingText
        rw [hbody]
        exact hlead.opens _
      have hend := splitAt?_append hlist [] rest
      rw [List.append_assoc (earlier ++ entry ++ (n ++ b ++ later))] at hend
      rw [readNamedImport?_eq, hstart]
      exact hend
    refine .inl (.inr (List.mem_flatMap.mpr ⟨_, cuts_readNamedImport?.mem_findAtWords_append
      (fun q value rest hq hsome hread => ?_) hfree.word hread, mem_boundNames_entry hn hlast hentry hb hhead⟩))
    obtain ⟨p, hu⟩ := hq
    rw [bindingText_cons] at hread
    exact hfree.list_within hu.symm hsome hread
  | whole => exact absurd rfl hform

/-! ### Names that are not found -/

/-- A name is found where a keyword stands in front of it, or in a list. -/
theorem cases_of_mem_namesInScript {n content : List Char} (h : n ∈ namesInScript content) :
    (∃ k ∈ "import" :: declaringKeywords, ∃ x g y, content = x ++ (k.toList ++ (g ++ (n ++ y))) ∧
      ∀ c ∈ g, isWhite c) ∨
    ∃ p q list rest, content = p ++ q ∧ readNamedImport? q = some (list, rest) ∧ n ∈ boundNames list := by
  have hbehind {k : String} (hk : k ∈ "import" :: declaringKeywords) {x q y : List Char} (hcontent : content = x ++ q)
      (hread : readDeclaration? k q = some (n, y)) :
      ∃ k ∈ "import" :: declaringKeywords, ∃ x g y, content = x ++ (k.toList ++ (g ++ (n ++ y))) ∧
        ∀ c ∈ g, isWhite c := by
    obtain ⟨g, rfl, -, hwhite⟩ := exists_of_readDeclaration? hread
    exact ⟨k, hk, x, g, y, hcontent, hwhite⟩
  unfold namesInScript at h
  rw [List.mem_append, List.mem_append] at h
  rcases h with (h | h) | h
  · obtain ⟨x, q, y, hcontent, hread⟩ := (cuts_readDeclaration? (by decide)).exists_of_mem h
    exact .inl (hbehind List.mem_cons_self hcontent hread)
  · obtain ⟨list, hlist, hn⟩ := List.mem_flatMap.mp h
    obtain ⟨p, q, rest, hcontent, hread⟩ := cuts_readNamedImport?.exists_of_mem hlist
    exact .inr ⟨p, q, list, rest, hcontent, hread, hn⟩
  · obtain ⟨x, q, y, hcontent, hread⟩ := cuts_declaring.exists_of_mem h
    obtain ⟨k, hk, hread⟩ := List.exists_of_findSome?_eq_some hread
    exact .inl (hbehind (List.mem_cons_of_mem _ hk) hcontent hread)

/-- What stands in front of a name that is not seen, apart from white space. -/
def unseenMarks : List String := ["type", "as", "\x7b", ","]

/-- No keyword ends as what stands in front of a name that is not seen. -/
theorem not_suffix_marks : ∀ k ∈ "import" :: declaringKeywords, ∀ m ∈ unseenMarks,
    ¬ k.toList <:+ m.toList ∧ ¬ m.toList <:+ k.toList := by decide

/-- The keywords and the marks end in signs that are not white. -/
theorem white_last : ∀ w ∈ ("import" :: declaringKeywords) ++ unseenMarks,
    w.toList ≠ [] ∧ w.toList.getLast?.any isWhite = false := by decide

namespace Binds

variable {typed : Bool} {form : Binding} {front behind : List Char}

/-- A way of binding that the search sees. -/
def isSeen (typed : Bool) : Binding → Bool
  | .alone | .listed => !typed
  | .whole => false

/-- In front of a name that is not seen stands one of the marks. -/
theorem exists_mark (h : Binds typed form front behind) (hunseen : isSeen typed form = false) :
    ∃ m ∈ unseenMarks, ∃ w b, front = w ++ (m.toList ++ b) ∧ Blank b := by
  cases h with
  | alone => cases hunseen
  | @type g g' _ hg hg' => exact ⟨"type", by decide, g, g', rfl, hg'.blank⟩
  | @listed _ lead earlier entry b later rest _ _ hlast hentry =>
    cases hentry with
    | bare hb =>
      cases hcomma : earlier.getLast? with
      | none =>
        refine ⟨"\x7b", by decide, lead, entry, ?_, hb⟩
        rw [List.getLast?_eq_none_iff.mp hcomma]
        rfl
      | some c =>
        obtain ⟨init, rfl⟩ := List.getLast?_eq_some_iff.mp hcomma
        refine ⟨",", by decide, lead ++ '\x7b' :: init, entry, ?_, hb⟩
        rw [hlast c hcomma]
        simp
    | @type b g hb hg => exact ⟨"type", by decide, lead ++ '\x7b' :: (earlier ++ b), g, by simp, hg.blank⟩
    | @renamed w g _ hg => exact ⟨"as", by decide, lead ++ '\x7b' :: (earlier ++ w), g, by simp, hg.blank⟩
  | @whole _ lead b g _ _ hb hg => exact ⟨"as", by decide, lead ++ '*' :: b, g, by simp, hg.blank⟩

/-- No brace stands in front of a name that is not seen, or it stands behind `type`. -/
theorem letter_not_mem (h : Binds typed form front behind) (hunseen : isSeen typed form = false) {z l : List Char}
    (hfront : front = z ++ '\x7b' :: l) : 'i' ∉ z := by
  have hbrace : '\x7b' ∈ front := hfront ▸ List.mem_append_right z List.mem_cons_self
  cases h with
  | alone => cases hunseen
  | type hg hg' =>
    simp only [List.mem_append] at hbrace
    rcases hbrace with h | h | h
    · exact absurd h (hg.blank.not_mem (by decide))
    · exact absurd h (by decide)
    · exact absurd h (hg'.blank.not_mem (by decide))
  | @listed _ lead earlier entry b later rest hlead hearlier hlast hentry =>
    have hentries : '\x7b' ∉ earlier ++ entry := fun hmem =>
      (List.mem_append.mp hmem).elim (fun h => hearlier _ h (by decide)) fun h => hentry.plain _ h (by decide)
    have hz : z <+: lead := by
      rcases List.append_eq_append_iff.mp hfront with ⟨more, hz, hrest⟩ | ⟨more, hz, -⟩
      · cases more with
        | nil => exact ⟨[], by simpa using hz⟩
        | cons c more =>
          have hmem : '\x7b' ∈ earlier ++ entry := by
            rw [(List.cons.inj hrest).2]
            exact List.mem_append_right more List.mem_cons_self
          exact absurd hmem hentries
      · exact ⟨more, hz.symm⟩
    refine fun hmem => absurd (hz.subset hmem) ?_
    cases hlead with
    | bare => cases hunseen
    | behindDefault => cases hunseen
    | type hg hb =>
      simp only [List.mem_append, not_or]
      exact ⟨hg.blank.not_mem (by decide), by decide, hb.not_mem (by decide)⟩
  | @whole _ lead b g _ hlead hb hg =>
    rcases List.mem_append.mp hbrace with h | h
    · exact absurd h hlead.brace_not_mem
    · simp only [List.mem_cons, List.mem_append] at h
      rcases h with h | h | h | h
      · exact absurd h (by decide)
      · exact absurd h (hb.not_mem (by decide))
      · exact absurd h (by decide)
      · exact absurd h (hg.blank.not_mem (by decide))

/-- At the keyword itself no list starts. -/
theorem readListStart?_eq_none (h : Binds typed form front behind) (hunseen : isSeen typed form = false) {n : List Char}
    (hn : IsName n) : readListStart? (bindingText front n behind) = none := by
  have hstar {b s : List Char} (hb : Blank b) : EndsName (b ++ '*' :: s) :=
    hb.endsName_append ⟨'*', s, rfl, by decide⟩
  have hbrace {b s : List Char} (hb : Blank b) : EndsName (b ++ '\x7b' :: s) :=
    hb.endsName_append ⟨'\x7b', s, rfl, by decide⟩
  unfold bindingText
  cases h with
  | alone => cases hunseen
  | @type g g' _ hg hg' =>
    obtain ⟨c, rest, hcons, hc⟩ := hn.exists_cons
    have hcomma : ',' ≠ c := by
      rintro rfl
      exact absurd hc (by decide)
    have hread := readListStart?_type hg hg'.blank (isWhite_of_startsIdentifier hc) hcomma
      (hg'.endsName_append (c :: (rest ++ behind)))
    rw [hcons]
    simpa using hread
  | @listed _ lead earlier entry b later rest hlead =>
    cases hlead with
    | bare => cases hunseen
    | behindDefault => cases hunseen
    | type hg hb =>
      have hread := readListStart?_type hg hb (s := earlier ++ (entry ++ (n ++ (b ++ (later ++ '\x7d' :: rest)))))
        (by decide) (by decide) (hbrace hb)
      simpa using hread
  | @whole typed lead b g _ hlead =>
    cases typed with
    | false =>
      have hread := hlead.readListStart? (c := '*') (by decide) (by decide) (b ++ ("as".toList ++ (g ++ (n ++ behind))))
      rw [stripPrefix?_eq_none_of_ne (by decide)] at hread
      simpa using hread
    | true =>
      cases hlead with
      | type hg' hb' =>
        have hread := readListStart?_type hg' hb' (s := b ++ ("as".toList ++ (g ++ (n ++ behind))))
          (by decide) (by decide)
          (hstar hb')
        simpa using hread

end Binds

/-- Texts that end in white space are the same in front of it. -/
theorem eq_of_append_white {a b w v : List Char} (ha : ∀ c ∈ a.getLast?, isWhite c = false)
    (hb : ∀ c ∈ b.getLast?, isWhite c = false) (hw : ∀ c ∈ w, isWhite c) (hv : ∀ c ∈ v, isWhite c)
    (h : a ++ w = b ++ v) : a = b := by
  rw [← dropEndWhile_append hw ha, h, dropEndWhile_append hv hb]

section Unseen

variable {u n front behind : List Char} {typed : Bool} {form : Binding}

/-- No keyword stands in front of a name that is not seen. -/
theorem Binds.not_behind_keyword (hbinds : Binds typed form front behind) (hunseen : Binds.isSeen typed form = false)
    {k : String} (hk : k ∈ "import" :: declaringKeywords) {x g : List Char} (hwhite : ∀ c ∈ g, isWhite c) :
    x ++ (k.toList ++ g) ≠ u ++ ("import".toList ++ front) := by
  intro heq
  obtain ⟨m, hm, w, b, rfl, hb⟩ := hbinds.exists_mark hunseen
  have hends {v : String} (hv : v ∈ ("import" :: declaringKeywords) ++ unseenMarks) (a : List Char) :
      ∀ c ∈ (a ++ v.toList).getLast?, isWhite c = false := by
    obtain ⟨hsome, hlast⟩ := white_last v hv
    rw [getLast?_append_of_some hsome]
    exact (Option.any_eq_false ..).mp hlast
  have hsame : x ++ k.toList = (u ++ ("import".toList ++ w)) ++ m.toList :=
    eq_of_append_white (hends (List.mem_append_left _ hk) x) (hends (List.mem_append_right _ hm) _) hwhite
      (fun c hc => hb.white hc) (by simpa only [List.append_assoc] using heq)
  obtain ⟨hkeyword, hmark⟩ := not_suffix_marks k hk m hm
  rcases List.suffix_or_suffix_of_suffix ⟨x, hsame⟩ (List.suffix_append _ m.toList) with h | h
  · exact hkeyword h
  · exact hmark h

/-- A name that is not seen stands in no list: neither in one that opens in front of the import, nor in one of the
import. -/
theorem Binds.not_in_list (hbinds : Binds typed form front behind) (hunseen : Binds.isSeen typed form = false)
    (hn : IsName n) (hfree : Free u) {p q p' before y rest : List Char}
    (hcontent : u ++ bindingText front n behind = p ++ q)
    (hread : readNamedImport? q = some (before ++ (n ++ y), rest))
    (hq : q = p' ++ '\x7b' :: (before ++ (n ++ y) ++ '\x7d' :: rest)) :
    p ++ (p' ++ '\x7b' :: before) ≠ u ++ ("import".toList ++ front) := by
  intro heq
  obtain ⟨-, -, -, hstart⟩ := exists_of_readNamedImport? hread
  have helsewhere : q ≠ bindingText front n behind := by
    rintro rfl
    rw [hbinds.readListStart?_eq_none hunseen hn] at hstart
    cases hstart
  rcases List.append_eq_append_iff.mp hcontent with ⟨p₁, rfl, htext⟩ | ⟨part, hu, hrest⟩
  · cases p₁ with
    | nil => exact helsewhere htext.symm
    | cons c p₁ =>
      -- the keyword in front of the list would stand behind that of the import
      obtain ⟨more, himport, -⟩ := Option.bind_eq_some_iff.mp hstart
      have hletter : 'i' ∈ p' := by
        have hhead := eq_append_of_stripPrefix? himport
        rw [hq, import_cons] at hhead
        cases p' with
        | nil => exact absurd (List.cons.inj hhead).1 (by decide)
        | cons x p' => exact (List.cons.inj hhead).1 ▸ List.mem_cons_self
      have htail : (p₁ ++ p') ++ '\x7b' :: before = [] ++ ("mport".toList ++ front) := by
        rw [List.append_assoc, List.append_cancel_left_eq, List.cons_append, import_cons] at heq
        rw [List.append_assoc, List.nil_append]
        exact (List.cons.inj heq).2
      rcases cut_of_not_mem (by decide) htail with ⟨z, hz, -⟩ | ⟨z, hz, hcut⟩
      · exact absurd hz.symm (List.append_ne_nil_of_right_ne_nil _ (List.cons_ne_nil _ _))
      · have hmem : 'i' ∈ "mport".toList ++ z := by
          rw [← List.nil_append ("mport".toList ++ z), ← hcut]
          exact List.mem_append_right p₁ hletter
        exact (List.mem_append.mp hmem).elim (by decide) (hbinds.letter_not_mem hunseen hz)
  · by_cases hpart : part = []
    · exact helsewhere (by rw [hrest, hpart, List.nil_append])
    · -- the list ends in front of the import
      rw [hrest, bindingText_cons] at hread
      obtain ⟨r, hr⟩ := hfree.list_within hu hpart hread
      have hlength := congrArg List.length heq
      have hwhole := congrArg List.length (hrest.symm.trans hq)
      rw [hr, ← bindingText_cons] at hwhole
      rw [hu] at hlength
      simp only [List.length_append, List.length_cons] at hlength hwhole
      omega

end Unseen

theorem not_mem_namesInScript_of_binds {u n front behind : List Char} {typed : Bool} {form : Binding} (hn : IsName n)
    (hbinds : Binds typed form front behind) (hunseen : Binds.isSeen typed form = false) (hfree : Free u)
    (honce : ∀ x y, u ++ bindingText front n behind = x ++ (n ++ y) → x = u ++ ("import".toList ++ front)) :
    n ∉ namesInScript (u ++ bindingText front n behind) := by
  intro hmem
  rcases cases_of_mem_namesInScript hmem with ⟨k, hk, x, g, y, hcontent, hwhite⟩ |
    ⟨p, q, list, rest, hcontent, hread, hlist⟩
  · exact hbinds.not_behind_keyword hunseen hk hwhite (honce (x ++ (k.toList ++ g)) y (by simpa using hcontent))
  · obtain ⟨p', hq, -, -⟩ := exists_of_readNamedImport? hread
    obtain ⟨before, v, w, rfl, -⟩ := mem_boundNames.mp hlist
    rw [List.append_assoc n] at hread hq
    refine hbinds.not_in_list hunseen hn hfree hcontent hread hq (honce _ (v ++ (w ++ '\x7d' :: rest)) ?_)
    rw [hcontent, hq]
    simp

/-! ## In front of an import -/

/-- The search comes to a text in front of which no import stands. -/
theorem Free.of_not_infix {u : List Char} (himport : ¬ "import".toList <:+: u)
    (hapart : ∀ c ∈ u.getLast?, isIdentifierChar c = false) : Free u := by
  refine ⟨hapart, fun p b hcut => absurd ⟨p, b, by rw [hcut, List.append_assoc]⟩ himport,
    fun p q body hcut hread => ?_⟩
  obtain ⟨more, hstrip, -⟩ := Option.bind_eq_some_iff.mp hread
  have hq : q = "import".toList ++ more := eq_append_of_stripPrefix? hstrip
  exact absurd ⟨p, more, by rw [hcut, hq, List.append_assoc]⟩ himport

/-- A name that is found stands in the script. -/
theorem exists_of_mem_namesInScript {n content : List Char} (h : n ∈ namesInScript content) :
    ∃ x y, content = x ++ (n ++ y) := by
  rcases cases_of_mem_namesInScript h with ⟨k, -, x, g, y, hcontent, -⟩ |
    ⟨p, q, list, rest, hcontent, hread, hlist⟩
  · exact ⟨x ++ (k.toList ++ g), y, by simpa using hcontent⟩
  · obtain ⟨p', hq, -, -⟩ := exists_of_readNamedImport? hread
    obtain ⟨before, v, w, rfl, -⟩ := mem_boundNames.mp hlist
    refine ⟨p ++ (p' ++ '\x7b' :: before), v ++ (w ++ '\x7d' :: rest), ?_⟩
    rw [hcontent, hq]
    simp

namespace Importer

variable {i : Importer} {d : Disk}

/-- Icons, elements and component files are imported under the names of their tags. -/
theorem specifier_of_found (hbuilt : i.IsBuiltIn) {consumer : Option Path} {ls : Listings} {tag : String}
    {r : Resolution} (h : i.found d consumer ls tag = some r) : r.specifier = pascalCase tag := by
  unfold found at h
  rw [resolve?_run] at h
  dsimp only at h
  unfold resolutionOf at h
  split at h
  · cases h
    rfl
  · obtain ⟨resolver, hresolver, hr⟩ := List.exists_of_findSome?_eq_some h
    cases hbuilt resolver hresolver with
    | icons o =>
      obtain ⟨icon, -, rfl⟩ := Option.map_eq_some_iff.mp hr
      rfl
    | elements =>
      obtain ⟨element, -, rfl⟩ := Option.map_eq_some_iff.mp hr
      rfl

/--
**An import of a file binds a name that is not imported again, if it does so in a way that is seen.**

A name is seen as a default import and in a list, but not behind a star, and not if `type` stands behind the keyword.
A name that is not seen, and stands nowhere else in the scripts, is imported again exactly if a tag of the file has
it and something is found for the tag. The search comes to the import if the text in front ends neither within a
word nor with the keyword of an import, and closes the lists that it opens.
-/
theorem import_bound_again_iff {a : Artifact} (happlies : i.appliesTo a) (ls : Listings)
    {content u front n behind : List Char} {typed : Bool} {form : Binding}
    (hcontent : content ∈ scriptContents a.code.toList) (hcut : content = u ++ bindingText front n behind)
    (hfree : Free u) (hn : IsName n) (hbinds : Binds typed form front behind) :
    ∃ imports, i.IsImports d ls a imports ∧
      ((i.apply d a).run ls).1 = withImports a (imports, i.unresolvedTags d ls a) ∧
      (i.IsBuiltIn → ∀ e ∈ imports, e.2.specifier = e.1) ∧
      (Binds.isSeen typed form = true → ∀ e ∈ imports, e.1 ≠ String.ofList n) ∧
      (Binds.isSeen typed form = false →
        (∀ c ∈ scriptContents a.code.toList, ∀ x y, c = x ++ (n ++ y) →
          c = content ∧ x = u ++ ("import".toList ++ front)) →
        ((∃ e ∈ imports, e.1 = String.ofList n) ↔
          ∃ tag ∈ usedTags a.code, pascalCase tag = String.ofList n ∧
            i.found d a.directory? ls tag ≠ none)) := by
  have himports := i.isImports_gathered d ls a
  refine ⟨(i.gathered d ls a).1, himports, ?_, fun hbuilt e he => ?_,
    fun hseen e he hname => ?_, fun hunseen honce => ?_⟩
  · rw [i.apply_eq_withImports d happlies, ← i.gathered_left d ls a]
  · obtain ⟨tag, -, -, hname, hfound⟩ := (himports.mem e.1 e.2).mp he
    rw [specifier_of_found hbuilt hfound, hname]
  · obtain ⟨tag, -, hnew, hsame, -⟩ := (himports.mem e.1 e.2).mp he
    refine hnew (mem_declaredNames.mpr ⟨content, hcontent, ?_⟩)
    rw [hsame, hname, String.toList_ofList, hcut]
    cases typed with
    | true => cases form <;> cases hseen
    | false =>
      refine mem_namesInScript_of_binds hn hbinds ?_ hfree
      rintro rfl
      cases hseen
  · have hnew : String.ofList n ∉ declaredNames a.code := by
      intro hdeclared
      obtain ⟨c, hc, hmem⟩ := mem_declaredNames.mp hdeclared
      rw [String.toList_ofList] at hmem
      obtain ⟨x, y, hxy⟩ := exists_of_mem_namesInScript hmem
      obtain ⟨rfl, -⟩ := honce c hc x y hxy
      rw [hcut] at hmem
      exact not_mem_namesInScript_of_binds hn hbinds hunseen hfree
        (fun x y hxy => (honce c hc x y (hcut.trans hxy)).2) hmem
    constructor
    · rintro ⟨e, he, hname⟩
      obtain ⟨tag, hused, -, hsame, hfound⟩ := (himports.mem e.1 e.2).mp he
      exact ⟨tag, hused, hsame.trans hname, by rw [hfound]; exact Option.some_ne_none _⟩
    · rintro ⟨tag, hused, hname, hfound⟩
      obtain ⟨r, hr⟩ := Option.ne_none_iff_exists'.mp hfound
      exact ⟨(String.ofList n, r), (himports.mem _ r).mpr ⟨tag, hused, hname ▸ hnew, hname, hr⟩, rfl⟩

/-! ### Pages with a paragraph element -/

/-- A page that uses the paragraph element and imports something by this clause, with a text put into its script. -/
def importingPage (put clause : String) : String :=
  "<template>\n<VueP/>\n</template>\n\n<script setup>" ++ put ++ "\nimport " ++ clause ++ " from './p'\n</script>\n"

theorem isName_paragraph : IsName "VueP".toList where
  start := by decide
  rest := List.forall_iff_forall_mem.mp (by decide)
  white := List.forall_iff_forall_mem.mp (by decide)

theorem free_newline : Free ['\n'] := Free.of_not_infix (by decide) ((Option.any_eq_false ..).mp (by decide))

theorem gap_space : Gap [' '] := ⟨List.forall_iff_forall_mem.mp (by decide), by decide⟩

/-- The name in a list behind a default import is not imported again; the name behind a star is. -/
theorem import_bound_again_paragraph :
    ((elementImporter.apply {} (compiledFile (importingPage "" "Q, \x7b a as VueP \x7d"))).run []).1.code =
        importingPage "" "Q, \x7b a as VueP \x7d" ∧
      ∃ imports, elementImporter.IsImports {} [] (compiledFile (importingPage "" "* as VueP")) imports ∧
        ∃ e ∈ imports, e.1 = "VueP" := by
  have hspace : Blank [' '] := gap_space.blank
  have hnone : Blank [] := fun c hc => nomatch hc
  constructor
  · have hlead : Lead false " Q, ".toList :=
      .behindDefault gap_space (d := ['Q'])
        ⟨⟨by decide, List.forall_iff_forall_mem.mp (by decide)⟩, List.forall_iff_forall_mem.mp (by decide)⟩
        hnone hspace
    have hentry : EntryFront " a as ".toList :=
      .renamed (w := [' ', 'a', ' ']) (List.forall_iff_forall_mem.mp (by decide)) gap_space
    have hbinds : Binds false .listed (" Q, ".toList ++ '\x7b' :: ([] ++ " a as ".toList))
        ([' '] ++ ([] ++ '\x7d' :: " from './p'\n".toList)) :=
      .listed hlead (fun c hc => nomatch hc) (fun c hc => nomatch hc) hentry hspace (by decide)
        fun c hc => nomatch hc
    have hused : usedTags (compiledFile (importingPage "" "Q, \x7b a as VueP \x7d")).code = ["VueP"] := by
      decide +kernel
    obtain ⟨imports, himports, hrun, -, hseen, -⟩ := import_bound_again_iff (i := elementImporter) (d := {})
      (a := compiledFile (importingPage "" "Q, \x7b a as VueP \x7d")) (by decide +kernel) []
      (u := ['\n']) (n := "VueP".toList) (by decide +kernel) rfl free_newline isName_paragraph hbinds
    have hempty : imports = [] := List.eq_nil_iff_forall_not_mem.mpr fun e he => by
      obtain ⟨tag, htag, -, hname, -⟩ := (himports.mem e.1 e.2).mp he
      rw [hused, List.mem_singleton] at htag
      refine hseen rfl e he ?_
      rw [← hname, htag, pascalCase_paragraph, String.ofList_toList]
    rw [hrun]
    exact (withImports_code _ _).1 hempty
  · have hbinds : Binds false .whole ([' '] ++ '*' :: ([' '] ++ ("as".toList ++ [' ']))) " from './p'\n".toList :=
      .whole (.bare hspace) hspace gap_space ⟨' ', _, rfl, by decide⟩
    have hscripts : scriptContents (compiledFile (importingPage "" "* as VueP")).code.toList =
        [['\n'] ++ bindingText ([' '] ++ '*' :: ([' '] ++ ("as".toList ++ [' ']))) "VueP".toList
          " from './p'\n".toList] := by decide +kernel
    have honce : ∀ t ∈ (['\n'] ++ bindingText ([' '] ++ '*' :: ([' '] ++ ("as".toList ++ [' ']))) "VueP".toList
        " from './p'\n".toList).tails, "VueP".toList <+: t → t = "VueP".toList ++ " from './p'\n".toList := by
      decide +kernel
    obtain ⟨imports, himports, -, -, -, hunseen⟩ := import_bound_again_iff (i := elementImporter) (d := {})
      (a := compiledFile (importingPage "" "* as VueP")) (by decide +kernel) [] (n := "VueP".toList)
      (hscripts ▸ List.mem_singleton_self _) rfl free_newline isName_paragraph hbinds
    have hplace : ∀ c ∈ scriptContents (compiledFile (importingPage "" "* as VueP")).code.toList, ∀ x y,
        c = x ++ ("VueP".toList ++ y) →
          c = ['\n'] ++ bindingText ([' '] ++ '*' :: ([' '] ++ ("as".toList ++ [' ']))) "VueP".toList
            " from './p'\n".toList ∧
          x = ['\n'] ++ ("import".toList ++ ([' '] ++ '*' :: ([' '] ++ ("as".toList ++ [' '])))) := by
      intro c hc x y hxy
      rw [hscripts, List.mem_singleton] at hc
      have htail := honce _ ((List.mem_tails _ _).mpr ⟨x, hxy.symm.trans hc⟩) ⟨y, rfl⟩
      rw [htail] at hxy
      exact ⟨hc, List.append_cancel_right (hxy.symm.trans (hc.trans (append_bindingText _ _ _ _)))⟩
    refine ⟨imports, himports, ?_⟩
    rw [String.ofList_toList] at hunseen
    refine (hunseen rfl hplace).mpr ⟨"VueP", by decide +kernel, pascalCase_paragraph, ?_⟩
    rw [found_element, resolve?_paragraph]
    exact Option.some_ne_none _

/-- What a star or `type` binds is imported again. -/
theorem bound_and_imported_again :
    elementImporter.IsBuiltIn ∧ ∀ clause ∈ ["* as VueP", "type VueP", "type \x7b VueP \x7d"],
      ((elementImporter.apply {} (compiledFile (importingPage "" clause))).run []).1.code =
        importingPage "\nimport VueP from '/@vue-factory/p'" clause := by
  refine ⟨isBuiltIn_elementImporter, fun clause hclause => ?_⟩
  simp only [List.mem_cons, List.not_mem_nil, or_false] at hclause
  -- one page after the other: all three at once take much memory
  rcases hclause with rfl | rfl | rfl <;> decide +kernel

end Importer

end DeckPress.Component
