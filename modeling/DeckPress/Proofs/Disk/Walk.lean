import DeckPress.Disk.Basic
import DeckPress.Proofs.Disk.Path

/-!
# Where paths lead

A path is walked piece by piece, and each piece can do one of three things: lead to a place, hand on to the
target of a link, or be refused. A dot on the way leads nowhere else and is refused only where every piece
is, so it is of no account; a dot at the end can only be passed in a directory. So of two paths with the same
components, both written as files are, one leads where the other does. Where there are no links, a path
that never leads upwards leads to the place its names spell.
-/

namespace DeckPress.Disk

open Text DeckPress.Path

variable (d : Disk)

/-! ## One piece -/

/-- What a piece does in a walk. -/
inductive Move where
  | lead (l : Location)
  /-- A link: its target is walked from a place. -/
  | link (start : Location) (target : List String)
  | refused (e : IoError)

/-- What a piece does at a location. -/
def move (l : Location) (piece : String) : Move :=
  match d.entry? l with
  | some .directory =>
    if piece = "." then .lead l
    else if piece = ".." then .lead l.dropLast
    else if 255 < piece.utf8ByteSize then .refused .nameTooLong
    else
      match d.entry? (l ++ [piece]) with
      | none => .refused .notFound
      | some (.link target) => .link (if target.isAbsolute then [] else l) (walkPieces target)
      | some _ => .lead (l ++ [piece])
  | some _ => .refused .notDirectory
  | none => .refused .notFound

/-- How a walk goes on after a piece. -/
def goOn (follow : Location → List String → Except IoError Location) (rest : List String) :
    Move → Except IoError Location
  | .lead m => d.walkNames follow m rest
  | .link start target => follow start (target ++ rest)
  | .refused e => .error e

variable {follow : Location → List String → Except IoError Location}

theorem walkNames_cons (l : Location) (piece : String) (rest : List String) :
    d.walkNames follow l (piece :: rest) = d.goOn follow rest (d.move l piece) := by
  rw [walkNames]
  unfold move
  rcases d.entry? l with _ | (_ | bytes | target)
  · rfl
  · dsimp only
    split
    · rfl
    split
    · rfl
    split
    · rfl
    rcases d.entry? (l ++ [piece]) with _ | (_ | bytes | target) <;> rfl
  · rfl
  · rfl

/-- A dot stays where it is, or else no piece leads on. -/
theorem move_dot (l : Location) :
    (d.entry? l = some .directory ∧ d.move l "." = .lead l) ∨ ∃ e, ∀ piece, d.move l piece = .refused e := by
  unfold move
  rcases d.entry? l with _ | (_ | bytes | target)
  · exact .inr ⟨.notFound, fun _ => rfl⟩
  · exact .inl ⟨rfl, rfl⟩
  · exact .inr ⟨.notDirectory, fun _ => rfl⟩
  · exact .inr ⟨.notDirectory, fun _ => rfl⟩

/-- No place below this one is a link. -/
def LinklessBelow (top : Location) : Prop := ∀ l target, top <+: l → d.entry? l ≠ some (.link target)

/-- Where there are no links, a piece leads nowhere but down, unless it is two dots. -/
theorem move_linkless {top l : Location} (h : d.LinklessBelow top) (hl : top <+: l) {piece : String}
    (hup : piece ≠ "..") :
    (∃ e, d.move l piece = .refused e) ∨ d.move l piece = .lead (l ++ [piece].filter (· ≠ ".")) := by
  unfold move
  rcases d.entry? l with _ | (_ | bytes | target)
  · exact .inl ⟨_, rfl⟩
  · dsimp only
    by_cases hdot : piece = "."
    · subst hdot
      exact .inr (congrArg Move.lead (List.append_nil l).symm)
    · rw [if_neg hdot, if_neg hup, List.filter_cons_of_pos (by simpa using hdot)]
      split
      · exact .inl ⟨_, rfl⟩
      · cases hentry : d.entry? (l ++ [piece]) with
        | none => exact .inl ⟨_, rfl⟩
        | some e =>
          cases e with
          | directory => exact .inr rfl
          | file bytes => exact .inr rfl
          | link target => exact absurd hentry (h _ _ (hl.trans (List.prefix_append l [piece])))
  · exact .inl ⟨_, rfl⟩
  · exact .inl ⟨_, rfl⟩

/-! ## Dots -/

theorem walkNames_dot {piece : String} {rest : List String}
    (hfollow : ∀ l before, follow l (before ++ "." :: piece :: rest) = follow l (before ++ piece :: rest))
    (l : Location) (before : List String) :
    d.walkNames follow l (before ++ "." :: piece :: rest) =
      d.walkNames follow l (before ++ piece :: rest) := by
  -- up to the dot both walks take the same steps
  induction before generalizing l with
  | nil =>
    rw [List.nil_append, List.nil_append, walkNames_cons]
    rcases d.move_dot l with ⟨-, hstay⟩ | ⟨e, hrefused⟩
    · rw [hstay]
      rfl
    · rw [hrefused, walkNames_cons, hrefused]
      rfl
  | cons first before ih =>
    rw [List.cons_append, List.cons_append, walkNames_cons, walkNames_cons]
    cases d.move l first with
    | lead m => exact ih m
    | link start target =>
      show follow start _ = follow start _
      rw [← List.append_assoc, ← List.append_assoc, hfollow]
    | refused e => rfl

/-- A dot that is not the last piece is passed over. -/
theorem walk_dot (n : Nat) (l : Location) (before : List String) (piece : String) (rest : List String) :
    d.walk n l (before ++ "." :: piece :: rest) = d.walk n l (before ++ piece :: rest) := by
  induction n generalizing l before with
  | zero => exact d.walkNames_dot (fun _ _ => rfl) l before
  | succ n ih => exact d.walkNames_dot ih l before

theorem walkNames_last_dot
    (hfollow : ∀ l before m, follow l (before ++ ["."]) = .ok m → d.entry? m = some .directory)
    {l m : Location} {before : List String} (h : d.walkNames follow l (before ++ ["."]) = .ok m) :
    d.entry? m = some .directory := by
  induction before generalizing l with
  | nil =>
    rw [List.nil_append, walkNames_cons] at h
    rcases d.move_dot l with ⟨hdirectory, hstay⟩ | ⟨e, hrefused⟩
    · rw [hstay] at h
      cases h
      exact hdirectory
    · rw [hrefused] at h
      cases h
  | cons first before ih =>
    rw [List.cons_append, walkNames_cons] at h
    cases hmove : d.move l first with
    | lead next =>
      rw [hmove] at h
      exact ih h
    | link start target =>
      -- the dot is still the last piece behind the target of the link
      rw [hmove] at h
      refine hfollow start (target ++ before) m ?_
      rw [List.append_assoc]
      exact h
    | refused e =>
      rw [hmove] at h
      cases h

/-- Behind a dot at the end there is a directory. -/
theorem walk_last_dot {n : Nat} {l m : Location} {before : List String}
    (h : d.walk n l (before ++ ["."]) = .ok m) : d.entry? m = some .directory := by
  induction n generalizing l m before with
  | zero => exact d.walkNames_last_dot (fun _ _ _ hnever => by cases hnever) h
  | succ n ih => exact d.walkNames_last_dot (fun _ _ _ => ih) h

/-! ## Components -/

/-- The piece that a component is written as. -/
def spelling : PathComponent → String
  | .root => "/"
  | .current => "."
  | .parent => ".."
  | .name s => s

/-- The place that components spell, if none of them leads elsewhere. -/
def spelled (cs : List PathComponent) : Location := cs.map spelling

theorem component?_cases (piece : List Char) :
    piece = [] ∨ piece = ['.'] ∨ ∃ c, component? piece = some c ∧ spelling c = String.ofList piece ∧
      (c = .parent ↔ piece = ['.', '.']) := by
  by_cases hempty : piece = []
  · exact .inl hempty
  by_cases hdot : piece = ['.']
  · exact .inr (.inl hdot)
  refine .inr (.inr ?_)
  unfold component?
  rw [if_neg (by simp [hempty, hdot])]
  split
  · rename_i hup
    exact ⟨.parent, rfl, by rw [hup]; rfl, fun _ => hup, fun _ => rfl⟩
  · rename_i hup
    exact ⟨_, rfl, rfl, nofun, fun h => absurd h hup⟩

/-- The pieces that are not empty. -/
def nonempty (pieces : List (List Char)) : List String := (pieces.filter (!·.isEmpty)).map String.ofList

theorem nonempty_cons {piece : List Char} (h : piece ≠ []) (pieces : List (List Char)) :
    nonempty (piece :: pieces) = String.ofList piece :: nonempty pieces := by
  unfold nonempty
  rw [List.filter_cons_of_pos (by simpa using h), List.map_cons]

theorem nonempty_ne_nil {pieces : List (List Char)} (h : (pieces.getLast?.bind component?).isSome) :
    nonempty pieces ≠ [] := by
  cases hlast : pieces.getLast? with
  | none => rw [hlast] at h; cases h
  | some piece =>
    have hpiece : piece ≠ [] := by
      rintro rfl
      rw [hlast] at h
      cases h
    obtain ⟨before, rfl⟩ := List.getLast?_eq_some_iff.mp hlast
    unfold nonempty
    simp [hpiece]

/-- Pieces that end in a component are walked like the components alone. -/
theorem walk_nonempty {pieces : List (List Char)} (h : (pieces.getLast?.bind component?).isSome) (n : Nat)
    (l : Location) (before : List String) :
    d.walk n l (before ++ nonempty pieces) = d.walk n l (before ++ spelled (pieces.filterMap component?)) := by
  induction pieces generalizing before with
  | nil => cases h
  | cons piece pieces ih =>
    -- all but the last piece have the last one behind them
    have hrest : pieces ≠ [] → (pieces.getLast?.bind component?).isSome := by
      intro hsome
      rwa [List.getLast?_cons, List.getLast?_eq_some_getLast hsome, Option.getD_some,
        ← List.getLast?_eq_some_getLast hsome] at h
    rcases component?_cases piece with rfl | rfl | ⟨c, hc, hspelling, -⟩
    · have hsome : pieces ≠ [] := by rintro rfl; cases h
      exact ih (hrest hsome) before
    · -- the dot has a piece behind it, and is passed over
      have hsome : pieces ≠ [] := by rintro rfl; cases h
      obtain ⟨next, others, hnext⟩ := List.exists_cons_of_ne_nil (nonempty_ne_nil (hrest hsome))
      have hih := ih (hrest hsome) before
      rw [hnext] at hih
      rw [nonempty_cons (List.cons_ne_nil _ _), hnext]
      exact (d.walk_dot n l before next others).trans hih
    · have hpiece : piece ≠ [] := by rintro rfl; cases hc
      rw [nonempty_cons hpiece, List.filterMap_cons_some hc, spelled, List.map_cons, ← hspelling]
      by_cases hsome : pieces = []
      · rw [hsome]
        rfl
      · have hih := ih (hrest hsome) (before ++ [spelling c])
        rw [List.append_assoc, List.append_assoc] at hih
        exact hih

/-! ## Files -/

theorem exists_last_piece {s : List Char} (h : '/' ∈ s) : ∃ b w, s = b ++ '/' :: w ∧ '/' ∉ w := by
  obtain ⟨w, b, hcut, hw⟩ := List.eq_append_cons_of_mem (List.mem_reverse.mpr h)
  refine ⟨b.reverse, w.reverse, ?_, fun hmem => hw (List.mem_reverse.mp hmem)⟩
  rw [List.reverse_eq_iff, List.reverse_append, List.reverse_cons, List.append_assoc] at hcut
  exact hcut

theorem getLast?_ne_slash {w : List Char} (hsome : w ≠ []) (hw : '/' ∉ w) (b : List Char) :
    (b ++ '/' :: w).getLast? ≠ some '/' := by
  rw [List.getLast?_append, List.getLast?_cons_of_ne_nil hsome, List.getLast?_eq_some_getLast hsome,
    Option.some_or]
  intro hlast
  have hmem := List.getLast_mem hsome
  rw [Option.some.inj hlast] at hmem
  exact hw hmem

/-- A slash or a dot at the end of a path asks for a directory. -/
theorem walkPieces_cases {p : Path} (hp : p.text.isEmpty = false) :
    (¬ EndsInComponent p.chars ∧ ∃ before, walkPieces p = before ++ ["."]) ∨
      (EndsInComponent p.chars ∧ walkPieces p = nonempty (splitOn (· = '/') p.chars)) := by
  obtain ⟨pieces, w, hsplit, hslash⟩ : ∃ pieces w, splitOn (· = '/') p.chars = pieces ++ [w] ∧
      (p.chars.getLast? = some '/' ↔ w = []) := by
    by_cases hmem : '/' ∈ p.chars
    · obtain ⟨b, w, hcut, hw⟩ := exists_last_piece hmem
      refine ⟨splitOn (· = '/') b, w, ?_, ?_, ?_⟩
      · rw [hcut, splitOn_append_cons (by decide), splitOn_char_of_not_mem hw]
      · intro hlast
        by_contra hsome
        exact getLast?_ne_slash hsome hw b (hcut ▸ hlast)
      · rintro rfl
        rw [hcut, List.getLast?_append]
        rfl
    · refine ⟨[], p.chars, splitOn_char_of_not_mem hmem, fun hlast => absurd (List.mem_of_getLast? hlast) hmem,
        fun hnil => ?_⟩
      rw [String.toList_eq_nil_iff.mp hnil] at hp
      cases hp
  have hends : EndsInComponent p.chars ↔ (component? w).isSome := by
    unfold EndsInComponent
    rw [hsplit, List.getLast?_append, List.getLast?_singleton, Option.some_or, Option.bind_some]
  unfold walkPieces
  rw [hends, hsplit]
  -- the last piece is empty behind a slash at the end, or a dot, or a component
  rcases component?_cases w with rfl | rfl | ⟨c, hc, -⟩
  · refine .inl ⟨nofun, nonempty (pieces ++ [[]]), ?_⟩
    rw [if_pos (hslash.mpr rfl)]
    rfl
  · refine .inl ⟨nofun, nonempty pieces, ?_⟩
    rw [if_neg (mt hslash.mp (List.cons_ne_nil _ _)), List.append_nil, List.filter_append, List.map_append]
    rfl
  · have hsome : w ≠ [] := by rintro rfl; cases hc
    rw [if_neg (mt hslash.mp hsome), List.append_nil, hc]
    exact .inr ⟨rfl, rfl⟩

theorem isFile_iff {p : Path} :
    d.isFile p ↔ ∃ l bytes, d.locate p = .ok l ∧ d.entry? l = some (.file bytes) := by
  unfold isFile find?
  cases hl : d.locate p with
  | error e => simp
  | ok l =>
    cases he : d.entry? l with
    | none => simp [he]
    | some e => cases e <;> simp [he]

theorem noZero_of_checkPath {p : Path} (h : checkPath p = .ok ()) : p.chars.contains '\x00' = false := by
  unfold checkPath at h
  split at h
  · cases h
  · rename_i hzero
    exact Bool.eq_false_iff.mpr hzero

/-- A path that can be given to the operating system leads where its pieces do, if something is there. -/
theorem locate_eq_ok {p : Path} {l : Location} :
    d.locate p = .ok l ↔ checkPath p = .ok () ∧ p.text.isEmpty = false ∧
      d.walk 40 (d.walkStart p) (walkPieces p) = .ok l ∧ (d.entry? l).isSome := by
  unfold locate
  cases hcheck : checkPath p with
  | error e => exact ⟨nofun, nofun⟩
  | ok u =>
    show d.resolve p = .ok l ↔ _
    unfold resolve
    rw [noZero_of_checkPath hcheck]
    cases p.text.isEmpty with
    | true => exact ⟨nofun, nofun⟩
    | false =>
      cases hwalk : d.walk 40 (d.walkStart p) (walkPieces p) with
      | error e => exact ⟨nofun, nofun⟩
      | ok m =>
        dsimp only [bind, Except.bind]
        constructor
        · intro h
          cases hentry : d.entry? m with
          | none => rw [hentry] at h; cases h
          | some e =>
            rw [hentry] at h
            cases h
            exact ⟨rfl, rfl, rfl, by rw [hentry]; rfl⟩
        · rintro ⟨-, -, hml, hentry⟩
          cases hml
          obtain ⟨e, he⟩ := Option.isSome_iff_exists.mp hentry
          rw [he]
          rfl

/-- A file is not asked for as a directory is. -/
theorem endsInComponent_of_isFile {p : Path} (h : d.isFile p) : EndsInComponent p.chars := by
  obtain ⟨l, bytes, hl, hentry⟩ := d.isFile_iff.mp h
  obtain ⟨-, hsome, hwalk, -⟩ := d.locate_eq_ok.mp hl
  rcases walkPieces_cases hsome with ⟨-, before, hdot⟩ | ⟨hends, -⟩
  · rw [hdot] at hwalk
    rw [d.walk_last_dot hwalk] at hentry
    cases hentry
  · exact hends

theorem text_of_isAbsolute {p : Path} (h : p.isAbsolute) : p.text.isEmpty = false := by
  obtain ⟨t, ht⟩ := isAbsolute_iff.mp h
  rw [Bool.eq_false_iff]
  intro hempty
  rw [chars, String.isEmpty_iff.mp hempty] at ht
  cases ht

/-- A path that is written as one of a file leads where its components do. -/
theorem locate_iff_spelled {p : Path} (hp : p.isAbsolute) (hends : EndsInComponent p.chars)
    (hcheck : checkPath p = .ok ()) (l : Location) :
    d.locate p = .ok l ↔
      d.walk 40 [] (spelled (names p.chars)) = .ok l ∧ (d.entry? l).isSome := by
  have hwalk : d.walk 40 (d.walkStart p) (walkPieces p) = d.walk 40 [] (spelled (names p.chars)) := by
    rw [walkStart, if_pos hp]
    rcases walkPieces_cases (text_of_isAbsolute hp) with ⟨hnot, -⟩ | ⟨-, hpieces⟩
    · exact absurd hends hnot
    · rw [hpieces]
      exact d.walk_nonempty hends 40 [] []
  rw [locate_eq_ok, hwalk]
  exact ⟨fun h => h.2.2, fun h => ⟨hcheck, text_of_isAbsolute hp, h⟩⟩

/-- A path with the components of a file leads to that file, if it is written as one of a file. -/
theorem locate_eq_of_components {p q : Path} (hp : p.isAbsolute) (hq : q.isAbsolute)
    (hcomponents : q.components = p.components) (hfile : d.isFile p) (hends : EndsInComponent q.chars)
    (hcheck : checkPath q = .ok ()) : d.locate q = d.locate p := by
  obtain ⟨l, bytes, hl, -⟩ := d.isFile_iff.mp hfile
  have hnames : names q.chars = names p.chars := by
    rw [components_of_isAbsolute hp, components_of_isAbsolute hq] at hcomponents
    exact (List.cons.inj hcomponents).2
  have hspelled := (d.locate_iff_spelled hp (d.endsInComponent_of_isFile hfile)
    (d.locate_eq_ok.mp hl).1 l).mp hl
  rw [hl, d.locate_iff_spelled hq hends hcheck, hnames]
  exact hspelled

/-! ## Paths that lead to one place -/

variable {d} {p q : Path}

theorem resolve_of_locate {l : Location} (h : d.locate p = .ok l) : d.resolve p = .ok l := by
  unfold locate at h
  cases hcheck : checkPath p with
  | error e => rw [hcheck] at h; cases h
  | ok u => rwa [hcheck] at h

theorem isFile_eq (h : d.locate p = d.locate q) : d.isFile p = d.isFile q := by
  unfold isFile find?
  rw [h]

theorem readBytes_eq (h : d.locate p = d.locate q) : d.readBytes p = d.readBytes q := by
  unfold readBytes
  rw [h]

theorem readText_eq (h : d.locate p = d.locate q) : d.readText p = d.readText q := by
  unfold readText
  rw [readBytes_eq h]

/-! ## Disks without links -/

/-- No place is a link. -/
def Linkless (d : Disk) : Prop := ∀ l target, d.entry? l ≠ some (.link target)

theorem walkNames_linkless {top l m : Location} (h : d.LinklessBelow top) (hl : top <+: l)
    {pieces : List String} (hup : ".." ∉ pieces) (hm : d.walkNames follow l pieces = .ok m) :
    m = l ++ pieces.filter (· ≠ ".") := by
  induction pieces generalizing l with
  | nil =>
    cases hm
    exact (List.append_nil _).symm
  | cons piece pieces ih =>
    have hpiece : piece ≠ ".." := fun heq => hup (heq ▸ List.mem_cons_self)
    have hpieces : ".." ∉ pieces := fun hmem => hup (List.mem_cons_of_mem piece hmem)
    rw [walkNames_cons] at hm
    rcases d.move_linkless h hl hpiece with ⟨e, hrefused⟩ | hto
    · rw [hrefused] at hm
      cases hm
    · rw [hto] at hm
      rw [ih (hl.trans (List.prefix_append l _)) hpieces hm, List.append_assoc, ← List.filter_append,
        List.singleton_append]

theorem walk_linkless {top l m : Location} (h : d.LinklessBelow top) (hl : top <+: l) {n : Nat}
    {pieces : List String} (hup : ".." ∉ pieces) (hm : d.walk n l pieces = .ok m) :
    m = l ++ pieces.filter (· ≠ ".") := by
  cases n with
  | zero => exact walkNames_linkless h hl hup hm
  | succ n => exact walkNames_linkless h hl hup hm

theorem eq_toList_of_ofList {piece : List Char} {s : String} (h : String.ofList piece = s) :
    piece = s.toList := by
  rw [← h, String.toList_ofList]

theorem filter_nonempty (pieces : List (List Char)) :
    (nonempty pieces).filter (· ≠ ".") = spelled (pieces.filterMap component?) := by
  induction pieces with
  | nil => rfl
  | cons piece pieces ih =>
    rcases component?_cases piece with rfl | rfl | ⟨c, hc, hspelling, -⟩
    · exact ih
    · rw [nonempty_cons (List.cons_ne_nil _ _), List.filter_cons_of_neg (by decide), ih]
      rfl
    · have hpiece : piece ≠ [] := by rintro rfl; cases hc
      have hdot : String.ofList piece ≠ "." := by
        intro hdot
        rw [eq_toList_of_ofList hdot] at hc
        cases hc
      rw [nonempty_cons hpiece, List.filter_cons_of_pos (by simpa using hdot),
        List.filterMap_cons_some hc, ih, ← hspelling]
      rfl

theorem filter_walkPieces (p : Path) : (walkPieces p).filter (· ≠ ".") = spelled (names p.chars) := by
  unfold walkPieces
  rw [List.filter_append]
  show (nonempty _).filter _ ++ _ = _
  rw [filter_nonempty]
  split
  · exact List.append_nil _
  · exact List.append_nil _

/-- Two dots are walked only if a path leads upwards. -/
theorem up_not_mem_walkPieces {p : Path} (h : PathComponent.parent ∉ names p.chars) :
    ".." ∉ walkPieces p := by
  intro hmem
  have hpieces : ".." ∈ nonempty (splitOn (· = '/') p.chars) := by
    rcases List.mem_append.mp hmem with hmem | hmem
    · exact hmem
    · split at hmem
      · exact absurd (List.mem_singleton.mp hmem) (by decide)
      · cases hmem
  obtain ⟨piece, hpiece, htext⟩ := List.mem_map.mp hpieces
  refine h (List.mem_filterMap.mpr ⟨piece, (List.mem_filter.mp hpiece).1, ?_⟩)
  rw [eq_toList_of_ofList htext]
  rfl

/-- Without links, a path that never leads upwards leads to the place that its names spell. -/
theorem locate_linkless (h : Linkless d) (hp : p.isAbsolute)
    (hup : PathComponent.parent ∉ names p.chars) {l : Location} (hl : d.locate p = .ok l) :
    l = spelled (names p.chars) := by
  obtain ⟨-, -, hwalk, -⟩ := d.locate_eq_ok.mp hl
  rw [walkStart, if_pos hp] at hwalk
  have hbelow : d.LinklessBelow [] := fun l target _ => h l target
  rw [walk_linkless hbelow List.nil_prefix (up_not_mem_walkPieces hup) hwalk, List.nil_append,
    filter_walkPieces]

end DeckPress.Disk
