import Mathlib.Tactic.ByContra
import DeckPress.Disk.Path
import DeckPress.Proofs.Text.Lines

/-!
# Components of paths

A path is kept as it was written, but it is its components that count. They are the names between the
slashes, and so they are put together when paths are joined, and taken apart when a beginning is taken off:
slashes and dots in between are of no account.
-/

namespace DeckPress.Path

open Text

/-- The components that stand between the slashes of a text. -/
def names (s : List Char) : List PathComponent := (splitOn (· = '/') s).filterMap component?

@[simp] theorem names_nil : names [] = [] := rfl

theorem names_append_slash (a b : List Char) : names (a ++ '/' :: b) = names a ++ names b := by
  unfold names
  rw [splitOn_append_cons (by decide), List.filterMap_append]

@[simp] theorem names_slash (s : List Char) : names ('/' :: s) = names s :=
  names_append_slash [] s

@[simp] theorem names_dot_slash (s : List Char) : names ('.' :: '/' :: s) = names s :=
  names_append_slash ['.'] s

theorem names_dropSlashes (s : List Char) : names (s.dropWhile (· = '/')) = names s := by
  induction s with
  | nil => rfl
  | cons c s ih =>
    rw [List.dropWhile_cons]
    split
    · rename_i hc
      rw [of_decide_eq_true hc, names_slash, ih]
    · rfl

theorem head?_dropSlashes (s : List Char) : (s.dropWhile (· = '/')).head? ≠ some '/' := by
  intro h
  have hnot := List.head?_dropWhile_not (· = '/') s
  rw [h] at hnot
  cases hnot

theorem components_of_isAbsolute {p : Path} (h : p.isAbsolute) : p.components = .root :: names p.chars := by
  unfold components
  rw [if_pos h]
  rfl

theorem isAbsolute_iff {p : Path} : p.isAbsolute ↔ ∃ s, p.chars = '/' :: s := by
  unfold isAbsolute
  rw [decide_eq_true_eq, List.head?_eq_some_iff]

theorem eq_of_text {p q : Path} (h : p.text = q.text) : p = q := by
  cases p
  cases q
  exact congrArg Path.mk h

theorem beq_iff {p q : Path} : (p == q) = true ↔ p.components = q.components := by
  show (p.components == q.components) = true ↔ _
  exact beq_iff_eq

/-! ## Joining -/

/-- A relative text is written behind a path, with a slash between them unless the path is empty. -/
theorem chars_join_cases (base : Path) {s : String} (hs : s.toList.head? ≠ some '/') :
    (base.text.isEmpty ∧ (base / s : Path) = ⟨s⟩) ∨
      ∃ b, (base / s).chars = b ++ '/' :: s.toList ∧ (base.chars = b ∨ base.chars = b ++ ['/']) ∧
        base.chars ≠ [] := by
  show (_ ∧ join base s = _) ∨ ∃ b, (join base s).chars = _ ∧ _
  unfold join
  cases hempty : base.text.isEmpty with
  | true => exact .inl ⟨rfl, by rw [if_pos (by simp)]⟩
  | false =>
    have hsome : base.chars ≠ [] := by
      intro hnil
      rw [String.toList_eq_nil_iff.mp hnil] at hempty
      cases hempty
    rw [if_neg (by simp [hs])]
    right
    split
    · rename_i hlast
      obtain ⟨b, hb⟩ := List.getLast?_eq_some_iff.mp hlast
      refine ⟨b, ?_, .inr hb, hsome⟩
      show (base.text ++ s).toList = _
      rw [String.toList_append]
      show base.chars ++ s.toList = _
      rw [hb, List.append_assoc, List.singleton_append]
    · refine ⟨base.chars, ?_, .inl rfl, hsome⟩
      show (base.text ++ "/" ++ s).toList = _
      rw [String.toList_append, String.toList_append, List.append_assoc]
      rfl

theorem chars_join {base : Path} (hbase : base.isAbsolute) {s : String} (hs : s.toList.head? ≠ some '/') :
    ∃ b, (base / s).chars = b ++ '/' :: s.toList ∧ names b = names base.chars ∧
      (b ++ ['/']).head? = some '/' := by
  obtain ⟨t, ht⟩ := isAbsolute_iff.mp hbase
  rcases chars_join_cases base hs with ⟨hempty, -⟩ | ⟨b, hjoin, hb, -⟩
  · rw [chars, String.isEmpty_iff.mp hempty] at ht
    cases ht
  · refine ⟨b, hjoin, ?_⟩
    rcases hb with hb | hb
    · rw [← hb, ht]
      exact ⟨rfl, rfl⟩
    · rw [← hb, hb, names_append_slash, ← hb, ht]
      exact ⟨(List.append_nil _).symm, rfl⟩

theorem isAbsolute_join {base : Path} (hbase : base.isAbsolute) {s : String}
    (hs : s.toList.head? ≠ some '/') : (base / s).isAbsolute := by
  obtain ⟨b, hjoin, -, hb⟩ := chars_join hbase hs
  unfold isAbsolute
  rw [hjoin, decide_eq_true_eq]
  cases b with
  | nil => rfl
  | cons c b => exact hb

/-- The components of a joined path are those of its parts. -/
theorem components_join {base : Path} (hbase : base.isAbsolute) {s : String}
    (hs : s.toList.head? ≠ some '/') : (base / s).components = base.components ++ names s.toList := by
  obtain ⟨b, hjoin, hb, -⟩ := chars_join hbase hs
  rw [components_of_isAbsolute (isAbsolute_join hbase hs), components_of_isAbsolute hbase, hjoin,
    names_append_slash, hb, List.cons_append]

/-- A joined path is absolute if the path is that the text is written behind. -/
theorem isAbsolute_join_eq (base : Path) {s : String} (hs : s.toList.head? ≠ some '/') :
    (base / s).isAbsolute = base.isAbsolute := by
  unfold isAbsolute
  rcases chars_join_cases base hs with ⟨hempty, hjoin⟩ | ⟨b, hjoin, hb, hsome⟩
  · rw [hjoin, chars, chars, String.isEmpty_iff.mp hempty, decide_eq_false hs]
    rfl
  · have hhead : base.chars.head? = (b ++ ['/']).head? := by
      rcases hb with hb | hb
      · rw [hb]
        obtain ⟨c, t, rfl⟩ := List.exists_cons_of_ne_nil (hb ▸ hsome)
        rfl
      · rw [hb]
    rw [hjoin, hhead]
    cases b with
    | nil => rfl
    | cons c b => rfl

theorem components_relative {p : Path} (h : p.isAbsolute = false) {piece : List Char}
    {pieces : List (List Char)} (hsplit : splitOn (· = '/') p.chars = piece :: pieces) :
    p.components = (if piece = ['.'] then [.current] else (component? piece).toList) ++
      pieces.filterMap component? := by
  unfold components
  rw [h, hsplit]
  by_cases hdot : piece = ['.']
  · subst hdot
    rfl
  · rw [if_neg Bool.false_ne_true, if_neg hdot]
    split
    · rename_i heq
      exact absurd (List.cons.inj heq).1 hdot
    · rw [List.filterMap_cons]
      cases component? piece <;> rfl

theorem chars_eq_nil {p : Path} : p.chars = [] ↔ p.text.isEmpty := by
  rw [chars, String.toList_eq_nil_iff, String.isEmpty_iff]

theorem components_of_empty {p : Path} (h : p.chars = []) : p.components = [] := by
  have habs : p.isAbsolute = false := by rw [isAbsolute, h]; rfl
  have hsplit : splitOn (· = '/') p.chars = [[]] := by rw [h]; rfl
  rw [components_relative habs hsplit]
  rfl

/-- The components of a joined path are those of its parts, if something stands in front. -/
theorem components_join_some {base : Path} (hbase : base.chars ≠ []) {s : String} (hs : s.toList.head? ≠ some '/') :
    (base / s).components = base.components ++ names s.toList := by
  cases habs : base.isAbsolute with
  | true => exact components_join habs hs
  | false =>
    rcases chars_join_cases base hs with ⟨hempty, -⟩ | ⟨b, hjoin, hb, -⟩
    · exact absurd (chars_eq_nil.mpr hempty) hbase
    · obtain ⟨piece, pieces, hcut⟩ := List.exists_cons_of_ne_nil (splitOn_ne_nil (· = '/') b)
      have hjoined : splitOn (· = '/') (base / s).chars =
          piece :: (pieces ++ splitOn (· = '/') s.toList) := by
        rw [hjoin, splitOn_append_cons (by decide), hcut, List.cons_append]
      have hbase : ∃ more, splitOn (· = '/') base.chars = piece :: (pieces ++ more) ∧
          more.filterMap component? = [] := by
        rcases hb with hb | hb
        · exact ⟨[], by rw [hb, hcut, List.append_nil], rfl⟩
        · exact ⟨[[]], by rw [hb, splitOn_append_cons (by decide), hcut]; rfl, rfl⟩
      obtain ⟨more, hbase, hmore⟩ := hbase
      rw [components_relative ((isAbsolute_join_eq base hs).trans habs) hjoined,
        components_relative habs hbase, List.filterMap_append, List.filterMap_append, hmore,
        List.append_nil, List.append_assoc]
      rfl

/-- The components of a joined path are those of its parts, if the second does not start with a dot. -/
theorem components_join_names (base : Path) {s : String} (hs : s.toList.head? ≠ some '/')
    (hbare : (Path.mk s).components = names s.toList) :
    (base / s).components = base.components ++ names s.toList := by
  by_cases hbase : base.chars = []
  · rcases chars_join_cases base hs with ⟨-, hjoin⟩ | ⟨-, -, -, hsome⟩
    · rw [hjoin, hbare, components_of_empty hbase, List.nil_append]
    · exact absurd hbase hsome
  · exact components_join_some hbase hs

/-! ## Taking a beginning off -/

theorem names_dropHead (s : List Char) : names (dropHead s) = names s := by
  induction s using dropHead.induct with
  | case1 rest ih => rw [dropHead, ih, names_slash]
  | case2 rest ih => rw [dropHead, ih, names_dot_slash]
  | case3 => rfl
  | case4 s hslash hdots hdot => rw [dropHead] <;> assumption

theorem names_piece {w : List Char} (h : '/' ∉ w) : names w = (component? w).toList := by
  unfold names
  rw [splitOn_char_of_not_mem h, List.filterMap_cons]
  cases component? w <;> rfl

theorem component?_isSome {w : List Char} (h : w ≠ []) (hdot : w ≠ ['.']) : (component? w).isSome := by
  unfold component?
  rw [if_neg (by simp [h, hdot])]
  split <;> rfl

/-- When slashes and dots are dropped, a component stands in front, or nothing is left. -/
theorem dropHead_cases (s : List Char) :
    dropHead s = [] ∨ ∃ w t, dropHead s = w ++ t ∧ '/' ∉ w ∧ (component? w).isSome ∧
      (t = [] ∨ ∃ rest, t = '/' :: rest) := by
  induction s using dropHead.induct with
  | case1 rest ih => rwa [dropHead]
  | case2 rest ih => rwa [dropHead]
  | case3 => exact .inl rfl
  | case4 s hslash hdots hdot =>
    have hself : dropHead s = s := by rw [dropHead] <;> assumption
    rw [hself]
    by_cases hmem : '/' ∈ s
    · obtain ⟨w, rest, rfl, hw⟩ := List.eq_append_cons_of_mem hmem
      refine .inr ⟨w, '/' :: rest, rfl, hw, component?_isSome ?_ ?_, .inr ⟨rest, rfl⟩⟩
      · rintro rfl
        exact hslash rest rfl
      · rintro rfl
        exact hdots rest rfl
    · by_cases hempty : s = []
      · exact .inl hempty
      · exact .inr ⟨s, [], (List.append_nil s).symm, hmem, component?_isSome hempty hdot, .inl rfl⟩

theorem dropPiece_append {w : List Char} (h : '/' ∉ w) (t : List Char) :
    dropPiece (w ++ t) = dropPiece t := by
  unfold dropPiece
  rw [List.dropWhile_append_of_pos]
  intro c hc
  rw [decide_eq_true_eq]
  rintro rfl
  exact h hc

theorem names_dropPiece (s : List Char) : names (dropPiece (dropHead s)) = (names s).tail := by
  rw [← names_dropHead s]
  -- slashes and dots in front are no components, so the piece that is dropped is the first one
  rcases dropHead_cases s with hnil | ⟨w, t, hcut, hw, hsome, ht⟩
  · rw [hnil]
    rfl
  · obtain ⟨c, hc⟩ := Option.isSome_iff_exists.mp hsome
    rw [hcut, dropPiece_append hw]
    rcases ht with rfl | ⟨rest, rfl⟩
    · rw [List.append_nil, names_piece hw, hc]
      rfl
    · rw [names_append_slash, names_piece hw, hc]
      rfl

theorem names_dropComponents (n : Nat) (s : List Char) : names (dropComponents n s) = (names s).drop n := by
  induction n generalizing s with
  | zero => rfl
  | succ n ih => rw [dropComponents, ih, names_dropPiece, List.drop_tail]

theorem names_dropTail (s : List Char) : names (dropTail s).reverse = names s.reverse := by
  induction s using dropTail.induct with
  | case1 rest hempty => rw [dropTail, if_pos hempty, List.isEmpty_iff.mp hempty]
  | case2 rest hempty ih =>
    rw [dropTail, if_neg hempty, ih, List.reverse_cons, names_append_slash, names_nil, List.append_nil]
  | case3 rest hempty =>
    rw [dropTail, if_pos hempty, List.isEmpty_iff.mp hempty]
    rfl
  | case4 rest hempty ih =>
    rw [dropTail, if_neg hempty, ih, List.reverse_cons, List.reverse_cons, List.append_assoc,
      List.singleton_append, names_append_slash]
    exact (List.append_nil _).symm
  | case5 s hslash hdot => rw [dropTail] <;> assumption

theorem eq_append_of_stripComponents? {bs cs rest : List PathComponent}
    (h : stripComponents? bs cs = some rest) : cs = bs ++ rest := by
  induction bs generalizing cs with
  | nil =>
    cases h
    rfl
  | cons b bs ih =>
    cases cs with
    | nil => cases h
    | cons c cs =>
      rw [stripComponents?] at h
      split at h
      · rename_i hbc
        rw [eq_of_beq hbc, ih h, List.cons_append]
      · cases h

theorem component?_ne_root (piece : List Char) : component? piece ≠ some .root := by
  unfold component?
  split
  · exact nofun
  · split <;> exact nofun

theorem isAbsolute_of_components {p : Path} {cs : List PathComponent} (h : p.components = .root :: cs) :
    p.isAbsolute := by
  by_contra habs
  have hroot : PathComponent.root ∈ p.components := by rw [h]; exact List.mem_cons_self
  -- no piece of a relative path means the root
  have hpiece : ∀ pieces : List (List Char), PathComponent.root ∉ pieces.filterMap component? := by
    intro pieces hmem
    obtain ⟨piece, -, hpiece⟩ := List.mem_filterMap.mp hmem
    exact component?_ne_root piece hpiece
  unfold components at hroot
  rw [if_neg habs] at hroot
  split at hroot
  · rcases List.mem_cons.mp hroot with hroot | hroot
    · cases hroot
    · exact hpiece _ hroot
  · exact hpiece _ hroot

/-- A path that is relative and not empty has a first component. -/
theorem exists_components {p : Path} (habs : p.isAbsolute = false) (hsome : p.chars ≠ []) :
    ∃ first pieces, p.components = first :: List.filterMap component? pieces ∧ first ≠ .root := by
  obtain ⟨c, s, hchars⟩ := List.exists_cons_of_ne_nil hsome
  have hc : ¬ c = '/' := by
    rintro rfl
    rw [isAbsolute_iff.mpr ⟨s, hchars⟩] at habs
    cases habs
  obtain ⟨w, ws, hcut⟩ := List.exists_cons_of_ne_nil (splitOn_ne_nil (· = '/') s)
  have hsplit : splitOn (· = '/') p.chars = (c :: w) :: ws := by
    rw [hchars, splitOn, if_neg (by simpa using hc), hcut]
  rw [components_relative habs hsplit]
  by_cases hdot : c :: w = ['.']
  · rw [if_pos hdot]
    exact ⟨.current, ws, rfl, by decide⟩
  · obtain ⟨first, hfirst⟩ := Option.isSome_iff_exists.mp (component?_isSome (List.cons_ne_nil c w) hdot)
    rw [if_neg hdot, hfirst]
    exact ⟨first, ws, rfl, fun hroot => component?_ne_root (c :: w) (hroot ▸ hfirst)⟩

/-- Only the root and the empty path have no parent. -/
theorem cases_of_parent?_eq_none {p : Path} (h : p.parent? = none) :
    (p.isAbsolute ∧ names p.chars = []) ∨ p.chars = [] := by
  have hnames : ∀ pieces : List (List Char), .root ∉ pieces.filterMap component? := by
    intro pieces hmem
    obtain ⟨piece, -, hpiece⟩ := List.mem_filterMap.mp hmem
    exact component?_ne_root piece hpiece
  have hlast : ∀ cs c, p.components = cs ++ [c] → c = .root := by
    intro cs c hc
    unfold parent? at h
    rw [hc, List.getLast?_append, List.getLast?_singleton, Option.some_or] at h
    cases c with
    | root => rfl
    | current | parent | name s => cases h
  cases habs : p.isAbsolute with
  | true =>
    refine .inl ⟨rfl, ?_⟩
    rcases (names p.chars).eq_nil_or_concat with hnone | ⟨cs, c, hc⟩
    · exact hnone
    · have hroot := hlast (.root :: cs) c (by rw [components_of_isAbsolute habs, hc]; simp)
      refine absurd ?_ (hnames (splitOn (· = '/') p.chars))
      show .root ∈ names p.chars
      rw [hc, hroot]
      simp
  | false =>
    refine .inr ?_
    by_contra hsome
    obtain ⟨first, pieces, hfirst, hname⟩ := exists_components habs hsome
    rcases p.components.eq_nil_or_concat with hnone | ⟨cs, last, hcs⟩
    · rw [hfirst] at hnone
      cases hnone
    · have hroot : PathComponent.root ∈ p.components := by
        rw [hcs, hlast cs last (hcs.trans List.concat_eq_append)]
        simp
      rw [hfirst, List.mem_cons] at hroot
      exact absurd hroot (not_or.mpr ⟨hname.symm, hnames pieces⟩)

/-- Only the empty path has no components. -/
theorem components_eq_nil {p : Path} : p.components = [] ↔ p.chars = [] := by
  constructor
  · intro h
    by_contra hsome
    cases habs : p.isAbsolute with
    | true =>
      rw [components_of_isAbsolute habs] at h
      cases h
    | false =>
      obtain ⟨first, pieces, hfirst, -⟩ := exists_components habs hsome
      rw [hfirst] at h
      cases h
  · exact components_of_empty

/-- Paths that are equal stay so with the same text behind them. -/
theorem beq_join {p q : Path} (h : p == q) {s : String} (hs : s.toList.head? ≠ some '/') :
    (p / s : Path) == (q / s : Path) := by
  rw [beq_iff] at h ⊢
  by_cases hp : p.chars = []
  · have hq : q.chars = [] := components_eq_nil.mp (h ▸ components_eq_nil.mpr hp)
    rw [eq_of_text (p := p) (q := q) (String.toList_inj.mp (hp.trans hq.symm))]
  · have hq : q.chars ≠ [] := fun hq => hp (components_eq_nil.mp (h.trans (components_eq_nil.mpr hq)))
    rw [components_join_some hp hs, components_join_some hq hs, h]

/-- What is left of a path behind an absolute one, before it is tidied at its end. -/
theorem stripPrefix?_eq {p base rest : Path} (hbase : base.isAbsolute)
    (h : p.stripPrefix? base = some rest) :
    p.isAbsolute ∧ p.components = base.components ++ names rest.chars ∧
      rest.chars = (dropTail (dropHead (dropComponents (names base.chars).length
        (p.chars.drop 1))).reverse).reverse := by
  unfold stripPrefix? at h
  cases hstrip : stripComponents? base.components p.components with
  | none => rw [hstrip] at h; cases h
  | some left =>
    have hcut := eq_append_of_stripComponents? hstrip
    have habs : p.isAbsolute := by
      rw [components_of_isAbsolute hbase, List.cons_append] at hcut
      exact isAbsolute_of_components hcut
    have hnames : names p.chars = names base.chars ++ left := by
      rw [components_of_isAbsolute habs, components_of_isAbsolute hbase] at hcut
      exact (List.cons.inj hcut).2
    -- the root is the first component, and a single character
    obtain ⟨t, ht⟩ := isAbsolute_iff.mp habs
    have hdropped : p.components.length - left.length = (names base.chars).length + 1 := by
      rw [hcut, List.length_append, Nat.add_sub_cancel, components_of_isAbsolute hbase, List.length_cons]
    rw [hstrip] at h
    dsimp only [Option.bind_eq_bind, Option.bind_some, Option.pure_def] at h
    rw [hdropped, if_neg (Nat.succ_ne_zero _), components_of_isAbsolute habs] at h
    dsimp only [List.head?_cons] at h
    rw [Nat.add_sub_cancel] at h
    cases h
    have hchars : ∀ s, (Path.mk (String.ofList s)).chars = s := fun s => String.toList_ofList
    refine ⟨habs, ?_, hchars _⟩
    rw [hcut, hchars, names_dropTail, List.reverse_reverse, names_dropHead, names_dropComponents, ht,
      List.drop_one, List.tail_cons, ← names_slash t, ← ht, hnames, List.drop_left]

theorem dropHead_suffix (s : List Char) : dropHead s <:+ s := by
  induction s using dropHead.induct with
  | case1 rest ih =>
    rw [dropHead]
    exact ih.trans (List.suffix_cons _ _)
  | case2 rest ih =>
    rw [dropHead]
    exact ih.trans (List.suffix_append ['.', '/'] rest)
  | case3 => exact List.nil_suffix
  | case4 s hslash hdots hdot =>
    have hself : dropHead s = s := by rw [dropHead] <;> assumption
    exact ⟨[], hself⟩

theorem dropComponents_suffix (n : Nat) (s : List Char) : dropComponents n s <:+ s := by
  induction n generalizing s with
  | zero => exact List.suffix_refl s
  | succ n ih =>
    have hpiece : dropPiece (dropHead s) <:+ dropHead s :=
      (List.drop_suffix 1 _).trans (List.dropWhile_suffix _)
    exact (ih _).trans (hpiece.trans (dropHead_suffix s))

theorem dropTail_suffix (s : List Char) : dropTail s <:+ s := by
  induction s using dropTail.induct with
  | case1 rest hempty =>
    have hself : dropTail ('/' :: rest) = '/' :: rest := by
      rw [dropTail, if_pos hempty, List.isEmpty_iff.mp hempty]
    exact ⟨[], hself⟩
  | case2 rest hempty ih =>
    rw [dropTail, if_neg hempty]
    exact ih.trans (List.suffix_cons _ _)
  | case3 rest hempty =>
    rw [dropTail, if_pos hempty, List.isEmpty_iff.mp hempty]
    exact List.suffix_cons _ _
  | case4 rest hempty ih =>
    rw [dropTail, if_neg hempty]
    exact ih.trans (List.suffix_append ['.', '/'] rest)
  | case5 s hslash hdot =>
    have hself : dropTail s = s := by rw [dropTail] <;> assumption
    exact ⟨[], hself⟩

/-- What is left of a path is written as it stands in the path. -/
theorem mem_of_stripPrefix? {p base rest : Path} (hbase : base.isAbsolute)
    (h : p.stripPrefix? base = some rest) {c : Char} (hc : c ∈ rest.chars) : c ∈ p.chars := by
  obtain ⟨-, -, hrest⟩ := stripPrefix?_eq hbase h
  rw [hrest, List.mem_reverse] at hc
  have hhead := List.mem_reverse.mp ((dropTail_suffix _).subset hc)
  exact List.mem_of_mem_drop ((dropComponents_suffix _ _).subset ((dropHead_suffix _).subset hhead))

theorem backslash_not_mem_slashed (p : Path) : '\\' ∉ p.slashed.toList := by
  rw [slashed, String.toList_ofList, List.mem_map]
  rintro ⟨c, -, hc⟩
  split at hc
  · exact absurd hc (by decide)
  · contradiction

/-- Only backslashes are written anew. -/
theorem slashed_eq {p : Path} (h : '\\' ∉ p.chars) : p.slashed = p.text := by
  have hsame : p.chars.map (fun c => if c = '\\' then '/' else c) = p.chars := by
    refine (List.map_congr_left fun c hc => ?_).trans (List.map_id _)
    rw [if_neg]
    · rfl
    · rintro rfl
      exact h hc
  unfold slashed
  rw [hsame]
  exact String.ofList_toList

/-! ## Parents -/

theorem getLast?_dropTail {s : List Char} (h : s.getLast? = some '/') :
    (dropTail s).getLast? = some '/' := by
  induction s using dropTail.induct with
  | case1 rest hempty =>
    rw [dropTail, if_pos hempty]
    rfl
  | case2 rest hempty ih =>
    have hrest : rest ≠ [] := fun hnil => hempty (List.isEmpty_iff.mpr hnil)
    rw [dropTail, if_neg hempty]
    exact ih (by rwa [List.getLast?_cons_of_ne_nil hrest] at h)
  | case3 rest hempty =>
    rw [dropTail, if_pos hempty]
    rfl
  | case4 rest hempty ih =>
    have hrest : rest ≠ [] := fun hnil => hempty (List.isEmpty_iff.mpr hnil)
    rw [dropTail, if_neg hempty]
    exact ih (by rwa [List.getLast?_cons_of_ne_nil (List.cons_ne_nil _ _),
      List.getLast?_cons_of_ne_nil hrest] at h)
  | case5 s hslash hdot => rwa [dropTail] <;> assumption

/-- The parent of an absolute path is absolute. -/
theorem isAbsolute_of_parent? {p q : Path} (hp : p.isAbsolute) (h : p.parent? = some q) : q.isAbsolute := by
  obtain ⟨t, ht⟩ := isAbsolute_iff.mp hp
  have hlast : p.chars.reverse.getLast? = some '/' := by rw [ht, List.getLast?_reverse]; rfl
  have hcut : ((dropTail p.chars.reverse).dropWhile (· ≠ '/')).getLast? = some '/' := by
    obtain ⟨s, hs⟩ := List.getLast?_eq_some_iff.mp (getLast?_dropTail hlast)
    rw [hs, List.dropWhile_append]
    split
    · rfl
    · exact List.getLast?_append.trans rfl
  have hq : q = ⟨String.ofList (dropTail ((dropTail p.chars.reverse).dropWhile (· ≠ '/'))).reverse⟩ := by
    unfold parent? at h
    split at h
    · cases h
    · cases h
    · exact (Option.some.inj h).symm
  unfold isAbsolute chars
  rw [hq, String.toList_ofList, List.head?_reverse, getLast?_dropTail hcut, decide_eq_true_eq]

/-! ## Where a text ends -/

/-- A text whose last piece is a component: it does not end in a slash or a dot. -/
def EndsInComponent (s : List Char) : Prop := ((splitOn (· = '/') s).getLast?.bind component?).isSome

theorem not_endsInComponent_nil : ¬ EndsInComponent [] := by
  unfold EndsInComponent
  decide

theorem not_endsInComponent_dot : ¬ EndsInComponent ['.'] := by
  unfold EndsInComponent
  decide

theorem endsInComponent_append_slash (a b : List Char) :
    EndsInComponent (a ++ '/' :: b) ↔ EndsInComponent b := by
  unfold EndsInComponent
  rw [splitOn_append_cons (by decide), List.getLast?_append,
    List.getLast?_eq_some_getLast (splitOn_ne_nil _ b), Option.some_or]

theorem endsInComponent_slash (s : List Char) : EndsInComponent ('/' :: s) ↔ EndsInComponent s :=
  endsInComponent_append_slash [] s

theorem endsInComponent_dropSlashes (s : List Char) :
    EndsInComponent (s.dropWhile (· = '/')) ↔ EndsInComponent s := by
  induction s with
  | nil => exact Iff.rfl
  | cons c s ih =>
    rw [List.dropWhile_cons]
    split
    · rename_i hc
      rw [of_decide_eq_true hc, endsInComponent_slash, ih]
    · exact Iff.rfl

theorem endsInComponent_dropHead {s : List Char} (h : EndsInComponent s) : EndsInComponent (dropHead s) := by
  induction s using dropHead.induct with
  | case1 rest ih =>
    rw [dropHead]
    exact ih ((endsInComponent_slash rest).mp h)
  | case2 rest ih =>
    rw [dropHead]
    exact ih ((endsInComponent_append_slash ['.'] rest).mp h)
  | case3 => exact absurd h not_endsInComponent_dot
  | case4 s hslash hdots hdot => rwa [dropHead] <;> assumption

/-- Taking pieces off a text leaves nothing, or its end. -/
theorem endsInComponent_dropPiece {s : List Char} (h : EndsInComponent s) :
    dropPiece s = [] ∨ EndsInComponent (dropPiece s) := by
  by_cases hmem : '/' ∈ s
  · obtain ⟨w, rest, rfl, hw⟩ := List.eq_append_cons_of_mem hmem
    rw [dropPiece_append hw]
    exact .inr ((endsInComponent_append_slash w rest).mp h)
  · have hnil := dropPiece_append hmem []
    rw [List.append_nil] at hnil
    exact .inl hnil

theorem dropComponents_nil (n : Nat) : dropComponents n [] = [] := by
  induction n with
  | zero => rfl
  | succ n ih => exact ih

theorem endsInComponent_dropComponents (n : Nat) {s : List Char} (h : EndsInComponent s) :
    dropComponents n s = [] ∨ EndsInComponent (dropComponents n s) := by
  induction n generalizing s with
  | zero => exact .inr h
  | succ n ih =>
    rw [dropComponents]
    rcases endsInComponent_dropPiece (endsInComponent_dropHead h) with hnil | hrest
    · rw [hnil]
      exact .inl (dropComponents_nil n)
    · exact ih hrest

/-- The end of such a text is tidy. -/
theorem dropTail_of_endsInComponent {s : List Char} (h : EndsInComponent s) :
    dropTail s.reverse = s.reverse := by
  rw [dropTail]
  · intro rest hrest
    rw [List.reverse_eq_cons_iff] at hrest
    rw [hrest, endsInComponent_append_slash] at h
    exact not_endsInComponent_nil h
  · intro rest hrest
    rw [List.reverse_eq_cons_iff, List.reverse_cons, List.append_assoc, List.singleton_append] at hrest
    rw [hrest, endsInComponent_append_slash] at h
    exact not_endsInComponent_dot h

/-- What is left of a path ends as the path does. -/
theorem endsInComponent_of_stripPrefix? {p base rest : Path} (hbase : base.isAbsolute)
    (h : p.stripPrefix? base = some rest) (hp : EndsInComponent p.chars) :
    rest.chars = [] ∨ EndsInComponent rest.chars := by
  obtain ⟨habs, -, hrest⟩ := stripPrefix?_eq hbase h
  obtain ⟨t, ht⟩ := isAbsolute_iff.mp habs
  rw [ht, endsInComponent_slash] at hp
  rw [ht, List.drop_one, List.tail_cons] at hrest
  rcases endsInComponent_dropComponents (names base.chars).length hp with hnil | hends
  · rw [hnil] at hrest
    exact .inl hrest
  · have hhead := endsInComponent_dropHead hends
    rw [dropTail_of_endsInComponent hhead, List.reverse_reverse] at hrest
    rw [hrest]
    exact .inr hhead

end DeckPress.Path
