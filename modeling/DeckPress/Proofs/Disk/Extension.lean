import DeckPress.Proofs.Disk.Walk

/-!
# Extensions of paths

An extension that is written behind a path is one of its last name, and a directory that is written between two
texts is one between their names.
-/

namespace DeckPress.Path

open Text

theorem components_eq_names {p : Path} (h : ∀ c, p.chars.head? = some c → c ≠ '/' ∧ c ≠ '.') :
    p.components = names p.chars := by
  have hrelative : p.isAbsolute = false := decide_eq_false fun hslash => (h _ hslash).1 rfl
  obtain ⟨piece, pieces, hsplit⟩ := List.exists_cons_of_ne_nil (splitOn_ne_nil (· = '/') p.chars)
  have hdot : piece ≠ ['.'] := by
    rintro rfl
    have hhead : p.chars.head? = some '.' := by
      cases hchars : p.chars with
      | nil =>
        rw [hchars] at hsplit
        cases hsplit
      | cons c s =>
        rw [hchars, splitOn] at hsplit
        split at hsplit
        · cases hsplit
        · split at hsplit
          · cases hsplit
            rfl
          · cases hsplit
            rfl
    exact (h _ hhead).2 rfl
  rw [components_relative hrelative hsplit, if_neg hdot, names, hsplit, List.filterMap_cons]
  cases component? piece <;> rfl

theorem component?_eq_name {w : List Char} (h : w ≠ []) (hdot : w ≠ ['.']) (hup : w ≠ ['.', '.']) :
    component? w = some (.name (String.ofList w)) := by
  unfold component?
  rw [if_neg (by simp [h, hdot]), if_neg hup]

/-- Components with an extension behind the last name. -/
def extended (extension : String) (cs : List PathComponent) : List PathComponent :=
  match cs.getLast? with
  | some (.name s) => cs.dropLast ++ [.name (s ++ "." ++ extension)]
  | _ => cs

theorem extended_concat (extension : String) (cs : List PathComponent) (s : String) :
    extended extension (cs ++ [.name s]) = cs ++ [.name (s ++ "." ++ extension)] := by
  unfold extended
  rw [List.getLast?_concat, List.dropLast_concat]

theorem extended_cons (extension : String) (c : PathComponent) {cs : List PathComponent} (h : cs ≠ []) :
    extended extension (c :: cs) = c :: extended extension cs := by
  obtain ⟨before, last, rfl⟩ := cs.eq_nil_or_concat.resolve_left h
  rw [List.concat_eq_append]
  cases last with
  | name s => rw [extended_concat, ← List.cons_append, extended_concat, List.cons_append]
  | root | current | parent =>
    unfold extended
    rw [← List.cons_append, List.getLast?_concat, List.getLast?_concat]
    rfl

theorem exists_last_name {s : List Char} (hends : EndsInComponent s) (hdown : PathComponent.parent ∉ names s) :
    ∃ pieces w, splitOn (· = '/') s = pieces ++ [w] ∧ (s = w ∨ ∃ b, s = b ++ '/' :: w) ∧ '/' ∉ w ∧
      w ≠ [] ∧ component? w = some (.name (String.ofList w)) := by
  obtain ⟨pieces, w, hsplit, hcut, hw⟩ : ∃ pieces w, splitOn (· = '/') s = pieces ++ [w] ∧
      (s = w ∨ ∃ b, s = b ++ '/' :: w) ∧ '/' ∉ w := by
    by_cases hmem : '/' ∈ s
    · obtain ⟨b, w, rfl, hw⟩ := Disk.exists_last_piece hmem
      refine ⟨splitOn (· = '/') b, w, ?_, .inr ⟨b, rfl⟩, hw⟩
      rw [splitOn_append_cons (by decide), splitOn_char_of_not_mem hw]
    · exact ⟨[], s, splitOn_char_of_not_mem hmem, .inl rfl, hmem⟩
  unfold EndsInComponent at hends
  rw [hsplit, List.getLast?_concat, Option.bind_some] at hends
  have hup : w ≠ ['.', '.'] := by
    rintro rfl
    refine hdown (List.mem_filterMap.mpr ⟨['.', '.'], ?_, rfl⟩)
    rw [hsplit]
    exact List.mem_append_right _ (List.mem_singleton_self _)
  have hsome : w ≠ [] := by rintro rfl; cases hends
  have hdot : w ≠ ['.'] := by rintro rfl; cases hends
  exact ⟨pieces, w, hsplit, hcut, hw, hsome, component?_eq_name hsome hdot hup⟩

theorem names_concat {s : List Char} {pieces : List (List Char)} {w : List Char}
    (hsplit : splitOn (· = '/') s = pieces ++ [w]) :
    names s = pieces.filterMap component? ++ (component? w).toList := by
  unfold names
  rw [hsplit, List.filterMap_append, List.filterMap_cons]
  cases component? w <;> rfl

/-- An extension that is written behind a text is one of its last name. -/
theorem names_extended {s : String} (hends : EndsInComponent s.toList)
    (hdown : PathComponent.parent ∉ names s.toList) {extension : String} (hplain : '/' ∉ extension.toList)
    (hsome : extension ≠ "") :
    names (s ++ "." ++ extension).toList = extended extension (names s.toList) ∧
      EndsInComponent (s ++ "." ++ extension).toList := by
  obtain ⟨pieces, w, hsplit, hcut, hw, hne, hname⟩ := exists_last_name hends hdown
  have htext : (s ++ "." ++ extension).toList = s.toList ++ '.' :: extension.toList := by
    rw [String.toList_append, String.toList_append, List.append_assoc]
    rfl
  have hlonger : '/' ∉ w ++ '.' :: extension.toList := by
    rw [List.mem_append, List.mem_cons]
    rintro (hmem | hmem | hmem)
    · exact hw hmem
    · cases hmem
    · exact hplain hmem
  have hlength : 3 ≤ (w ++ '.' :: extension.toList).length := by
    have hfirst := List.length_pos_iff.mpr hne
    have hlast : 0 < extension.toList.length :=
      List.length_pos_iff.mpr fun hnil => hsome (String.toList_eq_nil_iff.mp hnil)
    rw [List.length_append, List.length_cons]
    omega
  have hlong : ∀ t, t.length < 3 → w ++ '.' :: extension.toList ≠ t := by
    rintro t ht rfl
    omega
  have hnew : component? (w ++ '.' :: extension.toList) =
      some (.name (String.ofList w ++ "." ++ extension)) := by
    rw [component?_eq_name (hlong _ (by decide)) (hlong _ (by decide)) (hlong _ (by decide))]
    refine congrArg (fun t => some (PathComponent.name t)) (String.toList_inj.mp ?_)
    rw [String.toList_ofList, String.toList_append, String.toList_append, String.toList_ofList,
      List.append_assoc]
    rfl
  have hlast : splitOn (· = '/') (s.toList ++ '.' :: extension.toList) =
      pieces ++ [w ++ '.' :: extension.toList] := by
    rcases hcut with hcut | ⟨b, hcut⟩
    · rw [hcut, splitOn_char_of_not_mem hw] at hsplit
      obtain ⟨rfl, -⟩ := List.append_inj' (hsplit.symm.trans (List.nil_append [w]).symm) rfl
      rw [hcut, splitOn_char_of_not_mem hlonger, List.nil_append]
    · rw [hcut, splitOn_append_cons (by decide), splitOn_char_of_not_mem hw] at hsplit
      obtain ⟨rfl, -⟩ := List.append_inj' hsplit rfl
      rw [hcut, List.append_assoc, List.cons_append, splitOn_append_cons (by decide),
        splitOn_char_of_not_mem hlonger]
  rw [htext]
  constructor
  · rw [names_concat hlast, names_concat hsplit, hnew, hname]
    exact (extended_concat _ _ _).symm
  · unfold EndsInComponent
    rw [hlast, List.getLast?_concat, Option.bind_some, hnew]
    rfl

theorem stripComponents?_append (bs rest : List PathComponent) :
    stripComponents? bs (bs ++ rest) = some rest := by
  induction bs with
  | nil => rfl
  | cons b bs ih => rw [List.cons_append, stripComponents?, if_pos (beq_self_eq_true b), ih]

theorem head?_dropHead (s : List Char) : (dropHead s).head? ≠ some '/' := by
  induction s using dropHead.induct with
  | case1 rest ih => rwa [dropHead]
  | case2 rest ih => rwa [dropHead]
  | case3 =>
    intro h
    cases h
  | case4 s hslash hdots hdot =>
    have hself : dropHead s = s := by rw [dropHead] <;> assumption
    rw [hself]
    intro hhead
    obtain ⟨rest, rfl⟩ := List.head?_eq_some_iff.mp hhead
    exact hslash rest rfl

/-- What is left of a path does not start with a slash. -/
theorem head?_of_stripPrefix? {p base rest : Path} (hbase : base.isAbsolute)
    (h : p.stripPrefix? base = some rest) : rest.chars.head? ≠ some '/' := by
  obtain ⟨-, -, hrest⟩ := stripPrefix?_eq hbase h
  generalize dropComponents _ _ = s at hrest
  rw [hrest]
  intro hhead
  obtain ⟨t, ht⟩ := List.head?_eq_some_iff.mp hhead
  obtain ⟨gone, hgone⟩ := dropTail_suffix (dropHead s).reverse
  have hs : dropHead s = '/' :: (t ++ gone.reverse) := by
    have hreverse := congrArg List.reverse hgone
    rwa [List.reverse_append, ht, List.reverse_reverse, List.cons_append, eq_comm] at hreverse
  exact head?_dropHead s (by rw [hs]; rfl)

theorem stripComponents?_eq_none {file root : Path} (h : file.stripPrefix? root = none) :
    stripComponents? root.components file.components = none := by
  cases hleft : stripComponents? root.components file.components with
  | none => rfl
  | some left =>
    unfold Path.stripPrefix? at h
    rw [hleft] at h
    dsimp only [Option.bind_eq_bind, Option.bind_some] at h
    split at h <;> cases h

/-! ## Texts behind directories -/

theorem withSuffix_join (dir : Path) {s : String} (hs : s ≠ "") (extension : String) :
    (dir / s).withSuffix extension = dir / (s ++ "." ++ extension) := by
  have hhead : (s ++ "." ++ extension).toList.head? = s.toList.head? := by
    rw [String.toList_append, String.toList_append, List.append_assoc]
    cases hchars : s.toList with
    | nil => exact absurd (String.toList_eq_nil_iff.mp hchars) hs
    | cons c t => rfl
  show withSuffix (join dir s) extension = join dir (s ++ "." ++ extension)
  unfold withSuffix join
  rw [hhead]
  split
  · rfl
  · split <;> simp only [String.append_assoc]

/-- A text behind a directory is written behind a name of it as behind the directory and the name. -/
theorem join_join (dir : Path) {name s : String} (hname : name ≠ "") (hslash : name.toList.head? ≠ some '/')
    (hlast : name.toList.getLast? ≠ some '/') (hs : s.toList.head? ≠ some '/') :
    (dir / name / s : Path) = dir / (name ++ "/" ++ s) := by
  have hend : (dir / name : Path).chars.getLast? ≠ some '/' := by
    have hchars : name.toList ≠ [] := fun hnil => hname (String.toList_eq_nil_iff.mp hnil)
    rcases chars_join_cases dir hslash with ⟨-, hjoin⟩ | ⟨b, hjoin, -⟩
    · rw [hjoin]
      exact hlast
    · rwa [hjoin, List.getLast?_append, List.getLast?_cons_of_ne_nil hchars,
        List.getLast?_eq_some_getLast hchars, Option.some_or, ← List.getLast?_eq_some_getLast hchars]
  have hsome : (dir / name : Path).text.isEmpty = false := by
    rw [Bool.eq_false_iff]
    intro hempty
    have hchars : name.toList <:+ (dir / name : Path).chars := by
      rcases chars_join_cases dir hslash with ⟨-, hjoin⟩ | ⟨b, hjoin, -⟩
      · rw [hjoin]
        exact List.suffix_refl _
      · rw [hjoin]
        exact (List.suffix_cons '/' _).trans (List.suffix_append b _)
    rw [chars, String.isEmpty_iff.mp hempty] at hchars
    exact hname (String.toList_eq_nil_iff.mp (List.suffix_nil.mp hchars))
  have hhead : (name ++ "/" ++ s).toList.head? = name.toList.head? := by
    rw [String.toList_append, String.toList_append, List.append_assoc]
    cases hchars : name.toList with
    | nil => exact absurd (String.toList_eq_nil_iff.mp hchars) hname
    | cons c t => rfl
  show join (dir / name) s = join dir (name ++ "/" ++ s)
  rw [join, if_neg (by simp [hs, hsome]), if_neg hend]
  show Path.mk ((join dir name).text ++ "/" ++ s) = join dir (name ++ "/" ++ s)
  unfold join
  rw [hhead]
  split
  · rfl
  · split <;> simp only [String.append_assoc]

end DeckPress.Path
