import DeckPress.Layout
import DeckPress.Proofs.Disk.Path

/-!
# Finding theme and client

A theme that is a name, and the client runtime, are looked for in the package directories from the deck
upwards. Due is the first candidate that some ancestor of the deck's directory has as a directory, at the
nearest such ancestor.

The search stops at the nearest ancestor that has anything of the candidate's name and asks only then
whether this is a directory. So a file of that name further down hides the directory: the search goes on
with the next candidate, and without one the project has no layout. Nothing else makes a difference.
-/

namespace DeckPress.Layout

open Text

variable {d : Disk} {deckRoot : Path} {candidates : List Path}

/-- `a` is the first element of a list that has a property. -/
def IsFirst {α : Type} (p : α → Prop) (l : List α) (a : α) : Prop :=
  ∃ before after, l = before ++ a :: after ∧ p a ∧ ∀ b ∈ before, ¬ p b

/-- The places of a package in the deck's directory and above, nearest first. -/
def places (deckRoot candidate : Path) : List Path := deckRoot.ancestors.map (· / candidate.text)

/-- The deck's directory or one above has a candidate as a directory. -/
def Installed (d : Disk) (deckRoot candidate : Path) : Prop :=
  ∃ p ∈ places deckRoot candidate, d.isDirectory p

/-- The directory to be found: the first candidate that is installed, where this is nearest. -/
def Due (d : Disk) (deckRoot : Path) (candidates : List Path) (found : Path) : Prop :=
  ∃ c, IsFirst (Installed d deckRoot) candidates c ∧ IsFirst (d.isDirectory ·) (places deckRoot c) found

/-- What stands nearest under the name of the candidate that is due is no directory. -/
def Hidden (d : Disk) (deckRoot : Path) (candidates : List Path) : Prop :=
  ∃ c, IsFirst (Installed d deckRoot) candidates c ∧
    ∃ p, IsFirst (d.exists? ·) (places deckRoot c) p ∧ ¬ d.isDirectory p

/-- A search gives what is due, and `failure` only if nothing is. -/
structure Finds (result : Except Error Path) (failure : Error) (due : Path → Prop) : Prop where
  ok (found : Path) : result = .ok found ↔ due found
  error : result = .error failure ↔ ∀ found, ¬ due found

/-! ## First elements -/

theorem isFirst_iff_find? {α : Type} {p : α → Bool} {l : List α} {a : α} :
    IsFirst (p ·) l a ↔ l.find? p = some a := by
  rw [List.find?_eq_some_iff_append]
  constructor
  · rintro ⟨before, after, hl, ha, hbefore⟩
    exact ⟨ha, before, after, hl, fun b hb => by simpa using hbefore b hb⟩
  · rintro ⟨ha, before, after, hl, hbefore⟩
    exact ⟨before, after, hl, ha, fun b hb => by simpa using hbefore b hb⟩

/-- Whether there is a first element, and what is so of it, is decided by looking for it. -/
theorem exists_isFirst_iff {α : Type} {p : α → Prop} [DecidablePred p] {l : List α} {q : α → Prop} :
    (∃ a, IsFirst p l a ∧ q a) ↔ ∃ a ∈ l.find? (p ·), q a :=
  exists_congr fun a => and_congr_left' <| by simpa using isFirst_iff_find? (p := (p ·)) (l := l) (a := a)

instance (d : Disk) (deckRoot candidate : Path) : Decidable (Installed d deckRoot candidate) :=
  inferInstanceAs (Decidable (∃ p ∈ places deckRoot candidate, d.isDirectory p))

instance (d : Disk) (deckRoot : Path) (candidates : List Path) : Decidable (Hidden d deckRoot candidates) :=
  have (c : Path) : Decidable (∃ p, IsFirst (d.exists? ·) (places deckRoot c) p ∧ ¬ d.isDirectory p) :=
    decidable_of_iff _ exists_isFirst_iff.symm
  decidable_of_iff _ exists_isFirst_iff.symm

theorem IsFirst.unique {α : Type} {p : α → Prop} {l : List α} {a b : α} (ha : IsFirst p l a)
    (hb : IsFirst p l b) : a = b := by
  classical
  have hfind {x : α} (hx : IsFirst p l x) : l.find? (p ·) = some x :=
    isFirst_iff_find?.mp (by simpa using hx)
  exact Option.some.inj ((hfind ha).symm.trans (hfind hb))

theorem IsFirst.exists {α : Type} {p : α → Prop} {l : List α} (h : ∃ a ∈ l, p a) : ∃ a, IsFirst p l a := by
  classical
  obtain ⟨a, ha, hp⟩ := h
  have hsome : (l.find? (p ·)).isSome := List.find?_isSome.mpr ⟨a, ha, by simpa using hp⟩
  obtain ⟨b, hb⟩ := Option.isSome_iff_exists.mp hsome
  exact ⟨b, by simpa using isFirst_iff_find?.mpr hb⟩

theorem IsFirst.mem {α : Type} {p : α → Prop} {l : List α} {a : α} (h : IsFirst p l a) : a ∈ l := by
  obtain ⟨before, after, rfl, -, -⟩ := h
  exact List.mem_append_right _ List.mem_cons_self

theorem IsFirst.holds {α : Type} {p : α → Prop} {l : List α} {a : α} (h : IsFirst p l a) : p a := by
  obtain ⟨-, -, -, ha, -⟩ := h
  exact ha

/-- The first element with a property is the first with a stronger one that it has as well. -/
theorem IsFirst.stronger {α : Type} {p q : α → Prop} (hpq : ∀ x, q x → p x) {l : List α} {a : α}
    (h : IsFirst p l a) (ha : q a) : IsFirst q l a := by
  obtain ⟨before, after, hl, -, hbefore⟩ := h
  exact ⟨before, after, hl, ha, fun b hb hq => hbefore b hb (hpq b hq)⟩

/-! ## The search -/

theorem exists_of_isDirectory {p : Path} (h : d.isDirectory p) : d.exists? p := by
  unfold Disk.isDirectory at h
  unfold Disk.exists?
  split at h
  · rename_i heq
    rw [heq]
    rfl
  · cases h

/-- What the search comes to for one candidate. -/
def reach? (d : Disk) (deckRoot candidate : Path) : Option Path :=
  (d.findUpwards? deckRoot candidate).filter d.isDirectory

/-- A candidate is reached if the nearest thing of its name is a directory. -/
theorem reach?_eq_some {c found : Path} :
    reach? d deckRoot c = some found ↔
      IsFirst (d.exists? ·) (places deckRoot c) found ∧ d.isDirectory found := by
  rw [reach?, Option.filter_eq_some_iff, isFirst_iff_find?]
  rfl

theorem installed_of_reach? {c found : Path} (h : reach? d deckRoot c = some found) :
    Installed d deckRoot c := by
  obtain ⟨hfirst, hdirectory⟩ := reach?_eq_some.mp h
  exact ⟨found, hfirst.mem, hdirectory⟩

/-- What is found for several candidates: what is reached for the first for which something is. -/
def search? (d : Disk) (deckRoot : Path) (candidates : List Path) : Option Path :=
  candidates.findSome? (reach? d deckRoot)

/-- A candidate that is installed and not hidden is reached where it is due. -/
theorem reach?_of_installed {c : Path} (hinstalled : Installed d deckRoot c)
    (hplain : ∀ p, IsFirst (d.exists? ·) (places deckRoot c) p → d.isDirectory p) :
    ∃ found, reach? d deckRoot c = some found ∧ IsFirst (d.isDirectory ·) (places deckRoot c) found := by
  obtain ⟨p, hp, hdirectory⟩ := hinstalled
  obtain ⟨found, hfound⟩ := IsFirst.exists (p := (d.exists? ·)) ⟨p, hp, exists_of_isDirectory hdirectory⟩
  exact ⟨found, reach?_eq_some.mpr ⟨hfound, hplain found hfound⟩,
    hfound.stronger (fun _ => exists_of_isDirectory) (hplain found hfound)⟩

/-- If nothing is hidden, the search finds what is due. -/
theorem search?_of_not_hidden (h : ¬ Hidden d deckRoot candidates) (found : Path) :
    search? d deckRoot candidates = some found ↔ Due d deckRoot candidates found := by
  -- candidates that are not installed are passed over, and the first that is installed is reached
  have hdue {c : Path} (hfirst : IsFirst (Installed d deckRoot) candidates c) :
      ∃ p, search? d deckRoot candidates = some p ∧ IsFirst (d.isDirectory ·) (places deckRoot c) p := by
    obtain ⟨p, hp, hnearest⟩ := reach?_of_installed hfirst.holds fun p hp =>
      not_not.mp fun hno => h ⟨c, hfirst, p, hp, hno⟩
    obtain ⟨before, after, hcut, -, hbefore⟩ := hfirst
    refine ⟨p, List.findSome?_eq_some_iff.mpr ⟨before, c, after, hcut, hp, fun b hb => ?_⟩, hnearest⟩
    exact Option.eq_none_iff_forall_ne_some.mpr fun q hq => hbefore b hb (installed_of_reach? hq)
  constructor
  · intro hfound
    obtain ⟨before, c, after, hcut, hc, -⟩ := List.findSome?_eq_some_iff.mp hfound
    have hmem : c ∈ candidates := hcut ▸ List.mem_append_right _ List.mem_cons_self
    obtain ⟨first, hfirst⟩ := IsFirst.exists ⟨c, hmem, installed_of_reach? hc⟩
    obtain ⟨p, hp, hnearest⟩ := hdue hfirst
    cases hp.symm.trans hfound
    exact ⟨first, hfirst, hnearest⟩
  · rintro ⟨c, hfirst, hnearest⟩
    obtain ⟨p, hp, hnearest'⟩ := hdue hfirst
    rw [hp, hnearest.unique hnearest']

/-- If what is due is hidden, the search does not find it: the places of different candidates differ. -/
theorem search?_of_hidden
    (happart : ∀ c ∈ candidates, ∀ c' ∈ candidates, c ≠ c' →
      ∀ a b : Path, (a / c.text : Path) ≠ b / c'.text)
    (h : Hidden d deckRoot candidates) :
    ∃ found, Due d deckRoot candidates found ∧ search? d deckRoot candidates ≠ some found := by
  obtain ⟨c, hfirst, p, hp, hfile⟩ := h
  obtain ⟨found, hfound⟩ := IsFirst.exists hfirst.holds
  refine ⟨found, ⟨c, hfirst, hfound⟩, fun hsearch => ?_⟩
  obtain ⟨before, c', after, hcut, hc', -⟩ := List.findSome?_eq_some_iff.mp hsearch
  have hmem : c' ∈ candidates := hcut ▸ List.mem_append_right _ List.mem_cons_self
  obtain ⟨hnearest, hdirectory⟩ := reach?_eq_some.mp hc'
  by_cases hsame : c = c'
  · subst hsame
    exact hfile (hp.unique hnearest ▸ hdirectory)
  · obtain ⟨a, -, ha⟩ := List.mem_map.mp hfound.mem
    obtain ⟨b, -, hb⟩ := List.mem_map.mp hnearest.mem
    exact happart c hfirst.mem c' hmem hsame a b (ha.trans hb.symm)

/-- A search whose result is that for the candidates gives what is due exactly if this is not hidden. -/
theorem finds_iff {result : Except Error Path} {failure : Error}
    (hresult : result = (search? d deckRoot candidates).elim (.error failure) .ok)
    (happart : ∀ c ∈ candidates, ∀ c' ∈ candidates, c ≠ c' →
      ∀ a b : Path, (a / c.text : Path) ≠ b / c'.text) :
    Finds result failure (Due d deckRoot candidates) ↔ ¬ Hidden d deckRoot candidates := by
  have hok (found : Path) : result = .ok found ↔ search? d deckRoot candidates = some found := by
    rw [hresult]
    cases search? d deckRoot candidates <;> simp
  have herror : result = .error failure ↔ search? d deckRoot candidates = none := by
    rw [hresult]
    cases search? d deckRoot candidates <;> simp
  constructor
  · intro h hhidden
    obtain ⟨found, hdue, hsearch⟩ := search?_of_hidden happart hhidden
    exact hsearch ((hok found).mp ((h.ok found).mpr hdue))
  · intro h
    refine ⟨fun found => (hok found).trans (search?_of_not_hidden h found), herror.trans ?_⟩
    rw [Option.eq_none_iff_forall_ne_some]
    exact forall_congr' fun found => not_congr (search?_of_not_hidden h found)

/-! ## Candidates of a theme -/

/-- What is appended to a path ends it. -/
theorem suffix_join (p : Path) (s : String) : s.toList <:+ (p / s : Path).chars := by
  show s.toList <:+ (Path.join p s).chars
  unfold Path.join
  split
  · exact List.suffix_rfl
  · split
    · exact ⟨p.text.toList, String.toList_append.symm⟩
    · refine ⟨p.text.toList ++ ['/'], ?_⟩
      simp [Path.chars]

/-- A relative text is written behind a slash, unless the path has one at its end. -/
theorem join_eq {p : Path} {s : String} (hsome : p.text.isEmpty = false) (hlast : p.chars.getLast? ≠ some '/')
    (hs : s.toList.head? ≠ some '/') : (p / s : Path) = ⟨p.text ++ "/" ++ s⟩ := by
  show Path.join p s = _
  rw [Path.join, if_neg (by simp [hs, hsome]), if_neg hlast]

/-- What stands in front of a theme's name in its candidates. -/
def candidateStarts : List String := ["node_modules/@slidev/theme-", "node_modules/slidev-theme-", "node_modules/"]

theorem themeCandidates_cases {theme : String} (h : isPathLike theme = false) :
    (∃ c, themeCandidates theme = [c]) ∨
      themeCandidates theme = candidateStarts.map fun start => ⟨start ++ theme⟩ := by
  have hslash : theme.toList.head? ≠ some '/' := by
    have hstart := (Bool.or_eq_false_iff.mp h).2
    rw [String.startsWith_string_eq_false_iff] at hstart
    intro hhead
    obtain ⟨rest, hrest⟩ := List.head?_eq_some_iff.mp hhead
    exact hstart ⟨rest, hrest.symm⟩
  unfold themeCandidates
  split
  · exact .inl ⟨_, rfl⟩
  · refine .inr ?_
    have hscope : (packages / "@slidev" : Path) = ⟨"node_modules/@slidev"⟩ :=
      join_eq (by decide) (by decide) (by decide)
    rw [hscope, join_eq (by decide) (by decide) (by simp),
      join_eq (by decide) (by decide) (by simp),
      join_eq (by decide) (by decide) hslash, ← String.append_assoc, ← String.append_assoc]
    rfl

/-- Candidates for a theme lead to different places, from whatever directories: what stands in front of the
name of the theme does not end alike. -/
theorem candidates_apart {theme : String} (h : isPathLike theme = false) :
    ∀ c ∈ themeCandidates theme, ∀ c' ∈ themeCandidates theme, c ≠ c' →
      ∀ a b : Path, (a / c.text : Path) ≠ b / c'.text := by
  have hstarts : ∀ s ∈ candidateStarts, ∀ s' ∈ candidateStarts, s ≠ s' →
      ¬ s.toList <:+ s'.toList := by decide
  rcases themeCandidates_cases h with ⟨c, hone⟩ | hcandidates
  · rw [hone]
    intro x hx y hy hne
    exact absurd ((List.mem_singleton.mp hx).trans (List.mem_singleton.mp hy).symm) hne
  · rw [hcandidates]
    intro x hx y hy hne a b heq
    obtain ⟨s, hs, rfl⟩ := List.mem_map.mp hx
    obtain ⟨s', hs', rfl⟩ := List.mem_map.mp hy
    have hdiffer : s ≠ s' := fun hsame => hne (by rw [hsame])
    obtain ⟨before, hbefore⟩ := suffix_join a (s ++ theme)
    obtain ⟨before', hbefore'⟩ := suffix_join b (s' ++ theme)
    have htext : before ++ s.toList = before' ++ s'.toList := by
      have hboth := hbefore.trans ((congrArg Path.chars heq).trans hbefore'.symm)
      rw [String.toList_append, String.toList_append, ← List.append_assoc, ← List.append_assoc] at hboth
      exact List.append_cancel_right hboth
    rcases List.suffix_or_suffix_of_suffix ⟨before, rfl⟩ ⟨before', htext.symm⟩ with hend | hend
    · exact hstarts s hs s' hs' hdiffer hend
    · exact hstarts s' hs' s hs hdiffer.symm hend

/-- For every project, a theme that is given by its name and the client runtime are found where they are due,
and missed only if they are nowhere, exactly if no file hides what is due. -/
theorem found_iff_not_hidden (d : Disk) (deckRoot : Path) :
    (∀ theme, isPathLike theme = false →
      (Finds (findTheme d theme deckRoot) (.config (.theme theme deckRoot))
          (Due d deckRoot (themeCandidates theme)) ↔
        ¬ Hidden d deckRoot (themeCandidates theme))) ∧
    (Finds (findClient d none deckRoot) (.config (.client deckRoot)) (Due d deckRoot [⟨clientPackage⟩]) ↔
      ¬ Hidden d deckRoot [⟨clientPackage⟩]) := by
  constructor
  · intro theme htheme
    refine finds_iff ?_ (candidates_apart htheme)
    rw [findTheme, htheme, if_neg Bool.false_ne_true]
    unfold search? reach?
    cases (themeCandidates theme).findSome? _ <;> rfl
  · refine finds_iff ?_ fun c hc c' hc' hne => ?_
    · rw [search?, List.findSome?_singleton, findClient, reach?]
      cases (d.findUpwards? deckRoot ⟨clientPackage⟩).filter d.isDirectory <;> rfl
    · exact absurd ((List.mem_singleton.mp hc).trans (List.mem_singleton.mp hc').symm) hne

/-- A deck in a directory below that of the packages. Its own package directory has these files. -/
def talkDisk (files : List String) : Disk where
  entries := [(["node_modules"], .directory), (["node_modules", "@slidev"], .directory),
    (["node_modules", "@slidev", "client"], .directory),
    (["node_modules", "@slidev", "theme-default"], .directory),
    (["talk"], .directory), (["talk", "slides.md"], .file "# One\n".toUTF8),
    (["talk", "node_modules"], .directory), (["talk", "node_modules", "@slidev"], .directory)] ++
    files.map fun name => (["talk", "node_modules", "@slidev", name], .file "".toUTF8)

/-- A file that has another name hides nothing. -/
theorem found_iff_not_hidden_default :
    isPathLike "default" = false ∧
    Finds (findTheme (talkDisk ["theme-plain"]) "default" ⟨"/talk"⟩) (.config (.theme "default" ⟨"/talk"⟩))
      (Due (talkDisk ["theme-plain"]) ⟨"/talk"⟩ (themeCandidates "default")) ∧
    Finds (findClient (talkDisk ["theme-plain"]) none ⟨"/talk"⟩) (.config (.client ⟨"/talk"⟩))
      (Due (talkDisk ["theme-plain"]) ⟨"/talk"⟩ [⟨clientPackage⟩]) := by
  obtain ⟨htheme, hclient⟩ := found_iff_not_hidden (talkDisk ["theme-plain"]) ⟨"/talk"⟩
  have hname : isPathLike "default" = false := by decide +kernel
  exact ⟨hname, (htheme "default" hname).mpr (by decide +kernel), hclient.mpr (by decide +kernel)⟩

/-- Files in the deck's own package directory hide the theme and the client runtime: neither is found, although
both are installed above. -/
theorem packages_hidden_by_files :
    Due (talkDisk ["theme-default", "client"]) ⟨"/talk"⟩ (themeCandidates "default")
      ⟨"/node_modules/@slidev/theme-default"⟩ ∧
    Due (talkDisk ["theme-default", "client"]) ⟨"/talk"⟩ [⟨clientPackage⟩]
      ⟨"/node_modules/@slidev/client"⟩ ∧
    findTheme (talkDisk ["theme-default", "client"]) "default" ⟨"/talk"⟩ =
      .error (.config (.theme "default" ⟨"/talk"⟩)) ∧
    findClient (talkDisk ["theme-default", "client"]) none ⟨"/talk"⟩ =
      .error (.config (.client ⟨"/talk"⟩)) := by
  refine ⟨⟨⟨"node_modules/@slidev/theme-default"⟩, ?_, ?_⟩, ⟨⟨clientPackage⟩, ?_, ?_⟩, ?_, ?_⟩
  · exact ⟨[], _, rfl, by decide, fun _ h => nomatch h⟩
  · exact isFirst_iff_find?.mpr (by with_unfolding_all rfl)
  · exact ⟨[], [], rfl, by decide, fun _ h => nomatch h⟩
  · exact isFirst_iff_find?.mpr (by with_unfolding_all rfl)
  · with_unfolding_all rfl
  · with_unfolding_all rfl

end DeckPress.Layout
