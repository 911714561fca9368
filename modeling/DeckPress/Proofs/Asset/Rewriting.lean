import Mathlib.Data.List.Infix
import DeckPress.Proofs.Asset.Address
import DeckPress.Proofs.Asset.Copies

/-!
# Rewriting once and again

With the default pattern, code in which copies are in place is not rewritten again: a copy is passed over, and
the addresses that are left have no copy. An address is as long as it can be, so what is behind it does not lead
to an extension, and nothing that begins at its copy or in front of it can get an extension from there.

But a copy can become part of an address. In `http:/https://x.io/a.png` the slash that the copy starts with makes
`http://` of what is in front of it. And nothing keeps the path of a copy itself from containing an address.
-/

namespace DeckPress.Asset

open Text Regex

/-! ## Texts and their addresses -/

/-- How a text is taken apart: an address, or a character at which none begins, comes first. -/
inductive Parted : List Char → Prop where
  | nil : Parted []
  | kept {c : Char} {s : List Char} (hc : ¬ Begins (c :: s)) (hs : Parted s) : Parted (c :: s)
  | found {a : Address} {v : List Char} (ha : a.Stands v) (hv : Parted v) : Parted (a.text ++ v)

theorem Address.Stands.text_length_pos {a : Address} {v : List Char} (h : a.Stands v) : 0 < a.text.length := by
  have hbody := List.length_pos_iff.mpr h.body_ne
  simp only [Address.text, Address.front, List.length_append, List.length_cons]
  omega

theorem parted (s : List Char) : Parted s := by
  induction hn : s.length using Nat.strongRecOn generalizing s with
  | ind n ih =>
    subst hn
    cases hs : addressLength? s with
    | some n =>
      obtain ⟨a, v, ha, rfl, -⟩ := exists_address hs
      have hpos := ha.text_length_pos
      rw [List.length_append] at ih
      exact .found ha (ih v.length (by omega) v rfl)
    | none =>
      cases s with
      | nil => exact .nil
      | cons c s =>
        refine .kept (fun h => ?_) (ih s.length (Nat.lt_succ_self _) s rfl)
        obtain ⟨n, hn⟩ := exists_matchLength? (p := ⟨none, c :: s⟩) h
        rw [addressLength?, hn] at hs
        cases hs

theorem scan_begins {c : Char} {s : List Char} (h : ¬ Begins (c :: s)) :
    scan addressLength? (c :: s) = .kept c :: scan addressLength? s :=
  scan_kept (addressLength?_eq_none h)

theorem scan_text {a : Address} {v : List Char} (h : a.Stands v) :
    scan addressLength? (a.text ++ v) = .found a.text :: scan addressLength? v := by
  refine scan_found (fun s n hn => ?_) (matchLength?_text h none)
  obtain ⟨b, w, hb, -, rfl⟩ := exists_address hn
  exact hb.text_length_pos

/-! ## What is behind an address -/

/-- Behind an address nothing leads to an extension. -/
theorem Address.Stands.not_hasExtension {a : Address} {v : List Char} (h : a.Stands v) : ¬ HasExtension v := by
  intro hv
  have hlongest := h.longest
  cases hquery : a.query with
  | nil => exact hlongest (by rw [hquery]; exact hv)
  | cons c q =>
    obtain ⟨d, hd, hbody⟩ := hv.head
    have hq := h.query
    rw [hquery] at hq
    cases hq with
    | some _ _ hstop => exact hstop d hd (queryChars_of_bodyChars hbody)

/-- An address stands in front of another text that goes on with the same character, unless that leads to an
extension. -/
theorem Address.Stands.congr {a : Address} {v v' : List Char} (h : a.Stands v) (hhead : v'.head? = v.head?)
    (hv' : ¬ HasExtension v') : a.Stands v' := by
  obtain ⟨scheme, body, e, query⟩ := a
  refine ⟨h.scheme, h.body_ne, h.body, h.extension, ?_, ?_, ?_⟩
  · have hedge := h.edge
    unfold startsWord at hedge ⊢
    rwa [List.head?_append, hhead, ← List.head?_append]
  · cases query with
    | nil => exact hv'
    | cons c q =>
      intro hlater
      obtain ⟨d, hd, hbody⟩ := hlater.head
      cases hd
      cases h.query with
      | some hc => exact not_querySigns_of_bodyChars hbody hc
  · cases h.query with
    | none hv => exact .none (hhead ▸ hv)
    | some hc hq hv => exact .some hc hq (hhead ▸ hv)

/-- What leads to an extension does so with another text behind it, if that leads to an extension itself. -/
theorem HasExtension.exchange {w t t' : List Char} (h : HasExtension (w ++ t)) (ht' : HasExtension t') :
    HasExtension (w ++ t') := by
  obtain ⟨body, hbody, e, he, rest, hedge, hw⟩ := h
  have hfront : ∀ c ∈ body ++ '.' :: e, bodyChars.contains c.toNat :=
    List.forall_mem_append.mpr ⟨hbody, bodyChars_of_mem_extensions e he⟩
  have hw : w ++ t = (body ++ '.' :: e) ++ rest := by
    rw [hw, List.append_assoc, List.cons_append]
  rcases List.append_eq_append_iff.mp hw with ⟨z, hz, -⟩ | ⟨z, rfl, hrest⟩
  · exact ht'.append fun c hc => hfront c (hz ▸ List.mem_append_left z hc)
  · cases z with
    | nil => exact ht'.append fun c hc => hfront c (by simpa using hc)
    | cons c z =>
      refine ⟨body, hbody, e, he, c :: z ++ t', ?_, by simp⟩
      rw [hrest] at hedge
      exact hedge

/-- A scheme in front of an address makes an address of all. -/
theorem Begins.append {t : List Char} (h : Begins t) {scheme : List Char} (hscheme : scheme ∈ schemes) :
    Begins (scheme ++ t) := by
  obtain ⟨scheme', hscheme', c, hc, rest, hrest, rfl⟩ := h
  have hrest' : HasExtension (c :: rest) := hrest.append (w := [c]) (List.forall_mem_singleton.mpr hc)
  have hchars := bodyChars_of_mem_schemes scheme' hscheme'
  cases scheme' with
  | nil => exact ⟨scheme, hscheme, c, hc, rest, hrest, rfl⟩
  | cons d scheme' =>
    obtain ⟨hd, hchars⟩ := List.forall_mem_cons.mp hchars
    exact ⟨scheme, hscheme, d, hd, scheme' ++ c :: rest, hrest'.append hchars, rfl⟩

/-! ## Copies in place -/

/-- A path in which no address begins, and which begins none with a slash in front of it. -/
structure Quiet (copy : List Char) : Prop where
  slash : copy.head? = some '/'
  single : ¬ ['/', '/'] <+: copy
  schemes : ∀ scheme ∈ schemes, ¬ scheme <:+: copy

/-- A copy below the deck's directory is not taken for an address if there is no colon in its path. -/
theorem quiet_publicPath {root file rest : Path} (hroot : root.isAbsolute) (h : file.stripPrefix? root = some rest)
    (hplain : '\\' ∉ file.chars) (hcolon : ':' ∉ file.chars) : Quiet (publicPath root file).toList := by
  have hcolons : ∀ scheme ∈ schemes, ':' ∈ scheme := by decide
  rw [publicPath_below hroot hplain h]
  refine ⟨rfl, ?_, fun scheme hscheme hinside => ?_⟩
  · rintro ⟨t, ht⟩
    refine Path.head?_of_stripPrefix? hroot h ?_
    rw [← (List.cons.inj ht).2]
    rfl
  · rcases List.mem_cons.mp (hinside.subset (hcolons scheme hscheme)) with hslash | hmem
    · cases hslash
    · exact hcolon (Path.mem_of_stripPrefix? hroot h hmem)

section Copies

variable (copy? : List Char → Option (List Char))

/-- What stands in place of an address. -/
def image (url : List Char) : List Char := (copy? url).getD url

/-- A text with copies in place of its addresses. -/
def copied (s : List Char) : List Char := (scan addressLength? s).flatMap (Piece.replaced (image copy?))

/-- A piece when the copies are in place: a copy consists of characters that are kept. -/
def settle : Piece → List Piece
  | .kept c => [.kept c]
  | .found url =>
    match copy? url with
    | some copy => copy.map .kept
    | none => [.found url]

/-- No address that has a copy stands right behind a scheme without its last slash. -/
def Clear (pieces : List Piece) : Prop :=
  ∀ pre url post, pieces = pre ++ .found url :: post → (copy? url).isSome →
    ∀ scheme ∈ schemes, ¬ scheme.dropLast <:+ pre.flatMap Piece.text

end Copies

section Copies

variable {copy? : List Char → Option (List Char)}

theorem Clear.tail {x : Piece} {pieces : List Piece} (h : Clear copy? (x :: pieces)) : Clear copy? pieces := by
  intro pre url post hpieces hsome scheme hscheme hsuffix
  refine h (x :: pre) url post (by rw [hpieces, List.cons_append]) hsome scheme hscheme ?_
  rw [List.flatMap_cons]
  exact hsuffix.trans (List.suffix_append _ _)

theorem copied_kept {c : Char} {s : List Char} (h : ¬ Begins (c :: s)) :
    copied copy? (c :: s) = c :: copied copy? s := by
  rw [copied, scan_begins h]
  rfl

theorem copied_text {a : Address} {v : List Char} (h : a.Stands v) :
    copied copy? (a.text ++ v) = image copy? a.text ++ copied copy? v := by
  rw [copied, scan_text h]
  rfl

/-- Either no address of a text has a copy, or there is a first one that has. -/
theorem copied_cases (copy? : List Char → Option (List Char)) {s : List Char} (hs : Parted s) :
    copied copy? s = s ∨
      ∃ pre, ∃ (a : Address) (v copy : List Char), a.Stands v ∧ copy? a.text = some copy ∧
        scan addressLength? s = pre ++ .found a.text :: scan addressLength? v ∧
        s = pre.flatMap Piece.text ++ (a.text ++ v) ∧
        copied copy? s = pre.flatMap Piece.text ++ (copy ++ copied copy? v) := by
  induction hs with
  | nil => exact .inl (by rw [copied, scan]; rfl)
  | @kept c s hc _ ih =>
    rw [copied_kept hc, scan_begins hc]
    rcases ih with hsame | ⟨pre, a, v, copy, ha, hcopy, hscan, hs, hcopied⟩
    · exact .inl (by rw [hsame])
    · refine .inr ⟨.kept c :: pre, a, v, copy, ha, hcopy, ?_, ?_, ?_⟩
      · rw [hscan, List.cons_append]
      · rw [hs]; rfl
      · rw [hcopied]; rfl
  | @found a v ha _ ih =>
    rw [copied_text ha, scan_text ha, image]
    cases hcopy : copy? a.text with
    | some copy => exact .inr ⟨[], a, v, copy, ha, hcopy, rfl, rfl, rfl⟩
    | none =>
      rcases ih with hsame | ⟨pre, b, w, copy, hb, hcopy', hscan, hv, hcopied⟩
      · exact .inl (by rw [hsame]; rfl)
      · refine .inr ⟨.found a.text :: pre, b, w, copy, hb, hcopy', ?_, ?_, ?_⟩
        · rw [hscan, List.cons_append]
        · rw [List.flatMap_cons, List.append_assoc, ← hv]
          rfl
        · rw [List.flatMap_cons, List.append_assoc, ← hcopied]
          rfl

/-- Copies do not make an extension. -/
theorem hasExtension_of_copied {s : List Char} (h : HasExtension (copied copy? s)) : HasExtension s := by
  rcases copied_cases copy? (parted s) with hsame | ⟨pre, a, v, copy, ha, -, -, hs, hcopied⟩
  · rwa [hsame] at h
  · rw [hcopied] at h
    rw [hs]
    exact h.exchange ha.begins.hasExtension

/-- Behind an address without a copy, nothing changes with the copies in place. -/
theorem Address.Stands.copied {a : Address} {v : List Char} (h : a.Stands v) : a.Stands (copied copy? v) := by
  refine h.congr ?_ fun hv => h.not_hasExtension (hasExtension_of_copied hv)
  rcases copied_cases copy? (parted v) with hsame | ⟨pre, b, w, copy, hb, -, -, hv, hcopied⟩
  · rw [hsame]
  · cases htext : pre.flatMap Piece.text with
    | nil =>
      -- an address would follow right behind, and lead to an extension
      rw [htext, List.nil_append] at hv
      exact absurd (hv ▸ hb.begins.hasExtension) h.not_hasExtension
    | cons c w' =>
      rw [hcopied, htext, hv, htext]
      rfl

/-- No address begins inside a copy. -/
theorem not_begins_copy {a : Address} {v copy w : List Char} (ha : a.Stands v) (hquiet : Quiet copy)
    (hw : w <:+ copy) : ¬ Begins (w ++ copied copy? v) := by
  rintro ⟨scheme, hscheme, d, hd, rest, hrest, heq⟩
  rcases List.append_eq_append_iff.mp heq with ⟨z, hz, hv⟩ | ⟨z, rfl, -⟩
  · have hbehind : HasExtension (copied copy? v) := by
      rw [hv, ← List.singleton_append]
      refine (hrest.append (List.forall_mem_singleton.mpr hd)).append fun c hc => ?_
      exact bodyChars_of_mem_schemes scheme hscheme c (hz ▸ List.mem_append_right w hc)
    exact ha.not_hasExtension (hasExtension_of_copied hbehind)
  · exact hquiet.schemes scheme hscheme ((List.prefix_append scheme z).isInfix.trans hw.isInfix)

/-- A copy completes a scheme only with its slash, where the last one of the scheme is missing. -/
theorem eq_dropLast_of_completes {a : Address} {v copy w z t : List Char} (ha : a.Stands v) (hquiet : Quiet copy)
    (hscheme : w ++ z ∈ schemes) (hz : z ≠ []) (ht : HasExtension t) (h : copy ++ copied copy? v = z ++ t) :
    w = (w ++ z).dropLast := by
  have hslashes : ∀ scheme ∈ schemes, ∀ z ∈ scheme.tails,
      z.head? = some '/' → z = ['/'] ∨ z = ['/', '/'] := by
    decide
  have hhead : z.head? = some '/' := by
    have hhead := congrArg List.head? h
    rwa [List.head?_append, hquiet.slash, List.head?_append_of_ne_nil z hz, Option.some_or, eq_comm] at hhead
  rcases hslashes _ hscheme z ((List.mem_tails _ _).mpr (List.suffix_append w z)) hhead with rfl | rfl
  · exact List.dropLast_concat.symm
  · -- the copy is a single slash, and what is behind it would lead to an extension
    exfalso
    cases copy with
    | nil => cases hquiet.slash
    | cons c copy =>
      obtain ⟨rfl, hbehind⟩ := List.cons.inj h
      cases copy with
      | nil =>
        have hv : copied copy? v = ['/'] ++ t := hbehind
        have hlater : HasExtension (copied copy? v) := by
          rw [hv]
          exact ht.append (List.forall_mem_singleton.mpr (by rw [bodyChars_eq]; decide))
        exact ha.not_hasExtension (hasExtension_of_copied hlater)
      | cons c copy =>
        obtain ⟨rfl, -⟩ := List.cons.inj hbehind
        exact hquiet.single ⟨copy, rfl⟩

/-- Where no address begins, none does with the copies in place. -/
theorem not_begins_copied {c : Char} {s : List Char} (hc : ¬ Begins (c :: s))
    (hquiet : ∀ url copy, copy? url = some copy → Quiet copy)
    (hclear : Clear copy? (scan addressLength? (c :: s))) : ¬ Begins (c :: copied copy? s) := by
  rw [← copied_kept hc]
  rcases copied_cases copy? (parted (c :: s)) with
    hsame | ⟨pre, a, v, copy, ha, hcopy, hscan, hs, hcopied⟩
  · rwa [hsame]
  rw [hcopied]
  rw [hs] at hc
  rintro ⟨scheme, hscheme, d, hd, rest, hrest, heq⟩
  have hd' : ∀ c ∈ [d], bodyChars.contains c.toNat := List.forall_mem_singleton.mpr hd
  -- the scheme ends in front of the first copy, or in it
  have hfront : ∀ z, pre.flatMap Piece.text = scheme ++ z → d :: rest ≠ z ++ (copy ++ copied copy? v) := by
    intro z hz hrest'
    rw [hz, List.append_assoc] at hc
    cases z with
    | nil => exact hc (ha.begins.append hscheme)
    | cons d' z =>
      obtain ⟨rfl, rfl⟩ := List.cons.inj hrest'
      exact hc ⟨scheme, hscheme, d, hd, _, hrest.exchange ha.begins.hasExtension, rfl⟩
  rcases List.append_eq_append_iff.mp heq with ⟨z, hz, hrest'⟩ | ⟨z, hz, hrest'⟩
  · cases z with
    | nil => exact hfront [] (by rw [hz]; simp) hrest'.symm
    | cons x z =>
      subst hz
      have hlacks := eq_dropLast_of_completes ha (hquiet _ _ hcopy) hscheme (List.cons_ne_nil x z)
        (hrest.append hd') hrest'
      have hsome : (copy? a.text).isSome := by rw [hcopy]; rfl
      refine hclear pre a.text _ hscan hsome _ hscheme ?_
      rw [← hlacks]
  · exact hfront z hz hrest'

/-- A copy is passed over. -/
theorem scan_copy {a : Address} {v copy w : List Char} (ha : a.Stands v) (hquiet : Quiet copy) (hw : w <:+ copy) :
    scan addressLength? (w ++ copied copy? v) = w.map .kept ++ scan addressLength? (copied copy? v) := by
  induction w with
  | nil => rfl
  | cons c w ih =>
    have hc : ¬ Begins (c :: (w ++ copied copy? v)) := not_begins_copy ha hquiet hw
    rw [List.cons_append, scan_begins hc, ih ((List.suffix_cons c w).trans hw)]
    rfl

/-- With the copies in place, the addresses that are left are those that have no copy. -/
theorem scan_copied {s : List Char} (hquiet : ∀ url copy, copy? url = some copy → Quiet copy)
    (hclear : Clear copy? (scan addressLength? s)) :
    scan addressLength? (copied copy? s) = (scan addressLength? s).flatMap (settle copy?) := by
  induction parted s with
  | nil => simp [copied, scan]
  | @kept c s hc _ ih =>
    have hkept := not_begins_copied hc hquiet hclear
    rw [scan_begins hc] at hclear
    rw [copied_kept hc, scan_begins hkept, scan_begins hc, ih hclear.tail]
    rfl
  | @found a v ha _ ih =>
    rw [scan_text ha] at hclear
    rw [copied_text ha, scan_text ha, List.flatMap_cons, ← ih hclear.tail]
    -- without a copy the address stays, for what is behind it starts with the same character
    cases hcopy : copy? a.text with
    | none =>
      rw [image, hcopy, Option.getD_none, scan_text ha.copied, settle, hcopy]
      rfl
    | some copy =>
      rw [image, hcopy, Option.getD_some, scan_copy ha (hquiet _ _ hcopy) List.suffix_rfl, settle, hcopy]

/-- What stands in place of a piece is what stands in place of what it becomes. -/
theorem replaced_settle (x : Piece) :
    (settle copy? x).flatMap (Piece.replaced (image copy?)) = x.replaced (image copy?) := by
  cases x with
  | kept c => rfl
  | found url =>
    rw [settle]
    cases hcopy : copy? url with
    | none => exact List.flatMap_singleton _ _
    | some copy =>
      rw [Piece.replaced, image, hcopy, Option.getD_some, List.flatMap_map]
      exact List.flatMap_singleton' copy

theorem copied_copied {s : List Char} (hquiet : ∀ url copy, copy? url = some copy → Quiet copy)
    (hclear : Clear copy? (scan addressLength? s)) : copied copy? (copied copy? s) = copied copy? s := by
  rw [copied, scan_copied hquiet hclear, List.flatMap_assoc, copied]
  exact List.flatMap_congr fun x _ => replaced_settle x

end Copies

/-! ## Rewriting -/

section Rewriting

variable {w : Rewriter} {materialize : String → Except Error Path}

def found (pieces : List Piece) : List (List Char) := pieces.filterMap Piece.found?

theorem found_settle (copy? : List Char → Option (List Char)) (pieces : List Piece) :
    found (pieces.flatMap (settle copy?)) = (found pieces).filter fun url => (copy? url).isNone := by
  unfold found
  induction pieces with
  | nil => rfl
  | cons x pieces ih =>
    rw [List.flatMap_cons, List.filterMap_append, ih]
    cases x with
    | kept c => rfl
    | found url =>
      have hfound : (Piece.found url :: pieces).filterMap Piece.found? = url :: pieces.filterMap Piece.found? := rfl
      rw [settle, hfound]
      cases hcopy : copy? url with
      | none =>
        rw [List.filter_cons_of_pos (by rw [hcopy]; rfl)]
        rfl
      | some copy =>
        rw [List.filter_cons_of_neg (by rw [hcopy]; exact Bool.false_ne_true)]
        have hnone : (copy.map Piece.kept).filterMap Piece.found? = [] := by
          simp [List.filterMap_map, Piece.found?, Function.comp_def]
        dsimp only
        rw [hnone, List.nil_append]

theorem readPatterns_default : readPatterns [AssetOptions.defaultPattern] = .ok [addressRegex] := by
  unfold readPatterns
  rw [List.mapM_cons, ofText?_defaultPattern]
  rfl

theorem applyPattern_addressRegex (deckRoot : Path) (s : List Char) :
    applyPattern materialize deckRoot (s, {}) addressRegex =
      (copied (copyText? materialize deckRoot) s,
        Known.askAll materialize deckRoot {} (found (scan addressLength? s))) := by
  rw [applyPattern, pieces_addressRegex]
  refine Prod.ext (List.flatMap_congr fun x hx => ?_) rfl
  cases x with
  | kept c => rfl
  | found url => exact Known.image_askAll (List.mem_filterMap.mpr ⟨_, hx, rfl⟩)

theorem rewrite_eq (w : Rewriter) (hon : w.enabled) (hpatterns : w.patterns = [addressRegex]) (code : String) :
    w.rewrite materialize code =
      (String.ofList (copied (copyText? materialize w.deckRoot) code.toList),
        (Known.askAll materialize w.deckRoot {} (found (scan addressLength? code.toList))).degradations) := by
  rw [Rewriter.rewrite_eq_foldl]
  rw [hon, hpatterns, List.foldl_cons, applyPattern_addressRegex]
  rfl

theorem rewrite_disabled (w : Rewriter) (hoff : w.enabled = false) (code : String) :
    w.rewrite materialize code = (code, []) := by
  rw [Rewriter.rewrite_eq_foldl]
  rw [hoff]
  rfl

theorem quiet_copyText? {deckRoot : Path}
    (hquiet : ∀ url file, materialize url = .ok file → Quiet (publicPath deckRoot file).toList)
    {url copy : List Char} (h : copyText? materialize deckRoot url = some copy) : Quiet copy := by
  obtain ⟨path, hpath, rfl⟩ := Option.map_eq_some_iff.mp h
  unfold copyOf? at hpath
  split at hpath
  · rename_i file hfile
    cases hpath
    exact hquiet _ file hfile
  · cases hpath

/-- With the default pattern, what has been rewritten stays as it is. The paths of copies are passed over, and
the addresses that have no copy are found and reported again. It is required that a copy is not taken for an
address, and that no address that has a copy stands behind a scheme without its last slash. -/
theorem rewrite_rewritten (w : Rewriter) (materialize : String → Except Error Path) (code once : String)
    (reports : List Degradation) (hdefault : readPatterns [AssetOptions.defaultPattern] = .ok w.patterns)
    (hquiet : ∀ url file, materialize url = .ok file → Quiet (publicPath w.deckRoot file).toList)
    (hclear : ∀ r ∈ w.patterns, Clear (copyText? materialize w.deckRoot) (r.pieces code.toList))
    (honce : w.rewrite materialize code = (once, reports)) :
    w.rewrite materialize once = (once, reports) ∧ (w.enabled → ∀ r ∈ w.patterns,
      r.pieces once.toList = (r.pieces code.toList).flatMap (settle (copyText? materialize w.deckRoot))) := by
  have hpatterns : w.patterns = [addressRegex] := by
    rw [readPatterns_default] at hdefault
    exact (Except.ok.inj hdefault).symm
  cases hon : w.enabled with
  | false =>
    rw [rewrite_disabled w hon] at honce ⊢
    obtain ⟨-, rfl⟩ := Prod.mk.inj honce
    exact ⟨rfl, nofun⟩
  | true =>
    have hquiet' : ∀ url copy, copyText? materialize w.deckRoot url = some copy → Quiet copy :=
      fun _ _ => quiet_copyText? hquiet
    have hclear' := hclear addressRegex (by rw [hpatterns]; exact List.mem_singleton_self _)
    rw [pieces_addressRegex] at hclear'
    have hagain := scan_copied hquiet' hclear'
    rw [rewrite_eq w hon hpatterns] at honce
    obtain ⟨rfl, rfl⟩ := Prod.mk.inj honce
    refine ⟨?_, fun _ r hr => ?_⟩
    · rw [rewrite_eq w hon hpatterns, String.toList_ofList, copied_copied hquiet' hclear', hagain, found_settle,
        Known.degradations_askAll_filter _ rfl fun _ _ => rfl]
    · rw [hpatterns, List.mem_singleton] at hr
      rw [hr, pieces_addressRegex, pieces_addressRegex, String.toList_ofList, hagain]

end Rewriting

/-! ## A picture that is in the cache -/

/-- The default pattern, for a deck in a directory. -/
def deckRewriter : Rewriter := ⟨true, [addressRegex], ⟨"/deck"⟩⟩

/-- A cache that has one picture. -/
def onePicture (url : String) : Except Error Path :=
  if url = "https://x.io/a.png" then .ok ⟨"/deck/.slidev/a.png"⟩ else .error (.validation (.offline url))

theorem pieces_quoted : addressRegex.pieces "'https://x.io/a.png' http://y.io/b.svg".toList =
    [.kept '\'', .found "https://x.io/a.png".toList, .kept '\'', .kept ' ', .found "http://y.io/b.svg".toList] := by
  unfold addressRegex queryRegex
  rw [querySigns_eq, queryChars_eq, bodyChars_eq]
  decide +kernel

theorem rewrite_quoted : deckRewriter.rewrite onePicture "'https://x.io/a.png' http://y.io/b.svg" =
    ("'/.slidev/a.png' http://y.io/b.svg",
      [.assetFetchFailed "http://y.io/b.svg" (Error.validation (.offline "http://y.io/b.svg")).message]) := by
  rw [rewrite_eq deckRewriter rfl rfl, copied, ← pieces_addressRegex, pieces_quoted]
  refine congrArg₂ Prod.mk (by cbv) ?_
  simp [found, Piece.found?, Known.askAll, Known.ask, Known.note, onePicture, List.filterMap_cons, List.lookup]

theorem clear_quoted : ∀ r ∈ deckRewriter.patterns, Clear (copyText? onePicture deckRewriter.deckRoot)
    (r.pieces "'https://x.io/a.png' http://y.io/b.svg".toList) := by
  intro r hr pre url post hpieces hsome scheme hscheme hsuffix
  rw [List.mem_singleton.mp hr, pieces_quoted] at hpieces
  have hlong : ∀ scheme ∈ schemes, 2 ≤ scheme.dropLast.length := by decide
  have hlength := (hlong scheme hscheme).trans hsuffix.length_le
  -- a quote is in front of the first address, and the second has no copy
  rcases pre with _ | ⟨a, _ | ⟨b, _ | ⟨c, _ | ⟨d, _ | ⟨e, pre⟩⟩⟩⟩⟩ <;> simp at hpieces
  · obtain ⟨rfl, -⟩ := hpieces
    exact absurd hlength (by decide)
  · obtain ⟨-, -, -, -, rfl, -⟩ := hpieces
    simp [copyText?, copyOf?, onePicture] at hsome

theorem rewrite_rewritten_quoted :
    deckRewriter.rewrite onePicture "'/.slidev/a.png' http://y.io/b.svg" =
        ("'/.slidev/a.png' http://y.io/b.svg",
          [.assetFetchFailed "http://y.io/b.svg" (Error.validation (.offline "http://y.io/b.svg")).message]) ∧
      addressRegex.pieces "'/.slidev/a.png' http://y.io/b.svg".toList =
        "'/.slidev/a.png' ".toList.map .kept ++ [.found "http://y.io/b.svg".toList] := by
  have hquiet : ∀ url file, onePicture url = .ok file →
      Quiet (publicPath deckRewriter.deckRoot file).toList := by
    intro url file hfile
    unfold onePicture at hfile
    split at hfile
    · cases hfile
      exact quiet_publicPath rfl rfl (by decide) (by decide)
    · cases hfile
  obtain ⟨hagain, hpieces⟩ := rewrite_rewritten deckRewriter onePicture _ _ _ readPatterns_default hquiet
    clear_quoted rewrite_quoted
  refine ⟨hagain, (hpieces rfl addressRegex (List.mem_singleton_self _)).trans ?_⟩
  rw [pieces_quoted]
  cbv

theorem pieces_completed :
    addressRegex.pieces "http:/https://x.io/a.png".toList =
        "http:/".toList.map .kept ++ [.found "https://x.io/a.png".toList] ∧
      addressRegex.pieces "http://.slidev/a.png".toList = [.found "http://.slidev/a.png".toList] := by
  unfold addressRegex queryRegex
  rw [querySigns_eq, queryChars_eq, bodyChars_eq]
  decide +kernel

/-- The slash of a copy completes a scheme, and what has been rewritten is rewritten again. -/
theorem slash_completes_scheme :
    readPatterns [AssetOptions.defaultPattern] = .ok deckRewriter.patterns ∧
      deckRewriter.rewrite (fun _ => .ok ⟨"/deck/.slidev/a.png"⟩) "http:/https://x.io/a.png" =
        ("http://.slidev/a.png", []) ∧
      deckRewriter.rewrite (fun _ => .ok ⟨"/deck/.slidev/a.png"⟩) "http://.slidev/a.png" =
        ("/.slidev/a.png", []) := by
  obtain ⟨hfirst, hsecond⟩ := pieces_completed
  refine ⟨readPatterns_default, ?_, ?_⟩
  · rw [rewrite_eq deckRewriter rfl rfl, copied, ← pieces_addressRegex, hfirst]
    cbv
  · rw [rewrite_eq deckRewriter rfl rfl, copied, ← pieces_addressRegex, hsecond]
    cbv

end DeckPress.Asset
