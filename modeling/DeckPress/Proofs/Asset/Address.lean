import Mathlib
import DeckPress.Asset.Rewrite
import DeckPress.Options.Basic
import DeckPress.Proofs.Regex.Words

/-!
# Addresses of remote assets

What the default pattern finds: a scheme, a body that ends in one of the known extensions at the edge of a word,
and a query. The body is as long as it can be, and so is the query. From one place there is one address, and it
is there whatever stands in front of it.
-/

namespace DeckPress.Asset

open Text Regex

/-! ## The default pattern -/

section Notation

def signs (s : String) : List Notation := s.toList.map fun c => .literal ⟨c, false⟩

def perhaps (n : Notation) : Notation := .repeated n 0 (some 1) true

def signSet (c : Char) : SetNotation := .chars ⟨c, false⟩ ⟨c, false⟩

/-- White space, quotes and brackets end an address. -/
def stopNotation : List SetNotation :=
  .letter .white false :: ['\'', '"', '\x60', '(', ')', '<', '>'].map signSet

/-- A question mark or a number sign starts a query. -/
def queryNotation : List SetNotation := ['?', '#'].map signSet

def addressNotation : Notation :=
  .sequence (signs "http" ++ [perhaps (.literal ⟨'s', false⟩)] ++ signs "://" ++
    [.repeated (.set (.bracketed (.union (stopNotation ++ queryNotation)) true)) 1 none true,
      .literal ⟨'.', false⟩,
      .group (.flagged []) (.choice [.sequence (signs "png"),
        .sequence (signs "jp" ++ [perhaps (.literal ⟨'e', false⟩)] ++ signs "g"), .sequence (signs "gif"),
        .sequence (signs "svg"), .sequence (signs "webp"), .sequence (signs "avif"), .sequence (signs "ico"),
        .sequence (signs "mp4"), .sequence (signs "webm"), .sequence (signs "ogg"), .sequence (signs "mp3"),
        .sequence (signs "wav"), .sequence (signs "woff" ++ [perhaps (.literal ⟨'2', false⟩)]),
        .sequence (signs "ttf"), .sequence (signs "otf")]),
      .assertion .wordBoundary,
      perhaps (.group (.flagged []) (.sequence [.set (.bracketed (.union queryNotation) false),
        .repeated (.set (.bracketed (.union stopNotation) true)) 0 none true]))])

theorem parse?_defaultPattern : Notation.parse? AssetOptions.defaultPattern = some addressNotation := by
  cbv

end Notation

def stopSets : List CodeRanges := whiteSpace :: ['\'', '"', '\x60', '(', ')', '<', '>'].map .single

def querySets : List CodeRanges := ['?', '#'].map .single

def querySigns : CodeRanges := .unionAll querySets

/-- The characters of a query. -/
def queryChars : CodeRanges := (CodeRanges.unionAll stopSets).complement

/-- The characters of an address in front of its query. -/
def bodyChars : CodeRanges := (CodeRanges.unionAll (stopSets ++ querySets)).complement

def sign (c : Char) : Regex := .oneOf (.single c)

def word (s : String) : Regex := sequenceOf (s.toList.map sign)

def optional (r : Regex) : Regex := .repeated r 0 (some 1) true

def extensionRegex : Regex :=
  choiceOf [word "png", sequenceOf [sign 'j', sign 'p', optional (sign 'e'), sign 'g'], word "gif",
    word "svg", word "webp", word "avif", word "ico", word "mp4", word "webm", word "ogg", word "mp3",
    word "wav", sequenceOf [sign 'w', sign 'o', sign 'f', sign 'f', optional (sign '2')], word "ttf",
    word "otf"]

def queryRegex : Regex :=
  optional (sequenceOf [.oneOf querySigns, .repeated (.oneOf queryChars) 0 none true])

/-- What the default pattern means. -/
def addressRegex : Regex :=
  sequenceOf [sign 'h', sign 't', sign 't', sign 'p', optional (sign 's'), sign ':', sign '/', sign '/',
    .repeated (.oneOf bodyChars) 1 none true, sign '.', extensionRegex, .anchor (.word .boundary false),
    queryRegex]

theorem querySigns_eq : querySigns = ⟨#[(0x23, 0x23), (0x3f, 0x3f)]⟩ := by cbv

theorem queryChars_eq : queryChars = ⟨#[(0, 0x8), (0xe, 0x1f), (0x21, 0x21), (0x23, 0x26), (0x2a, 0x3b),
    (0x3d, 0x3d), (0x3f, 0x5f), (0x61, 0x84), (0x86, 0x9f), (0xa1, 0x167f), (0x1681, 0x1fff),
    (0x200b, 0x2027), (0x202a, 0x202e), (0x2030, 0x205e), (0x2060, 0x2fff), (0x3001, 0x10ffff)]⟩ := by
  cbv

theorem bodyChars_eq : bodyChars = ⟨#[(0, 0x8), (0xe, 0x1f), (0x21, 0x21), (0x24, 0x26), (0x2a, 0x3b),
    (0x3d, 0x3d), (0x40, 0x5f), (0x61, 0x84), (0x86, 0x9f), (0xa1, 0x167f), (0x1681, 0x1fff),
    (0x200b, 0x2027), (0x202a, 0x202e), (0x2030, 0x205e), (0x2060, 0x2fff), (0x3001, 0x10ffff)]⟩ := by
  cbv

theorem meaning?_addressNotation : addressNotation.meaning? {} = some (addressRegex, {}) := rfl

theorem weight_addressRegex : addressRegex.weight ≤ maxWeight := by
  unfold addressRegex queryRegex
  rw [querySigns_eq, queryChars_eq, bodyChars_eq]
  decide +kernel

theorem ofText?_defaultPattern : Regex.ofText? AssetOptions.defaultPattern = some addressRegex := by
  unfold ofText?
  rw [parse?_defaultPattern]
  simp only [Option.bind_eq_bind, Option.bind_some]
  rw [meaning?_addressNotation]
  exact if_pos weight_addressRegex

/-! ## Where it leads -/

def schemes : List (List Char) := ["https://", "http://"].map String.toList

/-- The extensions of images, media and fonts. -/
def extensions : List (List Char) :=
  ["png", "jpeg", "jpg", "gif", "svg", "webp", "avif", "ico", "mp4", "webm", "ogg", "mp3", "wav", "woff2",
    "woff", "ttf", "otf"].map String.toList

def schemeReader : Reader :=
  (sequenceOf [sign 'h', sign 't', sign 't', sign 'p', optional (sign 's'), sign ':', sign '/', sign '/']).reader

def extensionReader : Reader := (sequenceOf [sign '.', extensionRegex]).reader

def bodyReader : Reader := .again (.oneOf bodyChars none) true

theorem words_schemeReader : schemeReader.words = schemes.map (·.map CodeRanges.single) := rfl

theorem words_extensionReader :
    extensionReader.words = (extensions.map ('.' :: ·)).map (·.map CodeRanges.single) := rfl

theorem ends_addressRegex (p : Place) : addressRegex.reader.ends p =
    (schemeReader.ends p).flatMap fun a => (bodyReader.ends a).flatMap fun x =>
      (extensionReader.ends x).flatMap fun y =>
        ((Reader.anchor (.word .boundary false)).ends y).flatMap queryRegex.reader.ends := by
  have hsplit : addressRegex.reader = .sequence (.oneOf (.single 'h') none) (.sequence (.oneOf (.single 't') none)
      (.sequence (.oneOf (.single 't') none) (.sequence (.oneOf (.single 'p') none)
      (.sequence (optional (sign 's')).reader (.sequence (.oneOf (.single ':') none)
      (.sequence (.oneOf (.single '/') none) (.sequence (.oneOf (.single '/') none)
      (.sequence bodyReader (.sequence (.oneOf (.single '.') none) (.sequence extensionRegex.reader
      (.sequence (.anchor (.word .boundary false)) queryRegex.reader))))))))))) := rfl
  rw [hsplit]
  simp only [schemeReader, extensionReader, sequenceOf, reader, sign, Reader.ends, List.flatMap_assoc]

/-! ## Characters -/

theorem ascending_queryChars : queryChars.Ascending := by
  rw [queryChars_eq]
  exact ⟨by decide, by decide⟩

theorem ascending_bodyChars : bodyChars.Ascending := by
  rw [bodyChars_eq]
  exact ⟨by decide, by decide⟩

theorem queryChars_of_bodyChars {n : Nat} (h : bodyChars.contains n) : queryChars.contains n := by
  have hranges : ∀ x ∈ bodyChars.toList, ∃ y ∈ queryChars.toList, y.1 ≤ x.1 ∧ x.2 ≤ y.2 := by
    rw [bodyChars_eq, queryChars_eq]
    decide
  obtain ⟨x, hx, hn⟩ := ascending_bodyChars.contains_iff.mp h
  obtain ⟨y, hy, hwider⟩ := hranges x hx
  exact ascending_queryChars.contains_iff.mpr ⟨y, hy, by omega⟩

theorem not_querySigns_of_bodyChars {n : Nat} (h : bodyChars.contains n) : ¬ querySigns.contains n := by
  have hranges : ∀ x ∈ bodyChars.toList, ∀ y ∈ querySigns.toList, x.2 < y.1 ∨ y.2 < x.1 := by
    rw [bodyChars_eq, querySigns_eq]
    decide
  intro hsign
  obtain ⟨x, hx, hn⟩ := CodeRanges.mem_of_search h
  obtain ⟨y, hy, hn'⟩ := CodeRanges.mem_of_search hsign
  have hapart := hranges x hx y hy
  omega

theorem bodyChars_of_mem_schemes : ∀ scheme ∈ schemes, ∀ c ∈ scheme, bodyChars.contains c.toNat := by
  have hall : (schemes.all (·.all fun c => bodyChars.contains c.toNat)) = true := by
    rw [bodyChars_eq]
    decide
  simpa only [List.all_eq_true] using hall

theorem bodyChars_of_mem_extensions : ∀ e ∈ extensions, ∀ c ∈ '.' :: e, bodyChars.contains c.toNat := by
  have hall : (extensions.all fun e => ('.' :: e).all fun c => bodyChars.contains c.toNat) = true := by
    rw [bodyChars_eq]
    decide
  simpa only [List.all_eq_true] using hall

theorem isWord_of_mem_extensions : ∀ e ∈ extensions, ∀ c ∈ e, isWord c := by
  have hall : (extensions.all (·.all isWord)) = true := by decide
  simpa only [List.all_eq_true] using hall

/-! ## Extensions in a text -/

/-- Whether a text goes on with a character of a word. -/
def startsWord (t : List Char) : Bool := t.head?.any isWord

/-- Characters of a body lead to an extension, at the edge of a word. -/
def HasExtension (t : List Char) : Prop :=
  ∃ body, (∀ c ∈ body, bodyChars.contains c.toNat) ∧
    ∃ e ∈ extensions, ∃ rest, startsWord rest = false ∧ t = body ++ '.' :: (e ++ rest)

theorem HasExtension.head {t : List Char} (h : HasExtension t) :
    ∃ c ∈ t.head?, bodyChars.contains c.toNat := by
  obtain ⟨body, hbody, e, he, rest, -, rfl⟩ := h
  cases body with
  | nil => exact ⟨'.', rfl, bodyChars_of_mem_extensions e he '.' List.mem_cons_self⟩
  | cons c body => exact ⟨c, rfl, hbody c List.mem_cons_self⟩

theorem HasExtension.append {t : List Char} (h : HasExtension t) {w : List Char}
    (hw : ∀ c ∈ w, bodyChars.contains c.toNat) : HasExtension (w ++ t) := by
  obtain ⟨body, hbody, e, he, rest, hedge, rfl⟩ := h
  refine ⟨w ++ body, List.forall_mem_append.mpr ⟨hw, hbody⟩, e, he, rest, hedge, ?_⟩
  rw [List.append_assoc]

/-- A scheme, a character of a body, and then an extension. -/
def Begins (t : List Char) : Prop :=
  ∃ scheme ∈ schemes, ∃ c, bodyChars.contains c.toNat ∧ ∃ rest, HasExtension rest ∧ t = scheme ++ c :: rest

theorem Begins.hasExtension {t : List Char} (h : Begins t) : HasExtension t := by
  obtain ⟨scheme, hscheme, c, hc, rest, hrest, rfl⟩ := h
  rw [← List.singleton_append]
  exact (hrest.append (List.forall_mem_singleton.mpr hc)).append (bodyChars_of_mem_schemes scheme hscheme)

/-! ## Addresses -/

/-- A query in front of a text: there is none, or it is as long as it can be. -/
inductive Query : List Char → List Char → Prop where
  | none {v : List Char} (hv : ∀ c ∈ v.head?, ¬ querySigns.contains c.toNat) : Query [] v
  | some {c : Char} {q v : List Char} (hc : querySigns.contains c.toNat)
      (hq : ∀ c ∈ q, queryChars.contains c.toNat) (hv : ∀ c ∈ v.head?, ¬ queryChars.contains c.toNat) :
      Query (c :: q) v

/-- An address in its parts. -/
structure Address where
  scheme : List Char
  body : List Char
  extension : List Char
  query : List Char

namespace Address

/-- The part of an address in front of its query. -/
def front (a : Address) : List Char := a.scheme ++ (a.body ++ '.' :: a.extension)

def text (a : Address) : List Char := a.front ++ a.query

/-- An address stands in front of a text: no later extension could end its body, and its query ends there. -/
structure Stands (a : Address) (v : List Char) : Prop where
  scheme : a.scheme ∈ schemes
  body_ne : a.body ≠ []
  body : ∀ c ∈ a.body, bodyChars.contains c.toNat
  extension : a.extension ∈ extensions
  edge : startsWord (a.query ++ v) = false
  longest : ¬ HasExtension (a.query ++ v)
  query : Query a.query v

variable {a b : Address} {v w : List Char}

/-! ## There is one address -/

/-- The front of an address is not the beginning of that of another one. -/
theorem Stands.front_maximal (ha : a.Stands v) (hb : b.Stands w) {z : List Char}
    (hfront : b.body ++ '.' :: b.extension = a.body ++ '.' :: a.extension ++ z)
    (hrest : a.query ++ v = z ++ (b.query ++ w)) : z = [] := by
  have hextension : ∀ body : List Char, (∀ c ∈ body, c ∈ b.body) → z ≠ body ++ '.' :: b.extension := by
    rintro body hbody rfl
    refine ha.longest ⟨body, fun c hc => hb.body c (hbody c hc), b.extension, hb.extension, _, hb.edge, ?_⟩
    rw [hrest, List.append_assoc, List.cons_append]
  rcases List.append_eq_append_iff.mp hfront with ⟨y, -, hy⟩ | ⟨y, hbody, hz⟩
  · cases y with
    | nil => exact absurd hy.symm (hextension [] nofun)
    | cons c y =>
      -- what is behind the front of the first is the end of the extension of the second
      obtain ⟨-, hy⟩ := List.cons.inj hy
      cases z with
      | nil => rfl
      | cons c' z =>
        have hword : isWord c' := isWord_of_mem_extensions _ hb.extension c' (by rw [hy]; simp)
        have hedge : isWord c' = false := by simpa [startsWord, hrest] using ha.edge
        rw [hword] at hedge
        cases hedge
  · exact absurd hz (hextension y fun c hc => hbody ▸ List.mem_append_right _ hc)

end Address

theorem scheme_unique {s s' t t' : List Char} (hs : s ∈ schemes) (hs' : s' ∈ schemes)
    (h : s ++ t = s' ++ t') : t = t' := by
  have hschemes : schemes = [['h', 't', 't', 'p', 's', ':', '/', '/'], ['h', 't', 't', 'p', ':', '/', '/']] := rfl
  rw [hschemes] at hs hs'
  simp only [List.mem_cons, List.not_mem_nil, or_false] at hs hs'
  rcases hs with rfl | rfl <;> rcases hs' with rfl | rfl
  · simpa using h
  · simp at h
  · simp at h
  · simpa using h

theorem Query.unique {q q' v v' : List Char} (hq : Query q v) (hq' : Query q' v') (h : q ++ v = q' ++ v') :
    v = v' := by
  have hrun : ∀ {q v q' v' : List Char}, (∀ c ∈ v.head?, ¬ queryChars.contains c.toNat) →
      (∀ c ∈ q', queryChars.contains c.toNat) → ∀ z, q' = q ++ z → v = z ++ v' → v = v' := by
    intro q v q' v' hv hq' z hz hvz
    cases z with
    | nil => exact hvz
    | cons c z =>
      subst hz hvz
      exact absurd (hq' c (List.mem_append_right _ List.mem_cons_self)) (hv c rfl)
  cases hq with
  | none hv =>
    cases hq' with
    | none => exact h
    | some hc => exact absurd hc (hv _ (by rw [← List.nil_append v, h]; rfl))
  | some hc hq hv =>
    cases hq' with
    | none hv' => exact absurd hc (hv' _ (by rw [← List.nil_append v', ← h]; rfl))
    | some hc' hq' hv' =>
      rcases List.append_eq_append_iff.mp (List.cons.inj h).2 with ⟨z, hz, hvz⟩ | ⟨z, hz, hvz⟩
      · exact hrun hv hq' z hz hvz
      · exact (hrun hv' hq z hz hvz).symm

/-- From one place there is one address. -/
theorem Address.Stands.unique {a b : Address} {v w : List Char} (ha : a.Stands v) (hb : b.Stands w)
    (h : a.text ++ v = b.text ++ w) : v = w := by
  simp only [Address.text, Address.front, List.append_assoc] at h
  have hfront : (a.body ++ '.' :: a.extension) ++ (a.query ++ v) =
      (b.body ++ '.' :: b.extension) ++ (b.query ++ w) := by
    simpa using scheme_unique ha.scheme hb.scheme h
  have hquery : a.query ++ v = b.query ++ w := by
    rcases List.append_eq_append_iff.mp hfront with ⟨z, hz, hrest⟩ | ⟨z, hz, hrest⟩
    · rw [ha.front_maximal hb hz hrest] at hrest
      exact hrest
    · rw [hb.front_maximal ha hz hrest] at hrest
      exact hrest.symm
  exact ha.query.unique hb.query hquery

/-! ## Matches are addresses -/

/-- Where a match can end from the place behind its body. -/
def behindBody (x : Place) : List Place :=
  (extensionReader.ends x).flatMap fun y =>
    ((Reader.anchor (.word .boundary false)).ends y).flatMap queryRegex.reader.ends

theorem ends_edge {y : Place} (hy : y.before.any isWord) :
    (Reader.anchor (.word .boundary false)).ends y = if startsWord y.rest then [] else [y] := by
  have hword : isWordIn false = isWord := funext fun c => if_neg Bool.false_ne_true
  rw [Reader.ends, Place.gap, Anchor.holds, WordEdge.holds, hword, hy, startsWord]
  cases y.rest.head?.any isWord <;> rfl

theorem mem_ends_extension {x y : Place} :
    y ∈ extensionReader.ends x → ∃ e ∈ extensions, x.rest = '.' :: (e ++ y.rest) ∧ y.before.any isWord := by
  intro hy
  have hlast : ∀ e ∈ extensions, ∃ c, ('.' :: e).getLast? = some c ∧ isWord c = true := by
    simp only [← Option.any_eq_true]
    decide
  obtain ⟨w, hw, hrest, hbefore⟩ := (Reader.mem_ends_of_words rfl words_extensionReader).mp hy
  obtain ⟨e, he, rfl⟩ := List.mem_map.mp hw
  obtain ⟨c, hc, hword⟩ := hlast e he
  rw [hc, Option.some_or] at hbefore
  exact ⟨e, he, hrest, by rw [hbefore]; exact hword⟩

theorem head?_ends_query (y : Place) :
    ∃ q, (queryRegex.reader.ends y).head? = some q ∧
      ∃ query, Query query q.rest ∧ y.rest = query ++ q.rest := by
  have hreader : queryRegex.reader =
      .choice (.sequence (.oneOf querySigns none) (.star (.oneOf queryChars none) true)) .nothing := rfl
  obtain ⟨before, rest⟩ := y
  rw [hreader]
  cases rest with
  | nil => exact ⟨_, rfl, [], .none nofun, rfl⟩
  | cons c rest =>
    by_cases hc : querySigns.contains c.toNat
    · obtain ⟨q, hq, hstop⟩ := Reader.head?_ends_run queryChars none ⟨some c, rest⟩
      obtain ⟨w, hw, hrest, -⟩ := Reader.mem_ends_run.mp (List.mem_of_head? hq)
      refine ⟨q, ?_, c :: w, .some hc hw hstop, congrArg (c :: ·) hrest⟩
      simp only [Reader.ends, if_pos hc, List.flatMap_singleton]
      rw [List.head?_append]
      exact congrArg (Option.or · _) hq
    · refine ⟨⟨before, c :: rest⟩, ?_, [], .none ?_, rfl⟩
      · simp only [Reader.ends, if_neg hc, List.flatMap_nil, List.nil_append, List.head?_cons]
      · rintro c' ⟨⟩
        exact hc

theorem of_head?_behindBody {x q : Place} (h : (behindBody x).head? = some q) :
    ∃ e ∈ extensions, ∃ query, Query query q.rest ∧ startsWord (query ++ q.rest) = false ∧
      x.rest = '.' :: (e ++ (query ++ q.rest)) := by
  rw [behindBody, List.head?_flatMap] at h
  obtain ⟨y, hy, hq⟩ := List.exists_of_findSome?_eq_some h
  obtain ⟨e, he, hrest, hbefore⟩ := mem_ends_extension hy
  rw [ends_edge hbefore] at hq
  split at hq
  · cases hq
  · rename_i hedge
    obtain ⟨q', hq', query, hquery, hrest'⟩ := head?_ends_query y
    rw [List.flatMap_singleton, hq'] at hq
    cases hq
    rw [hrest'] at hrest hedge
    exact ⟨e, he, query, hquery, Bool.eq_false_iff.mpr hedge, hrest⟩

theorem behindBody_ne_nil {before : Option Char} {e rest : List Char} (he : e ∈ extensions)
    (hedge : startsWord rest = false) : behindBody ⟨before, '.' :: (e ++ rest)⟩ ≠ [] := by
  have hy : Place.mk (('.' :: e).getLast?.or before) rest ∈
      extensionReader.ends ⟨before, '.' :: (e ++ rest)⟩ :=
    (Reader.mem_ends_of_words rfl words_extensionReader).mpr ⟨_, List.mem_map_of_mem he, rfl, rfl⟩
  obtain ⟨-, -, -, hbefore⟩ := mem_ends_extension hy
  obtain ⟨q, hq, -⟩ := head?_ends_query ⟨('.' :: e).getLast?.or before, rest⟩
  refine List.ne_nil_of_mem (List.mem_flatMap.mpr ⟨_, hy, ?_⟩) (a := q)
  rw [ends_edge hbefore, hedge]
  exact List.mem_flatMap.mpr ⟨_, List.mem_singleton_self _, List.mem_of_head? hq⟩

theorem Address.Stands.begins {a : Address} {v : List Char} (h : a.Stands v) : Begins (a.text ++ v) := by
  obtain ⟨scheme, body, e, query⟩ := a
  cases body with
  | nil => exact absurd rfl h.body_ne
  | cons c body =>
    obtain ⟨hc, hbody⟩ := List.forall_mem_cons.mp h.body
    refine ⟨scheme, h.scheme, c, hc, _, ⟨body, hbody, e, h.extension, query ++ v, h.edge, rfl⟩, ?_⟩
    simp [Address.text, Address.front]

/-- Behind its first character, the body that is preferred leads to the last extension. -/
theorem of_head?_run {before : Option Char} {rest : List Char} {q : Place}
    (h : (((Reader.star (.oneOf bodyChars none) true).ends ⟨before, rest⟩).flatMap behindBody).head? = some q) :
    ∃ body, (∀ c ∈ body, bodyChars.contains c.toNat) ∧ ∃ e ∈ extensions, ∃ query, Query query q.rest ∧
      startsWord (query ++ q.rest) = false ∧ ¬ HasExtension (query ++ q.rest) ∧
        rest = body ++ '.' :: (e ++ (query ++ q.rest)) := by
  obtain ⟨x, hx, hq, hlonger⟩ := Reader.head?_flatMap (Reader.pairwise_ends_run _) h
  obtain ⟨body, hbody, hrest, -⟩ := Reader.mem_ends_run.mp hx
  obtain ⟨e, he, query, hquery, hedge, hx⟩ := of_head?_behindBody hq
  have hrest : rest = body ++ '.' :: (e ++ (query ++ q.rest)) := by rw [← hx]; exact hrest
  refine ⟨body, hbody, e, he, query, hquery, hedge, ?_, hrest⟩
  -- from the end of a longer body there would be a match, too
  rintro ⟨later, hlater, e', he', rest', hedge', hrest'⟩
  have hlonger' := hlonger ⟨(body ++ '.' :: e ++ later).getLast?.or before, '.' :: (e' ++ rest')⟩
  refine behindBody_ne_nil he' hedge' (hlonger' (Reader.mem_ends_run.mpr ⟨_, ?_, ?_, rfl⟩) ?_ ?_)
  · exact List.forall_mem_append.mpr
      ⟨List.forall_mem_append.mpr ⟨hbody, bodyChars_of_mem_extensions e he⟩, hlater⟩
  · rw [hrest, hrest']
    simp
  all_goals
    rw [hx, hrest']
    simp only [List.length_cons, List.length_append]
    omega

/-- What matches is an address. -/
theorem exists_address {p : Place} {n : Nat} (h : addressRegex.matchLength? p = some n) :
    ∃ (a : Address) (v : List Char), a.Stands v ∧ p.rest = a.text ++ v ∧ n = a.text.length := by
  obtain ⟨q, hq, rfl⟩ := Option.map_eq_some_iff.mp h
  rw [ends_addressRegex, List.head?_flatMap] at hq
  obtain ⟨⟨before, rest⟩, hy, hq⟩ := List.exists_of_findSome?_eq_some hq
  obtain ⟨scheme, hscheme, hp, -⟩ := (Reader.mem_ends_of_words rfl words_schemeReader).mp hy
  cases rest with
  | nil => cases hq
  | cons c rest =>
    have hq : ((bodyReader.ends ⟨before, c :: rest⟩).flatMap behindBody).head? = some q := hq
    rw [bodyReader, Reader.ends_again_cons] at hq
    split at hq
    · rename_i hc
      obtain ⟨body, hbody, e, he, query, hquery, hedge, hlongest, rfl⟩ := of_head?_run hq
      let a : Address := ⟨scheme, c :: body, e, query⟩
      have htext : p.rest = a.text ++ q.rest := by
        rw [hp]
        simp [a, Address.text, Address.front]
      refine ⟨a, q.rest, ⟨hscheme, List.cons_ne_nil _ _, List.forall_mem_cons.mpr ⟨hc, hbody⟩, he, hedge,
        hlongest, hquery⟩, htext, ?_⟩
      rw [htext, List.length_append, Nat.add_sub_cancel]
    · cases hq

theorem exists_matchLength? {p : Place} (h : Begins p.rest) : ∃ n, addressRegex.matchLength? p = some n := by
  obtain ⟨scheme, hscheme, c, hc, -, ⟨body, hbody, e, he, rest, hedge, rfl⟩, hp⟩ := h
  have hy : Place.mk (scheme.getLast?.or p.before) (c :: (body ++ '.' :: (e ++ rest))) ∈ schemeReader.ends p :=
    (Reader.mem_ends_of_words rfl words_schemeReader).mpr ⟨scheme, hscheme, hp, rfl⟩
  have hx : Place.mk (body.getLast?.or (some c)) ('.' :: (e ++ rest)) ∈
      (Reader.star (.oneOf bodyChars none) true).ends ⟨some c, body ++ '.' :: (e ++ rest)⟩ :=
    Reader.mem_ends_run.mpr ⟨body, hbody, rfl, rfl⟩
  obtain ⟨q, hq⟩ := List.exists_mem_of_ne_nil _ (behindBody_ne_nil he hedge)
  have hends : q ∈ addressRegex.reader.ends p := by
    rw [ends_addressRegex]
    refine List.mem_flatMap.mpr ⟨_, hy, List.mem_flatMap.mpr ⟨_, ?_, hq⟩⟩
    rw [bodyReader, Reader.ends_again_cons, if_pos hc]
    exact hx
  obtain ⟨q', hq'⟩ := Option.isSome_iff_exists.mp (List.isSome_head?.mpr (List.ne_nil_of_mem hends))
  exact ⟨_, congrArg _ hq'⟩

/-- How long the address is that a text starts with. -/
def addressLength? (s : List Char) : Option Nat := addressRegex.matchLength? ⟨none, s⟩

/-- An address is there whatever stands in front of it. -/
theorem matchLength?_text {a : Address} {v : List Char} (h : a.Stands v) (before : Option Char) :
    addressRegex.matchLength? ⟨before, a.text ++ v⟩ = some a.text.length := by
  obtain ⟨n, hn⟩ := exists_matchLength? (p := ⟨before, a.text ++ v⟩) h.begins
  obtain ⟨b, w, hb, hrest, rfl⟩ := exists_address hn
  rw [h.unique hb hrest] at hrest
  rw [hn, List.append_cancel_right hrest]

theorem addressLength?_eq_none {s : List Char} (h : ¬ Begins s) : addressLength? s = none := by
  rw [Option.eq_none_iff_forall_ne_some]
  intro n hn
  obtain ⟨a, v, ha, rfl, -⟩ := exists_address hn
  exact h ha.begins

theorem matchLength?_eq (before : Option Char) (s : List Char) :
    addressRegex.matchLength? ⟨before, s⟩ = addressLength? s := by
  by_cases h : Begins s
  · obtain ⟨n, hn⟩ := exists_matchLength? (p := ⟨before, s⟩) h
    obtain ⟨a, v, ha, rfl, -⟩ := exists_address hn
    exact (matchLength?_text ha before).trans (matchLength?_text ha none).symm
  · rw [addressLength?_eq_none h, Option.eq_none_iff_forall_ne_some]
    intro n hn
    obtain ⟨a, v, ha, rfl, -⟩ := exists_address hn
    exact h ha.begins

theorem pieces_addressRegex (s : List Char) : addressRegex.pieces s = scan addressLength? s :=
  pieces_eq_scan rfl rfl matchLength?_eq s

end DeckPress.Asset
