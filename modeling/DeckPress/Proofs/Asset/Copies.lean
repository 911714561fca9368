import DeckPress.Asset.Rewrite
import DeckPress.Proofs.Disk.Extension
import DeckPress.Proofs.Sorted

/-!
# Copies of remote assets

What is known of an address depends on the cache alone, once the address has been met: it does not matter how
often, or between which others. Only addresses without a copy are reported. The path of a copy is written with
the deck's directory as the root.
-/

namespace DeckPress.Asset

open DeckPress.Path

/-! ## Paths of copies -/

section PublicPath

variable {root file rest : Path}

/-- The path of a copy below a directory is what is left of it there. -/
theorem publicPath_below (hroot : root.isAbsolute) (hplain : '\\' ∉ file.chars)
    (h : file.stripPrefix? root = some rest) : (publicPath root file).toList = '/' :: rest.chars := by
  have hrest : rest.slashed = rest.text :=
    slashed_eq fun hmem => hplain (mem_of_stripPrefix? hroot h hmem)
  unfold publicPath
  rw [h]
  show ("/" ++ rest.slashed).toList = _
  rw [hrest, String.toList_append]
  rfl

end PublicPath

/-! ## What is known of addresses -/

section Known

variable (materialize : String → Except Error Path) (deckRoot : Path)

/-- Asks for the copy of an address that has not been met before, where the answer depends on the address alone. -/
def Known.ask (k : Known) (url : String) : Known :=
  if (k.copies.lookup url).isSome then k else k.note deckRoot url (materialize url)

/-- The path of the copy of an address, if there is one. -/
def copyOf? (url : String) : Option String :=
  match materialize url with
  | .ok file => some (publicPath deckRoot file)
  | .error _ => none

def copyText? (url : List Char) : Option (List Char) :=
  (copyOf? materialize deckRoot (String.ofList url)).map String.toList

/-- Asks for the copies of several addresses, one after the other. -/
def Known.askAll (k : Known) (urls : List (List Char)) : Known :=
  urls.foldl (fun k url => k.ask materialize deckRoot (String.ofList url)) k

/-- Applies one pattern. -/
def applyPattern (state : List Char × Known) (r : Regex) : List Char × Known :=
  let pieces := r.pieces state.1
  let known := state.2.askAll materialize deckRoot (pieces.filterMap Piece.found?)
  (pieces.flatMap (Piece.replaced known.image), known)

end Known

namespace Known

variable {materialize : String → Except Error Path} {deckRoot : Path} {k k' : Known}

theorem lookup_ask (k : Known) (url other : String) :
    (k.ask materialize deckRoot url).copies.lookup other =
      (k.copies.lookup other).or (if other = url then some (copyOf? materialize deckRoot url) else none) := by
  by_cases hmet : (k.copies.lookup url).isSome
  · rw [ask, if_pos hmet]
    split
    · rename_i hsame
      obtain ⟨copy, hcopy⟩ := Option.isSome_iff_exists.mp hmet
      rw [hsame, hcopy, Option.some_or]
    · rw [Option.or_none]
  · have hasked : (k.ask materialize deckRoot url).copies =
        (url, copyOf? materialize deckRoot url) :: k.copies := by
      rw [ask, if_neg hmet, copyOf?]
      cases materialize url <;> rfl
    rw [hasked, lookup_cons_eq]
    by_cases hsame : other = url
    · rw [if_pos hsame, if_pos hsame, hsame, Option.not_isSome_iff_eq_none.mp hmet, Option.none_or]
    · rw [if_neg hsame, if_neg hsame, Option.or_none]

/-- Of an address that has been met it is known whether it has a copy. -/
theorem lookup_askAll (k : Known) (urls : List (List Char)) (other : String) :
    (k.askAll materialize deckRoot urls).copies.lookup other = (k.copies.lookup other).or
      (if other ∈ urls.map String.ofList then some (copyOf? materialize deckRoot other) else none) := by
  induction urls generalizing k with
  | nil => exact (Option.or_none).symm
  | cons url urls ih =>
    have hfirst : k.askAll materialize deckRoot (url :: urls) =
        (k.ask materialize deckRoot (String.ofList url)).askAll materialize deckRoot urls := rfl
    rw [hfirst, ih, lookup_ask, Option.or_assoc]
    refine congrArg _ ?_
    by_cases hsame : other = String.ofList url
    · simp only [List.map_cons, List.mem_cons, hsame, true_or, if_true, Option.some_or]
    · simp only [List.map_cons, List.mem_cons, hsame, false_or, if_false, Option.none_or]

theorem image_askAll {urls : List (List Char)} {url : List Char} (h : url ∈ urls) :
    (askAll materialize deckRoot {} urls).image url = (copyText? materialize deckRoot url).getD url := by
  rw [image, lookup_askAll, List.lookup_nil, Option.none_or, if_pos (List.mem_map_of_mem h), copyText?]
  cases copyOf? materialize deckRoot (String.ofList url) <;> rfl

theorem degradations_ask_of_isSome {url : String} (h : (copyOf? materialize deckRoot url).isSome) :
    (k.ask materialize deckRoot url).degradations = k.degradations := by
  rw [ask]
  split
  · rfl
  · unfold copyOf? at h
    cases hurl : materialize url with
    | ok file => rfl
    | error e => rw [hurl] at h; cases h

/-- Whether an address is reported depends on whether it has been met. -/
theorem degradations_ask_congr {url : String} (hreports : k'.degradations = k.degradations)
    (hmet : k'.copies.lookup url = k.copies.lookup url) :
    (k'.ask materialize deckRoot url).degradations = (k.ask materialize deckRoot url).degradations := by
  rw [ask, ask, hmet]
  split
  · exact hreports
  · cases materialize url with
    | ok file => exact hreports
    | error e => exact congrArg (· ++ _) hreports

/-- Addresses that have a copy do not matter to what is reported. -/
theorem degradations_askAll_filter (urls : List (List Char)) (hreports : k'.degradations = k.degradations)
    (hmet : ∀ url, copyOf? materialize deckRoot url = none → k'.copies.lookup url = k.copies.lookup url) :
    (k'.askAll materialize deckRoot
        (urls.filter fun url => (copyText? materialize deckRoot url).isNone)).degradations =
      (k.askAll materialize deckRoot urls).degradations := by
  induction urls generalizing k k' with
  | nil => exact hreports
  | cons url urls ih =>
    cases hcopy : copyOf? materialize deckRoot (String.ofList url) with
    | none =>
      rw [List.filter_cons_of_pos (by rw [copyText?, hcopy]; rfl)]
      refine ih (degradations_ask_congr hreports (hmet _ hcopy)) fun other hother => ?_
      rw [lookup_ask, lookup_ask, hmet other hother]
    | some copy =>
      rw [List.filter_cons_of_neg (by rw [copyText?, hcopy]; exact Bool.false_ne_true)]
      refine ih (hreports.trans (degradations_ask_of_isSome (by rw [hcopy]; rfl)).symm) fun other hother => ?_
      have hother' : other ≠ String.ofList url := by
        rintro rfl
        rw [hcopy] at hother
        cases hother
      rw [lookup_ask, if_neg hother', Option.or_none, hmet other hother]

end Known

/-! ## A cache without a state -/

section Stateless

variable (materialize : String → Except Error Path) (deckRoot : Path)

theorem consult_run {σ : Type} (k : Known) (url : String) (s : σ) :
    (k.consult (fun url => return materialize url) deckRoot url).run s = (k.ask materialize deckRoot url, s) := by
  unfold Known.consult Known.ask
  split <;> rfl

theorem consultAll_run {σ : Type} (k : Known) (urls : List (List Char)) (s : σ) :
    (k.consultAll (fun url => return materialize url) deckRoot urls).run s =
      (k.askAll materialize deckRoot urls, s) := by
  induction urls generalizing k with
  | nil => rfl
  | cons url urls ih =>
    rw [Known.consultAll, List.foldlM_cons, StateT.run_bind, consult_run]
    exact ih _

theorem runPattern_run {σ : Type} (state : List Char × Known) (r : Regex) (s : σ) :
    (runPattern (fun url => return materialize url) deckRoot state r).run s =
      (applyPattern materialize deckRoot state r, s) := by
  unfold runPattern
  rw [StateT.run_bind, consultAll_run]
  rfl

theorem runPatterns_run {σ : Type} (patterns : List Regex) (state : List Char × Known) (s : σ) :
    (patterns.foldlM (runPattern (fun url => return materialize url) deckRoot) state).run s =
      (patterns.foldl (applyPattern materialize deckRoot) state, s) := by
  induction patterns generalizing state with
  | nil => rfl
  | cons r patterns ih =>
    rw [List.foldlM_cons, StateT.run_bind, runPattern_run]
    exact ih _

/-- Without a state, patterns are applied one after the other to the text and what is known. -/
theorem Rewriter.rewrite_eq_foldl (w : Rewriter) (code : String) :
    w.rewrite materialize code =
      if !w.enabled then (code, [])
      else
        let state := w.patterns.foldl (applyPattern materialize w.deckRoot) (code.toList, {})
        (String.ofList state.1, state.2.degradations) := by
  unfold Rewriter.rewrite Rewriter.rewriteWith
  split
  · rfl
  · dsimp only
    rw [StateT.run_bind, runPatterns_run]
    rfl

end Stateless

end DeckPress.Asset
