import Mathlib.Data.List.Induction
import Mathlib.Data.List.Nodup
import DeckPress.Asset.Rewrite
import DeckPress.Proofs.Regex.Leftmost
import DeckPress.Proofs.Sorted

/-!
# What a cache is asked for

A cache may answer one way now and another way later. What is known of addresses is therefore read off the calls
that have been made, and two facts are carried from one call to the next, and from one pattern to the next: the
calls are those for the texts matched so far, one for each, and what is known is what they were answered. So while
matches are replaced, each of them has its answer, and that answer never changes.
-/

namespace DeckPress.Asset

open Text Regex

section Calls

variable {σ : Type} (materialize : String → StateM σ (Except Error Path))

/-- Calls of a cache that lead from one of its states to another, each with its answer. -/
inductive Calls (s : σ) : List (String × Except Error Path) → σ → Prop where
  | none : Calls s [] s
  | next {calls : List (String × Except Error Path)} {s' s'' : σ} {url : String} {answer : Except Error Path}
      (before : Calls s calls s') (call : (materialize url).run s' = (answer, s'')) :
      Calls s (calls ++ [(url, answer)]) s''

/-- For the texts that have been matched so far, the cache has been asked once for each, in the order in which they
were first met. -/
structure Asked (s : σ) (matched : List String) (calls : List (String × Except Error Path)) (s' : σ) : Prop where
  made : Calls materialize s calls s'
  once : calls.map Prod.fst = matched.eraseDups

end Calls

section Answers

variable (deckRoot : Path) (calls : List (String × Except Error Path))

/-- The path by which a copy is found, if a cache has one. -/
def copyPath? : Except Error Path → Option String
  | .ok file => some (publicPath deckRoot file)
  | .error _ => none

/-- The report of a call that failed. -/
def report? : String × Except Error Path → Option Degradation
  | (_, .ok _) => none
  | (url, .error e) => some (.assetFetchFailed url e.message)

/-- What stands in place of a text after these calls: the path of its copy, or the text itself if it has none. -/
def copyIn (url : List Char) : List Char :=
  match calls.lookup (String.ofList url) with
  | some (.ok file) => (publicPath deckRoot file).toList
  | _ => url

/-- A text in which one pattern after the other has been applied, and the texts that were matched on the way. Each
pattern takes apart what the one before it left, and its matches are replaced by their copies. -/
inductive Rewrites : List Regex → List Char → List String → List Char → Prop where
  | done (text : List Char) : Rewrites [] text [] text
  | pattern {r : Regex} {patterns : List Regex} {text out : List Char} {pieces : List Piece} {later : List String}
      (cut : r.IsCut text pieces)
      (rest : Rewrites patterns (pieces.flatMap (Piece.replaced (copyIn deckRoot calls))) later out) :
      Rewrites (r :: patterns) text ((pieces.filterMap Piece.found?).map String.ofList ++ later) out

/-- What is known after these calls. -/
def knownFrom : Known := calls.foldl (fun k call => k.note deckRoot call.1 call.2) {}

end Answers

/-! ## Texts in the order in which they are met -/

theorem eraseDups_snoc (texts : List String) (text : String) :
    (texts ++ [text]).eraseDups = if text ∈ texts then texts.eraseDups else texts.eraseDups ++ [text] := by
  rw [List.eraseDups_append]
  split
  · rename_i hmem
    simp [List.removeAll, hmem]
  · rename_i hmem
    simp [List.removeAll, hmem, List.eraseDups_cons]

theorem nodup_eraseDups (texts : List String) : texts.eraseDups.Nodup := by
  induction texts using List.reverseRec with
  | nil => exact List.nodup_nil
  | append_singleton texts text ih =>
    rw [eraseDups_snoc]
    split
    · exact ih
    · rename_i hmem
      have hnew : text ∉ texts.eraseDups := by rwa [List.mem_eraseDups]
      exact List.nodup_append_comm.mpr (List.nodup_cons.mpr ⟨hnew, ih⟩)

/-! ## What is known after calls -/

section Answers

variable {deckRoot : Path} {calls : List (String × Except Error Path)}

theorem knownFrom_snoc (deckRoot : Path) (calls : List (String × Except Error Path)) (url : String)
    (answer : Except Error Path) :
    knownFrom deckRoot (calls ++ [(url, answer)]) = (knownFrom deckRoot calls).note deckRoot url answer := by
  rw [knownFrom, List.foldl_append]
  rfl

theorem copies_note (k : Known) (url : String) (answer : Except Error Path) :
    (k.note deckRoot url answer).copies = (url, copyPath? deckRoot answer) :: k.copies := by
  cases answer <;> rfl

theorem degradations_note (k : Known) (url : String) (answer : Except Error Path) :
    (k.note deckRoot url answer).degradations = k.degradations ++ [(url, answer)].filterMap report? := by
  cases answer with
  | ok file => exact (List.append_nil _).symm
  | error e => rfl

theorem lookup_knownFrom (h : (calls.map Prod.fst).Nodup) (url : String) :
    (knownFrom deckRoot calls).copies.lookup url = (calls.lookup url).map (copyPath? deckRoot) := by
  induction calls using List.reverseRec with
  | nil => rfl
  | append_singleton calls call ih =>
    obtain ⟨other, answer⟩ := call
    rw [List.map_append, List.nodup_append_comm] at h
    obtain ⟨hnew, hcalls⟩ := List.nodup_cons.mp h
    rw [knownFrom_snoc, copies_note, lookup_cons_eq, List.lookup_append, ih hcalls, lookup_cons_eq]
    by_cases hsame : url = other
    · -- no earlier call was for the same text
      have hnone : calls.lookup other = none := by
        rw [Option.eq_none_iff_forall_ne_some]
        intro earlier hearlier
        exact hnew ((mem_keys_iff_lookup calls other).mpr ⟨earlier, hearlier⟩)
      rw [if_pos hsame, if_pos hsame, hsame, hnone]
      rfl
    · rw [if_neg hsame, if_neg hsame, List.lookup_nil, Option.or_none]

theorem degradations_knownFrom (deckRoot : Path) (calls : List (String × Except Error Path)) :
    (knownFrom deckRoot calls).degradations = calls.filterMap report? := by
  induction calls using List.reverseRec with
  | nil => rfl
  | append_singleton calls call ih =>
    rw [knownFrom_snoc, degradations_note, ih, List.filterMap_append]

theorem image_knownFrom (h : (calls.map Prod.fst).Nodup) (url : List Char) :
    (knownFrom deckRoot calls).image url = copyIn deckRoot calls url := by
  rw [Known.image, lookup_knownFrom h, copyIn]
  cases calls.lookup (String.ofList url) with
  | none => rfl
  | some answer => cases answer <;> rfl

/-- Later calls do not change what stands in place of a text that a call was made for. -/
theorem copyIn_append {url : List Char} (h : String.ofList url ∈ calls.map Prod.fst)
    (more : List (String × Except Error Path)) : copyIn deckRoot (calls ++ more) url = copyIn deckRoot calls url := by
  obtain ⟨answer, hanswer⟩ := (mem_keys_iff_lookup calls _).mp h
  rw [copyIn, copyIn, List.lookup_append, hanswer, Option.some_or]

end Answers

/-! ## Asking -/

section Asking

variable {σ : Type} {materialize : String → StateM σ (Except Error Path)} {deckRoot : Path} {s s' : σ}
  {matched : List String} {calls : List (String × Except Error Path)}

theorem Asked.nodup (h : Asked materialize s matched calls s') : (calls.map Prod.fst).Nodup := by
  rw [h.once]
  exact nodup_eraseDups matched

theorem Asked.mem_iff (h : Asked materialize s matched calls s') {url : String} :
    url ∈ calls.map Prod.fst ↔ url ∈ matched := by
  rw [h.once, List.mem_eraseDups]

/-- A step: a text that has been met needs no call, and for another there is one. -/
theorem Asked.consult (h : Asked materialize s matched calls s') (deckRoot : Path) (url : String) :
    ∃ more s'', Asked materialize s (matched ++ [url]) (calls ++ more) s'' ∧
      ((knownFrom deckRoot calls).consult materialize deckRoot url).run s' =
        (knownFrom deckRoot (calls ++ more), s'') := by
  have hmet : ((knownFrom deckRoot calls).copies.lookup url).isSome ↔ url ∈ matched := by
    rw [lookup_knownFrom h.nodup, Option.isSome_map, ← h.mem_iff, mem_keys_iff_lookup, Option.isSome_iff_exists]
  unfold Known.consult
  by_cases hurl : url ∈ matched
  · refine ⟨[], s', ⟨?_, ?_⟩, ?_⟩
    · rw [List.append_nil]
      exact h.made
    · rw [List.append_nil, eraseDups_snoc, if_pos hurl, h.once]
    · rw [if_pos (hmet.mpr hurl), List.append_nil]
      rfl
  · obtain ⟨answer, s'', hcall⟩ : ∃ answer s'', (materialize url).run s' = (answer, s'') := ⟨_, _, rfl⟩
    refine ⟨[(url, answer)], s'', ⟨h.made.next hcall, ?_⟩, ?_⟩
    · rw [List.map_append, h.once, eraseDups_snoc, if_neg hurl]
      rfl
    · rw [if_neg (mt hmet.mp hurl), StateT.run_bind, hcall, knownFrom_snoc]
      rfl

/-- A run: the texts of all matches of a pattern are asked for, as far as they have not been met. -/
theorem Asked.consultAll (h : Asked materialize s matched calls s') (deckRoot : Path) (urls : List (List Char)) :
    ∃ more s'', Asked materialize s (matched ++ urls.map String.ofList) (calls ++ more) s'' ∧
      ((knownFrom deckRoot calls).consultAll materialize deckRoot urls).run s' =
        (knownFrom deckRoot (calls ++ more), s'') := by
  induction urls generalizing matched calls s' with
  | nil => exact ⟨[], s', by simpa using h, by rw [List.append_nil]; rfl⟩
  | cons url urls ih =>
    obtain ⟨first, s₁, hfirst, hrun⟩ := h.consult deckRoot (String.ofList url)
    obtain ⟨more, s₂, hmore, hruns⟩ := ih hfirst
    refine ⟨first ++ more, s₂, ?_, ?_⟩
    · simpa using hmore
    · rw [Known.consultAll, List.foldlM_cons, StateT.run_bind, hrun, ← List.append_assoc]
      exact hruns

/-- One pattern after the other, with the answers of all calls, those to come included. -/
theorem Asked.runPatterns (h : Asked materialize s matched calls s') (deckRoot : Path) (patterns : List Regex)
    (text : List Char) :
    ∃ more later out s'', Asked materialize s (matched ++ later) (calls ++ more) s'' ∧
      Rewrites deckRoot (calls ++ more) patterns text later out ∧
      (patterns.foldlM (runPattern materialize deckRoot) (text, knownFrom deckRoot calls)).run s' =
        ((out, knownFrom deckRoot (calls ++ more)), s'') := by
  induction patterns generalizing matched calls s' text with
  | nil =>
    refine ⟨[], [], text, s', ?_, .done text, ?_⟩
    · simpa using h
    · rw [List.append_nil]
      rfl
  | cons r patterns ih =>
    let urls := (r.pieces text).filterMap Piece.found?
    obtain ⟨first, s₁, hfirst, hrun⟩ := h.consultAll deckRoot urls
    let copied := (r.pieces text).flatMap (Piece.replaced (copyIn deckRoot (calls ++ first)))
    obtain ⟨more, later, out, s₂, hmore, hrewrites, hruns⟩ := ih hfirst copied
    -- what has been put in place of the matches is what all calls together say
    have hcopied : copied = (r.pieces text).flatMap (Piece.replaced (copyIn deckRoot (calls ++ first ++ more))) := by
      refine List.flatMap_congr fun piece hpiece => ?_
      cases piece with
      | kept c => rfl
      | found url =>
        refine (copyIn_append (hfirst.mem_iff.mpr ?_) more).symm
        exact List.mem_append_right _ (List.mem_map_of_mem (List.mem_filterMap.mpr ⟨_, hpiece, rfl⟩))
    have hpattern : (runPattern materialize deckRoot (text, knownFrom deckRoot calls) r).run s' =
        ((copied, knownFrom deckRoot (calls ++ first)), s₁) := by
      have himage : (knownFrom deckRoot (calls ++ first)).image = copyIn deckRoot (calls ++ first) :=
        funext (image_knownFrom hfirst.nodup)
      unfold runPattern
      dsimp only
      rw [StateT.run_bind, hrun]
      show (((r.pieces text).flatMap (Piece.replaced (knownFrom deckRoot (calls ++ first)).image), _), s₁) = _
      rw [himage]
    refine ⟨first ++ more, urls.map String.ofList ++ later, out, s₂, ?_, ?_, ?_⟩
    · rw [← List.append_assoc, ← List.append_assoc]
      exact hmore
    · rw [← List.append_assoc]
      refine .pattern (isCut_pieces r text) ?_
      rw [← hcopied]
      exact hrewrites
    · rw [List.foldlM_cons, StateT.run_bind, hpattern, ← List.append_assoc]
      exact hruns

end Asking

/-! ## Rewriting -/

/-- With rewriting enabled, each pattern replaces its leftmost matches in what the one before it left: a match by
the path of its copy, or not at all if the cache failed; and nothing else is changed. For all patterns together
the cache is asked once for each text that is matched, in the order in which they are met, and the calls that
failed are reported in that order. With rewriting disabled nothing is changed, and the cache is not asked. The
cache may be any: its answers may depend on what it has been asked before. -/
theorem rewrite_exact {σ : Type} (w : Rewriter) (materialize : String → StateM σ (Except Error Path))
    (code : String)
    (s : σ) :
    (w.enabled = false → (w.rewriteWith materialize code).run s = ((code, []), s)) ∧
    (w.enabled = true → ∃ matched calls out s',
      Rewrites w.deckRoot calls w.patterns code.toList matched out ∧ Asked materialize s matched calls s' ∧
      (w.rewriteWith materialize code).run s = ((String.ofList out, calls.filterMap report?), s')) := by
  refine ⟨fun hoff => ?_, fun hon => ?_⟩
  · unfold Rewriter.rewriteWith
    rw [hoff]
    rfl
  · have hnone : Asked materialize s [] [] s := ⟨.none, rfl⟩
    obtain ⟨calls, matched, out, s', hasked, hrewrites, hrun⟩ := hnone.runPatterns w.deckRoot w.patterns code.toList
    refine ⟨matched, calls, out, s', hrewrites, hasked, ?_⟩
    unfold Rewriter.rewriteWith
    rw [hon, if_neg (by decide), StateT.run_bind]
    rw [List.nil_append] at hrun
    have hstart : (code.toList, ({} : Known)) = (code.toList, knownFrom w.deckRoot []) := rfl
    rw [hstart, hrun, ← degradations_knownFrom w.deckRoot]
    rfl

/-- Two patterns for single letters, of which the second one matches in copies, too. -/
def letterRewriter : Rewriter := ⟨true, [.oneOf (.range 'x' 'y'), .oneOf (.range 's' 'y')], ⟨"/deck"⟩⟩

/-- A cache that counts its calls, and fails in the second one. -/
def failsSecond (url : String) : StateM Nat (Except Error Path) := fun count =>
  (if count = 1 then .error (.validation (.offline url)) else .ok ⟨"/deck/s"⟩, count + 1)

/-- Three texts are matched in six places, and the cache is asked three times. The one that it fails for stays
where the second pattern matches it again. -/
theorem rewrite_exact_letters :
    (∃ matched calls out s', Rewrites ⟨"/deck"⟩ calls letterRewriter.patterns "xyx".toList matched out ∧
      Asked failsSecond 0 matched calls s' ∧
      (letterRewriter.rewriteWith failsSecond "xyx").run 0 = ((String.ofList out, calls.filterMap report?), s')) ∧
    (letterRewriter.rewriteWith failsSecond "xyx").run 0 =
      (("//sy//s", [.assetFetchFailed "y" (Error.validation (.offline "y")).message]), 3) := by
  refine ⟨(rewrite_exact letterRewriter failsSecond "xyx" 0).2 rfl, ?_⟩
  rfl

end DeckPress.Asset
