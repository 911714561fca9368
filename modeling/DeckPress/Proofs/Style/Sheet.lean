import Mathlib.Data.Prod.Lex
import DeckPress.Proofs.Style.Scanning
import DeckPress.Proofs.Style.Selectors

/-!
# The layout of a stylesheet

Rules are written one behind the other, and a media query is opened or closed where two neighbours differ in
theirs. That makes one query of all rules that ask for a screen width because the place of the width comes
first in the order of rules: sorted rules fall into sections, of which each has the rules with one media
query, and the sections come in the order of the breakpoints. Since the order is strict, the set of tokens
decides the order of their rules, and with it the text.

What the sections are written for is known from the scans: they have one rule for each token that some file has
handed in since the last build started, with a selector of its own, and no others.
-/

namespace DeckPress.Style

open Text

/-- The sections of a stylesheet: the rules for any screen, and those of each breakpoint, narrowest first. -/
def sections : List (Option String) := none :: breakpoints.map fun b => some b.2

/-- The text of a section. A media query without rules is left out. -/
def sectionText (media : Option String) (rules : List Rule) : String :=
  match media with
  | none => String.join (rules.map Rule.css)
  | some condition =>
    if rules = [] then ""
    else "@media " ++ condition ++ " \x7b\n" ++ String.join (rules.map Rule.css) ++ "\x7d\n"

/-- The condition of the screen width that a token asks for. -/
def conditionOf? (token : String) : Option String := (variantsOf token).findSome? (breakpoints.lookup ·)

/-- The number of states that a token asks for. -/
def statesOf (token : String) : Nat := (variantsOf token).countP (· ∈ countedVariants)

/-! ## What the order of a rule says -/

theorem rule?_media {t : Theme} {token : String} {r : Rule} (h : t.rule? token = some r) :
    r.media = conditionOf? token := by
  obtain ⟨-, -, ds, -, rfl⟩ := rule?_eq_some.mp h
  show ((variantsOf token).findSome? screen?).map Prod.snd = _
  rw [List.map_findSome?]
  exact congrArg (List.findSome? · _) (funext screen?_snd)

theorem rule?_states {t : Theme} {token : String} {r : Rule} (h : t.rule? token = some r) :
    r.order.2 = statesOf token := by
  obtain ⟨-, hnames, ds, -, rfl⟩ := rule?_eq_some.mp h
  exact stateCount_ofList hnames.nodup

/-- The place in the order of a rule is that of its section. -/
theorem rule?_section {t : Theme} {token : String} {r : Rule} (h : t.rule? token = some r) :
    sections[r.order.1]? = some r.media := by
  obtain ⟨-, -, ds, -, rfl⟩ := rule?_eq_some.mp h
  show sections[(((variantsOf token).findSome? screen?).map Prod.fst).getD 0]? =
    some (((variantsOf token).findSome? screen?).map Prod.snd)
  cases hfind : (variantsOf token).findSome? screen? with
  | none => rfl
  | some screen =>
    obtain ⟨name, -, hname⟩ := List.exists_of_findSome?_eq_some hfind
    have hsome : (screen? name).isSome := by rw [hname]; rfl
    have hall := forall_screen?
      (P := fun name => (screen? name).all fun screen => sections[screen.1]? = some (some screen.2))
      (by decide) hsome
    rw [hname, Option.all_some, decide_eq_true_eq] at hall
    exact hall

theorem nodup_sections : sections.Nodup := by decide

theorem rule?_mem_sections {t : Theme} {token : String} {r : Rule} (h : t.rule? token = some r) :
    r.media ∈ sections := List.mem_of_getElem? (rule?_section h)

theorem idxOf_media {t : Theme} {token : String} {r : Rule} (h : t.rule? token = some r) :
    sections.idxOf r.media = r.order.1 := by
  obtain ⟨hlt, hsection⟩ := List.getElem?_eq_some_iff.mp (rule?_section h)
  rw [← hsection]
  exact nodup_sections.idxOf_getElem _ hlt

/-! ## Sorted rules -/

/-- What rules are sorted by: screen width, states, token. -/
def Rule.key (r : Rule) : ℕ ×ₗ ℕ ×ₗ String := toLex (r.order.1, toLex (r.order.2, r.token))

theorem Rule.le_iff {a b : Rule} : Rule.le a b ↔ a.key ≤ b.key := by
  unfold Rule.le Rule.key
  rw [Prod.Lex.toLex_le_toLex, Prod.Lex.toLex_le_toLex]
  dsimp only
  rw [le_iff_lt_or_eq (a := a.token)]
  split
  · simp_all
  · split
    · simp_all
    · simp_all

theorem Rule.key_lt {a b : Rule} : a.key < b.key ↔ a.order.1 < b.order.1 ∨ a.order.1 = b.order.1 ∧
    (a.order.2 < b.order.2 ∨ a.order.2 = b.order.2 ∧ a.token < b.token) := by
  unfold Rule.key
  rw [Prod.Lex.toLex_lt_toLex, Prod.Lex.toLex_lt_toLex]

/-- Rules of different tokens are sorted strictly. -/
theorem sorted_sheetRules (t : Theme) {tokens : TokenSet} (h : tokens.Nodup) :
    (t.sheetRules tokens).Pairwise fun a b => a.key < b.key := by
  have hsorted : (t.sheetRules tokens).Pairwise fun a b => a.key ≤ b.key := by
    refine (List.pairwise_mergeSort (fun a b c hab hbc => ?_) (fun a b => ?_) _).imp Rule.le_iff.mp
    · exact Rule.le_iff.mpr (le_trans (Rule.le_iff.mp hab) (Rule.le_iff.mp hbc))
    · rw [Bool.or_eq_true, Rule.le_iff, Rule.le_iff]
      exact le_total _ _
  have hdistinct := List.pairwise_map.mp (nodup_sheetRules t h)
  refine hsorted.imp₂ (fun a b hle hne => lt_of_le_of_ne hle fun hkey => hne ?_) hdistinct
  exact congrArg (fun k : ℕ ×ₗ ℕ ×ₗ String => (ofLex (ofLex k).2).2) hkey

/-- The same tokens have the same rules in the same order. -/
theorem sheetRules_congr (t : Theme) {tokens tokens' : TokenSet} (h : tokens.Nodup) (h' : tokens'.Nodup)
    (hsame : ∀ token, token ∈ tokens ↔ token ∈ tokens') : t.sheetRules tokens = t.sheetRules tokens' := by
  refine List.Pairwise.eq_of_mem_iff (sorted_sheetRules t h) (sorted_sheetRules t h') fun r => ?_
  rw [mem_sheetRules, mem_sheetRules, hsame]

/-! ## Sections -/

section Partition

variable {α κ : Type} [DecidableEq κ]

/-- If what passes a test stands in front of what does not, the test cuts the list in two. -/
theorem filter_append_filter_not {p : α → Bool} {l : List α} (h : l.Pairwise fun a b => p b → p a) :
    l.filter p ++ l.filter (fun a => !p a) = l := by
  induction l with
  | nil => rfl
  | cons a l ih =>
    obtain ⟨hfirst, hrest⟩ := List.pairwise_cons.mp h
    cases hp : p a with
    | true => simp [hp, ih hrest]
    | false =>
      have hnone : l.filter p = [] := by
        rw [List.filter_eq_nil_iff]
        intro b hb hpb
        rw [hfirst b hb hpb] at hp
        cases hp
      have hl := ih hrest
      rw [hnone, List.nil_append] at hl
      simp [hp, hnone, hl]

/-- A list that is sorted by the place of a label is put together of its parts with one label. -/
theorem flatMap_filter_eq (place : κ → Nat) (label : α → κ) {labels : List κ}
    (hlabels : labels.Pairwise fun k k' => place k < place k') {l : List α}
    (hmem : ∀ a ∈ l, label a ∈ labels) (hl : l.Pairwise fun a b => place (label a) ≤ place (label b)) :
    labels.flatMap (fun k => l.filter (label · = k)) = l := by
  -- the part with the first label stands in front, and what is left has the other labels only
  induction labels generalizing l with
  | nil =>
    cases l with
    | nil => rfl
    | cons a l => cases hmem a List.mem_cons_self
  | cons k labels ih =>
    obtain ⟨hfirst, hrest⟩ := List.pairwise_cons.mp hlabels
    have hcut : l.filter (label · = k) ++ l.filter (fun a => !decide (label a = k)) = l := by
      refine filter_append_filter_not (hl.imp_of_mem fun {a b} ha _ hab hb => ?_)
      rw [decide_eq_true_eq] at hb ⊢
      rcases List.mem_cons.mp (hmem a ha) with ha | ha
      · exact ha
      · have hlt := hfirst _ ha
        rw [hb] at hab
        omega
    have hothers := ih hrest (l := l.filter (fun a => !decide (label a = k))) (fun a ha => by
      obtain ⟨ha, hne⟩ := List.mem_filter.mp ha
      exact (List.mem_cons.mp (hmem a ha)).resolve_left (by simpa using hne)) (hl.filter _)
    have hsame : labels.flatMap (fun k' => (l.filter (fun a => !decide (label a = k))).filter (label · = k')) =
        labels.flatMap fun k' => l.filter (label · = k') := by
      refine List.flatMap_congr fun k' hk' => ?_
      rw [List.filter_filter]
      refine List.filter_congr fun a _ => ?_
      have hlt := hfirst k' hk'
      by_cases hk : label a = k'
      · have hne : k' ≠ k := by
          rintro rfl
          omega
        simp [hk, hne]
      · simp [hk]
    rw [List.flatMap_cons, ← hsame, hothers, hcut]

end Partition

/-! ## Writing rules one behind the other -/

theorem mediaBreak_self (media : Option String) : mediaBreak media media = "" := if_pos rfl

theorem mediaBreak_some {before : Option String} {condition : String} (h : before ≠ some condition) :
    mediaBreak before (some condition) = mediaBreak before none ++ ("@media " ++ condition ++ " \x7b\n") := by
  unfold mediaBreak
  rw [if_neg h]
  cases before with
  | none => rfl
  | some other => simp [String.append_assoc]

/-- Nothing stands between rules with the media query that is open. -/
theorem rulesText_append {media : Option String} {rules : List Rule} (h : ∀ r ∈ rules, r.media = media)
    (rest : List Rule) :
    rulesText media (rules ++ rest) = String.join (rules.map Rule.css) ++ rulesText media rest := by
  induction rules with
  | nil => simp
  | cons r rules ih =>
    obtain ⟨hr, hrules⟩ := List.forall_mem_cons.mp h
    rw [List.cons_append, rulesText, hr, mediaBreak_self, ih hrules]
    simp [String.append_assoc]

/-- Behind a query that is open, further sections are written one after the other. -/
theorem rulesText_conditions {rules : Option String → List Rule}
    (hrules : ∀ media, ∀ r ∈ rules media, r.media = media) {conditions : List String}
    (hnodup : conditions.Nodup) {before : Option String} (hbefore : ∀ c ∈ conditions, before ≠ some c) :
    rulesText before (conditions.flatMap fun c => rules (some c)) =
      mediaBreak before none ++ String.join (conditions.map fun c => sectionText (some c) (rules (some c))) := by
  induction conditions generalizing before with
  | nil => simp [rulesText]
  | cons c conditions ih =>
    obtain ⟨hc, hconditions⟩ := List.nodup_cons.mp hnodup
    obtain ⟨hfirst, hbefore⟩ := List.forall_mem_cons.mp hbefore
    rw [List.flatMap_cons, List.map_cons, sectionText]
    cases hsection : rules (some c) with
    | nil =>
      -- no query is opened, so the one before stays open
      rw [List.nil_append, ih hconditions hbefore]
      simp
    | cons r rest =>
      have hsame : ∀ x ∈ r :: rest, x.media = some c := hsection ▸ hrules (some c)
      obtain ⟨hr, hrest⟩ := List.forall_mem_cons.mp hsame
      have hlater : ∀ c' ∈ conditions, some c ≠ some c' :=
        fun c' hc' heq => hc (Option.some.inj heq ▸ hc')
      have hothers := ih hconditions hlater
      rw [List.cons_append, rulesText, hr, rulesText_append hrest, hothers, mediaBreak_some hfirst]
      simp [mediaBreak, String.append_assoc]

theorem rulesText_sections {rules : Option String → List Rule}
    (hrules : ∀ media, ∀ r ∈ rules media, r.media = media) :
    rulesText none (sections.flatMap rules) =
      String.join (sections.map fun media => sectionText media (rules media)) := by
  have hnodup : (breakpoints.map Prod.snd).Nodup := by decide
  have hfirst : ∀ c ∈ breakpoints.map Prod.snd, none ≠ some c := fun _ _ => nofun
  have hconditions := rulesText_conditions hrules hnodup hfirst
  rw [sections, List.flatMap_cons, rulesText_append (hrules none), List.flatMap_map, List.map_cons,
    List.map_map]
  rw [List.flatMap_map, List.map_map] at hconditions
  rw [hconditions, mediaBreak_self, String.empty_append, String.join_cons]
  rfl

/-! ## Stylesheets -/

/-- The rules of a stylesheet in their sections. -/
structure Theme.LaidOut (t : Theme) (tokens : TokenSet) (rules : Option String → List Rule) : Prop where
  /-- Each token that is a utility has its rule once, and there are no other rules. -/
  once : (sections.flatMap rules).Perm (tokens.filterMap t.rule?)
  /-- The rules of a section have its media query, which is the one that their tokens ask for. -/
  asked : ∀ media, ∀ r ∈ rules media, r.media = media ∧ conditionOf? r.token = media
  /-- Those that ask for fewer states come first, and then the tokens ascend. -/
  sorted : ∀ media, (rules media).Pairwise fun a b =>
    statesOf a.token < statesOf b.token ∨ statesOf a.token = statesOf b.token ∧ a.token < b.token

/-- The rules of a section. -/
def Theme.sectionRules (t : Theme) (tokens : TokenSet) (media : Option String) : List Rule :=
  (t.sheetRules tokens).filter (·.media = media)

theorem mem_sectionRules {t : Theme} {tokens : TokenSet} {media : Option String} {r : Rule} :
    r ∈ t.sectionRules tokens media ↔ (r.token ∈ tokens ∧ t.rule? r.token = some r) ∧ r.media = media := by
  rw [Theme.sectionRules, List.mem_filter, mem_sheetRules, decide_eq_true_eq]

/-- Sorted rules are the sections one after the other. -/
theorem flatMap_sectionRules (t : Theme) {tokens : TokenSet} (h : tokens.Nodup) :
    sections.flatMap (t.sectionRules tokens) = t.sheetRules tokens := by
  refine flatMap_filter_eq (fun media => sections.idxOf media) Rule.media (by decide) (fun r hr => ?_) ?_
  · exact rule?_mem_sections ((mem_sheetRules t tokens r).mp hr).2
  · refine (sorted_sheetRules t h).imp_of_mem fun {a b} ha hb hab => ?_
    rw [idxOf_media ((mem_sheetRules t tokens a).mp ha).2, idxOf_media ((mem_sheetRules t tokens b).mp hb).2]
    have hkey := Rule.key_lt.mp hab
    omega

theorem laidOut_sectionRules (t : Theme) {tokens : TokenSet} (h : tokens.Nodup) :
    t.LaidOut tokens (t.sectionRules tokens) where
  once := by
    rw [flatMap_sectionRules t h]
    exact List.mergeSort_perm _ _
  asked media r hr := by
    obtain ⟨⟨-, hrule⟩, hmedia⟩ := mem_sectionRules.mp hr
    exact ⟨hmedia, (rule?_media hrule).symm.trans hmedia⟩
  sorted media := by
    refine ((sorted_sheetRules t h).filter _).imp_of_mem fun {a b} ha hb hab => ?_
    obtain ⟨⟨-, ha⟩, hmedia⟩ := mem_sectionRules.mp ha
    obtain ⟨⟨-, hb⟩, hmedia'⟩ := mem_sectionRules.mp hb
    -- the place of the section is the same
    have hplace : a.order.1 = b.order.1 := by
      rw [← idxOf_media ha, ← idxOf_media hb, hmedia, hmedia']
    rw [← rule?_states ha, ← rule?_states hb]
    exact ((Rule.key_lt.mp hab).resolve_left (Nat.lt_irrefl _ <| hplace ▸ ·)).2

theorem stylesheet_sections (t : Theme) {tokens : TokenSet} (h : tokens.Nodup) :
    t.stylesheet tokens = sheetHeader ++
      String.join (sections.map fun media => sectionText media (t.sectionRules tokens media)) := by
  rw [stylesheet_eq, ← flatMap_sectionRules t h, rulesText_sections]
  intro media r hr
  exact (mem_sectionRules.mp hr).2

/-- A text of spaces. -/
def Spaces (s : String) : Prop := ∀ c ∈ s.toList, c = ' '

/-- The text of a rule: its selector, and in braces its declarations, one on each line. -/
structure Rule.WrittenAs (r : Rule) (indent : String) (lines : List String) (text : String) : Prop where
  indented : Spaces indent
  written : text = indent ++ r.selector ++ " \x7b\n" ++ String.join lines ++ indent ++ "\x7d\n"
  declared : List.Forall₂ (fun line d => ∃ blanks, Spaces blanks ∧
    line = blanks ++ d.property ++ ": " ++ d.value ++ ";\n") lines r.declarations

/-- Some rules are written for some tokens: each of these has one rule, whose text is written with a selector that
no other rule has, and no other token has a rule. -/
structure Theme.WrittenFor (t : Theme) (rules : List Rule) (asked : String → Prop) : Prop where
  own : ∀ r ∈ rules, t.rule? r.token = some r
  once : (rules.map Rule.token).Nodup
  all : ∀ token, token ∈ rules.map Rule.token ↔ asked token
  apart : (rules.map Rule.selector).Nodup
  text : ∀ r ∈ rules, ∃ indent lines, r.WrittenAs indent lines r.css

theorem Rule.writtenAs_css (r : Rule) : ∃ indent lines, r.WrittenAs indent lines r.css := by
  unfold Rule.css
  have hspaces (inside : Bool) : Spaces (if inside then "  " else "") ∧
      Spaces ((if inside then "  " else "") ++ "  ") := by
    cases inside <;> simp [Spaces]
  refine ⟨_, _, (hspaces r.media.isSome).1, rfl, ?_⟩
  refine List.forall₂_map_left_iff.mpr (List.forall₂_same.mpr fun d _ => ?_)
  exact ⟨_, (hspaces r.media.isSome).2, rfl⟩

/-- The rules of a stylesheet are written for its tokens, if all of these are utilities. -/
theorem writtenFor_sheetRules (t : Theme) {tokens : TokenSet} (h : tokens.Nodup)
    (hutility : ∀ token ∈ tokens, (t.rule? token).isSome) :
    t.WrittenFor (t.sheetRules tokens) (· ∈ tokens) where
  own r hr := ((mem_sheetRules t tokens r).mp hr).2
  once := nodup_sheetRules t h
  all token := by
    constructor
    · intro hmem
      obtain ⟨r, hr, rfl⟩ := List.mem_map.mp hmem
      exact ((mem_sheetRules t tokens r).mp hr).1
    · intro hmem
      obtain ⟨r, hr⟩ := Option.isSome_iff_exists.mp (hutility token hmem)
      have hown := rule?_token hr
      exact List.mem_map.mpr ⟨r, (mem_sheetRules t tokens r).mpr (hown.symm ▸ ⟨hmem, hr⟩), hown⟩
  apart := by
    have hdistinct := List.pairwise_map.mp (nodup_sheetRules t h)
    refine List.pairwise_map.mpr (hdistinct.imp_of_mem fun {a b} ha hb hne hsame => hne ?_)
    exact token_of_selector ((mem_sheetRules t tokens a).mp ha).2 ((mem_sheetRules t tokens b).mp hb).2 hsame
  text r _ := r.writtenAs_css

namespace Scanning

variable {t : Theme} {s : Scanning}

/-- A token is only ever recorded where it has a rule. -/
theorem ScanInv.utility (h : ScanInv t s) {token : String} (htoken : token ∈ s.collection.tokens) :
    (t.rule? token).isSome := by
  obtain ⟨file, hnotes⟩ := h.tidy.used token htoken
  obtain ⟨o, -, -, code, -, hcode⟩ := (h.noted token file).mp hnotes
  exact Option.isSome_iff_exists.mpr (rule?_of_mem_tokensIn hcode)

theorem ScanInv.mem_tokens (h : ScanInv t s) {token : String} :
    token ∈ s.collection.tokens ↔ ∃ file, s.HandedIn t token file := by
  rw [h.tidy.mem_tokens]
  exact exists_congr fun file => h.noted token file

/--
**What is collected is what was handed in.**

The count is exact; no open scan is stale, so a commit takes over all it recorded; a file is noted for a
token exactly if a scan of it that used the token was committed since the last build started; and the
stylesheet, section by section, is the text of one rule for each such token and of no others.
-/
theorem collected_iff_handedIn (h : Reachable t s) :
    s.collection.openScans = s.entered.length + s.scans.length ∧
    (∀ o ∈ s.scans, o.scan.generation = s.collection.generation ∧
      ∀ token, o.Uses t token → (s.collection.commit o.scan).Notes token o.scan.file) ∧
    (∀ token file, s.collection.Notes token file ↔ s.HandedIn t token file) ∧
    ∃ rules, t.LaidOut s.collection.tokens rules ∧
      t.stylesheet s.collection.tokens =
        sheetHeader ++ String.join (sections.map fun media => sectionText media (rules media)) ∧
      t.WrittenFor (sections.flatMap rules) fun token => ∃ file, s.HandedIn t token file := by
  have hinv := scanInv_reachable h
  have hnodup : s.collection.tokens.Nodup := hinv.tidy.ascend.nodup
  refine ⟨hinv.count, fun o ho => ⟨hinv.fresh o ho, fun token hu => ?_⟩, hinv.noted,
    t.sectionRules s.collection.tokens, laidOut_sectionRules t hnodup, stylesheet_sections t hnodup, ?_⟩
  · -- the scan is of the present generation, and it holds what its texts use
    exact (Collection.commit_notes (hinv.fresh o ho) token o.scan.file).mpr
      (.inl ⟨(hinv.faithful o ho token).mpr hu, rfl⟩)
  · rw [flatMap_sectionRules t hnodup]
    have hwritten := writtenFor_sheetRules t hnodup fun _ => hinv.utility
    exact { hwritten with all := fun token => (hwritten.all token).trans hinv.mem_tokens }

/-- The scan of a file with one utility class and one other. -/
def oneScan : OpenScan := (⟨({} : Collection).newScan "Card.vue", []⟩ : OpenScan).record {}
  "<template><p class=\"flex card\"/></template>"

/-- The utility class is noted, and it has the only rule of the stylesheet. -/
theorem collected_oneScan :
    let s : Scanning := {
      collection := ({} : Collection).enter.commit oneScan.scan
      committed := [oneScan] }
    Reachable {} s ∧ s.collection.Notes "flex" "Card.vue" ∧ ¬ s.collection.Notes "card" "Card.vue" ∧
      ∃ rules, ({} : Theme).stylesheet s.collection.tokens =
          sheetHeader ++ String.join (sections.map fun media => sectionText media (rules media)) ∧
        (sections.flatMap rules).map Rule.token = ["flex"] := by
  intro s
  have hreachable : Reachable {} s := reachable_scan .init "Card.vue" _
  have htokens : ({} : Theme).tokensIn "<template><p class=\"flex card\"/></template>" = ["flex"] := by
    decide +kernel
  have huses (token : String) : oneScan.Uses {} token ↔ token = "flex" := by
    show (∃ code ∈ ["<template><p class=\"flex card\"/></template>"], token ∈ ({} : Theme).tokensIn code) ↔ _
    simp only [List.mem_singleton, exists_eq_left, htokens]
  have hhanded (token file : String) : s.HandedIn {} token file ↔ file = "Card.vue" ∧ token = "flex" := by
    show (∃ o ∈ [oneScan], o.scan.file = file ∧ o.Uses {} token) ↔ _
    simp only [List.mem_singleton, exists_eq_left, huses]
    exact and_congr_left fun _ => eq_comm
  obtain ⟨-, -, hnoted, rules, -, hsheet, hwritten⟩ := collected_iff_handedIn hreachable
  refine ⟨hreachable, (hnoted _ _).mpr ((hhanded _ _).mpr ⟨rfl, rfl⟩), fun hcard => ?_, rules, hsheet, ?_⟩
  · exact absurd ((hhanded _ _).mp ((hnoted _ _).mp hcard)).2 (by decide)
  · refine List.perm_singleton.mp ((List.perm_ext_iff_of_nodup hwritten.once (List.nodup_singleton _)).mpr ?_)
    intro token
    rw [hwritten.all, List.mem_singleton]
    simp only [hhanded, exists_eq_left]

end Scanning

/-- A stylesheet is its first line and the sections: the rules for any screen, then for each breakpoint that
has rules one media query with exactly these, each rule written once and in the order of states and
tokens. Whatever was scanned, in whatever order and how often: what is emitted is the stylesheet of a set
of utilities, and depends on nothing but this set. -/
theorem stylesheet_layout (t : Theme) :
    (∀ tokens : TokenSet, tokens.Nodup → ∃ rules, t.LaidOut tokens rules ∧
      t.stylesheet tokens =
        sheetHeader ++ String.join (sections.map fun media => sectionText media (rules media))) ∧
    ∀ s : Scanning, s.Reachable t →
      (s.collection.tokens.Nodup ∧ ∀ token ∈ s.collection.tokens, (t.rule? token).isSome) ∧
      ∀ s' : Scanning, s'.Reachable t →
        (∀ token, token ∈ s.collection.tokens ↔ token ∈ s'.collection.tokens) →
        t.stylesheet s.collection.tokens = t.stylesheet s'.collection.tokens := by
  refine ⟨fun tokens h => ⟨_, laidOut_sectionRules t h, stylesheet_sections t h⟩, fun s hs => ?_⟩
  have hnodup {s : Scanning} (hs : s.Reachable t) : s.collection.tokens.Nodup :=
    (Scanning.scanInv_reachable hs).tidy.ascend.nodup
  refine ⟨⟨hnodup hs, fun token htoken => ?_⟩, fun s' hs' hsame => ?_⟩
  · exact (Scanning.scanInv_reachable hs).utility htoken
  · rw [stylesheet_eq, stylesheet_eq, sheetRules_congr t (hnodup hs) (hnodup hs') hsame]

/-- What is collected when files are scanned one by one. -/
def Collection.scanAll (t : Theme) (c : Collection) (files : List (String × String)) : Collection :=
  files.foldl (fun c x => c.scan t x.1 x.2) c

theorem Scanning.exists_scanAll {t : Theme} {s : Scanning} (h : s.Reachable t)
    (files : List (String × String)) :
    ∃ s' : Scanning, s'.Reachable t ∧ s'.collection = s.collection.scanAll t files := by
  induction files generalizing s with
  | nil => exact ⟨s, h, rfl⟩
  | cons x files ih => exact ih (Scanning.reachable_scan h x.1 x.2)

def cardFile : String × String := ("Card.vue", "<p class=\"hidden hover:flex sm:block\"/>")

def listFile : String × String := ("List.vue", "<ul class=\"md:flex sm:hover:flex hidden\"/>")

/-- Two files scanned in one order and in the other, one of them twice, with one stylesheet. -/
theorem stylesheet_layout_scanned :
    ∃ s s' : Scanning, s.Reachable {} ∧ s'.Reachable {} ∧
      s.collection.tokens = ["hidden", "hover:flex", "md:flex", "sm:block", "sm:hover:flex"] ∧
      s.collection ≠ s'.collection ∧
      ({} : Theme).stylesheet s.collection.tokens = ({} : Theme).stylesheet s'.collection.tokens ∧
      ∃ rules, ({} : Theme).LaidOut s.collection.tokens rules := by
  have hinit : ({} : Scanning).Reachable {} := .init
  obtain ⟨s, hs, hcollection⟩ := Scanning.exists_scanAll hinit [cardFile, listFile]
  obtain ⟨s', hs', hcollection'⟩ :=
    Scanning.exists_scanAll hinit [listFile, cardFile, ("Other.vue", cardFile.2)]
  have htokens : s.collection.tokens = ["hidden", "hover:flex", "md:flex", "sm:block", "sm:hover:flex"] := by
    rw [hcollection]
    decide +kernel
  have hsame : s.collection.tokens = s'.collection.tokens := by
    rw [htokens, hcollection']
    decide +kernel
  have hdifferent : s.collection ≠ s'.collection := by
    rw [hcollection, hcollection']
    decide +kernel
  obtain ⟨hlayout, hscanned⟩ := stylesheet_layout {}
  obtain ⟨⟨hnodup, -⟩, hset⟩ := hscanned s hs
  obtain ⟨rules, hrules, -⟩ := hlayout _ hnodup
  exact ⟨s, s', hs, hs', htokens, hdifferent, hset s' hs' fun token => by rw [hsame], rules, hrules⟩

end DeckPress.Style
