import DeckPress.Proofs.Style.Collection

/-!
# Scans in any order

Scans of many files run at once. Beginning one takes two steps: it is counted, and later it reads the
generation. In between a build may want to start, and the count is what keeps it waiting. The machine below
has one step for each thing that can happen, and takes them in any order.

The argument is one joint invariant. A build starts only when the count is zero; the count is the number
of scans entered or open; so no scan of an old generation is ever open, and no scan is refused. What is noted
is then what was handed in, and a stylesheet can be written for it.
-/

namespace DeckPress.Style

/-- A scan that has read its generation, with the texts recorded for it. -/
structure OpenScan where
  scan : Scan
  codes : List String := []

/-- Records a text. -/
def OpenScan.record (t : Theme) (o : OpenScan) (code : String) : OpenScan :=
  ⟨o.scan.record t code, o.codes ++ [code]⟩

/-- Whether one of the recorded texts uses a token. -/
def OpenScan.Uses (t : Theme) (o : OpenScan) (token : String) : Prop :=
  ∃ code ∈ o.codes, token ∈ t.tokensIn code

/-- A collection and the scans that work on it. -/
structure Scanning where
  collection : Collection := {}
  /-- The files of scans that are counted and have not yet read the generation. -/
  entered : List String := []
  scans : List OpenScan := []
  /-- The scans committed since the last build started. -/
  committed : List OpenScan := []

namespace Scanning

/-- One step. Starting a build and emitting a stylesheet wait until the collection is idle. -/
inductive Step (t : Theme) : Scanning → Scanning → Prop where
  | enter (s : Scanning) (file : String) :
      Step t s { s with collection := s.collection.enter, entered := s.entered ++ [file] }
  | start {s : Scanning} {before after : List String} {file : String} :
      s.entered = before ++ file :: after →
      Step t s { s with
        entered := before ++ after
        scans := s.scans ++ [⟨s.collection.newScan file, []⟩] }
  | record {s : Scanning} {before after : List OpenScan} {o : OpenScan} (code : String) :
      s.scans = before ++ o :: after →
      Step t s { s with scans := before ++ o.record t code :: after }
  | commit {s : Scanning} {before after : List OpenScan} {o : OpenScan} :
      s.scans = before ++ o :: after →
      Step t s { s with
        collection := s.collection.commit o.scan
        scans := before ++ after
        committed := s.committed ++ [o] }
  | drop {s : Scanning} {before after : List OpenScan} {o : OpenScan} :
      s.scans = before ++ o :: after →
      Step t s { s with collection := s.collection.leave, scans := before ++ after }
  | reset {s : Scanning} :
      s.collection.isIdle →
      Step t s { s with collection := s.collection.reset, committed := [] }
  /-- Emitting a stylesheet changes nothing. -/
  | emit {s : Scanning} : s.collection.isIdle → Step t s s

/-- The states that steps lead to from an empty collection. -/
inductive Reachable (t : Theme) : Scanning → Prop where
  | init : Reachable t {}
  | tail {s s' : Scanning} : Reachable t s → Step t s s' → Reachable t s'

/-- Whether a scan of a file that used a token was committed since the last build started. -/
def HandedIn (t : Theme) (s : Scanning) (token file : String) : Prop :=
  ∃ o ∈ s.committed, o.scan.file = file ∧ o.Uses t token

/-- A scan holds the tokens of its texts and no others. -/
def Faithful (t : Theme) (o : OpenScan) : Prop := ∀ token, token ∈ o.scan.tokens ↔ o.Uses t token

/-- What holds between any two steps. -/
structure ScanInv (t : Theme) (s : Scanning) : Prop where
  /-- The count is exact. -/
  count : s.collection.openScans = s.entered.length + s.scans.length
  /-- No open scan is stale. -/
  fresh : ∀ o ∈ s.scans, o.scan.generation = s.collection.generation
  faithful : ∀ o ∈ s.scans, Faithful t o
  tidy : s.collection.Tidy
  noted : ∀ token file, s.collection.Notes token file ↔ s.HandedIn t token file

variable {t : Theme} {s s' : Scanning}

theorem faithful_new (c : Collection) (file : String) : Faithful t ⟨c.newScan file, []⟩ := by
  intro token
  simp [Collection.newScan, OpenScan.Uses]

theorem faithful_record {o : OpenScan} (h : Faithful t o) (code : String) :
    Faithful t (o.record t code) := by
  intro token
  have hu : (o.record t code).Uses t token ↔ o.Uses t token ∨ token ∈ t.tokensIn code := by
    simp [OpenScan.record, OpenScan.Uses, or_and_right, exists_or]
  rw [hu, ← h token]
  exact TokenSet.mem_union o.scan.tokens (t.tokensIn code) token

theorem scanInv_init : ScanInv t {} where
  count := rfl
  fresh := by intro o h; cases h
  faithful := by intro o h; cases h
  tidy := Collection.tidy_empty 0 0
  noted := by simp [Collection.Notes, NotedIn, HandedIn]

/-- An idle collection has no scan under way, not even one that is only counted. -/
theorem ScanInv.idle (h : ScanInv t s) (hi : s.collection.isIdle) :
    s.entered = [] ∧ s.scans = [] := by
  have h0 : s.collection.openScans = 0 := by simpa [Collection.isIdle] using hi
  have hc := h.count
  exact ⟨List.length_eq_zero_iff.mp (by omega), List.length_eq_zero_iff.mp (by omega)⟩

/-- Every step preserves the invariant. -/
theorem scanInv_step (h : ScanInv t s) (hs : Step t s s') : ScanInv t s' := by
  cases hs with
  | enter file =>
    refine ⟨?_, h.fresh, h.faithful, h.tidy.of_uses rfl, h.noted⟩
    simp [h.count]
    omega
  | @start before after file he =>
    have hlen : s.entered.length = before.length + after.length + 1 := by
      rw [he, List.length_append, List.length_cons, Nat.add_assoc]
    refine ⟨?_, ?_, ?_, h.tidy, h.noted⟩
    · simp [h.count, hlen]
      omega
    · intro o ho
      rcases List.mem_append.mp ho with ho | ho
      · exact h.fresh o ho
      · cases List.mem_singleton.mp ho
        rfl
    · intro o ho
      rcases List.mem_append.mp ho with ho | ho
      · exact h.faithful o ho
      · cases List.mem_singleton.mp ho
        exact faithful_new s.collection file
  | @record before after o code he =>
    have hmem : o ∈ s.scans := by rw [he]; exact List.mem_append_right _ List.mem_cons_self
    have hrest : ∀ x ∈ before ++ o.record t code :: after, x = o.record t code ∨ x ∈ s.scans := by
      intro x hx
      rw [he]
      grind
    refine ⟨?_, ?_, ?_, h.tidy, h.noted⟩
    · simpa [he] using h.count
    · intro x hx
      rcases hrest x hx with rfl | hx
      · exact h.fresh o hmem
      · exact h.fresh x hx
    · intro x hx
      rcases hrest x hx with rfl | hx
      · exact faithful_record (h.faithful o hmem) code
      · exact h.faithful x hx
  | @commit before after o he =>
    have hmem : o ∈ s.scans := by rw [he]; exact List.mem_append_right _ List.mem_cons_self
    have hrest : ∀ x ∈ before ++ after, x ∈ s.scans := by
      intro x hx
      rw [he]
      grind
    have hc := h.count
    rw [he, List.length_append, List.length_cons] at hc
    refine ⟨?_, ?_, fun x hx => h.faithful x (hrest x hx), h.tidy.commit o.scan, ?_⟩
    · simp
      omega
    · intro x hx
      rw [Collection.commit_generation]
      exact h.fresh x (hrest x hx)
    · -- the scan is of the present generation, so all it recorded is taken over
      intro token file
      rw [Collection.commit_notes (h.fresh o hmem), h.noted, h.faithful o hmem]
      unfold HandedIn
      constructor
      · rintro (⟨hu, rfl⟩ | ⟨x, hx, hxu⟩)
        · exact ⟨o, by simp, rfl, hu⟩
        · exact ⟨x, List.mem_append_left _ hx, hxu⟩
      · rintro ⟨x, hx, hf, hu⟩
        rcases List.mem_append.mp hx with hx | hx
        · exact .inr ⟨x, hx, hf, hu⟩
        · cases List.mem_singleton.mp hx
          exact .inl ⟨hu, hf.symm⟩
  | @drop before after o he =>
    have hrest : ∀ x ∈ before ++ after, x ∈ s.scans := by
      intro x hx
      rw [he]
      grind
    have hc := h.count
    rw [he, List.length_append, List.length_cons] at hc
    refine ⟨?_, fun x hx => h.fresh x (hrest x hx), fun x hx => h.faithful x (hrest x hx),
      h.tidy.of_uses rfl, h.noted⟩
    simp
    omega
  | reset hi =>
    obtain ⟨-, hscans⟩ := h.idle hi
    refine ⟨h.count, ?_, ?_, Collection.Tidy.reset, ?_⟩
    · intro o ho
      simp [hscans] at ho
    · intro o ho
      simp [hscans] at ho
    · intro token file
      simp [HandedIn, Collection.reset_notes]
  | emit _ => exact h

theorem scanInv_reachable (h : Reachable t s) : ScanInv t s := by
  induction h with
  | init => exact scanInv_init
  | tail _ hs ih => exact scanInv_step ih hs

/-- Scanning a file at once is four steps of the machine. -/
theorem reachable_scan (h : Reachable t s) (file code : String) :
    Reachable t { s with
      collection := s.collection.scan t file code
      committed := s.committed ++ [(OpenScan.mk (s.collection.newScan file) []).record t code] } := by
  have h₁ := h.tail (.enter s file)
  have h₂ := h₁.tail (.start (show _ = s.entered ++ _ :: [] from rfl))
  have h₃ := h₂.tail (.record code (show _ = s.scans ++ _ :: [] from rfl))
  have h₄ := h₃.tail (.commit (show _ = s.scans ++ _ :: [] from rfl))
  simp only [List.append_nil] at h₄
  exact h₄

end Scanning

end DeckPress.Style
