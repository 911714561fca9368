import DeckPress.Proofs.Component.Lookups
import DeckPress.Proofs.Disk.Path
import DeckPress.Proofs.Pipeline.Scheduling
import Mathlib.Logic.Relation

/-!
# Invalidation

A pipeline remembers the deck and the listings of component directories until it is invalidated. A lookup asks
the memory first, reads the disk if there is nothing, and then puts what it has read into the memory. Between
these steps others take theirs, and the files and the memory may change: what a slow reader puts into the
memory was on the disk when it read it, and may not be there any more.

An invalidation is meant to bring what has changed on the disk to all lookups that begin after it. It does so
exactly if nobody who is still to put something into the memory has read what is not on the disk any more, and
if directories that are equal as paths are listed alike, for they share a place in the memory.
-/

namespace DeckPress.Pipeline

open Component

/-- What is looked up. -/
inductive Lookup where
  | deck
  | directory (dir : Path)

/-- What a lookup finds. -/
abbrev Lookup.Answer : Lookup → Type
  | .deck => Presentation
  | .directory _ => Listing

/-- What is on the disk. -/
def fresh (p : Pipeline) (d : Disk) : (l : Lookup) → Except Error l.Answer
  | .deck => Presentation.load d p.layout
  | .directory dir => .ok (p.importer.list d dir)

/-- What is in the memory. -/
def State.recall? (s : State) : (l : Lookup) → Option l.Answer
  | .deck => s.deck
  | .directory dir => (s.listings.find? (·.1 == dir)).map Prod.snd

/-- Puts what was found into the memory. -/
def State.remember (s : State) : (l : Lookup) → l.Answer → State
  | .deck, x => { s with deck := some x }
  | .directory dir, x => { s with listings := (dir, x) :: s.listings }

/-- How far a lookup has come. -/
inductive Phase (l : Lookup) where
  | begun
  | missed
  | loaded (x : Except Error l.Answer)

/-- The next step of a lookup, which leads to another phase or to the answer. -/
def advance (p : Pipeline) (d : Disk) (s : State) {l : Lookup} :
    Phase l → State × (Phase l ⊕ Except Error l.Answer)
  | .begun =>
    match s.recall? l with
    | some x => (s, .inr (.ok x))
    | none => (s, .inl .missed)
  | .missed => (s, .inl (.loaded (p.fresh d l)))
  | .loaded (.ok x) => (s.remember l x, .inr (.ok x))
  | .loaded (.error e) => (s, .inr (.error e))

/-- A lookup whose steps nothing comes between. -/
def lookUp (p : Pipeline) (d : Disk) (s : State) (l : Lookup) : Except Error l.Answer × State :=
  match s.recall? l with
  | some x => (.ok x, s)
  | none =>
    match p.fresh d l with
    | .ok x => (.ok x, s.remember l x)
    | .error e => (.error e, s)

/-- What a pipeline looks up. -/
def LooksUp (p : Pipeline) : Lookup → Prop
  | .deck => True
  | .directory dir => ∃ consumer, dir ∈ p.importer.searchDirs consumer

/-- A lookup under way. -/
structure Call where
  lookup : Lookup
  phase : Phase lookup
  /-- Whether it began after an invalidation, with no edit since the invalidation. -/
  late : Bool

/-- The disk, the memory, and those who read it. -/
structure Readers where
  disk : Disk
  state : State
  calls : List Call := []
  /-- Whether there was an invalidation after the last edit. -/
  quiet : Bool := false

/-- What a step shows. -/
inductive Event where
  | edit
  | silent
  | answer (l : Lookup) (x : Except Error l.Answer) (late : Bool)

namespace Readers

/-- The readers after an invalidation. -/
def invalidated (w : Readers) : Readers := { w with state := w.state.invalidate, quiet := true }

/-- One step. There are lookups for what is `sought`. -/
inductive Step (p : Pipeline) (sought : Lookup → Prop) (w : Readers) : Event → Readers → Prop where
  | edit (d : Disk) : Step p sought w .edit
      { w with disk := d, calls := w.calls.map fun c => { c with late := false }, quiet := false }
  | invalidate : Step p sought w .silent w.invalidated
  /-- Work that leaves the memory as it is. -/
  | other {s : State} : (∀ l, s.recall? l = w.state.recall? l) → Step p sought w .silent { w with state := s }
  | begin {l : Lookup} : sought l →
      Step p sought w .silent { w with calls := w.calls ++ [⟨l, .begun, w.quiet⟩] }
  | advance {a b : List Call} {c : Call} {s : State} {phase : Phase c.lookup} :
      w.calls = a ++ c :: b → p.advance w.disk w.state c.phase = (s, .inl phase) →
      Step p sought w .silent { w with state := s, calls := a ++ { c with phase } :: b }
  | answer {a b : List Call} {c : Call} {s : State} {x : Except Error c.lookup.Answer} :
      w.calls = a ++ c :: b → p.advance w.disk w.state c.phase = (s, .inr x) →
      Step p sought w (.answer c.lookup x c.late) { w with state := s, calls := a ++ b }

/-- What steps lead to from an assembled pipeline. -/
inductive Reachable (p : Pipeline) (sought : Lookup → Prop) : Readers → Prop where
  | init (d : Disk) (shared : SharedState) : Reachable p sought { disk := d, state := { shared } }
  | tail {w w' : Readers} {e : Event} : Reachable p sought w → Step p sought w e w' → Reachable p sought w'

/-- What steps lead to without edits of the disk. -/
def Later (p : Pipeline) (sought : Lookup → Prop) : Readers → Readers → Prop :=
  Relation.ReflTransGen fun w w' => ∃ e, e ≠ .edit ∧ Step p sought w e w'

/-- Until the disk is edited again, lookups that began after an invalidation find what is on the disk. -/
def Lasts (p : Pipeline) (sought : Lookup → Prop) (w : Readers) : Prop :=
  ∀ w' w'' l x, Later p sought w w' → Step p sought w' (.answer l x true) w'' → x = p.fresh w'.disk l

end Readers

/-! ## Lookups whose steps nothing comes between -/

variable {p : Pipeline} {d : Disk} {s : State}

theorem advance_hit {l : Lookup} {x : l.Answer} (h : s.recall? l = some x) :
    p.advance d s (.begun : Phase l) = (s, .inr (.ok x)) := by
  unfold advance
  rw [h]

theorem advance_miss {l : Lookup} (h : s.recall? l = none) :
    p.advance d s (.begun : Phase l) = (s, .inl .missed) := by
  unfold advance
  rw [h]

/-- The deck is got by a lookup. -/
theorem presentation_eq_lookUp : (p.presentation d).run.run s = p.lookUp d s .deck := by
  unfold lookUp
  cases hdeck : s.deck with
  | some deck =>
    simp only [State.recall?, hdeck]
    exact p.presentation_run d hdeck
  | none =>
    simp only [State.recall?, hdeck, fresh]
    cases hload : Presentation.load d p.layout with
    | ok deck => exact p.presentation_ok d hdeck hload
    | error e => exact p.presentation_error d hdeck hload

/-- The listing of a directory is got by a lookup. -/
theorem listing_eq_lookUp (dir : Path) :
    p.lookUp d s (.directory dir) = (.ok ((p.importer.listing d dir).run s.listings).1,
      { s with listings := ((p.importer.listing d dir).run s.listings).2 }) := by
  unfold lookUp
  cases hfind : s.listings.find? (·.1 == dir) with
  | some entry =>
    rw [p.importer.listing_known d hfind]
    simp only [State.recall?, hfind]
    rfl
  | none =>
    rw [p.importer.listing_new d hfind]
    simp only [State.recall?, hfind]
    rfl

namespace Readers

variable {sought : Lookup → Prop} {w w' : Readers} {e : Event} {l : Lookup}

theorem Step.later (h : Step p sought w e w') (he : e ≠ .edit) : Later p sought w w' := .single ⟨e, he, h⟩

theorem advance_last {c : Call} {s : State} {phase : Phase c.lookup}
    (h : p.advance w.disk w.state c.phase = (s, .inl phase)) :
    Later p sought { w with calls := w.calls ++ [c] }
      { w with state := s, calls := w.calls ++ [{ c with phase }] } :=
  (Step.advance (w := { w with calls := w.calls ++ [c] }) rfl h).later nofun

theorem answer_last {c : Call} {s : State} {x : Except Error c.lookup.Answer}
    (h : p.advance w.disk w.state c.phase = (s, .inr x)) :
    Step p sought { w with calls := w.calls ++ [c] } (.answer c.lookup x c.late) { w with state := s } := by
  have hstep : Step p sought { w with calls := w.calls ++ [c] } _ _ := .answer rfl h
  rwa [List.append_nil] at hstep

/-- A lookup can be made at any time, with its steps one after the other. -/
theorem lookUp_steps (hl : sought l) :
    ∃ w', Later p sought w w' ∧ w'.disk = w.disk ∧
      Step p sought w' (.answer l (p.lookUp w.disk w.state l).1 w.quiet)
        { w with state := (p.lookUp w.disk w.state l).2 } := by
  have hbegin := (Step.begin (p := p) (w := w) hl).later nofun
  unfold lookUp
  cases hrecall : w.state.recall? l with
  | some x => exact ⟨_, hbegin, rfl, answer_last (c := ⟨l, .begun, w.quiet⟩) (advance_hit hrecall)⟩
  | none =>
    have hmissed := hbegin.trans (advance_last (c := ⟨l, .begun, w.quiet⟩) (advance_miss hrecall))
    have hloaded := hmissed.trans (advance_last (c := ⟨l, .missed, w.quiet⟩) rfl)
    refine ⟨_, hloaded, rfl, ?_⟩
    cases p.fresh w.disk l with
    | ok x => exact answer_last (c := ⟨l, .loaded (.ok x), w.quiet⟩) rfl
    | error e => exact answer_last (c := ⟨l, .loaded (.error e), w.quiet⟩) rfl

/-! ## What holds of those who read -/

/-- A step to another phase leaves the memory alone, and what is loaded is what is on the disk. -/
theorem advance_phase {s' : State} {phase phase' : Phase l} (h : p.advance d s phase = (s', .inl phase')) :
    s' = s ∧ ∀ x, phase' = .loaded x → x = p.fresh d l := by
  cases phase with
  | begun =>
    cases hrecall : s.recall? l with
    | some x =>
      rw [advance_hit hrecall] at h
      cases h
    | none =>
      rw [advance_miss hrecall] at h
      cases h
      exact ⟨rfl, nofun⟩
  | missed =>
    cases h
    exact ⟨rfl, fun x hx => by cases hx; rfl⟩
  | loaded x =>
    cases x with
    | ok x => cases h
    | error e => cases h

/-- An answer comes from the memory, or was loaded. What was loaded without failure is remembered. -/
theorem advance_answer {s' : State} {phase : Phase l} {x : Except Error l.Answer}
    (h : p.advance d s phase = (s', .inr x)) :
    (∃ y, x = .ok y ∧ s.recall? l = some y ∧ s' = s) ∨
      phase = .loaded x ∧ (s' = s ∨ ∃ y, x = .ok y ∧ s' = s.remember l y) := by
  cases phase with
  | begun =>
    cases hrecall : s.recall? l with
    | some y =>
      rw [advance_hit hrecall] at h
      cases h
      exact .inl ⟨y, rfl, rfl, rfl⟩
    | none =>
      rw [advance_miss hrecall] at h
      cases h
  | missed => cases h
  | loaded y =>
    cases y with
    | ok y =>
      cases h
      exact .inr ⟨rfl, .inr ⟨y, rfl, rfl⟩⟩
    | error e =>
      cases h
      exact .inr ⟨rfl, .inl rfl⟩

theorem mem_advanced {calls a b : List Call} {c c₁ c' : Call} (hcalls : calls = a ++ c :: b)
    (h : c' ∈ a ++ c₁ :: b) : c' = c₁ ∨ c' ∈ calls := by
  subst hcalls
  grind

theorem mem_answered {calls a b : List Call} {c c' : Call} (hcalls : calls = a ++ c :: b)
    (h : c' ∈ a ++ b) : c' ∈ calls := by
  subst hcalls
  grind

/-- What holds all along: lookups are those there may be, and what the late ones have loaded is on the disk. -/
structure Coherent (p : Pipeline) (sought : Lookup → Prop) (w : Readers) : Prop where
  sought : ∀ c ∈ w.calls, sought c.lookup
  late : ∀ c ∈ w.calls, c.late = true → ∀ x, c.phase = .loaded x → x = p.fresh w.disk c.lookup

theorem Coherent.step (h : Coherent p sought w) (hstep : Step p sought w e w') : Coherent p sought w' := by
  cases hstep with
  | edit d =>
    refine ⟨fun c hc => ?_, fun c hc hlate => ?_⟩
    · obtain ⟨c', hc', rfl⟩ := List.mem_map.mp hc
      exact h.sought c' hc'
    · obtain ⟨c', -, rfl⟩ := List.mem_map.mp hc
      cases hlate
  | invalidate => exact ⟨h.sought, h.late⟩
  | other _ => exact ⟨h.sought, h.late⟩
  | begin hl =>
    refine ⟨fun c hc => ?_, fun c hc hlate x hx => ?_⟩
    · rcases List.mem_append.mp hc with hc | hc
      · exact h.sought c hc
      · cases List.mem_singleton.mp hc
        exact hl
    · rcases List.mem_append.mp hc with hc | hc
      · exact h.late c hc hlate x hx
      · cases List.mem_singleton.mp hc
        cases hx
  | @advance a b c₀ s phase hcalls hadvance =>
    obtain ⟨-, hloaded⟩ := advance_phase hadvance
    have hc₀ : c₀ ∈ w.calls := by rw [hcalls]; simp
    refine ⟨fun c hc => ?_, fun c hc hlate x hx => ?_⟩
    · rcases mem_advanced hcalls hc with rfl | hc
      · exact h.sought c₀ hc₀
      · exact h.sought c hc
    · rcases mem_advanced hcalls hc with rfl | hc
      · exact hloaded x hx
      · exact h.late c hc hlate x hx
  | answer hcalls _ =>
    exact ⟨fun c hc => h.sought c (mem_answered hcalls hc), fun c hc => h.late c (mem_answered hcalls hc)⟩

theorem Reachable.coherent (h : Reachable p sought w) : Coherent p sought w := by
  induction h with
  | init d shared => exact ⟨nofun, nofun⟩
  | tail _ hstep ih => exact ih.step hstep

theorem Reachable.later (h : Reachable p sought w) (hlater : Later p sought w w') : Reachable p sought w' := by
  induction hlater with
  | refl => exact h
  | tail _ hstep ih =>
    obtain ⟨e, -, hstep⟩ := hstep
    exact ih.tail hstep

theorem Later.disk (h : Later p sought w w') : w'.disk = w.disk := by
  induction h with
  | refl => rfl
  | tail _ hstep ih =>
    obtain ⟨e, he, hstep⟩ := hstep
    cases hstep with
    | edit d => exact absurd rfl he
    | _ => exact ih

/-! ## What is remembered -/

/-- What is in the memory is on the disk. -/
def Remembers (p : Pipeline) (sought : Lookup → Prop) (d : Disk) (s : State) : Prop :=
  ∀ l x, sought l → s.recall? l = some x → p.fresh d l = .ok x

theorem recall?_invalidate (s : State) (l : Lookup) : s.invalidate.recall? l = none := by
  cases l <;> rfl

theorem recall?_remember (s : State) (l : Lookup) (x : l.Answer) : (s.remember l x).recall? l = some x := by
  cases l with
  | deck => rfl
  | directory dir =>
    have hself : (dir == dir) = true := beq_self_eq_true dir.components
    simp [State.recall?, State.remember, hself]

/-- A directory that is listed like all that are equal to it may be remembered. -/
theorem Remembers.remember (h : Remembers p sought d s)
    (halike : p.importer.ListedAlike d (fun dir => sought (.directory dir))) {x : l.Answer}
    (hl : sought l) (hx : p.fresh d l = .ok x) : Remembers p sought d (s.remember l x) := by
  intro l' x' hl' hrecall
  cases l with
  | deck =>
    cases l' with
    | deck =>
      cases hrecall
      exact hx
    | directory dir => exact h (.directory dir) x' hl' hrecall
  | directory dir =>
    cases l' with
    | deck => exact h .deck x' hl' hrecall
    | directory dir' =>
      simp only [State.recall?, State.remember, List.find?_cons] at hrecall
      split at hrecall
      · rename_i hsame
        cases hrecall
        rw [← hx]
        exact congrArg Except.ok (halike dir dir' hl hl' hsame).symm
      · exact h (.directory dir') x' hl' hrecall

/-- Nothing that is not on the disk is in the memory, or on its way there. -/
structure Settled (p : Pipeline) (sought : Lookup → Prop) (w : Readers) : Prop where
  remembers : Remembers p sought w.disk w.state
  underway : ∀ c ∈ w.calls, ∀ x, c.phase = .loaded (.ok x) → p.fresh w.disk c.lookup = .ok x

theorem Settled.step (h : Settled p sought w) (hw : Coherent p sought w)
    (halike : p.importer.ListedAlike w.disk (fun dir => sought (.directory dir)))
    (hstep : Step p sought w e w') (he : e ≠ .edit) : Settled p sought w' := by
  cases hstep with
  | edit d => exact absurd rfl he
  | invalidate =>
    exact ⟨fun l x _ hrecall => absurd ((recall?_invalidate w.state l).symm.trans hrecall) nofun, h.underway⟩
  | other hsame => exact ⟨fun l x hl hrecall => h.remembers l x hl ((hsame l).symm.trans hrecall), h.underway⟩
  | begin hl =>
    refine ⟨h.remembers, fun c hc x hx => ?_⟩
    rcases List.mem_append.mp hc with hc | hc
    · exact h.underway c hc x hx
    · cases List.mem_singleton.mp hc
      cases hx
  | @advance a b c₀ s phase hcalls hadvance =>
    obtain ⟨rfl, hloaded⟩ := advance_phase hadvance
    refine ⟨h.remembers, fun c hc x hx => ?_⟩
    rcases mem_advanced hcalls hc with rfl | hc
    · exact (hloaded _ hx).symm
    · exact h.underway c hc x hx
  | @answer a b c₀ s x hcalls hadvance =>
    have hc₀ : c₀ ∈ w.calls := by rw [hcalls]; simp
    refine ⟨?_, fun c hc => h.underway c (mem_answered hcalls hc)⟩
    rcases advance_answer hadvance with ⟨y, -, -, rfl⟩ | ⟨hphase, rfl | ⟨y, rfl, rfl⟩⟩
    · exact h.remembers
    · exact h.remembers
    · -- what is put into the memory was loaded, and is still on the disk
      exact h.remembers.remember halike (hw.sought c₀ hc₀) (h.underway c₀ hc₀ y hphase)

/-- As long as the disk is not edited, things stay settled. -/
theorem Settled.later (h : Settled p sought w) (hw : Reachable p sought w)
    (halike : p.importer.ListedAlike w.disk (fun dir => sought (.directory dir)))
    (hlater : Later p sought w w') : Settled p sought w' := by
  induction hlater with
  | refl => exact h
  | tail hbefore hstep ih =>
    obtain ⟨e, he, hstep⟩ := hstep
    -- the disk is the same all the way, and so are its listings
    exact ih.step (hw.later hbefore).coherent (Later.disk hbefore ▸ halike) hstep he

/-- Where things are settled, late lookups find what is on the disk. -/
theorem Settled.answer (h : Settled p sought w) (hw : Coherent p sought w) {x : Except Error l.Answer}
    (hstep : Step p sought w (.answer l x true) w') : x = p.fresh w.disk l := by
  generalize he : Event.answer l x true = e at hstep
  cases hstep with
  | @answer a b c s y hcalls hadvance =>
    have hc : c ∈ w.calls := by rw [hcalls]; simp
    injection he with hlookup hx hlate
    subst hlookup
    cases hx
    rcases advance_answer hadvance with ⟨y, rfl, hrecall, -⟩ | ⟨hphase, -⟩
    · exact (h.remembers _ y (hw.sought c hc) hrecall).symm
    · exact hw.late c hc hlate.symm _ hphase
  | _ => cases he

/-! ## What the program's own lookups find -/

theorem Later.quiet (h : Later p sought w w') (hquiet : w.quiet = true) : w'.quiet = true := by
  induction h with
  | refl => exact hquiet
  | tail _ hstep ih =>
    obtain ⟨e, he, hstep⟩ := hstep
    cases hstep with
    | edit d => exact absurd rfl he
    | invalidate => rfl
    | _ => exact ih

theorem Lasts.later (h : Lasts p sought w) (hlater : Later p sought w w') : Lasts p sought w' :=
  fun _ _ _ _ hmore => h _ _ _ _ (hlater.trans hmore)

theorem Lasts.lookUp (h : Lasts p sought w) (hquiet : w.quiet = true) (hl : sought l) :
    (p.lookUp w.disk w.state l).1 = p.fresh w.disk l := by
  -- a lookup with its steps one after the other is one of the late ones
  obtain ⟨w', hlater, hdisk, hanswer⟩ := lookUp_steps (p := p) (w := w) hl
  rw [hquiet] at hanswer
  rw [h w' _ l _ hlater hanswer, hdisk]

/-- As long as an invalidation lasts, the deck is got as it is on the disk. -/
theorem Lasts.presentation (h : Lasts p sought w) (hquiet : w.quiet = true) (hdeck : sought .deck) :
    ((p.presentation w.disk).run.run w.state).1 = Presentation.load w.disk p.layout := by
  rw [presentation_eq_lookUp]
  exact h.lookUp hquiet hdeck

/-- As long as an invalidation lasts, a directory is listed as it is on the disk. -/
theorem Lasts.listing (h : Lasts p sought w) (hquiet : w.quiet = true) {dir : Path}
    (hdir : sought (.directory dir)) :
    ((p.importer.listing w.disk dir).run w.state.listings).1 = p.importer.list w.disk dir := by
  have hfound := h.lookUp hquiet hdir
  rw [listing_eq_lookUp] at hfound
  exact Except.ok.inj hfound

/-! ## After an invalidation -/

theorem lookUp_known {x : l.Answer} (h : s.recall? l = some x) : p.lookUp d s l = (.ok x, s) := by
  unfold lookUp
  rw [h]

theorem lookUp_unknown {x : l.Answer} (h : s.recall? l = none) (hx : p.fresh d l = .ok x) :
    p.lookUp d s l = (.ok x, s.remember l x) := by
  unfold lookUp
  rw [h]
  dsimp only
  rw [hx]

/-- What is remembered after an invalidation is what late lookups find. -/
theorem remembered_comes_back (hl : sought l) {x : l.Answer} (hrecall : w.state.recall? l = some x)
    (hquiet : w.quiet = true) :
    ∃ w' w'', Later p sought w w' ∧ w'.disk = w.disk ∧ Step p sought w' (.answer l (.ok x) true) w'' := by
  obtain ⟨w', hlater, hdisk, hanswer⟩ := lookUp_steps (p := p) (w := w) hl
  rw [lookUp_known hrecall, hquiet] at hanswer
  exact ⟨w', _, hlater, hdisk, hanswer⟩

/-- What a lookup under way has read is remembered after an invalidation too. -/
theorem held_comes_back {c : Call} (hl : sought c.lookup) (hc : c ∈ w.calls) {x : c.lookup.Answer}
    (hphase : c.phase = .loaded (.ok x)) :
    ∃ w' w'', Later p sought w.invalidated w' ∧ w'.disk = w.disk ∧
      Step p sought w' (.answer c.lookup (.ok x) true) w'' := by
  obtain ⟨a, b, hcalls⟩ := List.append_of_mem hc
  have hadvance : p.advance w.disk w.state.invalidate c.phase =
      (w.state.invalidate.remember c.lookup x, .inr (.ok x)) := by
    rw [hphase]
    rfl
  have hstored : Step p sought w.invalidated _ _ := .answer hcalls hadvance
  have hrecall := recall?_remember w.state.invalidate c.lookup x
  obtain ⟨w', w'', hlater, hdisk, hanswer⟩ := remembered_comes_back (p := p)
    (w := { w.invalidated with
      state := w.state.invalidate.remember c.lookup x, calls := a ++ b }) hl hrecall rfl
  exact ⟨w', w'', (hstored.later nofun).trans hlater, hdisk, hanswer⟩

/-- One listing is found for all directories that are equal as paths. -/
theorem listing_comes_back {a b : Path} (ha : sought (.directory a)) (hb : sought (.directory b))
    (hab : a == b) :
    ∃ w' w'', Later p sought w.invalidated w' ∧ w'.disk = w.disk ∧
      Step p sought w' (.answer (.directory b) (.ok (p.importer.list w.disk a)) true) w'' := by
  obtain ⟨w₁, hlater₁, -, hanswer⟩ := lookUp_steps (p := p) (l := .directory a) (w := w.invalidated) ha
  have hfound : p.lookUp w.invalidated.disk w.invalidated.state (.directory a) = _ :=
    lookUp_unknown (recall?_invalidate w.state _) rfl
  rw [hfound] at hanswer
  have hrecall : (w.state.invalidate.remember (.directory a) (p.importer.list w.disk a)).recall? (.directory b) =
      some (p.importer.list w.disk a) := by
    simp [State.recall?, State.remember, hab]
  obtain ⟨w₂, w₃, hlater₂, hdisk, hagain⟩ := remembered_comes_back (p := p)
    (w := { w.invalidated with
      state := w.state.invalidate.remember (.directory a) (p.importer.list w.disk a) }) hb hrecall rfl
  exact ⟨w₂, w₃, (hlater₁.trans (hanswer.later nofun)).trans hlater₂, hdisk, hagain⟩

/--
**An invalidation lasts exactly if nobody is about to remember what is not on the disk.**

Whatever the steps of lookups, edits and invalidations have led to, let the pipeline be invalidated. Then the
lookups that begin from here on, and end before the disk is edited again, find what is on the disk in all
orders of the steps exactly if every lookup under way that has read the disk without failure has read what is
there now, and directories that are equal as paths are listed alike.
-/
theorem invalidation_lasts_iff (hw : Reachable p sought w) :
    Lasts p sought w.invalidated ↔
      (∀ c ∈ w.calls, ∀ x, c.phase = .loaded (.ok x) → p.fresh w.disk c.lookup = .ok x) ∧
        p.importer.ListedAlike w.disk (fun dir => sought (.directory dir)) := by
  constructor
  · -- one lookup remembers right after the invalidation, and another begins then
    intro h
    refine ⟨fun c hc x hphase => ?_, fun a b ha hb hab => ?_⟩
    · obtain ⟨w', w'', hlater, hdisk, hanswer⟩ := held_comes_back (hw.coherent.sought c hc) hc hphase
      exact hdisk ▸ (h w' w'' _ _ hlater hanswer).symm
    · obtain ⟨w', w'', hlater, hdisk, hanswer⟩ := listing_comes_back (w := w) ha hb hab
      exact Except.ok.inj (hdisk ▸ h w' w'' _ _ hlater hanswer)
  rintro ⟨hunderway, halike⟩
  intro w' w'' l x hlater hanswer
  have hinvalidated : Reachable p sought w.invalidated := hw.tail .invalidate
  have hsettled : Settled p sought w.invalidated := by
    refine ⟨fun l x _ hrecall => ?_, hunderway⟩
    exact absurd ((recall?_invalidate w.state l).symm.trans hrecall) nofun
  exact (hsettled.later hinvalidated halike hlater).answer (hinvalidated.later hlater).coherent hanswer

/-! ## Slow readers -/

/-- A lookup under way that has read the disk. -/
theorem reachable_loaded (hl : sought l) (d : Disk) (shared : SharedState) :
    Reachable p sought
      { disk := d, state := { shared }, calls := [⟨l, .loaded (p.fresh d l), false⟩] } := by
  have hempty : ({ shared } : State).recall? l = none := by cases l <;> rfl
  have hbegun : Reachable p sought _ := (Reachable.init d shared).tail (.begin hl)
  have hmissed := hbegun.tail (.advance (a := []) (c := ⟨l, .begun, false⟩) rfl (advance_miss hempty))
  exact hmissed.tail (.advance (a := []) (c := ⟨l, .missed, false⟩) rfl rfl)

/-- Whatever could once be read from the disk may come back after an invalidation: it is enough that somebody
read it then and is slow to remember it. -/
theorem old_comes_back (hl : sought l) {x : l.Answer} {d : Disk} (hx : p.fresh d l = .ok x) (d' : Disk)
    (shared : SharedState) :
    ∃ w w' w'', Reachable p sought w ∧ Later p sought w.invalidated w' ∧ w'.disk = d' ∧
      Step p sought w' (.answer l (.ok x) true) w'' := by
  have hloaded := reachable_loaded (p := p) hl d shared
  rw [hx] at hloaded
  have hedited := hloaded.tail (.edit d')
  obtain ⟨w', w'', hlater, hdisk, hanswer⟩ := held_comes_back (p := p)
    (w := { disk := d', state := { shared }, calls := [⟨l, .loaded (.ok x), false⟩] })
    (c := ⟨l, .loaded (.ok x), false⟩) hl (List.mem_singleton_self _) rfl
  exact ⟨_, w', w'', hedited, hlater, hdisk, hanswer⟩

/-- A lookup has read the deck that is still there, and the widgets are only ever looked for in one place. So the
pipeline's own lookups find what is on the disk, whenever they are made until it is edited again. -/
theorem invalidation_lasts_widgets :
    ∃ p w, assemble (widgetDisk "# One\n") (widgetProject [⟨"parts"⟩]) = .ok p ∧
      Reachable p (fun l => l = .deck ∨ l = .directory ⟨"/widgets/parts"⟩) w ∧ w.calls.length = 1 ∧
      Lasts p (fun l => l = .deck ∨ l = .directory ⟨"/widgets/parts"⟩) w.invalidated ∧
      ∀ w', Later p (fun l => l = .deck ∨ l = .directory ⟨"/widgets/parts"⟩) w.invalidated w' →
        ((p.presentation w'.disk).run.run w'.state).1 = Presentation.load w'.disk p.layout ∧
          ((p.importer.listing w'.disk ⟨"/widgets/parts"⟩).run w'.state.listings).1 =
            p.importer.list w'.disk ⟨"/widgets/parts"⟩ := by
  obtain ⟨p, hp, -⟩ := exists_ok (assemble (widgetDisk "# One\n") (widgetProject [⟨"parts"⟩]))
    (fun _ => true) (by decide +kernel)
  have hloaded : Reachable p (fun l => l = .deck ∨ l = .directory ⟨"/widgets/parts"⟩) _ :=
    reachable_loaded (l := .deck) (.inl rfl) (widgetDisk "# One\n") (.initial false)
  have hlasts := (invalidation_lasts_iff hloaded).mpr ⟨fun c hc x hphase => ?_, ?_⟩
  · refine ⟨p, _, hp, hloaded, rfl, hlasts, fun w' hlater => ?_⟩
    have hquiet := hlater.quiet rfl
    exact ⟨(hlasts.later hlater).presentation hquiet (.inl rfl), (hlasts.later hlater).listing hquiet (.inr rfl)⟩
  · cases List.mem_singleton.mp hc
    exact Phase.loaded.inj hphase
  · rintro a b (ha | ha) (hb | hb) -
    · cases ha
    · cases ha
    · cases hb
    · cases ha
      cases hb
      rfl

/-- A deck with a second slide. -/
def twoSlides : String := "# One\n\n---\n\n# Two\n"

/-- After an invalidation a lookup may find the deck as it was before the edit, if somebody was slow to
remember it; and a listing may be that of a directory that was written in another way. -/
theorem invalidation_undone :
    ∃ p, assemble (widgetDisk "# One\n") ambiguousProject = .ok p ∧
      (∃ (w w' w'' : Readers) (x : Presentation), Reachable p p.LooksUp w ∧ Later p p.LooksUp w.invalidated w' ∧
        w'.disk = widgetDisk twoSlides ∧ Step p p.LooksUp w' (.answer .deck (.ok x) true) w'' ∧
        x.slides.length = 1 ∧
        (Presentation.load w'.disk p.layout).toOption.map (·.slides.length) = some 2) ∧
      (∃ (w w' w'' : Readers) (x : Listing), Reachable p p.LooksUp w ∧ w.calls = [] ∧
        Later p p.LooksUp w.invalidated w' ∧ w'.disk = widgetDisk twoSlides ∧
        Step p p.LooksUp w' (.answer (.directory ⟨"/widgets/parts"⟩) (.ok x) true) w'' ∧
        x.lookup "Foo" = some ⟨"/./widgets/parts/Foo.vue"⟩ ∧
        (p.importer.list w'.disk ⟨"/widgets/parts"⟩).lookup "Foo" = some ⟨"/widgets/parts/Foo.vue"⟩) := by
  obtain ⟨p, hp, htest⟩ := exists_ok (assemble (widgetDisk "# One\n") ambiguousProject)
    (fun p =>
      (Presentation.load (widgetDisk "# One\n") p.layout).toOption.any (·.slides.length = 1) &&
      (Presentation.load (widgetDisk twoSlides) p.layout).toOption.map (·.slides.length) = some 2 &&
      ((p.importer.searchDirs (some ⟨"/widgets"⟩)).map Path.text).contains "/widgets/parts" &&
      ((p.importer.searchDirs none).map Path.text).contains "/./widgets/parts" &&
      ((p.importer.list (widgetDisk twoSlides) ⟨"/./widgets/parts"⟩).lookup "Foo").map Path.text =
        some "/./widgets/parts/Foo.vue" &&
      ((p.importer.list (widgetDisk twoSlides) ⟨"/widgets/parts"⟩).lookup "Foo").map Path.text =
        some "/widgets/parts/Foo.vue")
    (by decide +kernel)
  simp only [Bool.and_eq_true, decide_eq_true_eq] at htest
  obtain ⟨⟨⟨⟨⟨hone, htwo⟩, hbeside⟩, hbelow⟩, hdotted⟩, hplain⟩ := htest
  have hsought : ∀ {dir : Path} {consumer : Option Path},
      ((p.importer.searchDirs consumer).map Path.text).contains dir.text = true → p.LooksUp (.directory dir) := by
    intro dir consumer h
    obtain ⟨dir', hdir', htext⟩ := List.mem_map.mp (List.contains_iff_mem.mp h)
    exact ⟨consumer, Path.eq_of_text htext ▸ hdir'⟩
  have hnamed : ∀ {file : Option Path} {text : String},
      file.map Path.text = some text → file = some ⟨text⟩ := by
    intro file text h
    obtain ⟨f, rfl, htext⟩ := Option.map_eq_some_iff.mp h
    exact congrArg some (Path.eq_of_text htext)
  refine ⟨p, hp, ?_, ?_⟩
  · obtain ⟨x, hx, hslides⟩ := exists_ok _ _ hone
    have hdeck : p.LooksUp .deck := trivial
    obtain ⟨w, w', w'', hw, hlater, hdisk, hanswer⟩ :=
      old_comes_back hdeck hx (widgetDisk twoSlides) (.initial false)
    exact ⟨w, w', w'', x, hw, hlater, hdisk, hanswer, of_decide_eq_true hslides, hdisk ▸ htwo⟩
  · have hstart : Reachable p p.LooksUp _ := .init (widgetDisk twoSlides) (.initial false)
    obtain ⟨w', w'', hlater, hdisk, hanswer⟩ := listing_comes_back (p := p)
      (w := { disk := widgetDisk twoSlides, state := { shared := .initial false } })
      (a := ⟨"/./widgets/parts"⟩) (b := ⟨"/widgets/parts"⟩) (hsought hbelow) (hsought hbeside) (by decide)
    exact ⟨_, w', w'', _, hstart, rfl, hlater, hdisk, hanswer, hnamed hdotted, hdisk ▸ hnamed hplain⟩

end Readers

end DeckPress.Pipeline
