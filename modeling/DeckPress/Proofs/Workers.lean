import Mathlib.Data.List.Forall2

/-!
# Workers that share a state

A worker takes its work in steps. A step changes the shared state at once, and how the work goes on
depends on what the step found; between two steps other workers take theirs. What a worker comes to is
then not known from the state it started in, but from terms that all workers agree on: a property of the
state that no step breaks, and a record on which each worker owes some entries. A worker that pays its
debt in every state with the property pays it among others as well.
-/

namespace DeckPress

/-- Work in steps, with a result. -/
inductive Steps (σ α : Type) where
  | done (a : α)
  /-- A step leaves another state behind, and goes on with what it found. -/
  | step (leave : σ → σ) (next : σ → Steps σ α)

namespace Steps

variable {σ α β ε : Type}

/-- Goes on with the result of the work. -/
def bind : Steps σ α → (α → Steps σ β) → Steps σ β
  | done a, g => g a
  | step leave next, g => step leave fun s => (next s).bind g

/-- The work with nobody else at it. -/
def run : Steps σ α → σ → α × σ
  | done a, s => (a, s)
  | step leave next, s => (next s).run (leave s)

theorem run_bind (f : Steps σ α) (g : α → Steps σ β) (s : σ) :
    (f.bind g).run s = (g (f.run s).1).run (f.run s).2 := by
  induction f generalizing s with
  | done a => rfl
  | step leave next ih => exact ih s (leave s)

/-- Work on a part of a state. -/
def within {τ : Type} (get : σ → τ) (set : τ → σ → σ) : Steps τ α → Steps σ α
  | done a => done a
  | step leave next => step (fun s => set (leave (get s)) s) fun s => (next (get s)).within get set

/-- Work on a part of a state changes that part. -/
theorem run_within {τ : Type} {get : σ → τ} {set : τ → σ → σ} (hget : ∀ u s, get (set u s) = u)
    (hset : ∀ u v s, set u (set v s) = set u s) (hself : ∀ s, set (get s) s = s) (f : Steps τ α) (s : σ) :
    (f.within get set).run s = ((f.run (get s)).1, set (f.run (get s)).2 s) := by
  induction f generalizing s with
  | done a => rw [within, run, run, hself]
  | step leave next ih =>
    rw [within, run, ih, hget, hset]
    rfl

end Steps

/-- What workers on one state agree on. -/
structure Terms (σ ε : Type) where
  /-- What every step keeps. -/
  holds : σ → Prop
  /-- What is on record in a state. -/
  noted : σ → ε → Prop

/-- What a worker is there for: its result, and the entries it still has to put on record. -/
structure Contract (α ε : Type) where
  result : α → Prop
  debt : ε → Prop

/-- A worker meets its contract, whatever the others do within the terms: each step keeps them, and puts
on record what it takes off the debt. -/
inductive Meets {σ α ε : Type} (t : Terms σ ε) : Contract α ε → Steps σ α → Prop where
  | done {k : Contract α ε} {a : α} : k.result a → (∀ x, ¬ k.debt x) → Meets t k (.done a)
  | step {k : Contract α ε} {leave : σ → σ} {next : σ → Steps σ α} (rest : σ → ε → Prop) :
      (∀ s, t.holds s → t.holds (leave s)) →
      (∀ s, t.holds s → ∀ x, t.noted (leave s) x ∨ rest s x ↔ t.noted s x ∨ k.debt x) →
      (∀ s, t.holds s → Meets t ⟨k.result, rest s⟩ (next s)) → Meets t k (.step leave next)

namespace Meets

variable {σ α β ε : Type} {t : Terms σ ε}

/-- Two workers in a row owe both debts. -/
theorem bind {f : Steps σ α} {g : α → Steps σ β} {k : Contract α ε} {result : β → Prop} {debt : ε → Prop}
    (hf : Meets t k f) (hg : ∀ a, k.result a → Meets t ⟨result, debt⟩ (g a)) :
    Meets t ⟨result, fun x => k.debt x ∨ debt x⟩ (f.bind g) := by
  induction hf with
  | @done k a ha hpaid =>
    -- the first work is over and paid for, so what is owed is the debt of the second
    have hdebt : (fun x => k.debt x ∨ debt x) = debt := by
      funext x
      simp [hpaid x]
    rw [hdebt]
    exact hg a ha
  | @step k leave next rest hholds hpays hnext ih =>
    refine .step (fun s x => rest s x ∨ debt x) hholds (fun s hs x => ?_) fun s hs => ih s hs hg
    dsimp only
    rw [← or_assoc, hpays s hs x, or_assoc]

/-- A contract with the same debt that says less. -/
theorem mono {f : Steps σ α} {k k' : Contract α ε} (h : Meets t k f)
    (hresult : ∀ a, k.result a → k'.result a) (hdebt : ∀ x, k.debt x ↔ k'.debt x) : Meets t k' f := by
  induction h generalizing k' with
  | done ha hpaid => exact .done (hresult _ ha) fun x hx => hpaid x ((hdebt x).mpr hx)
  | step rest hholds hpays _ ih =>
    exact .step rest hholds (fun s hs x => (hpays s hs x).trans (or_congr_right (hdebt x)))
      fun s hs => ih s hs hresult fun _ => Iff.rfl

/-- Two workers in a row of which the first owes nothing. -/
theorem bind_owing {f : Steps σ α} {g : α → Steps σ β} {k : Contract α ε} {k' : Contract β ε}
    (hf : Meets t k f) (hfree : ∀ x, ¬ k.debt x) (hg : ∀ a, k.result a → Meets t k' (g a)) :
    Meets t k' (f.bind g) :=
  (hf.bind hg).mono (fun _ h => h) fun x => or_iff_right (hfree x)

/-- Two workers in a row of which the second owes nothing. -/
theorem bind_paid {f : Steps σ α} {g : α → Steps σ β} {k : Contract α ε} {result : β → Prop}
    (hf : Meets t k f) (hg : ∀ a, k.result a → Meets t ⟨result, fun _ => False⟩ (g a)) :
    Meets t ⟨result, k.debt⟩ (f.bind g) :=
  (hf.bind hg).mono (fun _ h => h) fun _ => or_iff_left id

/-- Work on a part of a state of which nothing is put on record. -/
theorem within {τ : Type} {u : Terms τ ε} (get : σ → τ) (set : τ → σ → σ)
    (hnoted : ∀ v x, ¬ u.noted v x) (hget : ∀ s, t.holds s → u.holds (get s))
    (hset : ∀ v s, u.holds v → t.holds s → t.holds (set v s))
    (hsame : ∀ v s x, t.noted (set v s) x ↔ t.noted s x) {f : Steps τ α} {k : Contract α ε}
    (h : Meets u k f) : Meets t k (f.within get set) := by
  induction h with
  | done ha hpaid => exact .done ha hpaid
  | step rest hholds hpays _ ih =>
    refine .step (fun s => rest (get s)) (fun s hs => hset _ s (hholds _ (hget s hs)) hs)
      (fun s hs x => ?_) fun s hs => ih (get s) (hget s hs)
    have hpay := hpays (get s) (hget s hs) x
    simp only [hnoted, false_or] at hpay
    rw [hsame, hpay]

/-- A worker by itself pays its whole debt. -/
theorem run {f : Steps σ α} {k : Contract α ε} (h : Meets t k f) {s : σ} (hs : t.holds s) :
    k.result (f.run s).1 ∧ t.holds (f.run s).2 ∧
      ∀ x, t.noted (f.run s).2 x ↔ t.noted s x ∨ k.debt x := by
  induction h generalizing s with
  | done ha hpaid => exact ⟨ha, hs, fun x => by simp [Steps.run, hpaid x]⟩
  | step rest hholds hpays _ ih =>
    obtain ⟨hresult, hleft, hnoted⟩ := ih s hs (hholds s hs)
    exact ⟨hresult, hleft, fun x => (hnoted x).trans (hpays s hs x)⟩

end Meets

/-- A state and the workers at it. -/
structure Crew (σ α : Type) where
  state : σ
  workers : List (Steps σ α)

namespace Crew

variable {σ α ε : Type}

/-- One worker takes a step. -/
inductive Step : Crew σ α → Crew σ α → Prop where
  | mk {s : σ} {before after : List (Steps σ α)} {leave : σ → σ} {next : σ → Steps σ α} :
      Step ⟨s, before ++ .step leave next :: after⟩ ⟨leave s, before ++ next s :: after⟩

/-- What the workers may come to, taking their steps in any order. -/
inductive Leads (c : Crew σ α) : Crew σ α → Prop where
  | refl : Leads c c
  | tail {c' c'' : Crew σ α} : Leads c c' → Step c' c'' → Leads c c''

theorem Leads.trans {a b c : Crew σ α} (hab : Leads a b) (hbc : Leads b c) : Leads a c := by
  induction hbc with
  | refl => exact hab
  | tail _ hstep ih => exact ih.tail hstep

/-- A worker may do all its work while the others wait. -/
theorem leads_run (s : σ) (before after : List (Steps σ α)) (f : Steps σ α) :
    Leads ⟨s, before ++ f :: after⟩ ⟨(f.run s).2, before ++ .done (f.run s).1 :: after⟩ := by
  induction f generalizing s with
  | done a => exact .refl
  | step leave next ih => exact (Leads.tail .refl .mk).trans (ih s (leave s))

/-- The terms hold, each worker meets a contract with the result it was hired for, and what is on record
or owed is what was to be put on record from the start. -/
structure Keeps (t : Terms σ ε) (results : List (α → Prop)) (total : ε → Prop) (c : Crew σ α) : Prop where
  holds : t.holds c.state
  contracts : ∃ ks : List (Contract α ε), ks.map Contract.result = results ∧
    List.Forall₂ (Meets t) ks c.workers ∧
    ∀ x, (t.noted c.state x ∨ ∃ k ∈ ks, k.debt x) ↔ total x

variable {t : Terms σ ε}

theorem forall₂_split {κ ω : Type} {R : κ → ω → Prop} {ks : List κ} {before after : List ω} {w : ω}
    (h : List.Forall₂ R ks (before ++ w :: after)) :
    ∃ front k back, ks = front ++ k :: back ∧ List.Forall₂ R front before ∧ R k w ∧
      List.Forall₂ R back after := by
  induction before generalizing ks with
  | nil =>
    rcases h with _ | ⟨hk, hback⟩
    exact ⟨[], _, _, rfl, .nil, hk, hback⟩
  | cons b before ih =>
    rcases h with _ | ⟨hb, hrest⟩
    obtain ⟨front, k, back, rfl, hfront, hk, hback⟩ := ih hrest
    exact ⟨_ :: front, k, back, rfl, .cons hb hfront, hk, hback⟩

/-- A step moves entries from the debt of one worker to the record. -/
theorem Keeps.step {results : List (α → Prop)} {total : ε → Prop} {c c' : Crew σ α}
    (h : Keeps t results total c) (hstep : Step c c') : Keeps t results total c' := by
  obtain @⟨s, before, after, leave, next⟩ := hstep
  obtain ⟨hs, ks, hresults, hmeets, htotal⟩ := h
  obtain ⟨front, k, back, rfl, hfront, hk, hback⟩ := forall₂_split hmeets
  rcases hk with _ | ⟨rest, hholds, hpays, hnext⟩
  -- only the contract of the worker that took the step changes
  refine ⟨hholds s hs, front ++ ⟨k.result, rest s⟩ :: back, by simpa using hresults,
    List.rel_append hfront (.cons (hnext s hs) hback), fun x => ?_⟩
  rw [← htotal x]
  have hpay := hpays s hs x
  simp only [List.mem_append, List.mem_cons]
  constructor
  · rintro (hn | ⟨k', hk' | rfl | hk', hd⟩)
    · rcases hpay.mp (.inl hn) with hn | hd
      · exact .inl hn
      · exact .inr ⟨k, .inr (.inl rfl), hd⟩
    · exact .inr ⟨k', .inl hk', hd⟩
    · rcases hpay.mp (.inr hd) with hn | hd
      · exact .inl hn
      · exact .inr ⟨k, .inr (.inl rfl), hd⟩
    · exact .inr ⟨k', .inr (.inr hk'), hd⟩
  · have hnow : t.noted s x ∨ k.debt x → t.noted (leave s) x ∨
        ∃ k', (k' ∈ front ∨ k' = ⟨k.result, rest s⟩ ∨ k' ∈ back) ∧ k'.debt x := fun h =>
      (hpay.mpr h).imp_right fun hd => ⟨⟨k.result, rest s⟩, .inr (.inl rfl), hd⟩
    rintro (hn | ⟨k', hk' | rfl | hk', hd⟩)
    · exact hnow (.inl hn)
    · exact .inr ⟨k', .inl hk', hd⟩
    · exact hnow (.inr hd)
    · exact .inr ⟨k', .inr (.inr hk'), hd⟩

theorem Keeps.leads {results : List (α → Prop)} {total : ε → Prop} {c c' : Crew σ α}
    (h : Keeps t results total c) (hleads : Leads c c') : Keeps t results total c' := by
  induction hleads with
  | refl => exact h
  | tail _ hstep ih => exact ih.step hstep

/-- When all workers are done, each has its result and all debts are on record. -/
theorem Keeps.done {results : List (α → Prop)} {total : ε → Prop} {s : σ} {answers : List α}
    (h : Keeps t results total ⟨s, answers.map .done⟩) :
    t.holds s ∧ List.Forall₂ (fun result a => result a) results answers ∧
      ∀ x, t.noted s x ↔ total x := by
  obtain ⟨hs, ks, rfl, hmeets, htotal⟩ := h
  rw [List.forall₂_map_right_iff] at hmeets
  have hdone : List.Forall₂ (fun k a => (∀ x, ¬ k.debt x) ∧ k.result a) ks answers := by
    refine hmeets.imp ?_
    rintro k a ⟨ha, hpaid⟩
    exact ⟨hpaid, ha⟩
  obtain ⟨hpaid, hresults⟩ := (List.forall₂_and_left ks answers).mp hdone
  refine ⟨hs, List.forall₂_map_left_iff.mpr hresults, fun x => ?_⟩
  have hnone : ¬ ∃ k ∈ ks, k.debt x := fun ⟨k, hk, hd⟩ => hpaid k hk x hd
  rw [← htotal x, or_iff_left hnone]

end Crew

end DeckPress
