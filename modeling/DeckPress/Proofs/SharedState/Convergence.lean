import DeckPress.Proofs.SharedState.Updates

/-!
# Subscribers and the state

An update is made in two steps: the value is replaced, and later the update is handed on. Each step has the
state to itself, but between the two other calls take theirs, and nothing keeps them in the order in which
they replaced the value. What a subscriber is sent last for a key is the update of the call that was the last
to hand one on, and that need not be the one that was the last to replace the value.

So whether a subscriber ends up with the value of the state depends on the calls under way. It is sure to if
all of them for a key carry the value that the state has, and, if there are none, if it has that value already.
Calls for a key that do not overlap are always like that.
-/

namespace DeckPress.SharedState

/-- A shared state with the calls that are at it. -/
structure Traffic where
  shared : SharedState
  /-- The updates that were made and are still to be handed on, one for each call under way. -/
  underway : List Update := []
  /-- What each subscriber has taken. -/
  taken : Nat → List Update := fun _ => []

namespace Traffic

/-- What a subscriber has received, taken or not; none if it is not there. -/
def received (w : Traffic) (n : Nat) : Option (List Update) := (w.shared.pending? n).map (w.taken n ++ ·)

/-- One step. `rule` says which updates may be made when. A call that is refused is over and changes nothing. -/
inductive Step (rule : Traffic → Update → Prop) (w : Traffic) : Traffic → Prop where
  | replace {u : Update} {s : SharedState} :
      rule w u → w.shared.replace u = .ok s →
      Step rule w { w with shared := s, underway := w.underway ++ [u] }
  | handOn {a b : List Update} {u : Update} :
      w.underway = a ++ u :: b → Step rule w { w with shared := w.shared.broadcast u, underway := a ++ b }
  | subscribe : Step rule w { w with shared := w.shared.subscribe.2 }
  | unsubscribe (n : Nat) : Step rule w { w with shared := w.shared.unsubscribe n }
  | drain (n : Nat) : Step rule w { w with
      shared := (w.shared.drain n).2
      taken := fun m => if m = n then w.taken m ++ (w.shared.drain n).1.getD [] else w.taken m }

/-- What steps lead to from the start of a synchronized session. -/
inductive Reachable (rule : Traffic → Update → Prop) : Traffic → Prop where
  | init : Reachable rule { shared := initial true }
  | tail {w w' : Traffic} : Reachable rule w → Step rule w w' → Reachable rule w'

/-- Any update may be made at any time. -/
def Free (_ : Traffic) (_ : Update) : Prop := True

/-- Calls for a key do not overlap unless they carry the same value. -/
def OneByOne (key : String) (w : Traffic) (u : Update) : Prop :=
  u.key = key → ∀ v ∈ w.underway, v.key = key → v.value = u.value

/-- The last update for a key that a subscriber has received, if there is one, has the value of the state. -/
def Agrees (w : Traffic) (n : Nat) (key : String) : Prop :=
  ∀ us v, w.received n = some us → lastValue? key us = some v → w.shared.get? key = some v

/-- The calls under way have handed on their updates, in some order, and all is over. -/
def finished (w : Traffic) (order : List Update) : Traffic :=
  { w with shared := order.foldl broadcast w.shared, underway := [] }

/-- All calls under way for a key carry the value of the state; if there are none, the subscriber has it. -/
structure Settled (w : Traffic) (n : Nat) (key : String) : Prop where
  underway : ∀ u ∈ w.underway, u.key = key → w.shared.get? key = some u.value
  agrees : (∀ u ∈ w.underway, u.key ≠ key) → w.Agrees n key

variable {rule : Traffic → Update → Prop} {w w' : Traffic} {n : Nat} {key : String}

/-! ## Two steps make a call -/

/-- A call is the two steps, whether the server makes it or the slides do. -/
theorem set_eq_steps {s : SharedState} (hsync : s.sync = true) (u : Update) :
    s.set u = (s.replace u).map (·.broadcast u) := by
  unfold set replace
  split
  · exact congrArg Except.ok (if_pos hsync)
  · rfl

theorem applyClient_eq_steps {s : SharedState} (hsync : s.sync = true) (u : Update) :
    s.applyClient u = (s.replace u).map fun s' => (true, s'.broadcast u) := by
  have hreplace : s.applyClient u = (do let s' ← s.replace u; return (true, s'.broadcast u)) := by
    unfold applyClient
    rw [hsync]
    rfl
  rw [hreplace]
  cases s.replace u <;> rfl

/-- What holds all along: the session stays synchronized, and a number is new until it is given. -/
structure Coherent (w : Traffic) : Prop where
  synced : w.shared.sync = true
  numbered : ∀ b ∈ w.shared.subscribers, b.number < w.shared.subscribed
  untaken : ∀ n, w.shared.subscribed ≤ n → w.taken n = []

theorem replaced_eq {s s' : SharedState} {u : Update} (h : s.replace u = .ok s') :
    s' = { s with values := replaceIn u s.values } ∧ (s.get? u.key).isSome := by
  unfold replace at h
  split at h
  · rename_i hkey
    exact ⟨(Except.ok.inj h).symm, hkey⟩
  · cases h

theorem Coherent.step (h : Coherent w) (hstep : Step rule w w') : Coherent w' := by
  cases hstep with
  | replace _ hs =>
    obtain ⟨rfl, -⟩ := replaced_eq hs
    exact ⟨h.synced, h.numbered, h.untaken⟩
  | handOn _ =>
    refine ⟨h.synced, fun b hb => ?_, h.untaken⟩
    obtain ⟨b', hb', hnumber⟩ := mem_broadcast hb
    exact hnumber ▸ h.numbered b' hb'
  | subscribe =>
    refine ⟨h.synced, fun b hb => ?_, fun n hn => h.untaken n (Nat.le_of_succ_le hn)⟩
    rcases List.mem_append.mp hb with hb | hb
    · exact Nat.lt_succ_of_lt (h.numbered b hb)
    · cases List.mem_singleton.mp hb
      exact Nat.lt_succ_self _
  | unsubscribe m =>
    refine ⟨h.synced, fun b hb => ?_, h.untaken⟩
    obtain ⟨b', hb', rfl⟩ := List.mem_map.mp hb
    split
    · exact h.numbered b' hb'
    · exact h.numbered b' hb'
  | drain m =>
    refine ⟨h.synced, fun b hb => ?_, fun n hn => ?_⟩
    · obtain ⟨b', hb', rfl⟩ := List.mem_map.mp hb
      split
      · exact h.numbered b' hb'
      · exact h.numbered b' hb'
    · dsimp only
      rw [h.untaken n hn]
      split
      · rename_i hm
        -- nobody has the number yet, so nothing was waiting
        subst hm
        cases hq : w.shared.pending? n with
        | none => exact congrArg (Option.getD · []) hq
        | some q => exact absurd (lt_of_pending? h.numbered hq) (Nat.not_lt.mpr hn)
      · rfl

theorem Reachable.coherent (h : Reachable rule w) : Coherent w := by
  induction h with
  | init => exact ⟨rfl, nofun, fun _ _ => rfl⟩
  | tail _ hstep ih => exact ih.step hstep

/-- Rules only forbid. -/
theorem Reachable.free (h : Reachable rule w) : Reachable Free w := by
  induction h with
  | init => exact .init
  | tail _ hstep ih =>
    refine ih.tail ?_
    cases hstep with
    | replace _ hs => exact .replace trivial hs
    | handOn hu => exact .handOn hu
    | subscribe => exact .subscribe
    | unsubscribe m => exact .unsubscribe m
    | drain m => exact .drain m

/-- A call that nothing else comes between is one of the ways there are. -/
theorem Reachable.call (h : Reachable rule w) {u : Update} (hrule : rule w u) {s : SharedState}
    (hs : w.shared.set u = .ok s ∨ w.shared.applyClient u = .ok (true, s)) :
    Reachable rule { w with shared := s } := by
  have hreplace : ∃ s', w.shared.replace u = .ok s' ∧ s = s'.broadcast u := by
    rw [set_eq_steps h.coherent.synced, applyClient_eq_steps h.coherent.synced] at hs
    cases hr : w.shared.replace u with
    | error e =>
      rw [hr] at hs
      rcases hs with hs | hs <;> cases hs
    | ok s' =>
      rw [hr] at hs
      refine ⟨s', rfl, ?_⟩
      rcases hs with hs | hs <;> cases hs <;> rfl
  obtain ⟨s', hs', rfl⟩ := hreplace
  have hdone := (h.tail (.replace hrule hs')).tail (.handOn (a := w.underway) (b := []) rfl)
  rwa [List.append_nil] at hdone

/-! ## Handing on -/

theorem received_handOn (underway : List Update) (u : Update) (n : Nat) :
    received { w with shared := w.shared.broadcast u, underway } n = (w.received n).map (· ++ [u]) := by
  unfold received
  dsimp only
  rw [pending?_broadcast, Option.map_map, Option.map_map]
  refine congrArg (Option.map · _) (funext fun us => ?_)
  exact (List.append_assoc ..).symm

/-- Handing an update on keeps things settled. -/
theorem Settled.handOn {a b : List Update} {u : Update} (h : w.Settled n key)
    (hu : w.underway = a ++ u :: b) :
    Settled { w with shared := w.shared.broadcast u, underway := a ++ b } n key := by
  have hmem : ∀ v ∈ a ++ b, v ∈ w.underway := by
    intro v hv
    rw [hu]
    grind
  refine ⟨fun v hv => h.underway v (hmem v hv), fun hnone us v hus hv => ?_⟩
  rw [received_handOn] at hus
  obtain ⟨us', hus', rfl⟩ := Option.map_eq_some_iff.mp hus
  rw [lastValue?_concat] at hv
  by_cases hk : u.key = key
  · -- the update that is handed on is the last one received, and has the value of the state
    rw [if_pos hk.symm] at hv
    rw [← hv]
    exact h.underway u (by rw [hu]; simp) hk
  · rw [if_neg (Ne.symm hk)] at hv
    refine h.agrees (fun x hx => ?_) us' v hus' hv
    rw [hu] at hx
    rcases List.mem_append.mp hx with hx | hx
    · exact hnone x (List.mem_append_left _ hx)
    · rcases List.mem_cons.mp hx with rfl | hx
      · exact hk
      · exact hnone x (List.mem_append_right _ hx)

/-- What every step of handing on keeps is kept until all is handed on. -/
theorem finished_induction {P : Traffic → Prop}
    (hstep : ∀ {w : Traffic} {a b : List Update} {u : Update}, P w → w.underway = a ++ u :: b →
      P { w with shared := w.shared.broadcast u, underway := a ++ b })
    {order : List Update} (h : P w) (hperm : order.Perm w.underway) : P (w.finished order) := by
  -- any of the calls may be the next to hand on, so what is left is some order of the others
  induction order generalizing w with
  | nil =>
    have hnone : w.finished [] = w := congrArg (fun us => { w with underway := us }) hperm.nil_eq
    rwa [hnone]
  | cons u order ih =>
    obtain ⟨a, b, hu⟩ := List.append_of_mem (hperm.subset List.mem_cons_self)
    refine ih (hstep h hu) ?_
    exact (List.perm_cons u).mp (hperm.trans (hu ▸ List.perm_middle))

theorem Reachable.finished (h : Reachable rule w) {order : List Update} (hperm : order.Perm w.underway) :
    Reachable rule (w.finished order) :=
  finished_induction (fun h hu => h.tail (.handOn hu)) h hperm

theorem Settled.finished (h : w.Settled n key) {order : List Update} (hperm : order.Perm w.underway) :
    (w.finished order).Settled n key :=
  finished_induction Settled.handOn h hperm

theorem received_finished (order : List Update) (n : Nat) :
    (w.finished order).received n = (w.received n).map (· ++ order) := by
  induction order generalizing w with
  | nil =>
    show w.received n = _
    simp only [List.append_nil]
    exact (Option.map_id' ..).symm
  | cons u order ih =>
    refine (ih (w := { w with shared := w.shared.broadcast u })).trans ?_
    rw [received_handOn w.underway, Option.map_map]
    refine congrArg (Option.map · _) (funext fun us => ?_)
    exact List.append_assoc us [u] order

theorem get?_finished (order : List Update) : (w.finished order).shared.get? key = w.shared.get? key := by
  induction order generalizing w with
  | nil => rfl
  | cons u order ih => exact ih (w := { w with shared := w.shared.broadcast u })

theorem lastValue?_append_of_ne (us : List Update) {order : List Update} (h : ∀ u ∈ order, u.key ≠ key) :
    lastValue? key (us ++ order) = lastValue? key us := by
  have hnone : order.filter (·.key = key) = [] :=
    List.filter_eq_nil_iff.mpr fun u hu => by simpa using h u hu
  unfold lastValue?
  rw [List.filter_append, hnone, List.append_nil]

/-- If a subscriber has the value of the state however the calls under way finish, things are settled. -/
theorem settled_of_finished (hn : (w.received n).isSome)
    (h : ∀ order, order.Perm w.underway → (w.finished order).Agrees n key) : w.Settled n key := by
  obtain ⟨us, hus⟩ := Option.isSome_iff_exists.mp hn
  refine ⟨fun u hu hk => ?_, fun hnone us' v hus' hv => ?_⟩
  · -- the call may be the last to finish
    have hperm : (w.underway.erase u ++ [u]).Perm w.underway :=
      (List.perm_append_singleton u _).trans (List.perm_cons_erase hu).symm
    rw [← get?_finished (w.underway.erase u ++ [u])]
    refine h _ hperm (us ++ (w.underway.erase u ++ [u])) u.value ?_ ?_
    · rw [received_finished, hus]
      rfl
    · rw [← List.append_assoc, lastValue?_concat, if_pos hk.symm]
  · rw [← get?_finished w.underway]
    refine h _ (.refl _) (us' ++ w.underway) v ?_ ?_
    · rw [received_finished, hus']
      rfl
    · rw [lastValue?_append_of_ne us' hnone, hv]

/-! ## Calls that do not overlap -/

theorem get?_replaced {s s' : SharedState} {u : Update} (h : s.replace u = .ok s') (key : String) :
    s'.get? key = if u.key = key then some u.value else s.get? key := by
  obtain ⟨rfl, hsome⟩ := replaced_eq h
  refine (lookup_replaceIn u s.values key).trans ?_
  by_cases hk : u.key = key
  · subst hk
    obtain ⟨v, hv⟩ := Option.isSome_iff_exists.mp hsome
    rw [if_pos rfl, if_pos rfl, show s.values.lookup u.key = some v from hv]
    rfl
  · rw [if_neg (Ne.symm hk), if_neg hk]
    rfl

theorem received_replaced {s : SharedState} {u : Update} (h : w.shared.replace u = .ok s)
    (underway : List Update) (n : Nat) : received { w with shared := s, underway } n = w.received n := by
  obtain ⟨rfl, -⟩ := replaced_eq h
  rfl

theorem received_subscribe (h : Coherent w) (n : Nat) :
    received { w with shared := w.shared.subscribe.2 } n =
      if n = w.shared.subscribed then some [] else w.received n := by
  unfold received
  dsimp only
  rw [pending?_subscribe h.numbered]
  split
  · rename_i hn
    rw [h.untaken n (Nat.le_of_eq hn.symm)]
    rfl
  · rfl

theorem received_unsubscribe (m n : Nat) :
    received { w with shared := w.shared.unsubscribe m } n = if n = m then none else w.received n := by
  unfold received
  dsimp only
  rw [pending?_unsubscribe]
  split <;> rfl

/-- Taking what waits changes nothing about what was received. -/
theorem received_drain (m n : Nat) :
    received { w with
      shared := (w.shared.drain m).2
      taken := fun k => if k = m then w.taken k ++ (w.shared.drain m).1.getD [] else w.taken k } n =
      w.received n := by
  unfold received
  dsimp only
  rw [pending?_drain]
  split
  · rename_i hn
    subst hn
    show ((w.shared.pending? n).map _).map (w.taken n ++ (w.shared.pending? n).getD [] ++ ·) = _
    cases w.shared.pending? n with
    | none => rfl
    | some us => exact congrArg some (List.append_nil _)
  · rfl

/-- As long as the calls for a key do not overlap, things stay settled. -/
theorem Settled.step (h : w.Settled n key) (hw : Coherent w) (hstep : Step (OneByOne key) w w') :
    w'.Settled n key := by
  cases hstep with
  | @replace u s hrule hs =>
    have hvalue := get?_replaced hs key
    by_cases hk : u.key = key
    · -- the state has the value of this call now, and all that overlap with it carry the same
      rw [if_pos hk] at hvalue
      refine ⟨fun v hv hv' => ?_, fun hnone => absurd hk (hnone u (by simp))⟩
      rcases List.mem_append.mp hv with hv | hv
      · exact hvalue.trans (congrArg some (hrule hk v hv hv').symm)
      · exact hvalue.trans (congrArg (fun x => some x.value) (List.mem_singleton.mp hv).symm)
    · rw [if_neg hk] at hvalue
      refine ⟨fun v hv hv' => ?_, fun hnone us v hus hv => ?_⟩
      · rcases List.mem_append.mp hv with hv | hv
        · exact hvalue.trans (h.underway v hv hv')
        · exact absurd (List.mem_singleton.mp hv ▸ hv') hk
      · rw [received_replaced hs] at hus
        exact hvalue.trans (h.agrees (fun x hx => hnone x (List.mem_append_left _ hx)) us v hus hv)
  | handOn hu => exact h.handOn hu
  | subscribe =>
    refine ⟨h.underway, fun hnone us v hus hv => ?_⟩
    rw [received_subscribe hw] at hus
    split at hus
    · cases hus
      cases hv
    · exact h.agrees hnone us v hus hv
  | unsubscribe m =>
    refine ⟨h.underway, fun hnone us v hus hv => ?_⟩
    rw [received_unsubscribe] at hus
    split at hus
    · cases hus
    · exact h.agrees hnone us v hus hv
  | drain m =>
    refine ⟨h.underway, fun hnone us v hus hv => ?_⟩
    rw [received_drain] at hus
    exact h.agrees hnone us v hus hv

theorem Reachable.settled (h : Reachable (OneByOne key) w) (n : Nat) : w.Settled n key := by
  induction h with
  | init => exact ⟨nofun, fun _ us v hus => by cases hus⟩
  | tail hw hstep ih => exact ih.step hw.coherent hstep

/--
**Subscribers get to the value of the state exactly if the calls under way agree on it.**

Wherever the steps have led to, the calls under way may finish in any order. A subscriber that is there ends up
with the value of the state in all of them exactly if things are settled. If the calls for a key do not overlap,
or do so with one value, they always are, and once no call is under way what a subscriber has received last is
the value of the state.
-/
theorem subscribers_converge_iff (n : Nat) (key : String) :
    (∀ w, Reachable Free w → (w.received n).isSome →
      (∀ order, order.Perm w.underway → Reachable Free (w.finished order)) ∧
      ((∀ order, order.Perm w.underway → (w.finished order).Agrees n key) ↔ w.Settled n key)) ∧
    (∀ w, Reachable (OneByOne key) w → w.Settled n key ∧ (w.underway = [] → w.Agrees n key)) := by
  refine ⟨fun w hw hn => ⟨fun order => hw.finished, ?_⟩, fun w hw => ⟨hw.settled n, fun hidle => ?_⟩⟩
  · refine ⟨settled_of_finished hn, fun h order hperm => ?_⟩
    exact (h.finished hperm).agrees nofun
  · exact (hw.settled n).agrees (by rw [hidle]; exact nofun)

/-- The server has set a page and the slides their tab, each without anything in between. Then two calls for
different keys are under way, and the one for the tab finishes first. -/
theorem subscribers_converge_pageAndTab :
    ∃ w : Traffic, Reachable (OneByOne "page") w ∧ w.received 0 = some [⟨"page", 1⟩, ⟨"tab", 2⟩] ∧
      w.underway = [⟨"page", 3⟩, ⟨"tab", 1⟩] ∧
      (w.finished [⟨"tab", 1⟩, ⟨"page", 3⟩]).Agrees 0 "page" ∧
      (w.finished [⟨"tab", 1⟩, ⟨"page", 3⟩]).received 0 =
        some [⟨"page", 1⟩, ⟨"tab", 2⟩, ⟨"tab", 1⟩, ⟨"page", 3⟩] := by
  have hjoined : Reachable (OneByOne "page") _ := Reachable.init.tail .subscribe
  have hset := hjoined.call (u := ⟨"page", 1⟩) (fun _ _ => nofun) (.inl rfl)
  have hposted := hset.call (u := ⟨"tab", 2⟩) (fun h => absurd h (by decide)) (.inr rfl)
  have hpage := hposted.tail (.replace (u := ⟨"page", 3⟩) (fun _ _ => nofun) rfl)
  have htab := hpage.tail (.replace (u := ⟨"tab", 1⟩) (fun h => absurd h (by decide)) rfl)
  obtain ⟨hfree, honeByOne⟩ := subscribers_converge_iff 0 "page"
  refine ⟨_, htab, by decide, rfl, ?_, by decide⟩
  exact (hfree _ htab.free (by decide)).2.mpr (honeByOne _ htab).1 _ (by decide)

/-- Two calls cross: the one that replaces the page last is the first to hand its update on. -/
theorem diverged_by_crossing :
    ∃ w : Traffic, Reachable Free w ∧ w.underway = [] ∧
      w.received 0 = some [⟨"page", 2⟩, ⟨"page", 1⟩] ∧ w.shared.get? "page" = some 2 ∧
      ¬ w.Agrees 0 "page" := by
  have hjoined : Reachable Free _ := Reachable.init.tail .subscribe
  have hfirst := hjoined.tail (.replace (u := ⟨"page", 1⟩) trivial rfl)
  have hsecond := hfirst.tail (.replace (u := ⟨"page", 2⟩) trivial rfl)
  have hcrossed := hsecond.tail (.handOn (a := [⟨"page", 1⟩]) (b := []) rfl)
  have hdone := hcrossed.tail (.handOn (a := []) (b := []) rfl)
  refine ⟨_, hdone, rfl, by decide, by decide, fun h => ?_⟩
  exact absurd (h _ 1 (by decide : _ = some [⟨"page", 2⟩, ⟨"page", 1⟩]) (by decide)) (by decide)

end Traffic

end DeckPress.SharedState
