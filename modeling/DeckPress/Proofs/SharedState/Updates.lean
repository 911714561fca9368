import DeckPress.SharedState
import Mathlib.Data.List.Induction

/-!
# Updates of the shared state

A session's state is known from what was done to it. Its values are those of the schema with all updates
made to them in order, and what waits for a subscriber are the updates made since it came, less those it
has taken. Subscribers that go away are only dropped when the next update is handed on, and until then they
stand between the others; so the queues are looked at through the number of a subscriber that still
listens, and each operation has one equation for what it leaves under a number.
-/

namespace DeckPress.SharedState

/-- What can be done with the state of a session. -/
inductive Operation where
  | get (key : String)
  | set (u : Update)
  | client (u : Update)
  | subscribe
  | unsubscribe (n : Nat)
  | drain (n : Nat)

/-- What is answered. -/
inductive Answer where
  | value (v : Option Nat)
  | done
  | applied (yes : Bool)
  | refused (e : Error)
  | number (n : Nat)
  | updates (us : Option (List Update))

/-- Does one operation. One that is refused leaves the state as it is. -/
def perform (s : SharedState) : Operation → Answer × SharedState
  | .get key => (.value (s.get? key), s)
  | .set u =>
    match s.set u with
    | .ok s' => (.done, s')
    | .error e => (.refused e, s)
  | .client u =>
    match s.applyClient u with
    | .ok (yes, s') => (.applied yes, s')
    | .error e => (.refused e, s)
  | .subscribe => (.number s.subscribe.1, s.subscribe.2)
  | .unsubscribe n => (.done, s.unsubscribe n)
  | .drain n => (.updates (s.drain n).1, (s.drain n).2)

/-- The state after some operations. -/
def after (s : SharedState) (ops : List Operation) : SharedState := ops.foldl (fun s op => (s.perform op).2) s

/-- What an answer hands to a subscriber. -/
def handed (n : Nat) : Operation → Answer → List Update
  | .drain m, .updates (some us) => if m = n then us else []
  | _, _ => []

/-- What a subscriber takes in the course of some operations. -/
def taken (n : Nat) (s : SharedState) : List Operation → List Update
  | [] => []
  | op :: ops => handed n op (s.perform op).1 ++ taken n (s.perform op).2 ops

/-- Whether an update is for one of the keys. -/
def Known (u : Update) : Prop := u.key ∈ schema.map Prod.fst

instance (u : Update) : Decidable (Known u) := inferInstanceAs (Decidable (_ ∈ _))

/-- The update that an operation tries to make. Without synchronization those of the slides are ignored. -/
def Operation.attempt? (sync : Bool) : Operation → Option Update
  | .set u => some u
  | .client u => if sync then some u else none
  | _ => none

/-- The update that an operation makes: one with an unknown key is refused. -/
def Operation.update? (sync : Bool) (op : Operation) : Option Update :=
  (op.attempt? sync).filter fun u => Known u

/-- All updates that some operations make. -/
def updatesOf (sync : Bool) (ops : List Operation) : List Update := ops.filterMap (·.update? sync)

/-- The values with some updates made to them in order. -/
def revised (values : List (String × Nat)) (us : List Update) : List (String × Nat) :=
  us.foldl (fun vs u => replaceIn u vs) values

/-- The value that the last of some updates for a key has. -/
def lastValue? (key : String) (us : List Update) : Option Nat :=
  (us.filter (·.key = key)).getLast?.map Update.value

/-! ## Values -/

theorem keys_replaceIn (u : Update) (values : List (String × Nat)) :
    (replaceIn u values).map Prod.fst = values.map Prod.fst := by
  unfold replaceIn
  rw [List.map_map]
  refine List.map_congr_left fun ⟨k, v⟩ _ => ?_
  show (if k = u.key then (k, u.value) else (k, v)).1 = k
  split <;> rfl

theorem lookup_replaceIn (u : Update) (values : List (String × Nat)) (key : String) :
    (replaceIn u values).lookup key =
      if key = u.key then (values.lookup key).map fun _ => u.value else values.lookup key := by
  induction values with
  | nil => simp [replaceIn]
  | cons entry values ih =>
    obtain ⟨k, v⟩ := entry
    have hcons : replaceIn u ((k, v) :: values) =
        (k, if k = u.key then u.value else v) :: replaceIn u values := by
      unfold replaceIn
      rw [List.map_cons]
      dsimp only
      split <;> rfl
    rw [hcons, List.lookup_cons, List.lookup_cons, ih]
    by_cases hk : key = k
    · subst hk
      simp only [beq_self_eq_true, Option.map_some]
      split <;> rfl
    · rw [beq_eq_false_iff_ne.mpr hk]

theorem keys_revised (values : List (String × Nat)) (us : List Update) :
    (revised values us).map Prod.fst = values.map Prod.fst := by
  induction us generalizing values with
  | nil => rfl
  | cons u us ih => exact (ih (replaceIn u values)).trans (keys_replaceIn u values)

theorem revised_concat (values : List (String × Nat)) (us : List Update) (u : Update) :
    revised values (us ++ [u]) = replaceIn u (revised values us) := by
  unfold revised
  rw [List.foldl_append, List.foldl_cons, List.foldl_nil]

theorem lastValue?_concat (key : String) (us : List Update) (u : Update) :
    lastValue? key (us ++ [u]) = if key = u.key then some u.value else lastValue? key us := by
  unfold lastValue?
  rw [List.filter_append]
  by_cases h : key = u.key
  · rw [if_pos h, List.filter_cons_of_pos (by simp [h]), List.filter_nil, List.getLast?_concat]
    rfl
  · rw [if_neg h, List.filter_cons_of_neg (by simpa using Ne.symm h), List.filter_nil, List.append_nil]

/-- After some updates a key has the value of the last one for it, or else the one it had. -/
theorem lookup_revised (values : List (String × Nat)) (us : List Update) (key : String) :
    (revised values us).lookup key = (values.lookup key).map fun v => (lastValue? key us).getD v := by
  -- from the end, where the update stands that decides
  induction us using List.reverseRecOn with
  | nil =>
    show values.lookup key = _
    cases values.lookup key <;> rfl
  | append_singleton us u ih =>
    rw [revised_concat, lookup_replaceIn, ih, lastValue?_concat]
    split
    · rw [Option.map_map]
      rfl
    · rfl

/-! ## Queues -/

theorem number_of_isAt {n : Nat} {b : Subscriber} (h : b.isAt n) : b.number = n :=
  of_decide_eq_true (Bool.and_eq_true_iff.mp h).2

/-- A change that keeps the subscriber with a number, and lets no other take its place, is seen through the
number as a change of what waits there. -/
theorem pending_filterMap {f : Subscriber → Option Subscriber} {g : List Update → List Update} {n : Nat}
    (hkept : ∀ b, b.isAt n → ∃ b', f b = some b' ∧ b'.isAt n ∧ b'.pending = g b.pending)
    (hother : ∀ b b', f b = some b' → b'.isAt n → b.isAt n) (bs : List Subscriber) :
    ((bs.filterMap f).find? (·.isAt n)).map (·.pending) =
      ((bs.find? (·.isAt n)).map (·.pending)).map g := by
  -- the first that has the number is found before and after, so those behind it do not matter
  induction bs with
  | nil => rfl
  | cons b bs ih =>
    by_cases hb : b.isAt n
    · obtain ⟨b', hf, hb', hpending⟩ := hkept b hb
      rw [List.filterMap_cons_some hf, List.find?_cons_of_pos hb', List.find?_cons_of_pos hb]
      exact congrArg some hpending
    · rw [List.find?_cons_of_neg hb]
      cases hf : f b with
      | none => rw [List.filterMap_cons_none hf, ih]
      | some b' =>
        rw [List.filterMap_cons_some hf, List.find?_cons_of_neg (fun h => hb (hother b b' hf h)), ih]

/-- An update that is handed on comes to wait, as the last, for every subscriber that is there. -/
theorem pending?_broadcast (s : SharedState) (u : Update) (n : Nat) :
    (s.broadcast u).pending? n = (s.pending? n).map (· ++ [u]) := by
  refine pending_filterMap (fun b hb => ?_) (fun b b' hf hb' => ?_) s.subscribers
  · have hlistening : b.listening = true := (Bool.and_eq_true_iff.mp hb).1
    exact ⟨{ b with pending := b.pending ++ [u] }, if_pos hlistening, hb, rfl⟩
  · unfold Subscriber.send? at hf
    split at hf
    · cases hf
      exact hb'
    · cases hf

theorem pending_map {f : Subscriber → Subscriber} {g : List Update → List Update} {n : Nat}
    (hkept : ∀ b, b.isAt n → (f b).isAt n ∧ (f b).pending = g b.pending)
    (hother : ∀ b, (f b).isAt n → b.isAt n) (bs : List Subscriber) :
    ((bs.map f).find? (·.isAt n)).map (·.pending) = ((bs.find? (·.isAt n)).map (·.pending)).map g := by
  rw [← List.filterMap_eq_map']
  exact pending_filterMap (fun b hb => ⟨f b, rfl, hkept b hb⟩) (fun b b' hf => by cases hf; exact hother b) bs

theorem pending?_subscribe {s : SharedState} (h : ∀ b ∈ s.subscribers, b.number < s.subscribed) (n : Nat) :
    s.subscribe.2.pending? n = if n = s.subscribed then some [] else s.pending? n := by
  unfold pending? subscribe
  rw [List.find?_append]
  split
  · rename_i hn
    have hnone : s.subscribers.find? (·.isAt n) = none := by
      rw [List.find?_eq_none]
      intro b hb hat
      have hlt := h b hb
      have hnumber := number_of_isAt hat
      omega
    rw [hnone, hn]
    simp [Subscriber.isAt]
  · rename_i hn
    rw [List.find?_cons_of_neg (by simpa [Subscriber.isAt] using Ne.symm hn), List.find?_nil, Option.or_none]

theorem pending?_unsubscribe (s : SharedState) (m n : Nat) :
    (s.unsubscribe m).pending? n = if n = m then none else s.pending? n := by
  split
  · rename_i hn
    refine Option.map_eq_none_iff.mpr (List.find?_eq_none.mpr fun b hb => ?_)
    obtain ⟨b', -, rfl⟩ := List.mem_map.mp hb
    split
    · simp [Subscriber.isAt]
    · rename_i hb'
      simp [Subscriber.isAt, hn, hb']
  · rename_i hn
    have hmap := pending_map (n := n) (g := id)
      (f := fun b => if b.number = m then { b with listening := false, pending := [] } else b)
      (fun b hb => ?_) (fun b hb => ?_) s.subscribers
    · rwa [Option.map_id_fun, id] at hmap
    · rw [if_neg (by rw [number_of_isAt hb]; exact hn)]
      exact ⟨hb, rfl⟩
    · split at hb
      · cases hb
      · exact hb

theorem pending?_drain (s : SharedState) (m n : Nat) :
    (s.drain m).2.pending? n = if n = m then (s.pending? n).map fun _ => [] else s.pending? n := by
  have hmap := pending_map (n := n) (g := fun us => if n = m then [] else us)
    (f := fun b => if b.number = m then { b with pending := [] } else b)
    (fun b hb => ?_) (fun b hb => ?_) s.subscribers
  · refine hmap.trans ?_
    split
    · rfl
    · exact Option.map_id' ..
  · have hnumber := number_of_isAt hb
    by_cases hm : n = m
    · rw [if_pos (hnumber.trans hm), if_pos hm]
      exact ⟨hb, rfl⟩
    · rw [if_neg (hnumber ▸ hm), if_neg hm]
      exact ⟨hb, rfl⟩
  · split at hb
    · exact hb
    · exact hb

/-! ## What an operation does -/

/-- What holds of a state that came from the schema. -/
structure Sound (s : SharedState) : Prop where
  keys : s.values.map Prod.fst = schema.map Prod.fst
  /-- The next subscriber's number is a new one. -/
  numbered : ∀ b ∈ s.subscribers, b.number < s.subscribed
  /-- Without synchronization nothing waits. -/
  silent : s.sync = false → ∀ b ∈ s.subscribers, b.pending = []

theorem sound_initial (sync : Bool) : Sound (initial sync) := ⟨rfl, nofun, fun _ => nofun⟩

theorem lookup_isSome_iff (values : List (String × Nat)) (key : String) :
    (values.lookup key).isSome ↔ key ∈ values.map Prod.fst := by
  induction values with
  | nil => simp
  | cons entry values ih =>
    rw [List.lookup_cons, List.map_cons, List.mem_cons, ← ih]
    by_cases h : key = entry.1
    · simp [h]
    · rw [beq_eq_false_iff_ne.mpr h]
      simp [h]

/-- An update is refused exactly if its key is not in the schema. -/
theorem replace_eq {s : SharedState} (h : Sound s) (u : Update) :
    s.replace u = if Known u then .ok { s with values := replaceIn u s.values }
      else .error (.validation (.unknownKey u.key)) := by
  have hknown : (s.get? u.key).isSome ↔ Known u := by
    rw [Known, ← h.keys]
    exact lookup_isSome_iff s.values u.key
  unfold replace
  simp only [hknown]

/-- A state after an update was made to it. -/
def updated (s : SharedState) (u : Update) : SharedState :=
  let s' := { s with values := replaceIn u s.values }
  if s.sync then s'.broadcast u else s'

theorem set_eq {s : SharedState} (h : Sound s) (u : Update) :
    s.set u = if Known u then .ok (s.updated u) else .error (.validation (.unknownKey u.key)) := by
  unfold set
  rw [replace_eq h]
  split
  · rfl
  · rfl

theorem applyClient_eq {s : SharedState} (h : Sound s) (u : Update) :
    s.applyClient u = if s.sync then
        if Known u then .ok (true, s.updated u) else .error (.validation (.unknownKey u.key))
      else .ok (false, s) := by
  unfold applyClient updated
  rw [replace_eq h]
  by_cases hk : Known u
  · rw [if_pos hk, if_pos hk]
    cases s.sync with
    | false => rfl
    | true => rfl
  · rw [if_neg hk, if_neg hk]
    cases s.sync with
    | false => rfl
    | true => rfl

/-- An update that is tried is made if its key is known, and else refused. -/
theorem perform_eq {s : SharedState} (h : Sound s) {op : Operation} {u : Update}
    (hop : op.attempt? s.sync = some u) :
    ∃ made : Answer, (∀ e, made ≠ .refused e) ∧ s.perform op =
      if Known u then (made, s.updated u) else (.refused (.validation (.unknownKey u.key)), s) := by
  unfold perform
  cases op with
  | set v =>
    cases hop
    refine ⟨.done, nofun, ?_⟩
    dsimp only
    rw [set_eq h]
    by_cases hk : Known u
    · rw [if_pos hk, if_pos hk]
    · rw [if_neg hk, if_neg hk]
  | client v =>
    cases hsync : s.sync with
    | false =>
      rw [hsync] at hop
      cases hop
    | true =>
      rw [hsync] at hop
      cases hop
      refine ⟨.applied true, nofun, ?_⟩
      dsimp only
      rw [applyClient_eq h, if_pos hsync]
      by_cases hk : Known u
      · rw [if_pos hk, if_pos hk]
      · rw [if_neg hk, if_neg hk]
  | _ => cases hop

theorem perform_attempt {s : SharedState} (h : Sound s) {op : Operation} {u : Update}
    (hop : op.attempt? s.sync = some u) :
    ((s.perform op).2 = if Known u then s.updated u else s) ∧
      ∀ e, (s.perform op).1 = .refused e ↔ ¬ Known u ∧ e = .validation (.unknownKey u.key) := by
  obtain ⟨made, hmade, hperform⟩ := perform_eq h hop
  rw [hperform]
  by_cases hk : Known u
  · rw [if_pos hk, if_pos hk]
    exact ⟨rfl, fun e => ⟨fun he => absurd he (hmade e), fun he => absurd hk he.1⟩⟩
  · rw [if_neg hk, if_neg hk]
    exact ⟨rfl, fun e => ⟨fun he => ⟨hk, by cases he; rfl⟩, fun he => he.2 ▸ rfl⟩⟩

/-- An update that is ignored changes nothing, and says so. -/
theorem perform_ignored {s : SharedState} (h : Sound s) (hsync : s.sync = false) (u : Update) :
    s.perform (.client u) = (.applied false, s) := by
  unfold perform
  dsimp only
  rw [applyClient_eq h, hsync]
  rfl

/-- An operation is refused exactly if it is an update for an unknown key that is not ignored anyway. -/
theorem refused_iff {s : SharedState} (h : Sound s) (op : Operation) (e : Error) :
    (s.perform op).1 = .refused e ↔
      ∃ u, op.attempt? s.sync = some u ∧ ¬ Known u ∧ e = .validation (.unknownKey u.key) := by
  cases hop : op.attempt? s.sync with
  | some u =>
    rw [(perform_attempt h hop).2]
    exact ⟨fun he => ⟨u, rfl, he⟩, by rintro ⟨v, hv, he⟩; cases hv; exact he⟩
  | none =>
    refine ⟨fun he => ?_, nofun⟩
    cases op with
    | client u =>
      cases hsync : s.sync with
      | false => rw [perform_ignored h hsync] at he; cases he
      | true => rw [hsync] at hop; cases hop
    | set u => cases hop
    | _ => cases he

/-- What an operation leaves behind: an update that is applied is made, and the rest is about subscribers. -/
theorem perform_state {s : SharedState} (h : Sound s) (op : Operation) :
    (s.perform op).2 = match op.update? s.sync with
      | some u => s.updated u
      | none =>
        match op with
        | .subscribe => s.subscribe.2
        | .unsubscribe n => s.unsubscribe n
        | .drain n => (s.drain n).2
        | _ => s := by
  unfold Operation.update?
  cases hop : op.attempt? s.sync with
  | some u =>
    rw [(perform_attempt h hop).1]
    by_cases hk : Known u
    · rw [if_pos hk, Option.filter_some, decide_eq_true hk]
      rfl
    · rw [if_neg hk, Option.filter_some, decide_eq_false hk]
      cases op with
      | set v => rfl
      | client v => rfl
      | _ => cases hop
  | none =>
    cases op with
    | client u =>
      cases hsync : s.sync with
      | false => exact congrArg Prod.snd (perform_ignored h hsync u)
      | true => rw [hsync] at hop; cases hop
    | set u => cases hop
    | _ => rfl

@[simp] theorem updated_sync (s : SharedState) (u : Update) : (s.updated u).sync = s.sync := by
  unfold updated
  dsimp only
  split <;> rfl

@[simp] theorem updated_values (s : SharedState) (u : Update) :
    (s.updated u).values = replaceIn u s.values := by
  unfold updated
  dsimp only
  split <;> rfl

/-- A made update comes to wait for every subscriber of a synchronized session. -/
theorem pending?_updated (s : SharedState) (u : Update) (n : Nat) :
    (s.updated u).pending? n = if s.sync then (s.pending? n).map (· ++ [u]) else s.pending? n := by
  unfold updated
  dsimp only
  split
  · exact pending?_broadcast _ u n
  · rfl

theorem mem_broadcast {s : SharedState} {u : Update} {b : Subscriber} (h : b ∈ (s.broadcast u).subscribers) :
    ∃ b' ∈ s.subscribers, b.number = b'.number := by
  obtain ⟨b', hb', hsend⟩ := List.mem_filterMap.mp h
  unfold Subscriber.send? at hsend
  split at hsend
  · cases hsend
    exact ⟨b', hb', rfl⟩
  · cases hsend

theorem mem_updated {s : SharedState} {u : Update} {b : Subscriber} (h : b ∈ (s.updated u).subscribers) :
    ∃ b' ∈ s.subscribers, b.number = b'.number ∧ (s.sync = false → b = b') := by
  unfold updated at h
  dsimp only at h
  split at h
  · rename_i hsync
    obtain ⟨b', hb', hnumber⟩ := mem_broadcast h
    exact ⟨b', hb', hnumber, fun hoff => by rw [hsync] at hoff; cases hoff⟩
  · exact ⟨b, h, rfl, fun _ => rfl⟩

/-- What is kept of a state whose subscribers are changed one by one, but for what waits. -/
theorem Sound.map {s : SharedState} (h : Sound s) {f : Subscriber → Subscriber}
    (hnumber : ∀ b, (f b).number = b.number) (hpending : ∀ b, b.pending = [] → (f b).pending = []) :
    Sound { s with subscribers := s.subscribers.map f } := by
  refine ⟨h.keys, fun b hb => ?_, fun hoff b hb => ?_⟩
  · obtain ⟨b', hb', rfl⟩ := List.mem_map.mp hb
    exact (hnumber b').symm ▸ h.numbered b' hb'
  · obtain ⟨b', hb', rfl⟩ := List.mem_map.mp hb
    exact hpending b' (h.silent hoff b' hb')

theorem sync_perform {s : SharedState} (h : Sound s) (op : Operation) :
    (s.perform op).2.sync = s.sync := by
  rw [perform_state h]
  cases op.update? s.sync with
  | some u => exact updated_sync s u
  | none => cases op <;> rfl

theorem values_perform {s : SharedState} (h : Sound s) (op : Operation) :
    (s.perform op).2.values = revised s.values (op.update? s.sync).toList := by
  rw [perform_state h]
  cases op.update? s.sync with
  | some u => exact updated_values s u
  | none => cases op <;> rfl

/-- Every operation keeps a state sound. -/
theorem sound_perform {s : SharedState} (h : Sound s) (op : Operation) : Sound (s.perform op).2 := by
  have hkeys : (s.perform op).2.values.map Prod.fst = schema.map Prod.fst := by
    rw [values_perform h, keys_revised, h.keys]
  rw [perform_state h] at hkeys ⊢
  -- an update hands on to those that are there; only who subscribes takes a number
  cases hop : op.update? s.sync with
  | some u =>
    rw [hop] at hkeys
    refine ⟨hkeys, fun b hb => ?_, fun hoff b hb => ?_⟩
    · obtain ⟨b', hb', hnumber, -⟩ := mem_updated hb
      have hcount : (s.updated u).subscribed = s.subscribed := by
        unfold updated
        dsimp only
        split <;> rfl
      rw [hnumber, hcount]
      exact h.numbered b' hb'
    · rw [updated_sync] at hoff
      obtain ⟨b', hb', -, hsame⟩ := mem_updated hb
      rw [hsame hoff]
      exact h.silent hoff b' hb'
  | none =>
    cases op with
    | subscribe =>
      refine ⟨h.keys, fun b hb => ?_, fun hoff b hb => ?_⟩
      · rcases List.mem_append.mp hb with hb | hb
        · exact Nat.lt_succ_of_lt (h.numbered b hb)
        · cases List.mem_singleton.mp hb
          exact Nat.lt_succ_self _
      · rcases List.mem_append.mp hb with hb | hb
        · exact h.silent hoff b hb
        · cases List.mem_singleton.mp hb
          rfl
    | unsubscribe n =>
      refine h.map (fun b => ?_) fun b hb => ?_
      · split <;> rfl
      · split
        · rfl
        · exact hb
    | drain n =>
      refine h.map (fun b => ?_) fun b hb => ?_
      · split <;> rfl
      · split
        · rfl
        · exact hb
    | get key => exact h
    | set u => exact h
    | client u => exact h

theorem lt_of_pending? {s : SharedState} (h : ∀ b ∈ s.subscribers, b.number < s.subscribed) {n : Nat}
    {q : List Update} (hq : s.pending? n = some q) : n < s.subscribed := by
  obtain ⟨b, hb, -⟩ := Option.map_eq_some_iff.mp hq
  rw [← number_of_isAt (List.find?_some hb)]
  exact h b (List.mem_of_find?_eq_some hb)

/-- A subscriber stays until it goes away. What waited and the update that is made, if one is, are then what it
takes and what waits. -/
theorem pending?_perform {s : SharedState} (h : Sound s) (hsync : s.sync = true) {n : Nat} {q : List Update}
    (hq : s.pending? n = some q) {op : Operation} (hop : op ≠ .unsubscribe n) :
    ∃ q', (s.perform op).2.pending? n = some q' ∧
      q ++ (op.update? true).toList = handed n op (s.perform op).1 ++ q' := by
  rw [perform_state h, hsync]
  cases hu : op.update? true with
  | some u =>
    refine ⟨q ++ [u], ?_, ?_⟩
    · show (s.updated u).pending? n = _
      rw [pending?_updated, if_pos hsync, hq]
      rfl
    · -- only updates are made, so nothing was drained
      cases op with
      | drain m => cases hu
      | _ => rfl
  | none =>
    cases op with
    | subscribe =>
      have hne : n ≠ s.subscribed := Nat.ne_of_lt (lt_of_pending? h.numbered hq)
      exact ⟨q, by rw [← hq]; exact (pending?_subscribe h.numbered n).trans (if_neg hne), List.append_nil q⟩
    | unsubscribe m =>
      have hne : n ≠ m := fun heq => hop (heq ▸ rfl)
      exact ⟨q, by rw [← hq]; exact (pending?_unsubscribe s m n).trans (if_neg hne), List.append_nil q⟩
    | drain m =>
      have hdrain := pending?_drain s m n
      by_cases hm : n = m
      · subst hm
        refine ⟨[], by rw [if_pos rfl, hq] at hdrain; exact hdrain, ?_⟩
        show q ++ [] = handed n (.drain n) (.updates (s.pending? n)) ++ []
        rw [hq]
        exact congrArg (· ++ []) (if_pos rfl).symm
      · refine ⟨q, by rw [if_neg hm, hq] at hdrain; exact hdrain, ?_⟩
        have hnone : handed n (.drain m) (s.perform (.drain m)).1 = [] := by
          show handed n (.drain m) (.updates (s.pending? m)) = []
          cases s.pending? m with
          | none => rfl
          | some us => exact if_neg (Ne.symm hm)
        rw [hnone]
        exact List.append_nil q
    | get key => exact ⟨q, hq, List.append_nil q⟩
    | set u => exact ⟨q, hq, List.append_nil q⟩
    | client u => exact ⟨q, hq, List.append_nil q⟩

/-! ## What some operations do -/

theorem after_cons (s : SharedState) (op : Operation) (ops : List Operation) :
    s.after (op :: ops) = (s.perform op).2.after ops := rfl

theorem updatesOf_cons (sync : Bool) (op : Operation) (ops : List Operation) :
    updatesOf sync (op :: ops) = (op.update? sync).toList ++ updatesOf sync ops := by
  unfold updatesOf
  cases hu : op.update? sync with
  | none => rw [List.filterMap_cons_none hu]; rfl
  | some u => rw [List.filterMap_cons_some hu]; rfl

theorem sound_after {s : SharedState} (h : Sound s) (ops : List Operation) : Sound (s.after ops) := by
  induction ops generalizing s with
  | nil => exact h
  | cons op ops ih => exact ih (sound_perform h op)

theorem sync_after {s : SharedState} (h : Sound s) (ops : List Operation) : (s.after ops).sync = s.sync := by
  induction ops generalizing s with
  | nil => rfl
  | cons op ops ih => exact (ih (sound_perform h op)).trans (sync_perform h op)

/-- The values are those at the start with all updates made in order. -/
theorem values_after {s : SharedState} (h : Sound s) (ops : List Operation) :
    (s.after ops).values = revised s.values (updatesOf s.sync ops) := by
  induction ops generalizing s with
  | nil => rfl
  | cons op ops ih =>
    rw [after_cons, ih (sound_perform h op), values_perform h, sync_perform h, updatesOf_cons]
    exact List.foldl_append.symm

/-- What waited for a subscriber and the updates made since are what it has taken and what waits. -/
theorem pending?_after {s : SharedState} (h : Sound s) (hsync : s.sync = true) {n : Nat} {q : List Update}
    (hq : s.pending? n = some q) {ops : List Operation} (hops : .unsubscribe n ∉ ops) :
    ∃ q', (s.after ops).pending? n = some q' ∧ q ++ updatesOf true ops = taken n s ops ++ q' := by
  induction ops generalizing s q with
  | nil => exact ⟨q, hq, List.append_nil q⟩
  | cons op ops ih =>
    rw [List.mem_cons, not_or] at hops
    obtain ⟨q₁, hq₁, htook⟩ := pending?_perform h hsync hq (Ne.symm hops.1)
    obtain ⟨q₂, hq₂, hrest⟩ := ih (sound_perform h op) ((sync_perform h op).trans hsync) hq₁ hops.2
    refine ⟨q₂, hq₂, ?_⟩
    rw [updatesOf_cons, ← List.append_assoc, htook, List.append_assoc, hrest, taken, List.append_assoc]

/-- Without synchronization nothing waits for anyone. -/
theorem Sound.drain_nil {s : SharedState} (h : Sound s) (hsync : s.sync = false) {n : Nat} {us : List Update}
    (hus : (s.drain n).1 = some us) : us = [] := by
  obtain ⟨b, hb, rfl⟩ := Option.map_eq_some_iff.mp hus
  exact h.silent hsync b (List.mem_of_find?_eq_some hb)

/--
**The state is made of its updates, and so is what each subscriber is sent.**

After any operations the keys are those of the schema, and each has the value of the last update for it, or
else that of the schema. An operation that is refused, which is only ever an update for another key, changes
nothing at all. Without synchronization the updates of the slides are ignored and no queue receives anything.
With it, a subscriber that stays has taken, or has waiting, just the updates made since it came, in order, and
so can bring the values it found up to date, whoever else comes and goes.
-/
theorem updates_make_state (sync : Bool) (ops : List Operation) :
    let s := (initial sync).after ops
    s.values.map Prod.fst = schema.map Prod.fst ∧
    (∀ key v, schema.lookup key = some v →
      s.get? key = some ((lastValue? key (updatesOf sync ops)).getD v)) ∧
    (∀ op e, (s.perform op).1 = .refused e → (s.perform op).2 = s ∧
      ∃ u, op.attempt? sync = some u ∧ ¬ Known u ∧ e = .validation (.unknownKey u.key)) ∧
    (sync = false → (∀ u, s.perform (.client u) = (.applied false, s)) ∧
      ∀ n us, (s.drain n).1 = some us → us = []) ∧
    (sync = true → ∀ later, .unsubscribe s.subscribe.1 ∉ later →
      let s' := s.subscribe.2.after later
      ∃ waiting, (s'.drain s.subscribe.1).1 = some waiting ∧
        taken s.subscribe.1 s.subscribe.2 later ++ waiting = updatesOf true later ∧
        revised s.values (updatesOf true later) = s'.values) := by
  intro s
  have hs : Sound s := sound_after (sound_initial sync) ops
  have hsync : s.sync = sync := sync_after (sound_initial sync) ops
  have hvalues : s.values = revised schema (updatesOf sync ops) := values_after (sound_initial sync) ops
  refine ⟨hs.keys, fun key v hv => ?_, fun op e he => ?_, fun hoff => ?_, fun hon later hstays => ?_⟩
  · rw [get?, hvalues, lookup_revised, hv]
    rfl
  · obtain ⟨u, hop, hk, rfl⟩ := (refused_iff hs op e).mp he
    refine ⟨?_, u, hsync ▸ hop, hk, rfl⟩
    rw [(perform_attempt hs hop).1, if_neg hk]
  · exact ⟨perform_ignored hs (hsync.trans hoff), fun n us => hs.drain_nil (hsync.trans hoff)⟩
  · have hjoined : Sound s.subscribe.2 := sound_perform hs .subscribe
    have hempty : s.subscribe.2.pending? s.subscribe.1 = some [] :=
      (pending?_subscribe hs.numbered _).trans (if_pos rfl)
    obtain ⟨waiting, hwaiting, htaken⟩ := pending?_after hjoined (hsync.trans hon) hempty hstays
    refine ⟨waiting, hwaiting, htaken.symm, ?_⟩
    rw [values_after hjoined, show s.subscribe.2.sync = true from hsync.trans hon]
    rfl

/-- One subscriber goes away while another is there; both came before the updates. -/
example :
    let s := (initial true).after [.subscribe, .subscribe, .set ⟨"page", 3⟩, .unsubscribe 0, .set ⟨"zoom", 2⟩,
      .drain 1, .client ⟨"tab", 1⟩]
    (s.values, s.pending? 0, s.pending? 1) = ([("page", 3), ("tab", 1)], none, some [⟨"tab", 1⟩]) := by
  decide

end DeckPress.SharedState
