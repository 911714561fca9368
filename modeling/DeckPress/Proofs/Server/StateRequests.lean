import DeckPress.Proofs.Server.Following
import DeckPress.Proofs.SharedState.Updates
import DeckPress.Server.Request

/-!
# Posted updates

The slides post their updates to one of two addresses, which a session answers alike. A body holds an update if
it is the text of one in JSON, and then the post is an operation of the slides on the shared state: it is refused
if the operation is, which leaves the state as it is, and else answered with the state that it led to.

What the operation says about the key depends on the session. A synchronized one refuses a key that is not in
the schema. Any other ignores the updates of the slides, and does so before it looks at the key; so a post with
an unknown key is answered there like any other, and its sender does not learn that there is no such key.

The answer to one post is known for a session whose state came from the schema. Such is a session when it starts,
and posts keep it so: after any number of them the state is the one of the schema with the updates made in order.
-/

namespace DeckPress

/-! ## Updates in JSON -/

/-- A field stands once among some fields, with this value. -/
def StandsOnce (fields : List (String × Json.Tree)) (name : String) (v : Json.Tree) : Prop :=
  fields.filter (·.1 = name) = [(name, v)]

/-- An update is written as an object, in which other fields are passed over, or as an array. -/
inductive Update.WrittenAs (u : Update) : Json.Tree → Prop where
  | object {fields : List (String × Json.Tree)} :
      StandsOnce fields "key" (.str u.key) → StandsOnce fields "value" (.int u.value) → WrittenAs u (.obj fields)
  | array : WrittenAs u (.arr [.str u.key, .int u.value])

theorem standsOnce_iff {fields : List (String × Json.Tree)} {name : String} {v : Json.Tree} :
    StandsOnce fields name v ↔
      (fields.filter (·.1 = name)).length ≤ 1 ∧ (fields.filter (·.1 = name)).head?.map Prod.snd = some v := by
  have hname : ∀ f ∈ fields.filter (·.1 = name), f.1 = name := fun f hf =>
    of_decide_eq_true (List.mem_filter.mp hf).2
  unfold StandsOnce
  generalize fields.filter (·.1 = name) = found at hname
  match found with
  | [] => exact ⟨nofun, nofun⟩
  | [(k, w)] =>
    obtain rfl : k = name := hname (k, w) List.mem_cons_self
    simp
  | f :: g :: more => exact ⟨nofun, fun h => absurd h.1 (by simp)⟩

theorem lookup_eq_head? {α : Type} (fields : List (String × α)) (name : String) :
    fields.lookup name = (fields.filter (·.1 = name)).head?.map Prod.snd := by
  induction fields with
  | nil => rfl
  | cons f fields ih =>
    obtain ⟨k, v⟩ := f
    rw [List.lookup_cons, List.filter_cons]
    by_cases hk : name = k
    · subst hk
      simp
    · simp only [beq_eq_false_iff_ne.mpr hk, decide_eq_true_eq, if_neg (Ne.symm hk), ih]

section

variable {names : List String} {name : String}

/-- Of the fields of a record, those of one name are all that there are. -/
theorem filter_record (h : name ∈ names) (fields : List (String × Json.Tree)) :
    (fields.filter fun f => names.contains f.1).filter (·.1 = name) = fields.filter (·.1 = name) := by
  rw [List.filter_filter]
  refine List.filter_congr fun f _ => ?_
  rw [Bool.and_eq_left_iff_imp]
  intro hf
  rw [of_decide_eq_true hf]
  exact List.contains_iff_mem.mpr h

theorem lookup_record (h : name ∈ names) (fields : List (String × Json.Tree)) :
    (fields.filter fun f => names.contains f.1).lookup name =
      (fields.filter (·.1 = name)).head?.map Prod.snd := by
  rw [lookup_eq_head?, filter_record h]

/-- The fields of a record can be had if none of them stands twice. -/
theorem record?_obj {fields known : List (String × Json.Tree)} :
    (Json.Tree.obj fields).record? names = some known ↔
      (∀ name ∈ names, (fields.filter (·.1 = name)).length ≤ 1) ∧
        known = fields.filter fun f => names.contains f.1 := by
  have hcount (name : String) (h : name ∈ names) :
      ((fields.filter fun f => names.contains f.1).map Prod.fst).count name =
        (fields.filter (·.1 = name)).length := by
    rw [← filter_record h, List.count, List.countP_map, List.countP_eq_length_filter]
    rfl
  have hnodup : ((fields.filter fun f => names.contains f.1).map Prod.fst).Nodup ↔
      ∀ name ∈ names, (fields.filter (·.1 = name)).length ≤ 1 := by
    rw [List.nodup_iff_count_le_one]
    constructor
    · intro hall name h
      rw [← hcount name h]
      exact hall name
    · intro hall name
      by_cases h : name ∈ names
      · rw [hcount name h]
        exact hall name h
      · have hnone : name ∉ (fields.filter fun f => names.contains f.1).map Prod.fst := by
          intro hmem
          obtain ⟨f, hf, rfl⟩ := List.mem_map.mp hmem
          exact h (List.contains_iff_mem.mp (List.mem_filter.mp hf).2)
        rw [List.count_eq_zero_of_not_mem hnone]
        exact Nat.zero_le 1
  unfold Json.Tree.record?
  dsimp only
  rw [← hnodup]
  split
  · rename_i h
    simp only [Option.some.injEq, h, true_and, eq_comm]
  · rename_i h
    exact ⟨nofun, fun hk => absurd hk.1 h⟩

end

theorem string?_eq_some {t : Json.Tree} {s : String} : t.string? = some s ↔ t = .str s := by
  cases t <;> simp [Json.Tree.string?]

theorem natBelow?_eq_some {t : Json.Tree} {bound n : Nat} :
    t.natBelow? bound = some n ↔ t = .int n ∧ n < bound := by
  cases t with
  | int i =>
    unfold Json.Tree.natBelow?
    dsimp only
    rw [Option.ite_none_right_eq_some, Json.Tree.int.injEq, Option.some.injEq]
    omega
  | _ => simp [Json.Tree.natBelow?]

theorem ofTree?_eq_some {t : Json.Tree} {u : Update} :
    Update.ofTree? t = some u ↔ u.WrittenAs t ∧ u.value < 2 ^ 64 := by
  have hread : Update.ofTree? t = some u ↔ ∃ fields, t.record? ["key", "value"] = some fields ∧
      fields.lookup "key" = some (.str u.key) ∧ fields.lookup "value" = some (.int u.value) ∧
        u.value < 2 ^ 64 := by
    unfold Update.ofTree?
    simp only [Option.bind_eq_bind, Option.bind_eq_some_iff, string?_eq_some, natBelow?_eq_some, Option.pure_def,
      Option.some.injEq]
    constructor
    · rintro ⟨fields, hfields, _, hkey, key, rfl, _, hvalue, value, ⟨rfl, hsmall⟩, rfl⟩
      exact ⟨fields, hfields, hkey, hvalue, hsmall⟩
    · rintro ⟨fields, hfields, hkey, hvalue, hsmall⟩
      exact ⟨fields, hfields, _, hkey, u.key, rfl, _, hvalue, u.value, ⟨rfl, hsmall⟩, rfl⟩
  rw [hread]
  cases t with
  | obj fields =>
    constructor
    · rintro ⟨known, hknown, hkey, hvalue, hsmall⟩
      obtain ⟨honce, rfl⟩ := record?_obj.mp hknown
      rw [lookup_record (by simp)] at hkey hvalue
      exact ⟨.object (standsOnce_iff.mpr ⟨honce _ (by simp), hkey⟩)
        (standsOnce_iff.mpr ⟨honce _ (by simp), hvalue⟩), hsmall⟩
    · rintro ⟨⟨hkey, hvalue⟩, hsmall⟩
      obtain ⟨hkey, hkey'⟩ := standsOnce_iff.mp hkey
      obtain ⟨hvalue, hvalue'⟩ := standsOnce_iff.mp hvalue
      refine ⟨_, record?_obj.mpr ⟨by simpa using ⟨hkey, hvalue⟩, rfl⟩, ?_, ?_, hsmall⟩
      · rwa [lookup_record (by simp)]
      · rwa [lookup_record (by simp)]
  | arr items =>
    have harray : u.WrittenAs (.arr items) ↔ items = [.str u.key, .int u.value] :=
      ⟨fun h => by cases h; rfl, fun h => h ▸ .array⟩
    rw [harray]
    -- the names are given to the items in their order, and there must be a second one
    match items with
    | [] => simp [Json.Tree.record?]
    | [a] => simp [Json.Tree.record?, List.lookup_cons]
    | [a, b] => simp [Json.Tree.record?, List.lookup_cons, and_assoc]
    | a :: b :: c :: more => simp [Json.Tree.record?]
  | _ => exact ⟨nofun, nofun⟩

/-! ## How a post is answered -/

namespace Session

open SharedState (Known Operation Sound)

/-- A body holds an update. -/
def Holds (body : ByteArray) (u : Update) : Prop :=
  ∃ text t, String.fromUTF8? body = some text ∧ Json.parse? text = some t ∧ u.WrittenAs t ∧ u.value < 2 ^ 64

/-- A request that posts to the shared state. -/
def Posts (r : Request) : Prop :=
  r.isPost = true ∧
    ∃ path ∈ ["/@server-ref/state", "/@server-ref/state.json"], Url.pathFromTop? r.target = some path

/-- The answer that shows a state. -/
def shown (name : String) (s : SharedState) : Response := ⟨200, "application/json", (snapshot name s).toUTF8⟩

/-- A state has taken an update. It has the value at its key, and all subscribers are sent it; but if the session
is not synchronized the state is as it was. -/
structure Taken (s : SharedState) (u : Update) (s' : SharedState) : Prop where
  keys : s'.values.map Prod.fst = s.values.map Prod.fst
  values : ∀ key, s'.get? key = if s.sync ∧ key = u.key then some u.value else s.get? key
  queues : ∀ n, s'.pending? n = if s.sync then (s.pending? n).map (· ++ [u]) else s.pending? n
  ignored : s.sync = false → s' = s

/-- A post is answered by a rule that refuses some updates: either it holds none, or one that is refused, and
nothing is changed; or the update is taken and the new state is shown. -/
structure AnsweredBy (refuses : Update → Prop) (name : String) (s : SharedState) (body : ByteArray)
    (response : Response) (s' : SharedState) : Prop where
  refused_iff : response.status = 400 ↔ ∀ u, Holds body u → refuses u
  unchanged : response.status = 400 → s' = s
  shows : response.status ≠ 400 → response = shown name s'
  takes : ∀ u, Holds body u → ¬ refuses u → Taken s u s'

/-- A session whose shared state came from the schema. -/
def Shares (sync : Bool) (session : Session) : Prop :=
  ∃ ops : List Operation, session.state.shared = (SharedState.initial sync).after ops

/-- A session with another shared state. -/
def sharing (session : Session) (shared : SharedState) : Session :=
  { session with state := { session.state with shared } }

/-- What a body asks for. -/
def asked (body : ByteArray) : List Operation :=
  match updateOf body with
  | .ok u => [.client u]
  | .error _ => []

variable {d : Disk} {name : String} {sync : Bool} {session : Session} {s s' : SharedState} {r : Request}
  {body : ByteArray} {u : Update}

theorem updateOf_eq_ok : updateOf body = .ok u ↔ Holds body u := by
  unfold updateOf Holds
  cases String.fromUTF8? body with
  | none => exact ⟨nofun, fun ⟨_, _, h, _⟩ => nomatch h⟩
  | some text =>
    have hread : ((Json.parse? text).bind Update.ofTree?) = some u ↔
        ∃ t, Json.parse? text = some t ∧ u.WrittenAs t ∧ u.value < 2 ^ 64 := by
      simp only [Option.bind_eq_some_iff, ofTree?_eq_some]
    simp only [Option.some.injEq, ↓existsAndEq, true_and, ← hread]
    cases (Json.parse? text).bind Update.ofTree? with
    | none => exact ⟨nofun, nofun⟩
    | some v => rw [Except.ok.injEq, Option.some.injEq]

theorem Holds.unique {v : Update} (hu : Holds body u) (hv : Holds body v) : u = v := by
  have h := (updateOf_eq_ok.mpr hu).symm.trans (updateOf_eq_ok.mpr hv)
  exact Except.ok.inj h

theorem AnsweredBy.congr_iff {refuses refuses' : Update → Prop} {response : Response}
    (h : AnsweredBy refuses name s body response s') :
    AnsweredBy refuses' name s body response s' ↔ ∀ u, Holds body u → (refuses u ↔ refuses' u) := by
  -- a body holds one update at most, so the status says whether that one is refused
  have honly (rule : Update → Prop) {u : Update} (hu : Holds body u) : (∀ v, Holds body v → rule v) ↔ rule u :=
    ⟨fun hall => hall u hu, fun hrule v hv => hu.unique hv ▸ hrule⟩
  constructor
  · intro h' u hu
    rw [← honly refuses hu, ← honly refuses' hu, ← h.refused_iff, ← h'.refused_iff]
  · intro hsame
    have hall : (∀ u, Holds body u → refuses u) ↔ ∀ u, Holds body u → refuses' u :=
      forall_congr' fun u => forall_congr' (hsame u)
    exact ⟨h.refused_iff.trans hall, h.unchanged, h.shows, fun u hu hnot => h.takes u hu (mt (hsame u hu).mp hnot)⟩

theorem applyUpdate_eq (s : SharedState) (body : ByteArray) :
    applyUpdate s body =
      match updateOf body with
      | .error text => .error text
      | .ok u =>
        match s.applyClient u with
        | .ok (_, s') => .ok s'
        | .error e => .error e.message := by
  unfold applyUpdate
  cases updateOf body <;> rfl

theorem handleState_eq (name : String) (hr : r.isPost = true) (s : SharedState) :
    handleState name r s =
      match applyUpdate s r.body with
      | .ok s' => (shown name s', s')
      | .error text => (plainText 400 text, s) := by
  unfold handleState
  rw [if_pos hr]
  rfl

/-- A post does what its body asks for. -/
theorem handleState_post (name : String) (hr : r.isPost = true) (s : SharedState) :
    (handleState name r s).2 = s.after (asked r.body) := by
  rw [handleState_eq name hr, applyUpdate_eq]
  unfold asked
  cases updateOf r.body with
  | error text => rfl
  | ok u =>
    show _ = (s.perform (.client u)).2
    unfold SharedState.perform
    dsimp only
    cases s.applyClient u <;> rfl

theorem applyUpdate_sound (h : Sound s) (hu : Holds body u) :
    applyUpdate s body =
      if s.sync = true ∧ ¬ Known u then .error (Error.message (.validation (.unknownKey u.key)))
      else .ok (if s.sync then s.updated u else s) := by
  rw [applyUpdate_eq, updateOf_eq_ok.mpr hu]
  dsimp only
  rw [SharedState.applyClient_eq h]
  cases s.sync with
  | false => rfl
  | true => by_cases hu : Known u <;> simp [hu]

theorem taken_updated (h : Sound s) (hsync : s.sync = true) (hu : Known u) : Taken s u (s.updated u) where
  keys := by rw [SharedState.updated_values, SharedState.keys_replaceIn]
  values key := by
    have hlookup : (s.updated u).get? key =
        if key = u.key then (s.get? key).map fun _ => u.value else s.get? key := by
      unfold SharedState.get?
      rw [SharedState.updated_values]
      exact SharedState.lookup_replaceIn u s.values key
    by_cases hkey : key = u.key
    · have hthere : (s.get? key).isSome := by
        rw [SharedState.get?, SharedState.lookup_isSome_iff, h.keys, hkey]
        exact hu
      obtain ⟨v, hv⟩ := Option.isSome_iff_exists.mp hthere
      rw [hlookup, if_pos hkey, if_pos ⟨hsync, hkey⟩, hv]
      rfl
    · rw [hlookup, if_neg hkey, if_neg fun hboth => hkey hboth.2]
  queues n := SharedState.pending?_updated s u n
  ignored hoff := by rw [hsync] at hoff; cases hoff

theorem taken_ignored (hsync : s.sync = false) (u : Update) : Taken s u s := by
  constructor <;> simp [hsync]

theorem handleState_answered (name : String) (h : Sound s) (hr : r.isPost = true) :
    AnsweredBy (fun u => s.sync = true ∧ ¬ Known u) name s r.body (handleState name r s).1
      (handleState name r s).2 := by
  rw [handleState_eq name hr]
  by_cases hholds : ∃ u, Holds r.body u
  · obtain ⟨u, hu⟩ := hholds
    rw [applyUpdate_sound h hu]
    by_cases hrefused : s.sync = true ∧ ¬ Known u
    · rw [if_pos hrefused]
      exact {
        refused_iff := iff_of_true rfl fun v hv => hu.unique hv ▸ hrefused
        unchanged := fun _ => rfl
        shows := fun h400 => absurd rfl h400
        takes := fun v hv hnot => absurd (hu.unique hv ▸ hrefused) hnot }
    · have htaken : Taken s u (if s.sync then s.updated u else s) := by
        cases hsync : s.sync with
        | false => exact taken_ignored hsync u
        | true => exact taken_updated h hsync (of_not_not fun hnot => hrefused ⟨hsync, hnot⟩)
      have h200 : (200 : Nat) ≠ 400 := by decide
      rw [if_neg hrefused]
      exact {
        refused_iff := iff_of_false h200 fun hall => hrefused (hall u hu)
        unchanged := fun h400 => absurd h400 h200
        shows := fun _ => rfl
        takes := fun v hv _ => hu.unique hv ▸ htaken }
  · have hnone : ∀ u, ¬ Holds r.body u := not_exists.mp hholds
    have herror : ∃ text, applyUpdate s r.body = .error text := by
      rw [applyUpdate_eq]
      cases hbody : updateOf r.body with
      | error text => exact ⟨text, rfl⟩
      | ok u => exact absurd (updateOf_eq_ok.mp hbody) (hnone u)
    obtain ⟨text, htext⟩ := herror
    rw [htext]
    exact {
      refused_iff := iff_of_true rfl fun u hu => absurd hu (hnone u)
      unchanged := fun _ => rfl
      shows := fun h400 => absurd rfl h400
      takes := fun u hu => absurd hu (hnone u) }

theorem handleRequest_post (d : Disk) (name : String) (session : Session) (hr : Posts r) :
    (handleRequest d name r).run session =
      ((handleState name r session.state.shared).1,
        session.sharing (handleState name r session.state.shared).2) := by
  obtain ⟨hpost, path, hpath, htarget⟩ := hr
  have hasks : asksForState r path = true := by
    unfold asksForState
    rcases List.mem_pair.mp hpath with rfl | rfl
    · simp [hpost]
    · simp
  unfold handleRequest
  rw [htarget]
  simp only [hasks, if_true]
  rfl

/-! ## Sessions -/

/-- A session starts with the values of the schema. -/
theorem shared_start {p : Project} (h : start d p sync = .ok session) :
    session.state.shared = SharedState.initial sync := by
  obtain ⟨p, -, rfl⟩ := exists_of_start h
  rfl

theorem shares_start {p : Project} (h : start d p sync = .ok session) : Shares sync session :=
  ⟨[], shared_start h⟩

theorem Shares.sound (h : Shares sync session) : Sound session.state.shared := by
  obtain ⟨ops, hops⟩ := h
  exact hops ▸ SharedState.sound_after (SharedState.sound_initial sync) ops

theorem Shares.sync_eq (h : Shares sync session) : session.state.shared.sync = sync := by
  obtain ⟨ops, hops⟩ := h
  exact hops ▸ SharedState.sync_after (SharedState.sound_initial sync) ops

/-- A post is an operation on the shared state, and the rest of the session is as it was. -/
theorem handleRequest_shared (d : Disk) (name : String) (session : Session) (hr : Posts r) :
    ((handleRequest d name r).run session).2 = session.sharing (session.state.shared.after (asked r.body)) := by
  rw [handleRequest_post d name session hr, handleState_post name hr.1]

/-- A session goes on with what the posts ask for, in order. -/
theorem posts_shared (d : Disk) (name : String) {rs : List Request} (hrs : ∀ r ∈ rs, Posts r) (session : Session) :
    ((rs.mapM (handleRequest d name)).run session).2 =
      session.sharing (session.state.shared.after (rs.flatMap (asked ·.body))) := by
  induction rs generalizing session with
  | nil => rfl
  | cons r rs ih =>
    obtain ⟨hr, hrs⟩ := List.forall_mem_cons.mp hrs
    rw [List.mapM_cons]
    show ((rs.mapM (handleRequest d name)).run ((handleRequest d name r).run session).2).2 = _
    rw [handleRequest_shared d name session hr, ih hrs, List.flatMap_cons]
    unfold SharedState.after
    rw [List.foldl_append]
    rfl

/-- After some posts the values are those before with the updates of known keys made in order, or, if the session
is not synchronized, those before. -/
theorem posts_revise (d : Disk) (name : String) (hs : Shares sync session) {rs : List Request}
    (hrs : ∀ r ∈ rs, Posts r) :
    let session' := ((rs.mapM (handleRequest d name)).run session).2
    Shares sync session' ∧ session'.state.shared.values =
      SharedState.revised session.state.shared.values (SharedState.updatesOf sync (rs.flatMap (asked ·.body))) := by
  intro session'
  have hshared : session'.state.shared = session.state.shared.after (rs.flatMap (asked ·.body)) :=
    congrArg (·.state.shared) (posts_shared d name hrs session)
  constructor
  · obtain ⟨ops, hops⟩ := hs
    refine ⟨ops ++ rs.flatMap (asked ·.body), ?_⟩
    rw [hshared, hops]
    unfold SharedState.after
    exact List.foldl_append.symm
  · rw [hshared, SharedState.values_after hs.sound, hs.sync_eq]

/--
**Posts are checked, but in a session that is not synchronized not for their keys.**

A post is refused if its body holds no update, or one with a key that is not in the schema while the session is
synchronized, and then nothing is changed. Else the answer shows the state that has taken the update, which in a
session that is not synchronized is the state as it was. That a key which is not in the schema is refused in any
session is so exactly for the synchronized ones and for the bodies without such a key.
-/
theorem posts_checked_iff (d : Disk) (name : String) (hs : Shares sync session) (hr : Posts r) :
    ∃ response s', (handleRequest d name r).run session = (response, session.sharing s') ∧
      AnsweredBy (fun u => sync = true ∧ ¬ Known u) name session.state.shared r.body response s' ∧
      (AnsweredBy (¬ Known ·) name session.state.shared r.body response s' ↔
        sync = true ∨ ∀ u, Holds r.body u → Known u) := by
  refine ⟨_, _, handleRequest_post d name session hr, ?_⟩
  have hanswered := handleState_answered name hs.sound hr.1
  rw [hs.sync_eq] at hanswered
  refine ⟨hanswered, hanswered.congr_iff.trans ?_⟩
  cases sync with
  | true => simp
  | false => simp

/-- A deck without slides. -/
def blankDeck : Disk := Pipeline.smallDisk [("slides.md", "")]

/-- A request that posts an update. -/
def posted (u : Update) : Request where
  isPost := true
  target := "/@server-ref/state"
  body := (Json.text (.obj [("key", .str u.key), ("value", .int u.value)])).toUTF8

theorem posts_posted (u : Update) : Posts (posted u) := by
  have htarget : Url.pathFromTop? "/@server-ref/state" = some "/@server-ref/state" := by decide +kernel
  exact ⟨rfl, _, List.mem_cons_self, htarget⟩

theorem holds_of_read (h : (updateOf body).toOption.any (fun v => decide (v = u)) = true) : Holds body u := by
  obtain ⟨v, hv, hsame⟩ := Pipeline.exists_ok _ _ h
  rw [← of_decide_eq_true hsame]
  exact updateOf_eq_ok.mp hv

/-- A post of a tab, and one with a key that is not in the schema. -/
def earlierPosts : List Request := [posted ⟨"tab", 2⟩, posted ⟨"zoom", 1⟩]

/-- A new page is shown, and is the page from then on. The posts before it have left their tab, and nothing under
a key that there is not. -/
theorem posts_checked_iff_page :
    ∃ session before response s', start blankDeck (Pipeline.smallProject []) true = .ok session ∧
      ((earlierPosts.mapM (handleRequest blankDeck "talk")).run session).2 = before ∧
      before.state.shared.values = [("page", 0), ("tab", 2)] ∧
      (handleRequest blankDeck "talk" (posted ⟨"page", 3⟩)).run before = (response, before.sharing s') ∧
      response = shown "talk" s' ∧ s'.get? "page" = some 3 ∧ s'.get? "tab" = some 2 := by
  obtain ⟨session, hstart, -⟩ := Pipeline.exists_ok (start blankDeck (Pipeline.smallProject []) true)
    (fun _ => true) (by decide +kernel)
  have hposts : ∀ r ∈ earlierPosts, Posts r := by
    simp [earlierPosts, posts_posted]
  have hrevised : SharedState.revised (SharedState.initial true).values
      (SharedState.updatesOf true (earlierPosts.flatMap (asked ·.body))) = [("page", 0), ("tab", 2)] := by
    decide +kernel
  -- the earlier posts are one run, which starts from the schema
  have hrun := posts_revise blankDeck "talk" (shares_start hstart) hposts
  rw [shared_start hstart, hrevised] at hrun
  dsimp only at hrun
  generalize hbefore : ((earlierPosts.mapM (handleRequest blankDeck "talk")).run session).2 = before at hrun
  obtain ⟨hshares, hvalues⟩ := hrun
  obtain ⟨response, s', hrun, hanswered, -⟩ :=
    posts_checked_iff blankDeck "talk" hshares (posts_posted ⟨"page", 3⟩)
  have hholds : Holds (posted ⟨"page", 3⟩).body ⟨"page", 3⟩ := holds_of_read (by decide +kernel)
  have haccepted : ¬ (true = true ∧ ¬ Known ⟨"page", 3⟩) := by decide
  have htaken := hanswered.takes _ hholds haccepted
  refine ⟨session, before, response, s', hstart, hbefore, hvalues, hrun, hanswered.shows fun h400 => ?_, ?_, ?_⟩
  · exact haccepted (hanswered.refused_iff.mp h400 _ hholds)
  · rw [htaken.values, if_pos ⟨hshares.sync_eq, rfl⟩]
  · rw [htaken.values, if_neg fun hboth => absurd hboth.2 (by decide), SharedState.get?, hvalues]
    rfl

/-- There is no such key, but a session that is not synchronized does not say so. -/
theorem unknown_key_answered :
    ∃ session, start blankDeck (Pipeline.smallProject []) false = .ok session ∧
      Holds (posted ⟨"zoom", 1⟩).body ⟨"zoom", 1⟩ ∧ ¬ Known ⟨"zoom", 1⟩ ∧
      ((handleRequest blankDeck "talk" (posted ⟨"zoom", 1⟩)).run session).1.status = 200 := by
  obtain ⟨session, hstart, hstatus⟩ := Pipeline.exists_ok (start blankDeck (Pipeline.smallProject []) false)
    (fun session => decide (((handleRequest blankDeck "talk" (posted ⟨"zoom", 1⟩)).run session).1.status = 200))
    (by decide +kernel)
  exact ⟨session, hstart, holds_of_read (by decide +kernel), by decide, of_decide_eq_true hstatus⟩

end Session

end DeckPress
