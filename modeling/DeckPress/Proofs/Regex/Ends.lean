import Mathlib.Data.List.Basic
import DeckPress.Regex.Match

/-!
# Where matches end

From a place in a text, an expression leads to the places where a match of it can end, in the order in which
they are preferred. A match of a sequence ends where its second part ends behind an end of the first, and of
all ends the first one counts behind which the rest of the expression matches, too.

Readers are moved through a text from its end, and know of each place only what was made out at the place
behind it. They make out nothing else: what they say of a place is said by the first of the ends there. This
is shown for expressions in which nothing is repeated that can be empty.
-/

namespace DeckPress.Regex

open Text

/-- A place in a text: the character in front of it, and all that is behind it. -/
structure Place where
  before : Option Char
  rest : List Char
  deriving DecidableEq, Repr

def Place.gap (p : Place) : Gap := ⟨p.before, p.rest.head?⟩

/-- The places where rounds of a step end, if there is at least one round. -/
def rounds (step : Place → List Place) (greedy : Bool) : Nat → Place → List Place
  | 0, _ => []
  | n + 1, p => (step p).flatMap fun q =>
    if greedy then rounds step greedy n q ++ [q] else q :: rounds step greedy n q

namespace Reader

/-- Whether nothing is repeated that can be empty. -/
def isPlain : Reader → Bool
  | .nothing => true
  | .oneOf _ _ => true
  | .anchor _ => true
  | .sequence a b => a.isPlain && b.isPlain
  | .choice a b => a.isPlain && b.isPlain
  | .again r _ => r.isPlain && !r.canBeEmpty
  | .star r _ => r.isPlain && !r.canBeEmpty

/-- The places where a match that starts at a place can end, preferred ones first. -/
def ends : Reader → Place → List Place
  | .nothing, p => [p]
  | .oneOf s _, p =>
    match p.rest with
    | c :: rest => if s.contains c.toNat then [⟨some c, rest⟩] else []
    | [] => []
  | .anchor a, p => if a.holds p.gap then [p] else []
  | .sequence a b, p => (a.ends p).flatMap b.ends
  | .choice a b, p => a.ends p ++ b.ends p
  | .again r greedy, p => rounds r.ends greedy p.rest.length p
  | .star r greedy, p =>
    if greedy then rounds r.ends greedy p.rest.length p ++ [p]
    else p :: rounds r.ends greedy p.rest.length p

/-! ## Progress -/

theorem mem_rounds_succ {step : Place → List Place} {greedy : Bool} {n : Nat} {p q : Place} :
    q ∈ rounds step greedy (n + 1) p ↔ ∃ r ∈ step p, q = r ∨ q ∈ rounds step greedy n r := by
  rw [rounds, List.mem_flatMap]
  refine exists_congr fun r => and_congr_right fun _ => ?_
  cases greedy with
  | true => rw [if_pos rfl, List.mem_append, List.mem_singleton, or_comm]
  | false => rw [if_neg Bool.false_ne_true, List.mem_cons]

theorem mem_ends_star {r : Reader} {greedy : Bool} {p q : Place} :
    q ∈ (star r greedy).ends p ↔ q = p ∨ q ∈ rounds r.ends greedy p.rest.length p := by
  rw [ends]
  cases greedy with
  | true => rw [if_pos rfl, List.mem_append, List.mem_singleton, or_comm]
  | false => rw [if_neg Bool.false_ne_true, List.mem_cons]

/-- Rounds of a step that never goes back do not go back. -/
theorem rounds_le {step : Place → List Place} (hstep : ∀ p, ∀ q ∈ step p, q.rest.length ≤ p.rest.length)
    {greedy : Bool} {n : Nat} {p q : Place} (hq : q ∈ rounds step greedy n p) :
    ∃ r ∈ step p, q.rest.length ≤ r.rest.length := by
  induction n generalizing p with
  | zero => cases hq
  | succ n ih =>
    obtain ⟨r, hr, rfl | hq⟩ := mem_rounds_succ.mp hq
    · exact ⟨q, hr, Nat.le_refl _⟩
    · obtain ⟨r', hr', hle⟩ := ih hq
      exact ⟨r, hr, Nat.le_trans hle (hstep r r' hr')⟩

theorem ends_le (e : Reader) {p q : Place} (hq : q ∈ e.ends p) : q.rest.length ≤ p.rest.length := by
  induction e generalizing p q with
  | nothing => exact Nat.le_of_eq (congrArg (·.rest.length) (List.mem_singleton.mp hq))
  | oneOf s behind =>
    obtain ⟨before, rest⟩ := p
    cases rest with
    | nil => cases hq
    | cons c rest =>
      rw [ends] at hq
      dsimp only at hq
      split at hq
      · rw [List.mem_singleton.mp hq]
        exact Nat.le_succ _
      · cases hq
  | anchor a =>
    rw [ends] at hq
    split at hq
    · exact Nat.le_of_eq (congrArg (·.rest.length) (List.mem_singleton.mp hq))
    · cases hq
  | sequence a b iha ihb =>
    obtain ⟨r, hr, hq⟩ := List.mem_flatMap.mp hq
    exact Nat.le_trans (ihb hq) (iha hr)
  | choice a b iha ihb =>
    rcases List.mem_append.mp hq with hq | hq
    · exact iha hq
    · exact ihb hq
  | again r greedy ih =>
    obtain ⟨q', hq', hle⟩ := rounds_le (fun _ _ => ih) hq
    exact Nat.le_trans hle (ih hq')
  | star r greedy ih =>
    rcases mem_ends_star.mp hq with rfl | hq
    · exact Nat.le_refl _
    · obtain ⟨q', hq', hle⟩ := rounds_le (fun _ _ => ih) hq
      exact Nat.le_trans hle (ih hq')

/-- What cannot be empty takes a character. -/
theorem ends_lt {e : Reader} (he : e.canBeEmpty = false) {p q : Place} (hq : q ∈ e.ends p) :
    q.rest.length < p.rest.length := by
  induction e generalizing p q with
  | nothing => cases he
  | oneOf s behind =>
    obtain ⟨before, rest⟩ := p
    cases rest with
    | nil => cases hq
    | cons c rest =>
      rw [ends] at hq
      dsimp only at hq
      split at hq
      · rw [List.mem_singleton.mp hq]
        exact Nat.lt_succ_self _
      · cases hq
  | anchor a => cases he
  | sequence a b iha ihb =>
    obtain ⟨r, hr, hq⟩ := List.mem_flatMap.mp hq
    rw [canBeEmpty, Bool.and_eq_false_iff] at he
    rcases he with ha | hb
    · exact Nat.lt_of_le_of_lt (b.ends_le hq) (iha ha hr)
    · exact Nat.lt_of_lt_of_le (ihb hb hq) (a.ends_le hr)
  | choice a b iha ihb =>
    rw [canBeEmpty, Bool.or_eq_false_iff] at he
    rcases List.mem_append.mp hq with hq | hq
    · exact iha he.1 hq
    · exact ihb he.2 hq
  | again r greedy ih =>
    obtain ⟨q', hq', hle⟩ := rounds_le (fun _ _ => r.ends_le) hq
    exact Nat.lt_of_le_of_lt hle (ih he hq')
  | star r greedy ih => cases he

/-- There are no more rounds than characters are left. -/
theorem rounds_stable {step : Place → List Place} (hstep : ∀ p, ∀ q ∈ step p, q.rest.length < p.rest.length)
    {greedy : Bool} {n m : Nat} {p : Place} (hn : p.rest.length ≤ n) (hm : p.rest.length ≤ m) :
    rounds step greedy n p = rounds step greedy m p := by
  induction n generalizing m p with
  | zero =>
    cases m with
    | zero => rfl
    | succ m =>
      refine (List.flatMap_eq_nil_iff.mpr fun q hq => ?_).symm
      exact absurd (hstep p q hq) (by omega)
  | succ n ih =>
    cases m with
    | zero =>
      refine List.flatMap_eq_nil_iff.mpr fun q hq => ?_
      exact absurd (hstep p q hq) (by omega)
    | succ m =>
      refine List.flatMap_congr fun q hq => ?_
      have hless := hstep p q hq
      rw [ih (m := m) (p := q) (by omega) (by omega)]

/-- A repetition goes round once, and then again or on. -/
theorem ends_again {r : Reader} (hr : r.canBeEmpty = false) (greedy : Bool) (p : Place) :
    (again r greedy).ends p = (r.ends p).flatMap fun q =>
      if greedy then (again r greedy).ends q ++ [q] else q :: (again r greedy).ends q := by
  have hstep : ∀ p, ∀ q ∈ r.ends p, q.rest.length < p.rest.length := fun p q hq => ends_lt hr hq
  show rounds r.ends greedy p.rest.length p = _
  rw [rounds_stable hstep (Nat.le_refl _) (Nat.le_succ _), rounds]
  refine List.flatMap_congr fun q hq => ?_
  have hless := hstep p q hq
  rw [rounds_stable hstep (n := p.rest.length) (m := q.rest.length) (by omega) (Nat.le_refl _)]
  rfl

theorem ends_star {r : Reader} (greedy : Bool) (p : Place) :
    (star r greedy).ends p =
      if greedy then (again r greedy).ends p ++ [p] else p :: (again r greedy).ends p := rfl

/-! ## What readers know -/

/-- What the first end at a place comes to from which something follows. -/
def first (e : Reader) (next : Place → Option Nat) (p : Place) : Option Nat := (e.ends p).findSome? next

/-- What an expression comes to behind which something follows: of a repetition, another round or what
follows. -/
def rounding (e : Reader) (greedy : Bool) (next : Place → Option Nat) (p : Place) : Option Nat :=
  roundOr greedy (e.first next p) (next p)

theorem findSome?_flatMap {α β γ : Type} (xs : List α) (f : α → List β) (g : β → Option γ) :
    (xs.flatMap f).findSome? g = xs.findSome? fun x => (f x).findSome? g := by
  induction xs with
  | nil => rfl
  | cons x xs ih =>
    rw [List.flatMap_cons, List.findSome?_append, ih, List.findSome?_cons]
    cases (f x).findSome? g <;> rfl

theorem first_sequence (a b : Reader) (next : Place → Option Nat) (p : Place) :
    (sequence a b).first next p = a.first (b.first next) p :=
  findSome?_flatMap _ _ _

theorem first_choice (a b : Reader) (next : Place → Option Nat) (p : Place) :
    (choice a b).first next p = (a.first next p <|> b.first next p) := by
  show ((a.ends p) ++ (b.ends p)).findSome? next = _
  rw [List.findSome?_append, Option.or_eq_orElse]
  rfl

/-- Behind a round there is another one, or what follows. -/
theorem findSome?_onward (e : Reader) (greedy : Bool) (next : Place → Option Nat) (q : Place) :
    (if greedy then e.ends q ++ [q] else q :: e.ends q).findSome? next = e.rounding greedy next q := by
  unfold rounding roundOr
  cases greedy with
  | true =>
    rw [if_pos rfl, if_pos rfl, List.findSome?_append, Option.or_eq_orElse]
    cases hq : next q <;> simp [first, hq]
  | false =>
    rw [if_neg Bool.false_ne_true, if_neg Bool.false_ne_true, List.findSome?_cons]
    cases hq : next q <;> simp [first]

theorem first_again {r : Reader} (hr : r.canBeEmpty = false) (greedy : Bool) (next : Place → Option Nat)
    (p : Place) : (again r greedy).first next p = r.first ((again r greedy).rounding greedy next) p := by
  show ((again r greedy).ends p).findSome? next = _
  rw [ends_again hr, findSome?_flatMap]
  exact congrArg (List.findSome? · (r.ends p)) (funext fun q => findSome?_onward _ _ _ _)

theorem first_star (r : Reader) (greedy : Bool) (next : Place → Option Nat) (p : Place) :
    (star r greedy).first next p = (again r greedy).rounding greedy next p :=
  findSome?_onward (again r greedy) greedy next p

/-- Readers that differ at most in what they know. -/
def bare : Reader → Reader
  | .nothing => .nothing
  | .oneOf s _ => .oneOf s none
  | .anchor a => .anchor a
  | .sequence a b => .sequence a.bare b.bare
  | .choice a b => .choice a.bare b.bare
  | .again r greedy => .again r.bare greedy
  | .star r greedy => .star r.bare greedy

/-- A reader knows what comes of each of its characters at the place behind it. -/
def Knows (q : Place) : Reader → (Place → Option Nat) → Prop
  | .nothing, _ => True
  | .oneOf _ behind, next => behind = next q
  | .anchor _, _ => True
  | .sequence a b, next => a.Knows q (b.first next) ∧ b.Knows q next
  | .choice a b, next => a.Knows q next ∧ b.Knows q next
  | .again r greedy, next => r.Knows q ((again r greedy).rounding greedy next)
  | .star r greedy, next => r.Knows q ((again r greedy).rounding greedy next)

/-! ## What is kept in moving -/

theorem canBeEmpty_bare (e : Reader) : e.bare.canBeEmpty = e.canBeEmpty := by
  induction e with
  | nothing | oneOf | anchor | star => rfl
  | sequence a b iha ihb => rw [bare, canBeEmpty, canBeEmpty, iha, ihb]
  | choice a b iha ihb => rw [bare, canBeEmpty, canBeEmpty, iha, ihb]
  | again r greedy ih => rw [bare, canBeEmpty, canBeEmpty, ih]

theorem ends_bare (e : Reader) : e.bare.ends = e.ends := by
  induction e with
  | nothing | oneOf | anchor => rfl
  | sequence a b iha ihb => funext p; rw [bare, ends, ends, iha, ihb]
  | choice a b iha ihb => funext p; rw [bare, ends, ends, iha, ihb]
  | again r greedy ih => funext p; rw [bare, ends, ends, ih]
  | star r greedy ih => funext p; rw [bare, ends, ends, ih]

theorem isPlain_bare (e : Reader) : e.bare.isPlain = e.isPlain := by
  induction e with
  | nothing | oneOf | anchor => rfl
  | sequence a b iha ihb => rw [bare, isPlain, isPlain, iha, ihb]
  | choice a b iha ihb => rw [bare, isPlain, isPlain, iha, ihb]
  | again r greedy ih => rw [bare, isPlain, isPlain, ih, canBeEmpty_bare]
  | star r greedy ih => rw [bare, isPlain, isPlain, ih, canBeEmpty_bare]

theorem bare_move (g : Gap) {e : Reader} (he : e.isPlain) (next : Option Nat) :
    (e.move g next).1.bare = e.bare := by
  induction e generalizing next with
  | nothing | oneOf | anchor => rfl
  | sequence a b iha ihb =>
    rw [isPlain, Bool.and_eq_true] at he
    show sequence _ _ = sequence _ _
    rw [iha he.1, ihb he.2]
  | choice a b iha ihb =>
    rw [isPlain, Bool.and_eq_true] at he
    show choice _ _ = choice _ _
    rw [iha he.1, ihb he.2]
  | again r greedy ih =>
    rw [isPlain, Bool.and_eq_true, Bool.not_eq_true'] at he
    rw [move, he.2, if_neg Bool.false_ne_true]
    show again _ _ = again _ _
    rw [ih he.1]
  | star r greedy ih =>
    rw [isPlain, Bool.and_eq_true] at he
    show star _ _ = star _ _
    rw [ih he.1]

/-- What cannot be empty comes to the same whatever follows at the same place. -/
theorem outcome_next {e : Reader} (he : e.canBeEmpty = false) (g : Gap) (next next' : Option Nat) :
    e.outcome g next = e.outcome g next' := by
  induction e generalizing next next' with
  | nothing | anchor | star => cases he
  | oneOf s behind => rfl
  | sequence a b iha ihb =>
    rw [canBeEmpty, Bool.and_eq_false_iff] at he
    rcases he with ha | hb
    · exact iha ha _ _
    · rw [outcome, outcome, ihb hb next next']
  | choice a b iha ihb =>
    rw [canBeEmpty, Bool.or_eq_false_iff] at he
    rw [outcome, outcome, iha he.1 next next', ihb he.2 next next']
  | again r greedy ih => exact ih he _ _

/-! ## Moving -/

/-- A reader may be moved in front of a place: of what is behind the next character, if there is one, it knows
what comes of its characters. -/
def Ready (p : Place) (e : Reader) (next : Place → Option Nat) : Prop :=
  ∀ c rest, p.rest = c :: rest → e.Knows ⟨some c, rest⟩ next

/-- What a reader makes out at a place is what the first end there comes to. -/
theorem outcome_eq_first {e : Reader} (he : e.isPlain) {p : Place} {next : Place → Option Nat}
    (hready : Ready p e next) : e.outcome p.gap (next p) = e.first next p := by
  induction e generalizing next with
  | nothing => exact List.findSome?_singleton.symm
  | oneOf s behind =>
    obtain ⟨before, rest⟩ := p
    cases rest with
    | nil => rfl
    | cons c rest =>
      have hknown : behind = next ⟨some c, rest⟩ := hready c rest rfl
      show (if s.contains c.toNat then behind else none) =
        List.findSome? next (if s.contains c.toNat then [⟨some c, rest⟩] else [])
      by_cases hc : s.contains c.toNat
      · rw [if_pos hc, if_pos hc, hknown, List.findSome?_singleton]
      · rw [if_neg hc, if_neg hc]
        rfl
  | anchor a =>
    show (if a.holds p.gap then next p else none) = List.findSome? next (if a.holds p.gap then [p] else [])
    by_cases ha : a.holds p.gap
    · rw [if_pos ha, if_pos ha, List.findSome?_singleton]
    · rw [if_neg ha, if_neg ha]
      rfl
  | sequence a b iha ihb =>
    rw [isPlain, Bool.and_eq_true] at he
    rw [outcome, ihb he.2 fun c rest h => (hready c rest h).2, first_sequence]
    exact iha he.1 fun c rest h => (hready c rest h).1
  | choice a b iha ihb =>
    rw [isPlain, Bool.and_eq_true] at he
    rw [outcome, iha he.1 fun c rest h => (hready c rest h).1, ihb he.2 fun c rest h => (hready c rest h).2,
      first_choice]
  | again r greedy ih =>
    rw [isPlain, Bool.and_eq_true, Bool.not_eq_true'] at he
    rw [outcome, first_again he.2, ← ih he.1 hready]
    exact outcome_next he.2 _ _ _
  | star r greedy ih =>
    rw [isPlain, Bool.and_eq_true, Bool.not_eq_true'] at he
    have hround : r.outcome p.gap none = (again r greedy).first next p := by
      rw [first_again he.2, ← ih he.1 hready]
      exact outcome_next he.2 _ _ _
    rw [outcome, hround, first_star]
    rfl

theorem first_move (g : Gap) {e : Reader} (he : e.isPlain) (next : Option Nat) :
    (e.move g next).1.first = e.first := by
  unfold first
  rw [← ends_bare, bare_move g he, ends_bare]

theorem first_again_move (g : Gap) {r : Reader} (hr : r.isPlain) (greedy : Bool) (next : Option Nat) :
    (again (r.move g next).1 greedy).first = (again r greedy).first := by
  unfold first
  rw [← ends_bare, bare, bare_move g hr, ← bare, ends_bare]

/-- What another round comes to does not depend on what follows at the same place. -/
theorem outcome_round {r : Reader} {greedy : Bool} (hr : (again r greedy).isPlain) {p : Place}
    {next : Place → Option Nat} (hready : Ready p (again r greedy) next) :
    r.outcome p.gap none = (again r greedy).first next p := by
  have hsome := hr
  rw [isPlain, Bool.and_eq_true, Bool.not_eq_true'] at hsome
  exact (outcome_next hsome.2 _ _ _).trans (outcome_eq_first hr hready)

/-- Moved in front of a place, a reader knows what comes of its characters there. -/
theorem move_eq {e : Reader} (he : e.isPlain) {p : Place} {next : Place → Option Nat}
    (hready : Ready p e next) :
    (e.move p.gap (next p)).2 = e.first next p ∧ (e.move p.gap (next p)).1.Knows p next := by
  induction e generalizing next with
  | nothing => exact ⟨outcome_eq_first he hready, trivial⟩
  | oneOf s behind => exact ⟨outcome_eq_first he hready, rfl⟩
  | anchor a => exact ⟨outcome_eq_first he hready, trivial⟩
  | sequence a b iha ihb =>
    rw [isPlain, Bool.and_eq_true] at he
    obtain ⟨hb, hknowsb⟩ := ihb he.2 fun c rest h => (hready c rest h).2
    obtain ⟨ha, hknowsa⟩ := iha he.1 fun c rest h => (hready c rest h).1
    rw [← hb] at ha hknowsa
    refine ⟨ha.trans (first_sequence a b next p).symm, ?_, hknowsb⟩
    rwa [first_move _ he.2]
  | choice a b iha ihb =>
    rw [isPlain, Bool.and_eq_true] at he
    obtain ⟨hb, hknowsb⟩ := ihb he.2 fun c rest h => (hready c rest h).2
    obtain ⟨ha, hknowsa⟩ := iha he.1 fun c rest h => (hready c rest h).1
    refine ⟨?_, hknowsa, hknowsb⟩
    rw [first_choice, ← ha, ← hb]
    rfl
  | again r greedy ih =>
    have hround := outcome_round he hready
    rw [isPlain, Bool.and_eq_true, Bool.not_eq_true'] at he
    have hmove : (again r greedy).move p.gap (next p) =
        (again (r.move p.gap ((again r greedy).rounding greedy next p)).1 greedy,
          (again r greedy).first next p) := by
      rw [move, he.2, if_neg Bool.false_ne_true, hround]
      rfl
    rw [hmove]
    refine ⟨rfl, ?_⟩
    show Knows p _ fun q => roundOr greedy ((again _ greedy).first next q) (next q)
    rw [first_again_move _ he.1]
    exact (ih he.1 hready).2
  | star r greedy ih =>
    have hround : r.outcome p.gap none = (again r greedy).first next p := outcome_round he hready
    rw [isPlain, Bool.and_eq_true, Bool.not_eq_true'] at he
    have hmove : (star r greedy).move p.gap (next p) =
        (star (r.move p.gap ((again r greedy).rounding greedy next p)).1 greedy,
          (star r greedy).first next p) := by
      rw [move, hround, first_star]
      rfl
    rw [hmove]
    refine ⟨rfl, ?_⟩
    show Knows p _ fun q => roundOr greedy ((again _ greedy).first next q) (next q)
    rw [first_again_move _ he.1]
    exact (ih he.1 hready).2

end Reader

/-! ## All places of a text -/

/-- The places of a text that goes on behind a character. -/
def placesFrom (before : Option Char) : List Char → List Place
  | [] => [⟨before, []⟩]
  | c :: s => ⟨before, c :: s⟩ :: placesFrom (some c) s

/-- How long the preferred match at a place is, if there is one. -/
def matchLength? (r : Regex) (p : Place) : Option Nat :=
  (r.reader.ends p).head?.map fun q => p.rest.length - q.rest.length

theorem gaps_eq (s : List Char) :
    gaps s = (placesFrom none s).map fun p => (p.gap, p.rest.length) := by
  have hfrom : ∀ before : Option Char,
      (List.zipWith Gap.mk (before :: s.map some) (s.map some ++ [none])).zip (List.range (s.length + 1)).reverse =
        (placesFrom before s).map fun p => (p.gap, p.rest.length) := by
    induction s with
    | nil => exact fun before => rfl
    | cons c s ih =>
      intro before
      rw [List.length_cons, List.range_succ, List.reverse_append, List.reverse_singleton, placesFrom]
      exact congrArg (_ :: ·) (ih (some c))
  exact hfrom none

theorem first_length (e : Reader) (p : Place) :
    e.first (fun q => some q.rest.length) p = (e.ends p).head?.map fun q => q.rest.length := by
  unfold Reader.first
  cases e.ends p <;> rfl

/-- What is made out when a reader is moved to the first of these places, from behind them. -/
def moved (r : Regex) : List Place → Reader × List (Option Nat)
  | [] => (r.reader, [])
  | p :: ps =>
    let (e, later) := r.moved ps
    let (e, left?) := e.move p.gap (some p.rest.length)
    (e, left?.map (p.rest.length - ·) :: later)

theorem matchLengths_eq_moved (r : Regex) (s : List Char) :
    r.matchLengths s = (r.moved (placesFrom none s)).2 := by
  unfold matchLengths
  rw [gaps_eq, List.foldr_map]
  generalize placesFrom none s = places
  refine congrArg Prod.snd ?_
  induction places with
  | nil => rfl
  | cons p places ih => rw [List.foldr_cons, ih, moved]

/-- A step of the way: the length of the preferred match is made out at one more place. -/
theorem move_step {r : Regex} (hr : r.reader.isPlain) {e : Reader} {p : Place} (he : e.bare = r.reader.bare)
    (hready : Reader.Ready p e fun q => some q.rest.length) :
    let moved := e.move p.gap (some p.rest.length)
    moved.1.bare = r.reader.bare ∧ moved.1.Knows p (fun q => some q.rest.length) ∧
      moved.2.map (p.rest.length - ·) = r.matchLength? p := by
  have hplain : e.isPlain := by rw [← Reader.isPlain_bare, he, Reader.isPlain_bare, hr]
  obtain ⟨hout, hknows⟩ := Reader.move_eq hplain hready
  refine ⟨(Reader.bare_move _ hplain _).trans he, hknows, ?_⟩
  rw [hout, first_length, ← Reader.ends_bare, he, Reader.ends_bare, Option.map_map]
  rfl

theorem moved_placesFrom {r : Regex} (hr : r.reader.isPlain) (before : Option Char) (s : List Char) :
    (r.moved (placesFrom before s)).1.bare = r.reader.bare ∧
      (r.moved (placesFrom before s)).1.Knows ⟨before, s⟩ (fun q => some q.rest.length) ∧
      (r.moved (placesFrom before s)).2 = (placesFrom before s).map r.matchLength? := by
  induction s generalizing before with
  | nil =>
    -- no character is left, so nothing has to be known of one
    obtain ⟨hbare, hknows, hlength⟩ := move_step hr (e := r.reader) (p := ⟨before, []⟩) rfl nofun
    exact ⟨hbare, hknows, congrArg (· :: []) hlength⟩
  | cons c s ih =>
    obtain ⟨hbare, hknows, hlengths⟩ := ih (some c)
    have hready : Reader.Ready ⟨before, c :: s⟩ (r.moved (placesFrom (some c) s)).1
        fun q => some q.rest.length := by
      rintro c' rest ⟨⟩
      exact hknows
    obtain ⟨hbare', hknows', hlength⟩ := move_step hr hbare hready
    exact ⟨hbare', hknows', congrArg₂ List.cons hlength hlengths⟩

/-- Moving through a text makes out the length of the preferred match at each place. -/
theorem matchLengths_eq {r : Regex} (hr : r.reader.isPlain) (s : List Char) :
    r.matchLengths s = (placesFrom none s).map r.matchLength? := by
  rw [matchLengths_eq_moved]
  exact (moved_placesFrom hr none s).2.2

theorem matchLength?_le {r : Regex} (hr : r.reader.canBeEmpty = false) {p : Place} {n : Nat}
    (h : r.matchLength? p = some n) : 0 < n ∧ n ≤ p.rest.length := by
  obtain ⟨q, hq, rfl⟩ := Option.map_eq_some_iff.mp h
  have hless := Reader.ends_lt hr (List.mem_of_head? hq)
  omega

/-! ## The pieces of a text -/

theorem length_matchLengths (r : Regex) (s : List Char) : (r.matchLengths s).length = s.length + 1 := by
  have hmoved : ∀ places, (r.moved places).2.length = places.length := by
    intro places
    induction places with
    | nil => rfl
    | cons p places ih =>
      rw [moved]
      exact congrArg (· + 1) ih
  have hplaces : ∀ before, (placesFrom before s).length = s.length + 1 := by
    induction s with
    | nil => exact fun before => rfl
    | cons c s ih => exact fun before => congrArg (· + 1) (ih (some c))
  rw [matchLengths_eq_moved, hmoved, hplaces]

/-- Whatever the lengths are, a text is cut without loss behind the match before it. -/
theorem flatMap_text_cut {s : List Char} {lengths : List (Option Nat)}
    (h : lengths.length = s.length + 1) (n : Nat) (atEnd : Bool) :
    (cut n atEnd s lengths).flatMap Piece.text = s.drop n := by
  induction s generalizing lengths n atEnd with
  | nil =>
    obtain ⟨length?, rfl⟩ := List.length_eq_one_iff.mp h
    rw [List.drop_nil]
    cases n with
    | succ n => rfl
    | zero => cases atEnd <;> cases length? <;> rfl
  | cons c s ih =>
    cases lengths with
    | nil => cases h
    | cons length? lengths =>
      have hlater := ih (Nat.succ.inj h)
      cases n with
      | succ n => exact hlater n true
      | zero =>
        have hkept := congrArg (c :: ·) (hlater 0 false)
        cases length? with
        | none => exact hkept
        | some m =>
          cases m with
          | zero =>
            cases atEnd with
            | true => exact hkept
            | false => exact hkept
          | succ m =>
            rw [cut, List.flatMap_cons, hlater, Piece.text, List.cons_append, List.take_append_drop]
            rfl

/-- The pieces of a text make it up. -/
theorem flatMap_text_pieces (r : Regex) (s : List Char) : (r.pieces s).flatMap Piece.text = s :=
  flatMap_text_cut (r.length_matchLengths s) 0 false

/-! ## All matches of a text -/

/-- Takes a text apart at matches, from left to right, where the length of a match is told by the text that
starts with it. -/
def scan (length? : List Char → Option Nat) : List Char → List Piece
  | [] => []
  | c :: s =>
    match length? (c :: s) with
    | some (n + 1) => .found (c :: s.take n) :: scan length? (s.drop n)
    | _ => .kept c :: scan length? s
termination_by s => s.length
decreasing_by
  · rw [List.length_drop, List.length_cons]
    omega
  · exact Nat.lt_succ_self _

section Scan

variable {length? : List Char → Option Nat}

theorem scan_kept {c : Char} {s : List Char} (h : length? (c :: s) = none) :
    scan length? (c :: s) = .kept c :: scan length? s := by
  rw [scan, h]

theorem scan_found (hsome : ∀ s n, length? s = some n → 0 < n) {u v : List Char}
    (h : length? (u ++ v) = some u.length) : scan length? (u ++ v) = .found u :: scan length? v := by
  cases u with
  | nil => exact absurd (hsome _ _ h) (Nat.lt_irrefl 0)
  | cons c u =>
    rw [List.cons_append, scan, ← List.cons_append, h, List.length_cons]
    dsimp only
    rw [List.take_left, List.drop_left]

/-- Cutting goes on behind a match as it would from there. -/
theorem cut_eq_scan (hle : ∀ s n, length? s = some n → 0 < n ∧ n ≤ s.length) (s : List Char) :
    ∀ n ≤ s.length, ∀ atEnd, cut n atEnd s (s.tails.map length?) = scan length? (s.drop n) := by
  induction s with
  | nil =>
    intro n hn atEnd
    obtain rfl := Nat.le_zero.mp hn
    have hnone : length? [] = none := by
      cases h : length? [] with
      | none => rfl
      | some m =>
        have hm := hle [] m h
        rw [List.length_nil] at hm
        omega
    show cut 0 atEnd [] [length? []] = _
    rw [hnone, List.drop_zero, scan]
    cases atEnd <;> rfl
  | cons c s ih =>
    intro n hn atEnd
    rw [List.length_cons] at hn
    show cut n atEnd (c :: s) (length? (c :: s) :: s.tails.map length?) = _
    cases n with
    | succ n => exact ih n (Nat.le_of_succ_le_succ hn) true
    | zero =>
      rw [List.drop_zero, scan]
      cases h : length? (c :: s) with
      | none => exact congrArg (.kept c :: ·) (ih 0 (Nat.zero_le _) false)
      | some m =>
        have hm := hle _ m h
        cases m with
        | zero => exact absurd hm.1 (Nat.lt_irrefl 0)
        | succ m => exact congrArg (.found (c :: s.take m) :: ·) (ih m (Nat.le_of_succ_le_succ hm.2) true)

/-- An expression that cannot be empty takes a text apart at its matches, if the length of a match does not
depend on what is in front of it. -/
theorem pieces_eq_scan {r : Regex} (hplain : r.reader.isPlain) (hsome : r.reader.canBeEmpty = false)
    (h : ∀ before s, r.matchLength? ⟨before, s⟩ = length? s) (s : List Char) : r.pieces s = scan length? s := by
  have htails : ∀ before, (placesFrom before s).map r.matchLength? = s.tails.map length? := by
    induction s with
    | nil => exact fun before => congrArg (· :: []) (h before [])
    | cons c s ih => exact fun before => congrArg₂ List.cons (h before (c :: s)) (ih (some c))
  have hle : ∀ s n, length? s = some n → 0 < n ∧ n ≤ s.length := by
    intro s n hn
    rw [← h none s] at hn
    exact matchLength?_le hsome hn
  unfold pieces
  rw [matchLengths_eq hplain, htails, cut_eq_scan hle s 0 (Nat.zero_le _) false, List.drop_zero]

end Scan

end DeckPress.Regex
