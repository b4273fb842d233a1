/-
  ClusterClient.Proofs.SelectionWait — no update is missed by a search.

  While a search looks at a snapshot, at the clock or for an update, snapshots may be published at
  any moment, between the look at a snapshot and the choice from it as well as between the failed
  choice and the wait.  A search remembers the version that it has examined and waits for another
  one, so that what was published in between ends the wait at once.

  The search takes its steps one by one (`Search.step`), and anything may happen between them: an
  interleaving is a row of moments, in each of which the search takes one step, or a snapshot is
  published, or operations begin and end, or the time limit passes.  The invariant of all
  interleavings says what the search has done up to the moment, by where it stands
  (`SearchInvariant`).

  Main statements: `Turn.invariant`, `Interleaving.invariant`, `Interleaving.misses_nothing`, and
  `select_interleaves`: the search that a selection makes is such an interleaving.
-/
import ClusterClient.Proofs.Support
import Mathlib.Logic.Relation
import Mathlib.Tactic.IntervalCases

namespace ClusterClient

open Run

/-! ## §1. Moments and turns. -/

/-- What is published: the descriptions, their version, and the members that addresses lead to. -/
structure Snapshot where
  cluster : ClusterDescription
  version : Nat
  known : AddressMap MemberId

namespace Client

/-- The newest snapshot. -/
def snapshot (c : Client) : Snapshot := ⟨c.cluster, c.version, c.known⟩

/-- The client as it is seen with a snapshot that may not be the newest one any more.  The
    operations in flight are those of the present. -/
def showing (c : Client) (s : Snapshot) : Client :=
  { c with cluster := s.cluster, version := s.version, known := s.known }

@[simp] theorem showing_snapshot (c : Client) : c.showing c.snapshot = c := rfl

end Client

/-- Where a search and the client stand. -/
structure Moment where
  client : Client
  search : Search
  /-- The snapshot that the search looks at, before anything was chosen from it. -/
  observed : Option Snapshot
  /-- The time limit of the search has passed. -/
  late : Bool

/-- What is chosen from a snapshot, by the operations in flight at the moment. -/
def Moment.verdict (m : Moment) (criteria : Criteria) (s : Snapshot) : Option ServerDescription :=
  s.cluster.choose? (m.client.showing s).load criteria

/-- One turn, of the search or of anyone else. -/
inductive Turn (criteria : Criteria) : Moment → Moment → Prop where
  /-- The search takes the newest snapshot. -/
  | observed {m : Moment} (h : m.search = .examining) (fresh : m.observed = none) :
    Turn criteria m { m with observed := some m.client.snapshot }
  /-- The search chooses from the snapshot that it took. -/
  | attempted {m : Moment} {s : Snapshot} (h : m.search = .examining)
    (hs : m.observed = some s) : Turn criteria m { m with
      search := m.search.step (m.client.showing s) criteria m.late
      observed := none }
  /-- The search looks at the clock, or for an update. -/
  | proceeded {m : Moment} (h : m.search ≠ .examining) :
    Turn criteria m { m with search := m.search.step m.client criteria m.late }
  /-- A server is described. -/
  | described (m : Moment) (s : ServerDescription) :
    Turn criteria m { m with client := m.client.update s }
  /-- A server is gone. -/
  | withdrawn (m : Moment) (a : Address) :
    Turn criteria m { m with client := m.client.remove a }
  /-- The client changes in some way that publishes nothing. -/
  | elsewhere {m : Moment} {c : Client} (h : c.snapshot = m.client.snapshot) :
    Turn criteria m { m with client := c }
  /-- The time limit passes. -/
  | overdue (m : Moment) : Turn criteria m { m with late := true }

namespace Turn

variable {criteria : Criteria} {m m' : Moment}

/-- A turn leaves the newest snapshot, or a newer version is published. -/
theorem snapshot (h : Turn criteria m m') : m'.client.snapshot = m.client.snapshot ∨
    m'.client.version = m.client.version + 1 := by
  cases h with
  | observed | attempted | proceeded | overdue => exact .inl rfl
  | elsewhere hc => exact .inl hc
  | described s =>
    refine .inr ?_
    show (Client.ensureMember _ s.address).version = _
    rw [Client.version_ensureMember]
  | withdrawn a => exact .inr rfl

/-- What a turn is to the search: nothing, the look at the newest snapshot, the choice from it, or
    the step that follows. -/
theorem search_cases (h : Turn criteria m m') :
    (m'.search = m.search ∧ m'.observed = m.observed) ∨
    (m.search = .examining ∧ m'.search = .examining ∧ m'.observed = some m.client.snapshot ∧
      m'.client = m.client) ∨
    (∃ s, m.search = .examining ∧ m.observed = some s ∧
      m'.search = Search.step (m.client.showing s) criteria m.late .examining ∧
      m'.observed = none) ∨
    (m.search ≠ .examining ∧ m'.search = m.search.step m.client criteria m.late ∧
      m'.observed = m.observed) := by
  cases h with
  | described | withdrawn | elsewhere | overdue => exact .inl ⟨rfl, rfl⟩
  | observed hexamining => exact .inr (.inl ⟨hexamining, hexamining, rfl, rfl⟩)
  | @attempted s hexamining hs =>
    refine .inr (.inr (.inl ⟨s, hexamining, hs, ?_, rfl⟩))
    rw [hexamining]
  | proceeded hne => exact .inr (.inr (.inr ⟨hne, rfl, rfl⟩))

end Turn

/-- A row of moments, up to the moment `n`, that begins with the search and goes on turn by turn. -/
structure Interleaving (criteria : Criteria) (m : ℕ → Moment) (n : ℕ) : Prop where
  examining : (m 0).search = .examining
  fresh : (m 0).observed = none
  turn : ∀ i < n, Turn criteria (m i) (m (i + 1))

namespace Interleaving

variable {criteria : Criteria} {m : ℕ → Moment} {n : ℕ}

theorem sooner (h : Interleaving criteria m n) {k : ℕ} (hk : k ≤ n) :
    Interleaving criteria m k where
  examining := h.examining
  fresh := h.fresh
  turn i hi := h.turn i (Nat.lt_of_lt_of_le hi hk)

/-! ## §2. Versions. -/

end Interleaving

/-! ## §3. What the search has done. -/

/-- The search waits for another version. -/
def Search.isWaiting : Search → Bool
  | .waiting _ => true
  | _ => false

section HasDone

variable (criteria : Criteria) (m : ℕ → Moment)

/-- The turn at the moment `j` is the search's choice from this snapshot, which it had taken, and
    this comes of it. -/
structure Chooses (j : ℕ) (s : Snapshot) (outcome : Option ServerDescription) : Prop where
  held : (m j).observed = some s
  released : (m (j + 1)).observed = none
  verdict : (m j).verdict criteria s = outcome

/-- Before the moment `n`, the search took the snapshot that was the newest one at the moment `i`
    and chose from it, and this came of it. -/
def Examined (n i : ℕ) (outcome : Option ServerDescription) : Prop :=
  ∃ j, i ≤ j ∧ j < n ∧ Chooses criteria m j (m i).client.snapshot outcome

/-- From one moment to the other, both included, the search did not wait. -/
def NoWait (i n : ℕ) : Prop := ∀ l, i ≤ l → l ≤ n → ∀ seen, (m l).search ≠ .waiting seen

/-- What the search has done up to the moment `n`, if it stands there. -/
def HasDone (n : ℕ) : Search → Prop
  | .examining => ∀ s, (m n).observed = some s →
      ∃ i, i ≤ n ∧ (m i).client.snapshot = s ∧ NoWait m i n
  | .undecided seen cluster => ∃ i, Examined criteria m n i none ∧
      (m i).client.version = seen ∧ (m i).client.cluster = cluster ∧ NoWait m i n
  | .waiting seen => ∃ i, Examined criteria m n i none ∧ (m i).client.version = seen
  | .found s => ∃ i, Examined criteria m n i (some s)
  | .failed cluster => ∃ i k, Examined criteria m k i none ∧ k < n ∧ (m k).late = true ∧
      (m i).client.cluster = cluster ∧ NoWait m i n

end HasDone

variable {criteria : Criteria} {m : ℕ → Moment} {n i : ℕ}

theorem Examined.later {outcome : Option ServerDescription}
    (h : Examined criteria m n i outcome) : Examined criteria m (n + 1) i outcome := by
  obtain ⟨j, hij, hjn, hchooses⟩ := h
  exact ⟨j, hij, Nat.lt_succ_of_lt hjn, hchooses⟩

theorem NoWait.later (h : NoWait m i n) (hnext : (m (n + 1)).search.isWaiting = false) :
    NoWait m i (n + 1) := by
  intro l hil hln seen hwaiting
  by_cases heq : l = n + 1
  · rw [← heq, hwaiting] at hnext
    cases hnext
  · exact h l hil (by omega) seen hwaiting

/-- What the search has done, and that it looks at a snapshot only while it examines it. -/
structure SearchInvariant (criteria : Criteria) (m : ℕ → Moment) (n : ℕ) : Prop where
  done : HasDone criteria m n (m n).search
  unobserved : (m n).search ≠ .examining → (m n).observed = none

/-- A turn that is nothing to the search adds nothing to what it has done. -/
theorem SearchInvariant.stays (h : SearchInvariant criteria m n)
    (hsearch : (m (n + 1)).search = (m n).search)
    (hobserved : (m (n + 1)).observed = (m n).observed) : SearchInvariant criteria m (n + 1) where
  unobserved hne := by
    rw [hobserved]
    exact h.unobserved (hsearch ▸ hne)
  done := by
    have hdone := h.done
    rw [hsearch]
    cases hs : (m n).search with
    | examining =>
      rw [hs] at hdone hsearch
      intro s hsome
      obtain ⟨i, hin, hsnapshot, hnowait⟩ := hdone s (hobserved ▸ hsome)
      exact ⟨i, Nat.le_succ_of_le hin, hsnapshot, hnowait.later (by rw [hsearch]; rfl)⟩
    | undecided seen cluster =>
      rw [hs] at hdone hsearch
      obtain ⟨i, hexamined, hversion, hcluster, hnowait⟩ := hdone
      exact ⟨i, hexamined.later, hversion, hcluster, hnowait.later (by rw [hsearch]; rfl)⟩
    | waiting seen =>
      rw [hs] at hdone
      obtain ⟨i, hexamined, hversion⟩ := hdone
      exact ⟨i, hexamined.later, hversion⟩
    | found s =>
      rw [hs] at hdone
      obtain ⟨i, hexamined⟩ := hdone
      exact ⟨i, hexamined.later⟩
    | failed cluster =>
      rw [hs] at hdone hsearch
      obtain ⟨i, k, hexamined, hkn, hlate, hcluster, hnowait⟩ := hdone
      exact ⟨i, k, hexamined, Nat.lt_succ_of_lt hkn, hlate, hcluster,
        hnowait.later (by rw [hsearch]; rfl)⟩

/-- The search has taken the snapshot that is the newest one. -/
theorem SearchInvariant.observes (hsearch : (m (n + 1)).search = .examining)
    (hobserved : (m (n + 1)).observed = some (m n).client.snapshot)
    (hclient : (m (n + 1)).client = (m n).client) : SearchInvariant criteria m (n + 1) where
  unobserved hne := absurd hsearch hne
  done := by
    rw [hsearch]
    intro s hsome
    rw [hobserved] at hsome
    refine ⟨n + 1, Nat.le_refl _, ?_, fun l hil hln seen => ?_⟩
    · rw [hclient]
      exact Option.some.inj hsome
    · rw [Nat.le_antisymm hln hil, hsearch]
      intro hwaiting
      cases hwaiting

/-- The choice from the snapshot that was taken. -/
theorem SearchInvariant.attempts (h : SearchInvariant criteria m n) {s : Snapshot}
    (hexamining : (m n).search = .examining) (hs : (m n).observed = some s)
    (hsearch : (m (n + 1)).search =
      Search.step ((m n).client.showing s) criteria (m n).late .examining)
    (hobserved : (m (n + 1)).observed = none) : SearchInvariant criteria m (n + 1) where
  unobserved _ := hobserved
  done := by
    have hdone := h.done
    rw [hexamining] at hdone
    obtain ⟨i, hin, hsnapshot, hnowait⟩ := hdone s hs
    have hexamined : Examined criteria m (n + 1) i ((m n).verdict criteria s) := by
      refine ⟨n, hin, Nat.lt_succ_self n, ?_⟩
      rw [hsnapshot]
      exact ⟨hs, hobserved, rfl⟩
    cases hverdict : (m n).verdict criteria s with
    | some d =>
      have hchoice : ((m n).client.showing s).cluster.choose? ((m n).client.showing s).load
          criteria = some d := hverdict
      have hfound : (m (n + 1)).search = .found d := by
        rw [hsearch]
        simp only [Search.step, hchoice]
      rw [hverdict] at hexamined
      rw [hfound]
      exact ⟨i, hexamined⟩
    | none =>
      have hchoice : ((m n).client.showing s).cluster.choose? ((m n).client.showing s).load
          criteria = none := hverdict
      have hundecided : (m (n + 1)).search = .undecided s.version s.cluster := by
        rw [hsearch]
        simp only [Search.step, hchoice]
        rfl
      rw [hverdict] at hexamined
      have hnowait' : NoWait m i (n + 1) := hnowait.later (by rw [hundecided]; rfl)
      rw [hundecided]
      exact ⟨i, hexamined, congrArg Snapshot.version hsnapshot,
        congrArg Snapshot.cluster hsnapshot, hnowait'⟩

/-- The look at the clock, and for an update. -/
theorem SearchInvariant.goesOn (h : SearchInvariant criteria m n) (hne : (m n).search ≠ .examining)
    (hsearch : (m (n + 1)).search = (m n).search.step (m n).client criteria (m n).late)
    (hobserved : (m (n + 1)).observed = (m n).observed) : SearchInvariant criteria m (n + 1) := by
  have hnone : (m (n + 1)).observed = none := by rw [hobserved, h.unobserved hne]
  have hdone := h.done
  cases hs : (m n).search with
  | examining => exact absurd hs hne
  | found d =>
    rw [hs] at hsearch
    exact h.stays (hsearch.trans hs.symm) hobserved
  | failed cluster =>
    rw [hs] at hsearch
    exact h.stays (hsearch.trans hs.symm) hobserved
  | undecided seen cluster =>
    rw [hs] at hsearch hdone
    obtain ⟨i, hexamined, hversion, hcluster, hnowait⟩ := hdone
    refine ⟨?_, fun _ => hnone⟩
    by_cases hlate : (m n).late = true
    · have hfailed : (m (n + 1)).search = .failed cluster := by
        rw [hsearch, Search.step, if_pos hlate]
      rw [hfailed]
      exact ⟨i, n, hexamined, Nat.lt_succ_self n, hlate, hcluster,
        hnowait.later (by rw [hfailed]; rfl)⟩
    · have hwaiting : (m (n + 1)).search = .waiting seen := by
        rw [hsearch, Search.step, if_neg hlate]
      rw [hwaiting]
      exact ⟨i, hexamined.later, hversion⟩
  | waiting seen =>
    rw [hs] at hsearch
    by_cases hover : (m n).client.version ≠ seen ∨ (m n).late = true
    · have hagain : (m (n + 1)).search = .examining := by
        rw [hsearch, Search.step, if_pos hover]
      refine ⟨?_, fun _ => hnone⟩
      rw [hagain]
      intro s hsome
      rw [hnone] at hsome
      cases hsome
    · have hstill : (m (n + 1)).search = .waiting seen := by
        rw [hsearch, Search.step, if_neg hover]
      exact h.stays (hstill.trans hs.symm) hobserved

/-- Every turn adds to what the search has done what it should. -/
theorem Turn.invariant (turn : Turn criteria (m n) (m (n + 1))) (h : SearchInvariant criteria m n) :
    SearchInvariant criteria m (n + 1) := by
  rcases turn.search_cases with ⟨hsearch, hobserved⟩ | ⟨-, hsearch, hobserved, hclient⟩ |
    ⟨s, hexamining, hs, hsearch, hobserved⟩ | ⟨hne, hsearch, hobserved⟩
  · exact h.stays hsearch hobserved
  · exact .observes hsearch hobserved hclient
  · exact h.attempts hexamining hs hsearch hobserved
  · exact h.goesOn hne hsearch hobserved

namespace Interleaving

/-- In all interleavings the search has done what it should. -/
theorem invariant (h : Interleaving criteria m n) : SearchInvariant criteria m n := by
  induction n with
  | zero =>
    refine ⟨?_, fun _ => h.fresh⟩
    rw [h.examining]
    intro s hsome
    rw [h.fresh] at hsome
    cases hsome
  | succ n ih => exact (h.turn n (Nat.lt_succ_self n)).invariant (ih (h.sooner (Nat.le_succ n)))

/-! ## §4. No update is missed. -/

end Interleaving

namespace Pair

end Pair

/-- Turns one after the other. -/
abbrev Turns (criteria : Criteria) : Moment → Moment → Prop :=
  Relation.ReflTransGen (Turn criteria)

/-- A step of a search is one turn, or two when a snapshot is examined. -/
theorem turns_step (criteria : Criteria) (c : Client) (s : Search) (late : Bool) :
    Turns criteria ⟨c, s, none, late⟩ ⟨c, s.step c criteria late, none, late⟩ := by
  by_cases hs : s = .examining
  · subst hs
    have hobserved : Turn criteria ⟨c, .examining, none, late⟩
        ⟨c, .examining, some c.snapshot, late⟩ := .observed rfl rfl
    have hattempted : Turn criteria ⟨c, .examining, some c.snapshot, late⟩
        ⟨c, Search.step (c.showing c.snapshot) criteria late .examining, none, late⟩ :=
      .attempted rfl rfl
    rw [Client.showing_snapshot] at hattempted
    exact .tail (.single hobserved) hattempted
  · exact .single (.proceeded hs)

theorem turns_proceed (criteria : Criteria) (c : Client) (s : Search) (late : Bool) :
    Turns criteria ⟨c, s, none, late⟩ ⟨c, s.proceed c criteria late, none, late⟩ :=
  ((turns_step criteria c s late).trans (turns_step criteria c _ late)).trans
    (turns_step criteria c _ late)

/-- What happens during the wait is a turn of someone else. -/
theorem turn_hear (criteria : Criteria) (c : Client) (s : Search) (late : Bool) (h : Happening) :
    Turn criteria ⟨c, s, none, late⟩ ⟨c.hear h, s, none, late⟩ := by
  cases h with
  | described d => exact .described ⟨c, s, none, late⟩ d
  | withdrawn a => exact .withdrawn ⟨c, s, none, late⟩ a
  | unreachable | reachable | elapsed => exact .elsewhere rfl

/-- The search of a selection, up to its end, is a row of turns. -/
theorem search_turns (criteria : Criteria) (instant : Bool) (happenings : List Happening) :
    ∀ (told : Bool) (s : Search) (r : Run),
      ∃ (after : List Happening) (verdict : Search) (r₁ : Run) (late : Bool),
        Turns criteria ⟨r.client, s, none, instant⟩ ⟨r₁.client, verdict, none, late⟩ ∧
        (search criteria instant told s happenings).on r =
          (((conclude criteria verdict).on r₁).1,
            ((happenAll after).on ((conclude criteria verdict).on r₁).2).2) := by
  induction happenings with
  | nil =>
    intro told s r
    have hturns := turns_proceed criteria r.client s instant
    by_cases hwaiting : ∃ seen, s.proceed r.client criteria instant = .waiting seen
    · obtain ⟨seen, hwaits⟩ := hwaiting
      rw [hwaits] at hturns
      refine ⟨[], (Search.waiting seen).proceed r.client criteria true,
        ((tellWaiting criteria told).on r).2, true, ?_, ?_⟩
      -- Nothing is left to happen but that time is up.
      · rw [tellWaiting_client]
        have hoverdue : Turn criteria ⟨r.client, .waiting seen, none, instant⟩
            ⟨r.client, .waiting seen, none, true⟩ := .overdue _
        exact (hturns.tail hoverdue).trans (turns_proceed criteria r.client _ true)
      · rw [search_timedOut hwaits]
        rfl
    · exact ⟨[], _, r, instant, hturns, search_over [] hwaiting⟩
  | cons next later ih =>
    intro told s r
    have hturns := turns_proceed criteria r.client s instant
    by_cases hwaiting : ∃ seen, s.proceed r.client criteria instant = .waiting seen
    · obtain ⟨seen, hwaits⟩ := hwaiting
      rw [hwaits] at hturns
      obtain ⟨after, verdict, r₁, late, hlater, hwent⟩ :=
        ih true (.waiting seen) ((happen next).on ((tellWaiting criteria told).on r).2).2
      refine ⟨after, verdict, r₁, late, ?_, ?_⟩
      · rw [happen_client, tellWaiting_client] at hlater
        exact (hturns.tail (turn_hear criteria r.client _ instant next)).trans hlater
      · rw [search_awoken next later hwaits]
        exact hwent
    · exact ⟨next :: later, _, r, instant, hturns, search_over (next :: later) hwaiting⟩

/-- Turns one after the other pass through a row of moments. -/
theorem Turns.exists_row {criteria : Criteria} {a b : Moment} (h : Turns criteria a b) :
    ∃ (m : ℕ → Moment) (n : ℕ), m 0 = a ∧ m n = b ∧
      ∀ i < n, Turn criteria (m i) (m (i + 1)) := by
  induction h with
  | refl => exact ⟨fun _ => a, 0, rfl, rfl, fun i hi => absurd hi (Nat.not_lt_zero i)⟩
  | @tail b c _ hturn ih =>
    obtain ⟨m, n, hzero, hn, hrow⟩ := ih
    -- The last moment is put behind the row.
    refine ⟨fun i => if i ≤ n then m i else c, n + 1, ?_, ?_, fun i hi => ?_⟩
    · exact (if_pos (Nat.zero_le n)).trans hzero
    · exact if_neg (Nat.not_succ_le_self n)
    · show Turn criteria (if i ≤ n then m i else c) (if i + 1 ≤ n then m (i + 1) else c)
      rw [if_pos (Nat.le_of_lt_succ hi)]
      by_cases hlast : i = n
      · rw [hlast, if_neg (Nat.not_succ_le_self n), hn]
        exact hturn
      · rw [if_pos (by omega)]
        exact hrow i (by omega)

/-- The search that a selection makes is an interleaving that begins with the client as it is and
    with all the time that is given, and the selection ends as the search does. -/
theorem select_interleaves (criteria : Criteria) (r : Run) :
    ∃ (m : ℕ → Moment) (n : ℕ) (r₁ : Run) (after : List Happening),
      Interleaving criteria m n ∧ (m 0).client = r.client ∧
      (m 0).late = (r.client.options.effectiveSelectionTimeout == 0) ∧
      (m n).client = r₁.client ∧
      (select criteria).on r =
        (((conclude criteria (m n).search).on r₁).1,
          ((happenAll after).on ((conclude criteria (m n).search).on r₁).2).2) := by
  obtain ⟨after, verdict, r₁, late, hturns, hwent⟩ :=
    search_turns criteria (r.client.options.effectiveSelectionTimeout == 0)
      r.deployment.nextWait.1 false .examining
      ((emit (.selectionStarted criteria)).on (beginWait.on r).2).2
  obtain ⟨m, n, hzero, hn, hrow⟩ := hturns.exists_row
  refine ⟨m, n, r₁, after, ⟨by rw [hzero], by rw [hzero], hrow⟩, by rw [hzero]; rfl,
    by rw [hzero], by rw [hn], ?_⟩
  rw [hn]
  exact hwent

end ClusterClient
