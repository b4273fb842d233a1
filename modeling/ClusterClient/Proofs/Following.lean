/-
  ClusterClient.Proofs.Following — following one session through an action.

  Using a session changes the time of its last use, may leave the mark of a network failure on it,
  and changes the number of its holders while it lasts; that is all it does unless the operation
  says so.  A source adds one holder and giving it back takes one away: `Follows` names what has to
  be known of a property of the session that is to be followed so.  `Shows x r k o` says how the
  session of a context looks in a run: like `o`, but for the time and the mark, and with `k` holders
  more.  A session that has not ended is never without a holder, so it does not end on the way.

  Main statements: `Follows.reach` and `Follows.giveBack`, and for `Shows` in particular
  `reach_shows`, `reach_error_shows`, `attempt_shows`, `giveBack_shows`.
-/
import ClusterClient.Proofs.Course

namespace ClusterClient

open Run

/-! ## §1. What using a session changes. -/

namespace Session

/-- The session, without what every use of it changes. -/
def still (s : Session) : Session :=
  { s with server := s.server.map fun v => { v with lastUse := 0, dirty := false } }

/-- The session with so many holders more. -/
def heldBy (k : Nat) (s : Session) : Session := { s with holders := s.holders + k }

/-- The session with one holder less; it ends with the last one. -/
def released (s : Session) : Session :=
  if s.holders - 1 = 0 then { s with server := none, holders := s.holders - 1 }
  else { s with holders := s.holders - 1 }

/-- A session that has not ended has a holder. -/
def Kept (s : Session) : Prop := s.isEnded = false → 0 < s.holders

@[simp] theorem still_touch (now : Nat) (s : Session) : (s.touch now).still = s.still := by
  obtain ⟨server, _⟩ := s
  cases server <;> rfl

@[simp] theorem still_markDirty (s : Session) : s.markDirty.still = s.still := by
  obtain ⟨server, _⟩ := s
  cases server <;> rfl

@[simp] theorem id?_still (s : Session) : s.still.id? = s.id? := by
  obtain ⟨server, _⟩ := s
  cases server <;> rfl

@[simp] theorem txnNumber_still (s : Session) : s.still.txnNumber = s.txnNumber := by
  obtain ⟨server, _⟩ := s
  cases server <;> rfl

@[simp] theorem isEnded_still (s : Session) : s.still.isEnded = s.isEnded := by
  obtain ⟨server, _⟩ := s
  cases server <;> rfl

@[simp] theorem still_still (s : Session) : s.still.still = s.still := by
  obtain ⟨server, _⟩ := s
  cases server <;> rfl

theorem still_released (s : Session) : s.released.still = s.still.released := by
  unfold released still
  split <;> rfl

theorem heldBy_comp (j k : Nat) : heldBy j ∘ heldBy k = heldBy (k + j) := by
  funext s
  simp only [heldBy, Function.comp, Nat.add_assoc]

/-- Of a kept session a further holder can let go. -/
theorem released_heldBy {s : Session} (h : s.Kept) (k : Nat) :
    (s.heldBy (k + 1)).released = s.heldBy k := by
  obtain ⟨server, transaction, implicit, timeout, holders⟩ := s
  unfold released
  split
  case isTrue hzero =>
    -- A kept session has a holder left, so this one has ended before.
    have hnone : server = none := by
      cases server with
      | none => rfl
      | some v =>
        have hpos : 0 < holders := h rfl
        have hlast : holders + (k + 1) - 1 = 0 := hzero
        omega
    rw [hnone]
    rfl
  case isFalse => rfl

/-- Using a session does not take its holders away. -/
theorem Kept.of_still {s s' : Session} (h : s.Kept) (hs : s'.still = s.still) : s'.Kept := by
  intro he
  rw [← isEnded_still, hs, isEnded_still] at he
  show 0 < s'.still.holders
  rw [hs]
  exact h he

/-- The session looks like another one, but for what every use of it changes, and it has so many
    holders more. -/
def Like (s₀ : Session) (k : Nat) (s : Session) : Prop := s₀.still = s.heldBy k

namespace Like

variable {s₀ s : Session} {k : Nat}

theorem id? (h : s₀.Like k s) : s₀.id? = s.id? := by
  rw [← id?_still, h]
  rfl

theorem txnNumber (h : s₀.Like k s) : s₀.txnNumber = s.txnNumber := by
  rw [← txnNumber_still, h]
  rfl

theorem isEnded (h : s₀.Like k s) : s₀.isEnded = s.isEnded := by
  rw [← isEnded_still, h]
  rfl

theorem transaction (h : s₀.Like k s) : s₀.transaction = s.transaction := by
  show s₀.still.transaction = (s.heldBy k).transaction
  rw [h]

theorem holders (h : s₀.Like k s) : s₀.holders = s.holders + k := by
  show s₀.still.holders = (s.heldBy k).holders
  rw [h]

theorem inTransaction (h : s₀.Like k s) : s₀.inTransaction = s.inTransaction :=
  congrArg Transaction.isActive h.transaction

end Like

end Session

/-! ## §2. The session of a context. -/

namespace SessionContext

@[simp] theorem session?_modify (x : SessionContext) (f : Session → Session) (c : Client) :
    x.session? (x.modify f c) = (x.session? c).map f := by
  obtain ⟨_ | id, _⟩ := x
  · rfl
  · simp [session?, modify, Client.modifySession]

theorem hold_eq_modify (x : SessionContext) (c : Client) :
    x.hold c = x.modify (Session.heldBy 1) c := by
  obtain ⟨_ | id, _⟩ := x <;> rfl

end SessionContext

/-- Two changes that agree on what is there. -/
theorem modify_congr {α : Type} {l : List α} {i : Nat} {f g : α → α}
    (h : ∀ a, l[i]? = some a → f a = g a) : l.modify i f = l.modify i g := by
  apply List.ext_getElem?
  intro j
  rw [List.getElem?_modify, List.getElem?_modify]
  cases ha : l[j]? with
  | none => rfl
  | some a =>
    by_cases hij : i = j
    · subst hij
      simp [h a ha]
    · simp [hij]

/-- What is in a list after a change of one entry was there, or it is that entry. -/
theorem mem_modify {α : Type} {l : List α} {i : Nat} {f : α → α} {b : α} (h : b ∈ l.modify i f) :
    b ∈ l ∨ ∃ a, l[i]? = some a ∧ b = f a := by
  obtain ⟨j, hj⟩ := List.mem_iff_getElem?.mp h
  rw [List.getElem?_modify] at hj
  obtain ⟨a, ha, rfl⟩ := Option.map_eq_some_iff.mp hj
  by_cases hij : i = j
  · subst hij
    exact .inr ⟨a, ha, by simp⟩
  · left
    simpa [hij] using List.mem_of_getElem? ha

/-- Two changes that agree on the entry that they change. -/
theorem modify_congr_of {α : Type} {l : List α} {i : Nat} {a : α} {f g : α → α}
    (ha : l[i]? = some a) (h : f a = g a) : l.modify i f = l.modify i g := by
  refine modify_congr fun a' ha' => ?_
  rw [ha] at ha'
  cases ha'
  exact h

/-- Letting go of a session takes away a holder and leaves the others as they are. -/
theorem Client.sessions_dropSession (c : Client) (id : SessionId) :
    (c.dropSession id).sessions = c.sessions.modify id Session.released := by
  unfold dropSession modifySession
  cases hs : c.sessions[id]? with
  | none =>
    simp only [List.getElem?_modify_eq, hs, Option.map_eq_map, Option.map_none]
    exact modify_congr fun a ha => by rw [hs] at ha; cases ha
  | some s =>
    simp only [List.getElem?_modify_eq, hs, Option.map_eq_map, Option.map_some]
    split
    case isTrue hzero =>
      -- The last one has let go, and the session ends unless it has ended before.
      unfold endSession modifySession
      simp only [List.getElem?_modify_eq, hs, Option.map_eq_map, Option.map_some]
      cases hv : s.server with
      | none =>
        refine modify_congr_of hs ?_
        simp only [Session.released, hzero, if_true, hv]
      | some v =>
        simp only [List.modify_modify_eq]
        refine modify_congr_of hs ?_
        simp only [Session.released, hzero, if_true, Function.comp]
    case isFalse hpos =>
      refine modify_congr_of hs ?_
      simp only [Session.released, hpos, if_false]

theorem SessionContext.session?_letGo (x : SessionContext) (c : Client) :
    x.session? (x.letGo c) = (x.session? c).map Session.released := by
  obtain ⟨_ | id, _⟩ := x
  · rfl
  · simp [session?, letGo, Client.sessions_dropSession]

/-! ## §3. How the session looks. -/

/-- The session of the context looks like this one, but for what every use of it changes, and it
    has so many holders more. -/
def Shows (x : SessionContext) (c : Client) (k : Nat) (o : Option Session) : Prop :=
  (x.session? c).map Session.still = o.map (Session.heldBy k)

/-- What has not ended has a holder. -/
def AllKept (o : Option Session) : Prop := ∀ s, o = some s → s.Kept

/-- How the session of a context looks to itself. -/
theorem Shows.self (x : SessionContext) (c : Client) :
    Shows x c 0 ((x.session? c).map Session.still) := by
  unfold Shows
  rw [Option.map_map]
  rfl

theorem Shows.of_found {x : SessionContext} {c : Client} {s : Session}
    (found : x.session? c = some s) : Shows x c 0 (some s.still) := by
  have hself := Shows.self x c
  rwa [found, Option.map_some] at hself

namespace Shows

variable {α : Type} {x : SessionContext} {c c' : Client} {k : Nat} {o : Option Session}

/-- There is a session in both places or in neither. -/
theorem cases (h : Shows x c k o) :
    (x.session? c = none ∧ o = none) ∨
      ∃ s₀ s, x.session? c = some s₀ ∧ o = some s ∧ s₀.Like k s := by
  unfold Shows at h
  cases hs : x.session? c with
  | none =>
    rw [hs] at h
    exact .inl ⟨rfl, Option.map_eq_none_iff.mp h.symm⟩
  | some s₀ =>
    rw [hs] at h
    obtain ⟨s, ho, hs'⟩ := Option.map_eq_some_iff.mp h.symm
    exact .inr ⟨s₀, s, rfl, ho, hs'.symm⟩

theorem exists_like {s : Session} (h : Shows x c k (some s)) :
    ∃ s₀, x.session? c = some s₀ ∧ s₀.Like k s := by
  obtain ⟨-, hnone⟩ | ⟨s₀, _, hs, hsome, hlike⟩ := h.cases
  · cases hnone
  · cases hsome
    exact ⟨s₀, hs, hlike⟩

theorem same (h : Shows x c k o) (hs : c.SameSessions c') : Shows x c' k o := by
  unfold Shows SessionContext.session? at *
  rw [hs.sessions]
  exact h

theorem modify {f g : Session → Session} (h : Shows x c k o)
    (hf : ∀ s, (f s).still = g s.still) :
    (x.session? (x.modify f c)).map Session.still = (o.map (Session.heldBy k)).map g := by
  have hfg : Session.still ∘ f = g ∘ Session.still := funext hf
  rw [SessionContext.session?_modify, Option.map_map, hfg, ← Option.map_map, h]

/-- A change that every use may make. -/
theorem use {f : Session → Session} (h : Shows x c k o) (hf : ∀ s, (f s).still = s.still) :
    Shows x (x.modify f c) k o := by
  have hm := h.modify (g := id) hf
  rwa [Option.map_id] at hm

theorem marked (h : Shows x c k o) (result : Except Error α) :
    Shows x (x.marked result c) k o := by
  obtain hc | hc := x.marked_eq result c <;> rw [hc]
  · exact h
  · exact h.use Session.still_markDirty

/-- One more holder. -/
theorem held (h : Shows x c k o) : Shows x (x.hold c) (k + 1) o := by
  have hm := h.modify (f := Session.heldBy 1) (g := Session.heldBy 1) fun _ => rfl
  rwa [← SessionContext.hold_eq_modify, Option.map_map, Session.heldBy_comp] at hm

/-- One holder less of a session that is kept. -/
theorem letGo (h : Shows x c (k + 1) o) (ho : AllKept o) : Shows x (x.letGo c) k o := by
  -- Whether the session ends is told by its holders, which its use does not change.
  have hcomm : Session.still ∘ Session.released = Session.released ∘ Session.still :=
    funext Session.still_released
  unfold Shows
  rw [SessionContext.session?_letGo, Option.map_map, hcomm, ← Option.map_map, h]
  cases o with
  | none => rfl
  | some s => exact congrArg some (Session.released_heldBy (ho s rfl) k)

end Shows

/-! ## §4. The session of a source. -/

/-- What may be said of a client when the session of the context has so many holders more: it does
    not depend on what goes on beside the sessions, nor on when the session was used last. -/
structure Follows (x : SessionContext) (P : Nat → Client → Prop) : Prop where
  same : ∀ {k c c'}, P k c → c.SameSessions c' → P k c'
  touch : ∀ {k c} now, P k c → P k (x.modify (·.touch now) c)
  hold : ∀ {k c}, P k c → P (k + 1) (x.hold c)

/-- How the session looks can be followed. -/
theorem follows_shows (x : SessionContext) (o : Option Session) :
    Follows x fun k c => Shows x c k o where
  same h hs := h.same hs
  touch now h := h.use (Session.still_touch now)
  hold h := h.held

namespace Follows

variable {P : Nat → Client → Prop} {b : Binding} {intent : Intent} {kept : Source}
variable {lease : Lease} {e : Error} {r r' : Run} {k : Nat}

section Leasing

variable (f : Follows b.context P) (h : P k r.client)
include f h

theorem leaseSource {criteria : Criteria} (hs : (b.leaseSource criteria).on r = (.ok kept, r')) :
    P (k + 1) r'.client := by
  unfold Binding.leaseSource at hs
  rw [Exec.on_bind] at hs
  have hq := select_quiet criteria r
  generalize (select criteria).on r = went at hs hq
  obtain ⟨e | selected, r₁⟩ := went
  · cases hs
  -- The session is touched and then held by the source.
  · have hr := (Prod.mk.inj hs).2
    rw [← hr]
    exact f.hold (f.touch r₁.client.now (f.same h hq.toSameSessions))

theorem leaseSource_error {criteria : Criteria}
    (hs : (b.leaseSource criteria).on r = (.error e, r')) : P k r'.client := by
  unfold Binding.leaseSource at hs
  rw [Exec.on_bind] at hs
  have hq := select_quiet criteria r
  generalize (select criteria).on r = went at hs hq
  obtain ⟨e' | selected, r₁⟩ := went
  · have hr := (Prod.mk.inj hs).2
    rw [← hr]
    exact f.same h hq.toSameSessions
  · cases hs

theorem source (hs : (b.source intent).on r = (.ok kept, r')) : P (k + 1) r'.client := by
  cases intent with
  | write => exact f.leaseSource h hs
  | read =>
    simp only [Binding.source, Exec.on_bind, Exec.on_lift, on_currentClient] at hs
    split at hs
    · cases hs
    · exact f.leaseSource h hs

theorem source_error (hs : (b.source intent).on r = (.error e, r')) : P k r'.client := by
  cases intent with
  | write => exact f.leaseSource_error h hs
  | read =>
    simp only [Binding.source, Exec.on_bind, Exec.on_lift, on_currentClient] at hs
    split at hs
    · cases hs
      exact h
    · exact f.leaseSource_error h hs

/-- Until a connection is reached. -/
theorem reach (hr : Reached b intent r kept lease r') : P (k + 1) r'.client := by
  obtain ⟨r₁, hs, hc⟩ := hr
  have hq := checkOut_quiet kept.selected.member r₁
  rw [show checkOut kept.selected.member = kept.connection from rfl, hc] at hq
  exact f.same (f.source h hs) hq.toSameSessions

end Leasing

section Releasing

variable (back : ∀ {k c}, P (k + 1) c → P k (b.context.letGo c)) (f : Follows b.context P)
include back f

theorem release (hx : kept.context = b.context) (h : P (k + 1) r.client) :
    P k (kept.release.on r).2.client := by
  have hq := release_quiet kept.selected.member r
  rw [← hx] at back
  exact back (f.same h hq.toSameSessions)

theorem reach_error (h : P k r.client)
    (hr : (ClusterClient.reach b intent).on r = (.error e, r')) : P k r'.client := by
  obtain hs | ⟨source, r₁, r₂, hs, hc, rfl⟩ := (reach_error_iff b intent r r' e).mp hr
  · exact f.source_error h hs
  · have hq := checkOut_quiet source.selected.member r₁
    rw [show checkOut source.selected.member = source.connection from rfl, hc] at hq
    exact f.release back (source_context hs) (f.same (f.source h hs) hq.toSameSessions)

/-- After connection and server were given back. -/
theorem giveBack (hx : kept.context = b.context) (h : P (k + 1) r.client) :
    P k ((ClusterClient.giveBack kept lease).on r).2.client :=
  f.release back hx (f.same h (checkIn_quiet lease r).toSameSessions)

end Releasing

end Follows

/-! ## §5. Between reaching a connection and giving it back. -/

section Following

variable {α : Type} {b : Binding} {intent : Intent} {source : Source} {lease : Lease} {e : Error}
variable {x : SessionContext} {r r' : Run} {k : Nat} {o : Option Session}

theorem reach_shows (h : Shows b.context r.client k o)
    (hr : Reached b intent r source lease r') : Shows b.context r'.client (k + 1) o :=
  (follows_shows b.context o).reach h hr

theorem reach_error_shows (h : Shows b.context r.client k o) (ho : AllKept o)
    (hr : (reach b intent).on r = (.error e, r')) : Shows b.context r'.client k o :=
  (follows_shows b.context o).reach_error (fun h => h.letGo ho) h hr

theorem attempt_shows {command : Command} {interpret : Interpretation α}
    {result : Except Error α} (hx : source.context = x) (h : Shows x r.client k o)
    (ha : (attempt source lease command interpret).on r = (result, r')) :
    Shows x r'.client k o := by
  subst hx
  rw [attempt_on] at ha
  have hr := (Prod.mk.inj ha).2
  obtain ⟨-, hs⟩ := send_on lease command source.context r
  rw [hr] at hs
  exact (h.marked _).same hs

theorem emit_shows (h : Shows x r.client k o) (event : Event) :
    Shows x ((emit event).on r).2.client k o :=
  h

theorem giveBack_shows (hx : source.context = b.context) (h : Shows b.context r.client (k + 1) o)
    (ho : AllKept o) : Shows b.context ((giveBack source lease).on r).2.client k o :=
  (follows_shows b.context o).giveBack (fun h => h.letGo ho) hx h

end Following

end ClusterClient
