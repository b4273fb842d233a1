/-
  ClusterClient.Proofs.Changes — all that can happen to a client.

  Whatever a client does, it changes in small steps of a few kinds: a description is published or
  withdrawn, time goes by, one member is leased or lends a connection, one session is used, opened
  or ended.  `Client.Change` lists them, and `Evolves` is a chain of them.  So an invariant of
  clients is shown for each kind of change, once, and holds wherever a chain may have led.

  Two kinds of change are special: taking a number from a session, and making a transaction of it
  active.  A chain says for which sessions (`may`) it contains these.

  Main statement: `Evolves.invariant`.
-/
import ClusterClient.Proofs.Keeping
import Mathlib.Logic.Relation

namespace ClusterClient

open Run

variable {may : SessionId → Prop}

/-! ## §1. Changes. -/

/-- What can happen to a member at a time. -/
inductive Member.Change : Member → Member → Prop where
  | leased (m : Member) : Change m { m with operations := m.operations + 1 }
  | unleased (m : Member) : Change m { m with operations := m.operations - 1 }
  | lent (m : Member) (establish : Pool.Establish) :
    Change m { m with pool := (m.pool.checkOut establish).pool }
  | broke (m : Member) (id : Nat) : Change m { m with pool := m.pool.markBroken id }
  | returned (m : Member) (id : Nat) : Change m { m with pool := m.pool.checkIn id }

/-- What can happen to a session at a time, besides its end; `free` says whether a number may be
    taken from it and a transaction of it made active. -/
inductive Session.Change (now : Nat) (free : Prop) : Session → Session → Prop where
  | held (s : Session) : Change now free s { s with holders := s.holders + 1 }
  | touched (s : Session) : Change now free s (s.touch now)
  | soiled (s : Session) : Change now free s s.markDirty
  | progressed (s : Session) : Change now free s s.markInProgress
  | marked (s : Session) (state : TransactionState)
    (h : (Transaction.isActive ⟨state, none⟩) = true → free) : Change now free s (s.markAs state)
  | advanced {s s' : Session} {n : Nat} (h : s.advance = some (n, s')) (hf : free) :
    Change now free s s'
  | started {s s' : Session} {options : Option TransactionOptions}
    (h : s.startTransaction options = .ok s') (hf : free) : Change now free s s'

/-- What can happen to a client at a time. -/
inductive Client.Change (may : SessionId → Prop) : Client → Client → Prop where
  | described (c : Client) (s : ServerDescription) : Change may c (c.update s)
  | withdrawn (c : Client) (a : Address) : Change may c (c.remove a)
  | elapsed (c : Client) (millis : Nat) : Change may c { c with now := c.now + millis }
  | member {c : Client} {id : MemberId} {f : Member → Member}
    (h : ∀ m, c.members[id]? = some m → m.Change (f m)) : Change may c (c.modifyMember id f)
  | session {c : Client} {id : SessionId} {f : Session → Session}
    (h : ∀ s, c.sessions[id]? = some s → Session.Change c.now (may id) s (f s)) :
    Change may c (c.modifySession id f)
  | opened (c : Client) (timeout : Nat) (implicit : Bool) :
    Change may c (c.openSession timeout implicit).2
  | ended (c : Client) (id : SessionId) : Change may c (c.endSession id)
  | dropped (c : Client) (id : SessionId) : Change may c (c.dropSession id)

/-- The client of the second run comes of that of the first by such changes. -/
def Evolves (may : SessionId → Prop) (r r' : Run) : Prop :=
  Relation.ReflTransGen (Client.Change may) r.client r'.client

instance (may : SessionId → Prop) : IsPreorder Run (Evolves may) where
  refl _ := .refl
  trans _ _ _ h h' := Relation.ReflTransGen.trans h h'

/-- No number is taken. -/
abbrev nowhere : SessionId → Prop := fun _ => False

/-- Numbers may be taken from every session. -/
abbrev anywhere : SessionId → Prop := fun _ => True

/-- Numbers may be taken from the session of the context. -/
def SessionContext.own (x : SessionContext) (id : SessionId) : Prop := x.session = some id

theorem Session.Change.mono {now : Nat} {free free' : Prop} {s s' : Session} (h : free → free')
    (hs : Session.Change now free s s') : Session.Change now free' s s' := by
  cases hs with
  | held => exact .held s
  | touched => exact .touched s
  | soiled => exact .soiled s
  | progressed => exact .progressed s
  | marked state ha => exact .marked s state fun hs => h (ha hs)
  | advanced hn hf => exact .advanced hn (h hf)
  | started hs hf => exact .started hs (h hf)

/-- More sessions may be allowed. -/
theorem Client.Change.mono {may' : SessionId → Prop} {c c' : Client} (h : ∀ id, may id → may' id)
    (hc : Client.Change may c c') : Client.Change may' c c' := by
  cases hc with
  | described s => exact .described c s
  | withdrawn a => exact .withdrawn c a
  | elapsed n => exact .elapsed c n
  | member hm => exact .member hm
  | @session id f hs => exact .session fun s hmem => (hs s hmem).mono (h id)
  | opened timeout implicit => exact .opened c timeout implicit
  | ended id => exact .ended c id
  | dropped id => exact .dropped c id

namespace Evolves

variable {r r' : Run}

/-- What every change keeps holds wherever the changes lead. -/
theorem invariant {P : Client → Prop} (hr : Evolves may r r')
    (keeps : ∀ {c c' : Client}, Client.Change may c c' → P c → P c') (h : P r.client) :
    P r'.client := by
  -- Induction on the chain, one change at its end at a time.
  have hchain : ∀ {c : Client}, Relation.ReflTransGen (Client.Change may) r.client c → P c := by
    intro c hc
    induction hc with
    | refl => exact h
    | tail _ hchange ih => exact keeps hchange ih
  exact hchain hr

end Evolves

/-- What leaves the client alone. -/
theorem evolves_of_client_eq {r r' : Run} (h : r'.client = r.client) : Evolves may r r' := by
  unfold Evolves
  rw [h]

/-! ## §2. Changes of the sessions. -/

/-- The same servers, with the same counts and pools. -/
structure Client.SameServers (c c' : Client) : Prop where
  cluster : c'.cluster = c.cluster
  known : c'.known = c.known
  members : c'.members = c.members

namespace Client

theorem sameServers_openSession (c : Client) (timeout : Nat) (implicit : Bool) :
    c.SameServers (c.openSession timeout implicit).2 := ⟨rfl, rfl, rfl⟩

theorem sameServers_endSession (c : Client) (id : SessionId) :
    c.SameServers (c.endSession id) := by
  unfold endSession
  split
  · exact ⟨rfl, rfl, rfl⟩
  · split <;> exact ⟨rfl, rfl, rfl⟩

theorem sameServers_dropSession (c : Client) (id : SessionId) :
    c.SameServers (c.dropSession id) := by
  have modified : c.SameServers (c.modifySession id fun s => { s with holders := s.holders - 1 }) :=
    ⟨rfl, rfl, rfl⟩
  unfold dropSession
  dsimp only
  split
  · split
    -- The last holder ends the session.
    · have ended := sameServers_endSession
        (c.modifySession id fun s => { s with holders := s.holders - 1 }) id
      exact ⟨ended.cluster.trans modified.cluster, ended.known.trans modified.known,
        ended.members.trans modified.members⟩
    · exact modified
  · exact modified

/-! ## §3. The table of sessions. -/

/-- A session that ends stays in its place. -/
theorem length_endSession (c : Client) (id : SessionId) :
    (c.endSession id).sessions.length = c.sessions.length := by
  unfold endSession modifySession
  split
  · rfl
  · split
    · rfl
    · exact List.length_modify ..

theorem length_dropSession (c : Client) (id : SessionId) :
    (c.dropSession id).sessions.length = c.sessions.length := by
  have modified : (c.modifySession id fun s => { s with holders := s.holders - 1 }).sessions.length
      = c.sessions.length := List.length_modify ..
  unfold dropSession
  dsimp only
  split
  · split
    · exact (length_endSession _ id).trans modified
    · exact modified
  · exact modified

end Client

end ClusterClient
