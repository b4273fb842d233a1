/-
  ClusterClient.Proofs.Holders — no session lasts without a holder.

  Callers, bindings and sources hold sessions, and a session ends when the last of them lets go of
  it.  `Client.Held` says that a session that has not ended has a holder.  Each change of the
  sessions keeps this, and everything else leaves the sessions alone, so every action of the
  client keeps it too.  It is what lets a session be followed through an operation: what the
  operation takes and gives back is never the last holder.

  Main statements: `Client.Change.held`, `Evolves.held`.
-/
import ClusterClient.Proofs.Actions
import ClusterClient.Proofs.Effect

namespace ClusterClient

open Run

/-! ## §1. Changes of the sessions. -/

theorem SessionContext.mem_of_session? (x : SessionContext) {c : Client} {s : Session}
    (h : x.session? c = some s) : s ∈ c.sessions := by
  obtain ⟨_ | id, _⟩ := x
  · cases h
  · exact List.mem_of_getElem? h

/-- What has not ended has a holder. -/
def Client.Held (c : Client) : Prop := ∀ s ∈ c.sessions, s.Kept

namespace Client.Held

variable {c c' : Client}

theorem same (h : c.Held) (hs : c.SameSessions c') : c'.Held := by
  intro s hmem
  rw [hs.sessions] at hmem
  exact h s hmem

/-- A change of one session that does not leave it without holders. -/
theorem modify_sessions (h : c.Held) {id : SessionId} {f : Session → Session}
    (hf : ∀ s, c.sessions[id]? = some s → s.Kept → (f s).Kept)
    (hs : c'.sessions = c.sessions.modify id f) : c'.Held := by
  intro s hmem
  rw [hs] at hmem
  obtain hmem | ⟨s₀, hs₀, rfl⟩ := mem_modify hmem
  · exact h s hmem
  · exact hf s₀ hs₀ (h s₀ (List.mem_of_getElem? hs₀))

theorem dropSession (h : c.Held) (id : SessionId) : (c.dropSession id).Held := by
  refine h.modify_sessions (fun s _ _ => ?_) (c.sessions_dropSession id)
  unfold Session.released
  -- The last holder ends the session, and an ended one needs none.
  split
  case isTrue => exact nofun
  case isFalse hpos => exact fun _ => Nat.pos_of_ne_zero hpos

theorem endSession (h : c.Held) (id : SessionId) : (c.endSession id).Held := by
  unfold Client.endSession
  split
  · exact h
  · split
    · exact h
    · exact h.modify_sessions (f := fun s => { s with server := none }) (fun _ _ _ => nofun) rfl

theorem openSession (h : c.Held) (timeout : Nat) (implicit : Bool) :
    (c.openSession timeout implicit).2.Held := by
  have hnew : ∀ server, ∀ s ∈ c.sessions ++ [Session.start server timeout implicit], s.Kept := by
    intro server s hmem
    rcases List.mem_append.mp hmem with hmem | hmem
    · exact h s hmem
    · rw [List.mem_singleton.mp hmem]
      exact fun _ => Nat.one_pos
  unfold Client.openSession
  -- A server session that waited is used again, or a new one is made; both come to the same.
  rcases ServerSession.Waiting.checkOut timeout c.now c.waiting with ⟨_ | server, waiting⟩
  · exact hnew _
  · exact hnew server

end Client.Held

/-! ## §2. Wherever changes lead. -/

/-- No change of a session that lasts takes its holders away. -/
theorem Session.Change.kept {now : Nat} {free : Prop} {s s' : Session}
    (h : Session.Change now free s s') (hs : s.Kept) : s'.Kept := by
  cases h with
  | held => exact fun _ => Nat.succ_pos s.holders
  | touched => exact hs.of_still (Session.still_touch now s)
  | soiled => exact hs.of_still (Session.still_markDirty s)
  | progressed | marked => exact hs
  | advanced ha =>
    obtain ⟨open_, -, rfl⟩ := Session.eq_of_advance ha
    exact fun _ => hs open_
  | started hstart =>
    obtain ⟨open_, rfl⟩ := Session.startTransaction_eq hstart
    exact fun _ => hs open_

theorem Client.Change.held {may : SessionId → Prop} {c c' : Client}
    (hc : Client.Change may c c') (h : c.Held) : c'.Held := by
  cases hc with
  | described s => exact h.same (c.sameSessions_update s)
  | withdrawn | elapsed | member => exact h.same ⟨rfl, rfl, rfl⟩
  | session hs => exact h.modify_sessions (fun s hmem => (hs s hmem).kept) rfl
  | opened timeout implicit => exact h.openSession timeout implicit
  | ended id => exact h.endSession id
  | dropped id => exact h.dropSession id

/-- The invariant, along an action. -/
def Run.Held (r : Run) : Prop := r.client.Held

/-- The session of a context is followed without what every use of it changes. -/
theorem Run.Held.kept_still {r : Run} (h : r.Held) {x : SessionContext} {s : Session}
    (found : x.session? r.client = some s) : s.still.Kept :=
  (h s (x.mem_of_session? found)).of_still s.still_still

theorem Evolves.held {may : SessionId → Prop} {r r' : Run} (h : Evolves may r r') (hr : r.Held) :
    r'.Held :=
  h.invariant Client.Change.held hr

end ClusterClient
