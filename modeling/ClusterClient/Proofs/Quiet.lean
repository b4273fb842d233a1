/-
  ClusterClient.Proofs.Quiet — what goes on beside the sessions.

  Descriptions arrive, servers are selected, leased and released, connections are lent and taken
  back: all of it leaves the sessions as they are and sends nothing.  So whoever follows a session
  through an operation needs to look only at the few actions that are left — a source holds the
  session and lets it go, a failure of the network leaves a mark on it, a command takes its
  number.

  Main statements: `select_quiet`, `checkOut_quiet`, `checkIn_quiet` (one for each kind of
  action), `source_silent` (nothing is sent until there is a connection), `send_on` and
  `attempt_on` (the one action that sends).
-/
import ClusterClient.Proofs.Selecting

namespace ClusterClient

open Run

/-! ## §1. Quiet changes. -/

/-- The same sessions, and the same server sessions to make new ones of. -/
structure Client.SameSessions (c c' : Client) : Prop where
  sessions : c'.sessions = c.sessions
  waiting : c'.waiting = c.waiting
  nextIdentifier : c'.nextIdentifier = c.nextIdentifier

theorem Client.SameSessions.trans {c c' c'' : Client} (h : c.SameSessions c')
    (h' : c'.SameSessions c'') : c.SameSessions c'' :=
  ⟨h'.sessions.trans h.sessions, h'.waiting.trans h.waiting,
    h'.nextIdentifier.trans h.nextIdentifier⟩

/-- The sessions are the same and nothing was sent. -/
structure Quiet (r r' : Run) : Prop extends r.client.SameSessions r'.client where
  sent : r'.sent = r.sent

instance : IsPreorder Run Quiet where
  refl _ := ⟨⟨rfl, rfl, rfl⟩, rfl⟩
  trans _ _ _ h h' := ⟨h.toSameSessions.trans h'.toSameSessions, h'.sent.trans h.sent⟩

theorem Quiet.trans {r r' r'' : Run} (h : Quiet r r') (h' : Quiet r' r'') : Quiet r r'' :=
  trans_of Quiet h h'

namespace Client

theorem sameSessions_ensureMember (c : Client) (a : Address) :
    c.SameSessions (c.ensureMember a) := by
  unfold ensureMember
  cases c.known.value? a <;> exact ⟨rfl, rfl, rfl⟩

theorem sameSessions_update (c : Client) (s : ServerDescription) :
    c.SameSessions (c.update s) :=
  have h := sameSessions_ensureMember
    { c with cluster := c.cluster.update s, version := c.version + 1 } s.address
  ⟨h.sessions, h.waiting, h.nextIdentifier⟩

end Client

/-- A quiet change of the client alone. -/
theorem onClient_quiet {f : Client → Client} (h : ∀ c : Client, c.SameSessions (f c)) :
    (onClient f).Keeps Quiet :=
  fun r => ⟨h r.client, rfl⟩

/-! ## §2. Quiet actions. -/

theorem emit_quiet (e : Event) : (emit e).Keeps Quiet := fun _ => ⟨⟨rfl, rfl, rfl⟩, rfl⟩

theorem happen_quiet (h : Happening) : (happen h).Keeps Quiet := by
  intro r
  cases h with
  -- A description may bring a member into being; the others change what is there.
  | described s => exact ⟨r.client.sameSessions_update s, rfl⟩
  | withdrawn a | unreachable a e | reachable a | elapsed n => exact ⟨⟨rfl, rfl, rfl⟩, rfl⟩

theorem happenAll_quiet (happenings : List Happening) : (happenAll happenings).Keeps Quiet :=
  .happenAll happen_quiet happenings

theorem beginWait_quiet : beginWait.Keeps Quiet := fun _ => ⟨⟨rfl, rfl, rfl⟩, rfl⟩

theorem release_quiet (id : MemberId) : (release id).Keeps Quiet :=
  onClient_quiet fun _ => ⟨rfl, rfl, rfl⟩

/-- Selecting a server leaves the sessions alone and sends nothing. -/
theorem selecting_quiet : Selecting Quiet fun _ => Quiet where
  emit := emit_quiet
  beginWait := beginWait_quiet
  happen := happen_quiet
  leasing := .constant release_quiet
  conclude criteria s := .of_keeps
    (.conclude emit_quiet (fun _ => onClient_quiet fun _ => ⟨rfl, rfl, rfl⟩) criteria s)

theorem select_quiet (criteria : Criteria) : (select criteria).Keeps Quiet :=
  (selecting_quiet.select criteria).keeps

theorem sessionSupport_quiet : sessionSupport.Keeps Quiet := selecting_quiet.sessionSupport

theorem checkOut_quiet (id : MemberId) : (checkOut id).Keeps Quiet :=
  .checkOut emit_quiet beginWait_quiet happen_quiet fun _ _ _ => ⟨⟨rfl, rfl, rfl⟩, rfl⟩

theorem checkIn_quiet (lease : Lease) : (checkIn lease).Keeps Quiet :=
  .checkIn emit_quiet (onClient_quiet fun _ => ⟨rfl, rfl, rfl⟩)

/-! ## §3. Silent actions. -/

/-- Nothing was sent. -/
def Silent (r r' : Run) : Prop := r'.sent = r.sent

instance : IsPreorder Run Silent where
  refl _ := rfl
  trans _ _ _ h h' := Eq.trans h' h

theorem Exec.Keeps.silent {α : Type} {x : Exec α} (h : x.Keeps Quiet) : x.Keeps Silent :=
  fun r => (h r).sent

theorem Act.Keeps.silent {α : Type} {x : Act α} (h : x.Keeps Quiet) : x.Keeps Silent :=
  fun r => (h r).sent

theorem onClient_silent (f : Client → Client) : (onClient f).Keeps Silent := fun _ => rfl

theorem leaseSource_silent (b : Binding) (criteria : Criteria) :
    (b.leaseSource criteria).Keeps Silent :=
  .bind (select_quiet criteria).silent fun _ => .bind (.lift .currentClient) fun _ =>
    .bind (.lift (onClient_silent _)) fun _ => .bind (.lift (onClient_silent _)) fun _ => .pure _

theorem source_silent (b : Binding) (intent : Intent) : (b.source intent).Keeps Silent := by
  cases intent with
  | write => exact leaseSource_silent b .writable
  | read =>
    refine .bind (.lift .currentClient) fun c => ?_
    dsimp only
    split
    · exact .bind (.throw _) fun _ => leaseSource_silent b _
    · exact leaseSource_silent b _

theorem Source.release_silent (source : Source) : source.release.Keeps Silent :=
  .bind (release_quiet _).silent fun _ => onClient_silent _

/-! ## §4. Sending. -/

/-- What reaches the server when a command is sent in the context. -/
def transmission (lease : Lease) (command : Command) (x : SessionContext) (c : Client) :
    Transmission :=
  ⟨lease.description.address, lease.description.id,
    command.prepare (x.id? c) lease.description.kind, x.session? c⟩

/-- The client after a command with that outcome: a failure of the network leaves its mark on the
    session. -/
def SessionContext.marked {α : Type} (x : SessionContext) (result : Except Error α) (c : Client) :
    Client :=
  match result with
  | .error e => if e.isNetwork then x.modify Session.markDirty c else c
  | .ok _ => c

theorem SessionContext.marked_eq {α : Type} (x : SessionContext) (result : Except Error α)
    (c : Client) : x.marked result c = c ∨ x.marked result c = x.modify Session.markDirty c := by
  cases result with
  | ok a => exact .inl rfl
  | error e =>
    by_cases h : e.isNetwork = true
    · exact .inr (if_pos h)
    · exact .inl (if_neg h)

/-- The mark is left on the same session. -/
theorem Client.SameSessions.marked {c c' : Client} (h : c.SameSessions c') {α : Type}
    (x : SessionContext) (result : Except Error α) :
    (x.marked result c).SameSessions (x.marked result c') := by
  cases result with
  | ok a => exact h
  | error e =>
    -- Both clients are marked or none is, as the failure tells.
    simp only [SessionContext.marked]
    split
    · obtain ⟨_ | id, _⟩ := x
      · exact h
      · exact ⟨congrArg (·.modify id Session.markDirty) h.sessions, h.waiting, h.nextIdentifier⟩
    · exact h

/-- The deployment is told of the command; all else is quiet. -/
theorem exchange_on (lease : Lease) (command : Command) (session : Option Session) (r : Run) :
    Quiet { r with sent := r.sent ++
        [⟨lease.description.address, lease.description.id, command, session⟩] }
      ((exchange lease command session).on r).2 := by
  have started : Quiet { r with sent := r.sent ++
      [⟨lease.description.address, lease.description.id, command, session⟩] }
      { r with
        sent := r.sent ++ [⟨lease.description.address, lease.description.id, command, session⟩]
        deployment := (r.deployment.nextReply lease.description.address).2 } :=
    ⟨⟨rfl, rfl, rfl⟩, rfl⟩
  -- What the reply brings about happens after the command has been received.
  exact started.trans ((happenAll_quiet _ _).trans (happenAll_quiet _ _))

/-- What is done about an outcome is quiet but for the mark. -/
theorem follow_on (lease : Lease) (name : String) (x : SessionContext)
    (result : Except Error Document) (r : Run) :
    ((follow lease name x result).on r).1 = result ∧
      ((follow lease name x result).on r).2.sent = r.sent ∧
      (x.marked result r.client).SameSessions ((follow lease name x result).on r).2.client := by
  cases result with
  | ok reply => exact ⟨rfl, rfl, rfl, rfl, rfl⟩
  | error e =>
    by_cases h : e.isNetwork = true
    · simp only [follow, SessionContext.marked, if_pos h]
      refine ⟨rfl, rfl, ?_⟩
      cases x with
      | mk session retryWrites => cases session <;> exact ⟨rfl, rfl, rfl⟩
    · simp only [follow, SessionContext.marked, if_neg h]
      exact ⟨rfl, rfl, rfl, rfl, rfl⟩

/-- One command reaches the server, and nothing happens to the sessions but the mark. -/
theorem send_on (lease : Lease) (command : Command) (x : SessionContext) (r : Run) :
    ((send lease command x).on r).2.sent = r.sent ++ [transmission lease command x r.client] ∧
      (x.marked ((send lease command x).on r).1 r.client).SameSessions
        ((send lease command x).on r).2.client := by
  simp only [send, Exec.on_bind, Exec.on_lift, on_currentClient, on_emit, on_observe]
  generalize hp : command.prepare (x.id? r.client) lease.description.kind = prepared
  have hq := exchange_on lease prepared (x.session? r.client)
    { r with events := r.events ++
        [.commandStarted prepared lease.description.address lease.description.id] }
  generalize (exchange lease prepared (x.session? r.client)).on _ = went at hq ⊢
  -- The mark is left after the exchange, but on the sessions as they were before it.
  obtain ⟨hresult, hsent, hsessions⟩ := follow_on lease prepared.name x went.1 went.2
  rw [hresult, hsent, hq.sent]
  exact ⟨by simp [transmission, hp], (hq.toSameSessions.marked x went.1).trans hsessions⟩

/-- An attempt is the sending of its command, seen through its interpretation. -/
theorem attempt_on {α : Type} (source : Source) (lease : Lease) (command : Command)
    (interpret : Interpretation α) (r : Run) :
    (attempt source lease command interpret).on r =
      (((send lease command source.context).on r).1 >>=
          fun reply => interpret reply lease.description.address,
        ((send lease command source.context).on r).2) := by
  unfold attempt
  rw [Exec.on_bind]
  rcases (send lease command source.context).on r with ⟨e | reply, r'⟩ <;> rfl

end ClusterClient
