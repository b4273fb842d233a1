/-
  ClusterClient.Run — a client at work against a deployment.

  A run is the client, the deployment, and the record of what was sent and told. Actions change
  the run; an action that fails keeps the changes it has made, and `ensuring` lets a cleanup
  follow whatever happens.
-/
import ClusterClient.Deployment
import ClusterClient.Event
import ClusterClient.Reply
import ClusterClient.Search

namespace ClusterClient

/-! ## §1. Runs and actions -/

/-- A command that reached a server. -/
structure Transmission where
  server : Address
  connection : Nat
  command : Command
  /-- The session that it was sent in, as the session was at that moment. -/
  session : Option Session

/-- A client at work. -/
structure Run where
  client : Client
  deployment : Deployment
  /-- What reached the servers, in order. -/
  sent : List Transmission
  /-- What the client told, in order. -/
  events : List Event

/-- An action that cannot fail. -/
abbrev Act := StateM Run

/-- An action that may fail. -/
abbrev Exec := ExceptT Error Act

/-- What comes of an action in a run, and the run after it. -/
def Act.on {α : Type} (x : Act α) (r : Run) : α × Run := StateT.run x r

/-- What comes of an action that may fail, and the run after it. -/
def Exec.on {α : Type} (x : Exec α) (r : Run) : Except Error α × Run := Act.on x.run r

section Equations

variable {α β : Type} (r : Run)

@[simp] theorem Act.on_pure (a : α) : Act.on (pure a) r = (a, r) := rfl

@[simp] theorem Act.on_bind (x : Act α) (f : α → Act β) :
    Act.on (x >>= f) r = (f (x.on r).1).on (x.on r).2 := rfl

@[simp] theorem Act.on_modify (f : Run → Run) : Act.on (modify f) r = ((), f r) := rfl

@[simp] theorem Act.on_get : Act.on get r = (r, r) := rfl

@[simp] theorem Act.on_ite (c : Prop) [Decidable c] (x y : Act α) :
    Act.on (if c then x else y) r = if c then x.on r else y.on r := by
  split <;> rfl

@[simp] theorem Exec.on_pure (a : α) : Exec.on (pure a) r = (.ok a, r) := rfl

@[simp] theorem Exec.on_throw (e : Error) : Exec.on (throw e : Exec α) r = (.error e, r) := rfl

@[simp] theorem Exec.on_lift (x : Act α) :
    Exec.on (liftM x) r = (.ok (x.on r).1, (x.on r).2) := rfl

@[simp] theorem Exec.on_get : Exec.on get r = (.ok r, r) := rfl

@[simp] theorem Exec.on_modify (f : Run → Run) : Exec.on (modify f) r = (.ok (), f r) := rfl

@[simp] theorem Exec.on_ite (c : Prop) [Decidable c] (x y : Exec α) :
    Exec.on (if c then x else y) r = if c then x.on r else y.on r := by
  split <;> rfl

/-- What fails is not gone on with. -/
theorem Exec.on_bind (x : Exec α) (f : α → Exec β) :
    Exec.on (x >>= f) r =
      match x.on r with
      | (.ok a, r') => (f a).on r'
      | (.error e, r') => (.error e, r') := by
  show Act.on (ExceptT.bindCont f (x.on r).1) (x.on r).2 = _
  rcases x.on r with ⟨_ | _, _⟩ <;> rfl

/-- What is made of a result changes nothing else. -/
theorem Exec.on_bind_pure (x : Exec α) (f : α → β) :
    Exec.on (x >>= fun a => pure (f a)) r = ((x.on r).1.map f, (x.on r).2) := by
  rw [Exec.on_bind]
  rcases x.on r with ⟨_ | _, _⟩ <;> rfl

end Equations

namespace Run

/-- A run that has just begun. -/
def begin (c : Client) : Run := ⟨c, .silent, [], []⟩

/-- Changes the client. -/
def onClient (f : Client → Client) : Act Unit :=
  modify fun r => { r with client := f r.client }

/-- What the client is now. -/
def currentClient : Act Client := return (← get).client

/-- Tells of an event. -/
def emit (e : Event) : Act Unit :=
  modify fun r => { r with events := r.events ++ [e] }

/-- Runs an action that may fail and looks at what came of it. -/
def observe {α : Type} (x : Exec α) : Exec (Except Error α) := ExceptT.lift x.run

/-- The action with that outcome. -/
def settle {α : Type} (result : Except Error α) : Exec α := ExceptT.mk (pure result)

/-- Runs the cleanup after the action, whatever came of it. -/
def ensuring {α : Type} (x : Exec α) (cleanup : Act Unit) : Exec α :=
  ExceptT.mk do
    let result ← x.run
    cleanup
    return result

section Equations

variable {α : Type} (r : Run)

@[simp] theorem on_onClient (f : Client → Client) :
    (onClient f).on r = ((), { r with client := f r.client }) := rfl

@[simp] theorem on_currentClient : currentClient.on r = (r.client, r) := rfl

@[simp] theorem on_emit (e : Event) :
    (emit e).on r = ((), { r with events := r.events ++ [e] }) := rfl

@[simp] theorem on_observe (x : Exec α) :
    (observe x).on r = (.ok (x.on r).1, (x.on r).2) := rfl

@[simp] theorem on_settle (result : Except Error α) : (settle result).on r = (result, r) := rfl

@[simp] theorem on_ensuring (x : Exec α) (cleanup : Act Unit) :
    (ensuring x cleanup).on r = ((x.on r).1, (cleanup.on (x.on r).2).2) := rfl

end Equations

/-! ## §2. Descriptions -/

/-- A server describes itself anew: the client learns it, and new connections say the same. -/
def describe (s : ServerDescription) : Act Unit := do
  emit (.descriptionUpdated s)
  modify fun r => { r with
    client := r.client.update s
    deployment := r.deployment.describe s }

/-- A server is gone. Returns whether it was known. -/
def withdraw (a : Address) : Act Bool := do
  let known := (← currentClient).cluster.knows a
  onClient (·.remove a)
  return known

/-- Something happens on the other side. -/
def happen : Happening → Act Unit
  | .described s => describe s
  | .withdrawn a => do
    let _ ← withdraw a
    return ()
  | .unreachable a e => modify fun r =>
      { r with deployment := { r.deployment with unreachable := r.deployment.unreachable.put a e } }
  | .reachable a => modify fun r =>
      { r with deployment := { r.deployment with unreachable := r.deployment.unreachable.drop a } }
  | .elapsed millis => onClient fun c => { c with now := c.now + millis }

/-- One thing happens after the other. -/
def happenAll (happenings : List Happening) : Act Unit := happenings.forM happen

@[simp] theorem on_happenAll_cons (h : Happening) (rest : List Happening) (r : Run) :
    (happenAll (h :: rest)).on r = (happenAll rest).on ((happen h).on r).2 := rfl

/-- What happens on the other side is no command of the client. -/
theorem sent_happenAll (happenings : List Happening) (r : Run) :
    ((happenAll happenings).on r).2.sent = r.sent := by
  induction happenings generalizing r with
  | nil => rfl
  | cons h rest ih =>
    rw [on_happenAll_cons, ih]
    cases h <;> rfl

/-- What happens during the wait that begins. -/
def beginWait : Act (List Happening) := do
  let (happenings, deployment) := (← get).deployment.nextWait
  modify fun r => { r with deployment := deployment }
  return happenings

/-! ## §3. Selection -/

/-- A server leased to an operation, with the description it was selected by. -/
structure Selected where
  member : MemberId
  description : ServerDescription

/-- Ends a search: takes the lease, or reports the failure. -/
def conclude (criteria : Criteria) : Search → Exec Selected
  | .found s => do
    let c ← currentClient
    match c.known.value? s.address with
    | some id =>
      onClient (·.lease id)
      let a := (c.members[id]?.map (·.address)).getD s.address
      emit (.selectionSucceeded criteria a)
      return ⟨id, s⟩
    | none => throw (Error.of (.internal "no member at the address"))
  | .failed cluster => do
    let e := Error.of (.noServer criteria cluster)
    emit (.selectionFailed criteria cluster e)
    throw e
  | _ => throw (Error.of (.internal "the search is not over"))

/-- Goes on with a search in view of what the client knows now. -/
def proceed (criteria : Criteria) (timeIsUp : Bool) (s : Search) : Act Search :=
  return s.proceed (← currentClient) criteria timeIsUp

/-- Tells once that a search waits. -/
def tellWaiting (criteria : Criteria) (told : Bool) : Act Unit :=
  unless told do emit (.selectionWaiting criteria)

/-- Goes on with a search while one thing happens after the other. When nothing is left to happen,
    only the end of the time limit ends a wait. What is left when the search is over happens all
    the same. -/
def search (criteria : Criteria) (instant told : Bool) (s : Search) :
    List Happening → Exec Selected
  | [] => do
    match ← proceed criteria instant s with
    | .waiting seen =>
      tellWaiting criteria told
      conclude criteria (← proceed criteria true (.waiting seen))
    | s => conclude criteria s
  | next :: later => do
    match ← proceed criteria instant s with
    | .waiting seen =>
      tellWaiting criteria told
      happen next
      search criteria instant true (.waiting seen) later
    | s => ensuring (conclude criteria s) (happenAll (next :: later))

/-- Selects a server while the given things happen. -/
def selectDuring (criteria : Criteria) (happenings : List Happening) : Exec Selected := do
  emit (.selectionStarted criteria)
  let limit := (← currentClient).options.effectiveSelectionTimeout
  search criteria (limit == 0) false .examining happenings

/-- Selects a server, whatever happens while the selection waits. -/
def select (criteria : Criteria) : Exec Selected := do
  let happenings ← beginWait
  selectDuring criteria happenings

/-- Gives back the lease of a server. -/
def release (id : MemberId) : Act Unit := onClient (·.unlease id)

/-! ## §4. Sessions -/

/-- Whether the deployment keeps sessions. If no server has told yet, one that can is waited
    for. -/
def sessionSupport : Exec SessionSupport := do
  match (← currentClient).cluster.sessionSupport with
  | .undetermined =>
    let selected ← select .dataBearing
    release selected.member
    return (← currentClient).cluster.sessionSupport
  | known => return known

/-- Starts a session, if the deployment keeps sessions. -/
def openSession? (implicit : Bool) : Exec (Option SessionId) := do
  match ← sessionSupport with
  | .supported timeout =>
    let (id, c) := (← currentClient).openSession timeout implicit
    onClient fun _ => c
    return some id
  | _ => return none

/-- Starts a session for a caller. -/
def startSession : Exec SessionId := do
  match ← openSession? false with
  | some id => return id
  | none => throw (Error.of .sessionsNotSupported)

/-! ## §5. Connections -/

/-- A connection lent by the pool of a member. -/
structure Lease where
  member : MemberId
  description : ConnectionDescription

/-- Lends a connection of a member, after what happens until there is one. -/
def checkOut (id : MemberId) : Exec Lease := do
  let happenings ← beginWait
  happenAll happenings
  let r ← get
  match r.client.members[id]? with
  | none => throw (Error.of (.internal "no such member"))
  | some m =>
    let a := m.pool.address
    let went := m.pool.checkOut (r.deployment.establish a)
    onClient (·.modifyMember id fun m => { m with pool := went.pool })
    let c ← settle went.result
    if went.opened then emit (.connectionOpened a c.id)
    emit (.connectionCheckedOut a c.id)
    return ⟨id, c⟩

/-- Takes a lent connection back. -/
def checkIn (lease : Lease) : Act Unit := do
  let r ← get
  match r.client.members[lease.member]? with
  | none => return
  | some m =>
    let a := m.pool.address
    let id := lease.description.id
    emit (.connectionCheckedIn a id)
    if ((m.pool.lent? id).map (·.broken)).getD false then emit (.connectionClosed a id)
    onClient (·.modifyMember lease.member fun m => { m with pool := m.pool.checkIn id })

/-- The deployment receives a command and answers it. What changes on the way is published
    first. -/
def exchange (lease : Lease) (command : Command) (session : Option Session) : Exec Document := do
  let a := lease.description.address
  modify fun r => { r with sent := r.sent ++ [⟨a, lease.description.id, command, session⟩] }
  let (reply, deployment) := (← get).deployment.nextReply a
  modify fun r => { r with deployment := deployment }
  happenAll (reply.updates.map .described)
  happenAll (reply.removals.map .withdrawn)
  settle (reply.answer >>= Document.validate)

/-- What is done about the outcome of a command. After a network failure the connection is not
    lent again and the server session is not used again. -/
def follow (lease : Lease) (name : String) (x : SessionContext) :
    Except Error Document → Exec Document
  | .ok reply => do
    emit (.commandSucceeded name lease.description.address lease.description.id)
    return reply
  | .error e => do
    let id := lease.description.id
    if e.isNetwork then
      onClient (·.modifyMember lease.member fun m => { m with pool := m.pool.markBroken id })
      onClient (x.modify Session.markDirty)
    emit (.commandFailed name lease.description.address id e)
    throw e

/-- Sends a command in the session of the context. -/
def send (lease : Lease) (command : Command) (x : SessionContext) : Exec Document := do
  let c ← currentClient
  let command := command.prepare (x.id? c) lease.description.kind
  emit (.commandStarted command lease.description.address lease.description.id)
  let result ← observe (exchange lease command (x.session? c))
  follow lease command.name x result

end Run

end ClusterClient
