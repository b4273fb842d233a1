/-
  ClusterClient.Scenario — working with a client step by step.

  A scenario is a run with four tables of what its steps have made. What is made under a name that
  is taken replaces what was there, which is let go only after the new thing is made, and not at
  all when making it fails. A step that names what does not exist changes nothing.
-/
import ClusterClient.Scenario.Step

namespace ClusterClient

/-! ## §1. Tables -/

/-- What was made, by name. -/
abbrev Named (α : Type) := List (String × α)

/-- The table without a name. -/
def Named.drop {α : Type} (m : Named α) (name : String) : Named α :=
  List.filter (fun e => e.1 != name) m

/-- The table with a thing under a name. -/
def Named.put {α : Type} (m : Named α) (name : String) (a : α) : Named α :=
  (name, a) :: m.drop name

/-- A run and what its steps have made. -/
structure Scenario where
  run : Run
  sessions : Named SessionId
  bindings : Named Binding
  sources : Named Source
  connections : Named Run.Lease

/-- An action on a scenario. -/
abbrev Play := StateM Scenario

namespace Scenario

/-- A scenario in which nothing has been done. -/
def begin (c : Client) : Scenario := ⟨.begin c, [], [], [], []⟩

/-! ## §2. Actions -/

/-- Does something in the run. -/
def act {α : Type} (x : Act α) : Play α :=
  modifyGet fun s =>
    let (a, run) := x.run s.run
    (a, { s with run := run })

/-- What the client is now. -/
def client : Play Client := act Run.currentClient

/-- Goes on with a thing that may not exist. -/
def given {α : Type} (thing : Option α) (use : α → Play Answer) : Play Answer :=
  match thing with
  | some a => use a
  | none => return .missing

/-- Goes on with what comes of an action, unless it fails. -/
def trying {α : Type} (x : Exec α) (use : α → Play Answer) : Play Answer := do
  match ← act x.run with
  | .ok a => use a
  | .error e => return .failed e

/-- Lets go of what was there before. -/
def letGo {α : Type} (old : Option α) (drop : α → Act Unit) : Play Unit :=
  match old with
  | some a => act (drop a)
  | none => return

/-! ## §3. Names -/

/-- The session with a name. -/
def session? (name : String) : Play (Option SessionId) := return (← get).sessions.lookup name

/-- The binding with a name. -/
def binding? (name : String) : Play (Option Binding) := return (← get).bindings.lookup name

/-- The source with a name. -/
def source? (name : String) : Play (Option Source) := return (← get).sources.lookup name

/-- The connection with a name. -/
def connection? (name : String) : Play (Option Run.Lease) :=
  return (← get).connections.lookup name

/-- A session that may be left out: nothing if the name is of no session. -/
def optionalSession? : Option String → Play (Option (Option SessionId))
  | none => return some none
  | some name => return (← session? name).map some

/-- A handle of a session is dropped. -/
def abandonSession (id : SessionId) : Act Unit := Run.onClient (·.dropSession id)

/-- Keeps a session under a name. -/
def keepSession (name : String) (id : SessionId) : Play Unit := do
  let old ← session? name
  modify fun s => { s with sessions := s.sessions.put name id }
  letGo old abandonSession

/-- Keeps a binding under a name. -/
def keepBinding (name : String) (b : Binding) : Play Unit := do
  let old ← binding? name
  modify fun s => { s with bindings := s.bindings.put name b }
  letGo old Binding.unbind

/-- Keeps a source under a name. -/
def keepSource (name : String) (source : Source) : Play Unit := do
  let old ← source? name
  modify fun s => { s with sources := s.sources.put name source }
  letGo old Source.release

/-- Keeps a connection under a name. -/
def keepConnection (name : String) (lease : Run.Lease) : Play Unit := do
  let old ← connection? name
  modify fun s => { s with connections := s.connections.put name lease }
  letGo old Run.checkIn

/-- Gives a connection back. -/
def dropConnection (name : String) : Play Bool := do
  let old ← connection? name
  modify fun s => { s with connections := s.connections.drop name }
  letGo old Run.checkIn
  return old.isSome

/-! ## §4. Sessions -/

/-- The context that a step works with; nothing if it names what does not exist. -/
def contextOf : ContextOrigin → Play (Option SessionContext)
  | .nowhere => return some .none
  | .source name => return (← source? name).map (·.context)
  | .binding name => return (← binding? name).map (·.context)
  | .session name retryWrites => return (← optionalSession? name).map (⟨·, retryWrites⟩)

/-- Does to a session what is asked and answers what it is then. -/
def callSession (id : SessionId) (call : SessionCall) : Play Answer := do
  act (Run.onClient (call.apply id))
  given (← client).sessions[id]? fun s => return .called none s

/-- Starts a transaction and answers what the session is then. -/
def startTransaction (id : SessionId) (options : Option TransactionOptions) : Play Answer := do
  given (← client).sessions[id]? fun s =>
    match s.startTransaction options with
    | .error misuse => return .called (some (Error.of (.transaction misuse))) s
    | .ok started => do
      act (Run.onClient (·.modifySession id fun _ => started))
      return .called none started

/-- What a context says of itself, after taking a number if that is asked. -/
def lookAt (x : SessionContext) (advance : Bool) : Play Answer := do
  if advance then
    let (number, c) := x.advance (← client)
    act (Run.onClient fun _ => c)
    return .advanced number (x.report c)
  else return .context (x.report (← client))

/-! ## §5. Sources and connections -/

/-- Leases a number of sources for reading and releases them when the last one was leased, or
    when one could not be. Answers their addresses. -/
def rotate (b : Binding) : Nat → Exec (List Address)
  | 0 => return []
  | times + 1 => do
    let source ← b.source .read
    let rest ← Run.ensuring (rotate b times) source.release
    return source.selected.description.address :: rest

/-- Whether a source can lend a connection without waiting. -/
def lendsAtOnce (c : Client) (source : Source) : Bool :=
  match c.members[source.selected.member]? with
  | some m => m.pool.permits != 0
  | none => false

/-- Lends a connection. If that has to wait, what it waits for is the named connection. -/
def connectionAfter (source : Source) (dropped name : String) : Play Answer := do
  if lendsAtOnce (← client) source then
    let result ← act (Source.connection source).run
    let _ ← dropConnection dropped
    finish result
  else
    let _ ← dropConnection dropped
    finish (← act (Source.connection source).run)
where
  finish (result : Except Error Run.Lease) : Play Answer :=
    trying (Run.settle result) fun lease => do
      keepConnection name lease
      return .connection lease.description

/-! ## §6. Steps -/

/-- Does a step. -/
def step : Step → Play Answer
  | .refused e => return .refused e
  | .update s => do
    act (Run.describe s)
    return .kind (← client).cluster.kind
  | .remove a => do
    let known ← act (Run.withdraw a)
    return .removed known (← client).cluster.kind
  | .cluster => return .cluster (← client).cluster
  | .server a => do
    let c ← client
    return .member (c.cluster.server? a) (c.memberAt? a).isSome
  | .report a r => do
    onDeployment fun d => { d with reports := d.reports.put a r }
    return .nothing
  | .script a replies => do
    onDeployment fun d =>
      { d with replies := d.replies.put a ((d.replies.value? a).getD [] ++ replies) }
    return .nothing
  | .unreachable a e => do
    onDeployment fun d => { d with unreachable := d.unreachable.put a e }
    return .nothing
  | .reachable a => do
    onDeployment fun d => { d with unreachable := d.unreachable.drop a }
    return .nothing
  | .select rp arrivals =>
    trying (Run.selectDuring (.readPreference rp) (arrivals.map .described)) fun selected => do
      act (Run.release selected.member)
      return .chosen selected.description
  | .startSession name =>
    trying Run.startSession fun id => do
      keepSession name id
      given (← client).sessions[id]? fun s => return .session s
  | .cloneSession session name => do
    given (← session? session) fun id => do
      act (Run.onClient (·.holdSession id))
      keepSession name id
      return .nothing
  | .dropSession session => do
    let old ← session? session
    modify fun s => { s with sessions := s.sessions.drop session }
    letGo old abandonSession
    return .flag old.isSome
  | .callSession session call => do
    given (← session? session) fun id => callSession id call
  | .startTransaction session options => do
    given (← session? session) fun id =>
      match options with
      | .ok options => startTransaction id options
      | .error e => return .refused e
  | .context origin advance => do
    given (← contextOf origin) fun x => lookAt x advance
  | .canRetryWrite server connection origin => do
    given (← contextOf origin) fun x =>
      return .flag (ClusterClient.canRetryWrite (← client) server connection x)
  | .bind rp session name => do
    given (← optionalSession? session) fun id =>
      trying (Binding.bind rp id) fun b => do
        keepBinding name b
        return .binding (b.report (← client))
  | .binding binding => do
    given (← binding? binding) fun b => return .binding (b.report (← client))
  | .dropBinding binding => do
    let old ← binding? binding
    modify fun s => { s with bindings := s.bindings.drop binding }
    letGo old Binding.unbind
    return .flag old.isSome
  | .source binding intent name => do
    given (← binding? binding) fun b =>
      trying (b.source intent) fun source => do
        keepSource name source
        return .server source.selected.description
  | .rotate binding times => do
    given (← binding? binding) fun b =>
      trying (rotate b times) fun addresses => return .addresses addresses
  | .retain source name => do
    given (← source? source) fun s => do
      let retained ← act s.retain
      keepSource name retained
      return .address retained.selected.description.address
  | .release source => do
    given (← source? source) fun s => do
      modify fun scenario => { scenario with sources := scenario.sources.drop source }
      act s.release
      return .nothing
  | .connection source name => do
    given (← source? source) fun s =>
      trying s.connection fun lease => do
        keepConnection name lease
        return .connection lease.description
  | .connectionAfter source dropped name => do
    given (← source? source) fun s => do
      given (← connection? dropped) fun _ => connectionAfter s dropped name
  | .dropConnection connection => return .flag (← dropConnection connection)
  | .command connection command origin => do
    given (← connection? connection) fun lease => do
      given (← contextOf origin) fun x =>
        trying (Run.send lease command x) fun reply => return .reading (.document reply)
  | .perform operation rp session => do
    given (← optionalSession? session) fun id =>
      trying (Run.settle (operation.mapError refusal)) fun operation =>
        trying (ClusterClient.perform operation rp id) fun o => return .outcome o
  | .execute binding operation => do
    given (← binding? binding) fun b =>
      trying (Run.settle (operation.mapError refusal)) fun operation =>
        trying (operation.execute b) fun o => return .outcome o
  | .deliver binding delivery database body decoder transformer => do
    given (← binding? binding) fun b =>
      trying (delivery.perform b database body (Reading.interpretation decoder transformer))
        fun r => return .reading r
where
  onDeployment (f : Deployment → Deployment) : Play Unit :=
    act (modify fun r => { r with deployment := f r.deployment })
  refusal (reason : InvalidArgument) : Error := Error.of (.invalidArgument reason)

/-! ## §7. Records -/

/-- The counters of the pools of all known servers, by address. -/
def pools (c : Client) : List (Address × Pool.Status) :=
  c.cluster.sorted.filterMap fun s => (c.memberAt? s.address).map fun m => (s.address, m.pool.status)

/-- What is recorded of a step. -/
structure Record where
  answer : Answer
  /-- What reached the servers. -/
  sent : List Transmission
  pools : List (Address × Pool.Status)
  /-- What the client told. -/
  events : List Event

/-- Does a step and records it. -/
def record (what : Step) : Play Record := do
  act (modify fun r => { r with sent := [], events := [] })
  let answer ← step what
  let run := (← get).run
  return ⟨answer, run.sent, pools run.client, run.events⟩

/-- Does all steps and records each. -/
def play (c : Client) (steps : List Step) : List Record :=
  ((steps.mapM record).run (begin c)).1

end Scenario

end ClusterClient
