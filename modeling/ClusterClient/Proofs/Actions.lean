/-
  ClusterClient.Proofs.Actions — one walk through all actions.

  What an action of the client keeps follows from what its parts keep, and in the end from a few
  facts: what happens on the other side, what changes of the sessions do, and what it means to
  lease a server and to lend a connection.  `Upholds` lists these facts for a relation `R` between
  runs, with `S` for a server that is leased and `T` for a connection that is lent.  The walk
  through the selection of a server, the sources, the attempts and the operations on a binding is
  made once, for every such relation.  What goes beyond a binding may open sessions too; `Sustains`
  adds that these do not break the relation.

  Making an insert, starting a transaction and calls by hand may take numbers from sessions.  Which
  sessions these are is the parameter `may` of the changes that the relation tolerates.

  Main statements: `Upholds.performRetryable`, `Upholds.execute`, `Sustains.perform`, and
  `sustains_evolves`: all that an action does is made of changes.
-/
import ClusterClient.Proofs.Changes
import ClusterClient.Proofs.Selecting

namespace ClusterClient

open Run

variable {α : Type} {may : SessionId → Prop}

/-! ## §1. What has to be shown of a relation. -/

/-- The relation is kept by all that operations do on a binding.  It does not look beyond the
    client, and changes of the sessions that are there do not break it; a server that is leased and
    a connection that is lent break it until they are given back. -/
structure Upholds (may : SessionId → Prop) (R : Run → Run → Prop) (S : MemberId → Run → Run → Prop)
    (T : Lease → Run → Run → Prop) : Prop where
  elsewhere : ∀ {r r' : Run}, r'.client = r.client → R r r'
  aside : ∀ {r : Run} {c : Client}, Client.Change may r.client c → r.client.SameServers c →
    c.sessions.length = r.client.sessions.length → R r { r with client := c }
  happen : ∀ h, (happen h).Keeps R
  broke : ∀ id connection, (onClient (·.modifyMember id fun m =>
    { m with pool := m.pool.markBroken connection })).Keeps R
  leasing : Lending R S release
  lending : Lending R T checkIn
  conclude : ∀ criteria s, (conclude criteria s).Lends R fun selected => S selected.member
  checkOut : ∀ id, (checkOut id).Lends R T

/-- It is kept by all that the client does if new sessions do not break it either. -/
structure Sustains (may : SessionId → Prop) (R : Run → Run → Prop) (S : MemberId → Run → Run → Prop)
    (T : Lease → Run → Run → Prop) : Prop extends Upholds may R S T where
  opened : ∀ (r : Run) (timeout : Nat) (implicit : Bool),
    R r { r with client := (r.client.openSession timeout implicit).2 }

namespace Upholds

variable {R : Run → Run → Prop} {S : MemberId → Run → Run → Prop} {T : Lease → Run → Run → Prop}

/-! ## §2. Parts of actions. -/

section Parts

variable (h : Upholds may R S T)
include h

theorem emit (e : Event) : (Run.emit e).Keeps R := fun _ => h.elsewhere rfl

theorem beginWait : Run.beginWait.Keeps R := fun _ => h.elsewhere rfl

/-- A change of a session. -/
theorem modifySession (id : SessionId) {f : Session → Session} {r : Run}
    (hf : ∀ s, r.client.sessions[id]? = some s → Session.Change r.client.now (may id) s (f s)) :
    R r { r with client := r.client.modifySession id f } :=
  h.aside (.session hf) ⟨rfl, rfl, rfl⟩ (r.client.sessions.length_modify f id)

theorem endSession (id : SessionId) : (onClient (·.endSession id)).Keeps R :=
  fun r => h.aside (.ended r.client id) (r.client.sameServers_endSession id)
    (r.client.length_endSession id)

theorem dropSession (id : SessionId) : (onClient (·.dropSession id)).Keeps R :=
  fun r => h.aside (.dropped r.client id) (r.client.sameServers_dropSession id)
    (r.client.length_dropSession id)

theorem holdSession (id : SessionId) : (onClient (·.holdSession id)).Keeps R :=
  fun _ => h.modifySession id fun s _ => .held s

/-- So it is kept by selecting a server. -/
theorem selecting : Selecting R S where
  emit := h.emit
  beginWait := h.beginWait
  happen := h.happen
  leasing := h.leasing
  conclude := h.conclude

/-- Working with a connection. -/
theorem withConnection {source : Source} {work : Lease → Exec α}
    (hwork : ∀ lease, (work lease).Keeps R) : (withConnection source work).Keeps R :=
  Exec.Lends.use h.lending (h.checkOut _) hwork

end Parts

variable [IsPreorder Run R]

section Contexts

variable (h : Upholds may R S T)
include h

/-- A change of the session of a context. -/
theorem modifyIf (x : SessionContext) {f : Session → Session} {r : Run}
    (hf : ∀ s, x.session? r.client = some s → ∀ id, x.session = some id →
      Session.Change r.client.now (may id) s (f s)) :
    R r { r with client := x.modify f r.client } := by
  obtain ⟨_ | id, _⟩ := x
  · exact refl_of R r
  · exact h.modifySession id fun s hs => hf s hs id rfl

theorem modify (x : SessionContext) {f : Session → Session}
    (hf : ∀ now free s, Session.Change now free s (f s)) : (onClient (x.modify f)).Keeps R :=
  fun _ => h.modifyIf x fun s _ _ _ => hf _ _ s

theorem hold (x : SessionContext) : (onClient x.hold).Keeps R := by
  obtain ⟨_ | id, _⟩ := x
  · exact fun r => refl_of R r
  · exact h.holdSession id

theorem letGo (x : SessionContext) : (onClient x.letGo).Keeps R := by
  obtain ⟨_ | id, _⟩ := x
  · exact fun r => refl_of R r
  · exact h.dropSession id

/-- Taking the next number. -/
theorem advance (x : SessionContext) (hx : ∀ id, x.own id → may id) (r : Run) :
    R r { r with client := (x.advance r.client).2 } := by
  unfold SessionContext.advance
  cases hs : x.session? r.client with
  | none => exact refl_of R r
  | some s =>
    cases ha : s.advance with
    | none =>
      rw [Option.bind_some, ha]
      exact refl_of R r
    | some next =>
      rw [Option.bind_some, ha]
      refine h.modifyIf x fun s₀ hs₀ id hid => ?_
      rw [hs] at hs₀
      cases hs₀
      exact .advanced ha (hx id hid)

theorem happenAll (happenings : List Happening) : (Run.happenAll happenings).Keeps R :=
  .happenAll h.happen happenings

/-! ## §3. Sending. -/

theorem exchange (lease : Lease) (command : Command) (session : Option Session) :
    (Run.exchange lease command session).Keeps R :=
  .bind (.lift (.modify fun _ => h.elsewhere rfl)) fun _ => .bind .get fun _ =>
    .bind (.lift (.modify fun _ => h.elsewhere rfl)) fun _ =>
      .bind (.lift (h.happenAll _)) fun _ => .bind (.lift (h.happenAll _)) fun _ => .settle _

theorem follow (lease : Lease) (name : String) (x : SessionContext)
    (result : Except Error Document) : (Run.follow lease name x result).Keeps R := by
  cases result with
  | ok reply => exact .bind (.lift (h.emit _)) fun _ => .pure _
  | error e =>
    have told : (do Run.emit (.commandFailed name lease.description.address lease.description.id e)
                    throw e : Exec Document).Keeps R :=
      .bind (.lift (h.emit _)) fun _ => .throw e
    unfold Run.follow
    dsimp only
    split
    · exact .bind (.lift (h.broke _ _)) fun _ =>
        .bind (.lift (h.modify x fun _ _ s => .soiled s)) fun _ => told
    · exact told

theorem send (lease : Lease) (command : Command) (x : SessionContext) :
    (Run.send lease command x).Keeps R :=
  .bind (.lift .currentClient) fun _ => .bind (.lift (h.emit _)) fun _ =>
    .bind (.observe (h.exchange _ _ _)) fun _ => h.follow _ _ _ _

theorem attempt (source : Source) (lease : Lease) (command : Command)
    (interpret : Interpretation α) : (attempt source lease command interpret).Keeps R :=
  .bind (h.send lease command source.context) fun _ => .settle _

/-! ## §4. Sources. -/

theorem release (source : Source) {r r₁ : Run} (hs : S source.selected.member r r₁) :
    R r (source.release.on r₁).2 :=
  trans_of R (h.leasing.back hs) (h.letGo source.context _)

/-- A leased server, wherever a source keeps its member. -/
theorem leasingSource : Lending R (fun source : Source => S source.selected.member)
    Source.release where
  before := h.leasing.before
  after := h.leasing.after
  back := h.release _

theorem leaseSource (b : Binding) (criteria : Criteria) :
    (b.leaseSource criteria).Lends R fun source => S source.selected.member := by
  refine (h.selecting.select criteria).passing fun selected r r₁ hs =>
    ⟨⟨selected, b.context⟩, rfl, ?_⟩
  -- The session is touched at the time that the client has.
  have touched : R r₁
      { r₁ with client := b.context.modify (·.touch r₁.client.now) r₁.client } :=
    h.modifyIf b.context fun s _ _ _ => .touched s
  exact h.leasing.after hs (trans_of R touched (h.hold b.context _))

theorem source (b : Binding) (intent : Intent) :
    (b.source intent).Lends R fun source => S source.selected.member := by
  cases intent with
  | write => exact h.leaseSource b .writable
  | read =>
    refine .after h.leasingSource (.lift .currentClient) fun c => ?_
    dsimp only
    split
    · exact .after h.leasingSource (.throw _) fun _ => h.leaseSource b _
    · exact h.leaseSource b _

theorem withSource {b : Binding} {intent : Intent} {work : Source → Exec α}
    (hwork : ∀ source, (work source).Keeps R) : (withSource b intent work).Keeps R :=
  (h.source b intent).use h.leasingSource hwork

/-! ## §5. Requests. -/

theorem performRead (b : Binding) (database : String) (body : Document)
    (interpret : Interpretation α) : (performRead b database body interpret).Keeps R :=
  h.withSource fun source => h.withConnection fun lease =>
    .bind (.lift .currentClient) fun _ => h.attempt source lease _ interpret

theorem performWrite (b : Binding) (database : String) (body : Document)
    (interpret : Interpretation α) : (performWrite b database body interpret).Keeps R :=
  h.withSource fun source => h.withConnection fun lease => h.attempt source lease _ interpret

theorem resend (b : Binding) (source : Source) (lease : Lease) (command : Command)
    (first : Error) (interpret : Interpretation α) :
    (resend b source lease command first interpret).Keeps R := by
  refine .bind (.lift .currentClient) fun c => ?_
  split
  · refine .bind (.lift (h.emit _)) fun _ =>
      .bind (.observe (h.attempt source lease command interpret)) fun result => ?_
    cases result with
    | ok a => exact .pure a
    | error e => exact .bind (.lift (h.emit _)) fun _ => .throw first
  · exact .bind (.lift (h.emit _)) fun _ => .throw first

theorem resendFrom (b : Binding) (source : Source) (command : Command) (first : Error)
    (interpret : Interpretation α) : (resendFrom b source command first interpret).Keeps R :=
  Exec.Lends.useOr h.lending (h.checkOut _) (fun _ => rfl)
    (fun lease => h.resend b source lease command first interpret)
    fun _ => .bind (.lift (h.emit _)) fun _ => .throw first

theorem secondAttempt (b : Binding) (command : Command) (first : Error)
    (interpret : Interpretation α) : (secondAttempt b command first interpret).Keeps R :=
  (h.source b .write).useOr h.leasingSource (fun _ => rfl)
    (fun source => h.resendFrom b source command first interpret)
    fun _ => .bind (.lift (h.emit _)) fun _ => .throw first

/-- A retryable request keeps what making its command keeps. -/
theorem performRetryable {b : Binding} {request : Request α}
    (hmake : ∀ server connection, (request.create server connection).Keeps R) :
    (performRetryable b request).Keeps R := by
  -- The second attempt makes no command, so `hmake` is needed for the first one only.
  have hfirst : (firstAttempt b request).Keeps R := by
    refine h.withSource fun source => h.withConnection fun lease =>
      .bind (hmake _ _) fun command =>
        .bind (.observe (h.attempt source lease command request.interpret)) fun result => ?_
    cases result with
    | ok a => exact .pure _
    | error e => exact .pure _
  refine .bind hfirst fun first => ?_
  cases first with
  | succeeded a => exact .pure a
  | failed command e =>
    dsimp only
    split
    · exact h.secondAttempt b command e request.interpret
    · exact .throw e

/-- In a transaction the insert is its first command or a further one; elsewhere it may take a
    number. -/
theorem putSessionFields (body : Document) (server : ServerDescription)
    (connection : ConnectionDescription) (x : SessionContext) (hx : ∀ id, x.own id → may id) :
    (putSessionFields body server connection x).Keeps R := by
  intro r
  simp only [ClusterClient.putSessionFields, Act.on_bind, Act.on_ite]
  split
  · exact h.modify x (fun _ _ s => .progressed s) r
  · split
    · exact h.advance x hx r
    · exact refl_of R r

theorem insert (i : Insert) (b : Binding) (hx : ∀ id, b.context.own id → may id) :
    (ClusterClient.performRetryable b (i.request b.context)).Keeps R :=
  h.performRetryable fun server connection =>
    .bind (.lift (h.putSessionFields _ server connection b.context hx)) fun _ => .pure _

theorem endRequest (b : Binding) (name : String) :
    (ClusterClient.performRetryable b (endRequest name b.context)).Keeps R :=
  h.performRetryable fun _ _ => .bind (.lift (.bind .currentClient fun _ => .pure _)) fun _ =>
    .pure _

/-! ## §6. Operations. -/

/-- A transaction that is over. -/
theorem markAs (x : SessionContext) {state : TransactionState}
    (hs : Transaction.isActive ⟨state, none⟩ = false) :
    (onClient (x.modify (Session.markAs state))).Keeps R :=
  h.modify x fun _ _ s => .marked s state fun ha => absurd ha (by rw [hs]; nofun)

theorem commitTransaction (b : Binding) : (commitTransaction b).Keeps R := by
  refine .bind (.lift .currentClient) fun c => ?_
  cases b.context.session? c with
  | none => exact .throw _
  | some s =>
    dsimp only
    cases s.transaction.state with
    | none | aborted => exact .throw _
    | starting => exact .bind (.lift (h.markAs b.context rfl)) fun _ => .pure _
    | inProgress | committed =>
      exact .bind (h.endRequest b _) fun _ =>
        .bind (.lift (h.markAs b.context rfl)) fun _ => .pure _

theorem abortTransaction (b : Binding) : (abortTransaction b).Keeps R := by
  refine .bind (.lift .currentClient) fun c => ?_
  cases b.context.session? c with
  | none => exact .throw _
  | some s =>
    dsimp only
    cases s.transaction.state with
    | none | aborted | committed => exact .throw _
    | starting => exact .bind (.lift (h.markAs b.context rfl)) fun _ => .pure _
    | inProgress =>
      exact .bind (.ensuring (h.endRequest b _) (h.markAs b.context rfl)) fun _ => .pure _

end Contexts

end Upholds

/-- Whether an operation may take a number. -/
def Operation.isInsert : Operation → Bool
  | .insert _ => true
  | _ => false

section Operations

variable {R : Run → Run → Prop} {S : MemberId → Run → Run → Prop} {T : Lease → Run → Run → Prop}
variable [IsPreorder Run R]

/-- Only an insert needs the permission to take a number, and from its own session. -/
theorem Upholds.execute (h : Upholds may R S T) (b : Binding) (operation : Operation)
    (hx : operation.isInsert = true → ∀ id, b.context.own id → may id) :
    (operation.execute b).Keeps R := by
  have hwrite : ∀ database body, (acknowledged b database body).Keeps R :=
    fun database body => .bind (h.performWrite b database body _) fun _ => .pure _
  cases operation with
  | insert i => exact .bind (h.insert i b (hx rfl)) fun _ => .pure _
  | runCommand c => exact .bind (h.performRead b _ _ _) fun _ => .pure _
  | dropCollection database collection =>
    exact .bind (.observe (hwrite database _)) fun _ => .settle _
  | dropUser database user => exact hwrite database _
  | commit => exact h.commitTransaction b
  | abort => exact h.abortTransaction b

/-! ## §7. Bindings and the executor. -/

namespace Sustains

variable (h : Sustains may R S T)
include h

theorem openSession? (implicit : Bool) : (Run.openSession? implicit).Keeps R := by
  refine .bind h.selecting.sessionSupport fun support => ?_
  cases support with
  | undetermined | unsupported => exact .pure _
  | supported timeout => exact fun r => h.opened r timeout implicit

theorem startSession : Run.startSession.Keeps R := by
  refine .bind (h.openSession? false) fun id => ?_
  cases id with
  | none => exact .throw _
  | some id => exact .pure id

theorem bind (preference : ReadPreference) (session : Option SessionId) :
    (Binding.bind preference session).Keeps R := by
  refine .bind (.lift .currentClient) fun c => ?_
  cases session with
  | none => exact .bind (h.openSession? true) fun _ => .pure _
  | some id => exact .bind (.lift (h.hold ⟨some id, false⟩)) fun _ => .pure _

theorem unbind (b : Binding) : b.unbind.Keeps R := by
  unfold Binding.unbind
  cases b.context.session with
  | none => exact .pure _
  | some id =>
    dsimp only
    -- A binding that owns its session ends it before it lets go of it.
    split
    · exact .bind (h.endSession id) fun _ => h.dropSession id
    · exact h.dropSession id

theorem executeLabelled (operation : Operation) (b : Binding)
    (hx : operation.isInsert = true → ∀ id, b.context.own id → may id) :
    (executeLabelled operation b).Keeps R := by
  refine .bind (.observe (h.execute b operation hx)) fun result => ?_
  cases result with
  | ok outcome => exact .pure _
  | error e => exact .bind (.lift .currentClient) fun _ => .throw _

theorem perform (operation : Operation) (preference : ReadPreference)
    (session : Option SessionId) (hx : operation.isInsert = true → ∀ id, may id) :
    (perform operation preference session).Keeps R := by
  have hwith : ∀ preference, (withBinding preference session
      (ClusterClient.executeLabelled operation)).Keeps R := fun preference =>
    .bind (h.bind preference session) fun b =>
      .ensuring (h.executeLabelled operation b fun hi id _ => hx hi id) (h.unbind b)
  unfold ClusterClient.perform
  split
  · refine .bind (.lift .currentClient) fun c => ?_
    dsimp only
    split
    · exact .bind (.throw _) fun _ => hwith preference
    · exact hwith preference
  · exact hwith .primary

end Sustains

end Operations

/-! ## §8. All is made of changes. -/

theorem onClient_evolves {f : Client → Client} (h : ∀ c, Client.Change may c (f c)) :
    (onClient f).Keeps (Evolves may) :=
  fun r => .single (h r.client)

theorem happen_evolves (h : Happening) : (happen h).Keeps (Evolves may) := by
  intro r
  cases h with
  | described s => exact .single (.described r.client s)
  | withdrawn a => exact .single (.withdrawn r.client a)
  | elapsed n => exact .single (.elapsed r.client n)
  | unreachable a e | reachable a => exact evolves_of_client_eq rfl

theorem emit_evolves (e : Event) : (emit e).Keeps (Evolves may) :=
  fun _ => evolves_of_client_eq rfl

theorem lease_evolves (id : MemberId) : (onClient (·.lease id)).Keeps (Evolves may) :=
  onClient_evolves fun _ => .member fun m _ => .leased m

theorem release_evolves (id : MemberId) : (release id).Keeps (Evolves may) :=
  onClient_evolves fun _ => .member fun m _ => .unleased m

theorem conclude_evolves (criteria : Criteria) (s : Search) :
    (conclude criteria s).Keeps (Evolves may) :=
  .conclude emit_evolves lease_evolves criteria s

theorem checkOut_evolves (id : MemberId) : (checkOut id).Keeps (Evolves may) := by
  refine .checkOut emit_evolves (fun _ => evolves_of_client_eq rfl) happen_evolves
    fun r m hm => .single (.member fun m' hm' => ?_)
  rw [hm] at hm'
  cases hm'
  exact .lent m _

theorem checkIn_evolves (lease : Lease) : (checkIn lease).Keeps (Evolves may) :=
  .checkIn emit_evolves (onClient_evolves fun _ => .member fun m _ => .returned m _)

/-- Whatever the client does, it does by changes. -/
theorem sustains_evolves (may : SessionId → Prop) :
    Sustains may (Evolves may) (fun _ => Evolves may) (fun _ => Evolves may) where
  elsewhere := evolves_of_client_eq
  aside h _ _ := .single h
  happen := happen_evolves
  broke _ _ := onClient_evolves fun _ => .member fun m _ => .broke m _
  leasing := .constant release_evolves
  lending := .constant checkIn_evolves
  conclude criteria s := .of_keeps (conclude_evolves criteria s)
  checkOut id := .of_keeps (checkOut_evolves id)
  opened r timeout implicit := .single (.opened r.client timeout implicit)

end ClusterClient
