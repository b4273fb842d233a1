/-
  ClusterClient.Proofs.Implicit — sessions that were opened for one operation have no transactions.

  Whether a session was opened for one operation is settled when it is opened, and no transaction
  starts in one that was.  Steps reach sessions by name to set the state of their transaction, but
  the only sessions with names are those that callers have opened.  `Scenario.Unmixed` puts the
  two together, and every step keeps it.

  Main statement: `Scenario.Reachable.unmixed`.
-/
import ClusterClient.Proofs.Chronicle
import ClusterClient.Proofs.Labels

namespace ClusterClient

open Run

variable {may : SessionId → Prop}

/-! ## §1. Who opened a session. -/

theorem Session.Change.implicit_eq {now : Nat} {free : Prop} {s s' : Session}
    (h : Session.Change now free s s') : s'.implicit = s.implicit := by
  cases h with
  | held | touched | soiled | progressed | marked => rfl
  | advanced ha =>
    obtain ⟨-, -, rfl⟩ := Session.eq_of_advance ha
    rfl
  | started hs =>
    obtain ⟨-, rfl⟩ := Session.startTransaction_eq hs
    rfl

/-- All sessions are still there, each opened for the same. -/
def Client.Kin (c c' : Client) : Prop :=
  ∀ (i : SessionId) (s : Session), c.sessions[i]? = some s →
    ∃ s', c'.sessions[i]? = some s' ∧ s'.implicit = s.implicit

namespace Client.Kin

variable {c c' c'' : Client}

theorem refl (c : Client) : c.Kin c := fun _ s hs => ⟨s, hs, rfl⟩

theorem trans (h : c.Kin c') (h' : c'.Kin c'') : c.Kin c'' := by
  intro i s hs
  obtain ⟨s', hs', heq⟩ := h i s hs
  obtain ⟨s'', hs'', heq'⟩ := h' i s' hs'
  exact ⟨s'', hs'', heq'.trans heq⟩

theorem of_eq (h : c'.sessions = c.sessions) : c.Kin c' := fun _ s hs => ⟨s, h ▸ hs, rfl⟩

theorem modifySession {id : SessionId} {f : Session → Session}
    (h : ∀ s, c.sessions[id]? = some s → (f s).implicit = s.implicit) :
    c.Kin (c.modifySession id f) := by
  intro i s hs
  rw [getElem?_modifySession, hs]
  split
  case isTrue hid =>
    subst hid
    exact ⟨f s, rfl, h s hs⟩
  case isFalse => exact ⟨s, rfl, rfl⟩

theorem endSession (c : Client) (id : SessionId) : c.Kin (c.endSession id) := by
  unfold Client.endSession
  split
  · exact .refl c
  · split
    · exact .refl c
    · have ended : c.Kin (c.modifySession id fun s => { s with server := none }) :=
        modifySession fun _ _ => rfl
      exact ended

theorem dropSession (c : Client) (id : SessionId) : c.Kin (c.dropSession id) := by
  have released : c.Kin (c.modifySession id Session.released) := by
    refine modifySession fun s _ => ?_
    unfold Session.released
    split <;> rfl
  exact released.trans (.of_eq (c.sessions_dropSession id))

end Client.Kin

theorem Client.Change.kin {c c' : Client} (h : Client.Change may c c') : c.Kin c' := by
  cases h with
  | described s => exact .of_eq (c.sameSessions_update s).sessions
  | withdrawn | elapsed | member => exact .of_eq rfl
  | session hs => exact .modifySession fun s hmem => (hs s hmem).implicit_eq
  | opened timeout implicit =>
    intro i s hs
    obtain ⟨v, _, hsessions, -⟩ := c.openSession_cases timeout implicit
    rw [hsessions, List.getElem?_append_left (List.getElem?_eq_some_iff.mp hs).1]
    exact ⟨s, hs, rfl⟩
  | ended id => exact .endSession c id
  | dropped id => exact .dropSession c id

theorem Evolves.kin {r r' : Run} (h : Evolves may r r') : r.client.Kin r'.client :=
  h.invariant (P := fun c => r.client.Kin c) (fun hc hk => hk.trans hc.kin) (.refl r.client)

/-! ## §2. Transactions of such sessions. -/

/-- No transaction is active in a session that was opened for one operation. -/
def Client.Aloof (c : Client) : Prop :=
  ∀ s ∈ c.sessions, s.implicit = true → s.inTransaction = false

/-- A change that takes a number starts a transaction only for a caller. -/
theorem Session.Change.idle_of_took {now : Nat} {s s' : Session} {k : Key}
    (h : Session.Change now True s s') (before : s.key? = some k)
    (after : s'.key? = some ⟨k.session, k.number + 1⟩) (implicit : s'.implicit = true)
    (idle : s.inTransaction = false) : s'.inTransaction = false := by
  have counts : s'.key? ≠ s.key? := by
    rw [before, after]
    intro heq
    exact Nat.succ_ne_self _ (congrArg Key.number (Option.some.inj heq))
  have hsame := h.implicit_eq
  cases h with
  | held | progressed | marked => exact absurd rfl counts
  | touched | soiled =>
    refine absurd ?_ counts
    obtain ⟨server, _⟩ := s
    cases server <;> rfl
  | advanced ha =>
    obtain ⟨-, -, rfl⟩ := Session.eq_of_advance ha
    exact idle
  | started hs =>
    rw [Session.startTransaction, if_pos (hsame.symm.trans implicit)] at hs
    cases hs

namespace Client.Aloof

variable {c c' : Client} {x : SessionContext}

/-- Where no other session is touched, only the transaction of the context matters. -/
theorem of_sameKeys (h : c.Aloof) (hs : c.SameKeys x c') (kin : c.Kin c')
    (length : c'.sessions.length = c.sessions.length)
    (own : x.inTransaction c = false → x.inTransaction c' = false) : c'.Aloof := by
  intro s' hmem implicit
  obtain ⟨i, hi⟩ := List.mem_iff_getElem?.mp hmem
  -- The session was there before, opened for the same.
  have hlt : i < c.sessions.length := length ▸ (List.getElem?_eq_some_iff.mp hi).1
  obtain ⟨s₁, hs₁, heq⟩ := kin i _ (List.getElem?_eq_getElem hlt)
  rw [hi] at hs₁
  cases hs₁
  have idle := h _ (List.getElem_mem hlt) (heq.symm.trans implicit)
  by_cases hx : x.session = some i
  · simp only [SessionContext.inTransaction_eq, SessionContext.session?_eq hx, hi,
      List.getElem?_eq_getElem hlt, Option.any_some] at own
    exact own idle
  · refine Bool.eq_false_iff.mpr fun active => ?_
    obtain ⟨s, hs₀, ha, -⟩ := hs.active i s' hx hi active
    rw [List.getElem?_eq_getElem hlt] at hs₀
    cases hs₀
    rw [idle] at ha
    cases ha

/-- What takes no numbers activates no transaction. -/
theorem change (h : c.Aloof) (hc : Client.Change nowhere c c') : c'.Aloof := by
  obtain ⟨timeout, implicit, rfl⟩ | length := hc.opened_or_stays
  · obtain ⟨v, _, hsessions, -⟩ := c.openSession_cases timeout implicit
    intro s hmem
    rw [hsessions] at hmem
    obtain hmem | hmem := List.mem_append.mp hmem
    · exact h s hmem
    · rw [List.mem_singleton.mp hmem]
      exact fun _ => rfl
  · have hsame : c.SameKeys .none c' := (hc.mono fun _ => False.elim).sameKeys length
    exact h.of_sameKeys hsame hc.kin length id

theorem evolves {r r' : Run} (h : r.client.Aloof) (hr : Evolves nowhere r r') : r'.client.Aloof :=
  hr.invariant (P := Client.Aloof) (fun hc h => h.change hc) h

/-- Nor does an operation. -/
theorem execute {r : Run} (held : r.Held) (h : r.client.Aloof) (operation : Operation)
    (b : Binding) : ((operation.execute b).on r).2.client.Aloof := by
  have length : ((operation.execute b).on r).2.client.sessions.length = r.client.sessions.length :=
    upholds_asMany.execute b operation (fun _ _ _ => trivial) r
  have kin : r.client.Kin ((operation.execute b).on r).2.client :=
    ((sustains_evolves anywhere).execute b operation (fun _ _ _ => trivial) r : Evolves ..).kin
  exact h.of_sameKeys (execute_sameKeys b operation r) kin length
    (execute_inTransaction_of_idle held)

/-- Taking a number or starting a transaction. -/
theorem of_tookOne {s s' : Scenario} {new : List Entry} (h : s.run.client.Aloof)
    (htook : TookOne s s' new) : s'.run.client.Aloof := by
  cases htook with
  | nothing => exact h
  | next present change before after client =>
    rw [client]
    intro other hmem implicit
    obtain hold | ⟨_, -, rfl⟩ := mem_modify hmem
    · exact h other hold implicit
    · have idle := h _ (List.mem_of_getElem? present) (change.implicit_eq.symm.trans implicit)
      exact change.idle_of_took before after implicit idle

/-- Marking a transaction of a session that a caller has opened. -/
theorem modifySession {id : SessionId} {f : Session → Session} (h : c.Aloof)
    (hf : ∀ s, c.sessions[id]? = some s → (f s).implicit = false) :
    (c.modifySession id f).Aloof := by
  intro s hmem implicit
  obtain hold | ⟨s₀, hs₀, rfl⟩ := mem_modify hmem
  · exact h s hold implicit
  · rw [hf s₀ hs₀] at implicit
    cases implicit

/-- An operation that is called by a step. -/
theorem of_call {s : Scenario} (held : s.run.Held) (h : s.run.client.Aloof) {what : Step}
    {operation : Operation} (hcall : what.operation? = some operation)
    (hr : operation.reads = false) : ((Scenario.step what).run s).2.run.client.Aloof := by
  obtain hrun | ⟨preference, id, hrun⟩ | ⟨b, hrun⟩ := run_step_call hcall s
  · rwa [hrun]
  · rw [hrun]
    obtain ⟨-, hstays⟩ | ⟨b, r₁, hbound, -, hunbound⟩ := perform_cases hr preference id s.run
    · exact h.evolves hstays
    · exact (execute (hbound.held held) (h.evolves hbound) operation b).evolves hunbound
  · rw [hrun]
    exact execute held h operation b

end Client.Aloof

/-! ## §3. Names of sessions. -/

/-- Whether a step gives a session a name or takes one away. -/
def Step.names : Step → Bool
  | .startSession _ | .cloneSession _ _ | .dropSession _ => true
  | _ => false

/-- The sessions have the same names. -/
def SameNames (s s' : Scenario) : Prop := s'.sessions = s.sessions

instance : IsPreorder Scenario SameNames where
  refl _ := rfl
  trans _ _ _ h h' := Eq.trans h' h

namespace SameNames

open Play

variable {α : Type}

theorem act (x : Act α) : Leads SameNames (Scenario.act x) := fun _ => rfl

theorem letGo (old : Option α) (drop : α → Act Unit) :
    Leads SameNames (Scenario.letGo old drop) := by
  cases old with
  | none => exact .pure _
  | some a => exact act (drop a)

theorem trying {x : Exec α} {use : α → Play Answer} (h : ∀ a, Leads SameNames (use a)) :
    Leads SameNames (Scenario.trying x use) := by
  refine .bind (act x.run) fun result => ?_
  cases result with
  | ok a => exact h a
  | error e => exact .pure _

theorem client : Leads SameNames Scenario.client := act _

theorem keepBinding (name : String) (b : Binding) :
    Leads SameNames (Scenario.keepBinding name b) :=
  .bind (.binding? name) fun _ => .bind (fun _ => rfl) fun _ => letGo _ _

theorem keepSource (name : String) (source : Source) :
    Leads SameNames (Scenario.keepSource name source) :=
  .bind (.source? name) fun _ => .bind (fun _ => rfl) fun _ => letGo _ _

theorem keepConnection (name : String) (lease : Lease) :
    Leads SameNames (Scenario.keepConnection name lease) :=
  .bind (.connection? name) fun _ => .bind (fun _ => rfl) fun _ => letGo _ _

theorem dropConnection (name : String) : Leads SameNames (Scenario.dropConnection name) :=
  .bind (.connection? name) fun _ => .bind (fun _ => rfl) fun _ => .bind (letGo _ _) fun _ =>
    .pure _

theorem callSession (id : SessionId) (call : SessionCall) :
    Leads SameNames (Scenario.callSession id call) :=
  .bind (act _) fun _ => .bind client fun _ => .given fun _ => .pure _

theorem startTransaction (id : SessionId) (options : Option TransactionOptions) :
    Leads SameNames (Scenario.startTransaction id options) := by
  refine .bind client fun _ => .given fun s => ?_
  cases s.startTransaction options with
  | error misuse => exact .pure _
  | ok started => exact .bind (act _) fun _ => .pure _

theorem lookAt (x : SessionContext) (advance : Bool) :
    Leads SameNames (Scenario.lookAt x advance) := by
  cases advance with
  | false => exact .bind client fun _ => .pure _
  | true => exact .bind client fun _ => .bind (act _) fun _ => .pure _

theorem connectionAfter (source : Source) (dropped name : String) :
    Leads SameNames (Scenario.connectionAfter source dropped name) := by
  have hfinish : ∀ result, Leads SameNames (Scenario.connectionAfter.finish name result) :=
    fun result => trying fun lease => .bind (keepConnection name lease) fun _ => .pure _
  refine .bind client fun _ => ?_
  split
  · exact .bind (act _) fun result => .bind (dropConnection dropped) fun _ => hfinish result
  · exact .bind (dropConnection dropped) fun _ => .bind (act _) fun result => hfinish result

/-- All other steps leave the names of sessions as they are. -/
theorem step (what : Step) (h : what.names = false) : Leads SameNames (Scenario.step what) := by
  cases what with
  | refused => exact .pure _
  | cluster | server => exact .bind client fun _ => .pure _
  | update | remove => exact .bind (act _) fun _ => .bind client fun _ => .pure _
  | report | script | unreachable | reachable => exact .bind (act _) fun _ => .pure _
  | select => exact trying fun _ => .bind (act _) fun _ => .pure _
  | callSession session call =>
    exact .bind (.session? session) fun _ => .given fun id => callSession id call
  | startTransaction session options =>
    refine .bind (.session? session) fun _ => .given fun id => ?_
    cases options with
    | ok options => exact startTransaction id options
    | error e => exact .pure _
  | context origin advance =>
    exact .bind (.contextOf origin) fun _ => .given fun x => lookAt x advance
  | canRetryWrite server connection origin =>
    exact .bind (.contextOf origin) fun _ => .given fun _ => .bind client fun _ => .pure _
  | bind rp session name =>
    exact .bind (.optionalSession? session) fun _ => .given fun _ => trying fun b =>
      .bind (keepBinding name b) fun _ => .bind client fun _ => .pure _
  | binding binding =>
    exact .bind (.binding? binding) fun _ => .given fun _ => .bind client fun _ => .pure _
  | dropBinding binding =>
    exact .bind (.binding? binding) fun _ => .bind (fun _ => rfl) fun _ => .bind (letGo _ _)
      fun _ => .pure _
  | source binding intent name =>
    exact .bind (.binding? binding) fun _ => .given fun _ => trying fun source =>
      .bind (keepSource name source) fun _ => .pure _
  | rotate binding times =>
    exact .bind (.binding? binding) fun _ => .given fun _ => trying fun _ => .pure _
  | retain source name =>
    exact .bind (.source? source) fun _ => .given fun _ => .bind (act _) fun retained =>
      .bind (keepSource name retained) fun _ => .pure _
  | release source =>
    exact .bind (.source? source) fun _ => .given fun _ => .bind (fun _ => rfl) fun _ =>
      .bind (act _) fun _ => .pure _
  | connection source name =>
    exact .bind (.source? source) fun _ => .given fun _ => trying fun lease =>
      .bind (keepConnection name lease) fun _ => .pure _
  | connectionAfter source dropped name =>
    exact .bind (.source? source) fun _ => .given fun s => .bind (.connection? dropped) fun _ =>
      .given fun _ => connectionAfter s dropped name
  | dropConnection connection => exact .bind (dropConnection connection) fun _ => .pure _
  | command connection command origin =>
    exact .bind (.connection? connection) fun _ => .given fun _ => .bind (.contextOf origin)
      fun _ => .given fun _ => trying fun _ => .pure _
  | perform operation rp session =>
    exact .bind (.optionalSession? session) fun _ => .given fun _ => trying fun _ =>
      trying fun _ => .pure _
  | execute binding operation =>
    exact .bind (.binding? binding) fun _ => .given fun _ => trying fun _ => trying fun _ => .pure _
  | deliver binding =>
    exact .bind (.binding? binding) fun _ => .given fun _ => trying fun _ => .pure _
  | startSession | cloneSession | dropSession => cases h

end SameNames

/-! ## §4. Along steps. -/

/-- A caller has opened the session. -/
def Client.Explicit (c : Client) (id : SessionId) : Prop :=
  ∃ s, c.sessions[id]? = some s ∧ s.implicit = false

theorem Client.Explicit.kin {c c' : Client} {id : SessionId} (h : c.Explicit id) (hk : c.Kin c') :
    c'.Explicit id := by
  obtain ⟨s, hs, explicit⟩ := h
  obtain ⟨s', hs', heq⟩ := hk id s hs
  exact ⟨s', hs', heq.trans explicit⟩

namespace Scenario

/-- Only sessions of callers have names. -/
def Introduced (s : Scenario) : Prop := ∀ e ∈ s.sessions, s.run.client.Explicit e.2

/-- And no transaction is active in any other session. -/
structure Unmixed (s : Scenario) : Prop where
  aloof : s.run.client.Aloof
  introduced : s.Introduced

section Running

variable (s : Scenario)

/-- An answer changes nothing. -/
theorem run_given {α : Type} (thing : Option α) (answer : α → Answer) :
    ((given thing fun a => return answer a).run s).2 = s := by
  cases thing <;> rfl

theorem run_callSession (id : SessionId) (call : SessionCall) :
    ((callSession id call).run s).2 =
      { s with run := { s.run with client := call.apply id s.run.client } } :=
  run_given _ (call.apply id s.run.client).sessions[id]? (.called none)

/-- A session is started and kept. -/
theorem run_step_startSession (name : String) :
    ((step (.startSession name)).run s).2 =
      match startSession.on s.run with
      | (.error _, r) => { s with run := r }
      | (.ok id, r) => ((keepSession name id).run { s with run := r }).2 := by
  have hrun : (step (.startSession name)).run s = (trying startSession fun id => do
    keepSession name id
    given (← client).sessions[id]? fun s => return .session s).run s := rfl
  rw [hrun, Play.trying_run]
  rcases startSession.on s.run with ⟨e | id, r⟩
  · rfl
  · exact run_given _ _ .session

/-- A session gets another holder, which is kept. -/
theorem run_step_cloneSession (session name : String) :
    ((step (.cloneSession session name)).run s).2 =
      match s.sessions.lookup session with
      | none => s
      | some id => ((keepSession name id).run
          { s with run := { s.run with client := s.run.client.holdSession id } }).2 := by
  have hrun : (step (.cloneSession session name)).run s =
      (given (s.sessions.lookup session) fun id => do
        act (Run.onClient (·.holdSession id))
        keepSession name id
        return .nothing).run s := rfl
  rw [hrun]
  cases s.sessions.lookup session <;> rfl

theorem step_kin (what : Step) : s.run.client.Kin ((step what).run s).2.run.client :=
  have hstep : Evolves anywhere s.run ((step what).run s).2.run :=
    step_evolves what (fun _ _ => trivial) s
  hstep.kin

end Running

variable {s : Scenario}

namespace Introduced

theorem lookup (h : s.Introduced) {name : String} {id : SessionId}
    (hid : s.sessions.lookup name = some id) : s.run.client.Explicit id := by
  obtain ⟨l, l', heq, -⟩ := List.lookup_eq_some_iff.mp hid
  exact h (name, id) (by rw [heq]; simp)

/-- Names may go, and callers may give new ones. -/
theorem of_kin (h : s.Introduced) {s' : Scenario} (kin : s.run.client.Kin s'.run.client)
    (names : ∀ e ∈ s'.sessions, e ∈ s.sessions ∨ s.run.client.Explicit e.2) : s'.Introduced := by
  intro e he
  obtain hold | hnew := names e he
  · exact (h e hold).kin kin
  · exact hnew.kin kin

theorem letGo (h : s.Introduced) (old : Option SessionId) :
    ((letGo old abandonSession).run s).2.Introduced := by
  cases old with
  | none => exact h
  | some id => exact h.of_kin (.dropSession _ id) fun _ he => .inl he

theorem keepSession (h : s.Introduced) {id : SessionId} (hid : s.run.client.Explicit id)
    (name : String) : ((keepSession name id).run s).2.Introduced := by
  have kept : Introduced { s with sessions := s.sessions.put name id } := by
    refine h.of_kin (.refl _) fun e he => ?_
    obtain rfl | he := List.mem_cons.mp he
    · exact .inr hid
    · exact .inl (List.mem_of_mem_filter he)
  exact kept.letGo (s.sessions.lookup name)

/-- A session that a caller opens gets a name. -/
theorem startSession (h : s.Introduced) (name : String) :
    ((step (.startSession name)).run s).2.Introduced := by
  have hevolves : Evolves anywhere s.run (Run.startSession.on s.run).2 :=
    (sustains_evolves anywhere).startSession s.run
  have hfound : ∀ id, (Run.startSession.on s.run).1 = .ok id → ∃ server timeout,
      (Run.startSession.on s.run).2.client.sessions[id]? = some (.start server timeout false) :=
    fun _ => startSession_found
  rw [run_step_startSession]
  generalize Run.startSession.on s.run = went at hevolves hfound ⊢
  obtain ⟨e | id, r⟩ := went
  · exact h.of_kin hevolves.kin fun _ he => .inl he
  · obtain ⟨server, timeout, found⟩ := hfound id rfl
    have before : Introduced { s with run := r } := h.of_kin hevolves.kin fun _ he => .inl he
    exact before.keepSession ⟨_, found, rfl⟩ name

/-- One that has a name gets another. -/
theorem cloneSession (h : s.Introduced) (session name : String) :
    ((step (.cloneSession session name)).run s).2.Introduced := by
  rw [run_step_cloneSession]
  cases hid : s.sessions.lookup session with
  | none => exact h
  | some id =>
    have kin : s.run.client.Kin (s.run.client.holdSession id) := .modifySession fun _ _ => rfl
    have before : Introduced
        { s with run := { s.run with client := s.run.client.holdSession id } } :=
      h.of_kin kin fun _ he => .inl he
    exact before.keepSession ((h.lookup hid).kin kin) name

theorem dropSession (h : s.Introduced) (session : String) :
    ((step (.dropSession session)).run s).2.Introduced := by
  have dropped : Introduced { s with sessions := s.sessions.drop session } :=
    h.of_kin (.refl _) fun e he => .inl (List.mem_of_mem_filter he)
  exact dropped.letGo (s.sessions.lookup session)

/-- Every step keeps it so. -/
theorem step (h : s.Introduced) (what : Step) : ((step what).run s).2.Introduced := by
  cases hn : what.names with
  | false =>
    refine h.of_kin (step_kin s what) fun e he => .inl ?_
    rwa [SameNames.step what hn s] at he
  | true =>
    cases what with
    | startSession name => exact h.startSession name
    | cloneSession session name => exact h.cloneSession session name
    | dropSession session => exact h.dropSession session
    | _ => cases hn

end Introduced

namespace Unmixed

/-- To mark a transaction it takes the name of the session, so that a caller has opened it. -/
theorem aloof_markAs (h : s.Unmixed) (session : String) (state : TransactionState) :
    ((step (.callSession session (.markAs state))).run s).2.run.client.Aloof := by
  have hrun : (step (.callSession session (.markAs state))).run s =
      (given (s.sessions.lookup session) fun id => callSession id (.markAs state)).run s := rfl
  rw [hrun]
  cases hid : s.sessions.lookup session with
  | none => exact h.aloof
  | some id =>
    obtain ⟨found, hfound, explicit⟩ := h.introduced.lookup hid
    show ((callSession id (.markAs state)).run s).2.run.client.Aloof
    rw [run_callSession]
    refine h.aloof.modifySession fun s' hs' => ?_
    rw [hfound] at hs'
    cases hs'
    exact explicit

/-- No step activates a transaction in a session of one operation. -/
theorem aloof_step (h : s.Unmixed) (held : s.run.Held) (what : Step) :
    ((step what).run s).2.run.client.Aloof := by
  cases hn : what.numbers with
  | false =>
    have hstep : Evolves nowhere s.run ((step what).run s).2.run :=
      step_evolves what (fun ht => by rw [hn] at ht; cases ht) s
    exact h.aloof.evolves hstep
  | true =>
    cases what with
    | startTransaction session options =>
      exact h.aloof.of_tookOne (startTransaction_took s session options [])
    | context origin advance =>
      cases advance with
      | false => cases hn
      | true => exact h.aloof.of_tookOne (advance_took s origin [])
    | callSession session call =>
      cases call with
      | look | finish | markInProgress => cases hn
      | markAs state => exact h.aloof_markAs session state
    | perform operation rp session =>
      obtain ⟨_⟩ | ⟨operation⟩ := operation
      · cases hn
      · cases operation with
        | insert i => exact h.aloof.of_call held rfl rfl
        | runCommand | dropCollection | dropUser | commit | abort => cases hn
    | execute binding operation =>
      obtain ⟨_⟩ | ⟨operation⟩ := operation
      · cases hn
      · cases operation with
        | insert i => exact h.aloof.of_call held rfl rfl
        | runCommand | dropCollection | dropUser | commit | abort => cases hn
    | _ => cases hn

end Unmixed

/-- In every scenario only callers have transactions. -/
theorem Reachable.unmixed (h : s.Reachable) : s.Unmixed := by
  induction h with
  | @begun o c hstart =>
    refine ⟨fun s hmem => ?_, fun e he => nomatch he⟩
    have hnone : (begin c).run.client.sessions = [] := (sessions_start hstart).1
    rw [hnone] at hmem
    cases hmem
  | stepped h what ih => exact ⟨ih.aloof_step h.held what, ih.introduced.step what⟩
  | @happened s h happenings ih =>
    have hevolves : Evolves nowhere s.run ((happenAll happenings).on s.run).2 :=
      (sustains_evolves nowhere).happenAll happenings s.run
    exact ⟨ih.aloof.evolves hevolves, ih.introduced.of_kin hevolves.kin fun _ he => .inl he⟩
  | elsewhere h same ih =>
    have hevolves : Evolves nowhere _ _ := evolves_of_client_eq same
    exact ⟨ih.aloof.evolves hevolves, ih.introduced.of_kin hevolves.kin fun _ he => .inl he⟩

end Scenario

end ClusterClient
