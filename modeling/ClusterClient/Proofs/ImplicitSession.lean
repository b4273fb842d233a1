/-
  ClusterClient.Proofs.ImplicitSession — a session that is there for one operation.

  A session that was opened for one operation is followed through it together with the server
  sessions that wait.  `Client.HoldsImplicit` says how they are on the way: nothing is taken from
  those that wait or added to them, the session keeps its server session, and that bears the mark
  exactly if the network has lost a command so far.

  Main statement: `execute_implicit`.
-/
import ClusterClient.Proofs.Bindings
import ClusterClient.Proofs.LostCommands

namespace ClusterClient

open Run

variable {α : Type}

/-! ## §1. A session of one operation. -/

/-- A session that was opened for one operation, and what waited then. -/
structure ImplicitSession where
  id : SessionId
  /-- The identifier of its server session. -/
  number : Nat
  timeout : Nat
  waiting : List ServerSession

/-- The session with its server session and so many holders. -/
def ImplicitSession.session (l : ImplicitSession) (v : ServerSession) (k : Nat) : Session :=
  ⟨some v, .idle, true, l.timeout, k⟩

/-- The session is there, with so many holders more than its binding, and marked exactly if a
    command was lost; and those that wait are the same. -/
structure Client.HoldsImplicit (c : Client) (l : ImplicitSession) (k : Nat) (lost : Prop) :
    Prop where
  session : ∃ v, c.sessions[l.id]? = some (l.session v (k + 1)) ∧ v.id = l.number ∧
    (v.dirty = true ↔ lost)
  waiting : c.waiting = l.waiting

/-- A holder of several lets go of a session: only the number of its holders changes. -/
theorem Client.dropSession_of_held {c : Client} {id : SessionId} {s : Session} {k : Nat}
    (hs : c.sessions[id]? = some s) (hk : s.holders = k + 2) :
    c.dropSession id = c.modifySession id fun s => { s with holders := s.holders - 1 } := by
  have hfound : (c.modifySession id fun s => { s with holders := s.holders - 1 }).sessions[id]? =
      some { s with holders := s.holders - 1 } := sessions_modifySession hs _
  unfold dropSession
  dsimp only
  rw [hfound]
  exact if_neg (by simp [hk])

namespace Client.HoldsImplicit

variable {c c' : Client} {l : ImplicitSession} {k k' : Nat} {lost more : Prop}

theorem congr (h : c.HoldsImplicit l k lost) (hlost : lost ↔ more) : c.HoldsImplicit l k more := by
  obtain ⟨⟨v, hs, hid, hdirty⟩, hwaiting⟩ := h
  exact ⟨⟨v, hs, hid, hdirty.trans hlost⟩, hwaiting⟩

theorem same (h : c.HoldsImplicit l k lost) (hs : c.SameSessions c') :
    c'.HoldsImplicit l k lost := by
  obtain ⟨⟨v, hfound, hrest⟩, hwaiting⟩ := h
  exact ⟨⟨v, hs.sessions ▸ hfound, hrest⟩, hs.waiting.trans hwaiting⟩

/-- A change of the session that keeps its server session. -/
theorem modify (h : c.HoldsImplicit l k lost) {f : Session → Session}
    (hf : ∀ v, c.sessions[l.id]? = some (l.session v (k + 1)) →
      ∃ v', f (l.session v (k + 1)) = l.session v' (k' + 1) ∧ v'.id = v.id ∧
      (v'.dirty = true ↔ v.dirty = true ∨ more)) :
    (c.modifySession l.id f).HoldsImplicit l k' (lost ∨ more) := by
  obtain ⟨⟨v, hs, hid, hdirty⟩, hwaiting⟩ := h
  obtain ⟨v', heq, hid', hdirty'⟩ := hf v hs
  refine ⟨⟨v', ?_, hid'.trans hid, hdirty'.trans (or_congr_left hdirty)⟩, hwaiting⟩
  rw [sessions_modifySession hs, heq]

/-- The same without a mark. -/
theorem modify_unmarked (h : c.HoldsImplicit l k lost) {f : Session → Session}
    (hf : ∀ v, c.sessions[l.id]? = some (l.session v (k + 1)) →
      ∃ v', f (l.session v (k + 1)) = l.session v' (k' + 1) ∧ v'.id = v.id ∧
      v'.dirty = v.dirty) :
    (c.modifySession l.id f).HoldsImplicit l k' lost := by
  have hmodified : (c.modifySession l.id f).HoldsImplicit l k' (lost ∨ False) := by
    refine h.modify fun v hs => ?_
    obtain ⟨v', heq, hid, hdirty⟩ := hf v hs
    exact ⟨v', heq, hid, by rw [hdirty, or_false]⟩
  exact hmodified.congr (by rw [or_false])

theorem dropSession (h : c.HoldsImplicit l (k + 1) lost) :
    (c.dropSession l.id).HoldsImplicit l k lost := by
  obtain ⟨v, hs, -⟩ := h.session
  rw [Client.dropSession_of_held (k := k) hs rfl]
  exact h.modify_unmarked fun v _ => ⟨v, rfl, rfl, rfl⟩

end Client.HoldsImplicit

section Following

variable {b : Binding} {l : ImplicitSession} {source : Source} {lease : Lease} {command : Command}
variable {interpret : Interpretation α} {result : Except Error α} {r r' : Run} {k : Nat}
variable {lost : Prop}

/-- The session of a binding can be followed. -/
theorem follows_implicit {x : SessionContext} (hx : x.session = some l.id) (lost : Prop) :
    Follows x fun k c => c.HoldsImplicit l k lost where
  same h hs := h.same hs
  touch now h := by
    unfold SessionContext.modify
    rw [hx]
    exact h.modify_unmarked fun v _ => ⟨{ v with lastUse := now }, rfl, rfl, rfl⟩
  hold h := by
    unfold SessionContext.hold
    rw [hx]
    exact h.modify_unmarked fun v _ => ⟨v, rfl, rfl, rfl⟩

/-- Letting go of it is never the end. -/
theorem Client.HoldsImplicit.letGo {x : SessionContext} (hx : x.session = some l.id) {c : Client}
    (h : c.HoldsImplicit l (k + 1) lost) : (x.letGo c).HoldsImplicit l k lost := by
  unfold SessionContext.letGo
  rw [hx]
  exact h.dropSession

/-- A command that is lost leaves the mark. -/
theorem attempt_implicit (hx : source.context.session = some l.id)
    (h : r.client.HoldsImplicit l k lost)
    (ha : (attempt source lease command interpret).on r = (result, r')) :
    r'.client.HoldsImplicit l k (lost ∨ r.Loses lease) := by
  rw [attempt_on] at ha
  have hr := (Prod.mk.inj ha).2
  obtain ⟨-, hs⟩ := send_on lease command source.context r
  rw [hr] at hs
  refine Client.HoldsImplicit.same ?_ hs
  have hloses := send_loses_iff lease command source.context r
  generalize ((send lease command source.context).on r).1 = answer at hloses
  unfold SessionContext.marked
  by_cases hlost : r.Loses lease
  · obtain ⟨e, rfl, hnetwork⟩ := hloses.mpr hlost
    dsimp only
    rw [if_pos hnetwork]
    unfold SessionContext.modify
    rw [hx]
    exact h.modify fun v _ => ⟨{ v with dirty := true }, rfl, rfl, iff_of_true rfl (.inr hlost)⟩
  · have hsame : r.client.HoldsImplicit l k (lost ∨ r.Loses lease) :=
      h.congr (or_iff_left hlost).symm
    cases answer with
    | ok d => exact hsame
    | error e =>
      dsimp only
      rw [if_neg fun hnetwork => hlost (hloses.mp ⟨e, rfl, hnetwork⟩)]
      exact hsame

theorem emit_implicit (h : r.client.HoldsImplicit l k lost) (event : Event) :
    ((emit event).on r).2.client.HoldsImplicit l k lost :=
  h

end Following

/-! ## §2. Requests. -/

section Requests

variable {b : Binding} {request : Request α} {l : ImplicitSession} {r r₁ r₂ r' : Run} {k : Nat}
variable {source : Source} {lease : Lease} {command : Command} {e : Error}
variable {result : Except Error α}

/-- Making the command of the request neither marks the session nor ends it. -/
def Request.KeepsImplicit (request : Request α) (l : ImplicitSession) : Prop :=
  ∀ server connection r k lost, r.client.HoldsImplicit l k lost →
    ((request.create server connection).on r).2.client.HoldsImplicit l k lost

variable (hx : b.context.session = some l.id)
include hx

theorem Reached.implicit {intent : Intent} {lost : Prop} (h : r.client.HoldsImplicit l k lost)
    (hr : Reached b intent r source lease r') : r'.client.HoldsImplicit l (k + 1) lost :=
  (follows_implicit hx lost).reach h hr

theorem giveBack_implicit {lost : Prop} (hs : source.context = b.context)
    (h : r.client.HoldsImplicit l (k + 1) lost) :
    ((giveBack source lease).on r).2.client.HoldsImplicit l k lost :=
  (follows_implicit hx lost).giveBack (fun h => h.letGo hx) hs h

theorem reach_error_implicit {intent : Intent} {lost : Prop}
    (h : r.client.HoldsImplicit l k lost)
    (hr : (reach b intent).on r = (.error e, r')) : r'.client.HoldsImplicit l k lost :=
  (follows_implicit hx lost).reach_error (fun h => h.letGo hx) h hr

/-- One attempt, with what is given back after it. -/
theorem Opened.implicit (hkeeps : request.KeepsImplicit l) {lost : Prop}
    (h : r.client.HoldsImplicit l k lost)
    (hopen : Opened b request r source lease command r₁)
    (ha : (attempt source lease command request.interpret).on r₁ = (result, r₂)) :
    ((giveBack source lease).on r₂).2.client.HoldsImplicit l k (lost ∨ r₁.Loses lease) := by
  obtain ⟨r₀, hr, hc⟩ := hopen.made
  have hmade := hkeeps source.selected.description lease.description r₀ _ _ (hr.implicit hx h)
  rw [hc] at hmade
  have hsource : source.context.session = some l.id := hopen.context ▸ hx
  exact giveBack_implicit hx hopen.context (attempt_implicit hsource hmade ha)

/-- After the first attempt has failed, only a second one can add a loss. -/
theorem Failed.implicit (hkeeps : request.KeepsImplicit l)
    (h : r.client.HoldsImplicit l k False)
    (hf : Failed b request r command e r') :
    ∃ lost, r'.client.HoldsImplicit l k lost ∧ (Lost b request r ↔ lost ∨ ∃ source lease r'',
      SecondChance b r' command e source lease r'' ∧ r''.Loses lease) := by
  obtain ⟨source, lease, r₁, r₂, hopen, ha, rfl⟩ := hf.gaveBack
  refine ⟨r₁.Loses lease, (hopen.implicit hx hkeeps h ha).congr (by rw [false_or]), ?_⟩
  rw [hopen.loses_iff ha]
  refine or_congr_right ⟨?_, fun ⟨_, _, _, chance, hloses⟩ => ⟨_, _, _, _, rfl, chance, hloses⟩⟩
  rintro ⟨_, _, _, _, he, chance, hloses⟩
  cases he
  exact ⟨_, _, _, chance, hloses⟩

/-- Without a second chance the first failure is all that can be lost. -/
theorem Failed.implicit_of_final (hkeeps : request.KeepsImplicit l)
    (h : r.client.HoldsImplicit l k False)
    (hf : Failed b request r command e r')
    (hn : ∀ source lease r'', ¬ SecondChance b r' command e source lease r'') :
    r'.client.HoldsImplicit l k (Lost b request r) := by
  obtain ⟨lost, hholds, hlost⟩ := hf.implicit hx hkeeps h
  refine hholds.congr (hlost.trans (or_iff_left ?_)).symm
  rintro ⟨_, _, _, chance, -⟩
  exact hn _ _ _ chance

/-- With one, so can the second attempt. -/
theorem Failed.implicit_of_chance (hkeeps : request.KeepsImplicit l)
    (h : r.client.HoldsImplicit l k False)
    (hf : Failed b request r command e r')
    (chance : SecondChance b r' command e source lease r₁) (event : Event)
    (ha : (attempt source lease command request.interpret).on ((emit event).on r₁).2
      = (result, r₂)) :
    r₂.client.HoldsImplicit l (k + 1) (Lost b request r) := by
  obtain ⟨lost, hholds, hlost⟩ := hf.implicit hx hkeeps h
  have hsource : source.context.session = some l.id := chance.reached.context ▸ hx
  have hagain := emit_implicit (chance.reached.implicit hx hholds) event
  refine (attempt_implicit hsource hagain ha).congr (Iff.trans ?_ hlost.symm)
  -- Nothing but the record of events lies between reaching the connection and sending on it.
  refine or_congr_right ⟨fun hloses => ⟨_, _, _, chance, hloses⟩, ?_⟩
  rintro ⟨_, _, _, chance', hloses⟩
  obtain ⟨rfl, rfl, rfl⟩ := chance.reached.unique chance'.reached
  exact hloses

/-- Whatever course the request takes, the session is marked exactly if a command was lost. -/
theorem performRetryable_implicit (hkeeps : request.KeepsImplicit l)
    (h : r.client.HoldsImplicit l k False) :
    ((performRetryable b request).on r).2.client.HoldsImplicit l k (Lost b request r) := by
  have hcourse := performRetryable_course b request r
  generalize (performRetryable b request).on r = went at hcourse
  obtain ⟨result, r'⟩ := went
  cases hcourse with
  | unreached hr =>
    exact (reach_error_implicit hx h hr).congr (iff_of_false id (not_lost_of_unreached hr))
  | @unmade source lease _ r₁ _ hr hc =>
    have hmade := hkeeps source.selected.description lease.description r₁ _ _ (hr.implicit hx h)
    rw [hc] at hmade
    exact (giveBack_implicit hx hr.context hmade).congr (iff_of_false id (not_lost_of_unmade hr hc))
  | succeeded hopen ha =>
    refine (hopen.implicit hx hkeeps h ha).congr ?_
    rw [hopen.loses_iff ha, false_or]
    refine (or_iff_left ?_).symm
    rintro ⟨_, _, _, _, he, -⟩
    cases he
  | final hf hm =>
    refine hf.implicit_of_final hx hkeeps h fun _ _ _ chance => ?_
    rw [chance.mayRetry] at hm
    cases hm
  | unreachedAgain hf hm hr =>
    refine emit_implicit ?_ _
    refine reach_error_implicit hx (hf.implicit_of_final hx hkeeps h fun _ _ _ chance => ?_) hr
    rw [(reach_ok_iff ..).mpr chance.reached] at hr
    cases hr
  | abandoned hf hm hr hc =>
    refine giveBack_implicit hx hr.context (emit_implicit ?_ _)
    refine hr.implicit hx (hf.implicit_of_final hx hkeeps h fun _ _ _ chance => ?_)
    obtain ⟨rfl, rfl, rfl⟩ := hr.unique chance.reached
    rw [chance.supported] at hc
    cases hc
  | succeededAgain hf hm hr hc ha =>
    exact giveBack_implicit hx hr.context
      (hf.implicit_of_chance hx hkeeps h (.of_mayRetry hm hr hc) _ ha)
  | failedAgain hf hm hr hc ha =>
    exact giveBack_implicit hx hr.context
      (emit_implicit (hf.implicit_of_chance hx hkeeps h (.of_mayRetry hm hr hc) _ ha) _)

end Requests

/-! ## §3. Operations. -/

section Operations

variable {b : Binding} {l : ImplicitSession} {r : Run} {k : Nat}

theorem Client.HoldsImplicit.session? {c : Client} {lost : Prop} {x : SessionContext}
    (hx : x.session = some l.id) (h : c.HoldsImplicit l k lost) :
    ∃ v, x.session? c = some (l.session v (k + 1)) := by
  obtain ⟨v, hs, -⟩ := h.session
  exact ⟨v, (SessionContext.session?_eq hx c).trans hs⟩

/-- Outside a transaction an insert takes a number, or nothing. -/
theorem Insert.request_keepsImplicit (i : Insert) (hx : b.context.session = some l.id) :
    (i.request b.context).KeepsImplicit l := by
  intro server connection r k lost h
  show ((putSessionFields i.body server connection b.context).on r).2.client.HoldsImplicit l k lost
  obtain ⟨v, hs⟩ := h.session? hx
  cases able : canRetryWrite r.client server connection b.context with
  | true =>
    rw [putSessionFields_numbered i.body server connection hs rfl able]
    show (b.context.modify (fun _ => (l.session v (k + 1)).advanced) r.client).HoldsImplicit
      l k lost
    rw [SessionContext.session?_eq hx] at hs
    unfold SessionContext.modify
    rw [hx]
    refine h.modify_unmarked fun v' hs' => ?_
    rw [hs] at hs'
    cases hs'
    exact ⟨{ v with txnNumber := v.txnNumber + 1 }, rfl, rfl, rfl⟩
  | false =>
    have idle : b.context.inTransaction r.client = false := by
      rw [SessionContext.inTransaction, hs]
      rfl
    rw [putSessionFields_plain i.body server connection idle able]
    exact h

variable (hx : b.context.session = some l.id) (h : r.client.HoldsImplicit l k False)
include hx h

/-- Work that sends one command. -/
theorem within_implicit {α : Type} {intent : Intent} {operation : Operation}
    {work : Source → Lease → Exec α} (interpret : Interpretation α)
    (command : Source → Lease → Run → Command)
    (hwork : ∀ source lease r,
      (work source lease).on r = (attempt source lease (command source lease r) interpret).on r)
    (hsends : ∀ r₁ lease, operation.Sends b r r₁ lease ↔
      ∃ source, Reached b intent r source lease r₁) :
    ((withSource b intent fun source =>
      withConnection source (work source)).on r).2.client.HoldsImplicit l k
        (operation.Loses b r) := by
  unfold Operation.Loses
  simp only [hsends]
  rw [within_on]
  rcases hr : (reach b intent).on r with ⟨e | ⟨source, lease⟩, r'⟩
  · refine (reach_error_implicit hx h hr).congr (iff_of_false id ?_)
    rintro ⟨_, _, ⟨_, hreached⟩, -⟩
    rw [(reach_ok_iff ..).mpr hreached] at hr
    cases hr
  · replace hr := (reach_ok_iff ..).mp hr
    have hsource : source.context.session = some l.id := hr.context ▸ hx
    dsimp only
    rw [hwork]
    refine giveBack_implicit hx hr.context ?_
    refine (attempt_implicit hsource (hr.implicit hx h) rfl).congr ?_
    rw [false_or]
    refine ⟨fun hloses => ⟨_, _, ⟨_, hr⟩, hloses⟩, ?_⟩
    rintro ⟨_, _, ⟨_, hr'⟩, hloses⟩
    obtain ⟨rfl, rfl, rfl⟩ := hr.unique hr'
    exact hloses

theorem acknowledged_implicit {operation : Operation} (database : String) (body : Document)
    (hsends : ∀ r₁ lease, operation.Sends b r r₁ lease ↔
      ∃ source, Reached b .write r source lease r₁) :
    ((acknowledged b database body).on r).2.client.HoldsImplicit l k (operation.Loses b r) := by
  unfold acknowledged
  rw [Exec.on_bind_pure]
  exact within_implicit hx h _ (fun _ _ _ => .of database body) (fun _ _ _ => rfl) hsends

/-- An operation leaves the session of its own marked exactly if it lost a command. -/
theorem execute_implicit (operation : Operation) :
    ((operation.execute b).on r).2.client.HoldsImplicit l k (operation.Loses b r) := by
  obtain ⟨v, hs⟩ := h.session? hx
  cases operation with
  | insert i =>
    unfold Operation.execute
    rw [Exec.on_bind_pure]
    refine (performRetryable_implicit hx (i.request_keepsImplicit hx) h).congr ?_
    exact exists_congr fun _ => exists_congr fun _ =>
      and_congr_left' Operation.sends_insert_iff.symm
  | runCommand c =>
    unfold Operation.execute
    rw [Exec.on_bind_pure]
    exact within_implicit hx h (fun reply _ => .ok reply)
      (fun _ _ r => .ofRead c.database c.body (b.effectivePreference r.client))
      (fun _ _ _ => rfl) fun _ _ => Operation.sends_runCommand_iff
  | dropCollection database collection =>
    show ((acknowledged b database [("drop", .text collection)]).on r).2.client.HoldsImplicit l k _
    exact acknowledged_implicit hx h database [("drop", .text collection)] fun _ _ =>
      Operation.sends_dropCollection_iff
  | dropUser database user =>
    show ((acknowledged b database [("dropUser", .text user)]).on r).2.client.HoldsImplicit l k _
    exact acknowledged_implicit hx h database [("dropUser", .text user)] fun _ _ =>
      Operation.sends_dropUser_iff
  | commit =>
    show ((commitTransaction b).on r).2.client.HoldsImplicit l k _
    rw [commitTransaction_over hs (.inl rfl)]
    exact h.congr (iff_of_false id (Operation.not_loses_of_idle hs rfl (.inl rfl)))
  | abort =>
    obtain ⟨misuse, hon⟩ := abortTransaction_over hs rfl
    show ((abortTransaction b).on r).2.client.HoldsImplicit l k _
    rw [hon]
    exact h.congr (iff_of_false id (Operation.not_loses_of_idle hs rfl (.inr rfl)))

end Operations

end ClusterClient
