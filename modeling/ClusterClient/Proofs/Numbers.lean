/-
  ClusterClient.Proofs.Numbers — the numbers that commands carry.

  An insert, a commit or an abort puts the number of its session into its command, and the
  connection puts the identifier of the session there when it sends it.  Between the two nothing
  touches the counter, and a session that has a holder does not end.  So when a command with a
  number is sent, in whatever way the scenario came about, the number is the one that the session
  of the command has at that moment, and the identifier is there if the session has one.

  A session that has ended has no identifier, and its number reads as zero.  If it ends while a
  transaction is active, the commands of the transaction go on carrying that zero, without a
  session (`sent_number`, `endedSession_number`).
-/
import ClusterClient.Proofs.History
import ClusterClient.Proofs.Reachable

namespace ClusterClient

open Run

variable {α β : Type}

/-! ## §1. Commands and their sessions. -/

/-- The command carries the identifier of the session of the deployment and its number. -/
def Command.Belongs (c : Command) (v : ServerSession) : Prop :=
  c.HasIdentifier (some v.id) ∧ c.HasNumber v.txnNumber

/-- The number in the command is that of the session it was sent in. -/
structure Transmission.Numbered (t : Transmission) (s : Session) : Prop where
  session : t.session = some s
  number : t.command.HasNumber s.txnNumber
  identifier : t.command.HasIdentifier s.id?

/-- A command made with the number of a session and sent in it. -/
theorem Transmission.Of.numbered {t : Transmission} {command : Command} {s : Session}
    (h : t.Of command (some s)) (hn : command.HasNumber s.txnNumber)
    (hl : command.body.value? "lsid" = none) : ∃ s₀, t.Numbered s₀ := by
  obtain ⟨k, hsession⟩ := h.session
  obtain ⟨s₀, hs₀, hlike⟩ := Option.map_eq_some_iff.mp hsession
  replace hlike : s₀.Like k s := hlike
  refine ⟨s₀, hs₀, ?_, ?_⟩
  · rw [h.hasNumber_iff, hlike.txnNumber]
    exact hn
  -- The identifier is put in on the way out, and only by a session that has not ended.
  · obtain ⟨kind, hc⟩ := h.command
    rw [hc, hlike.id?, Option.bind_some]
    cases s.id? with
    | none => exact (Command.value?_prepare_none command kind (by decide)).trans hl
    | some id => exact Command.hasIdentifier_prepare command id kind

/-- What an insert makes with a number is made with that of the session it leaves. -/
theorem Insert.Makes.number {i : Insert} {o o' : Option Session} {command : Command}
    (h : i.Makes o command o') (hn : command.hasTxnNumber = true) :
    ∃ s, o' = some s ∧ command.HasNumber s.txnNumber ∧
      command.body.value? "lsid" = none := by
  cases h with
  | @joined s active =>
    refine ⟨_, rfl, hasNumber_join i s, ?_⟩
    exact value?_join s i.body (by decide) (by decide) (by decide)
  | @numbered s idle open_ =>
    refine ⟨_, rfl, ?_, ?_⟩
    · rw [Session.txnNumber_advanced open_]
      exact hasNumber_put i _
    · show (i.body.put "txnNumber" _).value? "lsid" = none
      rw [Document.value?_put_of_ne _ _ (by decide)]
      rfl
  | plain => cases hn

/-- The end of a transaction is made without the identifier of the session. -/
theorem lsid_endBody {name : String} (hname : name ≠ "lsid") (o : Option Session) :
    (Command.of "admin" (endBody name o)).body.value? "lsid" = none := by
  show (endBody name o).value? "lsid" = none
  unfold endBody
  rw [Document.value?_put_of_ne _ _ (by decide)]
  cases o with
  | none => simp [Document.value?, hname]
  | some s =>
    dsimp only
    rw [Document.value?_put_of_ne _ _ (by decide)]
    simp [Document.value?, hname]

/-! ## §2. What operations send. -/

/-- However an operation goes, what it sends with a number is sent in the session that has it. -/
theorem Effect.numbered {s s' : Session} {operation : Operation} {result : Except Error Outcome}
    {new : List Transmission} (h : Effect s operation result new s')
    (hn : operation.isNumbered = true) :
    ∀ t ∈ new, t.command.hasTxnNumber = true → ∃ s₀, t.Numbered s₀ := by
  intro t ht hnumber
  cases h with
  | refused | committedAtOnce | abortedAtOnce => cases ht
  | other ho =>
    rw [hn] at ho
    cases ho
  | inserted made _ each =>
    -- A number on the wire was in the command that was made.
    have hof := each t ht
    rw [Command.hasTxnNumber_eq, hof.txnNumber?_eq, ← Command.hasTxnNumber_eq] at hnumber
    obtain ⟨s₁, hs₁, hmade, hlsid⟩ := made.number hnumber
    cases hs₁
    exact hof.numbered hmade hlsid
  | committed _ _ each | uncommitted _ each | aborted _ each =>
    exact (each t ht).numbered (hasNumber_endBody s _) (lsid_endBody (by decide) (some s))

/-- All that an action sends with a number is sent in the session that has it. -/
def SendsNumbered (x : Exec α) (r : Run) : Prop :=
  ∀ t ∈ x.sends r, t.command.hasTxnNumber = true → ∃ s, t.Numbered s

/-- Nothing sent, nothing to show. -/
theorem sendsNumbered_of_silent {x : Exec α} {r : Run} (h : (x.on r).2.sent = r.sent) :
    SendsNumbered x r := by
  intro t ht
  unfold Exec.sends at ht
  rw [h, List.drop_length] at ht
  cases ht

section Operations

variable {b : Binding} {r : Run}

/-- Without a session an insert has no number to carry. -/
theorem insert_sendsNumbered_of_none (i : Insert) (none_ : b.context.session? r.client = none) :
    SendsNumbered ((Operation.insert i).execute b) r := by
  have ho : AllKept none := fun _ hs => nomatch hs
  have hshows := Shows.self b.context r.client
  rw [none_, Option.map_none] at hshows
  have hsend := performRetryable_sending (i.request_makes b.context none) ho
    (fun _ _ made => made.kept ho) hshows
  unfold SendsNumbered Exec.sends Operation.execute
  rw [Exec.on_bind_pure]
  generalize (performRetryable b (i.request b.context)).on r = went at hsend ⊢
  obtain ⟨result, r'⟩ := went
  intro t ht hnumber
  cases hsend with
  | unsent sent _ =>
    rw [sent, List.drop_length] at ht
    cases ht
  | sent made _ sent _ each =>
    rw [sent, List.drop_left] at ht
    rw [Command.hasTxnNumber_eq, (each t ht).txnNumber?_eq] at hnumber
    cases made with
    | plain => cases hnumber

theorem execute_sendsNumbered {operation : Operation} (hn : operation.isNumbered = true)
    (h : r.Held) : SendsNumbered (operation.execute b) r := by
  cases found : b.context.session? r.client with
  | none =>
    cases operation with
    | insert i => exact insert_sendsNumbered_of_none i found
    | commit =>
      refine sendsNumbered_of_silent ?_
      simp only [Operation.execute, commitTransaction, Exec.on_bind, Exec.on_lift,
        on_currentClient, found, Exec.on_throw]
    | abort =>
      refine sendsNumbered_of_silent ?_
      simp only [Operation.execute, abortTransaction, Exec.on_bind, Exec.on_lift,
        on_currentClient, found, Exec.on_throw]
    | runCommand | dropCollection | dropUser => cases hn
  | some s =>
    obtain ⟨new, s', heffect, hsent, -⟩ :=
      execute_takes operation (h.kept_still found) (.of_found found)
    unfold SendsNumbered
    rw [Exec.sends_eq_of_sent hsent]
    exact heffect.numbered hn

end Operations

/-! ## §3. What steps send. -/

theorem bind_silent (preference : ReadPreference) (session : Option SessionId) :
    (Binding.bind preference session).Keeps Silent := by
  refine .bind (.lift .currentClient) fun c => ?_
  cases session with
  | some id => exact .bind (.lift (onClient_silent _)) fun _ => .pure _
  | none =>
    refine .bind (.bind sessionSupport_quiet.silent fun support => ?_) fun _ => .pure _
    cases support with
    | undetermined | unsupported => exact .pure _
    | supported timeout =>
      exact .bind (.lift .currentClient) fun _ => .bind (.lift (onClient_silent _)) fun _ => .pure _

theorem unbind_silent (b : Binding) : b.unbind.Keeps Silent := by
  unfold Binding.unbind
  cases b.context.session with
  | none => exact .pure _
  | some id =>
    dsimp only
    split
    · exact .bind (onClient_silent _) fun _ => onClient_silent _
    · exact onClient_silent _

/-- An operation that does not read is executed on a binding, if there is one.  Making the binding
    and letting go of it takes no numbers and sends nothing. -/
theorem perform_cases {operation : Operation} (hr : operation.reads = false)
    (preference : ReadPreference) (session : Option SessionId) (r : Run) :
    (perform operation preference session).sends r = [] ∧
        Evolves nowhere r ((perform operation preference session).on r).2 ∨
      ∃ b r₁, Evolves nowhere r r₁ ∧
        (perform operation preference session).sends r = (operation.execute b).sends r₁ ∧
        Evolves nowhere ((operation.execute b).on r₁).2
          ((perform operation preference session).on r).2 := by
  have hsilent := bind_silent .primary session r
  have hbound := (sustains_evolves nowhere).bind .primary session r
  rw [perform_of_not_reads hr]
  unfold Exec.sends withBinding
  rw [Exec.on_bind]
  generalize (Binding.bind .primary session).on r = went at hsilent hbound ⊢
  obtain ⟨e | b, r₁⟩ := went
  · refine .inl ⟨?_, hbound⟩
    rw [show r₁.sent = r.sent from hsilent, List.drop_length]
  · refine .inr ⟨b, r₁, hbound, ?_, ?_⟩
    · dsimp only
      rw [on_ensuring, executeLabelled_run, unbind_silent b _, show r₁.sent = r.sent from hsilent]
    · dsimp only
      rw [on_ensuring, executeLabelled_run]
      exact (sustains_evolves nowhere).unbind b _

theorem perform_sendsNumbered {operation : Operation} (hn : operation.isNumbered = true)
    (preference : ReadPreference) (session : Option SessionId) {r : Run} (h : r.Held) :
    SendsNumbered (perform operation preference session) r := by
  have hr : operation.reads = false := by
    cases operation with
    | runCommand => cases hn
    | insert | dropCollection | dropUser | commit | abort => rfl
  obtain ⟨hnone, -⟩ | ⟨b, r₁, hbound, hsends, -⟩ := perform_cases hr preference session r
  · intro t ht
    rw [hnone] at ht
    cases ht
  · intro t ht
    rw [hsends] at ht
    exact execute_sendsNumbered hn (hbound.held h) t ht

/-- What a step sends. -/
def Play.sends (x : Play α) (s : Scenario) : List Transmission :=
  (x.run s).2.run.sent.drop s.run.sent.length

/-- The operation that a step calls. -/
def Step.operation? : Step → Option Operation
  | .perform (.ok operation) _ _ => some operation
  | .execute _ (.ok operation) => some operation
  | _ => none

/-- A step that only answers what comes of an action does the action. -/
theorem run_trying {x : Exec α} {f : α → Answer} (s : Scenario) :
    ((Scenario.trying x fun a => return f a).run s).2 = { s with run := (x.on s.run).2 } := by
  have hact : (Scenario.act x.run).run s = ((x.on s.run).1, { s with run := (x.on s.run).2 }) := rfl
  unfold Scenario.trying
  rw [StateT.run_bind, hact]
  cases (x.on s.run).1 with
  | ok a => rfl
  | error e => rfl

theorem optionalSession?_run (name : Option String) (s : Scenario) :
    ∃ found, (Scenario.optionalSession? name).run s = (found, s) := by
  cases name with
  | none => exact ⟨_, rfl⟩
  | some name => exact ⟨_, rfl⟩

theorem Scenario.run_step_perform (operation : Operation) (preference : ReadPreference)
    (session : Option String) (s : Scenario) :
    ((step (.perform (.ok operation) preference session)).run s).2 =
      match ((optionalSession? session).run s).1 with
      | none => s
      | some id => { s with run := ((perform operation preference id).on s.run).2 } := by
  -- Looking for the session changes nothing, so the step goes on from the same scenario.
  obtain ⟨found, hfound⟩ := optionalSession?_run session s
  show ((given ((optionalSession? session).run s).1 _).run
    ((optionalSession? session).run s).2).2 = _
  rw [hfound]
  cases found with
  | none => rfl
  | some id => exact run_trying s

theorem Scenario.run_step_execute (operation : Operation) (binding : String) (s : Scenario) :
    ((step (.execute binding (.ok operation))).run s).2 =
      match s.bindings.lookup binding with
      | none => s
      | some b => { s with run := ((operation.execute b).on s.run).2 } := by
  show ((given (s.bindings.lookup binding) _).run s).2 = _
  cases s.bindings.lookup binding with
  | none => rfl
  | some b => exact run_trying s

/-- A step that calls an operation does what the operation does, unless it names a session or a
    binding that does not exist. -/
theorem run_step_call {what : Step} {operation : Operation}
    (hcall : what.operation? = some operation) (s : Scenario) :
    ((Scenario.step what).run s).2 = s ∨
      (∃ preference id, ((Scenario.step what).run s).2 =
        { s with run := ((perform operation preference id).on s.run).2 }) ∨
      ∃ b, ((Scenario.step what).run s).2 =
        { s with run := ((operation.execute b).on s.run).2 } := by
  cases what with
  | perform called preference session =>
    obtain ⟨_⟩ | ⟨operation⟩ := called
    · cases hcall
    cases hcall
    rw [Scenario.run_step_perform]
    cases ((Scenario.optionalSession? session).run s).1 with
    | none => exact .inl rfl
    | some id => exact .inr (.inl ⟨preference, id, rfl⟩)
  | execute binding called =>
    obtain ⟨_⟩ | ⟨operation⟩ := called
    · cases hcall
    cases hcall
    rw [Scenario.run_step_execute]
    cases s.bindings.lookup binding with
    | none => exact .inl rfl
    | some b => exact .inr (.inr ⟨b, rfl⟩)
  | _ => cases hcall

theorem step_sendsNumbered {scenario : Scenario} (h : scenario.run.Held) {what : Step}
    {operation : Operation} (hcall : what.operation? = some operation)
    (hn : operation.isNumbered = true) :
    ∀ t ∈ Play.sends (Scenario.step what) scenario,
      t.command.hasTxnNumber = true → ∃ s, t.Numbered s := by
  unfold Play.sends
  obtain hrun | ⟨preference, id, hrun⟩ | ⟨b, hrun⟩ := run_step_call hcall scenario
  · rw [hrun, List.drop_length]
    exact fun _ ht => nomatch ht
  · rw [hrun]
    exact perform_sendsNumbered hn preference id h
  · rw [hrun]
    exact execute_sendsNumbered hn h

/-! ## §4. The number of a command that is sent. -/

/-- Every command with a number that an insert, a commit or an abort sends is sent in a session.
    If that has not ended, the command carries its identifier and its number as they are at that
    moment.  If it has, the command carries zero for a number and no session at all. -/
theorem sent_number {scenario : Scenario} (h : scenario.Reachable) {what : Step}
    {operation : Operation} (hcall : what.operation? = some operation)
    (hn : operation.isNumbered = true) {t : Transmission}
    (ht : t ∈ Play.sends (Scenario.step what) scenario)
    (hnumber : t.command.hasTxnNumber = true) :
    ∃ s, t.session = some s ∧
      match s.server with
      | some server => t.command.Belongs server
      | none => t.command.HasIdentifier none ∧ t.command.HasNumber 0 := by
  obtain ⟨s, hs⟩ := step_sendsNumbered h.held hcall hn t ht hnumber
  refine ⟨s, hs.session, ?_⟩
  have hidentifier := hs.identifier
  have hnumbered := hs.number
  unfold Session.id? at hidentifier
  unfold Session.txnNumber at hnumbered
  cases hserver : s.server with
  | some server =>
    rw [hserver] at hidentifier hnumbered
    exact ⟨hidentifier, hnumbered⟩
  | none =>
    rw [hserver] at hidentifier hnumbered
    exact ⟨hidentifier, hnumbered⟩

namespace Lone

/-- The scenario in which a caller has started a transaction. -/
def begun : Scenario :=
  .after client [.update primary, .startSession "s", .startTransaction "s" (.ok none)]

/-- The scenario in which the session of the transaction has been ended. -/
def ended : Scenario := ((Scenario.step (.callSession "s" .finish)).run begun).2

theorem reachable_begun : begun.Reachable := .after (o := options) rfl _

theorem reachable_ended : ended.Reachable := reachable_begun.stepped _

end Lone

/-- An insert in the transaction of a session that was ended: its number belongs to no session. -/
theorem endedSession_number :
    Lone.ended.Reachable ∧
      ∃ t ∈ Play.sends (Scenario.step (.perform (.ok Lone.insert) .primary (some "s"))) Lone.ended,
        t.command.hasTxnNumber = true ∧ t.command.body.value? "lsid" = none :=
  ⟨Lone.reachable_ended, by decide +kernel⟩

/-- The same insert while the session lasts. -/
theorem sent_number_lone :
    ∃ t ∈ Play.sends (Scenario.step (.perform (.ok Lone.insert) .primary (some "s"))) Lone.begun,
      ∃ s, t.session = some s ∧
        match s.server with
        | some server => t.command.Belongs server
        | none => t.command.HasIdentifier none ∧ t.command.HasNumber 0 := by
  obtain ⟨t, ht, hnumber⟩ : ∃ t ∈
      Play.sends (Scenario.step (.perform (.ok Lone.insert) .primary (some "s"))) Lone.begun,
      t.command.hasTxnNumber = true := by decide +kernel
  exact ⟨t, ht, sent_number Lone.reachable_begun rfl rfl ht hnumber⟩

end ClusterClient
