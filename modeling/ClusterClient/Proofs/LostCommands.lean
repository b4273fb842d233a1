/-
  ClusterClient.Proofs.LostCommands — what an operation sends, and what the network loses of it.

  An operation sends its command at most twice, and in which runs it does so is told by the course
  that it takes.  As all actions are functions of the run, there is only one course, and so there
  is one place at most for each of the two attempts: `Opened.attempted_iff`.  Each of them is found
  in the record of what was sent, and nothing else is.

  Main statement: `execute_sentIn`.
-/
import ClusterClient.Proofs.Ending
import ClusterClient.Proofs.Refusal

namespace ClusterClient

open Run

variable {α : Type}

/-! ## §1. Commands that are lost. -/

/-- The next command on the connection fails on the network. -/
def Run.Loses (r : Run) (lease : Lease) : Prop :=
  ∃ e, (r.deployment.nextReply lease.description.address).1.answer = .error e ∧ e.isNetwork = true

/-- What a reply reports is no failure of the network. -/
theorem Document.validate_reached {d : Document} {e : Error} (h : d.validate = .error e) :
    e.isNetwork = false := by
  unfold validate at h
  split at h
  · cases h
  · unfold Error.isNetwork
    split at h <;> cases h
    · rw [Error.cause_labelled]
    · rw [Error.cause_of]

/-- A failure of the network to answer, as the client sees it. -/
theorem send_loses_iff (lease : Lease) (command : Command) (x : SessionContext) (r : Run) :
    (∃ e, ((send lease command x).on r).1 = .error e ∧ e.isNetwork = true) ↔ r.Loses lease := by
  rw [send_result]
  unfold Loses
  cases (r.deployment.nextReply lease.description.address).1.answer with
  | error e => rfl
  | ok reply =>
    refine iff_of_false ?_ nofun
    rintro ⟨e, he, hnetwork⟩
    rw [Document.validate_reached he] at hnetwork
    cases hnetwork

/-! ## §2. One course. -/

section Course

variable {b : Binding} {intent : Intent} {request : Request α} {r r₁ r₁' r₂ r' r'' : Run}
variable {source source' : Source} {lease lease' : Lease} {command command' : Command}
variable {e e' : Error} {result : Except Error α}

theorem Reached.unique (h : Reached b intent r source lease r₁)
    (h' : Reached b intent r source' lease' r₁') :
    source' = source ∧ lease' = lease ∧ r₁' = r₁ := by
  have hreach := (reach_ok_iff ..).mpr h'
  rw [(reach_ok_iff ..).mpr h] at hreach
  cases hreach
  exact ⟨rfl, rfl, rfl⟩

theorem Opened.unique (h : Opened b request r source lease command r₁)
    (h' : Opened b request r source' lease' command' r₁') :
    source' = source ∧ lease' = lease ∧ command' = command ∧ r₁' = r₁ := by
  obtain ⟨r₀, hr, hc⟩ := h.made
  obtain ⟨r₀', hr', hc'⟩ := h'.made
  obtain ⟨rfl, rfl, rfl⟩ := hr.unique hr'
  rw [hc] at hc'
  cases hc'
  exact ⟨rfl, rfl, rfl, rfl⟩

/-- After the first attempt, a second one is made only if the first has failed. -/
theorem Opened.attempted_iff (h : Opened b request r source lease command r₁)
    (ha : (attempt source lease command request.interpret).on r₁ = (result, r₂)) :
    Attempted b request r r' lease' ↔ (r' = r₁ ∧ lease' = lease) ∨ ∃ e source', result = .error e ∧
      SecondChance b ((giveBack source lease).on r₂).2 command e source' lease' r' := by
  constructor
  · rintro (hopen | ⟨hf, chance⟩)
    · obtain ⟨rfl, rfl, rfl, rfl⟩ := h.unique hopen
      exact .inl ⟨rfl, rfl⟩
    · obtain ⟨_, _, _, _, hopen, ha', rfl⟩ := hf.gaveBack
      obtain ⟨rfl, rfl, rfl, rfl⟩ := h.unique hopen
      rw [ha] at ha'
      cases ha'
      exact .inr ⟨_, _, rfl, chance⟩
  · rintro (⟨rfl, rfl⟩ | ⟨e, _, rfl, chance⟩)
    · exact .first h
    · exact .second ⟨_, _, _, _, h, ha, rfl⟩ chance

/-- Nothing is sent without a command. -/
theorem not_attempted
    (h : ∀ source lease command r₁, ¬ Opened b request r source lease command r₁) :
    ¬ Attempted b request r r' lease := by
  rintro (hopen | ⟨hf, -⟩)
  · exact h _ _ _ _ hopen
  · obtain ⟨_, _, _, _, hopen, -⟩ := hf.gaveBack
    exact h _ _ _ _ hopen

variable (b request r) in
/-- One of the commands of the request is lost. -/
def Lost : Prop := ∃ r₁ lease, Attempted b request r r₁ lease ∧ r₁.Loses lease

/-- Nothing is lost that is not sent. -/
theorem not_lost (h : ∀ source lease command r₁, ¬ Opened b request r source lease command r₁) :
    ¬ Lost b request r :=
  fun ⟨_, _, attempted, _⟩ => not_attempted h attempted

theorem not_lost_of_unreached (h : (reach b .write).on r = (.error e, r')) :
    ¬ Lost b request r := by
  refine not_lost fun _ _ _ _ hopen => ?_
  obtain ⟨_, hr, -⟩ := hopen.made
  rw [(reach_ok_iff ..).mpr hr] at h
  cases h

theorem not_lost_of_unmade (h : Reached b .write r source lease r₁)
    (hc : (request.create source.selected.description lease.description).on r₁ = (.error e, r₂)) :
    ¬ Lost b request r := by
  refine not_lost fun _ _ _ _ hopen => ?_
  obtain ⟨_, hr, hc'⟩ := hopen.made
  obtain ⟨rfl, rfl, rfl⟩ := h.unique hr
  rw [hc] at hc'
  cases hc'

/-- After the first attempt only a second one can be lost, if the first has failed. -/
theorem Opened.loses_iff (h : Opened b request r source lease command r₁)
    (ha : (attempt source lease command request.interpret).on r₁ = (result, r₂)) :
    Lost b request r ↔ r₁.Loses lease ∨ ∃ e source' lease' r'', result = .error e ∧
      SecondChance b ((giveBack source lease).on r₂).2 command e source' lease' r'' ∧
      r''.Loses lease' := by
  constructor
  · rintro ⟨_, _, attempted, hloses⟩
    obtain ⟨rfl, rfl⟩ | ⟨_, _, he, chance⟩ := (h.attempted_iff ha).mp attempted
    · exact .inl hloses
    · exact .inr ⟨_, _, _, _, he, chance, hloses⟩
  · rintro (hloses | ⟨_, _, _, _, he, chance, hloses⟩)
    · exact ⟨_, _, .first h, hloses⟩
    · exact ⟨_, _, (h.attempted_iff ha).mpr (.inr ⟨_, _, he, chance⟩), hloses⟩

end Course

/-! ## §3. What was sent, and when. -/

/-- The runs with a connection are those in which a command was sent: one for each that was. -/
structure SentIn (x : SessionContext) (P : Run → Lease → Prop) (sent : List Transmission) :
    Prop where
  exists_run : ∀ t ∈ sent, ∃ r lease command, P r lease ∧ t = transmission lease command x r.client
  exists_mem : ∀ r lease, P r lease → ∃ command, transmission lease command x r.client ∈ sent

namespace SentIn

variable {x : SessionContext} {P Q : Run → Lease → Prop} {sent : List Transmission}

theorem nothing (h : ∀ r lease, ¬ P r lease) : SentIn x P [] :=
  ⟨fun _ ht => absurd ht List.not_mem_nil, fun r lease hp => absurd hp (h r lease)⟩

theorem once {r₁ : Run} {lease₁ : Lease} (command : Command)
    (h : ∀ r lease, P r lease ↔ r = r₁ ∧ lease = lease₁) :
    SentIn x P [transmission lease₁ command x r₁.client] where
  exists_run t ht := ⟨r₁, lease₁, command, (h _ _).mpr ⟨rfl, rfl⟩, List.mem_singleton.mp ht⟩
  exists_mem r lease hp := by
    obtain ⟨rfl, rfl⟩ := (h r lease).mp hp
    exact ⟨command, List.mem_singleton_self _⟩

theorem twice {r₁ r₂ : Run} {lease₁ lease₂ : Lease} (command : Command)
    (h : ∀ r lease, P r lease ↔ (r = r₁ ∧ lease = lease₁) ∨ (r = r₂ ∧ lease = lease₂)) :
    SentIn x P [transmission lease₁ command x r₁.client, transmission lease₂ command x r₂.client]
    where
  exists_run t ht := by
    obtain rfl | ht := List.mem_cons.mp ht
    · exact ⟨r₁, lease₁, command, (h _ _).mpr (.inl ⟨rfl, rfl⟩), rfl⟩
    · exact ⟨r₂, lease₂, command, (h _ _).mpr (.inr ⟨rfl, rfl⟩), List.mem_singleton.mp ht⟩
  exists_mem r lease hp := by
    obtain ⟨rfl, rfl⟩ | ⟨rfl, rfl⟩ := (h r lease).mp hp
    · exact ⟨command, List.mem_cons_self⟩
    · exact ⟨command, List.mem_cons_of_mem _ (List.mem_singleton_self _)⟩

theorem congr (h : SentIn x P sent) (hpq : ∀ r lease, P r lease ↔ Q r lease) : SentIn x Q sent where
  exists_run t ht := by
    obtain ⟨r, lease, command, hp, heq⟩ := h.exists_run t ht
    exact ⟨r, lease, command, (hpq r lease).mp hp, heq⟩
  exists_mem r lease hq := h.exists_mem r lease ((hpq r lease).mpr hq)

end SentIn

section Sent

variable {b : Binding} {intent : Intent} {request : Request α} {r : Run}

/-- A retryable request sends a command in each of its attempts. -/
theorem performRetryable_sentIn :
    SentIn b.context (Attempted b request r) ((performRetryable b request).sends r) := by
  obtain ⟨hnone, hs⟩ | ⟨source, lease, command, r₁, hopen, -⟩ :=
    sends_performRetryable_cases b request r
  · rw [hs]
    exact .nothing fun _ _ attempted => not_attempted hnone attempted
  rcases ha : (attempt source lease command request.interpret).on r₁ with ⟨e | a, r₂⟩
  · by_cases chance : ∃ source' lease' r',
      SecondChance b ((giveBack source lease).on r₂).2 command e source' lease' r'
    · obtain ⟨source', lease', r', chance⟩ := chance
      rw [(ends_resent hopen ha chance).sends_eq]
      refine .twice command fun r₃ lease₃ => (hopen.attempted_iff ha).trans (or_congr_right ?_)
      -- There is only one way to reach a connection again.
      constructor
      · rintro ⟨_, _, he, chance'⟩
        cases he
        obtain ⟨-, rfl, rfl⟩ := chance.reached.unique chance'.reached
        exact ⟨rfl, rfl⟩
      · rintro ⟨rfl, rfl⟩
        exact ⟨_, _, rfl, chance⟩
    · rw [(ends_failed hopen ha chance).sends_eq]
      refine .once command fun r₃ lease₃ => (hopen.attempted_iff ha).trans (or_iff_left ?_)
      rintro ⟨_, _, he, chance'⟩
      cases he
      exact chance ⟨_, _, _, chance'⟩
  · rw [(ends_succeeded hopen ha).sends_eq]
    refine .once command fun r₃ lease₃ => (hopen.attempted_iff ha).trans (or_iff_left ?_)
    rintro ⟨_, _, he, -⟩
    cases he

/-- Work that is an attempt sends its command wherever a connection is reached. -/
theorem within_sentIn {work : Source → Lease → Exec α} (interpret : Interpretation α)
    (command : Source → Lease → Run → Command)
    (hwork : ∀ source lease r,
      (work source lease).on r = (attempt source lease (command source lease r) interpret).on r) :
    SentIn b.context (fun r₁ lease => ∃ source, Reached b intent r source lease r₁)
      ((withSource b intent fun source => withConnection source (work source)).sends r) := by
  unfold Exec.sends
  rw [within_on]
  rcases hr : (reach b intent).on r with ⟨e | ⟨source, lease⟩, r₁⟩
  · have hsent := sent_of_unreached hr
    dsimp only
    rw [hsent, List.drop_length]
    refine .nothing fun _ _ ⟨_, hreached⟩ => ?_
    rw [(reach_ok_iff ..).mpr hreached] at hr
    cases hr
  · replace hr := (reach_ok_iff ..).mp hr
    dsimp only
    rw [hwork]
    rcases ha : (attempt source lease (command source lease r₁) interpret).on r₁ with ⟨result, r₂⟩
    dsimp only
    rw [sent_giveBack, sent_attempt ha, hr.sent_eq, hr.context, List.drop_left]
    refine .once (command source lease r₁) fun r' lease' => ⟨?_, ?_⟩
    · rintro ⟨_, hr'⟩
      obtain ⟨-, rfl, rfl⟩ := hr.unique hr'
      exact ⟨rfl, rfl⟩
    · rintro ⟨rfl, rfl⟩
      exact ⟨_, hr⟩

end Sent

/-! ## §4. Operations. -/

/-- In this run the operation sends a command on the connection. -/
inductive Operation.Sends (b : Binding) (r : Run) : Operation → Run → Lease → Prop where
  | insert {i : Insert} {r₁ : Run} {lease : Lease}
    (h : Attempted b (i.request b.context) r r₁ lease) : Sends b r (.insert i) r₁ lease
  | runCommand {c : RunCommand} {source : Source} {r₁ : Run} {lease : Lease}
    (h : Reached b .read r source lease r₁) : Sends b r (.runCommand c) r₁ lease
  | dropCollection {database collection : String} {source : Source} {r₁ : Run} {lease : Lease}
    (h : Reached b .write r source lease r₁) :
    Sends b r (.dropCollection database collection) r₁ lease
  | dropUser {database user : String} {source : Source} {r₁ : Run} {lease : Lease}
    (h : Reached b .write r source lease r₁) : Sends b r (.dropUser database user) r₁ lease
  | commit {s : Session} {r₁ : Run} {lease : Lease}
    (found : b.context.session? r.client = some s)
    (used : s.transaction.state = .inProgress ∨ s.transaction.state = .committed)
    (h : Attempted b (endRequest "commitTransaction" b.context) r r₁ lease) :
    Sends b r .commit r₁ lease
  | abort {s : Session} {r₁ : Run} {lease : Lease}
    (found : b.context.session? r.client = some s) (used : s.transaction.state = .inProgress)
    (h : Attempted b (endRequest "abortTransaction" b.context) r r₁ lease) :
    Sends b r .abort r₁ lease

/-- One of the commands of the operation fails on the network. -/
def Operation.Loses (operation : Operation) (b : Binding) (r : Run) : Prop :=
  ∃ r₁ lease, operation.Sends b r r₁ lease ∧ r₁.Loses lease

section Operations

variable {b : Binding} {r r₁ : Run} {lease : Lease}

theorem Operation.sends_insert_iff {i : Insert} :
    Operation.Sends b r (.insert i) r₁ lease ↔ Attempted b (i.request b.context) r r₁ lease := by
  refine ⟨fun hsend => ?_, .insert⟩
  cases hsend with | insert attempted => exact attempted

theorem Operation.sends_runCommand_iff {c : RunCommand} :
    Operation.Sends b r (.runCommand c) r₁ lease ↔ ∃ source, Reached b .read r source lease r₁ := by
  refine ⟨fun hsend => ?_, fun ⟨_, hreached⟩ => .runCommand hreached⟩
  cases hsend with | runCommand hreached => exact ⟨_, hreached⟩

theorem Operation.sends_dropCollection_iff {database collection : String} :
    Operation.Sends b r (.dropCollection database collection) r₁ lease ↔
      ∃ source, Reached b .write r source lease r₁ := by
  refine ⟨fun hsend => ?_, fun ⟨_, hreached⟩ => .dropCollection hreached⟩
  cases hsend with | dropCollection hreached => exact ⟨_, hreached⟩

theorem Operation.sends_dropUser_iff {database user : String} :
    Operation.Sends b r (.dropUser database user) r₁ lease ↔
      ∃ source, Reached b .write r source lease r₁ := by
  refine ⟨fun hsend => ?_, fun ⟨_, hreached⟩ => .dropUser hreached⟩
  cases hsend with | dropUser hreached => exact ⟨_, hreached⟩

/-- Where there was no transaction there is none to be ended. -/
theorem Operation.not_loses_of_idle {operation : Operation} {s : Session}
    (found : b.context.session? r.client = some s) (idle : s.transaction.state = .none)
    (ends : operation = .commit ∨ operation = .abort) : ¬ operation.Loses b r := by
  rintro ⟨_, _, hsend, -⟩
  cases hsend with
  | insert | runCommand | dropCollection | dropUser => simp at ends
  | commit found' used =>
    rw [found] at found'
    cases found'
    simp [idle] at used
  | abort found' used =>
    rw [found] at found'
    cases found'
    simp [idle] at used

end Operations

section Sends

variable (b : Binding) (r : Run)

theorem acknowledged_sentIn (database : String) (body : Document) :
    SentIn b.context (fun r₁ lease => ∃ source, Reached b .write r source lease r₁)
      ((acknowledged b database body).sends r) := by
  unfold acknowledged Exec.sends
  rw [Exec.on_bind_pure]
  exact within_sentIn _ (fun _ _ _ => .of database body) fun _ _ _ => rfl

variable {b r} in
/-- A commit of a transaction in which nothing was sent, or of none, sends nothing. -/
theorem sends_commitTransaction_unused (unused : ¬ ∃ s, b.context.session? r.client = some s ∧
    (s.transaction.state = .inProgress ∨ s.transaction.state = .committed)) :
    (commitTransaction b).sends r = [] := by
  have hsilent : ((commitTransaction b).on r).2.sent = r.sent := by
    cases found : b.context.session? r.client with
    | none => rw [commitTransaction_unbound found]
    | some s =>
      cases hstate : s.transaction.state with
      | none => rw [commitTransaction_over found (.inl hstate)]
      | aborted => rw [commitTransaction_over found (.inr hstate)]
      | starting => rw [commitTransaction_starting found hstate]
      | inProgress => exact absurd ⟨s, found, .inl hstate⟩ unused
      | committed => exact absurd ⟨s, found, .inr hstate⟩ unused
  unfold Exec.sends
  rw [hsilent, List.drop_length]

theorem commitTransaction_sentIn :
    SentIn b.context (Operation.Sends b r .commit) ((commitTransaction b).sends r) := by
  by_cases used : ∃ s, b.context.session? r.client = some s ∧
    (s.transaction.state = .inProgress ∨ s.transaction.state = .committed)
  · obtain ⟨s, found, used⟩ := used
    rw [sends_commitTransaction_used found used]
    refine performRetryable_sentIn.congr fun _ _ => ⟨.commit found used, fun hsend => ?_⟩
    cases hsend with | commit _ _ attempted => exact attempted
  · rw [sends_commitTransaction_unused used]
    refine .nothing fun _ _ hsend => ?_
    cases hsend with | commit found used' => exact used ⟨_, found, used'⟩

variable {b r} in
theorem sends_abortTransaction_used {s : Session} (found : b.context.session? r.client = some s)
    (used : s.transaction.state = .inProgress) :
    (abortTransaction b).sends r =
      (performRetryable b (endRequest "abortTransaction" b.context)).sends r := by
  unfold Exec.sends
  rw [abortTransaction_inProgress found used]

variable {b r} in
/-- An abort of a transaction in which nothing was sent, or of none, sends nothing. -/
theorem sends_abortTransaction_unused (unused : ¬ ∃ s, b.context.session? r.client = some s ∧
    s.transaction.state = .inProgress) : (abortTransaction b).sends r = [] := by
  have hsilent : ((abortTransaction b).on r).2.sent = r.sent := by
    cases found : b.context.session? r.client with
    | none => rw [abortTransaction_unbound found]
    | some s =>
      by_cases hstarting : s.transaction.state = .starting
      · rw [abortTransaction_starting found hstarting]
      · have hidle : s.inTransaction = false := by
          unfold Session.inTransaction Transaction.isActive
          cases hstate : s.transaction.state with
          | none | committed | aborted => rfl
          | starting => exact absurd hstate hstarting
          | inProgress => exact absurd ⟨s, found, hstate⟩ unused
        obtain ⟨misuse, hon⟩ := abortTransaction_over found hidle
        rw [hon]
  unfold Exec.sends
  rw [hsilent, List.drop_length]

theorem abortTransaction_sentIn :
    SentIn b.context (Operation.Sends b r .abort) ((abortTransaction b).sends r) := by
  by_cases used : ∃ s, b.context.session? r.client = some s ∧ s.transaction.state = .inProgress
  · obtain ⟨s, found, used⟩ := used
    rw [sends_abortTransaction_used found used]
    refine performRetryable_sentIn.congr fun _ _ => ⟨.abort found used, fun hsend => ?_⟩
    cases hsend with | abort _ _ attempted => exact attempted
  · rw [sends_abortTransaction_unused used]
    refine .nothing fun _ _ hsend => ?_
    cases hsend with | abort found used' => exact used ⟨_, found, used'⟩

/-- What an operation sends, it sends in just these runs. -/
theorem execute_sentIn (operation : Operation) :
    SentIn b.context (operation.Sends b r) ((operation.execute b).sends r) := by
  cases operation with
  | insert i =>
    unfold Operation.execute Exec.sends
    rw [Exec.on_bind_pure]
    exact performRetryable_sentIn.congr fun _ _ => Operation.sends_insert_iff.symm
  | runCommand c =>
    unfold Operation.execute Exec.sends
    rw [Exec.on_bind_pure]
    refine (within_sentIn (fun reply _ => .ok reply)
      (fun _ _ r => .ofRead c.database c.body (b.effectivePreference r.client))
      fun _ _ _ => rfl).congr fun _ _ => Operation.sends_runCommand_iff.symm
  | dropCollection database collection =>
    exact (acknowledged_sentIn b r database [("drop", .text collection)]).congr fun _ _ =>
      Operation.sends_dropCollection_iff.symm
  | dropUser database user =>
    exact (acknowledged_sentIn b r database [("dropUser", .text user)]).congr fun _ _ =>
      Operation.sends_dropUser_iff.symm
  | commit => exact commitTransaction_sentIn b r
  | abort => exact abortTransaction_sentIn b r

end Sends

end ClusterClient
