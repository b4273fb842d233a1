/-
  ClusterClient.Proofs.Reading — reads in a transaction.

  Two places look after a read in a transaction.  The executor looks at the preference of the caller
  before there is a binding, and the binding at that of the transaction before there is a server.
  Either refuses what is not meant for the primary, and when it does nothing has happened yet.  What
  is not refused is selected as a write is, and the command is made once a connection is there, with
  the preference of the binding looked up again; the transaction has not become another one in
  between.  So the command is for the primary, and a router is told nothing of its preference; only
  what the caller has written into the command goes out with it.

  Main statement: `Scenario.Reachable.readsOnPrimary`.
-/
import ClusterClient.Proofs.Numbers
import ClusterClient.Proofs.Refusal
import ClusterClient.Proofs.Routing

namespace ClusterClient

open Run

variable {α : Type}

/-! ## §1. The preference that counts. -/

theorem ReadPreference.isPrimary_iff (rp : ReadPreference) :
    rp.isPrimary = true ↔ rp = .primary := by
  cases rp with
  | primary => exact iff_of_true rfl rfl
  | flexible mode options => exact iff_of_false Bool.false_ne_true nofun

/-- The read preference that the transaction was started with. -/
def Transaction.preference? (t : Transaction) : Option ReadPreference :=
  t.options.bind (·.readPreference)

/-- The preference of the caller or that of the transaction is for another server than the
    primary. -/
def Session.Misdirects (s : Session) (rp : ReadPreference) : Prop :=
  rp ≠ .primary ∨ ∃ p, s.transaction.preference? = some p ∧ p ≠ .primary

section Preferences

variable {b : Binding} {c : Client} {s : Session}

theorem inTransaction_of_session? {x : SessionContext} (hs : x.session? c = some s)
    (active : s.inTransaction = true) : x.inTransaction c = true := by
  unfold SessionContext.inTransaction
  rw [hs]
  exact active

/-- In a transaction the preference of the binding is that of the transaction. -/
theorem effectivePreference_of_active (hs : b.context.session? c = some s)
    (active : s.inTransaction = true) :
    b.effectivePreference c = s.transaction.preference?.getD .primary := by
  have hpreference : b.context.transactionReadPreference? c = s.transaction.preference? := by
    unfold SessionContext.transactionReadPreference?
    rw [hs]
    exact if_pos active
  unfold Binding.effectivePreference
  rw [if_pos (inTransaction_of_session? hs active), hpreference]

/-- It is not for the primary if the transaction was started so. -/
theorem effectivePreference_ne_primary_iff (hs : b.context.session? c = some s)
    (active : s.inTransaction = true) :
    b.effectivePreference c ≠ .primary ↔
      ∃ p, s.transaction.preference? = some p ∧ p ≠ .primary := by
  rw [effectivePreference_of_active hs active]
  cases s.transaction.preference? with
  | none => simp
  | some p => simp

end Preferences

/-! ## §2. Sources for reading. -/

section Sources

variable {b : Binding} {r : Run}

/-- The binding refuses before anything has happened. -/
theorem source_refused (active : b.context.inTransaction r.client = true)
    (other : b.effectivePreference r.client ≠ .primary) :
    (b.source .read).on r =
      (.error (Error.of (.notPrimaryInTransaction (b.effectivePreference r.client))), r) := by
  have hother : (b.effectivePreference r.client).isPrimary = false := by
    rw [← Bool.not_eq_true, ReadPreference.isPrimary_iff]
    exact other
  simp only [Binding.source, Exec.on_bind, Exec.on_lift, on_currentClient, active, hother]
  rfl

/-- What it does not refuse is selected like a write. -/
theorem source_admitted (primary : b.effectivePreference r.client = .primary) :
    (b.source .read).on r = (b.leaseSource .writable).on r := by
  simp only [Binding.source, Exec.on_bind, Exec.on_lift, on_currentClient, primary,
    ReadPreference.isPrimary, Bool.not_true, Bool.and_false]
  rfl

/-- Leasing a server fails because there is none. -/
theorem leaseSource_not_refusal {criteria : Criteria} {e : Error}
    (h : ((b.leaseSource criteria).on r).1 = .error e) : ¬ e.IsRefusal := by
  obtain ⟨before, after, verdict, r₁, -, -, -, hwent⟩ := select_concludes criteria r
  unfold Binding.leaseSource at h
  rw [Exec.on_bind, hwent] at h
  cases hv : ((conclude criteria verdict).on r₁).1 with
  | error e' =>
    rw [hv] at h
    cases h
    exact conclude_not_refusal hv
  | ok selected =>
    rw [hv] at h
    cases h

/-- The binding refuses exactly what is not for the primary. -/
theorem source_refuses_iff (active : b.context.inTransaction r.client = true) :
    (∃ e, ((b.source .read).on r).1 = .error e ∧ e.IsRefusal) ↔
      b.effectivePreference r.client ≠ .primary := by
  constructor
  · rintro ⟨e, he, hrefusal⟩ hprimary
    rw [source_admitted hprimary] at he
    exact leaseSource_not_refusal he hrefusal
  · intro other
    rw [source_refused active other]
    exact ⟨_, rfl, Error.isRefusal_of _⟩

end Sources

/-! ## §3. Reading on a binding. -/

section Bound

variable {b : Binding} {r : Run} {database : String} {body : Document}
variable {interpret : Interpretation α} {s : Session}

theorem performRead_refused (active : b.context.inTransaction r.client = true)
    (other : b.effectivePreference r.client ≠ .primary) :
    (performRead b database body interpret).on r =
      (.error (Error.of (.notPrimaryInTransaction (b.effectivePreference r.client))), r) := by
  unfold performRead withSource
  rw [Exec.on_bind, source_refused active other]

/-- What a read sends goes to a connection that was reached for reading, with the preference that
    the binding has then. -/
theorem performRead_sends {t : Transmission}
    (ht : t ∈ (performRead b database body interpret).sends r) :
    ∃ source lease r₁, Reached b .read r source lease r₁ ∧
      t = transmission lease (.ofRead database body (b.effectivePreference r₁.client)) b.context
        r₁.client := by
  unfold Exec.sends performRead at ht
  rw [within_on] at ht
  rcases hr : (reach b .read).on r with ⟨e | ⟨source, lease⟩, r₁⟩
  · rw [hr] at ht
    dsimp only at ht
    rw [sent_of_unreached hr, List.drop_length] at ht
    cases ht
  · rw [hr] at ht
    replace hr := (reach_ok_iff ..).mp hr
    have hsent : r₁.sent = r.sent := hr.sent_eq
    dsimp only at ht
    rw [sent_giveBack, Exec.on_bind, Exec.on_lift, on_currentClient] at ht
    dsimp only at ht
    rcases ha : (attempt source lease (.ofRead database body (b.effectivePreference r₁.client))
      interpret).on r₁ with ⟨result, r₂⟩
    rw [ha, sent_attempt ha, hsent, List.drop_left, List.mem_singleton] at ht
    rw [hr.context] at ht
    exact ⟨source, lease, r₁, hr, ht⟩

/-- The session is the same when the command is made as when the server was leased. -/
theorem Reached.effectivePreference {source : Source} {lease : Lease} {r₁ : Run}
    (h : Reached b .read r source lease r₁) (hs : b.context.session? r.client = some s)
    (active : s.inTransaction = true) :
    b.effectivePreference r₁.client = s.transaction.preference?.getD .primary := by
  have hshows := reach_shows (.of_found hs) h
  obtain ⟨s₀, hs₀, hlike⟩ := hshows.exists_like
  rw [effectivePreference_of_active hs₀ (hlike.inTransaction.trans active), hlike.transaction]
  rfl

/-- What is read in a transaction is read from the primary. -/
theorem Reached.primary {source : Source} {lease : Lease} {r₁ : Run}
    (h : Reached b .read r source lease r₁) (hs : b.context.session? r.client = some s)
    (active : s.inTransaction = true) :
    b.effectivePreference r.client = .primary ∧ b.effectivePreference r₁.client = .primary := by
  have hprimary : b.effectivePreference r.client = .primary := by
    by_contra hother
    obtain ⟨_, hsource, -⟩ := h
    rw [source_refused (inTransaction_of_session? hs active) hother] at hsource
    cases hsource
  refine ⟨hprimary, ?_⟩
  rw [h.effectivePreference hs active, ← effectivePreference_of_active hs active]
  exact hprimary

/-- A read that is not refused does not fail with a refusal. -/
theorem performRead_unrefused (primary : b.effectivePreference r.client = .primary)
    (hr : r.deployment.Unrefusing) (hi : ∀ reply a e, interpret reply a = .error e → ¬ e.IsRefusal)
    {e : Error} (h : ((performRead b database body interpret).on r).1 = .error e) :
    ¬ e.IsRefusal := by
  have hrelease : ∀ source : Source, source.release.Keeps KeepsUnrefusing := fun source =>
    .bind (onClient_keepsUnrefusing _) fun _ => onClient_keepsUnrefusing _
  have hwork : Exec.Unrefusing (do
      let source ← b.leaseSource .writable
      ensuring (withConnection source fun lease => do
        let preference := b.effectivePreference (← currentClient)
        attempt source lease (.ofRead database body preference) interpret) source.release) :=
    .bind (leaseSource_unrefusing b .writable) fun source =>
      .ensuring (.bind (checkOut_unrefusing _) fun lease =>
        .ensuring (.bind (.lift .currentClient) fun _ => attempt_unrefusing _ _ _ hi)
          (checkIn_keepsUnrefusing lease)) (hrelease source)
  refine (hwork r hr).2 e ?_
  rw [← h]
  unfold performRead withSource
  rw [Exec.on_bind, Exec.on_bind, source_admitted primary]

end Bound

/-! ## §4. Reading through the executor. -/

/-- A hold on a session that is kept can be let go of. -/
theorem Client.dropSession_holdSession {c : Client} {i : SessionId} {s : Session}
    (hs : c.sessions[i]? = some s) (hk : s.Kept) : (c.holdSession i).dropSession i = c := by
  have hback : (c.holdSession i).modifySession i (fun s => { s with holders := s.holders - 1 }) =
      c := by
    have hid : ((fun s : Session => { s with holders := s.holders - 1 }) ∘
        fun s => { s with holders := s.holders + 1 }) = id := rfl
    unfold holdSession modifySession
    dsimp only
    rw [List.modify_modify_eq, hid, List.modify_id]
  unfold dropSession
  dsimp only
  rw [hback, hs]
  dsimp only
  split
  case isFalse => rfl
  case isTrue hzero =>
    -- Without holders the session has ended before.
    unfold endSession
    rw [hs]
    dsimp only
    cases hv : s.server with
    | none => rfl
    | some v =>
      have hpos : 0 < s.holders := hk (by simp [Session.isEnded, hv])
      omega

/-- Whatever a command of the caller's own means, it is sent by a read. -/
theorem runCommand_on (c : RunCommand) (b : Binding) (r : Run) :
    ((Operation.runCommand c).execute b).on r =
      (((performRead b c.database c.body fun reply _ => .ok reply).on r).1.map .reply,
        ((performRead b c.database c.body fun reply _ => .ok reply).on r).2) := by
  unfold Operation.execute
  rw [Exec.on_bind_pure]

section Executor

variable {r : Run} {id : SessionId} {s : Session} {c : RunCommand} {rp : ReadPreference}

/-- The executor refuses before there is a binding. -/
theorem perform_refused (hs : r.client.sessions[id]? = some s) (active : s.inTransaction = true)
    (other : rp ≠ .primary) :
    (perform (.runCommand c) rp (some id)).on r =
      (.error (Error.of (.notPrimaryInTransaction rp)), r) := by
  have hactive : SessionContext.inTransaction ⟨some id, false⟩ r.client = true :=
    inTransaction_of_session? hs active
  have hother : rp.isPrimary = false := by
    rw [← Bool.not_eq_true, ReadPreference.isPrimary_iff]
    exact other
  unfold perform
  simp only [Operation.reads, if_true, Exec.on_bind, Exec.on_lift, on_currentClient, hactive,
    hother]
  rfl

/-- What it does not refuse is read on a binding of the session. -/
theorem perform_primary :
    (perform (.runCommand c) .primary (some id)).on r =
      (withBinding .primary (some id) (executeLabelled (.runCommand c))).on r := by
  unfold perform
  simp only [Operation.reads, if_true, Exec.on_bind, Exec.on_lift, on_currentClient,
    ReadPreference.isPrimary, Bool.not_true, Bool.and_false]
  rfl

/-- The session as the binding finds it: with one holder more. -/
theorem session?_held (rp : ReadPreference) (hs : r.client.sessions[id]? = some s) :
    (callersBinding rp id r.client).context.session? (r.client.holdSession id) =
      some { s with holders := s.holders + 1 } := by
  show (r.client.holdSession id).sessions[id]? = _
  simp [Client.holdSession, Client.modifySession, hs]

/-- What the binding refuses leaves no trace either: the hold on the session is let go of. -/
theorem perform_refused_bound (hs : r.client.sessions[id]? = some s) (hk : s.Kept)
    (active : s.inTransaction = true) {p : ReadPreference}
    (configured : s.transaction.preference? = some p) (other : p ≠ .primary) :
    (perform (.runCommand c) .primary (some id)).on r =
      (.error (Error.of (.notPrimaryInTransaction p)), r) := by
  have hheld := session?_held .primary hs
  have heffective := effectivePreference_of_active hheld active
  rw [show Session.transaction { s with holders := s.holders + 1 } = s.transaction from rfl,
    configured, Option.getD_some] at heffective
  have hactive : (callersBinding .primary id r.client).context.inTransaction
      (r.client.holdSession id) = true := inTransaction_of_session? hheld active
  have hrefused : (performRead (callersBinding .primary id r.client) c.database c.body
      fun reply _ => .ok reply).on { r with client := r.client.holdSession id } =
        (.error (Error.of (.notPrimaryInTransaction p)),
          { r with client := r.client.holdSession id }) := by
    have hother : (callersBinding .primary id r.client).effectivePreference
        (r.client.holdSession id) ≠ .primary := heffective ▸ other
    rw [← heffective]
    exact performRead_refused hactive hother
  rw [perform_primary, withBinding_on, executeLabelled_on, runCommand_on, hrefused]
  show (Except.error (labelTransient _ _ _), _) = _
  rw [labelTransient_refusal]
  exact congrArg (fun client => (_, { r with client := client }))
    (Client.dropSession_holdSession hs hk)

/-- Either refusal leaves the whole run as it was. -/
theorem perform_misdirected (hs : r.client.sessions[id]? = some s) (hk : s.Kept)
    (active : s.inTransaction = true) (other : s.Misdirects rp) :
    ∃ p, p ≠ .primary ∧ (p = rp ∨ s.transaction.preference? = some p) ∧
      (perform (.runCommand c) rp (some id)).on r =
        (.error (Error.of (.notPrimaryInTransaction p)), r) := by
  by_cases hrp : rp = .primary
  · subst hrp
    obtain hne | ⟨p, hp, hne⟩ := other
    · exact absurd rfl hne
    · exact ⟨p, hne, .inr hp, perform_refused_bound hs hk active hp hne⟩
  · exact ⟨rp, hrp, .inl rfl, perform_refused hs active hrp⟩

/-- What the executor sends is sent by a read on a binding for the primary. -/
theorem perform_sends (hs : r.client.sessions[id]? = some s) (active : s.inTransaction = true)
    {t : Transmission} (ht : t ∈ (perform (.runCommand c) rp (some id)).sends r) :
    t ∈ (performRead (callersBinding .primary id r.client) c.database c.body
      fun reply _ => .ok reply).sends { r with client := r.client.holdSession id } := by
  by_cases hrp : rp = .primary
  · subst hrp
    unfold Exec.sends at ht
    rw [perform_primary, withBinding_on] at ht
    dsimp only at ht
    rw [executeLabelled_run, runCommand_on] at ht
    exact ht
  · unfold Exec.sends at ht
    rw [perform_refused hs active hrp, List.drop_length] at ht
    cases ht

/-- What neither the executor nor the binding refuses does not fail with a refusal. -/
theorem perform_unrefused (hs : r.client.sessions[id]? = some s) (active : s.inTransaction = true)
    (directed : ∀ p, s.transaction.preference? = some p → p = .primary)
    (hr : r.deployment.Unrefusing) {e : Error}
    (h : ((perform (.runCommand c) .primary (some id)).on r).1 = .error e) : ¬ e.IsRefusal := by
  have hheld := session?_held .primary hs
  have hprimary : (callersBinding .primary id r.client).effectivePreference
      (r.client.holdSession id) = .primary := by
    by_contra hother
    obtain ⟨p, hp, hne⟩ := (effectivePreference_ne_primary_iff hheld active).mp hother
    exact hne (directed p hp)
  have hread : ∀ e', ((performRead (callersBinding .primary id r.client) c.database c.body
      fun reply _ => .ok reply).on { r with client := r.client.holdSession id }).1 = .error e' →
      ¬ e'.IsRefusal := by
    intro e' he'
    have hinterpret : ∀ (reply : Document) (_ : Address) (e : Error),
        (Except.ok reply : Except Error Document) = .error e → ¬ e.IsRefusal :=
      fun _ _ _ h => by cases h
    have hservers : (Run.deployment { r with client := r.client.holdSession id }).Unrefusing := hr
    exact performRead_unrefused hprimary hservers hinterpret he'
  rw [perform_primary, withBinding_on, executeLabelled_on, runCommand_on] at h
  generalize (performRead _ c.database c.body _).on _ = went at h hread
  obtain ⟨e' | reply, r'⟩ := went
  · cases h
    rw [Error.isRefusal_congr (cause_labelTransient e' _ _)]
    exact hread e' rfl
  · cases h

/-- The refusals are those of the executor and of the binding, and no others. -/
theorem perform_refuses_iff (hs : r.client.sessions[id]? = some s) (hk : s.Kept)
    (active : s.inTransaction = true) (hr : r.deployment.Unrefusing) :
    (∃ e, ((perform (.runCommand c) rp (some id)).on r).1 = .error e ∧ e.IsRefusal) ↔
      s.Misdirects rp := by
  constructor
  · rintro ⟨e, he, hrefusal⟩
    by_contra hdirected
    unfold Session.Misdirects at hdirected
    push Not at hdirected
    obtain ⟨rfl, hdirected⟩ := hdirected
    exact perform_unrefused hs active hdirected hr he hrefusal
  · intro other
    obtain ⟨p, -, -, hwent⟩ := perform_misdirected (c := c) hs hk active other
    rw [hwent]
    exact ⟨_, rfl, Error.isRefusal_of p⟩

/-- A command that the executor sends is one for the primary, prepared for the connection, and the
    server is one that the client chose for that while the selection waited. -/
theorem perform_routed (hs : r.client.sessions[id]? = some s) (active : s.inTransaction = true)
    (hsound : r.client.Sound) (hlocated : r.client.Located) {t : Transmission}
    (ht : t ∈ (perform (.runCommand c) rp (some id)).sends r) :
    (∃ number kind, t.command = (Command.ofRead c.database c.body .primary).prepare number kind) ∧
      ∃ now d, r.AmidWait now ∧
        now.cluster.choose? now.load (.readPreference .primary) = some d ∧
        t.server.same d.address = true := by
  have hheld := session?_held .primary hs
  obtain ⟨source, lease, r₁, hr, rfl⟩ := performRead_sends (perform_sends hs active ht)
  obtain ⟨hbefore, hnow⟩ := hr.primary hheld active
  -- The hold on the session makes no difference to the servers.
  obtain ⟨now, hamid, hchoice, hsame⟩ := hr.chosen (hsound.of_sameServers ⟨rfl, rfl, rfl⟩)
    (hlocated.of_members rfl)
  obtain ⟨now₀, hamid₀, rfl⟩ := hamid.exists_of_modified
  have hcriteria : (callersBinding .primary id r.client).criteria (r.client.holdSession id) .read =
      .readPreference .primary := congrArg Criteria.readPreference hbefore
  rw [hcriteria] at hchoice
  rw [hnow]
  exact ⟨⟨_, _, rfl⟩, now₀, source.selected.description, hamid₀, hchoice, hsame⟩

end Executor

/-! ## §5. Where reads go. -/

namespace Command

theorem readPreference_prepare (c : Command) (id : Option Nat) (kind : ServerKind) :
    (c.prepare id kind).readPreference = c.readPreference := by
  have hid : (c.within id).readPreference = c.readPreference := by cases id <;> rfl
  rw [prepare_eq]
  split
  · unfold withReadPreference
    split <;> exact hid
  · exact hid

/-- A command for the primary gets no preference on its way. -/
theorem value?_prepare_readPreference {c : Command} (h : c.readPreference = some .primary)
    (id : Option Nat) (kind : ServerKind) :
    (c.prepare id kind).body.value? "$readPreference" = c.body.value? "$readPreference" := by
  have hid : (c.within id).body.value? "$readPreference" = c.body.value? "$readPreference" := by
    cases id with
    | none => rfl
    | some n => exact Document.value?_put_of_ne c.body _ (by decide)
  have hprimary : (c.within id).readPreference = some .primary := by
    cases id <;> exact h
  rw [prepare_eq]
  split
  · unfold withReadPreference
    rw [hprimary]
    exact hid
  · exact hid

end Command

/-- How the reads of a caller go in the active transaction of a session. -/
structure Run.ReadsOnPrimary (r : Run) (id : SessionId) (s : Session) : Prop where
  /-- The executor refuses for the preference of the caller or for that of the transaction, and then
      nothing is different. -/
  refuses : ∀ (c : RunCommand) (rp : ReadPreference), s.Misdirects rp →
    ∃ p, p ≠ .primary ∧ (p = rp ∨ s.transaction.preference? = some p) ∧
      (perform (.runCommand c) rp (some id)).on r =
        (.error (Error.of (.notPrimaryInTransaction p)), r)
  /-- It refuses nothing else. -/
  exactly : r.deployment.Unrefusing → ∀ (c : RunCommand) (rp : ReadPreference),
    (∃ e, ((perform (.runCommand c) rp (some id)).on r).1 = .error e ∧ e.IsRefusal) ↔
      s.Misdirects rp
  /-- What it sends carries the preference for the primary and nothing of it in its body, where
      stands what the caller has put there, and goes to the server that the client has chosen by
      this preference: in a replica set, to a primary. -/
  sends : ∀ (c : RunCommand) (rp : ReadPreference),
    ∀ t ∈ (perform (.runCommand c) rp (some id)).sends r,
      t.command.readPreference = some .primary ∧
      t.command.body.value? "$readPreference" = c.body.value? "$readPreference" ∧
      ∃ now d, r.AmidWait now ∧
        now.cluster.choose? now.load (.readPreference .primary) = some d ∧
        t.server.same d.address = true ∧
        (now.cluster.kind ≠ .single → now.cluster.kind ≠ .sharded → d.kind = .primary)
  /-- On a binding, whatever its preference, that of the transaction counts. -/
  counts : ∀ b : Binding, b.context.session = some id →
    b.effectivePreference r.client = s.transaction.preference?.getD .primary
  /-- A binding refuses exactly if it is not for the primary, and then nothing is different. -/
  leases : ∀ b : Binding, b.context.session = some id →
    ((∃ e, ((b.source .read).on r).1 = .error e ∧ e.IsRefusal) ↔
      b.effectivePreference r.client ≠ .primary) ∧
    (b.effectivePreference r.client ≠ .primary → (b.source .read).on r =
      (.error (Error.of (.notPrimaryInTransaction (b.effectivePreference r.client))), r))

/-- Reads in a transaction stay on the primary. -/
theorem Scenario.Reachable.readsOnPrimary {scenario : Scenario} (h : scenario.Reachable)
    {id : SessionId} {s : Session} (found : scenario.run.client.sessions[id]? = some s)
    (active : s.inTransaction = true) : scenario.run.ReadsOnPrimary id s := by
  have hk : s.Kept := h.held s (List.mem_of_getElem? found)
  have hsession : ∀ b : Binding, b.context.session = some id →
      b.context.session? scenario.run.client = some s := by
    intro b hb
    unfold SessionContext.session?
    rw [hb]
    exact found
  refine ⟨fun _ _ other => perform_misdirected found hk active other,
    fun hservers _ _ => perform_refuses_iff found hk active hservers, ?_, ?_, ?_⟩
  · intro c rp t ht
    obtain ⟨⟨number, kind, hcommand⟩, now, d, hamid, hchoice, hsame⟩ :=
      perform_routed found active h.sound h.located ht
    rw [hcommand]
    exact ⟨Command.readPreference_prepare _ _ _, Command.value?_prepare_readPreference rfl _ _,
      now, d, hamid, hchoice, hsame, (hamid.sound h.sound).kind_of_choice hchoice⟩
  · intro b hb
    exact effectivePreference_of_active (hsession b hb) active
  · intro b hb
    have hactive := inTransaction_of_session? (hsession b hb) active
    exact ⟨source_refuses_iff hactive, source_refused hactive⟩

namespace Lone

def asking : RunCommand := ⟨"admin", [("ping", .int32 1)], by simp⟩

/-- A command in which the caller has written a preference. -/
def telling : RunCommand :=
  ⟨"admin", [("ping", .int32 1), ("$readPreference", .document [("mode", .text "secondary")])],
    by simp⟩

end Lone

/-- A read in the transaction that was begun, on the primary. -/
theorem readsOnPrimary_lone :
    Lone.begun.run.ReadsOnPrimary 0 Lone.session ∧ Lone.begun.run.deployment.Unrefusing ∧
      ∃ t ∈ (perform (.runCommand Lone.asking) .primary (some 0)).sends Lone.begun.run,
        t.server.same Lone.address = true ∧
        Document.has t.command.body "$readPreference" = false := by
  have hservers : Lone.begun.run.deployment.Unrefusing := .quiet ⟨rfl, rfl, rfl⟩
  exact ⟨Lone.reachable_begun.readsOnPrimary rfl rfl, hservers, by decide +kernel⟩

/-- What the caller has written there goes out as it is. -/
theorem readInTransaction_told :
    Lone.begun.Reachable ∧ Lone.begun.run.client.sessions[0]? = some Lone.session ∧
      Lone.session.inTransaction = true ∧
      ∃ t ∈ (perform (.runCommand Lone.telling) .primary (some 0)).sends Lone.begun.run,
        t.command.readPreference = some .primary ∧
        Document.has t.command.body "$readPreference" = true :=
  ⟨Lone.reachable_begun, rfl, rfl, by decide +kernel⟩

end ClusterClient
