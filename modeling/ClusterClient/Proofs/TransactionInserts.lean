/-
  ClusterClient.Proofs.TransactionInserts — which insert starts a transaction.

  A transaction is started for the servers by the first command that carries its number.  That is
  an insert, and it is not known beforehand which one: an insert that finds no server or no
  connection is not sent, and leaves it to the next one.  `TransactionTrace` is the history of one
  transaction, with a list of what each insert has sent that was called while it was active.  The
  transaction is still to be started exactly as long as all entries of the list are empty, and no
  insert takes a number, so each of them carries the one that starting the transaction took.

  Main statement: `TransactionTrace.first_insert_starts`.
-/
import ClusterClient.Proofs.Actions
import ClusterClient.Proofs.History

namespace ClusterClient

open Run

/-! ## §1. What an insert carries. -/

section Commands

variable {i : Insert} {s : Session}

/-- Only the first command of a transaction starts it. -/
theorem value?_join_startTransaction (i : Insert) (s : Session) :
    (s.join i.body).value? "startTransaction" =
      if s.transaction.state = .starting then some (.boolean true) else none := by
  unfold Session.join
  rw [Document.value?_put_of_ne _ _ (by decide)]
  split
  · exact Document.value?_put _ _ _
  · rw [Document.value?_put_of_ne _ _ (by decide)]
    rfl

/-- A command that tells no preference goes out alike to all servers. -/
theorem Command.prepare_of (database : String) (body : Document) (id : Option Nat)
    (kind : ServerKind) : (Command.of database body).prepare id kind =
      (Command.of database body).within id := by
  rw [prepare_eq]
  split
  · cases id <;> rfl
  · rfl

/-- What an insert has sent in the transaction with a number, after the inserts before it: the same
    command, however often, which starts the transaction if nothing was sent before. -/
structure CarriesTransaction (n : Nat) (before : List (List Transmission))
    (sent : List Transmission) : Prop where
  number : ∀ t ∈ sent, t.command.HasNumber n
  autocommit : ∀ t ∈ sent, t.command.body.value? "autocommit" = some (.boolean false)
  starts : ∀ t ∈ sent, t.command.body.value? "startTransaction" =
    if ∀ earlier ∈ before, earlier = [] then some (.boolean true) else none
  again : ∀ t ∈ sent, ∀ t' ∈ sent, t'.command = t.command

/-- An insert that joins the transaction. -/
theorem carriesTransaction_of_joined {n : Nat} {before : List (List Transmission)}
    {sent : List Transmission}
    (hn : s.txnNumber = n)
    (hstate : s.transaction.state = .starting ↔ ∀ earlier ∈ before, earlier = [])
    (each : ∀ t ∈ sent, t.Of (.of i.database (s.join i.body)) (some s.markInProgress)) :
    CarriesTransaction n before sent where
  number t ht := by
    rw [(each t ht).hasNumber_iff, ← hn]
    exact hasNumber_join i s
  autocommit t ht := by
    rw [(each t ht).value?_eq (by decide) (by decide)]
    exact Document.value?_put _ _ _
  starts t ht := by
    rw [(each t ht).value?_eq (by decide) (by decide)]
    simp only [← hstate]
    exact value?_join_startTransaction i s
  again t ht t' ht' := by
    obtain ⟨kind, hc⟩ := (each t ht).command
    obtain ⟨kind', hc'⟩ := (each t' ht').command
    rw [hc, hc', Command.prepare_of, Command.prepare_of]

end Commands

/-! ## §2. What an operation does to a transaction. -/

section Effects

variable {s s' : Session} {operation : Operation} {i : Insert} {result : Except Error Outcome}
variable {new : List Transmission}

/-- No other operation than an insert changes a session and leaves its transaction active. -/
theorem Effect.same_of_active (h : Effect s operation result new s')
    (hi : operation.isInsert = false) (active : s'.inTransaction = true) :
    s'.txnNumber = s.txnNumber ∧ s'.transaction = s.transaction := by
  cases h with
  | refused | other | uncommitted => exact ⟨rfl, rfl⟩
  | inserted => cases hi
  | committedAtOnce | committed | abortedAtOnce | aborted => cases active

/-- Nor does an insert make a transaction active. -/
theorem Effect.inTransaction_of_insert (h : Effect s (.insert i) result new s') :
    s'.inTransaction = s.inTransaction := by
  cases h with
  | refused | other => rfl
  | inserted made =>
    cases made with
    | numbered | plain => rfl
    | joined active =>
      rw [active]
      show Transaction.isActive s.markInProgress.transaction = true
      rw [Transaction.isActive, Ledger.state_markInProgress active]

/-- In an active transaction an insert is sent as part of it, or it changes nothing. -/
theorem Effect.joins (h : Effect s (.insert i) result new s') (active : s.inTransaction = true) :
    s'.txnNumber = s.txnNumber ∧
      (new = [] ∧ s' = s ∨ new ≠ [] ∧ s'.transaction.state = .inProgress ∧
        ∀ t ∈ new, t.Of (.of i.database (s.join i.body)) (some s.markInProgress)) := by
  cases h with
  | refused => exact ⟨rfl, .inl ⟨rfl, rfl⟩⟩
  | other ho => cases ho
  | inserted made ne_nil each =>
    cases made with
    | joined => exact ⟨rfl, .inr ⟨ne_nil, Ledger.state_markInProgress active, each⟩⟩
    | numbered idle =>
      rw [active] at idle
      cases idle
    | plain idle =>
      rw [idle s rfl] at active
      cases active

/-- An insert that is not sent fails and changes nothing. -/
theorem Effect.eq_of_unsent (h : Effect s (.insert i) result [] s') :
    s' = s ∧ ∃ e, result = .error e := by
  cases h with
  | refused => exact ⟨rfl, _, rfl⟩
  | other ho => cases ho
  | inserted _ ne_nil => exact absurd rfl ne_nil

end Effects

/-! ## §3. The inserts of a transaction. -/

/-- The inserts of a transaction after one more operation, each with what it has sent: an insert is
    one of them if it is called while the transaction is active. -/
def insertsAfter (id : SessionId) (w : Way) (operation : Operation) (r : Run)
    (inserts : List (List Transmission)) : List (List Transmission) :=
  if operation.isInsert = true ∧ SessionContext.inTransaction ⟨some id, false⟩ r.client = true then
    inserts ++ [(w.perform id operation).sends r]
  else inserts

/-- What can have happened since the latest transaction of a session was started, with number `n`,
    and what each of its inserts has sent. -/
inductive TransactionTrace (id : SessionId) (n : Nat) : Run → List (List Transmission) → Prop where
  | started {r : Run} {l : Option Ledger} {s s' : Session} {options : Option TransactionOptions}
    (h : History id r l) (found : r.client.sessions[id]? = some s)
    (ok : s.startTransaction options = .ok s') (number : s'.txnNumber = n) :
    TransactionTrace id n { r with client := r.client.modifySession id fun _ => s' } []
  | elsewhere {r r' : Run} {inserts : List (List Transmission)}
    (h : TransactionTrace id n r inserts) (rest : Undisturbed id r r') :
    TransactionTrace id n r' inserts
  | called {r : Run} {inserts : List (List Transmission)} (h : TransactionTrace id n r inserts)
    (w : Way) (operation : Operation) :
    TransactionTrace id n ((w.perform id operation).on r).2 (insertsAfter id w operation r inserts)

/-- It is part of the history of the session. -/
theorem TransactionTrace.history {id : SessionId} {n : Nat} {r : Run}
    {inserts : List (List Transmission)} (h : TransactionTrace id n r inserts) :
    ∃ l, History id r (some l) ∧ l.number = n := by
  induction h with
  | started h found ok number => exact ⟨_, h.started found ok, number⟩
  | elsewhere _ rest ih =>
    obtain ⟨l, hl, hn⟩ := ih
    exact ⟨l, hl.elsewhere rest, hn⟩
  | called _ w operation ih =>
    obtain ⟨l, hl, rfl⟩ := ih
    refine ⟨_, hl.called w operation, ?_⟩
    cases operation <;> rfl

/-- The session as it stands in the transaction after these inserts. -/
structure InTransactionAfter (n : Nat) (inserts : List (List Transmission)) (s : Session) :
    Prop where
  number : s.inTransaction = true → s.txnNumber = n
  /-- The transaction is to be started as long as nothing was sent in it. -/
  starting : s.inTransaction = true →
    (s.transaction.state = .starting ↔ ∀ sent ∈ inserts, sent = [])
  carries : ∀ before sent after, inserts = before ++ sent :: after →
    CarriesTransaction n before sent

/-- The session after an operation is the one that its effect tells, but for the use of it. -/
theorem Stands.goes {id : SessionId} {r : Run} {l : Option Ledger} {s : Session}
    (h : Stands id r l s) (w : Way) (operation : Operation) :
    ∃ s' s₀, ((w.perform id operation).on r).2.client.sessions[id]? = some s₀ ∧
      Effect s.still operation ((w.perform id operation).on r).1
        ((w.perform id operation).sends r) s' ∧
      s₀.txnNumber = s'.txnNumber ∧ s₀.transaction = s'.transaction := by
  obtain ⟨s', heffect, hshows⟩ := h.effect w operation
  obtain ⟨s₀, hs, hlike⟩ := hshows.exists_like
  exact ⟨s', s₀, hs, heffect, hlike.txnNumber, hlike.transaction⟩

theorem inTransaction_of_transaction {s s' : Session} (h : s'.transaction = s.transaction) :
    s'.inTransaction = s.inTransaction := congrArg Transaction.isActive h

namespace InTransactionAfter

variable {n : Nat} {inserts : List (List Transmission)} {s s' : Session}

/-- Only the number and the transaction matter. -/
theorem congr (h : InTransactionAfter n inserts s) (hn : s'.txnNumber = s.txnNumber)
    (ht : s'.transaction = s.transaction) : InTransactionAfter n inserts s' where
  number ha := hn.trans (h.number ((inTransaction_of_transaction ht).symm.trans ha))
  starting ha := by
    rw [ht]
    exact h.starting ((inTransaction_of_transaction ht).symm.trans ha)
  carries := h.carries

/-- A transaction that is not active any more has no more inserts. -/
theorem done (h : InTransactionAfter n inserts s) (idle : s'.inTransaction = false) :
    InTransactionAfter n inserts s' where
  number ha := by
    rw [idle] at ha
    cases ha
  starting ha := by
    rw [idle] at ha
    cases ha
  carries := h.carries

/-- One more insert. -/
theorem insert {i : Insert} {result : Except Error Outcome} {new : List Transmission}
    (h : InTransactionAfter n inserts s) (active : s.inTransaction = true)
    (heffect : Effect s (.insert i) result new s') :
    InTransactionAfter n (inserts ++ [new]) s' := by
  obtain ⟨hnumber, hjoins⟩ := heffect.joins active
  have hall : (∀ sent ∈ inserts ++ [new], sent = []) ↔
      (∀ sent ∈ inserts, sent = []) ∧ new = [] := by
    rw [List.forall_mem_append, List.forall_mem_singleton]
  refine ⟨fun _ => hnumber.trans (h.number active), fun _ => ?_, ?_⟩
  · rw [hall]
    obtain ⟨hnew, rfl⟩ | ⟨hnew, hstate, -⟩ := hjoins
    · rw [and_iff_left hnew]
      exact h.starting active
    · rw [hstate]
      exact ⟨nofun, fun hboth => absurd hboth.2 hnew⟩
  · intro before sent after hsplit
    -- The insert is the last of them, or one of those before.
    rcases List.eq_nil_or_concat after with rfl | ⟨after', last, rfl⟩
    · obtain ⟨rfl, hlast⟩ := List.append_inj' hsplit rfl
      cases hlast
      obtain ⟨hnew, -⟩ | ⟨-, -, each⟩ := hjoins
      · rw [hnew]
        exact ⟨by simp, by simp, by simp, by simp⟩
      · exact carriesTransaction_of_joined (h.number active) (h.starting active) each
    · have hfront : inserts = before ++ sent :: after' := by
        have hconcat : inserts ++ [new] = (before ++ sent :: after') ++ [last] := by
          rw [hsplit]
          simp
        exact (List.append_inj' hconcat rfl).1
      exact h.carries before sent after' hfront

end InTransactionAfter

theorem inTransaction_of_found {id : SessionId} {c : Client} {s : Session}
    (found : c.sessions[id]? = some s) :
    SessionContext.inTransaction ⟨some id, false⟩ c = s.inTransaction := by
  unfold SessionContext.inTransaction SessionContext.session?
  rw [Option.bind_some, found]

/-- One more operation. -/
theorem InTransactionAfter.called {id : SessionId} {n : Nat} {r : Run} {l : Option Ledger}
    {inserts : List (List Transmission)} {s s₀ : Session} (h : InTransactionAfter n inserts s)
    (hs : Stands id r l s) (w : Way) (operation : Operation)
    (found : ((w.perform id operation).on r).2.client.sessions[id]? = some s₀) :
    InTransactionAfter n (insertsAfter id w operation r inserts) s₀ := by
  obtain ⟨s', _, hs₀, heffect, hnumber, htransaction⟩ := hs.goes w operation
  rw [found] at hs₀
  cases hs₀
  have hstill : InTransactionAfter n inserts s.still := h.congr s.txnNumber_still rfl
  have hactive : SessionContext.inTransaction ⟨some id, false⟩ r.client =
      s.still.inTransaction := by
    rw [inTransaction_of_found hs.found]
    rfl
  refine congr ?_ hnumber htransaction
  unfold insertsAfter
  rw [hactive]
  cases operation with
  | insert i =>
    cases active : s.still.inTransaction with
    | true =>
      rw [if_pos ⟨rfl, rfl⟩]
      exact hstill.insert active heffect
    | false =>
      -- An insert outside of the transaction is none of it.
      rw [if_neg fun h => Bool.false_ne_true h.2]
      exact hstill.done (heffect.inTransaction_of_insert.trans active)
  | runCommand | dropCollection | dropUser | commit | abort =>
    rw [if_neg fun h => nomatch h.1]
    cases active : s'.inTransaction with
    | true =>
      obtain ⟨hn, ht⟩ := heffect.same_of_active rfl active
      exact hstill.congr hn ht
    | false => exact hstill.done active

/-- Along every trace. -/
theorem TransactionTrace.inTransactionAfter {id : SessionId} {n : Nat} {r : Run}
    {inserts : List (List Transmission)} (h : TransactionTrace id n r inserts) :
    ∀ s, r.client.sessions[id]? = some s → InTransactionAfter n inserts s := by
  induction h with
  | @started r l s s' options _ found ok number =>
    intro s₀ hs₀
    have hs' : s₀ = s' := by
      simpa [Client.modifySession, found] using hs₀.symm
    subst hs'
    obtain ⟨-, hs'⟩ := Session.startTransaction_eq ok
    refine ⟨fun _ => number, fun _ => ?_, ?_⟩
    · rw [hs']
      simp
    · intro before sent after hsplit
      simp at hsplit
  | elsewhere h rest ih =>
    intro s₀ hs₀
    obtain ⟨s, s', found, found', hstill, -⟩ := rest
    rw [hs₀] at found'
    cases found'
    refine (ih s found).congr ?_ ?_
    · rw [← s₀.txnNumber_still, hstill, ← s.txnNumber_still]
      rfl
    · show s₀.still.transaction = s.transaction
      rw [hstill]
      rfl
  | called h w operation ih =>
    intro s₀ hs₀
    obtain ⟨l, hl, -⟩ := h.history
    obtain ⟨s, hs⟩ := hl.stands
    exact (ih s hs.found).called hs w operation hs₀

/-! ## §4. The insert that starts a transaction. -/

/-- The command of an insert is made, and then sent, exactly if a server and a connection are
    reached. -/
theorem Way.sends_insert_ne_nil_iff {id : SessionId} (w : Way) (i : Insert) (r : Run) :
    (w.perform id (.insert i)).sends r ≠ [] ↔ ∃ source lease r',
      Reached (w.binding id r.client) .write (w.begun id r) source lease r' := by
  have hexecute : ∀ (b : Binding) (r : Run), ((Operation.insert i).execute b).sends r =
      (performRetryable b (i.request b.context)).sends r := by
    intro b r
    unfold Exec.sends Operation.execute
    rw [Exec.on_bind_pure]
  rw [w.sends_perform rfl, hexecute]
  exact sends_performRetryable_ne_nil_iff fun _ _ _ => ⟨_, _, rfl⟩

/-- What comes of an insert that is called on the session `s` and leaves it as `s'`. -/
structure Insert.Joins (i : Insert) (id : SessionId) (n : Nat) (w : Way) (r : Run)
    (s s' : Session) : Prop where
  built : (w.perform id (.insert i)).sends r ≠ [] ↔ ∃ source lease r',
    Reached (w.binding id r.client) .write (w.begun id r) source lease r'
  /-- If its command is not made it fails, and leaves everything to the next one. -/
  unbuilt : (w.perform id (.insert i)).sends r = [] →
    (∃ e, ((w.perform id (.insert i)).on r).1 = .error e) ∧
      s'.transaction = s.transaction ∧ s'.txnNumber = s.txnNumber
  /-- In the transaction it takes no number. -/
  number : s.inTransaction = true → s'.txnNumber = n

/-- Of the inserts of a transaction the first one whose command is made starts it, and no other
    one; all of them carry the number that starting it took. -/
theorem TransactionTrace.first_insert_starts {id : SessionId} {n : Nat} {r : Run}
    {inserts : List (List Transmission)} (h : TransactionTrace id n r inserts) :
    (∀ before sent after, inserts = before ++ sent :: after → CarriesTransaction n before sent) ∧
    ∃ s, r.client.sessions[id]? = some s ∧
      (s.inTransaction = true → s.txnNumber = n ∧
        (s.transaction.state = .starting ↔ ∀ sent ∈ inserts, sent = [])) ∧
      ∀ (w : Way) (i : Insert), ∃ s',
        ((w.perform id (.insert i)).on r).2.client.sessions[id]? = some s' ∧
          i.Joins id n w r s s' := by
  obtain ⟨l, hl, -⟩ := h.history
  obtain ⟨s, hs⟩ := hl.stands
  have hafter := h.inTransactionAfter s hs.found
  refine ⟨hafter.carries, s, hs.found,
    fun active => ⟨hafter.number active, hafter.starting active⟩, fun w i => ?_⟩
  obtain ⟨s', s₀, hs₀, heffect, hnumber, htransaction⟩ := hs.goes w (.insert i)
  refine ⟨s₀, hs₀, w.sends_insert_ne_nil_iff i r, fun hnone => ?_, fun active => ?_⟩
  · rw [hnone] at heffect
    obtain ⟨rfl, hfailed⟩ := heffect.eq_of_unsent
    exact ⟨hfailed, htransaction, hnumber.trans s.txnNumber_still⟩
  · obtain ⟨hsame, -⟩ := heffect.joins active
    rw [hnumber, hsame, s.txnNumber_still, hafter.number active]

namespace Lone

/-- The server is gone, so that an insert finds none. -/
def deserted : Run := { started with client := started.client.remove address }

/-- An insert finds no server there. -/
def missed : Run := (((Way.executor .primary).perform 0 insert).on deserted).2

/-- It is back, and there are two inserts. -/
def back : Run := { missed with client := missed.client.update primary }

def first : Run := (((Way.executor .primary).perform 0 insert).on back).2

def second : Run := (((Way.executor .primary).perform 0 insert).on first).2

/-- What the three of them have sent. -/
def inserts : List (List Transmission) :=
  insertsAfter 0 (.executor .primary) insert first
    (insertsAfter 0 (.executor .primary) insert back
      (insertsAfter 0 (.executor .primary) insert deserted []))

theorem insertsTrace : TransactionTrace 0 1 second inserts := by
  have hopened : History 0 opened none := .opened rfl
  have found : opened.client.sessions[0]? = some (.start (.fresh 0 0) 1800000 false) := rfl
  have ok : (Session.start (.fresh 0 0) 1800000 false).startTransaction none = .ok session := rfl
  have hstarted : TransactionTrace 0 1 started [] := .started hopened found ok rfl
  have hdeserted : TransactionTrace 0 1 deserted [] :=
    hstarted.elsewhere ⟨session, session, rfl, rfl, rfl, by decide⟩
  have hback : TransactionTrace 0 1 back (insertsAfter 0 (.executor .primary) insert deserted []) :=
    (hdeserted.called (.executor .primary) insert).elsewhere
      ⟨_, _, rfl, rfl, rfl, by decide +kernel⟩
  exact (hback.called _ insert).called _ insert

end Lone

/-- The first insert is not sent, the second one starts the transaction, and the third one does
    not. -/
theorem first_insert_starts_lone :
    Lone.inserts.map (·.map fun t => Document.has t.command.body "startTransaction") =
        [[], [true], [false]] ∧
      ∀ before sent after, Lone.inserts = before ++ sent :: after →
        CarriesTransaction 1 before sent :=
  ⟨by decide +kernel, Lone.insertsTrace.first_insert_starts.1⟩

end ClusterClient
