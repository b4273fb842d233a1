/-
  ClusterClient.Proofs.History — the transactions of one session, over whole histories.

  A history of a session begins when a caller starts it and goes on with what can happen while the
  caller keeps it and does not end it: transactions are started, operations are called in any way
  and answered in any way, and the rest of the client and its deployment go about their business.
  Beside it goes the ledger of the latest transaction.

  The number of a transaction is read from the counter of its session when a command needs it.  So
  it is the right one as long as the transaction is active, and also for ending it the first time;
  but a commit that is called again after inserts outside have taken numbers carries a number that
  is not that of the transaction (`endsTransaction_number`, `repeatedCommit_otherNumber`).  And a
  transaction in which nothing was sent is ended without a server, but once it is committed it
  cannot be told from one in which something was sent, and committing it again sends a command
  (`unused_sends`, `repeatedCommit_sends`).
-/
import ClusterClient.Proofs.Ledger

namespace ClusterClient

open Run

/-! ## §1. Ways to call an operation. -/

/-- How an operation is called on a caller's session. -/
inductive Way where
  /-- Through the executor. -/
  | executor (preference : ReadPreference)
  /-- On a binding of the session. -/
  | bound (preference : ReadPreference) (retryWrites ownsSession : Bool)

namespace Way

/-- Calls an operation. -/
def perform (id : SessionId) (operation : Operation) : Way → Exec Outcome
  | .executor preference => ClusterClient.perform operation preference (some id)
  | .bound preference retryWrites ownsSession =>
    operation.execute ⟨preference, ⟨some id, retryWrites⟩, ownsSession⟩

theorem perform_takes {id : SessionId} {r : Run} {k : Nat} {s : Session} (w : Way)
    (operation : Operation) (hk : s.Kept) (h : Shows ⟨some id, false⟩ r.client k (some s)) :
    Takes ⟨some id, false⟩ k s operation r ((w.perform id operation).on r).1
      ((w.perform id operation).on r).2 := by
  cases w with
  | executor preference => exact ClusterClient.perform_takes operation preference hk h
  | bound preference retryWrites ownsSession =>
    exact execute_takes (b := ⟨preference, ⟨some id, retryWrites⟩, ownsSession⟩) operation hk h

/-- The binding that an operation is called on unless it reads. -/
def binding (id : SessionId) (c : Client) : Way → Binding
  | .executor _ => callersBinding .primary id c
  | .bound preference retryWrites ownsSession =>
    ⟨preference, ⟨some id, retryWrites⟩, ownsSession⟩

/-- The run in which it begins there: the executor holds the session first. -/
def begun (id : SessionId) (r : Run) : Way → Run
  | .executor _ => { r with client := r.client.holdSession id }
  | .bound _ _ _ => r

/-- The session is the same there, but for a holder. -/
theorem session?_begun {id : SessionId} {r : Run} {s : Session} (w : Way)
    (found : r.client.sessions[id]? = some s) :
    ∃ s', (w.binding id r.client).context.session? (w.begun id r).client = some s' ∧
      s'.transaction = s.transaction := by
  cases w with
  | bound => exact ⟨s, found, rfl⟩
  | executor =>
    refine ⟨{ s with holders := s.holders + 1 }, ?_, rfl⟩
    show (r.client.holdSession id).sessions[id]? = _
    simp [Client.holdSession, Client.modifySession, found]

/-- What an operation sends is what it sends on its binding. -/
theorem sends_perform {id : SessionId} {r : Run} (w : Way) {operation : Operation}
    (hr : operation.reads = false) :
    (w.perform id operation).sends r =
      (operation.execute (w.binding id r.client)).sends (w.begun id r) := by
  cases w with
  | bound => rfl
  | executor preference =>
    -- Holding the session before and letting go of it afterwards sends nothing.
    show (ClusterClient.perform operation preference (some id)).sends r = _
    unfold Exec.sends
    rw [perform_of_not_reads hr, withBinding_on]
    simp only [executeLabelled_run]
    rfl

end Way

/-! ## §2. Histories. -/

/-- The caller still has the session, and at most the number of its holders is different. -/
def Undisturbed (id : SessionId) (r r' : Run) : Prop :=
  ∃ s s', r.client.sessions[id]? = some s ∧ r'.client.sessions[id]? = some s' ∧
    s'.still = { s.still with holders := s'.holders } ∧ 0 < s'.holders

/-- What can have happened to a session since its caller started it, and the ledger of its latest
    transaction. -/
inductive History (id : SessionId) : Run → Option Ledger → Prop where
  | opened {r : Run} (h : (startSession.on r).1 = .ok id) : History id (startSession.on r).2 none
  | elsewhere {r r' : Run} {l : Option Ledger} (h : History id r l) (rest : Undisturbed id r r') :
    History id r' l
  | started {r : Run} {l : Option Ledger} {s s' : Session} {options : Option TransactionOptions}
    (h : History id r l) (found : r.client.sessions[id]? = some s)
    (ok : s.startTransaction options = .ok s') :
    History id { r with client := r.client.modifySession id fun _ => s' }
      (some (.opened s'.txnNumber))
  | called {r : Run} {l : Option Ledger} (h : History id r l) (w : Way) (operation : Operation) :
    History id ((w.perform id operation).on r).2
      (l.map fun l => l.after operation ((w.perform id operation).on r).1
        ((w.perform id operation).sends r))

/-! ## §3. The ledger of a history is right. -/

/-- Without a ledger no transaction was started. -/
def Accounts (s : Session) : Option Ledger → Prop
  | some l => l.Fits s
  | none => s.transaction.state = .none

/-- The session is there, it has not ended, and the ledger belongs to it. -/
structure Stands (id : SessionId) (r : Run) (l : Option Ledger) (s : Session) : Prop where
  found : r.client.sessions[id]? = some s
  open_ : s.isEnded = false
  held : 0 < s.holders
  accounts : Accounts s l

theorem Accounts.congr {s s' : Session} {l : Option Ledger} (h : Accounts s l)
    (hn : s'.txnNumber = s.txnNumber) (ht : s'.transaction = s.transaction) : Accounts s' l := by
  cases l with
  | some l => exact Ledger.Fits.congr h hn ht
  | none => exact (congrArg Transaction.state ht).trans h

/-- As long as no transaction was started, no operation changes that. -/
theorem Effect.state_none {s s' : Session} {operation : Operation}
    {result : Except Error Outcome} {new : List Transmission}
    (heffect : Effect s operation result new s') (h : s.transaction.state = .none) :
    s'.transaction.state = .none := by
  cases heffect with
  | refused | other | uncommitted => exact h
  | inserted made =>
    -- Only an active transaction is joined, and there is none.
    cases made with
    | numbered | plain => exact h
    | joined active =>
      simp [Session.inTransaction, Transaction.isActive, h] at active
  | committedAtOnce hs | abortedAtOnce hs | aborted hs =>
    rw [h] at hs
    cases hs
  | committed hs =>
    rw [h] at hs
    obtain hs | hs := hs <;> cases hs

namespace Stands

variable {id : SessionId} {r : Run} {l : Option Ledger} {s : Session}

theorem shows (h : Stands id r l s) : Shows ⟨some id, false⟩ r.client 0 (some s.still) :=
  .of_found h.found

theorem kept (h : Stands id r l s) : s.still.Kept := fun _ => h.held

/-- How an operation goes on a session that stands. -/
theorem effect (h : Stands id r l s) (w : Way) (operation : Operation) :
    ∃ s', Effect s.still operation ((w.perform id operation).on r).1
        ((w.perform id operation).sends r) s' ∧
      Shows ⟨some id, false⟩ ((w.perform id operation).on r).2.client 0 (some s') := by
  obtain ⟨new, s', heffect, hsent, hshows⟩ := w.perform_takes operation h.kept h.shows
  have hnew : (w.perform id operation).sends r = new := Exec.sends_eq_of_sent hsent
  exact ⟨s', hnew ▸ heffect, hshows⟩

theorem called (h : Stands id r l s) (w : Way) (operation : Operation) :
    ∃ s', Stands id ((w.perform id operation).on r).2
      (l.map fun l => l.after operation ((w.perform id operation).on r).1
        ((w.perform id operation).sends r)) s' := by
  obtain ⟨s', heffect, hshows⟩ := h.effect w operation
  obtain ⟨s₀, hs, hlike⟩ := hshows.exists_like
  -- The ledger goes with the session as the operation sees it, and the client's is like that.
  have hopen : s'.isEnded = false := by
    rw [heffect.isEnded_eq, Session.isEnded_still]
    exact h.open_
  have haccounts : Accounts s' (l.map fun l => l.after operation
      ((w.perform id operation).on r).1 ((w.perform id operation).sends r)) := by
    have hstill : Accounts s.still l := h.accounts.congr s.txnNumber_still rfl
    cases l with
    | none => exact heffect.state_none hstill
    | some l => exact Ledger.Fits.after hstill (s.isEnded_still.trans h.open_) heffect
  refine ⟨s₀, hs, hlike.isEnded.trans hopen, ?_, haccounts.congr hlike.txnNumber hlike.transaction⟩
  rw [hlike.holders, heffect.holders_eq]
  exact h.held

end Stands

/-- A session of the client that a caller starts is new and has its caller for a holder. -/
theorem sessions_openSession (c : Client) (timeout : Nat) (implicit : Bool) :
    ∃ server, (c.openSession timeout implicit).2.sessions[(c.openSession timeout implicit).1]? =
      some (.start server timeout implicit) := by
  unfold Client.openSession
  rcases ServerSession.Waiting.checkOut timeout c.now c.waiting with ⟨_ | server, waiting⟩
  · exact ⟨_, List.getElem?_concat_length⟩
  · exact ⟨_, List.getElem?_concat_length⟩

/-- A session that was opened is there, with a server session and its first holder. -/
theorem openSession?_found {implicit : Bool} {id : SessionId} {r r' : Run}
    (h : (openSession? implicit).on r = (.ok (some id), r')) :
    ∃ server timeout, r'.client.sessions[id]? = some (.start server timeout implicit) := by
  unfold openSession? at h
  rw [Exec.on_bind] at h
  generalize sessionSupport.on r = went at h
  obtain ⟨e | support, r₁⟩ := went
  · cases h
  · cases support with
    | supported timeout =>
      cases h
      obtain ⟨server, found⟩ := sessions_openSession r₁.client timeout implicit
      exact ⟨server, timeout, found⟩
    | undetermined | unsupported => cases h

/-- A caller gets the session that is opened, and an error if there is none. -/
theorem startSession_on (r : Run) :
    startSession.on r = (((openSession? false).on r).1.bind fun
      | some id => .ok id
      | none => .error (Error.of .sessionsNotSupported), ((openSession? false).on r).2) := by
  unfold startSession
  rw [Exec.on_bind]
  rcases (openSession? false).on r with ⟨_ | _ | id, r'⟩ <;> rfl

theorem startSession_found {id : SessionId} {r : Run} (h : (startSession.on r).1 = .ok id) :
    ∃ server timeout,
      (startSession.on r).2.client.sessions[id]? = some (.start server timeout false) := by
  rw [startSession_on] at h ⊢
  generalize hopened : (openSession? false).on r = opened at h ⊢
  obtain ⟨_ | _ | _, _⟩ := opened
  case error | ok.none => cases h
  case ok.some =>
    cases h
    exact openSession?_found hopened

namespace History

variable {id : SessionId} {r : Run} {l : Option Ledger}

/-- Along every history the session stands and the ledger is right. -/
theorem stands (h : History id r l) : ∃ s, Stands id r l s := by
  induction h with
  | opened h =>
    obtain ⟨server, timeout, found⟩ := startSession_found h
    exact ⟨_, found, rfl, Nat.one_pos, rfl⟩
  | elsewhere _ rest ih =>
    -- Of the session only its holders, the time of its last use and the mark can be different.
    obtain ⟨s, h⟩ := ih
    obtain ⟨_, s', found, found', hstill, hheld⟩ := rest
    rw [h.found] at found
    cases found
    have hended : s'.isEnded = s.isEnded := by
      rw [← s'.isEnded_still, hstill, ← s.isEnded_still]
      rfl
    have hnumber : s'.txnNumber = s.txnNumber := by
      rw [← s'.txnNumber_still, hstill, ← s.txnNumber_still]
      rfl
    have htransaction : s'.transaction = s.transaction := by
      show s'.still.transaction = s.transaction
      rw [hstill]
      rfl
    exact ⟨s', found', hended.trans h.open_, hheld, h.accounts.congr hnumber htransaction⟩
  | started _ found ok ih =>
    obtain ⟨s, h⟩ := ih
    rw [h.found] at found
    cases found
    obtain ⟨hopen, hs'⟩ := Session.startTransaction_eq ok
    refine ⟨_, ?_, ?_, ?_, Ledger.fits_opened ok⟩
    · simp [Client.modifySession, h.found]
    · rw [hs']
      exact (Session.isEnded_advanced _).trans hopen
    · rw [hs']
      exact h.held
  | called _ w operation ih =>
    obtain ⟨s, h⟩ := ih
    exact h.called w operation

end History

/-- Calls operations one after the other and keeps the ledger. -/
def Way.callAll (id : SessionId) (w : Way) : List Operation → Run → Ledger → Run × Ledger
  | [], r, l => (r, l)
  | operation :: rest, r, l =>
    callAll id w rest ((w.perform id operation).on r).2
      (l.after operation ((w.perform id operation).on r).1 ((w.perform id operation).sends r))

theorem History.callAll {id : SessionId} {r : Run} {l : Ledger} (w : Way)
    (operations : List Operation) (h : History id r (some l)) :
    History id (w.callAll id operations r l).1 (some (w.callAll id operations r l).2) := by
  induction operations generalizing r l with
  | nil => exact h
  | cons operation rest ih => exact ih (h.called w operation)

/-! ## §4. A lone primary. -/

namespace Lone

def insert : Operation := .insert single

/-- The session after a transaction was started. -/
def session : Session := ⟨some ⟨0, 0, false, 1⟩, ⟨.starting, none⟩, false, 1800000, 1⟩

def started : Run := { opened with client := opened.client.modifySession 0 fun _ => session }

theorem history : History 0 started (some (.opened 1)) := by
  have hopened : History 0 opened none := .opened rfl
  have found : opened.client.sessions[0]? = some (.start (.fresh 0 0) 1800000 false) := rfl
  have ok : (Session.start (.fresh 0 0) 1800000 false).startTransaction none = .ok session := rfl
  exact hopened.started found ok

/-- After a transaction with an insert, its commit, and an insert outside of it. -/
def after : Run × Ledger :=
  (Way.executor .primary).callAll 0 [insert, .commit, insert] started (.opened 1)

end Lone

/-! ## §5. The number that ends a transaction. -/

/-- What an operation sends to end a transaction carries the counter of its session. -/
theorem Effect.ends {s s' : Session} {operation : Operation} {result : Except Error Outcome}
    {new : List Transmission} (h : Effect s operation result new s')
    (hn : operation.isNumbered = true) {t : Transmission} (ht : t ∈ new)
    (hends : t.command.endsTransaction = true) :
    t.command.HasNumber s.txnNumber ∧
      (s.transaction.state = .inProgress ∨
        operation = .commit ∧ s.transaction.state = .committed) := by
  cases h with
  | refused | committedAtOnce | abortedAtOnce => cases ht
  | other ho =>
    rw [hn] at ho
    cases ho
  | inserted made _ each =>
    -- An insert has its own name, whichever way it is made.
    have hname : t.command.name = "insert" := by
      rw [(each t ht).name_eq]
      cases made with
      | joined => exact name_join _ s
      | numbered | plain => rfl
    rw [Command.endsTransaction, hname] at hends
    cases hends
  | committed used _ each | uncommitted used each =>
    exact ⟨((each t ht).hasNumber_iff _).mpr (hasNumber_endBody s _),
      used.imp_right fun h => ⟨rfl, h⟩⟩
  | aborted used each =>
    exact ⟨((each t ht).hasNumber_iff _).mpr (hasNumber_endBody s _), .inl used⟩

/-- Numbers less than a whole turn of the counter apart are told apart. -/
theorem carries_add_iff {c : Command} {n k : Nat}
    (h : c.HasNumber (n + k)) (hk : k < UInt64.size) :
    c.carries n = true ↔ k = 0 := by
  -- Numbers go out with 64 bits, and below a whole turn only zero is sent as zero.
  have hzero : Int64.ofNat k = 0 ↔ k = 0 := by
    refine ⟨fun h0 => ?_, fun h0 => by rw [h0]; rfl⟩
    have hnat : (UInt64.ofNat k).toNat = 0 := congrArg (fun x => x.toUInt64.toNat) h0
    rwa [UInt64.toNat_ofNat', Nat.mod_eq_of_lt hk] at hnat
  unfold Command.carries Command.txnNumber?
  rw [h]
  show (Int64.ofNat (n + k) == Int64.ofNat n) = true ↔ k = 0
  rw [beq_iff_eq, Int64.ofNat_add, Int64.add_eq_left, hzero]

/-- The number with which a transaction is ended: that of the transaction, and as many more as
    inserts outside of it have taken since it was started.  It is another one only when a committed
    transaction is committed again. -/
theorem endsTransaction_number {id : SessionId} {r : Run} {l : Option Ledger} (h : History id r l)
    (w : Way) {operation : Operation} (hn : operation.isNumbered = true) {t : Transmission}
    (ht : t ∈ (w.perform id operation).sends r) (hends : t.command.endsTransaction = true) :
    ∃ ledger, l = some ledger ∧
      t.command.HasNumber (ledger.number + ledger.taken) ∧
      (ledger.taken < UInt64.size → (t.command.carries ledger.number = true ↔ ledger.taken = 0)) ∧
      (ledger.taken ≠ 0 → operation = .commit ∧ ledger.committed = true) := by
  obtain ⟨s, hs⟩ := h.stands
  obtain ⟨s', heffect, -⟩ := hs.effect w operation
  obtain ⟨hnumber, hstate⟩ := heffect.ends hn ht hends
  have haccounts := hs.accounts
  cases l with
  | none =>
    have hnone : s.still.transaction.state = .none := haccounts
    rw [hnone] at hstate
    obtain hstate | ⟨-, hstate⟩ := hstate <;> cases hstate
  | some ledger =>
    have hfits : ledger.Fits s := haccounts
    rw [s.txnNumber_still, hfits.number] at hnumber
    refine ⟨ledger, rfl, hnumber, carries_add_iff hnumber, fun htaken => ?_⟩
    -- While the transaction is in progress no number is taken outside of it.
    obtain hstate | ⟨hcommit, hstate⟩ := hstate
    · have hactive : s.inTransaction = true := by
        show s.still.inTransaction = true
        simp [Session.inTransaction, Transaction.isActive, hstate]
      exact absurd (hfits.active hactive) htaken
    · exact ⟨hcommit, hfits.committed.mpr hstate⟩

/-- A repeated commit that takes the number of an insert outside for its own. -/
theorem repeatedCommit_otherNumber :
    ∃ r l, History 0 r (some l) ∧
      ∃ t ∈ ((Way.executor .primary).perform 0 .commit).sends r,
        t.command.endsTransaction = true ∧ t.command.carries l.number = false :=
  ⟨Lone.after.1, Lone.after.2, Lone.history.callAll _ _, by decide +kernel⟩

/-- The number of that commit is one more than the transaction's. -/
theorem endsTransaction_number_lone :
    ∃ t ∈ ((Way.executor .primary).perform 0 .commit).sends Lone.after.1,
      t.command.endsTransaction = true ∧
        ∃ ledger, some Lone.after.2 = some ledger ∧
          t.command.HasNumber (ledger.number + ledger.taken) ∧
          (ledger.taken < UInt64.size →
            (t.command.carries ledger.number = true ↔ ledger.taken = 0)) ∧
          (ledger.taken ≠ 0 → Operation.commit = .commit ∧ ledger.committed = true) := by
  obtain ⟨t, ht, hends⟩ : ∃ t ∈ ((Way.executor .primary).perform 0 .commit).sends Lone.after.1,
      t.command.endsTransaction = true := by decide +kernel
  exact ⟨t, ht, hends,
    endsTransaction_number (Lone.history.callAll _ _) (.executor .primary) rfl ht hends⟩

/-! ## §6. Transactions in which nothing was sent. -/

/-- A commit that has to be sent is sent whenever a server and a connection are reached. -/
theorem sends_commit_ne_nil_iff {b : Binding} {r : Run} {s : Session}
    (found : b.context.session? r.client = some s) (hs : s.transaction.state = .committed) :
    (commitTransaction b).sends r ≠ [] ↔ ∃ source lease r', Reached b .write r source lease r' := by
  rw [sends_commitTransaction_used found (.inr hs)]
  exact sends_performRetryable_ne_nil_iff fun _ _ _ => ⟨_, _, rfl⟩

/-- What is sent to end a transaction in which nothing was sent: nothing for an abort, and nothing
    for a commit unless it has already succeeded; then the commit is sent whenever a server and a
    connection are reached. -/
theorem unused_sends {id : SessionId} {r : Run} {l : Ledger} (h : History id r (some l))
    (unused : l.used = false) (w : Way) :
    (w.perform id .abort).sends r = [] ∧
      ((w.perform id .commit).sends r ≠ [] ↔ l.committed = true ∧
        ∃ source lease r',
          Reached (w.binding id r.client) .write (w.begun id r) source lease r') := by
  obtain ⟨s, hs⟩ := h.stands
  have hfits : l.Fits s := hs.accounts
  -- A transaction gets under way only when something is sent in it.
  have hidle : s.still.transaction.state ≠ .inProgress := fun hstate => by
    rw [hfits.inProgress hstate] at unused
    cases unused
  constructor
  · obtain ⟨s', heffect, -⟩ := hs.effect w .abort
    generalize (w.perform id .abort).sends r = new at heffect ⊢
    generalize ((w.perform id .abort).on r).1 = result at heffect
    cases heffect with
    | refused | abortedAtOnce => rfl
    | other ho => cases ho
    | aborted used => exact absurd used hidle
  · by_cases hstate : s.still.transaction.state = .committed
    · obtain ⟨s', found, htransaction⟩ := w.session?_begun hs.found
      rw [w.sends_perform rfl, and_iff_right (hfits.committed.mpr hstate)]
      exact sends_commit_ne_nil_iff found (htransaction ▸ hstate)
    · have hsilent : (w.perform id .commit).sends r = [] := by
        obtain ⟨s', heffect, -⟩ := hs.effect w .commit
        generalize (w.perform id .commit).sends r = new at heffect ⊢
        generalize ((w.perform id .commit).on r).1 = result at heffect
        cases heffect with
        | refused | committedAtOnce => rfl
        | other ho => cases ho
        | committed used | uncommitted used =>
          obtain used | used := used
          · exact absurd used hidle
          · exact absurd used hstate
      exact ⟨fun h => absurd hsilent h, fun h => absurd (hfits.committed.mp h.1) hstate⟩

/-- An empty transaction that was committed, and is committed again. -/
theorem repeatedCommit_sends :
    ∃ r l, History 0 r (some l) ∧ l.used = false ∧
      ∃ t ∈ ((Way.executor .primary).perform 0 .commit).sends r,
        t.command.endsTransaction = true ∧ t.command.carries l.number = true :=
  ⟨_, _, Lone.history.callAll (.executor .primary) [.commit], by decide +kernel⟩

/-- The empty transaction before it is committed. -/
theorem unused_sends_lone :
    ((Way.executor .primary).perform 0 .abort).sends Lone.started = [] ∧
      (((Way.executor .primary).perform 0 .commit).sends Lone.started ≠ [] ↔
        false = true ∧ ∃ source lease r',
          Reached (callersBinding .primary 0 Lone.started.client) .write
            { Lone.started with client := Lone.started.client.holdSession 0 } source lease r') :=
  unused_sends Lone.history rfl (.executor .primary)

end ClusterClient
