/-
  ClusterClient.Proofs.Ledger — an account of the latest transaction of a session.

  A session remembers of its latest transaction how far it is, and it has one counter for the
  numbers of transactions and of writes outside of them.  A `Ledger` is kept beside the session,
  by whoever sees which operations are called, what comes of them and what they send: the number
  that the transaction took, how many numbers were taken since, whether anything was sent in the
  transaction, whether it was asked to end and whether it was committed.  `Ledger.Fits` says how
  the two belong together, and no operation can part them: `Ledger.Fits.after`.
-/
import ClusterClient.Proofs.Effect

namespace ClusterClient

/-! ## §1. What commands tell. -/

namespace Command

/-- The command carries this number. -/
def carries (c : Command) (n : Nat) : Bool :=
  match c.txnNumber? with
  | some (.int64 m) => m == Int64.ofNat n
  | _ => false

/-- The command carries a number, and not that of a transaction. -/
def standsAlone (c : Command) : Bool := c.hasTxnNumber && !Document.has c.body "autocommit"

/-- The command ends a transaction. -/
def endsTransaction (c : Command) : Bool :=
  c.name == "commitTransaction" || c.name == "abortTransaction"

end Command

namespace Transmission.Of

variable {t : Transmission} {command : Command} {o : Option Session}

theorem name_eq (h : t.Of command o) : t.command.name = command.name := by
  obtain ⟨kind, hc⟩ := h.command
  rw [hc, Command.name_prepare]

theorem value?_eq (h : t.Of command o) {key : String} (hs : key ≠ "lsid")
    (hp : key ≠ "$readPreference") : t.command.body.value? key = command.body.value? key := by
  obtain ⟨kind, hc⟩ := h.command
  rw [hc, Command.value?_prepare command _ kind hs hp]

theorem txnNumber?_eq (h : t.Of command o) : t.command.txnNumber? = command.txnNumber? :=
  h.value?_eq (by decide) (by decide)

theorem hasNumber_iff (h : t.Of command o) (n : Nat) :
    t.command.HasNumber n ↔ command.HasNumber n := by
  unfold Command.HasNumber
  rw [h.value?_eq (by decide) (by decide)]

theorem carries_eq (h : t.Of command o) (n : Nat) : t.command.carries n = command.carries n := by
  unfold Command.carries
  rw [h.txnNumber?_eq]

theorem standsAlone_eq (h : t.Of command o) : t.command.standsAlone = command.standsAlone := by
  unfold Command.standsAlone
  rw [Command.hasTxnNumber_eq, Command.hasTxnNumber_eq, h.txnNumber?_eq, Document.has_eq_isSome,
    Document.has_eq_isSome, h.value?_eq (by decide) (by decide)]

end Transmission.Of

section Commands

variable (i : Insert) (s : Session) (name : String) (n : Nat)

/-- What is put into a command that joins a transaction. -/
theorem value?_join (body : Document) {key : String} (hn : key ≠ "txnNumber")
    (hs : key ≠ "startTransaction") (ha : key ≠ "autocommit") :
    (s.join body).value? key = body.value? key := by
  unfold Session.join
  rw [Document.value?_put_of_ne _ _ ha]
  split
  · rw [Document.value?_put_of_ne _ _ hs, Document.value?_put_of_ne _ _ hn]
  · rw [Document.value?_put_of_ne _ _ hn]

theorem hasNumber_join : (Command.of i.database (s.join i.body)).HasNumber s.txnNumber := by
  show (s.join i.body).value? "txnNumber" = _
  unfold Session.join
  rw [Document.value?_put_of_ne _ _ (by decide)]
  split
  · rw [Document.value?_put_of_ne _ _ (by decide)]
    exact Document.value?_put _ _ _
  · exact Document.value?_put _ _ _

theorem standsAlone_join : (Command.of i.database (s.join i.body)).standsAlone = false := by
  have hcommitted : (s.join i.body).value? "autocommit" = some (.boolean false) :=
    Document.value?_put _ _ _
  simp [Command.standsAlone, Command.of, Document.has_eq_isSome, hcommitted]

theorem name_join : (Command.of i.database (s.join i.body)).name = "insert" := by
  unfold Session.join
  split <;> rfl

theorem hasNumber_put :
    (Command.of i.database (i.body.put "txnNumber" (txnNumberValue n))).HasNumber n :=
  Document.value?_put i.body "txnNumber" _

theorem standsAlone_put :
    (Command.of i.database (i.body.put "txnNumber" (txnNumberValue n))).standsAlone = true := by
  rfl

theorem standsAlone_body : (Command.of i.database i.body).standsAlone = false := by
  rfl

theorem hasNumber_endBody :
    (Command.of "admin" (endBody name (some s))).HasNumber s.txnNumber := by
  show (endBody name (some s)).value? "txnNumber" = _
  unfold endBody
  rw [Document.value?_put_of_ne _ _ (by decide)]
  exact Document.value?_put _ _ _

/-- A number is carried by the command in which it stands. -/
theorem carries_of_hasNumber {c : Command} (h : c.HasNumber n) : c.carries n = true := by
  unfold Command.carries Command.txnNumber?
  rw [h]
  exact beq_self_eq_true _

end Commands

/-! ## §2. The ledger. -/

/-- What is known of the latest transaction of a session from what was called and sent. -/
structure Ledger where
  /-- The number that starting it took. -/
  number : Nat
  /-- How many inserts outside of it took a number since. -/
  taken : Nat
  /-- Whether a command with its number was sent before it was first asked to end. -/
  used : Bool
  /-- Whether it was asked to commit or to abort. -/
  ending : Bool
  /-- Whether a commit has succeeded. -/
  committed : Bool

namespace Ledger

/-- A transaction that was just started. -/
def opened (number : Nat) : Ledger := ⟨number, 0, false, false, false⟩

/-- An operation was called, this came of it and this was sent. -/
def after (l : Ledger) (operation : Operation) (result : Except Error Outcome)
    (sent : List Transmission) : Ledger :=
  match operation with
  | .commit => { l with ending := true, committed := l.committed || result.isOk }
  | .abort => { l with ending := true }
  | .insert _ =>
    { l with
      taken := l.taken + if sent.any (·.command.standsAlone) then 1 else 0
      used := l.used || !l.ending && sent.any (·.command.carries l.number) }
  | _ => { l with used := l.used || !l.ending && sent.any (·.command.carries l.number) }

/-- How the ledger of its latest transaction and a session belong together. -/
structure Fits (l : Ledger) (s : Session) : Prop where
  begun : s.transaction.state ≠ .none
  /-- The counter of the session has gone on from the number of the transaction. -/
  number : s.txnNumber = l.number + l.taken
  /-- It does not go on while the transaction is active. -/
  active : s.inTransaction = true → l.taken = 0
  starting : s.transaction.state = .starting → l.ending = false
  inProgress : s.transaction.state = .inProgress → l.used = true
  committed : l.committed = true ↔ s.transaction.state = .committed

variable {l : Ledger} {s s' : Session}

/-- Only the counter and the transaction matter. -/
theorem Fits.congr (h : l.Fits s) (hn : s'.txnNumber = s.txnNumber)
    (ht : s'.transaction = s.transaction) : l.Fits s' where
  begun := ht ▸ h.begun
  number := hn.trans h.number
  active ha := h.active (by rw [← ha, Session.inTransaction, Session.inTransaction, ht])
  starting hs := h.starting (ht ▸ hs)
  inProgress hs := h.inProgress (ht ▸ hs)
  committed := ht ▸ h.committed

/-- An active transaction is of one of two states. -/
theorem state_of_active (active : s.inTransaction = true) :
    s.transaction.state = .starting ∨ s.transaction.state = .inProgress := by
  unfold Session.inTransaction Transaction.isActive at active
  cases hs : s.transaction.state with
  | starting => exact .inl rfl
  | inProgress => exact .inr rfl
  | none | committed | aborted =>
    rw [hs] at active
    cases active

/-- After its first command a transaction is in progress. -/
theorem state_markInProgress (active : s.inTransaction = true) :
    s.markInProgress.transaction.state = .inProgress := by
  unfold Session.markInProgress Transaction.markInProgress
  obtain hs | hs := state_of_active active
  · rw [if_pos hs]
  · rw [if_neg (by rw [hs]; nofun), hs]

/-- Starting a transaction opens its ledger. -/
theorem fits_opened {options : Option TransactionOptions}
    (h : s.startTransaction options = .ok s') : (opened s'.txnNumber).Fits s' := by
  obtain ⟨-, rfl⟩ := Session.startTransaction_eq h
  exact ⟨nofun, rfl, fun _ => rfl, fun _ => rfl, nofun, nofun, nofun⟩

section Steps

variable {i : Insert} {command : Command} {new : List Transmission} {result : Except Error Outcome}

/-- What holds of the command holds of one transmission if there are any. -/
theorem any_eq_of_each {p : Command → Bool} {b : Bool} (ne_nil : new ≠ [])
    (each : ∀ t ∈ new, p t.command = b) : new.any (fun t => p t.command) = b := by
  obtain ⟨t, rest, rfl⟩ := List.exists_cons_of_ne_nil ne_nil
  cases b with
  | true => exact List.any_eq_true.mpr ⟨t, List.mem_cons_self, each t List.mem_cons_self⟩
  | false =>
    refine List.any_eq_false.mpr fun t' ht' => ?_
    rw [each t' ht']
    exact Bool.false_ne_true

/-- More may be known to have been sent. -/
theorem Fits.use (h : l.Fits s) (b : Bool) : Fits { l with used := l.used || b } s :=
  ⟨h.begun, h.number, h.active, h.starting, fun hs => by simp [h.inProgress hs], h.committed⟩

/-- A transaction in which something was sent may be asked to end. -/
theorem Fits.ask (h : l.Fits s) (hs : s.transaction.state ≠ .starting) :
    Fits { l with ending := true } s :=
  ⟨h.begun, h.number, h.active, fun h' => absurd h' hs, h.inProgress, h.committed⟩

theorem Fits.commit (h : l.Fits s) :
    Fits { l with ending := true, committed := true } (s.markAs .committed) :=
  ⟨nofun, h.number, nofun, nofun, nofun, fun _ => rfl, fun _ => rfl⟩

theorem Fits.abort (h : l.Fits s) (hs : s.transaction.state ≠ .committed) :
    Fits { l with ending := true } (s.markAs .aborted) :=
  ⟨nofun, h.number, nofun, nofun, nofun, fun hc => absurd (h.committed.mp hc) hs, nofun⟩

theorem Fits.after_inserted (h : l.Fits s) (open_ : s.isEnded = false)
    (made : i.Makes (some s) command (some s')) (ne_nil : new ≠ [])
    (each : ∀ t ∈ new, t.Of command (some s')) :
    (l.after (.insert i) result new).Fits s' := by
  have halone := any_eq_of_each (p := Command.standsAlone) ne_nil
    fun t ht => (each t ht).standsAlone_eq
  have hcarries := any_eq_of_each (p := fun c => c.carries l.number) ne_nil
    fun t ht => (each t ht).carries_eq l.number
  unfold Ledger.after
  rw [halone, hcarries]
  cases made with
  | joined active =>
    -- While the transaction is active its number is the counter, so the insert carries it.
    have hnumber : s.txnNumber = l.number := by rw [h.number, h.active active, Nat.add_zero]
    rw [standsAlone_join, carries_of_hasNumber l.number (hnumber ▸ hasNumber_join i s)]
    have hstate := state_markInProgress active
    refine ⟨by rw [hstate]; nofun, h.number, fun _ => h.active active, by rw [hstate]; nofun,
      fun _ => ?_, ?_⟩
    · obtain hs | hs := state_of_active active
      · simp [h.starting hs]
      · simp [h.inProgress hs]
    · rw [hstate, h.committed]
      obtain hs | hs := state_of_active active <;> simp [hs]
  | numbered idle _ =>
    -- The insert stands alone and takes the next number, and the ledger counts it.
    rw [standsAlone_put]
    have hactive : s.advanced.inTransaction = false := idle
    refine ⟨h.begun, ?_, by rw [hactive]; nofun, h.starting, (h.use _).inProgress, h.committed⟩
    rw [Session.txnNumber_advanced open_, h.number]
    exact Nat.add_assoc _ _ _
  | plain idle =>
    -- Without a number nothing is counted.
    rw [standsAlone_body]
    exact h.use _

/-- No operation parts the ledger from the session. -/
theorem Fits.after {operation : Operation} (h : l.Fits s) (open_ : s.isEnded = false)
    (heffect : Effect s operation result new s') : (l.after operation result new).Fits s' := by
  have hfailed : ∀ e, l.after .commit (.error e) new = { l with ending := true } := fun e => by
    simp [Ledger.after, Except.isOk, Except.toBool]
  have hdone : ∀ o, l.after .commit (.ok o) new = { l with ending := true, committed := true } :=
    fun o => by simp [Ledger.after, Except.isOk, Except.toBool]
  cases heffect with
  | inserted made ne_nil each => exact h.after_inserted open_ made ne_nil each
  | other ho =>
    cases operation with
    | insert | commit | abort => cases ho
    | runCommand | dropCollection | dropUser => exact h.use _
  | refused ha hc =>
    -- Even a refused commit or abort asks the transaction to end; it is not one that is starting.
    cases operation with
    | insert | runCommand | dropCollection | dropUser => exact h.use _
    | commit =>
      rw [hfailed]
      exact h.ask (hc rfl)
    | abort =>
      refine h.ask fun hs => ?_
      have hidle := ha rfl
      simp [Session.inTransaction, Transaction.isActive, hs] at hidle
  | committedAtOnce starting =>
    rw [hdone]
    exact h.commit
  | committed used ne_nil each =>
    rw [hdone]
    exact h.commit
  | uncommitted used each =>
    rw [hfailed]
    refine h.ask ?_
    obtain hs | hs := used <;> rw [hs] <;> nofun
  | abortedAtOnce starting => exact h.abort (by rw [starting]; nofun)
  | aborted used each => exact h.abort (by rw [used]; nofun)

end Steps

end Ledger

end ClusterClient
