/-
  ClusterClient.Proofs.Belonging — which commands belong to a transaction.

  What an operation sends while a transaction is active always carries the identifier of the
  session.  The number of the transaction, and that nothing is committed at once, is added for
  inserts and for the end of the transaction, by two different ways to make a command; a command
  that reads, or that drops something, is sent as it was made.  So an operation of an active
  transaction runs in it exactly if it is an insert or ends it (or is a command in which the caller
  has written the fields), and the others leave the transaction as if nothing had been sent in it:
  `sends_inTransaction`, `readInTransaction_outside`.
-/
import ClusterClient.Proofs.History

namespace ClusterClient

open Run

/-! ## §1. What belongs to a transaction. -/

/-- The command is one of the transaction of the session. -/
structure Command.BelongsTo (c : Command) (s : Session) : Prop where
  lsid : c.HasIdentifier s.id?
  number : c.HasNumber s.txnNumber
  autocommit : c.body.value? "autocommit" = some (.boolean false)

section Belonging

variable {t : Transmission} {command : Command} {s s' : Session}

/-- In a session that has not ended a command carries its identifier. -/
theorem Transmission.Of.lsid (h : t.Of command (some s)) (open_ : s.isEnded = false) :
    t.command.HasIdentifier s.id? := by
  obtain ⟨kind, hc⟩ := h.command
  cases hid : s.id? with
  | none =>
    rw [Session.id?, Option.map_eq_none_iff] at hid
    rw [Session.isEnded, hid] at open_
    cases open_
  | some n =>
    rw [hc, Option.bind_some, hid]
    exact Command.hasIdentifier_prepare command n kind

/-- The rest of what makes it belong there was in the command before. -/
theorem Transmission.Of.belongsTo_iff (h : t.Of command (some s')) (open_ : s'.isEnded = false)
    (hid : s'.id? = s.id?) :
    t.command.BelongsTo s ↔
      command.HasNumber s.txnNumber ∧
        command.body.value? "autocommit" = some (.boolean false) := by
  have hlsid := h.lsid open_
  have hnumber := h.hasNumber_iff s.txnNumber
  have hautocommit : t.command.body.value? "autocommit" = command.body.value? "autocommit" :=
    h.value?_eq (by decide) (by decide)
  rw [hid] at hlsid
  constructor
  · intro hb
    exact ⟨hnumber.mp hb.number, hautocommit ▸ hb.autocommit⟩
  · rintro ⟨hn, ha⟩
    exact ⟨hlsid, hnumber.mpr hn, hautocommit.trans ha⟩

theorem value?_join_autocommit (s : Session) (body : Document) :
    (s.join body).value? "autocommit" = some (.boolean false) :=
  Document.value?_put _ _ _

theorem value?_endBody_autocommit (name : String) (o : Option Session) :
    (endBody name o).value? "autocommit" = some (.boolean false) :=
  Document.value?_put _ _ _

/-- An insert in the transaction belongs to it. -/
theorem Transmission.Of.belongsTo_of_joined {i : Insert} (open_ : s.isEnded = false)
    (h : t.Of (.of i.database (s.join i.body)) (some s.markInProgress)) :
    t.command.BelongsTo s :=
  (h.belongsTo_iff (s := s) open_ rfl).mpr
    ⟨hasNumber_join i s, value?_join_autocommit s i.body⟩

/-- What ends the transaction belongs to it. -/
theorem Transmission.Of.belongsTo_of_end {name : String} (open_ : s.isEnded = false)
    (h : t.Of (.of "admin" (endBody name (some s))) (some s)) : t.command.BelongsTo s :=
  (h.belongsTo_iff open_ rfl).mpr
    ⟨hasNumber_endBody s name, value?_endBody_autocommit name (some s)⟩

end Belonging

/-! ## §2. Commands that are sent as they are made. -/

/-- The commands of operations that take no numbers into account. -/
inductive Operation.Plain : Operation → Command → Prop where
  | runCommand (c : RunCommand) (preference : ReadPreference) :
    Plain (.runCommand c) (.ofRead c.database c.body preference)
  | dropCollection (database collection : String) :
    Plain (.dropCollection database collection) (.of database [("drop", .text collection)])
  | dropUser (database user : String) :
    Plain (.dropUser database user) (.of database [("dropUser", .text user)])

section Plain

variable {α : Type} {b : Binding} {x : SessionContext} {r r' : Run} {k : Nat} {s : Session}
variable {operation : Operation}

/-- Whatever is sent is the command that was made. -/
theorem Sending.each_plain {o : Option Session} {P : Command → Option Session → Prop}
    {result : Except Error α} (h : Sending x k o P r result r')
    (hP : ∀ command o', P command o' → o' = o ∧ operation.Plain command) :
    ∀ t ∈ r'.sent.drop r.sent.length, ∃ command, operation.Plain command ∧ t.Of command o := by
  cases h with
  | unsent sent =>
    rw [sent, List.drop_length]
    simp
  | @sent command o' _ _ new made _ sent _ each =>
    obtain ⟨rfl, hplain⟩ := hP command o' made
    rw [sent, List.drop_left]
    exact fun t ht => ⟨command, hplain, each t ht⟩

theorem acknowledged_plain {database : String} {body : Document}
    (plain : operation.Plain (.of database body)) (hk : s.Kept)
    (h : Shows b.context r.client k (some s)) :
    ∀ t ∈ (acknowledged b database body).sends r, ∃ command, operation.Plain command ∧
      t.Of command (some s) := by
  have hsend := performWrite_sending database body (fun reply _ => Document.checkWriteConcern reply)
    hk.allKept h
  unfold Exec.sends acknowledged
  rw [Exec.on_bind_pure]
  refine hsend.each_plain fun command o' made => ?_
  obtain ⟨rfl, rfl⟩ := made
  exact ⟨rfl, plain⟩

theorem execute_plain (hn : operation.isNumbered = false) (hk : s.Kept)
    (h : Shows b.context r.client k (some s)) :
    ∀ t ∈ (operation.execute b).sends r, ∃ command, operation.Plain command ∧
      t.Of command (some s) := by
  cases operation with
  | insert | commit | abort => cases hn
  | dropUser database user => exact acknowledged_plain (.dropUser database user) hk h
  | dropCollection database collection =>
    -- That the collection need not be there concerns the result only.
    exact acknowledged_plain (.dropCollection database collection) hk h
  | runCommand c =>
    have hsend := performRead_sending c.database c.body (fun reply _ => .ok reply) hk.allKept h
    unfold Exec.sends Operation.execute
    rw [Exec.on_bind_pure]
    refine hsend.each_plain fun command o' made => ?_
    obtain ⟨rfl, preference, rfl⟩ := made
    exact ⟨rfl, .runCommand c preference⟩

/-- What an operation sends in a caller's session is what it sends on the executor's binding. -/
theorem sends_withBinding (operation : Operation) (preference : ReadPreference) (id : SessionId)
    (r : Run) :
    (withBinding preference (some id) (executeLabelled operation)).sends r =
      (operation.execute (callersBinding preference id r.client)).sends
        { r with client := r.client.holdSession id } := by
  unfold Exec.sends
  rw [withBinding_on]
  simp only [executeLabelled_run]

/-- The executor sends what is sent on its binding, or refuses to read. -/
theorem sends_executor (operation : Operation) (preference : ReadPreference) (id : SessionId)
    (r : Run) :
    (perform operation preference (some id)).sends r = [] ∨
      ∃ preference', (perform operation preference (some id)).sends r =
        (operation.execute (callersBinding preference' id r.client)).sends
          { r with client := r.client.holdSession id } := by
  cases hr : operation.reads with
  | false =>
    rw [perform_of_not_reads hr]
    exact .inr ⟨.primary, sends_withBinding operation .primary id r⟩
  | true =>
    unfold perform Exec.sends
    simp only [hr]
    simp only [Exec.on_bind, Exec.on_lift, on_currentClient, if_true]
    split
    · exact .inl List.drop_length
    · exact .inr ⟨preference, sends_withBinding operation preference id r⟩

theorem Way.sends_plain {id : SessionId} (w : Way) (hn : operation.isNumbered = false)
    (hk : s.Kept) (h : Shows ⟨some id, false⟩ r.client k (some s)) :
    ∀ t ∈ (w.perform id operation).sends r, ∃ command, operation.Plain command ∧
      t.Of command (some s) := by
  cases w with
  | bound preference retryWrites ownsSession =>
    exact execute_plain (b := ⟨preference, ⟨some id, retryWrites⟩, ownsSession⟩) hn hk h
  | executor preference =>
    show ∀ t ∈ (ClusterClient.perform operation preference (some id)).sends r, _
    obtain hnone | ⟨preference', hsends⟩ := sends_executor operation preference id r
    · rw [hnone]
      simp
    · rw [hsends]
      have hheld : Shows ⟨some id, false⟩ (r.client.holdSession id) (k + 1) (some s) := h.held
      exact execute_plain (b := callersBinding preference' id r.client) hn hk hheld

end Plain

/-! ## §3. Operations of an active transaction. -/

/-- Whether a command of the caller's brings what makes it belong to the transaction. -/
def Operation.Brings (s : Session) : Operation → Prop
  | .runCommand c => c.body.value? "txnNumber" = some (.int64 (Int64.ofNat s.txnNumber)) ∧
      c.body.value? "autocommit" = some (.boolean false)
  | _ => False

theorem Operation.Plain.brings_iff {operation : Operation} {command : Command}
    (h : operation.Plain command) (s : Session) :
    command.HasNumber s.txnNumber ∧
      command.body.value? "autocommit" = some (.boolean false) ↔ operation.Brings s := by
  cases h with
  | runCommand => exact Iff.rfl
  | dropCollection | dropUser => exact ⟨nofun, nofun⟩

/-- What an operation sends in the active transaction of the session, and how it leaves the
    session. -/
structure Session.Involves (s : Session) (operation : Operation) (sent : List Transmission)
    (s' : Session) : Prop where
  lsid : ∀ t ∈ sent, t.command.HasIdentifier s.id?
  /-- It belongs to the transaction exactly if the operation is an insert or ends it, or the caller
      has written so. -/
  belongs : ∀ t ∈ sent,
    (t.command.BelongsTo s ↔ operation.isNumbered = true ∨ operation.Brings s)
  number : s'.txnNumber = s.txnNumber
  /-- All other operations leave the transaction as if nothing had been sent. -/
  aside : operation.isNumbered = false → s'.transaction = s.transaction
  /-- So it still counts as one in which nothing was sent unless one of these was. -/
  used : sent ≠ [] → (s'.transaction.state ≠ .starting ↔
    operation.isNumbered = true ∨ s.transaction.state ≠ .starting)

theorem Effect.belongs {s s' : Session} {operation : Operation} {result : Except Error Outcome}
    {new : List Transmission} (h : Effect s operation result new s') (open_ : s.isEnded = false)
    (active : s.inTransaction = true) (hn : operation.isNumbered = true) :
    (∀ t ∈ new, t.command.BelongsTo s) ∧ s'.txnNumber = s.txnNumber ∧
      (new ≠ [] → s'.transaction.state ≠ .starting) := by
  cases h with
  | refused | committedAtOnce | abortedAtOnce => exact ⟨by simp, rfl, fun h => absurd rfl h⟩
  | other ho =>
    rw [hn] at ho
    cases ho
  | inserted made _ each =>
    -- While the transaction is active an insert joins it.
    cases made with
    | joined =>
      refine ⟨fun t ht => (each t ht).belongsTo_of_joined open_, rfl, fun _ => ?_⟩
      rw [Ledger.state_markInProgress active]
      nofun
    | numbered idle =>
      rw [active] at idle
      cases idle
    | plain idle => simp [idle s rfl] at active
  | committed used _ each | aborted used each =>
    exact ⟨fun t ht => (each t ht).belongsTo_of_end open_, rfl, fun _ => nofun⟩
  | uncommitted used each =>
    refine ⟨fun t ht => (each t ht).belongsTo_of_end open_, rfl, fun _ => ?_⟩
    obtain hs | hs := used <;> rw [hs] <;> nofun

/-- An operation that takes no numbers into account leaves the session alone. -/
theorem Effect.eq_of_not_numbered {s s' : Session} {operation : Operation}
    {result : Except Error Outcome} {new : List Transmission}
    (h : Effect s operation result new s') (hn : operation.isNumbered = false) : s' = s := by
  cases h with
  | refused | other | uncommitted => rfl
  | inserted | committedAtOnce | committed | abortedAtOnce | aborted => cases hn

section InTransaction

variable {id : SessionId} {r : Run} {s : Session}

/-- What an operation sends in the session, seen from how the session looks. -/
theorem Way.involves (w : Way) (operation : Operation) {k : Nat} (hk : s.Kept)
    (h : Shows ⟨some id, false⟩ r.client k (some s)) (open_ : s.isEnded = false)
    (active : s.inTransaction = true) :
    ∃ s', s.Involves operation ((w.perform id operation).sends r) s' ∧
      Shows ⟨some id, false⟩ ((w.perform id operation).on r).2.client k (some s') := by
  obtain ⟨new, s', heffect, hsent, hshows⟩ := w.perform_takes operation hk h
  have hsends : (w.perform id operation).sends r = new := Exec.sends_eq_of_sent hsent
  refine ⟨s', ?_, hshows⟩
  cases hn : operation.isNumbered with
  | true =>
    obtain ⟨hbelongs, hnumber, hstate⟩ := heffect.belongs open_ active hn
    rw [hsends]
    refine ⟨fun t ht => (hbelongs t ht).lsid, fun t ht => ?_, hnumber, ?_, fun hne => ?_⟩
    · exact iff_of_true (hbelongs t ht) (.inl hn)
    · rw [hn]
      nofun
    · exact iff_of_true (hstate hne) (.inl hn)
  | false =>
    have hplain := w.sends_plain hn hk h
    obtain rfl := heffect.eq_of_not_numbered hn
    refine ⟨fun t ht => ?_, fun t ht => ?_, rfl, fun _ => rfl, fun _ => by simp [hn]⟩
    · obtain ⟨command, -, hof⟩ := hplain t ht
      exact hof.lsid open_
    · obtain ⟨command, hcommand, hof⟩ := hplain t ht
      rw [hof.belongsTo_iff open_ rfl, hcommand.brings_iff, hn]
      simp

theorem Command.belongsTo_still (c : Command) (s : Session) :
    c.BelongsTo s.still ↔ c.BelongsTo s := by
  have hid := s.id?_still
  have hnumber := s.txnNumber_still
  constructor
  · rintro ⟨hl, hn, ha⟩
    exact ⟨hid ▸ hl, hnumber ▸ hn, ha⟩
  · rintro ⟨hl, hn, ha⟩
    exact ⟨hid ▸ hl, hnumber ▸ hn, ha⟩

/-- How a session looks is all that counts. -/
theorem Session.Involves.of_still {operation : Operation} {sent : List Transmission}
    {s₀ s' : Session} {k : Nat} (h : s.still.Involves operation sent s') (hlike : s₀.Like k s') :
    s.Involves operation sent s₀ where
  lsid t ht := s.id?_still ▸ h.lsid t ht
  belongs t ht := by
    have hbrings : operation.Brings s.still ↔ operation.Brings s := by
      cases operation <;> simp [Operation.Brings]
    rw [← Command.belongsTo_still, h.belongs t ht, hbrings]
  number := by rw [hlike.txnNumber, h.number, s.txnNumber_still]
  aside hn := hlike.transaction.trans (h.aside hn)
  used hne := by
    rw [hlike.transaction]
    exact h.used hne

/-- What an operation of an active transaction sends, called in any way on a session that has not
    ended: it is sent in the session, and it is part of the transaction if it is an insert or ends
    the transaction.  Its number is the one that starting the transaction took. -/
theorem sends_inTransaction (found : r.client.sessions[id]? = some s) (open_ : s.isEnded = false)
    (held : 0 < s.holders) (active : s.inTransaction = true) (w : Way) (operation : Operation) :
    (∃ s', ((w.perform id operation).on r).2.client.sessions[id]? = some s' ∧
      s.Involves operation ((w.perform id operation).sends r) s') ∧
    ∀ l, History id r (some l) → s.txnNumber = l.number := by
  constructor
  · have hshows : Shows ⟨some id, false⟩ r.client 0 (some s.still) := .of_found found
    obtain ⟨s', hinvolves, hshows'⟩ :=
      w.involves (s := s.still) operation (fun _ => held) hshows
        (s.isEnded_still.trans open_) active
    obtain ⟨s₀, hs, hlike⟩ := hshows'.exists_like
    exact ⟨s₀, hs, hinvolves.of_still hlike⟩
  · intro l hl
    obtain ⟨s₀, hs⟩ := hl.stands
    have hsame := hs.found
    rw [found] at hsame
    cases hsame
    have hfits : l.Fits s := hs.accounts
    rw [hfits.number, hfits.active active, Nat.add_zero]

end InTransaction

namespace Lone

/-- A command that reads, of a caller who writes nothing of transactions. -/
def counting : Operation := .runCommand ⟨"db", [("count", .text "coll")], by simp⟩

end Lone

/-- An insert that starts the transaction belongs to it. -/
theorem sends_inTransaction_lone :
    Lone.started.client.sessions[0]? = some Lone.session ∧ Lone.session.isEnded = false ∧
      0 < Lone.session.holders ∧ Lone.session.inTransaction = true ∧
      ((Way.executor .primary).perform 0 Lone.insert).sends Lone.started ≠ [] ∧
      ∃ s', Lone.session.Involves Lone.insert
        (((Way.executor .primary).perform 0 Lone.insert).sends Lone.started) s' := by
  have found : Lone.started.client.sessions[0]? = some Lone.session := rfl
  obtain ⟨⟨s', -, hinvolves⟩, -⟩ :=
    sends_inTransaction found rfl (by decide) rfl (.executor .primary) Lone.insert
  exact ⟨rfl, rfl, by decide, rfl, by decide +kernel, s', hinvolves⟩

/-- Commands that read or drop something are sent outside of the transaction in which they are
    called, and the transaction counts as one in which nothing was sent. -/
theorem readInTransaction_outside :
    History 0 Lone.started (some (.opened 1)) ∧
      Lone.started.client.sessions[0]? = some Lone.session ∧
      Lone.session.inTransaction = true ∧ Lone.session.isEnded = false ∧
      ∀ operation ∈ [Lone.counting, .dropCollection "db" "coll", .dropUser "db" "user"],
        (∃ t ∈ ((Way.executor .primary).perform 0 operation).sends Lone.started,
          t.command.txnNumber? = none ∧ Document.has t.command.body "autocommit" = false ∧
            Document.has t.command.body "lsid" = true) ∧
        (((Way.executor .primary).perform 0 operation).on Lone.started).2.client.sessions[0]?.map
          (·.transaction.state) = some .starting ∧
        ((Way.executor .primary).perform 0 .commit).sends
          (((Way.executor .primary).perform 0 operation).on Lone.started).2 = [] :=
  ⟨Lone.history, rfl, rfl, rfl, by decide +kernel⟩

end ClusterClient
