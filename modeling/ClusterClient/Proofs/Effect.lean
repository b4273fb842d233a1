/-
  ClusterClient.Proofs.Effect — what operations do to their session.

  The first part is about commands: what an insert and the end of a transaction carry of the
  session they are made in, and that the way to the server adds nothing to it but the identifier
  of the session and the read preference.  The second part is `Effect`, which has one case for
  each way in which an operation can go: what reaches the servers, and how the session looks
  afterwards.

  Main statements: `Insert.request_makes` and `endRequest_makes`, `execute_takes` (an operation on
  a binding), `perform_takes` (through the executor).
-/
import ClusterClient.Proofs.Sending

namespace ClusterClient

open Run

/-! ## §1. What commands carry. -/

theorem Document.has_eq_isSome (d : Document) (key : String) :
    d.has key = (d.value? key).isSome := by
  unfold has value?
  rw [Option.isSome_map, Bool.eq_iff_iff, List.any_eq_true, List.find?_isSome]

namespace Command

/-- The transaction number in a command. -/
def txnNumber? (c : Command) : Option Value := c.body.value? "txnNumber"

/-- The command names the session of the deployment: a document with the identifier stands under
    `lsid`, and nothing if there is no identifier. -/
def HasIdentifier (c : Command) (id : Option Nat) : Prop :=
  c.body.value? "lsid" = id.map fun n => .document [("id", .uuid n)]

/-- The command has the number, which goes out with 64 bits. -/
def HasNumber (c : Command) (n : Nat) : Prop :=
  c.body.value? "txnNumber" = some (.int64 (Int64.ofNat n))

theorem hasTxnNumber_eq (c : Command) : c.hasTxnNumber = c.txnNumber?.isSome :=
  Document.has_eq_isSome c.body "txnNumber"

/-- The command under a session, if there is one. -/
def within (c : Command) : Option Nat → Command
  | some id => c.withSession id
  | none => c

/-- On its way to the server a command gets the identifier of the session and the preference. -/
theorem prepare_eq (c : Command) (id : Option Nat) (kind : ServerKind) :
    c.prepare id kind =
      if kind = .router then (c.within id).withReadPreference else c.within id := by
  cases id <;> rfl

theorem name_prepare (c : Command) (id : Option Nat) (kind : ServerKind) :
    (c.prepare id kind).name = c.name := by
  -- Neither the identifier nor the preference is part of the name.
  have hid : (c.within id).name = c.name := by cases id <;> rfl
  rw [prepare_eq]
  split
  · unfold withReadPreference
    split <;> exact hid
  · exact hid

/-- A router is told the preference and nothing else. -/
theorem value?_prepare_within (c : Command) (id : Option Nat) (kind : ServerKind) {key : String}
    (h : key ≠ "$readPreference") :
    (c.prepare id kind).body.value? key = (c.within id).body.value? key := by
  rw [prepare_eq]
  split
  · unfold withReadPreference
    split
    · exact Document.value?_put_of_ne _ _ h
    · rfl
  · rfl

theorem hasIdentifier_prepare (c : Command) (id : Nat) (kind : ServerKind) :
    (c.prepare (some id) kind).HasIdentifier (some id) := by
  unfold HasIdentifier
  rw [value?_prepare_within c _ _ (by decide)]
  exact Document.value?_put c.body "lsid" _

theorem value?_prepare_none (c : Command) (kind : ServerKind) {key : String}
    (h : key ≠ "$readPreference") :
    (c.prepare none kind).body.value? key = c.body.value? key :=
  value?_prepare_within c none kind h

theorem value?_prepare (c : Command) (id : Option Nat) (kind : ServerKind) {key : String}
    (hs : key ≠ "lsid") (hp : key ≠ "$readPreference") :
    (c.prepare id kind).body.value? key = c.body.value? key := by
  rw [value?_prepare_within c id kind hp]
  cases id with
  | none => rfl
  | some n => exact Document.value?_put_of_ne c.body _ hs

end Command

/-! ## §2. What making a command does. -/

/-- What a command carries that is sent in the transaction of the session. -/
def Session.join (s : Session) (body : Document) : Document :=
  let body := body.put "txnNumber" (txnNumberValue s.txnNumber)
  let body := if s.transaction.state = .starting then
    Document.put body "startTransaction" (.boolean true) else body
  Document.put body "autocommit" (.boolean false)

/-- The session after it has taken the next number. -/
def Session.advanced (s : Session) : Session :=
  { s with server := s.server.map fun v => { v with txnNumber := v.txnNumber + 1 } }

/-- What carries the end of the transaction of a session, if there is one. -/
def endBody (name : String) (o : Option Session) : Document :=
  let body : Document := [(name, .int32 1)]
  let body := match o with
    | some s => body.put "txnNumber" (txnNumberValue s.txnNumber)
    | none => body
  Document.put body "autocommit" (.boolean false)

/-- The command that an insert makes in a session, and the session afterwards. -/
inductive Insert.Makes (i : Insert) : Option Session → Command → Option Session → Prop where
  /-- In a transaction it takes part in it. -/
  | joined {s : Session} (active : s.inTransaction = true) :
    Makes i (some s) (.of i.database (s.join i.body)) (some s.markInProgress)
  /-- Elsewhere it takes a number of its own, -/
  | numbered {s : Session} (idle : s.inTransaction = false) (open_ : s.isEnded = false) :
    Makes i (some s)
      (.of i.database (i.body.put "txnNumber" (txnNumberValue (s.txnNumber + 1)))) (some s.advanced)
  /-- or none. -/
  | plain {o : Option Session} (idle : ∀ s, o = some s → s.inTransaction = false) :
    Makes i o (.of i.database i.body) o

theorem Session.isEnded_advanced (s : Session) : s.advanced.isEnded = s.isEnded := by
  obtain ⟨server, _⟩ := s
  cases server <;> rfl

/-- A session that has not ended has a next number. -/
theorem Session.advance_eq {s : Session} (open_ : s.isEnded = false) :
    s.advance = some (s.txnNumber + 1, s.advanced) := by
  obtain ⟨server, _⟩ := s
  cases server with
  | none => cases open_
  | some v => rfl

/-- An ended one has no number to take. -/
theorem Session.advance_eq_none {s : Session} (ended : s.isEnded = true) : s.advance = none := by
  rw [Session.advance, Option.isNone_iff_eq_none.mp ended, Option.map_none]

theorem SessionContext.advance_of_open {x : SessionContext} {c : Client} {s : Session}
    (hs : x.session? c = some s) (open_ : s.isEnded = false) :
    x.advance c = (some (s.txnNumber + 1), x.modify (fun _ => s.advanced) c) := by
  rw [SessionContext.advance, hs, Option.bind_some, Session.advance_eq open_]

theorem SessionContext.advance_of_ended {x : SessionContext} {c : Client} {s : Session}
    (hs : x.session? c = some s) (ended : s.isEnded = true) : x.advance c = (Option.none, c) := by
  rw [SessionContext.advance, hs, Option.bind_some, Session.advance_eq_none ended]

theorem Session.txnNumber_advanced {s : Session} (open_ : s.isEnded = false) :
    s.advanced.txnNumber = s.txnNumber + 1 := by
  obtain ⟨server, _⟩ := s
  cases server with
  | none => cases open_
  | some v => rfl

/-- What it is to have taken a number. -/
theorem Session.eq_of_advance {s s' : Session} {n : Nat} (h : s.advance = some (n, s')) :
    s.isEnded = false ∧ n = s.txnNumber + 1 ∧ s' = s.advanced := by
  cases he : s.isEnded with
  | true =>
    rw [Session.advance_eq_none he] at h
    cases h
  | false =>
    rw [Session.advance_eq he] at h
    cases h
    exact ⟨rfl, rfl, rfl⟩

/-- What it is to have started a transaction. -/
theorem Session.startTransaction_eq {s s' : Session} {options : Option TransactionOptions}
    (h : s.startTransaction options = .ok s') :
    s.isEnded = false ∧ s' = { s.advanced with transaction := ⟨.starting, options⟩ } := by
  unfold Session.startTransaction at h
  split at h
  · cases h
  split at h
  · cases h
  cases he : s.isEnded with
  | true =>
    rw [Session.advance_eq_none he] at h
    cases h
  | false =>
    rw [Session.advance_eq he] at h
    cases h
    exact ⟨rfl, rfl⟩

/-- A write can be sent again only in a session that has not ended. -/
theorem exists_of_canRetryWrite {c : Client} {server : ServerDescription}
    {connection : ConnectionDescription} {x : SessionContext}
    (able : canRetryWrite c server connection x = true) :
    ∃ s, x.session? c = some s ∧ s.isEnded = false := by
  have hx : x.hasSession c = true := by
    simp only [canRetryWrite, Bool.and_eq_true] at able
    exact able.1.1.1
  unfold SessionContext.hasSession at hx
  cases hs : x.session? c with
  | none =>
    rw [hs] at hx
    cases hx
  | some s =>
    rw [hs] at hx
    exact ⟨s, rfl, by simpa using hx⟩

section Making

variable {x : SessionContext} {r : Run} {s s₀ : Session} {k : Nat} {o : Option Session}
variable (body : Document) (server : ServerDescription) (connection : ConnectionDescription)

theorem putSessionFields_joined (hs : x.session? r.client = some s)
    (active : s.inTransaction = true) :
    (putSessionFields body server connection x).on r =
      (s.join body, { r with client := x.modify Session.markInProgress r.client }) := by
  have hx : x.inTransaction r.client = true := by
    rw [SessionContext.inTransaction, hs]
    exact active
  have hn : x.txnNumber? r.client = some s.txnNumber := by
    rw [SessionContext.txnNumber?, hs, Option.map_some]
  unfold putSessionFields
  simp only [Act.on_bind, on_currentClient, hx, hn, hs, if_true, Option.map_some,
    Option.some.injEq]
  rfl

theorem putSessionFields_numbered (hs : x.session? r.client = some s)
    (idle : s.inTransaction = false)
    (able : canRetryWrite r.client server connection x = true) :
    (putSessionFields body server connection x).on r =
      (body.put "txnNumber" (txnNumberValue (s.txnNumber + 1)),
        { r with client := x.modify (fun _ => s.advanced) r.client }) := by
  have hx : x.inTransaction r.client = false := by
    rw [SessionContext.inTransaction, hs]
    exact idle
  have hadvance : x.advance r.client =
      (some (s.txnNumber + 1), x.modify (fun _ => s.advanced) r.client) := by
    obtain ⟨s', hs', open_⟩ := exists_of_canRetryWrite able
    rw [hs] at hs'
    cases hs'
    exact SessionContext.advance_of_open hs open_
  unfold putSessionFields
  simp only [Act.on_bind, on_currentClient, hx, able, hadvance]
  rfl

theorem putSessionFields_plain (idle : x.inTransaction r.client = false)
    (unable : canRetryWrite r.client server connection x = false) :
    (putSessionFields body server connection x).on r = (body, r) := by
  unfold putSessionFields
  simp only [Act.on_bind, on_currentClient, idle, unable]
  rfl

theorem Session.Like.join (h : s₀.Like k s) : s₀.join body = s.join body := by
  unfold Session.join
  rw [h.txnNumber, h.transaction]

theorem Session.Like.advanced (h : s₀.Like k s) : s₀.advanced.Like k s.advanced := by
  have hs : s₀.still = s.heldBy k := h
  have hstill : s₀.advanced.still = s₀.still.advanced := by
    obtain ⟨server, _⟩ := s₀
    cases server <;> rfl
  unfold Session.Like
  rw [hstill, hs]
  rfl

/-- What making the command of an insert does. -/
theorem Insert.request_makes (i : Insert) (x : SessionContext) (o : Option Session) :
    (i.request x).Makes x o (i.Makes o) := by
  intro server connection r k h
  have hcreate : ((i.request x).create server connection).on r =
      (.ok (.of i.database ((putSessionFields i.body server connection x).on r).1),
        ((putSessionFields i.body server connection x).on r).2) := rfl
  rw [hcreate]
  obtain ⟨hs, rfl⟩ | ⟨s₀, s, hs, rfl, hlike⟩ := h.cases
  -- Without a session there is neither a transaction nor a second chance.
  · have idle : x.inTransaction r.client = false := by
      rw [SessionContext.inTransaction, hs]
    have unable : canRetryWrite r.client server connection x = false := by
      refine Bool.eq_false_iff.mpr fun able => ?_
      obtain ⟨_, hs', -⟩ := exists_of_canRetryWrite able
      rw [hs] at hs'
      cases hs'
    rw [putSessionFields_plain _ _ _ idle unable]
    exact ⟨_, _, _, rfl, h, .plain fun _ hs' => nomatch hs'⟩
  · cases active : s₀.inTransaction with
    | true =>
      rw [putSessionFields_joined _ _ _ hs active, hlike.join]
      refine ⟨_, _, _, rfl, ?_, .joined (hlike.inTransaction ▸ active)⟩
      exact h.modify (g := Session.markInProgress) fun _ => rfl
    | false =>
      cases able : canRetryWrite r.client server connection x with
      | true =>
        -- What may be sent again takes a number, and only a session that lasts has one.
        obtain ⟨s', hs', open_⟩ := exists_of_canRetryWrite able
        rw [hs] at hs'
        cases hs'
        rw [putSessionFields_numbered _ _ _ hs active able, hlike.txnNumber]
        refine ⟨_, _, _, rfl, ?_, .numbered (hlike.inTransaction ▸ active) (hlike.isEnded ▸ open_)⟩
        unfold Shows
        rw [SessionContext.session?_modify, hs]
        exact congrArg some hlike.advanced
      | false =>
        have idle : x.inTransaction r.client = false := by
          rw [SessionContext.inTransaction, hs]
          exact active
        rw [putSessionFields_plain _ _ _ idle able]
        refine ⟨_, _, _, rfl, h, .plain fun s' hs' => ?_⟩
        cases hs'
        exact hlike.inTransaction ▸ active

theorem endRequest_makes (name : String) (x : SessionContext) (o : Option Session) :
    (endRequest name x).Makes x o fun command o' =>
      o' = o ∧ command = .of "admin" (endBody name o) := by
  intro server connection r k h
  have hnumber : x.txnNumber? r.client = o.map (·.txnNumber) := by
    unfold SessionContext.txnNumber?
    obtain ⟨hs, rfl⟩ | ⟨s₀, s, hs, rfl, hlike⟩ := h.cases
    · rw [hs]
    · rw [hs]
      exact congrArg some hlike.txnNumber
  refine ⟨.of "admin" (endBody name o), r, o, ?_, h, rfl, rfl⟩
  simp only [endRequest, putTransactionFields, Exec.on_bind, Exec.on_lift, Act.on_bind,
    on_currentClient, hnumber]
  cases o <;> rfl

end Making

/-! ## §3. What operations do. -/

/-- Whether an operation takes numbers of its session into account. -/
def Operation.isNumbered : Operation → Bool
  | .insert _ | .commit | .abort => true
  | .runCommand _ | .dropCollection _ _ | .dropUser _ _ => false

/-- How an operation can go in a session: what comes of it, what reaches the servers, and the
    session afterwards. -/
inductive Effect (s : Session) :
    Operation → Except Error Outcome → List Transmission → Session → Prop where
  /-- What is refused or reaches no server has no effect, unless it ends a transaction that is
      under way. -/
  | refused {operation : Operation} {e : Error}
    (h : operation = .abort → s.inTransaction = false)
    (h' : operation = .commit → s.transaction.state ≠ .starting) :
    Effect s operation (.error e) [] s
  | inserted {i : Insert} {command : Command} {s' : Session} {result : Except Error Outcome}
    {new : List Transmission} (made : i.Makes (some s) command (some s')) (ne_nil : new ≠ [])
    (each : ∀ t ∈ new, t.Of command (some s')) : Effect s (.insert i) result new s'
  /-- All other operations leave the session alone. -/
  | other {operation : Operation} {result : Except Error Outcome} {new : List Transmission}
    (h : operation.isNumbered = false) : Effect s operation result new s
  | committedAtOnce (starting : s.transaction.state = .starting) :
    Effect s .commit (.ok .done) [] (s.markAs .committed)
  | committed {new : List Transmission}
    (used : s.transaction.state = .inProgress ∨ s.transaction.state = .committed)
    (ne_nil : new ≠ [])
    (each : ∀ t ∈ new, t.Of (.of "admin" (endBody "commitTransaction" (some s))) (some s)) :
    Effect s .commit (.ok .done) new (s.markAs .committed)
  /-- Until a commit succeeds nothing changes. -/
  | uncommitted {e : Error} {new : List Transmission}
    (used : s.transaction.state = .inProgress ∨ s.transaction.state = .committed)
    (each : ∀ t ∈ new, t.Of (.of "admin" (endBody "commitTransaction" (some s))) (some s)) :
    Effect s .commit (.error e) new s
  | abortedAtOnce (starting : s.transaction.state = .starting) :
    Effect s .abort (.ok .done) [] (s.markAs .aborted)
  /-- Whatever the servers answer, and whether or not they can be reached. -/
  | aborted {result : Except Error Outcome} {new : List Transmission}
    (used : s.transaction.state = .inProgress)
    (each : ∀ t ∈ new, t.Of (.of "admin" (endBody "abortTransaction" (some s))) (some s)) :
    Effect s .abort result new (s.markAs .aborted)

/-- The session that an operation leaves is not ended by it. -/
theorem Effect.isEnded_eq {s s' : Session} {operation : Operation} {result : Except Error Outcome}
    {new : List Transmission} (h : Effect s operation result new s') : s'.isEnded = s.isEnded := by
  cases h with
  | inserted made =>
    -- Taking a number neither ends a session nor opens one.
    cases made with
    | numbered => exact s.isEnded_advanced
    | joined | plain => rfl
  | refused | other | committedAtOnce | committed | uncommitted | abortedAtOnce | aborted => rfl

theorem Effect.holders_eq {s s' : Session} {operation : Operation} {result : Except Error Outcome}
    {new : List Transmission} (h : Effect s operation result new s') : s'.holders = s.holders := by
  cases h with
  | inserted made => cases made <;> rfl
  | refused | other | committedAtOnce | committed | uncommitted | abortedAtOnce | aborted => rfl

theorem Effect.kept {s s' : Session} {operation : Operation} {result : Except Error Outcome}
    {new : List Transmission} (h : Effect s operation result new s') (hk : s.Kept) : s'.Kept := by
  intro he
  rw [h.holders_eq]
  exact hk (h.isEnded_eq ▸ he)

/-- What is done to an error afterwards is no effect. -/
theorem Effect.mapError {s s' : Session} {operation : Operation} {e : Error}
    {new : List Transmission} (h : Effect s operation (.error e) new s') (e' : Error) :
    Effect s operation (.error e') new s' := by
  cases h with
  | refused h h' => exact .refused h h'
  | inserted made ne_nil each => exact .inserted made ne_nil each
  | other h => exact .other h
  | uncommitted used each => exact .uncommitted used each
  | aborted used each => exact .aborted used each

/-! ## §4. Operations on a binding. -/

/-- From the run in which its session looks like `s`, with `k` holders more, an operation goes as it
    can, and what it sends is added to what was sent. -/
def Takes (x : SessionContext) (k : Nat) (s : Session) (operation : Operation) (r : Run)
    (result : Except Error Outcome) (r' : Run) : Prop :=
  ∃ new s', Effect s operation result new s' ∧ r'.sent = r.sent ++ new ∧
    Shows x r'.client k (some s')

section Execution

variable {b : Binding} {x : SessionContext} {r : Run} {k : Nat} {s : Session}

theorem Session.Kept.allKept (h : s.Kept) : AllKept (some s) := by
  intro s' hs'
  cases hs'
  exact h

theorem Insert.Makes.kept {i : Insert} {o o' : Option Session} {command : Command}
    (h : i.Makes o command o') (ho : AllKept o) : AllKept o' := by
  cases h with
  | @joined s active => exact Session.Kept.allKept fun he => ho s rfl he
  | @numbered s idle open_ => exact Session.Kept.allKept fun _ => ho s rfl open_
  | plain idle => exact ho

theorem Insert.Makes.exists_eq {i : Insert} {o : Option Session} {command : Command}
    (h : i.Makes (some s) command o) : ∃ s', o = some s' := by
  cases h <;> exact ⟨_, rfl⟩

theorem insert_takes (i : Insert) (hk : s.Kept) (h : Shows b.context r.client k (some s)) :
    Takes b.context k s (.insert i) r (((Operation.insert i).execute b).on r).1
      (((Operation.insert i).execute b).on r).2 := by
  have hsend := performRetryable_sending (i.request_makes b.context (some s)) hk.allKept
    (fun _ _ made => made.kept hk.allKept) h
  unfold Operation.execute
  rw [Exec.on_bind_pure]
  generalize (performRetryable b (i.request b.context)).on r = went at hsend ⊢
  obtain ⟨result, r'⟩ := went
  cases hsend with
  | unsent sent shows => exact ⟨[], s, .refused nofun nofun, by simpa using sent, shows⟩
  | sent made shows sent ne_nil each =>
    obtain ⟨s', rfl⟩ := made.exists_eq
    exact ⟨_, s', .inserted made ne_nil each, sent, shows⟩

/-- An operation whose command leaves the session alone. -/
theorem Sending.takes_other {α : Type} {P : Command → Option Session → Prop} {r' : Run}
    {result : Except Error α} {operation : Operation} (outcome : Except Error Outcome)
    (hP : ∀ command o, P command o → o = some s) (other : operation.isNumbered = false)
    (h : Sending x k (some s) P r result r') : Takes x k s operation r outcome r' := by
  cases h with
  | unsent sent shows => exact ⟨[], s, .other other, by simpa using sent, shows⟩
  | @sent command o' _ _ new made shows sent _ _ =>
    rw [hP command o' made] at shows
    exact ⟨new, s, .other other, sent, shows⟩

/-- What ends a transaction is made of the session that it finds and leaves it alone. -/
theorem endRequest_sending (name : String) {o : Option Session} (ho : AllKept o)
    (h : Shows b.context r.client k o) :
    Sending b.context k o (fun command o' => o' = o ∧ command = .of "admin" (endBody name o)) r
      ((performRetryable b (endRequest name b.context)).on r).1
      ((performRetryable b (endRequest name b.context)).on r).2 :=
  performRetryable_sending (endRequest_makes name b.context o) ho (fun _ _ made => made.1 ▸ ho) h

/-- A change of the transaction's state, seen in the session. -/
theorem Shows.markAs {c : Client} (h : Shows x c k (some s)) (state : TransactionState) :
    Shows x (x.modify (Session.markAs state) c) k (some (s.markAs state)) :=
  h.modify (g := Session.markAs state) fun _ => rfl

section EndOfTransaction

theorem commitTransaction_unbound (hs : b.context.session? r.client = none) :
    (commitTransaction b).on r = (.error (Error.of (.transaction .noSessionToCommit)), r) := by
  unfold commitTransaction
  simp only [Exec.on_bind, Exec.on_lift, on_currentClient, hs]
  rfl

theorem abortTransaction_unbound (hs : b.context.session? r.client = none) :
    (abortTransaction b).on r = (.error (Error.of (.transaction .noSessionToAbort)), r) := by
  unfold abortTransaction
  simp only [Exec.on_bind, Exec.on_lift, on_currentClient, hs]
  rfl

variable {s₀ : Session} (hs : b.context.session? r.client = some s₀)

include hs

theorem commitTransaction_starting (h : s₀.transaction.state = .starting) :
    (commitTransaction b).on r =
      (.ok .done, { r with client := b.context.modify (Session.markAs .committed) r.client }) := by
  unfold commitTransaction
  simp only [Exec.on_bind, Exec.on_lift, on_currentClient, hs, h]
  rfl

theorem commitTransaction_over
    (h : s₀.transaction.state = .none ∨ s₀.transaction.state = .aborted) :
    (commitTransaction b).on r = (.error (Error.of (.transaction .notStarted)), r) := by
  unfold commitTransaction
  simp only [Exec.on_bind, Exec.on_lift, on_currentClient, hs]
  obtain h | h := h <;> rw [h] <;> rfl

/-- A commit that is sent is remembered when it succeeds. -/
theorem commitTransaction_used
    (h : s₀.transaction.state = .inProgress ∨ s₀.transaction.state = .committed) :
    (commitTransaction b).on r =
      match (performRetryable b (endRequest "commitTransaction" b.context)).on r with
      | (.error e, r') => (.error e, r')
      | (.ok _, r') =>
        (.ok .done,
          { r' with client := b.context.modify (Session.markAs .committed) r'.client }) := by
  unfold commitTransaction
  simp only [Exec.on_bind, Exec.on_lift, on_currentClient, hs]
  obtain h | h := h <;> rw [h] <;> rw [Exec.on_bind] <;>
    rcases (performRetryable b _).on r with ⟨_ | _, _⟩ <;> rfl

theorem sends_commitTransaction_used
    (h : s₀.transaction.state = .inProgress ∨ s₀.transaction.state = .committed) :
    (commitTransaction b).sends r =
      (performRetryable b (endRequest "commitTransaction" b.context)).sends r := by
  unfold Exec.sends
  rw [commitTransaction_used hs h]
  rcases (performRetryable b _).on r with ⟨_ | _, _⟩ <;> rfl

theorem abortTransaction_starting (h : s₀.transaction.state = .starting) :
    (abortTransaction b).on r =
      (.ok .done, { r with client := b.context.modify (Session.markAs .aborted) r.client }) := by
  unfold abortTransaction
  simp only [Exec.on_bind, Exec.on_lift, on_currentClient, hs, h]
  rfl

theorem abortTransaction_over (h : s₀.inTransaction = false) :
    ∃ misuse, (abortTransaction b).on r = (.error (Error.of (.transaction misuse)), r) := by
  unfold abortTransaction
  simp only [Exec.on_bind, Exec.on_lift, on_currentClient, hs]
  unfold Session.inTransaction Transaction.isActive at h
  cases hstate : s₀.transaction.state with
  | none | committed | aborted => exact ⟨_, rfl⟩
  | starting | inProgress =>
    rw [hstate] at h
    cases h

/-- An abort that is sent is remembered whatever comes of it. -/
theorem abortTransaction_inProgress (h : s₀.transaction.state = .inProgress) :
    (abortTransaction b).on r =
      let went := (performRetryable b (endRequest "abortTransaction" b.context)).on r
      (went.1.map fun _ => .done,
        { went.2 with client := b.context.modify (Session.markAs .aborted) went.2.client }) := by
  unfold abortTransaction
  simp only [Exec.on_bind, Exec.on_lift, on_currentClient, hs, h, on_ensuring]
  rcases (performRetryable b _).on r with ⟨_ | _, _⟩ <;> rfl

end EndOfTransaction

/-- A commit in a session in which something was sent, or that has committed before. -/
theorem commit_takes_used (hk : s.Kept) (h : Shows b.context r.client k (some s))
    (used : s.transaction.state = .inProgress ∨ s.transaction.state = .committed) :
    Takes b.context k s .commit r ((commitTransaction b).on r).1
      ((commitTransaction b).on r).2 := by
  obtain ⟨s₀, hs, hlike⟩ := h.exists_like
  rw [commitTransaction_used hs (by rwa [hlike.transaction])]
  have hsend := endRequest_sending "commitTransaction" hk.allKept h
  generalize (performRetryable b (endRequest "commitTransaction" b.context)).on r = went at hsend ⊢
  obtain ⟨result, r'⟩ := went
  cases hsend with
  | unsent sent shows =>
    -- A commit that reaches no server is as good as refused.
    refine ⟨[], s, .refused nofun fun _ => ?_, by simpa using sent, shows⟩
    obtain used | used := used <;> rw [used] <;> nofun
  | sent made shows sent ne_nil each =>
    obtain ⟨rfl, rfl⟩ := made
    -- The session is told of success only.
    cases result with
    | error e => exact ⟨_, s, .uncommitted used each, sent, shows⟩
    | ok d => exact ⟨_, _, .committed used ne_nil each, sent, shows.markAs .committed⟩

theorem commit_takes (hk : s.Kept) (h : Shows b.context r.client k (some s)) :
    Takes b.context k s .commit r ((commitTransaction b).on r).1
      ((commitTransaction b).on r).2 := by
  obtain ⟨s₀, hs, hlike⟩ := h.exists_like
  have hstate : s₀.transaction.state = s.transaction.state := by rw [hlike.transaction]
  cases hs' : s.transaction.state with
  | none | aborted =>
    rw [commitTransaction_over hs (by simp [hstate, hs'])]
    refine ⟨[], s, .refused nofun fun _ => ?_, by simp, h⟩
    rw [hs']
    nofun
  | starting =>
    rw [commitTransaction_starting hs (hstate.trans hs')]
    exact ⟨[], _, .committedAtOnce hs', by simp, h.markAs .committed⟩
  | inProgress => exact commit_takes_used hk h (.inl hs')
  | committed => exact commit_takes_used hk h (.inr hs')

theorem abort_takes (hk : s.Kept) (h : Shows b.context r.client k (some s)) :
    Takes b.context k s .abort r ((abortTransaction b).on r).1
      ((abortTransaction b).on r).2 := by
  obtain ⟨s₀, hs, hlike⟩ := h.exists_like
  have hstate : s₀.transaction.state = s.transaction.state := by rw [hlike.transaction]
  cases hidle : s.inTransaction with
  | false =>
    obtain ⟨misuse, hon⟩ := abortTransaction_over hs (hlike.inTransaction.trans hidle)
    rw [hon]
    exact ⟨[], s, .refused (fun _ => hidle) nofun, by simp, h⟩
  | true =>
    unfold Session.inTransaction Transaction.isActive at hidle
    cases hs' : s.transaction.state with
    | none | committed | aborted =>
      rw [hs'] at hidle
      cases hidle
    | starting =>
      rw [abortTransaction_starting hs (hstate.trans hs')]
      exact ⟨[], _, .abortedAtOnce hs', by simp, h.markAs .aborted⟩
    | inProgress =>
      have hsend := endRequest_sending "abortTransaction" hk.allKept h
      rw [abortTransaction_inProgress hs (hstate.trans hs')]
      generalize (performRetryable b (endRequest "abortTransaction" b.context)).on r = went
        at hsend ⊢
      obtain ⟨result, r'⟩ := went
      -- The session is told whatever came of it, even if nothing was sent.
      cases hsend with
      | unsent sent shows =>
        exact ⟨[], _, .aborted hs' (by simp), by simpa using sent, shows.markAs .aborted⟩
      | sent made shows sent ne_nil each =>
        obtain ⟨rfl, rfl⟩ := made
        exact ⟨_, _, .aborted hs' each, sent, shows.markAs .aborted⟩

theorem acknowledged_takes {operation : Operation} (outcome : Except Error Outcome)
    (other : operation.isNumbered = false) (database : String) (body : Document) (hk : s.Kept)
    (h : Shows b.context r.client k (some s)) :
    Takes b.context k s operation r outcome ((acknowledged b database body).on r).2 := by
  have hsend := performWrite_sending database body (fun reply _ => Document.checkWriteConcern reply)
    hk.allKept h
  unfold acknowledged
  rw [Exec.on_bind_pure]
  exact hsend.takes_other outcome (fun _ _ hp => hp.1) other

theorem execute_takes (operation : Operation) (hk : s.Kept)
    (h : Shows b.context r.client k (some s)) :
    Takes b.context k s operation r ((operation.execute b).on r).1
      ((operation.execute b).on r).2 := by
  cases operation with
  | insert i => exact insert_takes i hk h
  | commit => exact commit_takes hk h
  | abort => exact abort_takes hk h
  | dropUser database user => exact acknowledged_takes _ rfl _ _ hk h
  | dropCollection database collection =>
    exact acknowledged_takes _ rfl database [("drop", .text collection)] hk h
  | runCommand c =>
    have hsend := performRead_sending c.database c.body (fun reply _ => .ok reply) hk.allKept h
    unfold Operation.execute
    rw [Exec.on_bind_pure]
    exact hsend.takes_other _ (fun _ _ hp => hp.1) rfl

/-! ## §5. Operations through the executor. -/

theorem executeLabelled_on (operation : Operation) (b : Binding) (r : Run) :
    (executeLabelled operation b).on r =
      match (operation.execute b).on r with
      | (.ok outcome, r') => (.ok outcome, r')
      | (.error e, r') => (.error (labelTransient e b.context r'.client), r') := by
  unfold executeLabelled
  rw [Exec.on_bind, on_observe]
  rcases (operation.execute b).on r with ⟨e | outcome, r'⟩ <;> rfl

/-- Labelling an error changes nothing else. -/
theorem executeLabelled_run (operation : Operation) (b : Binding) (r : Run) :
    ((executeLabelled operation b).on r).2 = ((operation.execute b).on r).2 := by
  rw [executeLabelled_on]
  rcases (operation.execute b).on r with ⟨_ | _, _⟩ <;> rfl

theorem executeLabelled_takes (operation : Operation) (hk : s.Kept)
    (h : Shows b.context r.client k (some s)) :
    Takes b.context k s operation r ((executeLabelled operation b).on r).1
      ((executeLabelled operation b).on r).2 := by
  have hx := execute_takes operation hk h
  unfold executeLabelled
  simp only [Exec.on_bind, on_observe]
  generalize (operation.execute b).on r = went at hx ⊢
  obtain ⟨e | outcome, r'⟩ := went
  · obtain ⟨new, s', heffect, hsent, hshows⟩ := hx
    exact ⟨new, s', heffect.mapError _, hsent, hshows⟩
  · exact hx

/-- The binding that the executor makes for a caller's session. -/
def callersBinding (preference : ReadPreference) (id : SessionId) (c : Client) : Binding :=
  ⟨preference, ⟨some id, c.options.effectiveRetryWrites⟩, false⟩

/-- Work with a binding of a caller's session stands between holding it and letting go of it. -/
theorem withBinding_on {α : Type} (preference : ReadPreference) (id : SessionId)
    (work : Binding → Exec α) (r : Run) :
    (withBinding preference (some id) work).on r =
      let went := (work (callersBinding preference id r.client)).on
        { r with client := r.client.holdSession id }
      (went.1, { went.2 with client := went.2.client.dropSession id }) :=
  rfl

theorem withBinding_takes {operation : Operation} {preference : ReadPreference} {id : SessionId}
    (hk : s.Kept) (h : Shows ⟨some id, false⟩ r.client k (some s)) :
    Takes ⟨some id, false⟩ k s operation r
      ((withBinding preference (some id) (executeLabelled operation)).on r).1
      ((withBinding preference (some id) (executeLabelled operation)).on r).2 := by
  have hheld : Shows ⟨some id, false⟩ (r.client.holdSession id) (k + 1) (some s) := h.held
  have hx := executeLabelled_takes (b := callersBinding preference id r.client)
    (r := { r with client := r.client.holdSession id }) operation hk hheld
  rw [withBinding_on]
  generalize (executeLabelled operation _).on _ = went at hx ⊢
  obtain ⟨new, s', heffect, hsent, hshows⟩ := hx
  -- The binding's hold on the session is one more on the way and gone at the end.
  have hback : Shows ⟨some id, false⟩ went.2.client (k + 1) (some s') := hshows
  exact ⟨new, s', heffect, hsent, hback.letGo (heffect.kept hk).allKept⟩

/-- Only for reading the executor looks at the preference of the caller. -/
theorem perform_of_not_reads {operation : Operation} (hr : operation.reads = false)
    (preference : ReadPreference) (session : Option SessionId) :
    perform operation preference session =
      withBinding .primary session (executeLabelled operation) := by
  unfold perform
  exact if_neg (by simp [hr])

theorem perform_takes (operation : Operation) (preference : ReadPreference) {id : SessionId}
    (hk : s.Kept) (h : Shows ⟨some id, false⟩ r.client k (some s)) :
    Takes ⟨some id, false⟩ k s operation r
      ((perform operation preference (some id)).on r).1
      ((perform operation preference (some id)).on r).2 := by
  cases hr : operation.reads with
  | false =>
    rw [perform_of_not_reads hr]
    exact withBinding_takes hk h
  | true =>
    unfold perform
    simp only [hr]
    simp only [Exec.on_bind, Exec.on_lift, on_currentClient, if_true]
    -- In a transaction a preference for another server is refused before there is a binding.
    split
    · cases operation with
      | runCommand c => exact ⟨[], s, .other rfl, by simp, h⟩
      | insert | dropCollection | dropUser | commit | abort => cases hr
    · exact withBinding_takes hk h

end Execution

end ClusterClient