/-
  ClusterClient.Proofs.Retry — the protocol of a retryable request.

  A retryable request sends its command once, or twice, or not at all.  `RetryProtocol` says which
  of these and what is reported, for every run: whatever the servers answer, wherever connecting
  fails and whatever is described while the client waits.  It speaks of the runs in which the
  request selects, connects, makes its command and attempts to send it, and each clause holds
  whenever the run gets to where the clause begins; as these actions are functions of the run,
  exactly one of the ways through the clauses is taken.

  Main statement: `performRetryable_retryProtocol`.
-/
import ClusterClient.Proofs.Course

namespace ClusterClient

open Run

variable {α : Type}

/-! ## §1. What is sent. -/

/-- What an action sends in a run. -/
def Exec.sends (x : Exec α) (r : Run) : List Transmission := (x.on r).2.sent.drop r.sent.length

theorem Exec.sends_eq_of_sent {x : Exec α} {r : Run} {new : List Transmission}
    (h : (x.on r).2.sent = r.sent ++ new) : x.sends r = new := by
  unfold sends
  rw [h, List.drop_left]

/-- What comes of an action in a run, and what it sends. -/
structure Ends (x : Exec α) (r : Run) (result : Except Error α) (sent : List Transmission) :
    Prop where
  result : (x.on r).1 = result
  sent : (x.on r).2.sent = r.sent ++ sent

theorem Ends.sends_eq {x : Exec α} {r : Run} {result : Except Error α} {sent : List Transmission}
    (h : Ends x r result sent) : x.sends r = sent :=
  Exec.sends_eq_of_sent h.sent

/-- The command of an attempt in the session of a binding. -/
theorem sent_attempt {source : Source} {lease : Lease} {command : Command}
    {interpret : Interpretation α} {result : Except Error α} {r r' : Run}
    (h : (attempt source lease command interpret).on r = (result, r')) :
    r'.sent = r.sent ++ [transmission lease command source.context r.client] := by
  have hs := (send_on lease command source.context r).1
  rw [attempt_on] at h
  rw [← (Prod.mk.inj h).2, hs]

/-- The deployment recognises the command if it comes twice: it carries a number, or it ends a
    transaction. -/
def Command.Recognised (c : Command) : Prop :=
  (∃ v, ("txnNumber", v) ∈ c.body) ∨ c.name = "commitTransaction" ∨ c.name = "abortTransaction"

theorem Command.recognised_iff {c : Command} : c.Recognised ↔ c.isRetryable = true := by
  have hnumber : c.hasTxnNumber = true ↔ ∃ v, ("txnNumber", v) ∈ c.body := by
    unfold hasTxnNumber Document.has
    simp
  unfold Recognised isRetryable
  rw [Bool.or_eq_true, Bool.or_eq_true, hnumber, beq_iff_eq, beq_iff_eq, or_assoc]

/-! ## §2. The protocol. -/

section Protocol

variable (b : Binding) (request : Request α) (r : Run)

/-- All that a second attempt needs: the command would be recognised if it came twice, the failure
    allows it, a server is selected again and lends a connection, and both of them and the session
    support it. -/
structure SecondChance (command : Command) (e : Error) (source : Source) (lease : Lease)
    (r' : Run) : Prop where
  recognised : command.Recognised
  allowed : e.isRetryable = true
  reached : Reached b .write r source lease r'
  supported :
    canRetryWrite r'.client source.selected.description lease.description b.context = true

/-- What a request reports after its second attempt. -/
def settled (first : Error) : Except Error α → Except Error α
  | .ok a => .ok a
  | .error _ => .error first

/-- What a retryable request does in a run. -/
structure RetryProtocol : Prop where
  /-- At most two commands are sent. -/
  sends_le : ((performRetryable b request).sends r).length ≤ 2
  /-- Without a server nothing is sent. -/
  unselected : ∀ {e r₁}, (b.source .write).on r = (.error e, r₁) →
    Ends (performRetryable b request) r (.error e) []
  /-- Nor without a connection. -/
  unconnected : ∀ {source e r₁ r₂}, (b.source .write).on r = (.ok source, r₁) →
    source.connection.on r₁ = (.error e, r₂) → Ends (performRetryable b request) r (.error e) []
  /-- Nor without a command. -/
  unmade : ∀ {source lease e r₁ r₂}, Reached b .write r source lease r₁ →
    (request.create source.selected.description lease.description).on r₁ = (.error e, r₂) →
    Ends (performRetryable b request) r (.error e) []
  /-- A first success is final. -/
  succeeded : ∀ {source lease command a r₁ r₂}, Opened b request r source lease command r₁ →
    (attempt source lease command request.interpret).on r₁ = (.ok a, r₂) →
    Ends (performRetryable b request) r (.ok a) [transmission lease command b.context r₁.client]
  /-- After a first failure a second command is sent exactly if there is a second chance. -/
  twice_iff : ∀ {source lease command e r₁ r₂}, Opened b request r source lease command r₁ →
    (attempt source lease command request.interpret).on r₁ = (.error e, r₂) →
    (((performRetryable b request).sends r).length = 2 ↔
      ∃ source' lease' r',
        SecondChance b ((giveBack source lease).on r₂).2 command e source' lease' r')
  /-- Without a second chance the first failure is final. -/
  failed : ∀ {source lease command e r₁ r₂}, Opened b request r source lease command r₁ →
    (attempt source lease command request.interpret).on r₁ = (.error e, r₂) →
    (¬∃ source' lease' r',
      SecondChance b ((giveBack source lease).on r₂).2 command e source' lease' r') →
    Ends (performRetryable b request) r (.error e) [transmission lease command b.context r₁.client]
  /-- With one the command is sent again, the same; a success is reported, and otherwise the first
      failure. -/
  resent : ∀ {source lease command e r₁ r₂ source' lease' r'},
    Opened b request r source lease command r₁ →
    (attempt source lease command request.interpret).on r₁ = (.error e, r₂) →
    SecondChance b ((giveBack source lease).on r₂).2 command e source' lease' r' →
    Ends (performRetryable b request) r
      (settled e ((attempt source' lease' command request.interpret).on
        ((emit (.retrying command.name source'.selected.description.address e)).on r').2).1)
      [transmission lease command b.context r₁.client,
        transmission lease' command b.context r'.client]
  /-- The command is made once: another way to make it that agrees there makes no difference. -/
  once : ∀ {request' : Request α}, request'.interpret = request.interpret →
    (∀ source lease r₁, Reached b .write r source lease r₁ →
      (request'.create source.selected.description lease.description).on r₁ =
        (request.create source.selected.description lease.description).on r₁) →
    (performRetryable b request').on r = (performRetryable b request).on r

/-! ## §3. The ways through it. -/

variable {b request r}
variable {source source' : Source} {lease lease' : Lease} {command : Command} {e : Error}
variable {r₁ r₂ r' : Run}

/-- What the client asks before it selects a server again. -/
theorem SecondChance.mayRetry (h : SecondChance b r command e source lease r') :
    mayRetry command e = true :=
  Bool.and_eq_true_iff.mpr ⟨Command.recognised_iff.mp h.recognised, h.allowed⟩

theorem SecondChance.of_mayRetry (hm : ClusterClient.mayRetry command e = true)
    (hr : Reached b .write r source lease r')
    (hc : canRetryWrite r'.client source.selected.description lease.description b.context = true) :
    SecondChance b r command e source lease r' := by
  obtain ⟨hrecognised, hallowed⟩ := Bool.and_eq_true_iff.mp hm
  exact ⟨Command.recognised_iff.mpr hrecognised, hallowed, hr, hc⟩

/-- Until the command is made nothing is sent. -/
theorem Opened.sent_eq (h : Opened b request r source lease command r₁) : r₁.sent = r.sent := by
  obtain ⟨r₀, hr, hc⟩ := h.made
  have hmade : r₁.sent = r₀.sent := by
    have := request.create_silent source.selected.description lease.description r₀
    rwa [hc] at this
  rw [hmade]
  exact hr.sent_eq

theorem Opened.context (h : Opened b request r source lease command r₁) :
    source.context = b.context := by
  obtain ⟨r₀, hr, -⟩ := h.made
  exact hr.context

/-- A first attempt is one transmission, and giving back what it leased is none. -/
theorem Opened.sent_attempt {result : Except Error α}
    (h : Opened b request r source lease command r₁)
    (ha : (attempt source lease command request.interpret).on r₁ = (result, r₂)) :
    ((giveBack source lease).on r₂).2.sent =
      r.sent ++ [transmission lease command b.context r₁.client] := by
  rw [sent_giveBack, ClusterClient.sent_attempt ha, h.sent_eq, h.context]

theorem ends_unreached (h : (reach b .write).on r = (.error e, r')) :
    Ends (performRetryable b request) r (.error e) [] := by
  have hsent := sent_of_unreached h
  have hon : (performRetryable b request).on r = (.error e, r') := performRetryable_of_unreached h
  exact ⟨by rw [hon], by rw [hon, hsent, List.append_nil]⟩

theorem ends_unmade (h : Reached b .write r source lease r₁)
    (hc : (request.create source.selected.description lease.description).on r₁ = (.error e, r₂)) :
    Ends (performRetryable b request) r (.error e) [] := by
  have hsent : ((giveBack source lease).on r₂).2.sent = r.sent := by
    have hmade := request.create_silent source.selected.description lease.description r₁
    rw [hc] at hmade
    rw [sent_giveBack, hmade]
    exact h.sent_eq
  have hon := performRetryable_of_unmade h hc
  exact ⟨by rw [hon], by rw [hon, hsent, List.append_nil]⟩

theorem ends_succeeded {a : α} (h : Opened b request r source lease command r₁)
    (ha : (attempt source lease command request.interpret).on r₁ = (.ok a, r₂)) :
    Ends (performRetryable b request) r (.ok a)
      [transmission lease command b.context r₁.client] := by
  have hon := performRetryable_of_succeeded h ha
  exact ⟨by rw [hon], by rw [hon, h.sent_attempt ha]⟩

/-- Without a second chance the second attempt sends nothing and reports the first failure. -/
theorem secondAttempt_of_noChance {interpret : Interpretation α} (hm : mayRetry command e = true)
    (hn : ¬∃ source' lease' r', SecondChance b r command e source' lease' r') :
    ((secondAttempt b command e interpret).on r).1 = .error e ∧
      ((secondAttempt b command e interpret).on r).2.sent = r.sent := by
  rcases hr : (reach b .write).on r with ⟨e' | ⟨source', lease'⟩, r'⟩
  · have hsent : r'.sent = r.sent := sent_of_unreached hr
    rw [secondAttempt_of_unreached hr]
    exact ⟨rfl, hsent⟩
  · replace hr := (reach_ok_iff ..).mp hr
    -- Everything else is there, so what is missing is the support.
    have hc : canRetryWrite r'.client source'.selected.description lease'.description b.context
        = false :=
      Bool.eq_false_iff.mpr fun hc => hn ⟨source', lease', r', .of_mayRetry hm hr hc⟩
    rw [secondAttempt_of_reached hr, resend_of_unable hc]
    refine ⟨rfl, ?_⟩
    rw [sent_giveBack]
    exact hr.sent_eq

/-- With a second chance it sends the command and reports its success or the first failure. -/
theorem secondAttempt_of_chance {interpret : Interpretation α}
    (h : SecondChance b r command e source lease r') :
    ((secondAttempt b command e interpret).on r).1 =
        settled e ((attempt source lease command interpret).on
          ((emit (.retrying command.name source.selected.description.address e)).on r').2).1 ∧
      ((secondAttempt b command e interpret).on r).2.sent =
        r.sent ++ [transmission lease command b.context r'.client] := by
  rw [secondAttempt_of_reached h.reached, resend_of_able h.supported]
  rcases ha : (attempt source lease command interpret).on
    ((emit (.retrying command.name source.selected.description.address e)).on r').2
    with ⟨result, r₃⟩
  -- The event before the command is told changes neither the client nor what was sent.
  have hsent : r₃.sent = r.sent ++ [transmission lease command b.context r'.client] := by
    rw [sent_attempt ha, on_emit, h.reached.sent_eq, h.reached.context]
  cases result with
  | ok a => exact ⟨rfl, (sent_giveBack source lease r₃).trans hsent⟩
  | error e' => exact ⟨rfl, (sent_giveBack source lease _).trans hsent⟩

theorem ends_failed (h : Opened b request r source lease command r₁)
    (ha : (attempt source lease command request.interpret).on r₁ = (.error e, r₂))
    (hn : ¬∃ source' lease' r',
      SecondChance b ((giveBack source lease).on r₂).2 command e source' lease' r') :
    Ends (performRetryable b request) r (.error e)
      [transmission lease command b.context r₁.client] := by
  have hsent := h.sent_attempt ha
  have hon := performRetryable_of_failed ⟨source, lease, r₁, r₂, h, ha, rfl⟩
  cases hm : mayRetry command e with
  | false =>
    rw [hm, if_neg Bool.false_ne_true] at hon
    exact ⟨by rw [hon], by rw [hon, hsent]⟩
  | true =>
    rw [hm, if_pos rfl] at hon
    obtain ⟨hresult, hagain⟩ := secondAttempt_of_noChance hm hn
    exact ⟨by rw [hon, hresult], by rw [hon, hagain, hsent]⟩

theorem ends_resent (h : Opened b request r source lease command r₁)
    (ha : (attempt source lease command request.interpret).on r₁ = (.error e, r₂))
    (hs : SecondChance b ((giveBack source lease).on r₂).2 command e source' lease' r') :
    Ends (performRetryable b request) r
      (settled e ((attempt source' lease' command request.interpret).on
        ((emit (.retrying command.name source'.selected.description.address e)).on r').2).1)
      [transmission lease command b.context r₁.client,
        transmission lease' command b.context r'.client] := by
  have hsent := h.sent_attempt ha
  have hon := performRetryable_of_failed ⟨source, lease, r₁, r₂, h, ha, rfl⟩
  rw [hs.mayRetry, if_pos rfl] at hon
  obtain ⟨hresult, hagain⟩ := secondAttempt_of_chance hs
  refine ⟨by rw [hon, hresult], ?_⟩
  rw [hon, hagain, hsent, List.append_assoc]
  rfl

/-- Two ways to make the command that agree where it is made. -/
theorem performRetryable_congr {request' : Request α} (hi : request'.interpret = request.interpret)
    (hc : ∀ source lease r₁, Reached b .write r source lease r₁ →
      (request'.create source.selected.description lease.description).on r₁ =
        (request.create source.selected.description lease.description).on r₁) :
    (performRetryable b request').on r = (performRetryable b request).on r := by
  -- The second attempt is given the command, so only the first one makes it.
  have hfirst : (firstAttempt b request').on r = (firstAttempt b request).on r := by
    unfold firstAttempt
    rw [within_on, within_on]
    rcases hr : (reach b .write).on r with ⟨e | ⟨source, lease⟩, r₁⟩
    · rfl
    · simp only [Exec.on_bind, hc source lease r₁ ((reach_ok_iff ..).mp hr), hi]
  unfold performRetryable
  rw [Exec.on_bind, Exec.on_bind, hfirst, hi]

variable (b request r) in
/-- Nothing is sent before the command is made, and then it is sent once or twice. -/
theorem sends_performRetryable_cases :
    ((∀ source lease command r₁, ¬Opened b request r source lease command r₁) ∧
      (performRetryable b request).sends r = []) ∨
    ∃ source lease command r₁, Opened b request r source lease command r₁ ∧
      ((performRetryable b request).sends r = [transmission lease command b.context r₁.client] ∨
        ∃ (lease' : Lease) (r' : Run), (performRetryable b request).sends r =
          [transmission lease command b.context r₁.client,
            transmission lease' command b.context r'.client]) := by
  rcases hr : (reach b .write).on r with ⟨e | ⟨source, lease⟩, r₁⟩
  -- Reaching a connection and making the command are functions of the run: where they fail,
  -- no other way through them succeeds.
  · refine .inl ⟨fun source lease command r₁ ho => ?_, (ends_unreached hr).sends_eq⟩
    obtain ⟨r₀, hr', -⟩ := ho.made
    rw [(reach_ok_iff ..).mpr hr'] at hr
    cases hr
  rcases hc : (request.create source.selected.description lease.description).on r₁
    with ⟨e | command, r₂⟩
  · have hends := ends_unmade ((reach_ok_iff ..).mp hr) hc
    refine .inl ⟨fun source lease command r₁ ho => ?_, hends.sends_eq⟩
    obtain ⟨r₀, hr', hc'⟩ := ho.made
    rw [(reach_ok_iff ..).mpr hr'] at hr
    cases hr
    rw [hc] at hc'
    cases hc'
  have ho : Opened b request r source lease command r₂ := ⟨r₁, (reach_ok_iff ..).mp hr, hc⟩
  refine .inr ⟨source, lease, command, r₂, ho, ?_⟩
  rcases ha : (attempt source lease command request.interpret).on r₂ with ⟨e | a, r₃⟩
  · by_cases hs : ∃ source' lease' r',
      SecondChance b ((giveBack source lease).on r₃).2 command e source' lease' r'
    · obtain ⟨source', lease', r', hs⟩ := hs
      exact .inr ⟨lease', r', (ends_resent ho ha hs).sends_eq⟩
    · exact .inl (ends_failed ho ha hs).sends_eq
  · exact .inl (ends_succeeded ho ha).sends_eq

/-- No way through the protocol sends more than two commands. -/
theorem sends_performRetryable_le : ((performRetryable b request).sends r).length ≤ 2 := by
  obtain ⟨-, hs⟩ | ⟨_, _, _, _, -, hs | ⟨_, _, hs⟩⟩ :=
    sends_performRetryable_cases b request r <;> rw [hs]
  · exact Nat.zero_le 2
  · exact Nat.le_succ 1
  · exact Nat.le_refl 2

/-- After a first failure the count of what was sent tells whether there was a second chance. -/
theorem sends_performRetryable_eq_two_iff (h : Opened b request r source lease command r₁)
    (ha : (attempt source lease command request.interpret).on r₁ = (.error e, r₂)) :
    ((performRetryable b request).sends r).length = 2 ↔
      ∃ source' lease' r',
        SecondChance b ((giveBack source lease).on r₂).2 command e source' lease' r' := by
  constructor
  · intro htwo
    refine Classical.byContradiction fun hn => ?_
    rw [(ends_failed h ha hn).sends_eq] at htwo
    cases htwo
  · rintro ⟨source', lease', r', hs⟩
    rw [(ends_resent h ha hs).sends_eq]
    rfl

/-- A request that always makes a command sends it whenever a connection is reached. -/
theorem sends_performRetryable_ne_nil_iff
    (makes : ∀ server connection r, ∃ command r',
      (request.create server connection).on r = (.ok command, r')) :
    (performRetryable b request).sends r ≠ [] ↔
      ∃ source lease r', Reached b .write r source lease r' := by
  obtain ⟨hnone, hs⟩ | ⟨source, lease, command, r₁, ho, hs⟩ :=
    sends_performRetryable_cases b request r
  · refine ⟨fun h => absurd hs h, fun ⟨source, lease, r', hr⟩ => ?_⟩
    obtain ⟨command, r₁, hc⟩ := makes source.selected.description lease.description r'
    exact absurd ⟨r', hr, hc⟩ (hnone source lease command r₁)
  · obtain ⟨r₀, hr, -⟩ := ho.made
    refine ⟨fun _ => ⟨source, lease, r₀, hr⟩, fun _ => ?_⟩
    obtain hs | ⟨_, _, hs⟩ := hs <;> rw [hs] <;> exact List.cons_ne_nil _ _

variable (b request r)

/-- Every retryable request follows the protocol, in every run. -/
theorem performRetryable_retryProtocol : RetryProtocol b request r where
  sends_le := sends_performRetryable_le
  unselected h := ends_unreached ((reach_error_iff ..).mpr (.inl h))
  unconnected h hc := ends_unreached ((reach_error_iff ..).mpr (.inr ⟨_, _, _, h, hc, rfl⟩))
  unmade := ends_unmade
  succeeded := ends_succeeded
  twice_iff := sends_performRetryable_eq_two_iff
  failed := ends_failed
  resent := ends_resent
  once := performRetryable_congr

end Protocol

namespace Lone

def address : Address := ⟨"a", none⟩

def options : Options := ⟨[address], some 0, none, none, none, none⟩

/-- A client that knows only the address. -/
def client : Client :=
  ⟨options, 0, ⟨.unknown, [.placeholder address], 15000⟩, 0, [(address, 0)],
    [Client.newMember options address], [], 0, []⟩

/-- The primary there, which answers everything with success. -/
def primary : ServerDescription :=
  ⟨address, .primary, true, .connected, [], [], none, none, none, 17, some 1000, some 1800000, []⟩

/-- An insert of one document. -/
def single : Insert := ⟨"db", "coll", [[]], true, by simp⟩

/-- The run in which a caller has started a session. -/
def opened : Run := (startSession.on ((describe primary).on (begin client)).2).2

/-- A binding of the caller's session. -/
def bound : Binding := ⟨.primary, ⟨some 0, true⟩, false⟩

/-- The run in which the next command fails on the network. -/
def losing (r : Run) : Run := { r with deployment := { r.deployment with
  replies := [(address, [⟨.error (Error.of (.network .brokenPipe none)), [], []⟩])] } }

end Lone

/-- An insert outside of a transaction whose command is lost: it has a second chance, and the same
    command is sent again. -/
theorem retryProtocol_losing :
    RetryProtocol Lone.bound (Lone.single.request Lone.bound.context) (Lone.losing Lone.opened) ∧
    ((performRetryable Lone.bound (Lone.single.request Lone.bound.context)).sends
      (Lone.losing Lone.opened)).length = 2 ∧
    ∃ source lease command e r₁ r₂ source' lease' r',
      Opened Lone.bound (Lone.single.request Lone.bound.context) (Lone.losing Lone.opened)
        source lease command r₁ ∧
      (attempt source lease command (Lone.single.request Lone.bound.context).interpret).on r₁ =
        (.error e, r₂) ∧
      SecondChance Lone.bound ((giveBack source lease).on r₂).2 command e source' lease' r' := by
  have hprotocol := performRetryable_retryProtocol Lone.bound
    (Lone.single.request Lone.bound.context) (Lone.losing Lone.opened)
  have htwo : ((performRetryable Lone.bound (Lone.single.request Lone.bound.context)).sends
      (Lone.losing Lone.opened)).length = 2 := by decide +kernel
  refine ⟨hprotocol, htwo, ?_⟩
  obtain ⟨-, hs⟩ | ⟨source, lease, command, r₁, hopened, -⟩ := sends_performRetryable_cases
    Lone.bound (Lone.single.request Lone.bound.context) (Lone.losing Lone.opened)
  · rw [hs] at htwo
    cases htwo
  rcases ha : (attempt source lease command
    (Lone.single.request Lone.bound.context).interpret).on r₁ with ⟨e | a, r₂⟩
  · obtain ⟨source', lease', r', chance⟩ := (hprotocol.twice_iff hopened ha).mp htwo
    exact ⟨source, lease, command, e, r₁, r₂, source', lease', r', hopened, ha, chance⟩
  · rw [(hprotocol.succeeded hopened ha).sends_eq] at htwo
    cases htwo

end ClusterClient
