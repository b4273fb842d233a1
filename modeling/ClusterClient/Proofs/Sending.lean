/-
  ClusterClient.Proofs.Sending — an operation in its session, from beginning to end.

  Seen from the session, an operation with one command goes in one of two ways: nothing was sent
  and the session is as it was, or the command was made, which may have changed the session, and
  all that was sent is this command, in the session as making it has left it.  `Sending` says
  this; `performRetryable_sending` proves it for two attempts from what making the command does,
  and `within_sending` for one.
-/
import ClusterClient.Proofs.Following
import ClusterClient.Proofs.Retry

namespace ClusterClient

open Run

variable {α : Type}

/-! ## §1. What is sent in a session. -/

/-- The transmission is of the command, in the session. -/
structure Transmission.Of (t : Transmission) (command : Command) (o : Option Session) : Prop where
  command : ∃ kind, t.command = command.prepare (o.bind (·.id?)) kind
  session : ∃ k, t.session.map Session.still = o.map (Session.heldBy k)

theorem Shows.id? {x : SessionContext} {c : Client} {k : Nat} {o : Option Session}
    (h : Shows x c k o) : x.id? c = o.bind (·.id?) := by
  unfold SessionContext.id?
  obtain ⟨hs, rfl⟩ | ⟨s₀, s, hs, rfl, hlike⟩ := h.cases
  · rw [hs]
  · rw [hs]
    exact hlike.id?

theorem Shows.transmission_of {x : SessionContext} {c : Client} {k : Nat} {o : Option Session}
    (h : Shows x c k o) (lease : Lease) (command : Command) :
    (transmission lease command x c).Of command o where
  command := ⟨lease.description.kind, by rw [← h.id?]; rfl⟩
  session := ⟨k, h⟩

/-- How an operation goes whose session looks like `o` with `k` holders more, if making its command
    leaves a session that `P` tells. -/
inductive Sending (x : SessionContext) (k : Nat) (o : Option Session)
    (P : Command → Option Session → Prop) (r : Run) : Except Error α → Run → Prop where
  | unsent {e : Error} {r' : Run} (sent : r'.sent = r.sent) (shows : Shows x r'.client k o) :
    Sending x k o P r (.error e) r'
  | sent {command : Command} {o' : Option Session} {result : Except Error α} {r' : Run}
    {new : List Transmission} (made : P command o') (shows : Shows x r'.client k o')
    (sent : r'.sent = r.sent ++ new) (ne_nil : new ≠ [])
    (each : ∀ t ∈ new, t.Of command o') : Sending x k o P r result r'

namespace Sending

variable {x : SessionContext} {k : Nat} {o o' : Option Session} {r r' : Run}
variable {P : Command → Option Session → Prop} {command : Command} {result : Except Error α}
variable {t t' : Transmission}

/-- The command was sent. -/
theorem once (made : P command o') (shows : Shows x r'.client k o')
    (sent : r'.sent = r.sent ++ [t]) (ht : t.Of command o') : Sending x k o P r result r' :=
  .sent made shows sent (List.cons_ne_nil t []) (by simpa using ht)

/-- The command was sent, and sent again. -/
theorem again (made : P command o') (shows : Shows x r'.client k o')
    (sent : r'.sent = r.sent ++ [t, t']) (ht : t.Of command o') (ht' : t'.Of command o') :
    Sending x k o P r result r' :=
  .sent made shows sent (List.cons_ne_nil t [t']) (by simp [ht, ht'])

end Sending

/-! ## §2. Two attempts. -/

section TwoAttempts

variable {b : Binding} {request : Request α} {r r' r'' r₁ r₂ : Run}
variable {k : Nat} {o o' : Option Session}
variable {P : Command → Option Session → Prop}
variable {source : Source} {lease : Lease} {command : Command}

/-- In a session that looks like `o` the request makes a command and leaves a session that `P`
    tells. -/
def Request.Makes (request : Request α) (x : SessionContext) (o : Option Session)
    (P : Command → Option Session → Prop) : Prop :=
  ∀ server connection r k, Shows x r.client k o →
    ∃ command r' o', (request.create server connection).on r = (.ok command, r') ∧
      Shows x r'.client k o' ∧ P command o'

/-- An attempt is one transmission in the session as it is. -/
theorem attempt_sends {interpret : Interpretation α} {result : Except Error α}
    (hx : source.context = b.context) (h : Shows b.context r₁.client k o)
    (ha : (attempt source lease command interpret).on r₁ = (result, r₂)) :
    Shows b.context r₂.client k o ∧ ∃ t, r₂.sent = r₁.sent ++ [t] ∧ t.Of command o := by
  refine ⟨attempt_shows hx h ha, transmission lease command b.context r₁.client, ?_,
    h.transmission_of lease command⟩
  rw [← hx]
  exact sent_attempt ha

/-- What the first attempt leaves behind. -/
theorem Opened.attempt_sends {result : Except Error α} (hm : request.Makes b.context o P)
    (hP : ∀ command o', P command o' → AllKept o') (h : Shows b.context r.client k o)
    (hopen : Opened b request r source lease command r₁)
    (ha : (attempt source lease command request.interpret).on r₁ = (result, r₂)) :
    ∃ o', P command o' ∧ Shows b.context ((giveBack source lease).on r₂).2.client k o' ∧
      ∃ t, ((giveBack source lease).on r₂).2.sent = r.sent ++ [t] ∧ t.Of command o' := by
  obtain ⟨r₀, hr, hc⟩ := hopen.made
  obtain ⟨command', r₁', o', hc', h', hp⟩ := hm _ _ _ _ (reach_shows h hr)
  -- The command that was made is the one that the request makes.
  rw [hc] at hc'
  cases hc'
  obtain ⟨h₂, t, hsent, ht⟩ := ClusterClient.attempt_sends hopen.context h' ha
  refine ⟨o', hp, giveBack_shows hopen.context h₂ (hP _ _ hp), t, ?_, ht⟩
  rw [sent_giveBack, hsent, hopen.sent_eq]

theorem Failed.shows {e : Error} (hm : request.Makes b.context o P)
    (hP : ∀ command o', P command o' → AllKept o') (h : Shows b.context r.client k o)
    (hf : Failed b request r command e r') :
    ∃ o', P command o' ∧ Shows b.context r'.client k o' ∧
      ∃ t, r'.sent = r.sent ++ [t] ∧ t.Of command o' := by
  obtain ⟨source, lease, r₁, r₂, ho, ha, rfl⟩ := hf.gaveBack
  exact ho.attempt_sends hm hP h ha

/-- Wherever the request stops. -/
theorem Course.sending {result : Except Error α} (hcourse : Course b request r result r')
    (hm : request.Makes b.context o P) (ho : AllKept o)
    (hP : ∀ command o', P command o' → AllKept o') (h : Shows b.context r.client k o) :
    Sending b.context k o P r result r' := by
  cases hcourse with
  | unreached hr => exact .unsent (sent_of_unreached hr) (reach_error_shows h ho hr)
  | unmade hr hc =>
    -- A request that makes a command does not stop here.
    obtain ⟨_, _, _, hc', -⟩ := hm _ _ _ _ (reach_shows h hr)
    rw [hc] at hc'
    cases hc'
  | succeeded hopen ha =>
    obtain ⟨o', hp, h', t, hsent, ht⟩ := hopen.attempt_sends hm hP h ha
    exact .once hp h' hsent ht
  | final hf hmay =>
    obtain ⟨o', hp, h', t, hsent, ht⟩ := hf.shows hm hP h
    exact .once hp h' hsent ht
  | unreachedAgain hf hmay hr =>
    obtain ⟨o', hp, h', t, hsent, ht⟩ := hf.shows hm hP h
    have hback := reach_error_shows h' (hP _ _ hp) hr
    have hsilent := sent_of_unreached hr
    refine .once hp (emit_shows hback _) ?_ ht
    rw [sent_emit, hsilent, hsent]
  | abandoned hf hmay hr hc =>
    obtain ⟨o', hp, h', t, hsent, ht⟩ := hf.shows hm hP h
    have hback := emit_shows (reach_shows h' hr)
    refine .once hp (giveBack_shows hr.context (hback _) (hP _ _ hp)) ?_ ht
    rw [sent_giveBack, sent_emit, hr.sent_eq, hsent]
  | succeededAgain hf hmay hr hc ha =>
    obtain ⟨o', hp, h', t, hsent, ht⟩ := hf.shows hm hP h
    have hback := emit_shows (reach_shows h' hr)
    obtain ⟨h'', t', hsent', ht'⟩ := attempt_sends hr.context (hback _) ha
    rw [sent_emit, hr.sent_eq, hsent, List.append_assoc] at hsent'
    refine .again hp (giveBack_shows hr.context h'' (hP _ _ hp)) ?_ ht ht'
    rw [sent_giveBack, hsent', List.cons_append, List.nil_append]
  | failedAgain hf hmay hr hc ha =>
    obtain ⟨o', hp, h', t, hsent, ht⟩ := hf.shows hm hP h
    have hback := emit_shows (reach_shows h' hr)
    obtain ⟨h'', t', hsent', ht'⟩ := attempt_sends hr.context (hback _) ha
    rw [sent_emit, hr.sent_eq, hsent, List.append_assoc] at hsent'
    refine .again hp (giveBack_shows hr.context (emit_shows h'' _) (hP _ _ hp)) ?_ ht ht'
    rw [sent_giveBack, sent_emit, hsent', List.cons_append, List.nil_append]

theorem performRetryable_sending (hm : request.Makes b.context o P) (ho : AllKept o)
    (hP : ∀ command o', P command o' → AllKept o') (h : Shows b.context r.client k o) :
    Sending b.context k o P r ((performRetryable b request).on r).1
      ((performRetryable b request).on r).2 :=
  (performRetryable_course b request r).sending hm ho hP h

/-! ## §3. One attempt. -/

/-- Work that is an attempt to send a command. -/
theorem within_sending {intent : Intent} {work : Source → Lease → Exec α}
    {interpret : Interpretation α}
    (hwork : ∀ source lease r₁, ∃ command, P command o ∧
      (work source lease).on r₁ = (attempt source lease command interpret).on r₁)
    (ho : AllKept o) (h : Shows b.context r.client k o) :
    Sending b.context k o P r
      ((withSource b intent fun source => withConnection source (work source)).on r).1
      ((withSource b intent fun source => withConnection source (work source)).on r).2 := by
  rw [within_on]
  rcases hr : (reach b intent).on r with ⟨e | ⟨source, lease⟩, r₁⟩
  · exact .unsent (sent_of_unreached hr) (reach_error_shows h ho hr)
  · replace hr := (reach_ok_iff ..).mp hr
    obtain ⟨command, hp, hw⟩ := hwork source lease r₁
    rcases ha : (attempt source lease command interpret).on r₁ with ⟨result, r₂⟩
    obtain ⟨h₂, t, hsent, ht⟩ := attempt_sends hr.context (reach_shows h hr) ha
    rw [hr.sent_eq] at hsent
    simp only [hw, ha]
    refine .once hp (giveBack_shows hr.context h₂ ho) ?_ ht
    rw [sent_giveBack, hsent]

theorem performRead_sending (database : String) (body : Document) (interpret : Interpretation α)
    (ho : AllKept o) (h : Shows b.context r.client k o) :
    Sending b.context k o
      (fun command o' => o' = o ∧ ∃ preference, command = .ofRead database body preference) r
      ((performRead b database body interpret).on r).1
      ((performRead b database body interpret).on r).2 :=
  within_sending (fun _ _ r₁ =>
    ⟨.ofRead database body (b.effectivePreference r₁.client), ⟨rfl, _, rfl⟩, rfl⟩) ho h

theorem performWrite_sending (database : String) (body : Document) (interpret : Interpretation α)
    (ho : AllKept o) (h : Shows b.context r.client k o) :
    Sending b.context k o (fun command o' => o' = o ∧ command = .of database body) r
      ((performWrite b database body interpret).on r).1
      ((performWrite b database body interpret).on r).2 :=
  within_sending (fun _ _ _ => ⟨.of database body, ⟨rfl, rfl⟩, rfl⟩) ho h

end TwoAttempts

end ClusterClient
