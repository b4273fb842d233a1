/-
  ClusterClient.Proofs.Wire — what goes out on a connection.

  On its way to the server a command gets the identifier of the session, if the context holds one
  that has not ended, and the read preference, if it has one other than the primary and the
  connection leads to a router.  Both are fields that are set in the document: in their place where
  the caller has written them, at the end otherwise.  What stands in them is written out here: a
  document with the identifier, and one with the name of the mode and the tag sets.  So whatever a
  command has for its first key stays its first key.  The description by which the server was
  selected has no part in this, as it may be older than the connection.

  All commands of operations are made with their first key for a name, and the attempts of an
  operation send the command that was made: the name is the first key of what was sent.

  Main statement: `goesOut`.
-/
import ClusterClient.Proofs.Ownership
import ClusterClient.Proofs.ReplyFields

namespace ClusterClient

open Run

variable {α : Type}

/-! ## §1. Fields that are set if there is a value. -/

namespace Document

/-- Sets a field, if there is a value for it. -/
def putOptional (d : Document) (key : String) : Option Value → Document
  | some v => d.put key v
  | none => d

theorem value?_putOptional (d : Document) (key : String) (o : Option Value) :
    (d.putOptional key o).value? key = o.or (d.value? key) := by
  cases o with
  | none => rfl
  | some v => exact d.value?_put key v

theorem value?_putOptional_of_ne (d : Document) {key other : String} (o : Option Value)
    (h : other ≠ key) : (d.putOptional key o).value? other = d.value? other := by
  cases o with
  | none => rfl
  | some v => exact d.value?_put_of_ne v h

/-- A key that is set comes last, if it was not there. -/
theorem exists_keys_putOptional (d : Document) (key : String) (o : Option Value) :
    ∃ added, (d.putOptional key o).keys = d.keys ++ added ∧ added.Sublist [key] ∧
      ∀ k ∈ added, k ∉ d.keys := by
  cases o with
  | none => exact ⟨[], (List.append_nil _).symm, List.nil_sublist _, nofun⟩
  | some v =>
    show ∃ added, (d.put key v).keys = _ ∧ _
    rw [keys_put]
    by_cases h : key ∈ d.keys
    · rw [if_pos h]
      exact ⟨[], (List.append_nil _).symm, List.nil_sublist _, nofun⟩
    · rw [if_neg h]
      refine ⟨[key], rfl, List.Sublist.refl _, ?_⟩
      intro k hk
      rw [List.mem_singleton.mp hk]
      exact h

theorem firstKey?_eq (d : Document) : d.firstKey? = d.keys.head? :=
  (List.head?_map ..).symm

theorem put_ne_nil (d : Document) (key : String) (v : Value) : d.put key v ≠ [] := by
  cases d with
  | nil => exact List.cons_ne_nil _ _
  | cons f rest =>
    unfold put
    split <;> exact List.cons_ne_nil _ _

end Document

/-! ## §2. Preferences as they are written. -/

/-- The name of the mode in documents. -/
inductive ReadMode.Named : ReadMode → String → Prop where
  | secondary : Named .secondary "secondary"
  | primaryPreferred : Named .primaryPreferred "primaryPreferred"
  | secondaryPreferred : Named .secondaryPreferred "secondaryPreferred"
  | nearest : Named .nearest "nearest"

/-- The set is written as a document of its texts.  Only a single tag, under a key with a dollar
    sign and with a text that denotes a value of another kind, is written as that value. -/
inductive TagSet.WrittenAs (set : TagSet) : Value → Prop where
  | document (h : ∀ key text, set = [(key, text)] → Wrapper.ofText? key text = none) :
    WrittenAs set (.document (set.map fun t => (t.1, .text t.2)))
  | wrapped {key text : String} {v : Value} (hset : set = [(key, text)])
    (hkey : key.toList.head? = some '$') (h : Wrapper.ofText? key text = some v) : WrittenAs set v

/-- The preference is written as its mode, and its tag sets if there are any. -/
inductive ReadPreference.WrittenAs : ReadPreference → Document → Prop where
  | untagged {mode : ReadMode} {name : String} {options : Option ReadOptions}
    (hmode : mode.Named name) (hsets : ∀ o, options = some o → o.tagSets = none) :
    WrittenAs (.flexible mode options) [("mode", .text name)]
  | tagged {mode : ReadMode} {name : String} {sets : List TagSet} {items : List Value}
    (hmode : mode.Named name) (hitems : List.Forall₂ TagSet.WrittenAs sets items) :
    WrittenAs (.flexible mode (some ⟨some sets⟩))
      [("mode", .text name), ("tags", .array items)]

theorem ReadMode.named_name (m : ReadMode) : m.Named m.name := by
  cases m <;> constructor

/-- Texts denote other values only under keys with a dollar sign. -/
theorem Wrapper.key_of_ofText? {key text : String} {v : Value} (h : ofText? key text = some v) :
    key.toList.head? = some '$' := by
  by_contra hkey
  unfold ofText? at h
  rw [(readers_lookup_of_plain hkey).2.2] at h
  split at h <;> cases h

theorem TagSet.writtenAs_toValue (set : TagSet) : set.WrittenAs set.toValue := by
  unfold toValue
  split
  case h_1 key text =>
    cases hv : Wrapper.ofText? key text with
    | none =>
      refine .document fun _ _ heq => ?_
      cases heq
      exact hv
    | some v => exact .wrapped rfl (Wrapper.key_of_ofText? hv) hv
  case h_2 hmany => exact .document fun key text heq => absurd heq (hmany key text)

/-- What is written for a preference other than the primary. -/
theorem ReadPreference.writtenAs_toDocument (mode : ReadMode) (options : Option ReadOptions) :
    (flexible mode options).WrittenAs (flexible mode options).toDocument := by
  rcases options with _ | ⟨_ | sets⟩
  · exact .untagged mode.named_name nofun
  · exact .untagged mode.named_name fun o ho => by cases ho; rfl
  · refine .tagged mode.named_name (List.forall₂_map_right_iff.mpr ?_)
    exact List.forall₂_same.mpr fun set _ => set.writtenAs_toValue

/-! ## §3. The command on the wire. -/

namespace Command

/-- What a server of the kind is told of the preference. -/
def told (c : Command) (kind : ServerKind) : Option Value :=
  if kind = .router then
    c.readPreference.bind fun rp => if rp.isPrimary then none else some (.document rp.toDocument)
  else none

theorem told_of_other {c : Command} {kind : ServerKind} {rp : ReadPreference}
    (router : kind = .router) (hrp : c.readPreference = some rp) (other : rp ≠ .primary) :
    ∃ d, rp.WrittenAs d ∧ c.told kind = some (.document d) := by
  cases rp with
  | primary => exact absurd rfl other
  | flexible mode options =>
    refine ⟨_, ReadPreference.writtenAs_toDocument mode options, ?_⟩
    unfold told
    rw [if_pos router, hrp]
    rfl

theorem told_of_primary {c : Command} {kind : ServerKind}
    (h : ∀ rp, kind = .router → c.readPreference = some rp → rp = .primary) :
    c.told kind = none := by
  unfold told
  split
  · next router =>
    cases hrp : c.readPreference with
    | none => rfl
    | some rp =>
      rw [h rp router hrp]
      rfl
  · rfl

/-- The two fields are set one after the other, and nothing else is changed. -/
theorem prepare_eq_putOptional (c : Command) (id : Option Nat) (kind : ServerKind) :
    c.prepare id kind = { c with
      body := (c.body.putOptional "lsid"
        (id.map fun n => .document (sessionDocument n))).putOptional
          "$readPreference" (c.told kind) } := by
  have hwithin : c.within id = { c with
      body := c.body.putOptional "lsid" (id.map fun n => .document (sessionDocument n)) } := by
    cases id <;> rfl
  rw [prepare_eq, hwithin, told, withReadPreference]
  by_cases h : kind = .router
  · rw [if_pos h, if_pos h]
    dsimp only
    rcases c.readPreference with _ | _ | ⟨mode, options⟩ <;> rfl
  · rw [if_neg h, if_neg h]
    rfl

/-- What of the command goes out on a connection to a server of the kind, in the session of the
    context. -/
structure GoesOutAs (c : Command) (session : Option Session) (kind : ServerKind) (wire : Command) :
    Prop where
  name : wire.name = c.name
  database : wire.database = c.database
  readPreference : wire.readPreference = c.readPreference
  /-- The identifier is that of the session, if there is one that has not ended, -/
  lsid : ∀ s, session = some s → s.isEnded = false →
    ∃ n, s.id? = some n ∧ wire.HasIdentifier (some n)
  /-- and otherwise what the command has. -/
  ownLsid : (∀ s, session = some s → s.isEnded = true) →
    wire.body.value? "lsid" = c.body.value? "lsid"
  /-- A router is told the preference, unless it is the primary, -/
  preference : ∀ rp, kind = .router → c.readPreference = some rp → rp ≠ .primary →
    ∃ d, rp.WrittenAs d ∧ wire.body.value? "$readPreference" = some (.document d)
  /-- and otherwise what the command has. -/
  ownPreference : (∀ rp, kind = .router → c.readPreference = some rp → rp = .primary) →
    wire.body.value? "$readPreference" = c.body.value? "$readPreference"
  others : ∀ key, key ≠ "lsid" → key ≠ "$readPreference" →
    wire.body.value? key = c.body.value? key
  /-- The keys stay where they are, and new ones come after them. -/
  keys : ∃ added, wire.body.keys = c.body.keys ++ added ∧
    added.Sublist ["lsid", "$readPreference"] ∧ ∀ key ∈ added, key ∉ c.body.keys

/-- The command is named by its first key. -/
def IsHeaded (c : Command) : Prop := c.body.firstKey? = some c.name

theorem isHeaded_of (database : String) {body : Document} (h : body ≠ []) :
    (of database body).IsHeaded := by
  cases body with
  | nil => exact absurd rfl h
  | cons f rest => rfl

theorem isHeaded_ofRead (database : String) {body : Document} (h : body ≠ [])
    (rp : ReadPreference) : (ofRead database body rp).IsHeaded :=
  isHeaded_of database h

/-- Whatever is added comes behind the name. -/
theorem IsHeaded.of_goesOut {c wire : Command} {session : Option Session} {kind : ServerKind}
    (h : c.IsHeaded) (out : c.GoesOutAs session kind wire) : wire.IsHeaded := by
  obtain ⟨added, hkeys, -⟩ := out.keys
  unfold IsHeaded at h ⊢
  rw [Document.firstKey?_eq] at h ⊢
  rw [hkeys, out.name, List.head?_append, h]
  rfl

end Command

/-- What reaches the server is the command as it goes out on the connection. -/
theorem transmission_goesOut (lease : Lease) (command : Command) (x : SessionContext) (c : Client) :
    command.GoesOutAs (x.session? c) lease.description.kind
      (transmission lease command x c).command := by
  have hprepared : (transmission lease command x c).command = _ :=
    command.prepare_eq_putOptional (x.id? c) lease.description.kind
  have hid : x.id? c = (x.session? c).bind (·.id?) := rfl
  rw [hprepared, hid]
  generalize x.session? c = session
  constructor
  · rfl
  · rfl
  · rfl
  · rintro s rfl open_
    cases hs : s.server with
    | none =>
      rw [Session.isEnded, hs] at open_
      cases open_
    | some v =>
      refine ⟨v.id, by rw [Session.id?, hs]; rfl, ?_⟩
      unfold Command.HasIdentifier
      rw [Document.value?_putOptional_of_ne _ _ (by decide), Document.value?_putOptional,
        Option.bind_some, Session.id?, hs]
      rfl
  · intro ended
    have hnone : session.bind (·.id?) = none := by
      cases session with
      | none => rfl
      | some s =>
        have hs := ended s rfl
        rw [Session.isEnded, Option.isNone_iff_eq_none] at hs
        rw [Option.bind_some, Session.id?, hs]
        rfl
    rw [Document.value?_putOptional_of_ne _ _ (by decide), hnone]
    rfl
  · intro rp router hrp other
    obtain ⟨d, hwritten, htold⟩ := Command.told_of_other router hrp other
    refine ⟨d, hwritten, ?_⟩
    rw [Document.value?_putOptional, htold]
    rfl
  · intro primary
    rw [Document.value?_putOptional, Command.told_of_primary primary]
    exact Document.value?_putOptional_of_ne _ _ (by decide)
  · intro key hlsid hpreference
    rw [Document.value?_putOptional_of_ne _ _ hpreference,
      Document.value?_putOptional_of_ne _ _ hlsid]
  · obtain ⟨first, hfirst, hone, hnew⟩ := command.body.exists_keys_putOptional "lsid"
      ((session.bind (·.id?)).map fun n => .document (Command.sessionDocument n))
    obtain ⟨second, hsecond, htwo, hnew'⟩ := Document.exists_keys_putOptional
      (command.body.putOptional "lsid" _) "$readPreference" (command.told lease.description.kind)
    refine ⟨first ++ second, ?_, hone.append htwo, ?_⟩
    · rw [hsecond, hfirst, List.append_assoc]
    · intro key hkey
      rcases List.mem_append.mp hkey with hkey | hkey
      · exact hnew key hkey
      · intro hmem
        exact hnew' key hkey (hfirst ▸ List.mem_append_left _ hmem)

/-- The caller has written one of the two fields. -/
example : (Command.prepare ⟨"ping", "db", some (.flexible .nearest none),
    [("ping", .int32 1), ("lsid", .null), ("comment", .null)]⟩ (some 7) .router).body.keys =
      ["ping", "lsid", "comment", "$readPreference"] := by
  decide

/-! ## §4. What operations send. -/

/-- All that was sent are commands that were made with their first key for a name, as they go out
    in the context. -/
def SendsHeaded (x : SessionContext) (sent : List Transmission) : Prop :=
  ∀ t ∈ sent, ∃ lease command c, t = transmission lease command x c ∧ command.IsHeaded

theorem sendsHeaded_nil (x : SessionContext) : SendsHeaded x [] :=
  fun _ ht => absurd ht List.not_mem_nil

section Requests

variable {b : Binding} {r : Run}

/-- A retryable request sends the command that it makes, once or twice. -/
theorem performRetryable_headed {request : Request α}
    (makes : ∀ server connection r command r',
      (request.create server connection).on r = (.ok command, r') → command.IsHeaded) :
    SendsHeaded b.context ((performRetryable b request).sends r) := by
  obtain ⟨-, hs⟩ | ⟨source, lease, command, r₁, hopen, hs⟩ :=
    sends_performRetryable_cases b request r
  · rw [hs]
    exact sendsHeaded_nil _
  obtain ⟨r₀, -, hcreate⟩ := hopen.made
  have hheaded : command.IsHeaded := makes _ _ _ _ _ hcreate
  obtain hs | ⟨lease', r', hs⟩ := hs
  · intro t ht
    rw [hs, List.mem_singleton] at ht
    exact ⟨lease, command, r₁.client, ht, hheaded⟩
  · intro t ht
    rw [hs, List.mem_cons, List.mem_singleton] at ht
    rcases ht with ht | ht
    · exact ⟨lease, command, r₁.client, ht, hheaded⟩
    · exact ⟨lease', command, r'.client, ht, hheaded⟩

/-- A request with one attempt sends its command if a connection is reached. -/
theorem within_headed {intent : Intent} {work : Source → Lease → Exec α}
    (interpret : Interpretation α)
    (hwork : ∀ source lease r, ∃ command : Command, command.IsHeaded ∧
      (work source lease).on r = (attempt source lease command interpret).on r) :
    SendsHeaded b.context
      ((withSource b intent fun source => withConnection source (work source)).sends r) := by
  unfold Exec.sends
  rw [within_on]
  rcases hr : (reach b intent).on r with ⟨e | ⟨source, lease⟩, r₁⟩
  · have hsilent := sent_of_unreached hr
    dsimp only
    rw [hsilent, List.drop_length]
    exact sendsHeaded_nil _
  · replace hr := (reach_ok_iff ..).mp hr
    obtain ⟨command, hheaded, hw⟩ := hwork source lease r₁
    rcases ha : (attempt source lease command interpret).on r₁ with ⟨result, r₂⟩
    dsimp only
    rw [hw, ha, sent_giveBack, sent_attempt ha, hr.sent_eq, hr.context, List.drop_left]
    intro t ht
    exact ⟨lease, command, r₁.client, List.mem_singleton.mp ht, hheaded⟩

theorem putSessionFields_ne_nil {body : Document} (h : body ≠ []) (server : ServerDescription)
    (connection : ConnectionDescription) (x : SessionContext) (r : Run) :
    ((putSessionFields body server connection x).on r).1 ≠ [] := by
  unfold putSessionFields
  cases active : x.inTransaction r.client with
  | true =>
    simp only [Act.on_bind, on_currentClient, active, if_true]
    exact Document.put_ne_nil _ _ _
  | false =>
    cases able : canRetryWrite r.client server connection x with
    | true =>
      simp only [Act.on_bind, on_currentClient, active, able, Bool.false_eq_true, if_false, if_true]
      rcases x.advance r.client with ⟨_ | n, c⟩
      · exact h
      · exact Document.put_ne_nil _ _ _
    | false =>
      simp only [Act.on_bind, on_currentClient, active, able, Bool.false_eq_true, if_false]
      exact h

theorem Insert.request_headed (i : Insert) :
    SendsHeaded b.context ((performRetryable b (i.request b.context)).sends r) := by
  refine performRetryable_headed fun server connection r₁ command r₂ hcreate => ?_
  have hbody : ((putSessionFields i.body server connection b.context).on r₁).1 ≠ [] :=
    putSessionFields_ne_nil (List.cons_ne_nil _ _) server connection b.context r₁
  cases hcreate
  exact Command.isHeaded_of _ hbody

theorem endRequest_headed (name : String) :
    SendsHeaded b.context ((performRetryable b (endRequest name b.context)).sends r) := by
  refine performRetryable_headed fun server connection r₁ command r₂ hcreate => ?_
  cases hcreate
  exact Command.isHeaded_of _ (Document.put_ne_nil _ _ _)

theorem acknowledged_headed (database : String) {body : Document} (h : body ≠ []) :
    SendsHeaded b.context ((acknowledged b database body).sends r) := by
  unfold acknowledged Exec.sends
  rw [Exec.on_bind_pure]
  exact within_headed _ fun _ _ _ => ⟨.of database body, Command.isHeaded_of database h, rfl⟩

variable (b r) in
/-- Whatever an operation sends is named by its first key. -/
theorem execute_headed (operation : Operation) :
    SendsHeaded b.context ((operation.execute b).sends r) := by
  cases operation with
  | insert i =>
    unfold Operation.execute Exec.sends
    rw [Exec.on_bind_pure]
    exact i.request_headed
  | runCommand c =>
    unfold Operation.execute Exec.sends
    rw [Exec.on_bind_pure]
    exact within_headed (fun reply _ => .ok reply) fun _ _ r₁ =>
      ⟨.ofRead c.database c.body (b.effectivePreference r₁.client),
        Command.isHeaded_ofRead c.database c.body_ne_nil _, rfl⟩
  | dropCollection database collection =>
    have hsends : ((Operation.dropCollection database collection).execute b).sends r =
      (acknowledged b database [("drop", .text collection)]).sends r := rfl
    rw [hsends]
    exact acknowledged_headed database (List.cons_ne_nil _ _)
  | dropUser database user => exact acknowledged_headed database (List.cons_ne_nil _ _)
  | commit =>
    show SendsHeaded b.context ((commitTransaction b).sends r)
    by_cases used : ∃ s, b.context.session? r.client = some s ∧
      (s.transaction.state = .inProgress ∨ s.transaction.state = .committed)
    · obtain ⟨s, found, used⟩ := used
      rw [sends_commitTransaction_used found used]
      exact endRequest_headed "commitTransaction"
    · rw [sends_commitTransaction_unused used]
      exact sendsHeaded_nil _
  | abort =>
    show SendsHeaded b.context ((abortTransaction b).sends r)
    by_cases used : ∃ s, b.context.session? r.client = some s ∧ s.transaction.state = .inProgress
    · obtain ⟨s, found, used⟩ := used
      rw [sends_abortTransaction_used found used]
      exact endRequest_headed "abortTransaction"
    · rw [sends_abortTransaction_unused used]
      exact sendsHeaded_nil _

/-- The executor sends what is sent on its binding, if there is one. -/
theorem perform_headed (operation : Operation) (preference : ReadPreference)
    (session : Option SessionId) (r : Run) :
    ∃ x, SendsHeaded x ((perform operation preference session).sends r) := by
  by_cases hrefused : operation.Refused preference session r.client
  · have hnone : (perform operation preference session).sends r = [] := by
      unfold Exec.sends
      rw [perform_on, if_pos hrefused, List.drop_length]
    rw [hnone]
    exact ⟨⟨none, false⟩, sendsHeaded_nil _⟩
  · have hsends : (perform operation preference session).sends r =
        (withBinding (operation.preferred preference) session
          (executeLabelled operation)).sends r := by
      unfold Exec.sends
      rw [perform_on, if_neg hrefused]
    rw [hsends]
    have hsilent := bind_silent (operation.preferred preference) session r
    rcases hbind : (Binding.bind (operation.preferred preference) session).on r with ⟨e | b, r₁⟩
    · rw [hbind] at hsilent
      unfold Exec.sends
      rw [withBinding_of_error hbind, show r₁.sent = r.sent from hsilent, List.drop_length]
      exact ⟨⟨none, false⟩, sendsHeaded_nil _⟩
    · rw [(withBinding_of_bound hbind).2]
      exact ⟨b.context, execute_headed b r₁ operation⟩

end Requests

/-! ## §5. All that goes out. -/

/-- The transmission is of a command that was made with its first key for a name, as it goes out on
    the connection, and so it is named by the first key of what was sent. -/
structure Transmission.Headed (t : Transmission) : Prop where
  made : ∃ (command : Command) (connection : ConnectionDescription),
    command.body.firstKey? = some command.name ∧ t.server = connection.address ∧
    t.connection = connection.id ∧ command.GoesOutAs t.session connection.kind t.command
  name : t.command.body.firstKey? = some t.command.name

theorem SendsHeaded.each {x : SessionContext} {sent : List Transmission} (h : SendsHeaded x sent) :
    ∀ t ∈ sent, t.Headed := by
  intro t ht
  obtain ⟨lease, command, c, rfl, hheaded⟩ := h t ht
  have hout := transmission_goesOut lease command x c
  exact ⟨⟨command, lease.description, hheaded, rfl, rfl, hout⟩, hheaded.of_goesOut hout⟩

/-- What goes out.  A command that is sent in a context, on a connection of whatever server, gets
    the identifier of the session and the preference, as the context and the connection say; the
    source has no part in it.  Whatever an operation sends, on a binding or through the executor,
    goes out in this way and is named by its first key. -/
theorem goesOut :
    (∀ (lease : Lease) (command : Command) (x : SessionContext) (r : Run),
      ∃ t, (send lease command x).sends r = [t] ∧
        t.server = lease.description.address ∧ t.connection = lease.description.id ∧
        command.GoesOutAs (x.session? r.client) lease.description.kind t.command ∧
        ∀ (source : Source), source.context = x → ∀ (β : Type) (interpret : Interpretation β),
          (attempt source lease command interpret).sends r = [t]) ∧
    (∀ (operation : Operation) (b : Binding) (r : Run),
      ∀ t ∈ (operation.execute b).sends r, t.Headed) ∧
    ∀ (operation : Operation) (preference : ReadPreference) (session : Option SessionId) (r : Run),
      ∀ t ∈ (perform operation preference session).sends r, t.Headed := by
  refine ⟨?_, ?_, ?_⟩
  · intro lease command x r
    have hsent := (send_on lease command x r).1
    refine ⟨transmission lease command x r.client, Exec.sends_eq_of_sent hsent, rfl, rfl,
      transmission_goesOut lease command x r.client, ?_⟩
    rintro source rfl β interpret
    refine Exec.sends_eq_of_sent ?_
    rw [attempt_on]
    exact hsent
  · intro operation b r
    exact (execute_headed b r operation).each
  · intro operation preference session r
    obtain ⟨x, hheaded⟩ := perform_headed operation preference session r
    exact hheaded.each

end ClusterClient
