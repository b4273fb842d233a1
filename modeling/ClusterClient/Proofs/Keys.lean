/-
  ClusterClient.Proofs.Keys — where the server sessions of a client stand.

  A retryable write is told from all others by the identifier of its server session together with a
  number of it.  The *keys* of a client are the pairs at which its server sessions stand: those of
  its sessions and those that wait to be used again.  When a session ends, its server session waits
  or is forgotten; when a session is opened, it takes over a server session that waits, counter and
  all, or makes a new one.  In between nothing but taking a number moves a counter.

  `Client.SameKeys x` says that a client has come from another one without opening sessions, and
  that all keys are as they were but for the one of the session of the context `x`.  Every change
  that takes numbers from that session only is of this kind.

  Main statements: `Client.Change.sameKeys`, `execute_sameKeys` (an operation on a binding moves no
  counter but that of its own session), `Client.openSession_cases`.
-/
import ClusterClient.Proofs.Holders
import Mathlib.Data.List.Nodup
import Mathlib.Data.List.Perm.Subperm

namespace ClusterClient

open Run

/-! ## §1. Lists. -/

section Lists

variable {α β : Type} {l : List α} {i : Nat} {f : α → α} {g : α → Option β}

/-- One entry is changed, and all else stays around it. -/
theorem exists_modify {a : α} (h : l[i]? = some a) :
    ∃ before after, l = before ++ a :: after ∧ ∀ f, l.modify i f = before ++ f a :: after := by
  induction l generalizing i with
  | nil => cases h
  | cons first rest ih =>
    cases i with
    | zero =>
      cases h
      exact ⟨[], rest, rfl, fun _ => rfl⟩
    | succ i =>
      obtain ⟨before, after, rfl, hmodify⟩ := ih h
      refine ⟨first :: before, after, rfl, fun f => ?_⟩
      rw [List.modify_succ_cons, hmodify, List.cons_append]

/-- A change after which an entry contributes what it did, or nothing. -/
theorem filterMap_modify_sublist (h : ∀ a, l[i]? = some a → ∀ b, g (f a) = some b → g a = some b) :
    ((l.modify i f).filterMap g).Sublist (l.filterMap g) := by
  cases hi : l[i]? with
  | none => rw [List.modify_eq_self (List.getElem?_eq_none_iff.mp hi)]
  | some a =>
    have hkept := h a hi
    obtain ⟨before, after, rfl, hmodify⟩ := exists_modify hi
    rw [hmodify, List.filterMap_append, List.filterMap_append]
    refine (List.Sublist.refl _).append ?_
    cases hf : g (f a) with
    | none =>
      rw [List.filterMap_cons_none hf]
      exact (List.sublist_cons_self a after).filterMap g
    | some b => rw [List.filterMap_cons_some hf, List.filterMap_cons_some (hkept b hf)]

/-- A change that takes away what one entry contributes. -/
theorem filterMap_modify_perm {a : α} {b : β} (ha : l[i]? = some a) (hb : g a = some b)
    (hnone : g (f a) = none) : (l.filterMap g).Perm (b :: (l.modify i f).filterMap g) := by
  obtain ⟨before, after, rfl, hmodify⟩ := exists_modify ha
  rw [hmodify, List.filterMap_append, List.filterMap_append, List.filterMap_cons_some hb,
    List.filterMap_cons_none hnone]
  exact List.perm_middle

end Lists

/-! ## §2. Keys. -/

/-- A server session and a number of it. -/
structure Key where
  session : Nat
  number : Nat
  deriving Repr, DecidableEq

/-- Where a server session stands: the number that was taken last. -/
def ServerSession.key (v : ServerSession) : Key := ⟨v.id, v.txnNumber⟩

/-- Where the server session of a session stands, until the session ends. -/
def Session.key? (s : Session) : Option Key := s.server.map ServerSession.key

/-- Where the server session of the session of a context stands. -/
def SessionContext.key? (x : SessionContext) (c : Client) : Option Key :=
  (x.session? c).bind Session.key?

namespace Client

/-- Where the server sessions of a client stand. -/
def keys (c : Client) : List Key :=
  c.sessions.filterMap Session.key? ++ c.waiting.map ServerSession.key

/-- The identifiers of its server sessions. -/
def ids (c : Client) : List Nat :=
  c.sessions.filterMap Session.id? ++ c.waiting.map ServerSession.id

end Client

theorem Session.map_key? (s : Session) : s.key?.map Key.session = s.id? := by
  unfold Session.key? Session.id?
  rw [Option.map_map]
  rfl

theorem Session.id?_of_key? {s : Session} {k : Key} (h : s.key? = some k) :
    s.id? = some k.session := by
  rw [← s.map_key?, h, Option.map_some]

theorem Session.txnNumber_of_key? {s : Session} {k : Key} (h : s.key? = some k) :
    s.txnNumber = k.number := by
  obtain ⟨v, hv, rfl⟩ := Option.map_eq_some_iff.mp h
  rw [Session.txnNumber, hv]
  rfl

theorem SessionContext.map_key? (x : SessionContext) (c : Client) :
    (x.key? c).map Key.session = x.id? c := by
  unfold SessionContext.key? SessionContext.id?
  cases x.session? c with
  | none => rfl
  | some s => exact s.map_key?

theorem SessionContext.id?_of_key? {x : SessionContext} {c : Client} {k : Key}
    (h : x.key? c = some k) : x.id? c = some k.session := by
  rw [← x.map_key?, h, Option.map_some]

namespace Client

theorem map_keys (c : Client) : c.keys.map Key.session = c.ids := by
  unfold keys ids
  rw [List.map_append, List.map_filterMap, List.map_map]
  congr 1
  refine congrArg (List.filterMap · c.sessions) ?_
  funext s
  exact s.map_key?

theorem mem_keys {c : Client} {k : Key} :
    k ∈ c.keys ↔
      (∃ (i : SessionId) (s : Session), c.sessions[i]? = some s ∧ s.key? = some k) ∨
        ∃ v ∈ c.waiting, v.key = k := by
  unfold keys
  rw [List.mem_append, List.mem_filterMap, List.mem_map]
  constructor
  · rintro (⟨s, hs, hk⟩ | h)
    · obtain ⟨i, hi⟩ := List.mem_iff_getElem?.mp hs
      exact .inl ⟨i, s, hi, hk⟩
    · exact .inr h
  · rintro (⟨i, s, hi, hk⟩ | h)
    · exact .inl ⟨s, List.mem_of_getElem? hi, hk⟩
    · exact .inr h

theorem mem_ids_of_mem_keys {c : Client} {k : Key} (h : k ∈ c.keys) : k.session ∈ c.ids := by
  rw [← c.map_keys]
  exact List.mem_map_of_mem h

/-- Where no server session is there twice, its identifier tells its key. -/
theorem eq_of_mem_keys {c : Client} (h : c.ids.Nodup) {k k' : Key} (hk : k ∈ c.keys)
    (hk' : k' ∈ c.keys) (hid : k'.session = k.session) : k' = k := by
  rw [← c.map_keys] at h
  exact List.inj_on_of_nodup_map h hk' hk hid

end Client

theorem SessionContext.mem_keys {x : SessionContext} {c : Client} {k : Key}
    (h : x.key? c = some k) : k ∈ c.keys := by
  obtain ⟨s, hs, hk⟩ := Option.bind_eq_some_iff.mp h
  obtain ⟨i, -, hi⟩ := Option.bind_eq_some_iff.mp hs
  exact Client.mem_keys.mpr (.inl ⟨i, s, hi, hk⟩)

/-! ## §3. Server sessions that wait. -/

namespace ServerSession.Waiting

/-- What is handed out and what goes on waiting have waited before. -/
theorem checkOut_sublist (timeout now : Nat) (waiting : List ServerSession) :
    ((checkOut timeout now waiting).1.toList ++ (checkOut timeout now waiting).2).Sublist
      waiting := by
  induction waiting with
  | nil => exact .refl _
  | cons v rest ih =>
    unfold checkOut
    split
    · exact .cons v ih
    · exact .refl _

theorem purge_sublist (timeout now : Nat) (waiting : List ServerSession) :
    (purge timeout now waiting).Sublist waiting := by
  have hrest := List.dropWhile_sublist (l := waiting.reverse) fun v => v.aboutToExpire timeout now
  unfold purge
  simpa using hrest.reverse

theorem checkIn_sublist (v : ServerSession) (timeout now : Nat) (waiting : List ServerSession) :
    (checkIn v timeout now waiting).Sublist (v :: waiting) := by
  have hkept := purge_sublist timeout now waiting
  unfold checkIn
  dsimp only
  split
  · exact .cons v hkept
  · exact hkept.cons_cons v

end ServerSession.Waiting

/-- A session is opened with a server session that waited, or with a new one. -/
theorem Client.openSession_cases (c : Client) (timeout : Nat) (implicit : Bool) :
    ∃ v waiting,
      (c.openSession timeout implicit).2.sessions = c.sessions ++ [.start v timeout implicit] ∧
      (c.openSession timeout implicit).2.waiting = waiting ∧
      ((c.openSession timeout implicit).2.nextIdentifier = c.nextIdentifier ∧
          (v :: waiting).Sublist c.waiting ∨
        (c.openSession timeout implicit).2.nextIdentifier = c.nextIdentifier + 1 ∧
          v = .fresh c.nextIdentifier c.now ∧ waiting.Sublist c.waiting) := by
  have hwaited := ServerSession.Waiting.checkOut_sublist timeout c.now c.waiting
  unfold Client.openSession
  generalize ServerSession.Waiting.checkOut timeout c.now c.waiting = went at hwaited ⊢
  obtain ⟨_ | v, waiting⟩ := went
  · exact ⟨_, waiting, rfl, rfl, .inr ⟨rfl, rfl, hwaited⟩⟩
  · exact ⟨v, waiting, rfl, rfl, .inl ⟨rfl, hwaited⟩⟩

/-! ## §4. The same keys. -/

/-- No session was opened, and where server sessions stand has not changed, but for that of the
    session of the context. -/
structure Client.SameKeys (x : SessionContext) (c c' : Client) : Prop where
  nextIdentifier : c'.nextIdentifier = c.nextIdentifier
  ids : c'.ids.Subperm c.ids
  keys : ∀ k ∈ c'.keys, x.id? c ≠ some k.session → k ∈ c.keys
  /-- The session of the context gets no other server session. -/
  own : ∀ id, x.id? c' = some id → x.id? c = some id
  /-- All other transactions are those that there were. -/
  active : ∀ (i : SessionId) (s' : Session), x.session ≠ some i → c'.sessions[i]? = some s' →
    s'.inTransaction = true → ∃ s, c.sessions[i]? = some s ∧ s.inTransaction = true ∧
      ∀ k, s'.key? = some k → s.key? = some k

namespace Client.SameKeys

variable {x : SessionContext} {c c' c'' : Client}

theorem refl (x : SessionContext) (c : Client) : c.SameKeys x c where
  nextIdentifier := rfl
  ids := .refl _
  keys _ hk _ := hk
  own _ h := h
  active _ s _ hs ha := ⟨s, hs, ha, fun _ hk => hk⟩

theorem trans (h : c.SameKeys x c') (h' : c'.SameKeys x c'') : c.SameKeys x c'' where
  nextIdentifier := h'.nextIdentifier.trans h.nextIdentifier
  ids := h'.ids.trans h.ids
  keys k hk hx := h.keys k (h'.keys k hk fun hid => hx (h.own _ hid)) hx
  own id hid := h.own id (h'.own id hid)
  active i s'' hx hs'' ha := by
    obtain ⟨s', hs', ha', hk'⟩ := h'.active i s'' hx hs'' ha
    obtain ⟨s, hs, ha₀, hk⟩ := h.active i s' hx hs' ha'
    exact ⟨s, hs, ha₀, fun k hkey => hk k (hk' k hkey)⟩

/-- Where the sessions are the same, so are the keys. -/
theorem of_same (x : SessionContext) (h : c.SameSessions c') : c.SameKeys x c' := by
  have hkeys : c'.keys = c.keys := by
    unfold Client.keys
    rw [h.sessions, h.waiting]
  have hids : c'.ids = c.ids := by rw [← c'.map_keys, hkeys, c.map_keys]
  have hid : x.id? c' = x.id? c := by
    unfold SessionContext.id? SessionContext.session?
    rw [h.sessions]
  refine ⟨h.nextIdentifier, hids ▸ .refl _, fun k hk _ => hkeys ▸ hk, fun id hx => hid ▸ hx, ?_⟩
  intro i s' _ hs' ha
  rw [h.sessions] at hs'
  exact ⟨s', hs', ha, fun _ hk => hk⟩

end Client.SameKeys

/-- The runs have the same keys, but for that of the session of the context. -/
abbrev KeysBut (x : SessionContext) (r r' : Run) : Prop := r.client.SameKeys x r'.client

instance (x : SessionContext) : IsPreorder Run (KeysBut x) where
  refl r := .refl x r.client
  trans _ _ _ h h' := h.trans h'

/-! ## §5. What changes keep. -/

/-- The session has the same server session or none, and unless numbers may be taken from it, it
    stands where it stood, and no transaction of it has become active. -/
structure Session.SameKey (free : Prop) (s s' : Session) : Prop where
  id : ∀ id, s'.id? = some id → s.id? = some id
  key : ¬ free → ∀ k, s'.key? = some k → s.key? = some k
  active : ¬ free → s'.inTransaction = true → s.inTransaction = true

/-- A session that keeps its server session, with its number. -/
theorem Session.SameKey.of_eq {free : Prop} {s s' : Session} (hk : s'.key? = s.key?)
    (ha : ¬ free → s'.inTransaction = true → s.inTransaction = true) :
    Session.SameKey free s s' where
  id id h := by rwa [← s'.map_key?, hk, s.map_key?] at h
  key _ k h := by rwa [hk] at h
  active := ha

theorem Session.id?_advanced (s : Session) : s.advanced.id? = s.id? := by
  obtain ⟨server, _⟩ := s
  cases server <;> rfl

/-- A session that has not ended stands somewhere, and taking a number brings it one further. -/
theorem Session.exists_key? {s : Session} (open_ : s.isEnded = false) :
    ∃ k, s.key? = some k ∧ s.advanced.key? = some ⟨k.session, k.number + 1⟩ := by
  obtain ⟨server, _⟩ := s
  cases server with
  | none => cases open_
  | some v => exact ⟨v.key, rfl, rfl⟩

theorem Session.Change.sameKey {now : Nat} {free : Prop} {s s' : Session}
    (h : Session.Change now free s s') : Session.SameKey free s s' := by
  cases h with
  | held => exact .of_eq rfl fun _ ha => ha
  | touched | soiled =>
    refine .of_eq ?_ fun _ ha => ha
    obtain ⟨server, _⟩ := s
    cases server <;> rfl
  | progressed =>
    -- What goes on after its first command was starting, or it was going on before.
    refine .of_eq rfl fun _ ha => ?_
    unfold Session.markInProgress Transaction.markInProgress Session.inTransaction at ha
    split at ha
    case isTrue hs => simp [Session.inTransaction, Transaction.isActive, hs]
    case isFalse => exact ha
  | marked state hm => exact .of_eq rfl fun hfree ha => absurd (hm ha) hfree
  | advanced ha hf =>
    refine ⟨fun id hid => ?_, fun hfree => absurd hf hfree, fun hfree => absurd hf hfree⟩
    obtain ⟨-, -, rfl⟩ := Session.eq_of_advance ha
    rwa [Session.id?_advanced] at hid
  | started hstart hf =>
    refine ⟨fun id hid => ?_, fun hfree => absurd hf hfree, fun hfree => absurd hf hfree⟩
    obtain ⟨-, rfl⟩ := Session.startTransaction_eq hstart
    rw [← Session.id?_advanced]
    exact hid

namespace Client

variable {x : SessionContext} {c c' : Client}

theorem getElem?_modifySession (c : Client) (id i : SessionId) (f : Session → Session) :
    (c.modifySession id f).sessions[i]? =
      if id = i then c.sessions[i]?.map f else c.sessions[i]? := by
  unfold modifySession
  rw [List.getElem?_modify]
  split
  · rfl
  · exact Option.map_id'

theorem sessions_modifySession {id : SessionId} {s : Session} (hs : c.sessions[id]? = some s)
    (f : Session → Session) : (c.modifySession id f).sessions[id]? = some (f s) := by
  rw [getElem?_modifySession, if_pos rfl, hs, Option.map_some]

/-- Each session was there before, and it is as it was or the one that was changed. -/
theorem exists_of_modifySession {id i : SessionId} {f : Session → Session} {s' : Session}
    (h : (c.modifySession id f).sessions[i]? = some s') :
    ∃ s, c.sessions[i]? = some s ∧ (s' = s ∨ id = i ∧ s' = f s) := by
  rw [getElem?_modifySession] at h
  split at h
  case isTrue hid =>
    obtain ⟨s, hs, rfl⟩ := Option.map_eq_some_iff.mp h
    exact ⟨s, hs, .inr ⟨hid, rfl⟩⟩
  case isFalse => exact ⟨s', h, .inl rfl⟩

theorem sameKeys_modifySession {id : SessionId} {f : Session → Session}
    (h : ∀ s, c.sessions[id]? = some s → Session.SameKey (x.own id) s (f s)) :
    c.SameKeys x (c.modifySession id f) where
  nextIdentifier := rfl
  ids := ((filterMap_modify_sublist fun s hs => (h s hs).id).append_right _).subperm
  keys k hk hx := by
    obtain ⟨i, s', hs', hkey⟩ | hwaits := mem_keys.mp hk
    case inr => exact mem_keys.mpr (.inr hwaits)
    obtain ⟨s, hs, rfl | ⟨rfl, rfl⟩⟩ := exists_of_modifySession hs'
    · exact mem_keys.mpr (.inl ⟨i, s', hs, hkey⟩)
    -- The session of the context has a key that does not matter; any other stands still.
    by_cases hown : x.own id
    · refine absurd ?_ hx
      unfold SessionContext.id? SessionContext.session?
      rw [show x.session = some id from hown, Option.bind_some, hs, Option.bind_some]
      exact (h s hs).id _ (Session.id?_of_key? hkey)
    · exact mem_keys.mpr (.inl ⟨id, s, hs, (h s hs).key hown k hkey⟩)
  own id' hid' := by
    obtain ⟨s', hs', hid⟩ := Option.bind_eq_some_iff.mp hid'
    obtain ⟨i, hi, hsession⟩ := Option.bind_eq_some_iff.mp hs'
    unfold SessionContext.id? SessionContext.session?
    rw [hi, Option.bind_some]
    obtain ⟨s, hs, rfl | ⟨rfl, rfl⟩⟩ := exists_of_modifySession hsession
    · rw [hs, Option.bind_some, hid]
    · rw [hs, Option.bind_some]
      exact (h s hs).id id' hid
  active i s' hx hs' ha := by
    obtain ⟨s, hs, rfl | ⟨rfl, rfl⟩⟩ := exists_of_modifySession hs'
    · exact ⟨s', hs, ha, fun _ hk => hk⟩
    · exact ⟨s, hs, (h s hs).active hx ha, (h s hs).key hx⟩

/-- The server session of a session that ends waits or is forgotten. -/
theorem sameKeys_endSession (x : SessionContext) (c : Client) (id : SessionId) :
    c.SameKeys x (c.endSession id) := by
  unfold endSession
  cases hs : c.sessions[id]? with
  | none => exact .refl x c
  | some s =>
    dsimp only
    cases hv : s.server with
    | none => exact .refl x c
    | some v =>
      dsimp only
      have hend : c.SameKeys x (c.modifySession id fun s => { s with server := none }) :=
        sameKeys_modifySession fun s _ => ⟨nofun, fun _ => nofun, fun _ ha => ha⟩
      have hwaits := ServerSession.Waiting.checkIn_sublist v s.timeout c.now c.waiting
      refine ⟨rfl, ?_, ?_, hend.own, hend.active⟩
      · -- Its identifier goes from the sessions to those that wait, if it does not get lost.
        let left := (c.sessions.modify id fun s => { s with server := none }).filterMap Session.id?
        have hleft : (c.sessions.filterMap Session.id?).Perm (v.id :: left) :=
          filterMap_modify_perm hs (by rw [Session.id?, hv]; rfl) rfl
        have hback : (left ++ (v :: c.waiting).map ServerSession.id).Perm c.ids :=
          List.perm_middle.trans (hleft.symm.append_right _)
        exact ((hwaits.map ServerSession.id).append_left left).subperm.trans hback.subperm
      · intro k hk hx
        obtain hsession | ⟨v', hv', hkey⟩ := mem_keys.mp hk
        · obtain ⟨i, s', hs', hkey⟩ := hsession
          obtain ⟨s₀, hs₀, rfl | ⟨rfl, rfl⟩⟩ := exists_of_modifySession hs'
          · exact mem_keys.mpr (.inl ⟨i, s', hs₀, hkey⟩)
          · cases hkey
        · obtain rfl | hv' := List.mem_cons.mp (hwaits.subset hv')
          · refine mem_keys.mpr (.inl ⟨id, s, hs, ?_⟩)
            rw [Session.key?, hv, Option.map_some, hkey]
          · exact mem_keys.mpr (.inr ⟨v', hv', hkey⟩)

theorem sameKeys_dropSession (x : SessionContext) (c : Client) (id : SessionId) :
    c.SameKeys x (c.dropSession id) := by
  have hlet : c.SameKeys x (c.modifySession id fun s => { s with holders := s.holders - 1 }) :=
    sameKeys_modifySession fun s _ => .of_eq rfl fun _ ha => ha
  unfold dropSession
  dsimp only
  split
  · split
    · exact hlet.trans (sameKeys_endSession x _ id)
    · exact hlet
  · exact hlet

end Client

/-- A session is opened, or there are as many as before. -/
theorem Client.Change.opened_or_stays {may : SessionId → Prop} {c c' : Client}
    (h : Client.Change may c c') :
    (∃ timeout implicit, c' = (c.openSession timeout implicit).2) ∨
      c'.sessions.length = c.sessions.length := by
  cases h with
  | opened timeout implicit => exact .inl ⟨timeout, implicit, rfl⟩
  | described s => exact .inr (congrArg List.length (c.sameSessions_update s).sessions)
  | withdrawn | elapsed | member => exact .inr rfl
  | session => exact .inr (List.length_modify ..)
  | ended id => exact .inr (c.length_endSession id)
  | dropped id => exact .inr (c.length_dropSession id)

/-- A change that opens no session and takes numbers from the session of the context only. -/
theorem Client.Change.sameKeys {x : SessionContext} {c c' : Client}
    (h : Client.Change x.own c c') (length : c'.sessions.length = c.sessions.length) :
    c.SameKeys x c' := by
  cases h with
  | described s => exact .of_same x (c.sameSessions_update s)
  | withdrawn | elapsed | member => exact .of_same x ⟨rfl, rfl, rfl⟩
  | session hs => exact sameKeys_modifySession fun s hmem => (hs s hmem).sameKey
  | ended id => exact sameKeys_endSession x c id
  | dropped id => exact sameKeys_dropSession x c id
  | opened timeout implicit =>
    obtain ⟨v, _, hsessions, -⟩ := c.openSession_cases timeout implicit
    rw [hsessions, List.length_append, List.length_singleton] at length
    omega

/-! ## §6. What operations keep. -/

/-- Operations on a binding move no counter but that of their own session. -/
theorem upholds_keys (x : SessionContext) :
    Upholds x.own (KeysBut x) (fun _ => KeysBut x) (fun _ => KeysBut x) where
  elsewhere {r r'} h := by
    show r.client.SameKeys x r'.client
    rw [h]
    exact .refl x r.client
  aside hc _ length := hc.sameKeys length
  happen h r := .of_same x (happen_quiet h r).toSameSessions
  broke _ _ _ := .of_same x ⟨rfl, rfl, rfl⟩
  leasing := .constant fun id r => .of_same x (release_quiet id r).toSameSessions
  lending := .constant fun lease r => .of_same x (checkIn_quiet lease r).toSameSessions
  conclude criteria s := .of_keeps fun r =>
    .of_same x ((selecting_quiet.conclude criteria s).keeps r).toSameSessions
  checkOut id := .of_keeps fun r => .of_same x (checkOut_quiet id r).toSameSessions

theorem execute_sameKeys (b : Binding) (operation : Operation) (r : Run) :
    r.client.SameKeys b.context ((operation.execute b).on r).2.client :=
  (upholds_keys b.context).execute b operation (fun _ _ hid => hid) r

end ClusterClient
