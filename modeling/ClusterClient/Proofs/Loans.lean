/-
  ClusterClient.Proofs.Loans — connections that are lent, and what an execution leaves behind.

  The books of a pool are the connections that are lent, in the order in which they were, their
  number, and how many more connections went out than came in.  Lending enters a connection and
  taking it back strikes it out; between the two, sending leaves the books alone.  So an execution
  ends with the books with which it began, and with the same operations in flight.

  Main statements: `sustains_books` and `Scenario.Reachable.settles`.
-/
import ClusterClient.Proofs.History
import ClusterClient.Proofs.Leases

namespace ClusterClient

open Run

/-! ## §1. Books. -/

/-- What a pool owes. -/
structure Books where
  /-- The numbers of the connections that are lent, the one lent last first. -/
  lent : List Nat
  checkedOut : Nat
  /-- How many more check-outs than check-ins there were. -/
  outstanding : Int

namespace Books

/-- Nothing was lent. -/
def clear : Books := ⟨[], 0, 0⟩

/-- One more connection is lent. -/
def enter (b : Books) (connection : Nat) : Books :=
  ⟨connection :: b.lent, b.checkedOut + 1, b.outstanding + 1⟩

end Books

def Pool.books (p : Pool) : Books :=
  ⟨p.leased.map (·.description.id), p.checkedOut, p.totalCheckOuts - p.totalCheckIns⟩

namespace Pool

/-- A check-out that fails leaves the books alone, and one that does not enters the connection. -/
theorem books_checkOut (establish : Establish) (p : Pool) :
    match (p.checkOut establish).result with
    | .error _ => (p.checkOut establish).pool.books = p.books
    | .ok c => (p.checkOut establish).pool.books = p.books.enter c.id := by
  have lend : ∀ (q : Pool) (c : ConnectionDescription), q.books = p.books →
      (q.lend c).books = p.books.enter c.id := by
    intro q c hq
    rw [← hq]
    simp only [books, Pool.lend, Books.enter, List.map_cons]
    congr 1
    omega
  unfold checkOut
  cases p.permits with
  | zero => rfl
  | succ rest =>
    cases p.idle with
    | cons c waiting => exact lend _ _ rfl
    | nil =>
      dsimp only
      cases establish p.nextId with
      | error e => rfl
      | ok c => exact lend _ _ rfl

/-- The network may fail under connections that are lent; they stay lent. -/
theorem books_markBroken (p : Pool) (id : Nat) : (p.markBroken id).books = p.books := by
  have hids : (p.markBroken id).leased.map (·.description.id) =
      p.leased.map (·.description.id) := by
    show (p.leased.map _).map _ = _
    rw [List.map_map]
    refine List.map_congr_left fun c _ => ?_
    show (if c.description.id = id then { c with broken := true } else c).description.id = _
    split <;> rfl
  exact congrArg (Books.mk · _ _) hids

/-- The connection that was lent last is struck out again. -/
theorem books_checkIn {p : Pool} {b : Books} {id : Nat} (h : p.books = b.enter id) :
    (p.checkIn id).books = b := by
  obtain ⟨lent, checkedOut, outstanding⟩ := b
  obtain ⟨hlent, hout, hmore⟩ : p.leased.map (·.description.id) = id :: lent ∧
      p.checkedOut = checkedOut + 1 ∧
      (p.totalCheckOuts - p.totalCheckIns : Int) = outstanding + 1 := by
    simpa [books, Books.enter] using h
  cases hleased : p.leased with
  | nil =>
    rw [hleased] at hlent
    cases hlent
  | cons c rest =>
    rw [hleased, List.map_cons, List.cons.injEq] at hlent
    obtain ⟨hid, hrest⟩ := hlent
    have hfound : p.lent? id = some c := by
      rw [lent?, hleased, List.find?_cons_of_pos (by simpa using hid)]
    have herase : p.leased.eraseP (fun c => c.description.id = id) = rest := by
      rw [hleased, List.eraseP_cons_of_pos (by simpa using hid)]
    have hbooks : (p.checkIn id).books = ⟨rest.map (·.description.id), p.checkedOut - 1,
        p.totalCheckOuts - (p.totalCheckIns + 1 : Nat)⟩ := by
      unfold checkIn
      rw [hfound]
      dsimp only
      rw [herase]
      split <;> rfl
    rw [hbooks, hrest, hout]
    congr 1
    omega

end Pool

/-! ## §2. Loans. -/

/-- The books of the pools of all members. -/
abbrev Client.books (c : Client) : MemberId → Books := c.column (·.pool.books) .clear

/-- The same connections are lent, and as many more went out than came in. -/
abbrev SameBooks : Run → Run → Prop := Steady (·.pool.books) .clear

/-- One more connection of a member is lent. -/
def Lent (lease : Lease) (r r' : Run) : Prop :=
  r.client.Sound → r'.client.Sound ∧ r'.client.books =
    Function.update r.client.books lease.member
      ((r.client.books lease.member).enter lease.description.id)

/-- A member whose pool has lent a connection exists. -/
theorem Client.exists_of_books {c : Client} {id : MemberId} {b : Books} {connection : Nat}
    (h : c.books id = b.enter connection) :
    ∃ m, c.members[id]? = some m ∧ m.pool.books = b.enter connection := by
  cases hm : c.members[id]? with
  | none =>
    have hclear : c.books id = .clear := by
      show (c.members[id]?.map _).getD Books.clear = _
      rw [hm]
      rfl
    rw [hclear] at h
    cases h
  | some m => exact ⟨m, rfl, (column_of_mem hm).symm.trans h⟩

/-- Taking a connection back changes nothing but the pool. -/
theorem checkIn_client {lease : Lease} {r : Run} {m : Member}
    (hm : r.client.members[lease.member]? = some m) :
    ((checkIn lease).on r).2.client =
      r.client.modifyMember lease.member fun m =>
        { m with pool := m.pool.checkIn lease.description.id } := by
  simp only [checkIn, Act.on_bind, Act.on_get, hm, on_emit, on_onClient, Act.on_ite]
  split <;> rfl

/-- What is lent is entered in the books and struck out again. -/
theorem lending_lent : Lending SameBooks Lent checkIn where
  before {lease r r₁ r₂} h h' hs := by
    obtain ⟨hs₁, h₁⟩ := h hs
    obtain ⟨hs₂, h₂⟩ := h' hs₁
    have hsame : r₁.client.books = r.client.books := h₁
    refine ⟨hs₂, ?_⟩
    rw [h₂, hsame]
  after h h' hs := by
    obtain ⟨hs₁, h₁⟩ := h hs
    obtain ⟨hs₂, h₂⟩ := h' hs₁
    exact ⟨hs₂, h₂.trans h₁⟩
  back {lease r r₁} h hs := by
    obtain ⟨hs₁, h₁⟩ := h hs
    have hentered : r₁.client.books lease.member =
        (r.client.books lease.member).enter lease.description.id := by
      rw [h₁, Function.update_self]
    obtain ⟨m, hm, hbooks⟩ := Client.exists_of_books hentered
    rw [checkIn_client hm]
    refine ⟨hs₁.modifyMember fun _ _ => rfl, ?_⟩
    have hstruck : (m.pool.checkIn lease.description.id).books = r.client.books lease.member :=
      Pool.books_checkIn hbooks
    rw [Client.column_modifyMember _ hm, hstruck]
    show Function.update r₁.client.books lease.member _ = _
    rw [h₁, Function.update_idem, Function.update_eq_self]

theorem checkOut_lends (id : MemberId) : (checkOut id).Lends SameBooks Lent := by
  have happened : ∀ happenings, (happenAll happenings).Keeps SameBooks :=
    .happenAll (Steady.happen fun _ _ => rfl)
  refine .after lending_lent (.lift fun _ => Steady.of_client_eq rfl) fun _ =>
    .after lending_lent (.lift (happened _)) fun _ => ?_
  intro r
  rw [Exec.on_bind, Exec.on_get]
  dsimp only
  cases hm : r.client.members[id]? with
  | none => exact refl_of SameBooks r
  | some m =>
    have hbooks := m.pool.books_checkOut (r.deployment.establish m.pool.address)
    dsimp only
    generalize m.pool.checkOut (r.deployment.establish m.pool.address) = went at hbooks ⊢
    rw [Exec.on_bind, Exec.on_lift]
    dsimp only
    rw [Exec.on_bind, on_settle]
    cases hwent : went.result with
    | error e =>
      rw [hwent] at hbooks
      -- The number of the connection that could not be opened does not show.
      refine Steady.modifyMember fun m' hm' => ?_
      rw [hm] at hm'
      cases hm'
      exact ⟨rfl, hbooks⟩
    | ok c =>
      rw [hwent] at hbooks
      have hlent : Lent ⟨id, c⟩ r { r with
          client := r.client.modifyMember id fun m => { m with pool := went.pool } } := by
        intro hs
        refine ⟨hs.modifyMember fun _ _ => rfl, ?_⟩
        have hold : r.client.books id = m.pool.books := Client.column_of_mem hm
        show (r.client.modifyMember id _).column _ _ =
          Function.update r.client.books id ((r.client.books id).enter c.id)
        rw [hold, ← hbooks]
        exact Client.column_modifyMember _ hm
      cases went.opened with
      | true => exact lending_lent.after hlent (Steady.of_client_eq rfl)
      | false => exact lending_lent.after hlent (Steady.of_client_eq rfl)

/-- Whatever the client does, it takes back the connections that it lends. -/
theorem sustains_books : Sustains anywhere SameBooks (fun _ => SameBooks) Lent where
  elsewhere := Steady.of_client_eq
  aside _ h _ := .of_sameServers h
  happen := .happen fun _ _ => rfl
  broke _ connection _ := Steady.modifyMember fun m _ => ⟨rfl, m.pool.books_markBroken connection⟩
  leasing := .constant fun _ _ => Steady.modifyMember fun _ _ => ⟨rfl, rfl⟩
  lending := lending_lent
  conclude criteria s := .of_keeps (.conclude (fun _ _ => Steady.of_client_eq rfl)
    (fun _ _ => Steady.modifyMember fun _ _ => ⟨rfl, rfl⟩) criteria s)
  checkOut := checkOut_lends
  opened r timeout implicit :=
    .of_sameServers (r.client.sameServers_openSession timeout implicit)

/-! ## §3. Executions. -/

/-- A member stays in the table, at its address. -/
theorem Client.Change.stays {may : SessionId → Prop} {c c' : Client} (h : Client.Change may c c')
    {id : MemberId} {m : Member} (hm : c.members[id]? = some m) :
    ∃ m', c'.members[id]? = some m' ∧ m'.address = m.address := by
  have same : ∀ {c' : Client}, c'.members = c.members →
      ∃ m', c'.members[id]? = some m' ∧ m'.address = m.address := by
    intro c' hmembers
    exact ⟨m, hmembers ▸ hm, rfl⟩
  cases h with
  | described s => exact ⟨m, Client.getElem?_update hm s, rfl⟩
  | withdrawn | elapsed | session | opened => exact same rfl
  | ended id => exact same (c.sameServers_endSession id).members
  | dropped id => exact same (c.sameServers_dropSession id).members
  | @member id' f hf =>
    show ∃ m', (c.members.modify id' f)[id]? = some m' ∧ _
    rw [List.getElem?_modify, hm]
    by_cases hid : id' = id
    · subst hid
      exact ⟨f m, by simp, (hf m hm).address⟩
    · exact ⟨m, by simp [hid], rfl⟩

theorem Evolves.stays {may : SessionId → Prop} {r r' : Run} (h : Evolves may r r') {id : MemberId}
    {m : Member} (hm : r.client.members[id]? = some m) :
    ∃ m', r'.client.members[id]? = some m' ∧ m'.address = m.address := by
  refine h.invariant (P := fun c => ∃ m', c.members[id]? = some m' ∧ m'.address = m.address) ?_
    ⟨m, hm, rfl⟩
  rintro c c' hchange ⟨m₁, hm₁, haddress⟩
  obtain ⟨m₂, hm₂, haddress₂⟩ := hchange.stays hm₁
  exact ⟨m₂, hm₂, haddress₂.trans haddress⟩

/-- Nothing is left behind: each server that was there has as many operations in flight and as many
    connections lent as before, those that were made on the way have none, and on every pool as
    many connections came in as went out. -/
structure Client.Settled (c c' : Client) : Prop where
  old : ∀ (id : MemberId) (m : Member), c.members[id]? = some m →
    ∃ m' : Member, c'.members[id]? = some m' ∧ m'.address = m.address ∧
      m'.operations = m.operations ∧ m'.pool.checkedOut = m.pool.checkedOut ∧
      m'.pool.totalCheckOuts + m.pool.totalCheckIns =
        m.pool.totalCheckOuts + m'.pool.totalCheckIns
  new : ∀ (id : MemberId) (m' : Member), c.members[id]? = none → c'.members[id]? = some m' →
    m'.operations = 0 ∧ m'.pool.checkedOut = 0 ∧ m'.pool.totalCheckOuts = m'.pool.totalCheckIns

/-- What is made of changes and keeps both columns leaves nothing behind. -/
theorem settled_of {may : SessionId → Prop} {r r' : Run} (hs : r.client.Sound)
    (hevolves : Evolves may r r') (hoperations : SameOperations r r') (hbooks : SameBooks r r') :
    r.client.Settled r'.client := by
  have hcount : r'.client.operations = r.client.operations := (hoperations hs).2
  have hpools : r'.client.books = r.client.books := (hbooks hs).2
  constructor
  · intro id m hm
    obtain ⟨m', hm', haddress⟩ := hevolves.stays hm
    have hoperation : m'.operations = m.operations := by
      have hid := congrFun hcount id
      rwa [Client.operations, Client.operations, Client.column_of_mem hm',
        Client.column_of_mem hm] at hid
    have hpool : m'.pool.books = m.pool.books := by
      have hid := congrFun hpools id
      rwa [Client.books, Client.books, Client.column_of_mem hm', Client.column_of_mem hm] at hid
    obtain ⟨-, hout, hmore⟩ := Books.mk.inj hpool
    exact ⟨m', hm', haddress, hoperation, hout, by omega⟩
  · intro id m' hm hm'
    have hoperation : m'.operations = 0 := by
      have hid := congrFun hcount id
      rwa [Client.operations, Client.operations, Client.column_of_mem hm', Client.column, hm] at hid
    have hpool : m'.pool.books = .clear := by
      have hid := congrFun hpools id
      rwa [Client.books, Client.books, Client.column_of_mem hm', Client.column, hm] at hid
    obtain ⟨-, hout, hmore⟩ := Books.mk.inj hpool
    exact ⟨hoperation, hout, by omega⟩

/-- No lease is lost, whatever comes of an execution.  Wherever a client has got to, an operation
    that is executed for a caller or on a binding leaves nothing behind.  Between the steps of a
    caller the operations in flight on a server are the sources that are kept of it.  A source that
    is leased is counted as one more until it is given back, and giving back always finds it
    counted. -/
theorem Scenario.Reachable.settles {s : Scenario} (h : s.Reachable) :
    (∀ (operation : Operation) (preference : ReadPreference) (session : Option SessionId),
      s.run.client.Settled ((perform operation preference session).on s.run).2.client) ∧
    (∀ (operation : Operation) (b : Binding),
      s.run.client.Settled ((operation.execute b).on s.run).2.client) ∧
    (∀ id, s.run.client.operations id = s.live id) ∧
    (∀ (b : Binding) (intent : Intent) (source : Source) (r r' : Run),
      (b.source intent).on s.run = (.ok source, r) → SameOperations r r' →
      (∀ id, r'.client.operations id =
        s.live id + if source.selected.member = id then 1 else 0) ∧
      (source.release.on r').2.client.operations = s.run.client.operations) ∧
    (∀ (name : String) (source : Source), s.sources.lookup name = some source →
      0 < s.run.client.operations source.selected.member ∧
      (source.release.on s.run).2.client.operations =
        Function.update s.run.client.operations source.selected.member
          (s.run.client.operations source.selected.member - 1)) := by
  have hs := h.sound
  have hc := h.counted
  refine ⟨fun operation preference session => ?_, fun operation b => ?_, hc.count, ?_, ?_⟩
  · exact settled_of hs
      ((sustains_evolves anywhere).perform operation preference session (fun _ _ => trivial) s.run)
      (sustains_operations.perform operation preference session (fun _ _ => trivial) s.run)
      (sustains_books.perform operation preference session (fun _ _ => trivial) s.run)
  · exact settled_of hs
      ((sustains_evolves anywhere).execute b operation (fun _ _ _ => trivial) s.run)
      (sustains_operations.execute b operation (fun _ _ _ => trivial) s.run)
      (sustains_books.execute b operation (fun _ _ _ => trivial) s.run)
  · intro b intent source r r' hsource hsame
    have hleased : Leased source.selected.member s.run r := by
      have hlends := sustains_operations.source b intent s.run
      rwa [hsource] at hlends
    have hafter := lending_leased.after hleased hsame
    exact ⟨hc.leased hs hafter, (sustains_operations.release source hafter hs).2⟩
  · intro name source hkept
    exact ⟨hc.pos hkept, operations_releaseSource source (hc.pos hkept)⟩

namespace Lone

/-- The scenario in which a caller keeps a source of the primary. -/
def leased : Scenario :=
  .after client [.update primary, .bind .primary none "b", .source "b" .write "s"]

theorem reachable_leased : leased.Reachable := .after (o := options) rfl _

end Lone

/-- While the source is kept, one operation is in flight, and an insert leaves it at that. -/
theorem settles_lone :
    Lone.leased.run.client.operations 0 = 1 ∧
      Lone.leased.run.client.Settled
        ((perform Lone.insert .primary none).on Lone.leased.run).2.client := by
  have hsettles := Lone.reachable_leased.settles
  exact ⟨(hsettles.2.2.1 0).trans (by decide +kernel), hsettles.1 Lone.insert .primary none⟩

end ClusterClient
