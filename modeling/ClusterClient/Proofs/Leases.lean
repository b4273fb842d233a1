/-
  ClusterClient.Proofs.Leases — operations in flight.

  Each member counts the operations that lease it.  The count goes up when a server is selected or
  a source is leased once more, and down when a lease is given back.  Nothing else moves it, and
  all that an action of the client leases it gives back.  Only the steps of a scenario that keep
  sources leave leases behind them, so between steps the count of a member is the number of the
  sources that are kept of it.

  What a member shows is a *column* of the table of members, where members that are not made yet
  show what a new one does.  So a server that becomes known on the way changes no column.

  Main statements: `sustains_operations` and `Scenario.Reachable.operations_eq`.
-/
import ClusterClient.Proofs.Servers
import Mathlib.Logic.Function.Basic

namespace ClusterClient

open Run

variable {γ : Type}

/-! ## §1. Columns of the table of members. -/

namespace Client

/-- What the members show; `absent` stands for members that are not made yet. -/
def column (view : Member → γ) (absent : γ) (c : Client) (id : MemberId) : γ :=
  (c.members[id]?.map view).getD absent

variable {view : Member → γ} {absent : γ}

theorem column_of_mem {c : Client} {id : MemberId} {m : Member} (h : c.members[id]? = some m) :
    c.column view absent id = view m := by
  rw [column, h]
  rfl

theorem column_of_members {c c' : Client} (h : c'.members = c.members) :
    c'.column view absent = c.column view absent := by
  funext id
  rw [column, column, h]

/-- A change of one member. -/
theorem column_modifyMember {c : Client} {id : MemberId} (f : Member → Member) {m : Member}
    (h : c.members[id]? = some m) : (c.modifyMember id f).column view absent =
      Function.update (c.column view absent) id (view (f m)) := by
  funext id'
  show ((c.members.modify id f)[id']?.map view).getD absent = _
  by_cases hid : id' = id
  · subst hid
    rw [Function.update_self, List.getElem?_modify, h]
    simp
  · rw [Function.update_of_ne hid, List.getElem?_modify]
    simp [column, Ne.symm hid]

/-- A change that does not show. -/
theorem column_modifyMember_of_same {c : Client} {id : MemberId} {f : Member → Member}
    (h : ∀ m, c.members[id]? = some m → view (f m) = view m) :
    (c.modifyMember id f).column view absent = c.column view absent := by
  cases hm : c.members[id]? with
  | none =>
    refine column_of_members ?_
    exact List.modify_eq_self (List.getElem?_eq_none_iff.mp hm)
  | some m =>
    have hview : view (f m) = c.column view absent id := (h m hm).trans (column_of_mem hm).symm
    rw [column_modifyMember f hm, hview, Function.update_eq_self]

/-- A member that is made shows nothing yet. -/
theorem column_ensureMember (hnew : ∀ o a, view (newMember o a) = absent) (c : Client)
    (a : Address) : (c.ensureMember a).column view absent = c.column view absent := by
  unfold ensureMember
  cases c.known.value? a with
  | some id => rfl
  | none =>
    funext id
    show ((c.members ++ [newMember c.options a])[id]?.map view).getD absent = _
    by_cases hid : id < c.members.length
    · rw [List.getElem?_append_left hid]
      rfl
    · have hle : c.members.length ≤ id := Nat.le_of_not_lt hid
      rw [column, List.getElem?_eq_none_iff.mpr hle, List.getElem?_append_right hle]
      cases id - c.members.length with
      | zero => simp [hnew]
      | succ n => simp

end Client

/-- The two tables of servers agree still, and the members show what they showed. -/
def Steady (view : Member → γ) (absent : γ) (r r' : Run) : Prop :=
  r.client.Sound →
    r'.client.Sound ∧ r'.client.column view absent = r.client.column view absent

instance (view : Member → γ) (absent : γ) : IsPreorder Run (Steady view absent) where
  refl _ h := ⟨h, rfl⟩
  trans _ _ _ h h' hs := ⟨(h' (h hs).1).1, (h' (h hs).1).2.trans (h hs).2⟩

namespace Steady

variable {view : Member → γ} {absent : γ}

theorem of_client_eq {r r' : Run} (h : r'.client = r.client) : Steady view absent r r' := by
  intro hs
  rw [h]
  exact ⟨hs, rfl⟩

theorem of_sameServers {r : Run} {c : Client} (h : r.client.SameServers c) :
    Steady view absent r { r with client := c } :=
  fun hs => ⟨hs.of_sameServers h, Client.column_of_members h.members⟩

theorem happen (hnew : ∀ o a, view (Client.newMember o a) = absent) (h : Happening) :
    (happen h).Keeps (Steady view absent) := by
  intro r
  cases h with
  | described s => exact fun hs => ⟨hs.update s, Client.column_ensureMember hnew _ _⟩
  | withdrawn a => exact fun hs => ⟨hs.remove a, rfl⟩
  | elapsed n => exact of_sameServers ⟨rfl, rfl, rfl⟩
  | unreachable a e | reachable a => exact of_client_eq rfl

/-- A change of a member that does not show. -/
theorem modifyMember {id : MemberId} {f : Member → Member} {r : Run}
    (hf : ∀ m, r.client.members[id]? = some m → (f m).address = m.address ∧ view (f m) = view m) :
    Steady view absent r { r with client := r.client.modifyMember id f } :=
  fun hs => ⟨hs.modifyMember fun m hm => (hf m hm).1,
    Client.column_modifyMember_of_same fun m hm => (hf m hm).2⟩

end Steady

/-! ## §2. Leases. -/

/-- The operations in flight on each member. -/
abbrev Client.operations (c : Client) : MemberId → Nat := c.column (·.operations) 0

/-- The same operations are in flight. -/
abbrev SameOperations : Run → Run → Prop := Steady (·.operations) 0

/-- One more operation is in flight on a member. -/
def Leased (id : MemberId) (r r' : Run) : Prop :=
  r.client.Sound → r'.client.Sound ∧
    r'.client.operations = Function.update r.client.operations id (r.client.operations id + 1)

/-- A member on which operations are in flight exists. -/
theorem Client.exists_of_operations {c : Client} {id : MemberId} (h : 0 < c.operations id) :
    ∃ m, c.members[id]? = some m ∧ m.operations = c.operations id := by
  cases hm : c.members[id]? with
  | none =>
    have hzero : c.operations id = 0 := by
      show (c.members[id]?.map _).getD 0 = 0
      rw [hm]
      rfl
    omega
  | some m => exact ⟨m, rfl, (column_of_mem hm).symm⟩

/-- A lease counts one operation more on the member, and changes no other count. -/
theorem Client.operations_lease {c : Client} {id : MemberId} {m : Member}
    (h : c.members[id]? = some m) :
    (c.lease id).operations = Function.update c.operations id (c.operations id + 1) := by
  have hcount : c.operations id = m.operations := column_of_mem h
  rw [hcount]
  exact column_modifyMember _ h

/-- A lease of a member that exists. -/
theorem leased_lease {r : Run} {id : MemberId} {m : Member}
    (h : r.client.members[id]? = some m) :
    Leased id r { r with client := r.client.lease id } :=
  fun hs => ⟨hs.modifyMember fun _ _ => rfl, Client.operations_lease h⟩

/-- What is given back was counted: the count is not zero, and it goes down by one. -/
theorem operations_release {r : Run} {id : MemberId} (h : 0 < r.client.operations id) :
    ((release id).on r).2.client.operations =
      Function.update r.client.operations id (r.client.operations id - 1) := by
  obtain ⟨m, hm, hcount⟩ := Client.exists_of_operations h
  rw [← hcount]
  exact Client.column_modifyMember _ hm

/-- The same for a source, which lets go of its session as well. -/
theorem operations_releaseSource {r : Run} (source : Source)
    (h : 0 < r.client.operations source.selected.member) :
    (source.release.on r).2.client.operations =
      Function.update r.client.operations source.selected.member
        (r.client.operations source.selected.member - 1) := by
  rw [← operations_release h]
  refine Client.column_of_members ?_
  obtain ⟨selected, _ | session, _⟩ := source
  · rfl
  · exact (Client.sameServers_dropSession _ session).members

/-- Leases are counted and given back. -/
theorem lending_leased : Lending SameOperations Leased release where
  before {id r r₁ r₂} h h' hs := by
    obtain ⟨hs₁, h₁⟩ := h hs
    obtain ⟨hs₂, h₂⟩ := h' hs₁
    have hsame : r₁.client.operations = r.client.operations := h₁
    refine ⟨hs₂, ?_⟩
    rw [h₂, hsame]
  after h h' hs := by
    obtain ⟨hs₁, h₁⟩ := h hs
    obtain ⟨hs₂, h₂⟩ := h' hs₁
    exact ⟨hs₂, h₂.trans h₁⟩
  back {id r r₁} h hs := by
    obtain ⟨hs₁, h₁⟩ := h hs
    refine ⟨hs₁.modifyMember fun _ _ => rfl, ?_⟩
    have hcount : r₁.client.operations id = r.client.operations id + 1 := by
      rw [h₁, Function.update_self]
    show ((release id).on r₁).2.client.operations = _
    rw [operations_release (by omega), hcount, h₁, Function.update_idem, Nat.add_sub_cancel,
      Function.update_eq_self]

theorem conclude_lends (criteria : Criteria) (s : Search) :
    (conclude criteria s).Lends SameOperations fun selected => Leased selected.member := by
  intro r
  have told : ∀ events, SameOperations r { r with events := events } :=
    fun _ => Steady.of_client_eq rfl
  cases s with
  | examining | undecided _ _ | waiting _ => exact refl_of SameOperations r
  | failed cluster => exact told _
  | found s =>
    unfold conclude
    rw [Exec.on_bind, Exec.on_lift, on_currentClient]
    dsimp only
    cases hid : r.client.known.value? s.address with
    | none => exact refl_of SameOperations r
    | some id =>
      -- What the table of members finds is a member.
      intro hs
      obtain ⟨m, hm, -⟩ := hs.member s.address id hid
      exact leased_lease hm hs

/-- Lending connections does not count as an operation. -/
theorem checkOut_operations (id : MemberId) : (checkOut id).Keeps SameOperations :=
  .checkOut (fun _ _ => Steady.of_client_eq rfl) (fun _ => Steady.of_client_eq rfl)
    (Steady.happen fun _ _ => rfl) fun _ _ _ => Steady.modifyMember fun _ _ => ⟨rfl, rfl⟩

theorem checkIn_operations (lease : Lease) : (checkIn lease).Keeps SameOperations :=
  .checkIn (fun _ _ => Steady.of_client_eq rfl) fun _ => Steady.modifyMember fun _ _ => ⟨rfl, rfl⟩

/-- Whatever the client does, it gives back what it leases. -/
theorem sustains_operations :
    Sustains anywhere SameOperations Leased fun _ => SameOperations where
  elsewhere := Steady.of_client_eq
  aside _ h _ := .of_sameServers h
  happen := .happen fun _ _ => rfl
  broke _ _ _ := Steady.modifyMember fun _ _ => ⟨rfl, rfl⟩
  leasing := lending_leased
  lending := .constant checkIn_operations
  conclude := conclude_lends
  checkOut id := .of_keeps (checkOut_operations id)
  opened r timeout implicit :=
    .of_sameServers (r.client.sameServers_openSession timeout implicit)

/-! ## §3. Sources that are kept. -/

namespace Scenario

/-- How many of the sources that are kept are of a member. -/
def live (s : Scenario) (id : MemberId) : Nat :=
  s.sources.countP fun e => e.2.selected.member == id

/-- No two sources are kept under the same name, and the operations in flight on a member are the
    sources that are kept of it. -/
structure Counted (s : Scenario) : Prop where
  names : (s.sources.map (·.1)).Nodup
  count : ∀ id, s.run.client.operations id = s.live id

end Scenario

variable {α : Type}

/-- Dropping a name leaves each name once. -/
theorem Named.nodup_drop {m : Named α} (h : (m.map (·.1)).Nodup) (name : String) :
    ((m.drop name).map (·.1)).Nodup :=
  h.sublist (List.filter_sublist.map _)

theorem Named.notMem_drop (m : Named α) (name : String) : name ∉ (m.drop name).map (·.1) := by
  simp [Named.drop]

theorem Named.nodup_put {m : Named α} (h : (m.map (·.1)).Nodup) (name : String) (a : α) :
    ((m.put name a).map (·.1)).Nodup :=
  List.nodup_cons.mpr ⟨m.notMem_drop name, Named.nodup_drop h name⟩

/-- What is dropped is what is found under the name. -/
theorem Named.countP_drop {m : Named α} (h : (m.map (·.1)).Nodup) (name : String)
    (p : α → Bool) : m.countP (fun e => p e.2) =
      (m.drop name).countP (fun e => p e.2) + if (m.lookup name).any p then 1 else 0 := by
  induction m with
  | nil => rfl
  | cons e rest ih =>
    obtain ⟨key, a⟩ := e
    rw [List.map_cons, List.nodup_cons] at h
    by_cases hkey : key = name
    -- The first entry is the one that is found, and the only one.
    · subst hkey
      have hrest : Named.drop rest key = rest := by
        refine List.filter_eq_self.mpr fun e he => ?_
        rw [bne_iff_ne]
        rintro rfl
        exact h.1 (List.mem_map.mpr ⟨e, he, rfl⟩)
      have hdrop : Named.drop ((key, a) :: rest) key = rest := by
        rw [Named.drop, List.filter_cons_of_neg (by simp)]
        exact hrest
      rw [hdrop, List.countP_cons, List.lookup_cons_self]
      rfl
    · have hdrop : Named.drop ((key, a) :: rest) name = (key, a) :: Named.drop rest name := by
        rw [Named.drop, List.filter_cons_of_pos (by simpa using hkey)]
        rfl
      have hlookup : List.lookup name ((key, a) :: rest) = rest.lookup name := by
        rw [List.lookup_cons, beq_false_of_ne (Ne.symm hkey)]
      rw [hdrop, hlookup, List.countP_cons, List.countP_cons, ih h.2]
      omega

namespace Scenario

/-- Keeping one more source that is counted already, and giving back the one that was kept under
    its name. -/
theorem counted_keeping {s : Scenario} {name : String} {source : Source}
    (hnames : (s.sources.map (·.1)).Nodup)
    (hcount : ∀ id, s.run.client.operations id =
      s.live id + if source.selected.member = id then 1 else 0) :
    (s.keeping name source).Counted where
  names := Named.nodup_put hnames name source
  count id := by
    have hput : (s.keeping name source).live id =
        (s.sources.drop name).countP (fun e => e.2.selected.member == id) +
          if source.selected.member = id then 1 else 0 := by
      show List.countP _ ((name, source) :: s.sources.drop name) = _
      rw [List.countP_cons]
      simp
    have hlive : ∀ id, s.run.client.operations id =
        (s.sources.drop name).countP (fun e => e.2.selected.member == id) +
          (if (s.sources.lookup name).any (·.selected.member == id) then 1 else 0) +
          if source.selected.member = id then 1 else 0 := by
      intro id
      rw [hcount id, live, Named.countP_drop hnames name fun kept => kept.selected.member == id]
    rw [hput]
    unfold keeping
    cases hold : s.sources.lookup name with
    | none =>
      rw [hold] at hlive
      exact hlive id
    | some old =>
      rw [hold] at hlive
      have hpos : 0 < s.run.client.operations old.selected.member := by
        rw [hlive]
        simp only [Option.any_some, beq_self_eq_true, if_pos]
        omega
      show (old.release.on s.run).2.client.operations id = _
      rw [operations_releaseSource old hpos]
      by_cases hid : id = old.selected.member
      · subst hid
        rw [Function.update_self, hlive]
        simp only [Option.any_some, beq_self_eq_true, if_pos]
        omega
      · rw [Function.update_of_ne hid, hlive]
        simp [Ne.symm hid]

/-- A scenario in which the operations and the sources have not changed. -/
theorem Counted.of_beside {s s' : Scenario} (hs : s.run.client.Sound) (hc : s.Counted)
    (h : Beside SameOperations s s') : s'.Counted where
  names := by
    rw [h.2]
    exact hc.names
  count id := by
    have hsame : s'.run.client.operations = s.run.client.operations := (h.1 hs).2
    rw [hsame, hc.count id, live, live, h.2]

/-- A source that is kept is counted. -/
theorem Counted.pos {s : Scenario} (hc : s.Counted) {name : String} {source : Source}
    (h : s.sources.lookup name = some source) :
    0 < s.run.client.operations source.selected.member := by
  rw [hc.count, live, Named.countP_drop hc.names name fun kept =>
    kept.selected.member == source.selected.member, h]
  simp only [Option.any_some, beq_self_eq_true, if_pos]
  omega

/-- After a lease, and with nothing kept yet, one operation is in flight that no source tells of. -/
theorem Counted.leased {s : Scenario} (hs : s.run.client.Sound) (hc : s.Counted) {id : MemberId}
    {r : Run} (h : Leased id s.run r) (id' : MemberId) :
    r.client.operations id' = s.live id' + if id = id' then 1 else 0 := by
  rw [(h hs).2]
  by_cases hid : id' = id
  · subst hid
    rw [Function.update_self, hc.count, if_pos rfl]
  · rw [Function.update_of_ne hid, hc.count, if_neg (Ne.symm hid)]
    rfl

theorem retain_leases {r : Run} (source : Source)
    (h : 0 < r.client.operations source.selected.member) :
    Leased source.selected.member r (source.retain.on r).2 := by
  obtain ⟨m, hm, -⟩ := Client.exists_of_operations h
  have hheld := sustains_operations.hold source.context
    { r with client := r.client.lease source.selected.member }
  exact lending_leased.after (leased_lease hm) hheld

/-- A step keeps the count: what it leases beyond its end it keeps as a source. -/
theorem Counted.step {s : Scenario} (hs : s.run.client.Sound) (hc : s.Counted) (what : Step) :
    ((Scenario.step what).run s).2.Counted := by
  cases hm : what.moves with
  | false =>
    exact hc.of_beside hs (step_beside sustains_operations what (fun _ _ => trivial) hm s)
  | true =>
    cases what with
    | source binding intent name =>
      rw [run_step_source]
      cases s.bindings.lookup binding with
      | none => exact hc
      | some b =>
        have hlends := sustains_operations.source b intent s.run
        dsimp only
        generalize (b.source intent).on s.run = went at hlends ⊢
        obtain ⟨e | source, r⟩ := went
        · exact hc.of_beside hs ⟨hlends, rfl⟩
        · exact counted_keeping (s := { s with run := r }) hc.names (hc.leased hs hlends)
    | retain source name =>
      rw [run_step_retain]
      cases hkept : s.sources.lookup source with
      | none => exact hc
      | some kept =>
        exact counted_keeping (s := { s with run := (kept.retain.on s.run).2 }) hc.names
          (hc.leased hs (retain_leases kept (hc.pos hkept)))
    | release source =>
      rw [run_step_release]
      cases hkept : s.sources.lookup source with
      | none => exact hc
      | some kept =>
        refine ⟨Named.nodup_drop hc.names source, fun id => ?_⟩
        show (kept.release.on s.run).2.client.operations id =
          (s.sources.drop source).countP fun e => e.2.selected.member == id
        have hlive := hc.count id
        rw [live, Named.countP_drop hc.names source fun e => e.selected.member == id, hkept]
          at hlive
        rw [operations_releaseSource kept (hc.pos hkept)]
        by_cases hid : id = kept.selected.member
        · subst hid
          rw [Function.update_self, hlive]
          simp only [Option.any_some, beq_self_eq_true, if_pos]
          omega
        · rw [Function.update_of_ne hid, hlive]
          simp [Ne.symm hid]
    | _ => cases hm

/-- Nothing is in flight on the servers of a client that was just started. -/
theorem operations_start {o : Options} {c : Client} (h : Client.start o = .ok c) (id : MemberId) :
    c.operations id = 0 := by
  refine start_induction (P := fun c => c.operations id = 0) h (fun c hm _ _ => ?_) fun c a hc => ?_
  · show (c.members[id]?.map _).getD 0 = 0
    rw [hm]
    rfl
  -- Making a member leases none.
  · have hsame : (c.ensureMember a).operations = c.operations :=
      Client.column_ensureMember (fun _ _ => rfl) c a
    rw [hsame]
    exact hc

/-- In all that can come about, the operations in flight on a server are the sources that are kept
    of it. -/
theorem Reachable.counted {s : Scenario} (h : s.Reachable) : s.Counted := by
  induction h with
  | begun hstart => exact ⟨List.nodup_nil, operations_start hstart⟩
  | stepped hreach what ih => exact ih.step hreach.sound what
  | happened hreach happenings ih =>
    exact ih.of_beside hreach.sound ⟨sustains_operations.happenAll happenings _, rfl⟩
  | elsewhere hreach same ih =>
    exact ih.of_beside hreach.sound ⟨Steady.of_client_eq same, rfl⟩

end Scenario

end ClusterClient
