/-
  ClusterClient.Proofs.Steps — what the steps of a scenario keep.

  A step of a scenario is made of actions of the client and of changes of the tables of names, so
  what all actions sustain, the steps keep.  Connections that steps keep beyond their end must not
  matter to the relation.  Three steps are left out, those that keep a lease of a server beyond
  their end or give one back: `source`, `retain` and `release`.  All others also leave the table of
  sources as it was.

  Main statement: `step_beside`.
-/
import ClusterClient.Proofs.Actions
import ClusterClient.Scenario

namespace ClusterClient

open Run

variable {α β : Type}

/-! ## §1. Steps and relations between scenarios. -/

/-- The step leads from every scenario to one that is related to it. -/
def Play.Leads (T : Scenario → Scenario → Prop) (x : Play α) : Prop := ∀ s, T s (x.run s).2

/-- The step leads from every scenario to one whose run is related to the one before. -/
def Play.Keeps (R : Run → Run → Prop) (x : Play α) : Prop :=
  x.Leads fun s s' => R s.run s'.run

/-- The runs are related, and no source was kept or given back in between. -/
def Beside (R : Run → Run → Prop) (s s' : Scenario) : Prop :=
  R s.run s'.run ∧ s'.sources = s.sources

instance {R : Run → Run → Prop} [IsPreorder Run R] : IsPreorder Scenario (Beside R) where
  refl s := ⟨refl_of R s.run, rfl⟩
  trans _ _ _ h h' := ⟨trans_of R h.1 h'.1, h'.2.trans h.2⟩

namespace Play

section Composition

variable {T : Scenario → Scenario → Prop} [IsPreorder Scenario T]

theorem Leads.pure (a : α) : Leads T (Pure.pure a) := fun s => refl_of T s

theorem Leads.get : Leads T MonadState.get := fun s => refl_of T s

theorem Leads.bind {x : Play α} {f : α → Play β} (hx : Leads T x) (hf : ∀ a, Leads T (f a)) :
    Leads T (x >>= f) :=
  fun s => trans_of T (hx s) (hf _ _)

theorem Leads.given {thing : Option α} {use : α → Play Answer} (h : ∀ a, Leads T (use a)) :
    Leads T (Scenario.given thing use) := by
  cases thing with
  | none => exact .pure _
  | some a => exact h a

theorem Leads.session? (name : String) : Leads T (Scenario.session? name) :=
  .bind .get fun _ => .pure _

theorem Leads.binding? (name : String) : Leads T (Scenario.binding? name) :=
  .bind .get fun _ => .pure _

theorem Leads.source? (name : String) : Leads T (Scenario.source? name) :=
  .bind .get fun _ => .pure _

theorem Leads.connection? (name : String) : Leads T (Scenario.connection? name) :=
  .bind .get fun _ => .pure _

theorem Leads.optionalSession? (name : Option String) :
    Leads T (Scenario.optionalSession? name) := by
  cases name with
  | none => exact .pure _
  | some name => exact .bind (.session? name) fun _ => .pure _

theorem Leads.contextOf (origin : ContextOrigin) : Leads T (Scenario.contextOf origin) := by
  cases origin with
  | nowhere => exact .pure _
  | source name => exact .bind (.source? name) fun _ => .pure _
  | binding name => exact .bind (.binding? name) fun _ => .pure _
  | session name retryWrites => exact .bind (.optionalSession? name) fun _ => .pure _

end Composition

section Beside

variable {R : Run → Run → Prop}

theorem Leads.act {x : Act α} (h : x.Keeps R) : Leads (Beside R) (Scenario.act x) :=
  fun s => ⟨h s.run, rfl⟩

theorem Leads.letGo [IsPreorder Run R] {old : Option α} {drop : α → Act Unit}
    (h : ∀ a, (drop a).Keeps R) : Leads (Beside R) (Scenario.letGo old drop) := by
  cases old with
  | none => exact .pure _
  | some a => exact .act (h a)

/-- The other tables of a scenario are neither its run nor its sources. -/
theorem Leads.modify [IsPreorder Run R] {f : Scenario → Scenario} (hr : ∀ s, (f s).run = s.run)
    (hs : ∀ s, (f s).sources = s.sources) : Leads (Beside R) (modify f) := by
  intro s
  refine ⟨?_, hs s⟩
  show R s.run (f s).run
  rw [hr s]
  exact refl_of R s.run

theorem Leads.trying [IsPreorder Run R] {x : Exec α} {use : α → Play Answer} (hx : x.Keeps R)
    (h : ∀ a, Leads (Beside R) (use a)) : Leads (Beside R) (Scenario.trying x use) := by
  refine .bind (.act hx) fun result => ?_
  cases result with
  | ok a => exact h a
  | error e => exact .pure _

theorem trying_run (x : Exec α) (use : α → Play Answer) (s : Scenario) :
    (Scenario.trying x use).run s = match x.on s.run with
      | (.ok a, r) => (use a).run { s with run := r }
      | (.error e, r) => (.failed e, { s with run := r }) := by
  have hact : (Scenario.act x.run).run s =
      ((x.on s.run).1, { s with run := (x.on s.run).2 }) := rfl
  unfold Scenario.trying
  rw [StateT.run_bind, hact]
  rcases x.on s.run with ⟨e | a, r⟩ <;> rfl

/-- An action and what is done at once with its result are kept together. -/
theorem Leads.tryingAct {x : Exec α} {y : α → Act Unit} {answer : α → Answer}
    (h : (x >>= fun a => liftM (y a)).Keeps R) :
    Leads (Beside R) (Scenario.trying x fun a => do Scenario.act (y a); return answer a) := by
  intro s
  have hs := h s.run
  rw [Exec.on_bind] at hs
  rw [trying_run]
  generalize x.on s.run = went at hs ⊢
  obtain ⟨e | a, r⟩ := went
  · exact ⟨hs, rfl⟩
  · exact ⟨hs, rfl⟩

theorem Leads.keeps {x : Play α} (h : Leads (Beside R) x) : x.Keeps R := fun s => (h s).1

end Beside

end Play

/-! ## §2. Kinds of steps. -/

/-- Whether a step may take a number, or make a transaction active. -/
def Step.numbers : Step → Bool
  | .startTransaction _ _ => true
  | .context _ advance => advance
  | .callSession _ (.markAs state) => Transaction.isActive ⟨state, none⟩
  | .perform (.ok operation) _ _ => operation.isInsert
  | .execute _ (.ok operation) => operation.isInsert
  | _ => false

/-- Whether a step keeps a lease beyond its end, or gives one back that was kept. -/
def Step.moves : Step → Bool
  | .source _ _ _ | .retain _ _ | .release _ => true
  | _ => false

/-! ## §3. What steps keep. -/

section Steps

variable {may : SessionId → Prop} {R : Run → Run → Prop} {S : MemberId → Run → Run → Prop}

theorem Sustains.onDeployment (h : Sustains may R S fun _ => R) (f : Deployment → Deployment) :
    (Scenario.step.onDeployment f).Leads (Beside R) :=
  .act (.modify fun _ => h.elsewhere rfl)

/-- A connection that is lent may stay lent. -/
theorem Sustains.borrow (h : Sustains may R S fun _ => R) (id : MemberId) :
    (ClusterClient.Run.checkOut id).Keeps R :=
  (h.checkOut id).keeps

variable [IsPreorder Run R]

namespace Sustains

/-- So it may come back at any time. -/
theorem bringBack (h : Sustains may R S fun _ => R) (lease : Lease) : (checkIn lease).Keeps R :=
  fun r => h.lending.back (refl_of R r)

theorem rotate {T : Lease → Run → Run → Prop} (h : Sustains may R S T) (b : Binding)
    (times : Nat) : (Scenario.rotate b times).Keeps R := by
  induction times with
  | zero => exact .pure _
  | succ times ih =>
    exact (h.source b .read).useThen h.leasingSource (fun _ => ih) fun _ _ => .pure _

theorem make {T : Lease → Run → Run → Prop} (h : Sustains may R S T) (creation : Creation)
    (database : String) (body : Document) (server : ServerDescription)
    (connection : ConnectionDescription) :
    (creation.make database body server connection).Keeps R := by
  refine .bind (.lift (h.happenAll _)) fun _ => ?_
  cases creation.failure with
  | none => exact .pure _
  | some e => exact .throw e

theorem deliver {T : Lease → Run → Run → Prop} (h : Sustains may R S T) (delivery : Delivery)
    (b : Binding) (database : String) (body : Document) (interpret : Interpretation α) :
    (delivery.perform b database body interpret).Keeps R := by
  cases delivery with
  | read => exact h.performRead b database body interpret
  | write => exact h.performWrite b database body interpret
  | retryable creation => exact h.performRetryable (h.make creation database body)

end Sustains

namespace Play.Leads

theorem client : Leads (Beside R) Scenario.client := .act .currentClient

theorem keepSession (h : Sustains may R S fun _ => R) (name : String) (id : SessionId) :
    Leads (Beside R) (Scenario.keepSession name id) :=
  .bind (.session? name) fun _ => .bind (.modify (fun _ => rfl) fun _ => rfl) fun _ =>
    .letGo h.dropSession

theorem keepBinding (h : Sustains may R S fun _ => R) (name : String) (b : Binding) :
    Leads (Beside R) (Scenario.keepBinding name b) :=
  .bind (.binding? name) fun _ => .bind (.modify (fun _ => rfl) fun _ => rfl) fun _ =>
    .letGo h.unbind

theorem keepConnection (h : Sustains may R S fun _ => R) (name : String) (lease : Lease) :
    Leads (Beside R) (Scenario.keepConnection name lease) :=
  .bind (.connection? name) fun _ => .bind (.modify (fun _ => rfl) fun _ => rfl) fun _ =>
    .letGo h.bringBack

theorem dropConnection (h : Sustains may R S fun _ => R) (name : String) :
    Leads (Beside R) (Scenario.dropConnection name) :=
  .bind (.connection? name) fun _ => .bind (.modify (fun _ => rfl) fun _ => rfl) fun _ =>
    .bind (.letGo h.bringBack) fun _ => .pure _

theorem callSession (h : Sustains may R S fun _ => R) (id : SessionId) (call : SessionCall)
    (hcall : ∀ state, call = .markAs state → Transaction.isActive ⟨state, none⟩ = true →
      ∀ id, may id) :
    Leads (Beside R) (Scenario.callSession id call) := by
  have hc : (Run.onClient (call.apply id)).Keeps R := by
    cases call with
    | look => exact fun r => refl_of R r
    | finish => exact h.endSession id
    | markInProgress => exact fun _ => h.modifySession id fun s _ => .progressed s
    | markAs state =>
      exact fun _ => h.modifySession id fun s _ => .marked s state fun ha => hcall state rfl ha id
  exact .bind (.act hc) fun _ => .bind .client fun _ => .given fun _ => .pure _

theorem startTransaction (h : Sustains may R S fun _ => R) (id : SessionId)
    (options : Option TransactionOptions) (hid : may id) :
    Leads (Beside R) (Scenario.startTransaction id options) := by
  intro scenario
  have hrun : (Scenario.startTransaction id options).run scenario = (Scenario.given
      scenario.run.client.sessions[id]? _).run scenario := rfl
  rw [hrun]
  cases hs : scenario.run.client.sessions[id]? with
  | none => exact refl_of (Beside R) scenario
  | some s =>
    dsimp only [Scenario.given]
    cases ht : s.startTransaction options with
    | error misuse => exact refl_of (Beside R) scenario
    | ok started =>
      -- What is put back is what came of the session that was there.
      refine ⟨h.modifySession id fun s' hs' => ?_, rfl⟩
      rw [hs] at hs'
      cases hs'
      exact .started ht hid

theorem lookAt (h : Sustains may R S fun _ => R) (x : SessionContext) (advance : Bool)
    (hid : advance = true → ∀ id, may id) :
    Leads (Beside R) (Scenario.lookAt x advance) := by
  intro scenario
  cases advance with
  | false => exact refl_of (Beside R) scenario
  | true =>
    exact ⟨h.advance x (fun id _ => hid rfl id) scenario.run, rfl⟩

theorem connectionAfter (h : Sustains may R S fun _ => R) (source : Source)
    (dropped name : String) : Leads (Beside R) (Scenario.connectionAfter source dropped name) := by
  have hfinish : ∀ result, Leads (Beside R) (Scenario.connectionAfter.finish name result) :=
    fun result => .trying (.settle result) fun lease => .bind (.keepConnection h name lease)
      fun _ => .pure _
  refine .bind .client fun c => ?_
  -- The other connection is given back after lending or before, but in both cases.
  split
  · exact .bind (.act (h.borrow _)) fun result => .bind (.dropConnection h dropped) fun _ =>
      hfinish result
  · exact .bind (.dropConnection h dropped) fun _ => .bind (.act (h.borrow _)) fun result =>
      hfinish result

end Play.Leads

open Play in
/-- A step that neither keeps nor gives back a source keeps what its actions keep. -/
theorem step_beside (h : Sustains may R S fun _ => R) (what : Step)
    (numbers : what.numbers = true → ∀ id, may id) (moves : what.moves = false) :
    Leads (Beside R) (Scenario.step what) := by
  cases what with
  | refused e => exact .pure _
  | cluster | server => exact .bind .client fun _ => .pure _
  | update s => exact .bind (.act (h.happen (.described s))) fun _ => .bind .client fun _ => .pure _
  | remove a =>
    have hw : (withdraw a).Keeps R := fun r => h.happen (.withdrawn a) r
    exact .bind (.act hw) fun _ => .bind .client fun _ => .pure _
  | report | script | unreachable | reachable => exact .bind (h.onDeployment _) fun _ => .pure _
  | select rp arrivals =>
    exact .tryingAct ((h.selecting.selectDuring _ _).giveBack h.selecting.leasingSelected)
  | startSession name =>
    exact .trying h.startSession fun id => .bind (.keepSession h name id) fun _ =>
      .bind .client fun _ => .given fun _ => .pure _
  | cloneSession session name =>
    exact .bind (.session? session) fun _ => .given fun id =>
      .bind (.act (h.holdSession id)) fun _ => .bind (.keepSession h name id) fun _ => .pure _
  | dropSession session =>
    exact .bind (.session? session) fun _ => .bind (.modify (fun _ => rfl) fun _ => rfl) fun _ =>
      .bind (.letGo h.dropSession) fun _ => .pure _
  | callSession session call =>
    refine .bind (.session? session) fun _ => .given fun id => .callSession h id call ?_
    rintro state rfl
    exact numbers
  | startTransaction session options =>
    refine .bind (.session? session) fun _ => .given fun id => ?_
    cases options with
    | ok options => exact .startTransaction h id options (numbers rfl id)
    | error e => exact .pure _
  | context origin advance =>
    exact .bind (.contextOf origin) fun _ => .given fun x => .lookAt h x advance numbers
  | canRetryWrite server connection origin =>
    exact .bind (.contextOf origin) fun _ => .given fun _ => .bind .client fun _ => .pure _
  | bind rp session name =>
    exact .bind (.optionalSession? session) fun _ => .given fun id =>
      .trying (h.bind rp id) fun b => .bind (.keepBinding h name b) fun _ =>
        .bind .client fun _ => .pure _
  | binding binding =>
    exact .bind (.binding? binding) fun _ => .given fun _ => .bind .client fun _ => .pure _
  | dropBinding binding =>
    exact .bind (.binding? binding) fun _ => .bind (.modify (fun _ => rfl) fun _ => rfl) fun _ =>
      .bind (.letGo h.unbind) fun _ => .pure _
  | rotate binding times =>
    exact .bind (.binding? binding) fun _ => .given fun b => .trying (h.rotate b times) fun _ =>
      .pure _
  | connection source name =>
    exact .bind (.source? source) fun _ => .given fun s => .trying (h.borrow _) fun lease =>
      .bind (.keepConnection h name lease) fun _ => .pure _
  | connectionAfter source dropped name =>
    exact .bind (.source? source) fun _ => .given fun s => .bind (.connection? dropped) fun _ =>
      .given fun _ => .connectionAfter h s dropped name
  | dropConnection connection => exact .bind (.dropConnection h connection) fun _ => .pure _
  | command connection command origin =>
    exact .bind (.connection? connection) fun _ => .given fun lease =>
      .bind (.contextOf origin) fun _ => .given fun x => .trying (h.send lease command x)
        fun _ => .pure _
  | perform operation rp session =>
    refine .bind (.optionalSession? session) fun _ => .given fun id => ?_
    cases operation with
    | error reason => exact fun s => refl_of (Beside R) s
    | ok operation =>
      have called : Leads (Beside R) (Scenario.trying (ClusterClient.perform operation rp id)
        fun o => return .outcome o) := .trying (h.perform operation rp id numbers) fun _ => .pure _
      exact fun s => called s
  | execute binding operation =>
    refine .bind (.binding? binding) fun _ => .given fun b => ?_
    cases operation with
    | error reason => exact fun s => refl_of (Beside R) s
    | ok operation =>
      have called : Leads (Beside R) (Scenario.trying (operation.execute b)
        fun o => return .outcome o) :=
          .trying (h.execute b operation fun hi id _ => numbers hi id) fun _ => .pure _
      exact fun s => called s
  | deliver binding delivery database body decoder transformer =>
    exact .bind (.binding? binding) fun _ => .given fun b =>
      .trying (h.deliver delivery b database body _) fun _ => .pure _
  | source | retain | release => cases moves

end Steps

/-! ## §4. Steps that keep or give back a source. -/

namespace Scenario

/-- The scenario in which a source is kept under a name; one that was kept there is given back. -/
def keeping (s : Scenario) (name : String) (source : Source) : Scenario :=
  { s with
    sources := s.sources.put name source
    run := match s.sources.lookup name with
      | some old => (old.release.on s.run).2
      | none => s.run }

theorem run_keepSource (s : Scenario) (name : String) (source : Source) :
    ((keepSource name source).run s).2 = s.keeping name source := by
  have hold : (source? name).run s = (s.sources.lookup name, s) := rfl
  unfold keepSource keeping
  rw [StateT.run_bind, hold]
  cases s.sources.lookup name with
  | none => rfl
  | some old => rfl

/-- A source is leased and kept, if there is a binding and a server. -/
theorem run_step_source (s : Scenario) (binding : String) (intent : Intent) (name : String) :
    ((step (.source binding intent name)).run s).2 =
      match s.bindings.lookup binding with
      | none => s
      | some b =>
        match (b.source intent).on s.run with
        | (.error _, r) => { s with run := r }
        | (.ok source, r) => { s with run := r }.keeping name source := by
  have hb : ((step (.source binding intent name)).run s).2 = ((given (s.bindings.lookup binding)
    fun b => trying (b.source intent) fun source => do
      keepSource name source
      return .server source.selected.description).run s).2 := rfl
  rw [hb]
  cases s.bindings.lookup binding with
  | none => rfl
  | some b =>
    have hact : (act (b.source intent).run).run s =
        (((b.source intent).on s.run).1, { s with run := ((b.source intent).on s.run).2 }) := rfl
    dsimp only [given, trying]
    rw [StateT.run_bind, hact]
    rcases (b.source intent).on s.run with ⟨e | source, r⟩
    · rfl
    · exact run_keepSource _ _ _

/-- A kept source is leased once more, and that lease is kept too. -/
theorem run_step_retain (s : Scenario) (source name : String) :
    ((step (.retain source name)).run s).2 =
      match s.sources.lookup source with
      | none => s
      | some kept => { s with run := (kept.retain.on s.run).2 }.keeping name kept := by
  have hs : ((step (.retain source name)).run s).2 = ((given (s.sources.lookup source)
    fun kept => do
      let retained ← act kept.retain
      keepSource name retained
      return .address retained.selected.description.address).run s).2 := rfl
  rw [hs]
  cases s.sources.lookup source with
  | none => rfl
  | some kept => exact run_keepSource _ _ _

/-- A kept source is given back. -/
theorem run_step_release (s : Scenario) (source : String) :
    ((step (.release source)).run s).2 =
      match s.sources.lookup source with
      | none => s
      | some kept =>
        { s with sources := s.sources.drop source, run := (kept.release.on s.run).2 } := by
  have hs : ((step (.release source)).run s).2 = ((given (s.sources.lookup source)
    fun kept => do
      modify fun scenario => { scenario with sources := scenario.sources.drop source }
      act kept.release
      return .nothing).run s).2 := rfl
  rw [hs]
  cases s.sources.lookup source with
  | none => rfl
  | some kept => rfl

end Scenario

end ClusterClient
