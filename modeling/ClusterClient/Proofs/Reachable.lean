/-
  ClusterClient.Proofs.Reachable — the scenarios that can come about.

  A scenario is reachable when it comes from a client that was just started by doing steps, while
  anything may happen on the other side and the deployment may become any other.  A relation that
  all actions keep is kept by every step.  Being led on by a chain of changes is such a relation, so
  an invariant of the client that every change keeps holds in all reachable scenarios.

  Main statements: `Sustains.step`, `Scenario.Reachable.kept`, `Scenario.Reachable.invariant`, and
  its first use, `Scenario.Reachable.held`: no session lasts without a holder.
-/
import ClusterClient.Proofs.Holders
import ClusterClient.Proofs.Steps

namespace ClusterClient

open Run

variable {may : SessionId → Prop} {R : Run → Run → Prop} [IsPreorder Run R]

/-! ## §1. What steps change. -/

namespace Sustains

-- A lease of a server is nothing special to the relation, so a step may keep it.
variable (h : Sustains may R (fun _ => R) fun _ => R)
include h

theorem retain (leased : ∀ id, (onClient (·.lease id)).Keeps R) (source : Source) :
    source.retain.Keeps R :=
  .bind (leased _) fun _ => .bind (h.hold source.context) fun _ => .pure _

theorem keeping (s : Scenario) (name : String) (source : Source) :
    R s.run (s.keeping name source).run := by
  unfold Scenario.keeping
  cases s.sources.lookup name with
  | none => exact refl_of R s.run
  | some old => exact h.release old (refl_of R s.run)

/-- Every step keeps it, wherever the step may take numbers. -/
theorem step (leased : ∀ id, (onClient (·.lease id)).Keeps R) (what : Step)
    (numbers : what.numbers = true → ∀ id, may id) : (Scenario.step what).Keeps R := by
  cases hm : what.moves with
  | false => exact (step_beside h what numbers hm).keeps
  | true =>
    intro s
    cases what with
    | source binding intent name =>
      rw [Scenario.run_step_source]
      cases s.bindings.lookup binding with
      | none => exact refl_of R s.run
      | some b =>
        have hs : R s.run ((b.source intent).on s.run).2 := (h.source b intent).keeps s.run
        dsimp only
        generalize (b.source intent).on s.run = went at hs ⊢
        obtain ⟨e | source, r⟩ := went
        · exact hs
        · exact trans_of R hs (h.keeping { s with run := r } name source)
    | retain source name =>
      rw [Scenario.run_step_retain]
      cases s.sources.lookup source with
      | none => exact refl_of R s.run
      | some kept =>
        exact trans_of R (h.retain leased kept s.run)
          (h.keeping { s with run := (kept.retain.on s.run).2 } name kept)
    | release source =>
      rw [Scenario.run_step_release]
      cases s.sources.lookup source with
      | none => exact refl_of R s.run
      | some kept => exact h.release kept (refl_of R s.run)
    | _ => cases hm

end Sustains

/-- Wherever a step may take numbers, it leads on by changes of the client. -/
theorem Scenario.step_evolves (what : Step) (numbers : what.numbers = true → ∀ id, may id) :
    (step what).Keeps (Evolves may) :=
  (sustains_evolves may).step lease_evolves what numbers

/-! ## §2. Reachable scenarios. -/

namespace Scenario

/-- The scenarios that can come about. -/
inductive Reachable : Scenario → Prop where
  | begun {o : Options} {c : Client} (h : Client.start o = .ok c) : Reachable (.begin c)
  | stepped {s : Scenario} (h : Reachable s) (what : Step) : Reachable ((step what).run s).2
  | happened {s : Scenario} (h : Reachable s) (happenings : List Happening) :
    Reachable { s with run := ((happenAll happenings).on s.run).2 }
  /-- Anything but the client may become different. -/
  | elsewhere {s : Scenario} {r : Run} (h : Reachable s) (same : r.client = s.run.client) :
    Reachable { s with run := r }

/-- What comes of a client by doing steps. -/
def after (c : Client) (steps : List Step) : Scenario :=
  steps.foldl (fun s what => ((step what).run s).2) (begin c)

theorem Reachable.after {o : Options} {c : Client} (h : Client.start o = .ok c)
    (steps : List Step) : (Scenario.after c steps).Reachable := by
  -- Induction on the steps, for every scenario that they can start from.
  have hfold : ∀ (steps : List Step) (s : Scenario), s.Reachable →
      (steps.foldl (fun s what => ((step what).run s).2) s).Reachable := by
    intro steps
    induction steps with
    | nil => exact fun _ hs => hs
    | cons what rest ih => exact fun _ hs => ih _ (hs.stepped what)
  exact hfold steps _ (.begun h)

/-- What holds of every client that was just started, and along every relation that all actions
    keep, holds of the client of every reachable scenario. -/
theorem Reachable.kept {P : Client → Prop} {s : Scenario} (h : Reachable s)
    (sustains : Sustains anywhere R (fun _ => R) fun _ => R)
    (leased : ∀ id, (onClient (·.lease id)).Keeps R)
    (start : ∀ {o : Options} {c : Client}, Client.start o = .ok c → P c)
    (along : ∀ {r r' : Run}, R r r' → P r.client → P r'.client) : P s.run.client := by
  induction h with
  | begun h => exact start h
  | stepped _ what ih => exact along (sustains.step leased what (fun _ _ => trivial) _) ih
  | happened _ happenings ih => exact along (sustains.happenAll happenings _) ih
  | elsewhere _ same ih => rwa [show _ = _ from same]

/-- What holds of every client that was just started, and is kept by every change, holds of the
    client of every reachable scenario. -/
theorem Reachable.invariant {P : Client → Prop} {s : Scenario} (h : Reachable s)
    (start : ∀ {o : Options} {c : Client}, Client.start o = .ok c → P c)
    (keeps : ∀ {c c' : Client}, Client.Change anywhere c c' → P c → P c') : P s.run.client :=
  h.kept (sustains_evolves anywhere) lease_evolves start fun hr => hr.invariant keeps

/-- A client is started with nothing, and then a member is made for each seed.  So what holds of
    clients with nothing, and is kept by making members, holds of a client that was just started. -/
theorem start_induction {P : Client → Prop} {o : Options} {c : Client}
    (h : Client.start o = .ok c)
    (bare : ∀ c : Client, c.members = [] → c.sessions = [] → c.waiting = [] → P c)
    (joined : ∀ (c : Client) (a : Address), P c → P (c.ensureMember a)) : P c := by
  have hfold : ∀ (hosts : List Address) (c : Client), P c →
      P (hosts.foldl Client.ensureMember c) := by
    intro hosts
    induction hosts with
    | nil => exact fun _ hc => hc
    | cons a rest ih => exact fun c hc => ih _ (joined c a hc)
  unfold Client.start at h
  cases hr : o.refusal? with
  | some reason =>
    rw [hr] at h
    cases h
  | none =>
    rw [hr] at h
    cases h
    exact hfold o.hosts _ (bare _ rfl rfl rfl)

/-- A client is started without sessions and without server sessions. -/
theorem sessions_start {o : Options} {c : Client} (h : Client.start o = .ok c) :
    c.sessions = [] ∧ c.waiting = [] := by
  refine start_induction (P := fun c => c.sessions = [] ∧ c.waiting = []) h
    (fun _ _ hs hw => ⟨hs, hw⟩) fun c a hc => ?_
  -- Making a member opens no session.
  have hsame := c.sameSessions_ensureMember a
  exact ⟨hsame.sessions.trans hc.1, hsame.waiting.trans hc.2⟩

/-- No session lasts without a holder. -/
theorem Reachable.held {s : Scenario} (h : Reachable s) : s.run.Held := by
  refine h.invariant (P := Client.Held) (fun hstart s hmem => ?_) Client.Change.held
  rw [(sessions_start hstart).1] at hmem
  cases hmem

end Scenario

end ClusterClient
