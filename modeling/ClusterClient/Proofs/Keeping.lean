/-
  ClusterClient.Proofs.Keeping — what actions keep.

  An action *keeps* a relation between runs when every run is related to the run that the action
  leaves behind, whatever came of it.  A relation that is reflexive and transitive is kept by a
  whole action as soon as its parts keep it, so each action of the client is looked at once and
  the rest follows from how it is put together.

  Some actions lend something that is given back later.  Between the two a second relation holds,
  that of the run before to the runs in which the thing is lent.  `Lending` says how the two
  relations go together, and an action that lends, works and gives back keeps the first one.
-/
import ClusterClient.Operation
import Mathlib.Order.Defs.Unbundled

namespace ClusterClient

open Run

variable {α β : Type} {R : Run → Run → Prop}

/-! ## §1. Keeping a relation. -/

/-- The action leads from every run to one that is related to it. -/
def Act.Keeps (R : Run → Run → Prop) (x : Act α) : Prop := ∀ r, R r (x.on r).2

/-- The same for an action that may fail. -/
def Exec.Keeps (R : Run → Run → Prop) (x : Exec α) : Prop := ∀ r, R r (x.on r).2

theorem Exec.Keeps.lift {x : Act α} (hx : x.Keeps R) : Exec.Keeps R (liftM x) := hx

theorem Exec.Keeps.observe {x : Exec α} (hx : x.Keeps R) : Exec.Keeps R (observe x) := hx

theorem Act.Keeps.modify {f : Run → Run} (h : ∀ r, R r (f r)) : Act.Keeps R (modify f) := h

section Composition

variable [IsPreorder Run R]

theorem Act.Keeps.pure (a : α) : Act.Keeps R (Pure.pure a) := fun r => refl_of R r

theorem Act.Keeps.get : Act.Keeps R MonadState.get := fun r => refl_of R r

theorem Act.Keeps.currentClient : Act.Keeps R currentClient := fun r => refl_of R r

theorem Act.Keeps.bind {x : Act α} {f : α → Act β} (hx : x.Keeps R) (hf : ∀ a, (f a).Keeps R) :
    Act.Keeps R (x >>= f) :=
  fun r => trans_of R (hx r) (hf _ _)

theorem Exec.Keeps.pure (a : α) : Exec.Keeps R (Pure.pure a) := fun r => refl_of R r

theorem Exec.Keeps.throw (e : Error) : Exec.Keeps R (throw e : Exec α) := fun r => refl_of R r

theorem Exec.Keeps.get : Exec.Keeps R MonadState.get := fun r => refl_of R r

theorem Exec.Keeps.settle (result : Except Error α) : Exec.Keeps R (settle result) :=
  fun r => refl_of R r

theorem Exec.Keeps.bind {x : Exec α} {f : α → Exec β} (hx : x.Keeps R) (hf : ∀ a, (f a).Keeps R) :
    Exec.Keeps R (x >>= f) := by
  intro r
  have hr := hx r
  rw [Exec.on_bind]
  generalize x.on r = went at hr ⊢
  obtain ⟨e | a, r'⟩ := went
  -- What failed is not gone on with.
  · exact hr
  · exact trans_of R hr (hf a r')

theorem Exec.Keeps.ensuring {x : Exec α} {cleanup : Act Unit} (hx : x.Keeps R)
    (hc : cleanup.Keeps R) : Exec.Keeps R (ensuring x cleanup) :=
  fun r => trans_of R (hx r) (hc _)

theorem Act.Keeps.happenAll (h : ∀ happening, (happen happening).Keeps R)
    (happenings : List Happening) : (happenAll happenings).Keeps R := by
  induction happenings with
  | nil => exact fun r => refl_of R r
  | cons happening rest ih =>
    intro r
    rw [on_happenAll_cons]
    exact trans_of R (h happening r) (ih _)

end Composition

/-! ## §2. Lending. -/

/-- `S a` relates a run to those in which `a` is lent; giving it back leads back to `R`. -/
structure Lending (R : Run → Run → Prop) (S : α → Run → Run → Prop) (back : α → Act Unit) :
    Prop where
  before : ∀ {a : α} {r r₁ r₂ : Run}, R r r₁ → S a r₁ r₂ → S a r r₂
  after : ∀ {a : α} {r r₁ r₂ : Run}, S a r r₁ → R r₁ r₂ → S a r r₂
  back : ∀ {a : α} {r r₁ : Run}, S a r r₁ → R r ((back a).on r₁).2

/-- The action lends what it returns; one that fails keeps `R`. -/
def Exec.Lends (R : Run → Run → Prop) (S : α → Run → Run → Prop) (x : Exec α) : Prop :=
  ∀ r, match x.on r with
    | (.error _, r') => R r r'
    | (.ok a, r') => S a r r'

/-- What is kept is lent as well, if lending is nothing special. -/
theorem Exec.Lends.of_keeps {x : Exec α} (hx : x.Keeps R) : x.Lends R fun _ => R := by
  intro r
  have hr := hx r
  generalize x.on r = went at hr ⊢
  obtain ⟨_ | _, _⟩ := went <;> exact hr

theorem Exec.Lends.keeps {x : Exec α} (hx : x.Lends R fun _ => R) : x.Keeps R := by
  intro r
  have hr := hx r
  generalize x.on r = went at hr ⊢
  obtain ⟨_ | _, _⟩ := went <;> exact hr

/-- A relation that holds throughout. -/
theorem Lending.constant [IsPreorder Run R] {back : α → Act Unit} (h : ∀ a, (back a).Keeps R) :
    Lending R (fun _ => R) back where
  before h h' := trans_of R h h'
  after h h' := trans_of R h h'
  back h' := trans_of R h' (h _ _)

section Lends

variable {γ : Type} {S : α → Run → Run → Prop} {back : α → Act Unit}

/-- What comes before lending. -/
theorem Exec.Lends.after (hl : Lending R S back) [IsPreorder Run R] {x : Exec γ} {f : γ → Exec α}
    (hx : x.Keeps R) (hf : ∀ c, (f c).Lends R S) : (x >>= f).Lends R S := by
  intro r
  have hr := hx r
  rw [Exec.on_bind]
  generalize x.on r = went at hr ⊢
  obtain ⟨e | c, r₁⟩ := went
  · exact hr
  · have hr₁ := hf c r₁
    dsimp only at hr hr₁ ⊢
    generalize (f c).on r₁ = went at hr₁ ⊢
    obtain ⟨e | a, r₂⟩ := went
    · exact trans_of R hr hr₁
    · exact hl.before hr hr₁

/-- What is done with what was lent, and passed on. -/
theorem Exec.Lends.passing {S' : β → Run → Run → Prop} {x : Exec α} {f : α → Exec β}
    (hx : x.Lends R S)
    (hf : ∀ a r r₁, S a r r₁ → ∃ b, ((f a).on r₁).1 = .ok b ∧ S' b r ((f a).on r₁).2) :
    (x >>= f).Lends R S' := by
  intro r
  have hr := hx r
  rw [Exec.on_bind]
  generalize x.on r = went at hr ⊢
  obtain ⟨e | a, r₁⟩ := went
  · exact hr
  · obtain ⟨b, hb, hS⟩ := hf a r r₁ hr
    dsimp only at hb hS ⊢
    generalize (f a).on r₁ = went at hb hS ⊢
    obtain ⟨_, r₂⟩ := went
    cases hb
    exact hS

/-- What follows whatever came of lending. -/
theorem Exec.Lends.ensuring (hl : Lending R S back) [IsPreorder Run R] {x : Exec α}
    {cleanup : Act Unit} (hx : x.Lends R S) (hc : cleanup.Keeps R) :
    (Run.ensuring x cleanup).Lends R S := by
  intro r
  have hr := hx r
  rw [on_ensuring]
  generalize x.on r = went at hr ⊢
  obtain ⟨e | a, r₁⟩ := went
  · exact trans_of R hr (hc r₁)
  · exact hl.after hr (hc r₁)

/-- Going on with what was lent, in such a way that it is given back. -/
theorem Exec.Lends.bind {x : Exec α} {f : α → Exec β} (hx : x.Lends R S)
    (hf : ∀ a r r₁, S a r r₁ → R r ((f a).on r₁).2) : Exec.Keeps R (x >>= f) := by
  intro r
  have hr := hx r
  rw [Exec.on_bind]
  generalize x.on r = went at hr ⊢
  obtain ⟨e | a, r₁⟩ := went
  · exact hr
  · exact hf a r r₁ hr

/-- Lending, working and giving back. -/
theorem Exec.Lends.use (hl : Lending R S back) {x : Exec α} {work : α → Exec β}
    (hx : x.Lends R S) (hwork : ∀ a, (work a).Keeps R) :
    Exec.Keeps R (x >>= fun a => Run.ensuring (work a) (back a)) :=
  hx.bind fun a _ r₁ hS => hl.back (hl.after hS (hwork a r₁))

/-- Lending, working, giving back, and going on. -/
theorem Exec.Lends.useThen (hl : Lending R S back) [IsPreorder Run R] {x : Exec α}
    {work : α → Exec β} {next : α → β → Exec γ} (hx : x.Lends R S)
    (hwork : ∀ a, (work a).Keeps R) (hnext : ∀ a b, (next a b).Keeps R) :
    Exec.Keeps R (x >>= fun a => Run.ensuring (work a) (back a) >>= next a) := by
  refine hx.bind fun a r r₁ hS => ?_
  have hr := hl.back (hl.after hS (hwork a r₁))
  rw [Exec.on_bind, on_ensuring]
  cases ((work a).on r₁).1 with
  | error e => exact hr
  | ok b => exact trans_of R hr (hnext a b _)

/-- What is lent and given back at once. -/
theorem Exec.Lends.giveBack (hl : Lending R S back) {x : Exec α} (hx : x.Lends R S) :
    Exec.Keeps R (x >>= fun a => liftM (back a)) :=
  hx.bind fun _ _ _ hS => hl.back hS

/-- What is lent and given back before anything else. -/
theorem Exec.Lends.giveBackThen (hl : Lending R S back) [IsPreorder Run R] {x : Exec α}
    {next : α → Exec β} (hx : x.Lends R S) (hnext : ∀ a, (next a).Keeps R) :
    Exec.Keeps R (x >>= fun a => liftM (back a) >>= fun _ => next a) :=
  hx.bind fun a _ _ hS => trans_of R (hl.back hS) (hnext a _)

/-- The same when a failure to lend is no failure of the whole. -/
theorem Exec.Lends.useOr (hl : Lending R S back) [IsPreorder Run R] {x : Exec α}
    {use : Except Error α → Exec β} (hx : x.Lends R S) {work : α → Exec β}
    (hok : ∀ a, use (.ok a) = Run.ensuring (work a) (back a)) (hwork : ∀ a, (work a).Keeps R)
    (herror : ∀ e, (use (.error e)).Keeps R) :
    Exec.Keeps R (observe x >>= use) := by
  intro r
  have hr := hx r
  rw [Exec.on_bind, on_observe]
  generalize x.on r = went at hr ⊢
  obtain ⟨e | a, r₁⟩ := went
  · exact trans_of R hr (herror e r₁)
  · show R r ((use (.ok a)).on r₁).2
    rw [hok]
    exact hl.back (hl.after hr (hwork a r₁))

end Lends

end ClusterClient
