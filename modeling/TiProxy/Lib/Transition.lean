import Mathlib.Logic.Relation

/-!
# Transition systems: reachable states and inductive invariants

A component with state is modelled by a step relation `step : σ → σ → Prop` and a
set of initial states.  This module fixes the vocabulary every state-machine
model of the development uses:

* `Reachable step init s`: `s` is reached from an initial state by finitely many
  steps;
* `Inductive step init inv`: `inv` holds initially and every step preserves it;
* `OfFn f`: the step relation of an executable step function `f s a : Option σ`, and
  `runActions f s as` the run of a list of actions.

**Results.**
* `Inductive.holds`: an inductive invariant holds in every reachable state.
* `Reachable.tail`: a step from a reachable state leads to a reachable state.
* `Reachable.of_runActions`: the end of an enabled run of actions from a reachable
  state is reachable.
* `Reachable.map`: a simulation up to stuttering carries reachability to the
  abstract system.
* `Stable.runActions`: a set of states that no step leaves holds at the end of
  every run from one of its states; that is how a deadlock is shown.
-/

namespace Transition

universe u v

variable {σ : Type u}

/-- States reachable from an initial state by finitely many steps. -/
def Reachable
    (step : σ → σ → Prop)
    (init : σ → Prop)
    (s : σ) : Prop :=
  ∃ s₀, init s₀ ∧ Relation.ReflTransGen step s₀ s

/-- An inductive invariant: true initially and preserved by every step. -/
structure Inductive
    (step : σ → σ → Prop)
    (init : σ → Prop)
    (inv : σ → Prop) : Prop where
  init_holds : ∀ s, init s → inv s
  step_holds : ∀ s s', inv s → step s s' → inv s'

variable {step : σ → σ → Prop} {init : σ → Prop}

/-- An initial state is reachable. -/
theorem Reachable.of_init
    {s : σ}
    (h : init s) :
    Reachable step init s :=
  ⟨s, h, Relation.ReflTransGen.refl⟩

/-- A step from a reachable state leads to a reachable state. -/
theorem Reachable.tail
    {s s' : σ}
    (hs : Reachable step init s)
    (hstep : step s s') :
    Reachable step init s' := by
  obtain ⟨s₀, h₀, hrun⟩ := hs
  exact ⟨s₀, h₀, hrun.tail hstep⟩

/-- An inductive invariant holds along every run from a state where it holds. -/
theorem Inductive.holds_of_run
    {inv : σ → Prop}
    (hinv : Inductive step init inv)
    {s s' : σ}
    (hs : inv s)
    (hrun : Relation.ReflTransGen step s s') :
    inv s' := by
  induction hrun with
  | refl =>
      exact hs
  | tail _ hstep ih =>
      exact hinv.step_holds _ _ ih hstep

/-- An inductive invariant holds in every reachable state. -/
theorem Inductive.holds
    {inv : σ → Prop}
    (hinv : Inductive step init inv)
    {s : σ}
    (hs : Reachable step init s) :
    inv s := by
  obtain ⟨s₀, h₀, hrun⟩ := hs
  exact hinv.holds_of_run (hinv.init_holds s₀ h₀) hrun

/-- A simulation up to stuttering.  If `f` maps initial states to initial states and
every step from a state of the invariant `inv` to a step of `step'` or to no move,
then `f` maps every reachable state to a reachable state of the abstract system. -/
theorem Reachable.map
    {τ : Type v}
    {step' : τ → τ → Prop}
    {init' : τ → Prop}
    {inv : σ → Prop}
    (f : σ → τ)
    (hinv : Inductive step init inv)
    (hinit : ∀ s, init s → init' (f s))
    (hstep : ∀ s s', inv s → step s s' → Relation.ReflGen step' (f s) (f s'))
    {s : σ}
    (hs : Reachable step init s) :
    Reachable step' init' (f s) := by
  obtain ⟨s₀, h₀, hrun⟩ := hs
  induction hrun with
  | refl =>
      exact Reachable.of_init (hinit s₀ h₀)
  | tail hrun' hlast ih =>
      -- the invariant holds before the last step, so that step maps to a move or none
      have hb := hinv.holds ⟨s₀, h₀, hrun'⟩
      rcases (Relation.reflGen_iff _ _ _).mp (hstep _ _ hb hlast) with heq | h
      · exact heq ▸ ih
      · exact ih.tail h

/-- A set of states that no step leaves. -/
def Stable
    (step : σ → σ → Prop)
    (P : σ → Prop) : Prop :=
  ∀ s s', P s → step s s' → P s'

/-- A stable set holds along every run from one of its states. -/
theorem Stable.holds_of_run
    {P : σ → Prop}
    (hP : Stable step P)
    {s s' : σ}
    (hs : P s)
    (hrun : Relation.ReflTransGen step s s') :
    P s' := by
  induction hrun with
  | refl => exact hs
  | tail _ hstep ih => exact hP _ _ ih hstep

/-! ### Executable step functions -/

section StepFunction

variable {α : Type u}

/-- The step relation of a step function: some action leads from `s` to `s'`. -/
def OfFn
    (f : σ → α → Option σ)
    (s s' : σ) : Prop :=
  ∃ a, f s a = some s'

/-- A list of actions run from `s`; `none` as soon as one is not enabled. -/
def runActions
    (f : σ → α → Option σ) : σ → List α → Option σ
  | s, [] => some s
  | s, a :: as => (f s a).bind (fun s' => runActions f s' as)

/-- An enabled step followed by an enabled run. -/
theorem runActions_cons
    {f : σ → α → Option σ}
    {s s₁ s' : σ}
    {a : α}
    {as : List α}
    (hstep : f s a = some s₁)
    (hrest : runActions f s₁ as = some s') :
    runActions f s (a :: as) = some s' := by
  rw [runActions, hstep, Option.bind_some, hrest]

/-- The end of an enabled run of actions from a reachable state is reachable. -/
theorem Reachable.of_runActions
    {f : σ → α → Option σ}
    {init : σ → Prop}
    (as : List α) :
    ∀ {s s' : σ}, Reachable (OfFn f) init s → runActions f s as = some s' →
      Reachable (OfFn f) init s' := by
  induction as with
  | nil =>
      intro s s' hs hrun
      cases hrun
      exact hs
  | cons a as ih =>
      intro s s' hs hrun
      cases hstep : f s a with
      | none =>
          simp [runActions, hstep] at hrun
      | some s₁ =>
          rw [runActions, hstep, Option.bind_some] at hrun
          exact ih (hs.tail ⟨a, hstep⟩) hrun

/-- A run of actions is a run of the step relation. -/
theorem runActions_reflTransGen
    {f : σ → α → Option σ}
    (as : List α) :
    ∀ {s s' : σ}, runActions f s as = some s' → Relation.ReflTransGen (OfFn f) s s' := by
  induction as with
  | nil =>
      intro s s' hrun
      cases hrun
      exact .refl
  | cons a as ih =>
      intro s s' hrun
      cases hstep : f s a with
      | none =>
          simp [runActions, hstep] at hrun
      | some s₁ =>
          rw [runActions, hstep, Option.bind_some] at hrun
          exact Relation.ReflTransGen.head ⟨a, hstep⟩ (ih hrun)

/-- A stable set holds at the end of every enabled run of actions from one of its
states. -/
theorem Stable.runActions
    {f : σ → α → Option σ}
    {P : σ → Prop}
    (hP : Stable (OfFn f) P)
    {s s' : σ}
    {as : List α}
    (hs : P s)
    (hrun : Transition.runActions f s as = some s') :
    P s' :=
  hP.holds_of_run hs (runActions_reflTransGen as hrun)

/-- Two enabled runs, one after the other. -/
theorem runActions_append
    {f : σ → α → Option σ}
    (as bs : List α) :
    ∀ {s s₁ s' : σ}, runActions f s as = some s₁ → runActions f s₁ bs = some s' →
      runActions f s (as ++ bs) = some s' := by
  induction as with
  | nil =>
      intro s s₁ s' h₁ h₂
      cases h₁
      exact h₂
  | cons a as ih =>
      intro s s₁ s' h₁ h₂
      cases hstep : f s a with
      | none =>
          simp [runActions, hstep] at h₁
      | some t =>
          rw [runActions, hstep, Option.bind_some] at h₁
          rw [List.cons_append, runActions, hstep, Option.bind_some]
          exact ih h₁ h₂

end StepFunction

end Transition
