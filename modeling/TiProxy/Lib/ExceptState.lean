import Mathlib.Order.Defs.Unbundled

/-!
# Programs with state and errors, and what they do to the state

A component whose methods change a state and may fail is modelled in
`ExceptT ε (StateM σ)`: a run from a state gives a result or an error, and the state
the program got to either way.  This module gives the equations of a run, one per way
of building a program, and a rule for relations between the state a program starts in
and the state it ends in:

* `Moves r m`: every run of `m` ends in a state related to its start by `r`, whether it
  returns or fails.  For a reflexive and transitive `r` this is closed under `pure`,
  `throw`, `>>=` and branching, so that a program built from methods that each move by
  `r` moves by `r`; a loop on fuel does, by induction on the fuel.

**Results.**
* `run_bind`: a run of `m >>= f` from the run of `m`.
* `Moves.bind`, `Moves.get_bind`, `Moves.ite`, `Moves.map`: the closure rules.
-/

namespace ExceptState

universe u

variable {ε σ α β : Type u}

/-- The run of a program from a state: its result and the state it ends in. -/
def run
    (m : ExceptT ε (StateM σ) α)
    (s : σ) : Except ε α × σ :=
  m.run.run s

@[simp] theorem run_pure
    (a : α)
    (s : σ) :
    run (pure a : ExceptT ε (StateM σ) α) s = (.ok a, s) := by
  rfl

@[simp] theorem run_throw
    (e : ε)
    (s : σ) :
    run (throw e : ExceptT ε (StateM σ) α) s = (.error e, s) := by
  rfl

@[simp] theorem run_get
    (s : σ) :
    run (get : ExceptT ε (StateM σ) σ) s = (.ok s, s) := by
  rfl

@[simp] theorem run_set
    (s s' : σ) :
    run (set s' : ExceptT ε (StateM σ) PUnit) s = (.ok ⟨⟩, s') := by
  rfl

@[simp] theorem run_modify
    (f : σ → σ)
    (s : σ) :
    run (modify f : ExceptT ε (StateM σ) PUnit) s = (.ok ⟨⟩, f s) := by
  rfl

@[simp] theorem run_get_bind
    (f : σ → ExceptT ε (StateM σ) α)
    (s : σ) :
    run (get >>= f) s = run (f s) s := by
  rfl

@[simp] theorem run_set_bind
    (s' : σ)
    (f : PUnit → ExceptT ε (StateM σ) α)
    (s : σ) :
    run (set s' >>= f) s = run (f ⟨⟩) s' := by
  rfl

@[simp] theorem run_modify_bind
    (g : σ → σ)
    (f : PUnit → ExceptT ε (StateM σ) α)
    (s : σ) :
    run (modify g >>= f) s = run (f ⟨⟩) (g s) := by
  rfl

@[simp] theorem run_pure_bind
    (a : α)
    (f : α → ExceptT ε (StateM σ) β)
    (s : σ) :
    run (pure a >>= f) s = run (f a) s := by
  rfl

@[simp] theorem run_throw_bind
    (e : ε)
    (f : α → ExceptT ε (StateM σ) β)
    (s : σ) :
    run (throw e >>= f) s = (.error e, s) := by
  rfl

@[simp] theorem run_map
    (f : α → β)
    (m : ExceptT ε (StateM σ) α)
    (s : σ) :
    run (f <$> m) s = ((run m s).1.map f, (run m s).2) := by
  simp only [run, ExceptT.run_map, StateT.run_map]
  rcases m.run.run s with ⟨_ | _, _⟩ <;> rfl

/-- A run of `m >>= f`, by the way the run of `m` ends. -/
theorem run_bind
    (m : ExceptT ε (StateM σ) α)
    (f : α → ExceptT ε (StateM σ) β)
    (s : σ) :
    run (m >>= f) s =
      match run m s with
      | (.ok a, s') => run (f a) s'
      | (.error e, s') => (.error e, s') := by
  simp only [run, ExceptT.run_bind, StateT.run_bind]
  rcases m.run.run s with ⟨_ | _, _⟩ <;> rfl

/-! ### Relations between the first and the last state -/

/-- Every run of `m` ends in a state that `r` relates to the state it started in. -/
def Moves
    (r : σ → σ → Prop)
    (m : ExceptT ε (StateM σ) α) : Prop :=
  ∀ s, r s (run m s).2

section Moves

variable {r : σ → σ → Prop}

theorem Moves.pure
    [Std.Refl r]
    (a : α) :
    Moves r (Pure.pure a : ExceptT ε (StateM σ) α) := fun s =>
  Std.Refl.refl s

theorem Moves.throw
    [Std.Refl r]
    (e : ε) :
    Moves r (MonadExcept.throw e : ExceptT ε (StateM σ) α) := fun s =>
  Std.Refl.refl s

theorem Moves.modify
    {f : σ → σ}
    (h : ∀ s, r s (f s)) :
    Moves r (modify f : ExceptT ε (StateM σ) PUnit) :=
  h

theorem Moves.map
    {m : ExceptT ε (StateM σ) α}
    (f : α → β)
    (h : Moves r m) :
    Moves r (f <$> m) := by
  intro s
  rw [run_map]
  exact h s

/-- A program that `>>=` builds moves by `r` when both parts do. -/
theorem Moves.bind
    [IsTrans σ r]
    {m : ExceptT ε (StateM σ) α}
    {f : α → ExceptT ε (StateM σ) β}
    (hm : Moves r m)
    (hf : ∀ a, Moves r (f a)) :
    Moves r (m >>= f) := by
  intro s
  rw [run_bind]
  rcases hres : run m s with ⟨res, s'⟩
  have hs' : r s s' := by simpa [hres] using hm s
  cases res with
  | ok a => exact IsTrans.trans _ _ _ hs' (hf a s')
  | error e => exact hs'

/-- A program that first reads the state moves by `r` when, from each state, what it
does next moves by `r` from that state. -/
theorem Moves.get_bind
    {f : σ → ExceptT ε (StateM σ) α}
    (hf : ∀ s, r s (run (f s) s).2) :
    Moves r (MonadState.get >>= f : ExceptT ε (StateM σ) α) := by
  intro s
  exact hf s

theorem Moves.ite
    {c : Prop}
    [Decidable c]
    {m₁ m₂ : ExceptT ε (StateM σ) α}
    (h₁ : Moves r m₁)
    (h₂ : Moves r m₂) :
    Moves r (if c then m₁ else m₂) := by
  split
  · exact h₁
  · exact h₂

theorem Moves.mono
    {r' : σ → σ → Prop}
    {m : ExceptT ε (StateM σ) α}
    (h : Moves r m)
    (hr : ∀ s s', r s s' → r' s s') :
    Moves r' m := fun s =>
  hr _ _ (h s)

end Moves

end ExceptState
