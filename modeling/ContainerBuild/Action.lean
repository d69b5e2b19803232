import ContainerBuild.Failure

/-
  This file defines actions: computations that change a
  state and may fail. A failure keeps the state reached so
  far, so that what happened before it is not forgotten.

  Key definitions include:
    * `Action`
    * `Action.fail`
    * `Action.attempt`
    * `Action.onPart`
-/

namespace ContainerBuild

/- A computation over a state that may fail. -/
def Action
    (σ : Type)
    (α : Type) : Type :=
  σ → Except Failure α × σ

namespace Action

variable {σ τ α β : Type}

/- Run an action in a state. -/
def run
    (m : Action σ α)
    (s : σ) : Except Failure α × σ :=
  m s

/- Do nothing and give a value. -/
def give (a : α) : Action σ α :=
  fun s => (.ok a, s)

/- Go on with the value of an action, unless it failed. -/
def next
    (m : Action σ α)
    (f : α → Action σ β) : Action σ β :=
  fun s =>
    match m s with
    | (.ok a, s') => f a s'
    | (.error e, s') => (.error e, s')

instance : Monad (Action σ) where
  pure := give
  bind := next

/- Fail. -/
def fail (f : Failure) : Action σ α :=
  fun s => (.error f, s)

/- Fail with an error of building. -/
def failBuild (e : BuildError) : Action σ α :=
  fail (.build e)

/- Give a result that is already known. -/
def ofExcept (r : Except Failure α) : Action σ α :=
  fun s => (r, s)

/- The state. -/
def look : Action σ σ :=
  fun s => (.ok s, s)

/- Change the state. -/
def change (f : σ → σ) : Action σ Unit :=
  fun s => (.ok (), f s)

/- Run an action and give its outcome, failed or not. -/
def attempt
    (m : Action σ α) : Action σ (Except Failure α) :=
  fun s =>
    match m s with
    | (r, s') => (.ok r, s')

/- Replace the failure of an action. -/
def mapFailure
    (f : Failure → Failure)
    (m : Action σ α) : Action σ α :=
  fun s =>
    match m s with
    | (.ok a, s') => (.ok a, s')
    | (.error e, s') => (.error (f e), s')

/- Run an action on a part of the state. -/
def onPart
    (part : σ → τ)
    (put : τ → σ → σ)
    (m : Action τ α) : Action σ α :=
  fun s =>
    match m (part s) with
    | (r, t) => (r, put t s)

------------------------------------------------------------
-- Runs
------------------------------------------------------------

theorem next_of_ok
    {m : Action σ α}
    {s s' : σ}
    {a : α}
    (hRun : m s = (.ok a, s'))
    (f : α → Action σ β) :
    m.next f s = f a s' := by
  simp only [next, hRun]

theorem next_of_error
    {m : Action σ α}
    {s s' : σ}
    {e : Failure}
    (hRun : m s = (.error e, s'))
    (f : α → Action σ β) :
    m.next f s = (.error e, s') := by
  simp only [next, hRun]

theorem next_eq_ok_iff
    {m : Action σ α}
    {f : α → Action σ β}
    {s s' : σ}
    {b : β} :
    m.next f s = (.ok b, s') ↔
      ∃ a t, m s = (.ok a, t) ∧ f a t = (.ok b, s') := by
  unfold next
  cases hRun : m s with
  | mk r t =>
      cases r with
      | error e => simp
      | ok a =>
          simp only [Prod.mk.injEq, Except.ok.injEq]
          constructor
          · intro hNext
            exact ⟨a, t, ⟨rfl, rfl⟩, hNext⟩
          · rintro ⟨_, _, ⟨rfl, rfl⟩, hNext⟩
            exact hNext

theorem mapFailure_eq_ok_iff
    {m : Action σ α}
    {f : Failure → Failure}
    {s s' : σ}
    {a : α} :
    m.mapFailure f s = (.ok a, s') ↔
      m s = (.ok a, s') := by
  unfold mapFailure
  cases hRun : m s with
  | mk r t => cases r <;> simp

end Action

end ContainerBuild
