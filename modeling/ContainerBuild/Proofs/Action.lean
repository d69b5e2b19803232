import ContainerBuild.Action

/-
  This file says with which failures actions fail at most,
  and which properties of the state they keep up.

  Key definitions include:
    * `Action.Gives`
    * `Action.FailsOnly`
    * `Action.Keeps`

  Main statements:
    * `Action.FailsOnly.next`
    * `Action.FailsOnly.mapFailure`
    * `Action.Keeps.next`
-/

namespace ContainerBuild.Action

variable {σ τ α β : Type}

/- An action that fails is not gone on with. -/
theorem fst_next_of_error
    {m : Action σ α}
    {s : σ}
    {e : Failure}
    (hRun : (m s).1 = .error e)
    (f : α → Action σ β) :
    (m.next f s).1 = .error e := by
  rcases hFull : m s with ⟨r, t⟩
  rw [hFull] at hRun
  cases hRun
  rw [Action.next_of_error hFull]

theorem fst_mapFailure_of_error
    {m : Action σ α}
    {s : σ}
    {e : Failure}
    (hRun : (m s).1 = .error e)
    (f : Failure → Failure) :
    (m.mapFailure f s).1 = .error (f e) := by
  rcases hFull : m s with ⟨r, t⟩
  rw [hFull] at hRun
  cases hRun
  simp only [Action.mapFailure, hFull]

/- In some state the action gives the value. -/
def Gives
    (m : Action σ α)
    (a : α) : Prop :=
  ∃ s, (m s).1 = .ok a

/- In every state a failure is one of some. -/
def FailsOnly
    (allowed : Failure → Prop)
    (m : Action σ α) : Prop :=
  ∀ s f, (m s).1 = .error f → allowed f

namespace FailsOnly

variable {allowed allowed' : Failure → Prop}
variable {m : Action σ α}

theorem give (a : α) :
    (Action.give a : Action σ α).FailsOnly allowed := by
  intro s f hFails
  exact absurd hFails (by simp [Action.give])

theorem fail
    {f : Failure}
    (hAllowed : allowed f) :
    (Action.fail f : Action σ α).FailsOnly allowed := by
  intro s g hFails
  cases hFails
  exact hAllowed

theorem ofExcept
    {r : Except Failure α}
    (hAllowed : ∀ f, r = .error f → allowed f) :
    (Action.ofExcept r : Action σ α).FailsOnly allowed :=
  fun _ f hError => hAllowed f hError

theorem mono
    (hFails : m.FailsOnly allowed)
    (hWithin : ∀ f, allowed f → allowed' f) :
    m.FailsOnly allowed' :=
  fun s f hError => hWithin f (hFails s f hError)

/- What comes next matters only for values that are given. -/
theorem next
    {f : α → Action σ β}
    (hFirst : m.FailsOnly allowed)
    (hNext : ∀ a, m.Gives a → (f a).FailsOnly allowed) :
    (m.next f).FailsOnly allowed := by
  intro s g hError
  cases hRun : m s with
  | mk r t =>
      cases r with
      | error e =>
          rw [Action.next_of_error hRun] at hError
          cases hError
          exact hFirst s g (by rw [hRun])
      | ok a =>
          rw [Action.next_of_ok hRun] at hError
          exact hNext a ⟨s, by rw [hRun]⟩ t g hError

theorem mapFailure
    {g : Failure → Failure}
    (hFails : m.FailsOnly allowed)
    (hMap : ∀ f, allowed f → allowed' (g f)) :
    (m.mapFailure g).FailsOnly allowed' := by
  intro s f hError
  unfold Action.mapFailure at hError
  cases hRun : m s with
  | mk r t =>
      rw [hRun] at hError
      cases r with
      | ok a => exact absurd hError (by simp)
      | error e =>
          cases hError
          exact hMap e (hFails s e (by rw [hRun]))

theorem onPart
    {part : τ → σ}
    {put : σ → τ → τ}
    (hFails : m.FailsOnly allowed) :
    (m.onPart part put).FailsOnly allowed :=
  fun s f hError => hFails (part s) f hError

end FailsOnly

/- The property is kept up, also when the action fails. -/
def Keeps
    (P : σ → Prop)
    (m : Action σ α) : Prop :=
  ∀ s, P s → P (m s).2

namespace Keeps

variable {P : σ → Prop}
variable {m : Action σ α}

theorem next
    {f : α → Action σ β}
    (hFirst : m.Keeps P)
    (hNext : ∀ a, (f a).Keeps P) :
    (m.next f).Keeps P := by
  intro s hHolds
  have hAfter := hFirst s hHolds
  rcases hRun : m s with ⟨r, t⟩
  rw [hRun] at hAfter
  cases r with
  | error e =>
      rw [Action.next_of_error hRun]
      exact hAfter
  | ok a =>
      rw [Action.next_of_ok hRun]
      exact hNext a t hAfter

theorem mapFailure
    {g : Failure → Failure}
    (hKeeps : m.Keeps P) :
    (m.mapFailure g).Keeps P := by
  intro s hHolds
  have hAfter := hKeeps s hHolds
  unfold Action.mapFailure
  rcases hRun : m s with ⟨r, t⟩
  rw [hRun] at hAfter
  cases r <;> exact hAfter

end Keeps

end ContainerBuild.Action
