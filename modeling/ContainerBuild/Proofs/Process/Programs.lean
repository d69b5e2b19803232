import ContainerBuild.Process.Programs
import ContainerBuild.Proofs.Engine

/-
  This file says that programs end as launches are known to:
  a proper launch has a result, whatever the program does,
  unless it wrote octets that are no text, or was handed a
  null character.

  Main statements:
    * `Programs.isOrdinary_outcome`
    * `Programs.launcher_isOrdinary`
-/

namespace ContainerBuild.Programs

open Text

variable {l : Launch}

/- Of a proper launch only a null character is turned down. -/
theorem fault?_of_isProper
    {f : Failure}
    (hProper : l.IsProper)
    (hFault : fault? l = some f) :
    l.holdsNull = true ∧ f = .value "embedded null byte" := by
  have hPlain :
      ((l.environment.getD []).map Prod.fst).any
          (fun n => n.toList.contains '=') = false := by
    rw [List.any_eq_false]
    intro n hMem
    rcases List.mem_map.mp hMem with ⟨v, hVariable, rfl⟩
    simpa using hProper.plain v hVariable
  simp only [fault?, if_neg hProper.named, hPlain,
    Bool.false_eq_true, if_false] at hFault
  split at hFault
  · rename_i hNull
    exact ⟨hNull, (Option.some.inj hFault).symm⟩
  · exact absurd hFault (by simp)

theorem isOrdinary_of_readText
    {bs : List UInt8}
    {fault : LaunchFault}
    (hRead : readText bs = .error fault) :
    Outcome.IsOrdinary l (.failed fault) := by
  unfold readText at hRead
  split at hRead
  · exact absurd hRead (by simp)
  · rename_i hOctets
    cases hRead
    exact .undecodable bs hOctets

/- What a program wrote is read, or it is no text. -/
theorem isOrdinary_finished
    (merged : Bool)
    (m : Shell.Machine) :
    (finished merged m).IsOrdinary l := by
  unfold finished
  simp only
  split
  · rename_i hOutput
    exact isOrdinary_of_readText hOutput
  · split
    · exact .finished _ _ _
    · split
      · exact .finished _ _ _
      · rename_i hErrors
        exact isOrdinary_of_readText hErrors

theorem isOrdinary_outcome (m : Shell.Machine) :
    (outcome l m).IsOrdinary l := by
  unfold outcome expired
  split
  · exact isOrdinary_finished _ _
  · split
    · exact isOrdinary_finished _ _
    · simp only
      split <;> exact .expired _ _

/- A program that cannot be started is refused. -/
theorem isOrdinary_start
    (env : Environment)
    (l : Launch)
    (d : Disk) :
    (start env l d).1.IsOrdinary l := by
  unfold start
  simp only
  split
  · exact .refused _
  · split
    · exact .refused _
    · exact isOrdinary_outcome _

theorem isOrdinary_ending
    (hProper : l.IsProper)
    (parent : Environment)
    (d : Disk) :
    (ending parent l d).1.outcome.IsOrdinary l := by
  unfold ending
  split
  · rename_i f hFault
    rcases fault?_of_isProper hProper hFault with
      ⟨hNull, rfl⟩
    exact .null hNull
  · exact isOrdinary_start _ _ _

/- So launching programs is ordinary, in any world. -/
theorem launcher_isOrdinary
    {σ : Type}
    (access : DiskAccess σ)
    (parent : Environment) :
    (launcher access parent).IsOrdinary where
  ends := by
    rintro l s f ⟨⟩
  outcome := by
    rintro l _ hProper ⟨s, hRun⟩
    cases hRun
    exact isOrdinary_ending hProper parent _

end ContainerBuild.Programs
