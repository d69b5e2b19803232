import ContainerBuild.Files.Access
import ContainerBuild.Staging

/-
  This file defines stagers, which make contexts and take
  them away, and the stager of a disk.

  Key definitions include:
    * `Stager`
    * `Stager.onDisk`
-/

namespace ContainerBuild

/-
  A stager in a world of states `σ`: it stages a stored file
  under a name and releases the context in the end.
-/
structure Stager (σ : Type) where
  stage : String → String → Action σ BuildContext
  release : BuildContext → σ → σ

/- The stager that works within a base directory. -/
def Stager.onDisk
    {σ : Type}
    (access : DiskAccess σ)
    (base : Option Path) : Stager σ :=
  ⟨fun source name =>
      access.lift (Staging.stage base source name),
    fun c s => access.update (c.clear (access.view s)) s⟩

end ContainerBuild
