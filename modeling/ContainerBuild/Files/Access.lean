import ContainerBuild.Files.Disk

/-
  This file defines how a disk is kept in a larger world,
  and the actions of the disk as actions of that world.

  Key definitions include:
    * `DiskAccess`
    * `DiskAccess.lift`
-/

namespace ContainerBuild

/- How a world of states `σ` keeps a disk. -/
structure DiskAccess (σ : Type) where
  view : σ → Disk
  update : Disk → σ → σ

namespace DiskAccess

variable {σ α : Type}

/- An action of the disk in the world. -/
def lift
    (access : DiskAccess σ)
    (m : Action Disk α) : Action σ α :=
  m.onPart access.view access.update

theorem lift_eq
    {access : DiskAccess σ}
    {m : Action Disk α}
    {s : σ}
    {r : Except Failure α}
    {d : Disk}
    (hRun : m (access.view s) = (r, d)) :
    access.lift m s = (r, access.update d s) := by
  simp only [lift, Action.onPart, hRun]

/- The disk itself as a world. -/
def self : DiskAccess Disk :=
  ⟨fun d => d, fun d _ => d⟩

end DiskAccess

end ContainerBuild
