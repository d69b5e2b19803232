import ContainerBuild.Files.Access
import ContainerBuild.Registry.Download
import ContainerBuild.Registry.Lookup
import ContainerBuild.Registry.Removal

/-
  This file defines registries as the builder uses them, and
  the registry behind a client.

  Key definitions include:
    * `Registry`
    * `RegistryClient.registry`
-/

namespace ContainerBuild

/-
  A registry in a world of states `σ`: it is asked for an
  image by repository and name, saves an image with a tag
  into a file, and removes an image with a tag.
-/
structure Registry (σ : Type) where
  hasImage : String → String → Action σ Bool
  save : String → String → Path → Action σ Unit
  remove : String → String → Action σ Unit

namespace RegistryClient

variable {σ : Type}

/- Save an image into a file. -/
def save
    (c : RegistryClient)
    (transport : Transport σ)
    (access : DiskAccess σ)
    (fullName tag : String)
    (target : Path) : Action σ Unit :=
  (c.download transport fullName tag).next
    (fun ms =>
      access.lift
        (Disk.store target.toText (.archive ms)))

/- The registry behind a client. -/
def registry
    (c : RegistryClient)
    (transport : Transport σ)
    (access : DiskAccess σ) : Registry σ :=
  ⟨c.hasImage transport, c.save transport access,
    c.remove transport⟩

end RegistryClient

end ContainerBuild
