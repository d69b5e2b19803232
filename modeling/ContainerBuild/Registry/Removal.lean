import ContainerBuild.Registry.Client

/-
  This file defines how an image is removed from a registry:
  its digest is asked for first, and the manifest with that
  digest is deleted.

  Key definitions include:
    * `RegistryClient.digestOf`
    * `RegistryClient.remove`
-/

namespace ContainerBuild

namespace RegistryClient

/- The header that holds a digest. -/
def digestHeader : String :=
  "Docker-Content-Digest"

/- The digest that an answer holds, unless it is empty. -/
def digestOf (r : Response) : Option String :=
  if r.status = 200 then
    match Headers.get? digestHeader r.headers with
    | none => none
    | some d => if d = "" then none else some d
  else
    none

/- The error about an image that is not there. -/
def notFound
    (name tag : String)
    (status : Int) : Failure :=
  .build (.registry
    ("Image " ++ name ++ ":" ++ tag
      ++ " not found in registry (status "
      ++ integerText status ++ ")"))

/- The request that deletes the manifest with a digest. -/
def deletion
    (c : RegistryClient)
    (name digest : String) : Request :=
  c.request .delete (name ++ "/manifests/" ++ digest)

/- What the answer to a deletion says. -/
def deletionAnswer
    (name tag : String)
    (r : Response) : Except Failure Unit :=
  if r.status = 200 || r.status = 202 then
    .ok ()
  else
    .error (unexpectedStatus r.status
      ("deleting " ++ name ++ ":" ++ tag))

/- Remove an image. -/
def remove
    {σ : Type}
    (c : RegistryClient)
    (transport : Transport σ)
    (name tag : String) : Action σ Unit :=
  (send transport (c.manifestRequest .head name tag)).next
    (fun r =>
      match digestOf r with
      | none => Action.fail (notFound name tag r.status)
      | some digest =>
          (send transport (c.deletion name digest)).next
            (fun answer =>
              Action.ofExcept
                (deletionAnswer name tag answer)))

end RegistryClient

end ContainerBuild
