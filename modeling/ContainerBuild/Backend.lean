import ContainerBuild.Action
import ContainerBuild.Staging
import ContainerBuild.Stream.Body

/-
  This file defines backends: the ways to build the image of
  a context. A backend sends a build and answers with a
  reply that is read later, so that what goes wrong during
  the reading comes with what had arrived before it.

  Key definitions include:
    * `OutputFormat`
    * `BuildRequest`
    * `Backend`
-/

namespace ContainerBuild

/-
  What a reply holds: the transcript itself, or the stream
  of records that carries it.
-/
inductive OutputFormat
  | text
  | records
deriving DecidableEq, Repr

/- A build that is asked for. -/
structure BuildRequest where
  context : BuildContext
  imageName : String
  timeout : Option Binary64
deriving DecidableEq, Repr

/- A backend in a world of states `σ`. -/
structure Backend (σ : Type) where
  format : OutputFormat
  build : BuildRequest → Action σ (Action σ Body)

end ContainerBuild
