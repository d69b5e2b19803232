import ContainerBuild.Builder.Conclusion
import ContainerBuild.ImageName
import ContainerBuild.Registry
import ContainerBuild.Stager

/-
  This file defines the builder, which has images built: it
  checks the name, asks the registry, stages the Dockerfile,
  has the backend build it, and concludes from the reply, in
  this order. The context is released in any case.

  Key definitions include:
    * `Builder`
    * `BuildOrder`
    * `Builder.check`
    * `Builder.buildStaged`
    * `Builder.build`
    * `Builder.save`
    * `Builder.remove`
-/

namespace ContainerBuild

/- A builder and its collaborators. -/
structure Builder (σ : Type) where
  backend : Backend σ
  registry : Option (Registry σ)
  stager : Stager σ
  access : DiskAccess σ
  timeout : Option Binary64

/- What a user wants to have built. -/
structure BuildOrder where
  source : String
  dockerfile : String
  namespaceName : String
  repository : String
  image : String
deriving DecidableEq, Repr

/- The reference of the image that is wanted. -/
def BuildOrder.reference (o : BuildOrder) : Reference :=
  Reference.ofUserInput o.namespaceName o.repository o.image

namespace Builder

variable {σ : Type}

------------------------------------------------------------
-- Checks
------------------------------------------------------------

/- The name must be valid. -/
def checkName (o : BuildOrder) : Except Failure Unit :=
  match ImageName.check o.image with
  | .ok () => .ok ()
  | .error e => .error (.build (.invalidName e))

/- The image must not be there yet. -/
def checkAbsent
    (b : Builder σ)
    (o : BuildOrder) : Action σ Unit :=
  match b.registry with
  | none => Action.give ()
  | some registry =>
      (registry.hasImage o.reference.repositoryPath
        o.reference.imageName).next
        (fun found =>
          if found then
            Action.failBuild
              (.alreadyExists o.reference.fullName)
          else
            Action.give ())

/- What is checked before anything is done. -/
def check
    (b : Builder σ)
    (o : BuildOrder) : Action σ Unit :=
  match checkName o with
  | .error f => Action.fail f
  | .ok () => b.checkAbsent o

/- The result of an order that fails a check. -/
def rejection
    (o : BuildOrder)
    (f : Failure) : Except Failure BuildResult :=
  let issue (e : BuildError) :=
    (BuildResult.start o.reference.fullName).addIssue
      (Issue.ofError e .error (some o.image) none)
  match f with
  | .build (.invalidName e) => .ok (issue (.invalidName e))
  | .build (.alreadyExists n) => .ok (issue (.alreadyExists n))
  | .build (.registry m) => .ok (issue (.registry m))
  | other => .error other

------------------------------------------------------------
-- Building
------------------------------------------------------------

/- The job that an order is in its context. -/
def job
    (b : Builder σ)
    (o : BuildOrder)
    (c : BuildContext) : BuildRequest :=
  ⟨c, o.reference.fullName, b.timeout⟩

/- Build in a context and read the reply. -/
def reply
    (b : Builder σ)
    (o : BuildOrder)
    (c : BuildContext) : Action σ Body :=
  (b.backend.build (b.job o c)).next (fun read => read)

/- Build in a context. -/
def buildIn
    (b : Builder σ)
    (o : BuildOrder)
    (c : BuildContext) : Action σ BuildResult :=
  (b.reply o c).attempt.next
    (fun r =>
      Action.ofExcept
        (Conclusion.ofReply o.reference.fullName
          b.backend.format r))

/- Stage the Dockerfile, build, and release the context. -/
def buildStaged
    (b : Builder σ)
    (o : BuildOrder) : Action σ BuildResult :=
  (b.stager.stage o.source o.dockerfile).next
    (fun c s =>
      match b.buildIn o c s with
      | (r, s') => (r, b.stager.release c s'))

/- The result of an order that could not be staged. -/
def stagingResult
    (o : BuildOrder)
    (r : Except Failure BuildResult) :
    Except Failure BuildResult :=
  match r with
  | .error (.build (.stagingFailed m)) =>
      .ok ((BuildResult.start o.reference.fullName).addIssue
        (Issue.ofError (.stagingFailed m) .error
          (some o.source) none))
  | other => other

/- Have an order built. -/
def build
    (b : Builder σ)
    (o : BuildOrder) : Action σ BuildResult :=
  fun s =>
    match b.check o s with
    | (.error f, s') => (rejection o f, s')
    | (.ok (), s') =>
        match b.buildStaged o s' with
        | (r, s'') => (stagingResult o r, s'')

------------------------------------------------------------
-- Images of the registry
------------------------------------------------------------

/- The error of a builder without a registry. -/
def noRegistry : BuildError :=
  .registry "No registry is configured"

/- The name of an image within a namespace. -/
def qualifiedName
    (namespaceName name : String) : String :=
  if namespaceName = "" then
    name
  else
    namespaceName ++ "/" ++ name

/-
  Whether a file is removed after a failure: after an error
  of the registry or of the system.
-/
def discardsAfter (f : Failure) : Bool :=
  match f with
  | .build (.registry _) => true
  | other => other.systemMessage?.isSome

/- Save into a file, which is removed after some failures. -/
def saveInto
    (access : DiskAccess σ)
    (save : Path → Action σ Unit)
    (target : Path) : Action σ Path :=
  fun s =>
    match save target s with
    | (.ok (), s') => (.ok target, s')
    | (.error f, s') =>
        if discardsAfter f then
          match
            access.lift (Disk.discard target.toText) s' with
          | (.ok (), s'') => (.error f, s'')
          | (.error g, s'') => (.error g, s'')
        else
          (.error f, s')

/- Save an image of the registry into a temporary file. -/
def save
    (b : Builder σ)
    (namespaceName name tag : String) : Action σ Path :=
  match b.registry with
  | none => Action.failBuild noRegistry
  | some registry =>
      (b.access.lift (Disk.makeTemporaryFile ".tar")).next
        (saveInto b.access
          (registry.save
            (qualifiedName namespaceName name) tag))

/- Remove an image from the registry. -/
def remove
    (b : Builder σ)
    (name tag : String) : Action σ Unit :=
  match b.registry with
  | none => Action.failBuild noRegistry
  | some registry => registry.remove name tag

end Builder

end ContainerBuild
