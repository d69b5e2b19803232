import ContainerBuild.Files.Disk

/-
  This file defines build contexts: fresh directories that
  hold a copy of a stored Dockerfile. If the copy fails, the
  directory is removed again.

  Key definitions include:
    * `BuildContext`
    * `BuildContext.clear`
    * `Staging.isFileName`
    * `Staging.stage`
-/

namespace ContainerBuild

------------------------------------------------------------
-- Contexts
------------------------------------------------------------

/- A directory and the name of the Dockerfile in it. -/
structure BuildContext where
  directory : Path
  dockerfile : String
deriving DecidableEq, Repr

namespace BuildContext

/- The path of the Dockerfile. -/
def dockerfilePath (c : BuildContext) : Path :=
  c.directory.join (Path.ofText c.dockerfile)

/- Remove the directory with everything in it. -/
def clear
    (c : BuildContext)
    (d : Disk) : Disk :=
  d.removeTree c.directory.toText

end BuildContext

------------------------------------------------------------
-- Staging
------------------------------------------------------------

namespace Staging

/- Whether a text is the name of a file, without slashes. -/
def isFileName (name : String) : Bool :=
  name != "" && (Path.ofText name).name == name

/- The error about an unsuitable name. -/
def invalidName (name : String) : BuildError :=
  .stagingFailed ("Invalid Dockerfile name '" ++ name ++ "'")

/- The error about a directory that cannot be made. -/
def notCreated (reason : String) : BuildError :=
  .stagingFailed
    ("Could not create staging directory: " ++ reason)

/- The error about a Dockerfile that cannot be copied. -/
def notCopied
    (source target reason : String) : BuildError :=
  .stagingFailed
    ("Could not copy Dockerfile " ++ source ++ " to " ++ target
      ++ ": " ++ reason)

/- Replace a failure of the system by an error. -/
def explain
    (error : String → BuildError)
    (f : Failure) : Failure :=
  match f.systemMessage? with
  | some reason => .build (error reason)
  | none => f

/-
  Make a new directory in the base directory, which is made
  if it is missing, or among the temporary files.
-/
def newDirectory
    (base : Option Path) : Action Disk Path :=
  match base with
  | none => fun d => Disk.makeTemporary d.temporary d
  | some dir =>
      (Disk.makeDirectories dir).next
        (fun _ => Disk.makeTemporary dir)

/- The base directory that a text names, unless it is empty. -/
def baseOf (text : Option String) : Option Path :=
  match text with
  | none => none
  | some s => if s = "" then none else some (Path.ofText s)

/-
  Copy the Dockerfile into its context. A context whose copy
  fails is cleared, unless a path cannot be written at all.
-/
def fill
    (source : String)
    (c : BuildContext) : Action Disk BuildContext :=
  fun d =>
    let target := c.dockerfilePath.toText
    match Disk.copyFile source target d with
    | (.ok (), d') => (.ok c, d')
    | (.error f, d') =>
        match f.systemMessage? with
        | none => (.error f, d')
        | some reason =>
            (.error (.build (notCopied source target reason)),
              c.clear d')

/-
  Make a context within a base directory that holds a stored
  Dockerfile under a given name.
-/
def stage
    (base : Option Path)
    (source name : String) : Action Disk BuildContext :=
  if isFileName name then
    ((newDirectory base).mapFailure (explain notCreated)).next
      (fun dir => fill source ⟨dir, name⟩)
  else
    Action.failBuild (invalidName name)

end Staging

------------------------------------------------------------
-- Histories
------------------------------------------------------------

/- A context and whether it has been released. -/
structure StagedContext where
  context : BuildContext
  released : Bool
deriving DecidableEq, Repr

/- The contexts made so far and the disk they are on. -/
structure StagingArea where
  disk : Disk
  contexts : List StagedContext
deriving Repr

namespace StagingArea

/- What can be done in a staging area. -/
inductive Step
  | stage (source name : String)
  | release (index : Nat)
  | within (index : Nat) (failure : Option Failure)
  | write (index : Nat) (name : String) (octets : List UInt8)

/- What a step gives. -/
inductive Outcome
  | staged (c : BuildContext)
  | done
  | inside (found : Bool)
  | skipped

/- Replace the disk. -/
def setDisk
    (d : Disk)
    (a : StagingArea) : StagingArea :=
  ⟨d, a.contexts⟩

/- Add a context. -/
def add
    (c : BuildContext)
    (a : StagingArea) : StagingArea :=
  ⟨a.disk, a.contexts ++ [⟨c, false⟩]⟩

/- Release a context; a second time changes nothing. -/
def release
    (index : Nat)
    (a : StagingArea) : StagingArea :=
  match a.contexts[index]? with
  | none => a
  | some s =>
      if s.released then
        a
      else
        ⟨s.context.clear a.disk,
          a.contexts.set index ⟨s.context, true⟩⟩

/- Whether the Dockerfile of a context is there. -/
def hasDockerfile
    (c : BuildContext)
    (a : StagingArea) : Bool :=
  a.disk.existsAt c.dockerfilePath.toText

/- Write a file in a context and the directories above it. -/
def writeIn
    (c : BuildContext)
    (name : String)
    (octets : List UInt8) : Action Disk Unit :=
  let target := c.directory.join (Path.ofText name)
  (Disk.makeDirectories target.parent).next
    (fun _ => Disk.store target.toText (.octets octets))

/- Do a step with an existing context. -/
def doWith
    (index : Nat)
    (f : BuildContext → Action StagingArea Outcome) :
    Action StagingArea Outcome :=
  fun a =>
    match a.contexts[index]? with
    | none => (.ok .skipped, a)
    | some s => f s.context a

/-
  Do a step. A step within a context releases it at its end,
  also when it fails.
-/
def step
    (base : Option Path)
    (s : Step) : Action StagingArea Outcome :=
  match s with
  | .stage source name =>
      ((Staging.stage base source name).onPart disk
        setDisk).next
        (fun c a => (.ok (.staged c), a.add c))
  | .release index =>
      doWith index (fun _ a => (.ok .done, a.release index))
  | .within index failure =>
      doWith index
        (fun c a =>
          (match failure with
            | none => .ok (.inside (a.hasDockerfile c))
            | some f => .error f,
            a.release index))
  | .write index name octets =>
      doWith index
        (fun c =>
          ((writeIn c name octets).onPart disk setDisk).next
            (fun _ a => (.ok .done, a)))

end StagingArea

end ContainerBuild
