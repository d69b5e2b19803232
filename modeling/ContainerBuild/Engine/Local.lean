import ContainerBuild.Backend
import ContainerBuild.Process.Command

/-
  This file defines the engine behind a command: it runs the
  build command in a context and returns what that wrote, if
  it succeeded.

  Key definitions include:
    * `LocalEngine`
    * `LocalEngine.command`
    * `LocalEngine.request`
    * `LocalEngine.verdict`
    * `LocalEngine.backend`
-/

namespace ContainerBuild

/-
  The program to run, and whether to ask it for the plain
  transcript.
-/
structure LocalEngine where
  binary : String
  disableBuildkit : Bool
deriving DecidableEq, Repr

namespace LocalEngine

/- The build command for a context and an image. -/
def command
    (e : LocalEngine)
    (c : BuildContext)
    (imageName : String) : List String :=
  [e.binary, "build", "--file", c.dockerfilePath.toText,
    "--tag", imageName, c.directory.toText]

/- The variables that ask for the plain transcript. -/
def additions (e : LocalEngine) : Option Environment :=
  if e.disableBuildkit then
    some [("DOCKER_BUILDKIT", "0")]
  else
    none

/- The request that a build makes. -/
def request
    (e : LocalEngine)
    (b : BuildRequest) : CommandRequest :=
  ⟨e.command b.context b.imageName, none, b.timeout,
    e.additions, true⟩

/- Why a command failed: its code, or the system's text. -/
def failureDetail (r : CommandResult) : String :=
  match r.returnCode with
  | some code => "exit status " ++ integerText code
  | none => r.errors

/-
  The transcript of a build. A missing program, an expired
  time and a failed command are told apart in this order.
-/
def verdict
    (e : LocalEngine)
    (r : CommandResult) : Except BuildError String :=
  if !r.toolAvailable then
    .error (.unreachable
      ("Docker CLI not available: " ++ e.binary) "")
  else if r.timedOut then
    .error (.buildFailed
      ("docker build timed out after "
        ++ roundedText r.duration ++ "s")
      r.combined true)
  else if r.succeeded then
    .ok r.combined
  else
    .error (.buildFailed
      ("docker build failed: " ++ failureDetail r)
      r.combined false)

/- Build by a runner of commands. -/
def build
    {σ : Type}
    (e : LocalEngine)
    (run : Runner σ)
    (b : BuildRequest) : Action σ String :=
  (run (e.request b)).next
    (fun r =>
      match e.verdict r with
      | .ok s => Action.give s
      | .error x => Action.failBuild x)

/- The engine as a backend. -/
def backend
    {σ : Type}
    (e : LocalEngine)
    (run : Runner σ) : Backend σ :=
  ⟨.text, fun b =>
    (e.build run b).next
      (fun s => Action.give (Action.give (.whole (.text s))))⟩

end LocalEngine

end ContainerBuild
