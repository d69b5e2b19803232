import ContainerBuild.Action
import ContainerBuild.Environment
import ContainerBuild.Files.Path
import ContainerBuild.Stream.Body

/-
  This file defines how commands are run: the launch that a
  request asks for, how a launch can end, and the result
  that is made of each ending. A missing program, a program
  that takes too long, and a launch that the system refuses
  are results too; only what no result can stand for is a
  failure.

  Key definitions include:
    * `Launch`
    * `LaunchFault`
    * `Ending`
    * `CommandRequest`
    * `CommandResult`
    * `CommandResult.ofEnding`
    * `CommandRequest.run`
-/

namespace ContainerBuild

open Text

------------------------------------------------------------
-- Launches
------------------------------------------------------------

/-
  What the system is asked to run. Without an environment
  the program gets that of its parent.
-/
structure Launch where
  command : List String
  directory : Option String
  environment : Option Environment
  merged : Bool
  timeout : Option Binary64
deriving DecidableEq, Repr

namespace Launch

/- The texts that a system is handed for a launch. -/
def handed (l : Launch) : List String :=
  l.command ++ l.directory.toList
    ++ (l.environment.getD []).flatMap
      (fun v => [v.1, v.2])

/- Whether a null character is handed over. -/
def holdsNull (l : Launch) : Bool :=
  l.handed.any (fun t => t.toList.contains '\x00')

end Launch

/-
  Why a launch comes to nothing: the octets that the program
  wrote are no text, or the system cannot take what it is
  handed.
-/
inductive LaunchFault
  | undecodable (octets : List UInt8)
  | untaken (f : Failure)
deriving DecidableEq, Repr

/- The failure that a fault is. -/
def LaunchFault.failure : LaunchFault → Failure
  | undecodable _ => .undecodable
  | untaken f => f

/- How a launch ends. -/
inductive Outcome
  | finished (code : Int) (output errors : Option String)
  | expired (output errors : Option Chunk)
  | refused (e : SystemError)
  | failed (fault : LaunchFault)
deriving DecidableEq, Repr

/- An outcome and the seconds that passed before it. -/
structure Ending where
  outcome : Outcome
  elapsed : Binary64
deriving DecidableEq, Repr

/- The way to run programs in a world. -/
abbrev Launcher
    (σ : Type) : Type :=
  Launch → Action σ Ending

------------------------------------------------------------
-- Results
------------------------------------------------------------

/- Why a command has no return code. -/
inductive CommandFault
  | expired
  | refused (e : SystemError)
deriving DecidableEq, Repr

/- The result of a command. -/
structure CommandResult where
  returnCode : Option Int
  output : String
  errors : String
  duration : Binary64
  timedOut : Bool
  toolAvailable : Bool
  fault : Option CommandFault
deriving DecidableEq, Repr

namespace CommandResult

/- Whether the command ran and reported success. -/
def succeeded (r : CommandResult) : Bool :=
  r.returnCode = some 0 && !r.timedOut && r.toolAvailable

/- What the command wrote, errors last. -/
def combined (r : CommandResult) : String :=
  r.output ++ r.errors

/-
  The text of what had arrived when the time was up. Octets
  that are no text are replaced.
-/
def partialText (c : Option Chunk) : String :=
  match c with
  | none => ""
  | some (.text s) => s
  | some (.octets bs) => String.ofList (decode bs)

/- Whether the system says that there is no such program. -/
def isMissing (e : SystemError) : Bool :=
  match e with
  | .numbered number _ _ => number = 2
  | .plain _ => false

/- The result of a launch that the system refused. -/
def ofRefusal
    (command : List String)
    (elapsed : Binary64)
    (e : SystemError) : Except Failure CommandResult :=
  if isMissing e then
    match command with
    | [] => .error .outOfRange
    | program :: _ =>
        .ok ⟨none, "", "Command not found: " ++ program,
          elapsed, false, false, some (.refused e)⟩
  else
    .ok ⟨none, "", e.message, elapsed, false, true,
      some (.refused e)⟩

/- The result that an ending makes. -/
def ofEnding
    (command : List String)
    (ending : Ending) : Except Failure CommandResult :=
  match ending.outcome with
  | .finished code output errors =>
      .ok ⟨some code, output.getD "", errors.getD "",
        ending.elapsed, false, true, none⟩
  | .expired output errors =>
      .ok ⟨none, partialText output, partialText errors,
        ending.elapsed, true, true, some .expired⟩
  | .refused e => ofRefusal command ending.elapsed e
  | .failed fault => .error fault.failure

end CommandResult

------------------------------------------------------------
-- Requests
------------------------------------------------------------

/- A command with the variables that are set for it. -/
structure CommandRequest where
  command : List String
  directory : Option Path
  timeout : Option Binary64
  added : Option Environment
  mergeErrors : Bool
deriving DecidableEq, Repr

/- The way to run commands in a world. -/
abbrev Runner
    (σ : Type) : Type :=
  CommandRequest → Action σ CommandResult

namespace CommandRequest

/-
  The environment of the program: that of the parent with
  the variables over it, if there are some.
-/
def environmentOver
    (parent : Environment)
    (r : CommandRequest) : Option Environment :=
  match r.added with
  | none => none
  | some [] => none
  | some vs => some (parent.setAll vs)

/- The launch that a request asks for. -/
def launch
    (parent : Environment)
    (r : CommandRequest) : Launch :=
  ⟨r.command, r.directory.map Path.toText,
    r.environmentOver parent, r.mergeErrors, r.timeout⟩

/- Run a command. -/
def run
    {σ : Type}
    (launcher : Launcher σ)
    (parent : Environment)
    (r : CommandRequest) : Action σ CommandResult :=
  (launcher (r.launch parent)).next
    (fun ending =>
      Action.ofExcept
        (CommandResult.ofEnding r.command ending))

end CommandRequest

end ContainerBuild
