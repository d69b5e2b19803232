import ContainerBuild.CommandLine.Reading
import ContainerBuild.Files.Path

/-
  This file defines what can be asked for on the command
  line: to build a Dockerfile into an image, or to parse a
  saved transcript. A command has options and an operand of
  its own; whatever has no place among them is a misuse.

  Key definitions include:
    * `BuildTask`
    * `Task`
    * `Invocation`
    * `Invocation.ofTexts`
    * `Stop.code`
-/

namespace ContainerBuild.CommandLine

------------------------------------------------------------
-- Tasks
------------------------------------------------------------

/-
  A Dockerfile to build, and what it and the image are
  called. Both names may be given as nothing.
-/
structure BuildTask where
  dockerfile : Path
  fileName : Option String
  namespaceName : String
  repository : String
  image : Option String
  config : Option Path
deriving DecidableEq, Repr

/- What there is to do. -/
inductive Task
  | build (t : BuildTask)
  | parse (transcript : Path) (records : Bool)
deriving DecidableEq, Repr

/- A task, and whether details of it are to be told. -/
structure Invocation where
  verbose : Bool
  task : Task
deriving DecidableEq, Repr

/- The exit code when nothing is done. -/
def Stop.code : Stop → Nat
  | help => 0
  | misuse => 2

------------------------------------------------------------
-- Grammars
------------------------------------------------------------

/- The command and what belongs to it. -/
def commands : Grammar :=
  ⟨[.help, .flag (some 'v') "--verbose"], true⟩

/- The options of building, and the Dockerfile. -/
def building : Grammar :=
  ⟨[.help, .valued "--name", .valued "--namespace",
    .valued "--repository", .valued "--image",
    .valued "--config"], false⟩

/- The options of parsing, and the transcript. -/
def parsing : Grammar :=
  ⟨[.help, .flag none "--json-stream"], false⟩

/- The name of a file for which no name is given. -/
def usualFileName : String :=
  "Dockerfile"

/- How the command line is used. -/
def usage : String :=
  "usage: build DOCKERFILE --namespace NAMESPACE "
    ++ "--repository REPOSITORY --image IMAGE "
    ++ "[--name NAME] [--config CONFIG]\n"
    ++ "       parse TRANSCRIPT [--json-stream]"

------------------------------------------------------------
-- Invocations
------------------------------------------------------------

/- How nothing is shown where a text is due. -/
def nothingText : String :=
  "[]"

/- The text that is shown for what was given. -/
def shown (given : Option String) : String :=
  given.getD nothingText

namespace Reading

/- The operand, if it is a single text. -/
def single? (r : Reading) : Option String :=
  match r.operand with
  | [text] => some text
  | _ => none

/- The task of building that was read. -/
def buildTask? (r : Reading) : Option BuildTask :=
  match r.single?, r.value? "--namespace",
      r.value? "--repository", r.value? "--image" with
  | some file, some space, some repository, some image =>
      some ⟨Path.ofText file,
        (r.value? "--name").getD (some usualFileName),
        shown space, shown repository, image,
        (r.value? "--config").bind
          (fun given => given.map Path.ofText)⟩
  | _, _, _, _ => none

/- The task of parsing that was read. -/
def parseTask? (r : Reading) : Option Task :=
  r.single?.map
    (fun file =>
      .parse (Path.ofText file) (r.has "--json-stream"))

/- A task, unless something had no place. -/
def settle
    (r : Reading)
    (task : Option Task) : Except Stop Task :=
  match task, r.surplus with
  | some t, [] => .ok t
  | _, _ => .error .misuse

end Reading

namespace Task

/- The task of a command with its arguments. -/
def ofCommand
    (command : String)
    (texts : List String) : Except Stop Task :=
  if command = "build" then
    match building.read texts with
    | .error s => .error s
    | .ok r => r.settle (r.buildTask?.map build)
  else if command = "parse" then
    match parsing.read texts with
    | .error s => .error s
    | .ok r => r.settle r.parseTask?
  else
    .error .misuse

end Task

namespace Invocation

/- The invocation that was read. -/
def ofReading (r : Reading) : Except Stop Invocation :=
  match r.operand with
  | [] => .error .misuse
  | command :: texts =>
      match Task.ofCommand command texts with
      | .error s => .error s
      | .ok task =>
          match r.settle (some task) with
          | .error s => .error s
          | .ok t => .ok ⟨r.has "--verbose", t⟩

/- The invocation that the arguments ask for. -/
def ofTexts
    (texts : List String) : Except Stop Invocation :=
  match commands.read texts with
  | .error s => .error s
  | .ok r => ofReading r

end Invocation

end ContainerBuild.CommandLine
