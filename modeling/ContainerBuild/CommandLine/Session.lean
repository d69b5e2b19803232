import ContainerBuild.CommandLine.Invocation
import ContainerBuild.ConfigFile
import ContainerBuild.Host
import ContainerBuild.Stream.Parsed
import ContainerBuild.Text.Newline
import ContainerBuild.Wire

/-
  This file defines what the command line answers: an exit
  code, what is printed, and notices. An error of building
  and one of the operating system become a notice; other
  failures are the caller's.

  Key definitions include:
    * `Notice`
    * `Reply`
    * `printedResult`
    * `Reply.ofResult`
    * `Reply.ofParsed`
    * `Task.perform`
    * `Invocation.run`
-/

namespace ContainerBuild.CommandLine

open Text

------------------------------------------------------------
-- Replies
------------------------------------------------------------

/- How grave a notice is. -/
inductive Level
  | warning
  | error
deriving DecidableEq, Repr

/- The name of a level. -/
def Level.label : Level → String
  | warning => "WARNING"
  | error => "ERROR"

/- What the user is told besides the output. -/
structure Notice where
  level : Level
  text : String
deriving DecidableEq, Repr

/- What the command line answers. -/
structure Reply where
  code : Nat
  output : String
  notices : List Notice
deriving DecidableEq, Repr

namespace Reply

/- The exit code of success. -/
def succeeded : Nat :=
  0

/- The exit code of an error. -/
def failed : Nat :=
  1

/- The exit code of a transcript that breaks off. -/
def brokeOff : Nat :=
  2

/- A failed reply that only tells why. -/
def ofMessage (m : String) : Reply :=
  ⟨failed, "", [⟨.error, m⟩]⟩

end Reply

------------------------------------------------------------
-- Building
------------------------------------------------------------

/- The notice of an issue. -/
def Notice.ofIssue (i : Issue) : Notice :=
  ⟨if i.isError then .error else .warning,
    "[" ++ i.code ++ "] " ++ i.message⟩

/- What is printed about a result. -/
def printedResult (r : BuildResult) : Json.Value :=
  .object
    [("Image", .text r.imageName),
     ("Success", .bool r.success),
     ("BuildOutput",
       match r.report with
       | some report => report.toWire
       | none => .null)]

/- The reply to a result. -/
def Reply.ofResult (r : BuildResult) : Reply :=
  ⟨if r.success then succeeded else failed,
    Json.writeString .ascii (printedResult r) ++ "\n",
    r.issues.map Notice.ofIssue⟩

namespace BuildTask

/- What is to be built, as far as it has names. -/
def order (t : BuildTask) : BuildOrder :=
  ⟨t.dockerfile.toText, shown t.fileName, t.namespaceName,
    t.repository, shown t.image⟩

/- The failure of an order for an image without a name. -/
def nameless : Failure :=
  .build (.invalidName ⟨nothingText, .missing⟩)

/- The failure of an order for a file without a name. -/
def fileless : Failure :=
  .build (Staging.invalidName nothingText)

/-
  Have the order of a task built. An image without a name is
  rejected, a file without a name cannot be staged.
-/
def result
    {σ : Type}
    (t : BuildTask)
    (b : Builder σ) : Action σ BuildResult :=
  match t.image, t.fileName with
  | none, _ =>
      Action.ofExcept (Builder.rejection t.order nameless)
  | some _, some _ => b.build t.order
  | some _, none =>
      fun s =>
        match b.check t.order s with
        | (.error f, s') => (Builder.rejection t.order f, s')
        | (.ok (), s') =>
            (Builder.stagingResult t.order (.error fileless),
              s')

/- The configuration, from a file if one is named. -/
def configuration
    {σ : Type}
    (t : BuildTask)
    (h : Host σ) : Action σ Config :=
  fun s =>
    match t.config with
    | some path =>
        (ConfigFile.load h.environment (h.disk s) path, s)
    | none =>
        (Config.make h.environment Given.nothing, s)

/- Build an image on a host. -/
def perform
    {σ : Type}
    (t : BuildTask)
    (h : Host σ) : Action σ Reply :=
  (t.configuration h).next
    (fun c =>
      (h.builder c SessionToken.absent).next
        (fun b =>
          (t.result b).next
            (fun r => Action.give (Reply.ofResult r))))

end BuildTask

------------------------------------------------------------
-- Parsing
------------------------------------------------------------

/- The reply to a parsed transcript. -/
def Reply.ofParsed (p : Parsed) : Reply :=
  let output := p.report.toJson ++ "\n"
  match p.problem with
  | none => ⟨succeeded, output, []⟩
  | some .incompleteOutput =>
      ⟨brokeOff, output,
        [⟨.warning,
          "Transcript ended before a final image id"⟩]⟩
  | some e => ⟨failed, output, [⟨.error, e.message⟩]⟩

/- The report in the octets of a transcript. -/
def parseOctets
    (records : Bool)
    (bs : List UInt8) : Except Failure Parsed :=
  if records then
    parseBody (.ofFile bs)
  else
    parseText (String.ofList (unifyNewlines (decode bs)))

/- Parse the transcript in a file. -/
def parseFile
    (disk : Disk)
    (path : Path)
    (records : Bool) : Except Failure Reply :=
  match disk.fetch path.toText with
  | .error f => .error f
  | .ok content =>
      match parseOctets records content.bytes with
      | .error f => .error f
      | .ok p => .ok (Reply.ofParsed p)

------------------------------------------------------------
-- Invocations
------------------------------------------------------------

/- Do a task on a host. -/
def Task.perform
    {σ : Type}
    (h : Host σ)
    (t : Task) : Action σ Reply :=
  match t with
  | .build b => b.perform h
  | .parse path records =>
      fun s => (parseFile (h.disk s) path records, s)

/- The message of a failure that the user is told about. -/
def toldMessage? (f : Failure) : Option String :=
  match f with
  | .build e => some e.message
  | other => other.systemMessage?

/- A reply, also to the failures the user is told about. -/
def Reply.ofOutcome
    (r : Except Failure Reply) : Except Failure Reply :=
  match r with
  | .ok reply => .ok reply
  | .error f =>
      match toldMessage? f with
      | some m => .ok (Reply.ofMessage m)
      | none => .error f

/- Run an invocation on a host. -/
def Invocation.run
    {σ : Type}
    (h : Host σ)
    (i : Invocation) : Action σ Reply :=
  (i.task.perform h).attempt.next
    (fun r => Action.ofExcept (Reply.ofOutcome r))

end ContainerBuild.CommandLine
