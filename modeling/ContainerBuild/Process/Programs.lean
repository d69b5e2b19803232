import ContainerBuild.Files.Access
import ContainerBuild.Process.Command
import ContainerBuild.Shell.Run
import ContainerBuild.SystemText
import ContainerBuild.Text.Newline

/-
  This file defines how a system starts programs: a program
  runs in a directory of its own, and what it wrote is read
  as text once it has ended.

  Key definitions include:
    * `Programs.arrived`
    * `Programs.outcome`
    * `Programs.ending`
    * `Programs.launcher`
-/

namespace ContainerBuild.Programs

open Shell Text

------------------------------------------------------------
-- Endings
------------------------------------------------------------

/-
  The octets that arrived on channels before a time, in the
  order in which they were written.
-/
def arrived
    (m : Machine)
    (limit : Option Nat)
    (channels : List Nat) : List UInt8 :=
  let inTime (w : Writing) : Bool :=
    match limit with
    | none => true
    | some t => w.time < t
  let counted := m.written.reverse.filter
    (fun w => channels.contains w.channel && inTime w)
  (counted.mergeSort (fun v w => v.time ≤ w.time)).flatMap
    Writing.octets

/- The return code; a signal counts below zero. -/
def codeOf (m : Machine) : Int :=
  match m.flow with
  | .killed signal => -(signal : Int)
  | _ => (m.status % 256 : Nat)

/- The time at which nothing writes any more. -/
def endOf (m : Machine) : Nat :=
  (m.jobs.map Job.ends).foldl max (max m.clock m.busyUntil)

/- Octets as text; line ends are unified. -/
def readText
    (bs : List UInt8) : Except LaunchFault String :=
  match decode? bs with
  | some cs => .ok (String.ofList (unifyNewlines cs))
  | none => .error (.undecodable bs)

/- The end of a program that ran to its end. -/
def finished
    (merged : Bool)
    (m : Machine) : Outcome :=
  let code := codeOf m
  let channels := if merged then [1, 2] else [1]
  match readText (arrived m none channels),
      readText (arrived m none [2]) with
  | .error fault, _ => .failed fault
  | .ok output, errors =>
      if merged then
        .finished code (some output) none
      else
        match errors with
        | .ok text => .finished code (some output) (some text)
        | .error fault => .failed fault

/- The end of a program whose time was up. -/
def expired
    (merged : Bool)
    (limit : Nat)
    (m : Machine) : Outcome :=
  let chunk (channels : List Nat) : Option Chunk :=
    some (.octets (arrived m (some limit) channels))
  if merged then
    .expired (chunk [1, 2]) none
  else
    .expired (chunk [1]) (chunk [2])

/- The microseconds that a program may take, if limited. -/
def limitOf (timeout : Option Binary64) : Option Nat :=
  match timeout with
  | none => none
  | some t =>
      if t.isAtMostZero then
        some 0
      else
        Call.microseconds? t

/- How a program ended, given what it did. -/
def outcome
    (l : Launch)
    (m : Machine) : Outcome :=
  match limitOf l.timeout with
  | none => finished l.merged m
  | some limit =>
      if m.flow != .endless && endOf m < limit then
        finished l.merged m
      else
        expired l.merged limit m

------------------------------------------------------------
-- Launches
------------------------------------------------------------

/- What no system takes, if a launch asks for it. -/
def fault? (l : Launch) : Option Failure :=
  let names := (l.environment.getD []).map Prod.fst
  if l.command = [] then
    some .outOfRange
  else if names.any (fun n => n.toList.contains '=') then
    some (.value "illegal environment variable name")
  else if l.holdsNull then
    some (.value "embedded null byte")
  else
    none

/- The disk seen from the directory of a launch. -/
def enter
    (d : Disk)
    (directory : Option String) : Except SystemError Disk :=
  match directory with
  | none => .ok d
  | some path =>
      match d.resolve path with
      | .error r => .error (.ofNumber r.number path)
      | .ok l =>
          match d.entry? l with
          | some .directory => .ok { d with working := l }
          | some (.file _) =>
              .error (.ofNumber
                Disk.Refusal.notDirectory.number path)
          | none =>
              .error (.ofNumber
                Disk.Refusal.notFound.number path)

/- The steps that a program may take. -/
def steps : Nat :=
  100000

/- The octets of variables. -/
def spreadAll
    (env : Environment) : List (List Char × List Char) :=
  env.map (fun v => (spread v.1, spread v.2))

/- Start a program, and tell how it ended. -/
def start
    (env : Environment)
    (l : Launch)
    (d : Disk) : Outcome × Disk :=
  let name := l.command.headD ""
  match enter d l.directory with
  | .error e => (.refused e, d)
  | .ok inside =>
      let path := (env.get? "PATH").getD usualPath
      match locate inside path name with
      | .error n => (.refused (.ofNumber n name), d)
      | .ok found =>
          let m :=
            runProgram steps (spreadAll env) found.program
              (spread name) ((l.command.drop 1).map spread)
              (Machine.start inside)
          (outcome l m,
            { m.disk with working := d.working })

/- Launch a program on a disk. -/
def ending
    (parent : Environment)
    (l : Launch)
    (d : Disk) : Ending × Disk :=
  match fault? l with
  | some f =>
      (⟨.failed (.untaken f), Binary64.zero⟩, d)
  | none =>
      match start (l.environment.getD parent) l d with
      | (o, d') => (⟨o, Binary64.zero⟩, d')

/- The launching of programs in a world with a disk. -/
def launcher
    {σ : Type}
    (access : DiskAccess σ)
    (parent : Environment) : Launcher σ :=
  fun l =>
    access.lift
      (fun d =>
        match ending parent l d with
        | (e, d') => (.ok e, d'))

end ContainerBuild.Programs
