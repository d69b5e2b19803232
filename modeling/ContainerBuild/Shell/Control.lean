import ContainerBuild.Shell.Call

/-
  This file defines the utilities of a shell that change how
  a script goes on and where it works.

  Key definitions include:
    * `Call.fail`
    * `Call.exit`
    * `Call.loopFlow`
    * `Call.cd`
    * `Call.wait`
-/

namespace ContainerBuild.Shell

open Text

namespace Call

/- Complain and leave the shell. -/
def fail
    (c : Call)
    (message : List Char) : Machine :=
  c.machine.abort message

/- Complain about a number and leave the shell. -/
def failNumber
    (c : Call)
    (text : List Char) : Machine :=
  c.fail ("Illegal number: ".toList ++ text)

------------------------------------------------------------
-- Flow
------------------------------------------------------------

/- Leave the shell with a status, or with the last one. -/
def exit (c : Call) : Machine :=
  match c.args with
  | [] => c.machine.withFlow .leaving
  | text :: _ =>
      match number? text with
      | some n => c.machine.leave n
      | none => c.failNumber text

/- Return from a function or a script. -/
def leaveFunction (c : Call) : Machine :=
  match c.args with
  | [] => c.machine.withFlow .returning
  | text :: _ =>
      match number? text with
      | some n => (c.done n).withFlow .returning
      | none => c.failNumber text

/- Go on behind loops or with their next rounds. -/
def loopFlow
    (flow : Nat → Flow)
    (c : Call) : Machine :=
  let text := c.args.headD ['1']
  match number? text with
  | none => c.failNumber text
  | some 0 => c.failNumber text
  | some n =>
      if c.machine.loops = 0 then
        c.done 0
      else
        (c.done 0).withFlow (flow (min n c.machine.loops))

/- Give the shell other parameters, and their options anew. -/
def withArgs
    (args : List (List Char))
    (m : Machine) : Machine :=
  { m with args := args }.seekOption 1 0

/- Drop parameters from the front. -/
def shift (c : Call) : Machine :=
  let text := c.args.headD ['1']
  match number? text with
  | none => c.failNumber text
  | some n =>
      if c.machine.args.length < n then
        c.fail "can't shift that many".toList
      else
        withArgs (c.machine.args.drop n) (c.done 0)

------------------------------------------------------------
-- Directories
------------------------------------------------------------

/- Go to a directory, and tell which one it is if asked to. -/
def goTo
    (c : Call)
    (tell : Bool)
    (path : List Char) : Machine :=
  let target := if path = [] then ['.'] else path
  match c.machine.disk.find? (gather target) with
  | some (l, .directory) =>
      let old := c.machine.directory
      let m := c.machine.withDisk
        { c.machine.disk with working := l }
      let m := (m.bind "OLDPWD".toList
        ⟨some old, true, false⟩).tellDirectory
      if m.isGoing then
        (c.on m).reply
          (if tell then m.directory ++ ['\n'] else [])
      else
        m
  | _ => c.complain 2 ("can't cd to ".toList ++ path)

/- Change the directory. -/
def cd (c : Call) : Machine :=
  let plain (a : List Char) : Bool :=
    a = ['-', 'L'] || a = ['-', 'P'] || a = ['-', '-']
  match c.args.dropWhile plain with
  | [] =>
      c.goTo false
        ((c.machine.value? "HOME".toList).getD [])
  | ['-'] :: _ =>
      c.goTo true
        ((c.machine.value? "OLDPWD".toList).getD [])
  | path :: _ => c.goTo false path

------------------------------------------------------------
-- Jobs
------------------------------------------------------------

/- Let time pass until a moment. -/
def passUntil
    (t : Nat)
    (m : Machine) : Machine :=
  { m with clock := max m.clock t }

/- Wait for the end of a job, and tell how it ended. -/
def waitFor
    (c : Call)
    (text : List Char) : Machine :=
  match number? text with
  | none => c.illegalNumber text
  | some pid =>
      match c.machine.jobs.find? (fun j => j.process = pid) with
      | none => c.done 127
      | some j =>
          let m := passUntil j.ends c.machine
          let m :=
            match signalTexts.lookup (j.status - 128) with
            | some s =>
                if 128 < j.status then
                  m.write 2 (s.toList ++ ['\n'])
                else
                  m
            | none => m
          m.withStatus j.status

/- Wait for jobs, or for all of them. -/
def wait (c : Call) : Machine :=
  match c.args with
  | [] =>
      c.machine.jobs.foldl
        (fun m j => passUntil j.ends m) (c.done 0)
  | texts =>
      texts.foldl (fun m t => (c.on m).waitFor t) c.machine

end Call

end ContainerBuild.Shell
