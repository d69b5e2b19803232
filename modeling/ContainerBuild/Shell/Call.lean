import ContainerBuild.Shell.Condition
import ContainerBuild.Shell.Format
import ContainerBuild.Shell.Machine

/-
  This file defines calls of utilities, from within a shell
  or as programs, and the utilities that there are as both.

  Key definitions include:
    * `Call`
    * `Call.reply`
    * `Call.complain`
    * `Call.echo`
    * `Call.printf`
    * `Call.kill`
    * `shared`
-/

namespace ContainerBuild.Shell

open Text

------------------------------------------------------------
-- Calls
------------------------------------------------------------

/- A call of a utility, with the environment it is given. -/
structure Call where
  machine : Machine
  environment : List (List Char × List Char)
  name : List Char
  args : List (List Char)
  inShell : Bool

namespace Call

/- End with a status. -/
def done
    (c : Call)
    (status : Nat) : Machine :=
  c.machine.withStatus status

/- Complain and end with a status. -/
def complain
    (c : Call)
    (status : Nat)
    (message : List Char) : Machine :=
  let m :=
    if c.inShell then
      c.machine.complain message
    else
      c.machine.write 2
        (c.name ++ ": ".toList ++ message ++ ['\n'])
  m.withStatus status

/- Write text and end with a status. -/
def replyWith
    (c : Call)
    (status : Nat)
    (cs : List Char) : Machine :=
  if cs ≠ [] && (c.machine.channels.lookup 1).isNone then
    c.complain 1 (c.name ++ ": I/O error".toList)
  else
    (c.machine.write 1 cs).withStatus status

/- Write text and end with success. -/
def reply
    (c : Call)
    (cs : List Char) : Machine :=
  c.replyWith 0 cs

/- The call of the same utility on another machine. -/
def on
    (c : Call)
    (m : Machine) : Call :=
  { c with machine := m }

/- Complain about an option that there is not. -/
def illegalOption
    (c : Call)
    (letter : Char) : Machine :=
  c.complain 2 ("Illegal option -".toList ++ [letter])

/- Complain about a number that is none. -/
def illegalNumber
    (c : Call)
    (text : List Char) : Machine :=
  c.complain 2 ("Illegal number: ".toList ++ text)

/- The natural number that an argument is. -/
def number? (text : List Char) : Option Nat :=
  if text ≠ [] && text.all isAsciiDigit then
    some (ofDigits text)
  else
    none

/- Lines with their ends. -/
def asLines (ls : List (List Char)) : List Char :=
  ls.flatMap (fun l => l ++ ['\n'])

------------------------------------------------------------
-- Utilities that write
------------------------------------------------------------

/- Write the arguments; the shell's own way has escapes. -/
def echo (c : Call) : Machine :=
  let bare := c.args.head? = some ['-', 'n']
  let words := if bare then c.args.drop 1 else c.args
  let line := joinWith [' '] words
  let text :=
    if c.inShell then unescape line else (line, false)
  c.reply
    (text.1 ++ if bare || text.2 then [] else ['\n'])

/- Write arguments by a format. -/
def printFormat
    (c : Call)
    (form : List Char)
    (args : List (List Char)) : Machine :=
  let p := format form args
  let status :=
    if p.failed then 2 else if p.complaints = [] then 0 else 1
  let m := p.complaints.foldl
    (fun m text => (c.on m).complain 1 text) c.machine
  (c.on m).replyWith status p.text

/- Write arguments by a format, or tell how to. -/
def printf (c : Call) : Machine :=
  let args :=
    if c.args.head? = some ['-', '-'] then
      c.args.drop 1
    else
      c.args
  match args with
  | [] =>
      c.complain 2
        "usage: printf format [arg ...]".toList
  | ('-' :: letter :: more) :: rest =>
      if c.args.length = args.length then
        c.illegalOption letter
      else
        c.printFormat ('-' :: letter :: more) rest
  | form :: rest => c.printFormat form rest

/- Write the directory. -/
def pwd (c : Call) : Machine :=
  c.reply (c.machine.directory ++ ['\n'])

------------------------------------------------------------
-- Conditions
------------------------------------------------------------

/- Test a condition. -/
def testWords
    (c : Call)
    (ws : List (List Char)) : Machine :=
  match Condition.holds c.machine.disk ws with
  | .ok b => c.done (if b then 0 else 1)
  | .error f => c.complain 2 f.message

/- Test a condition that may stand in brackets. -/
def test (c : Call) : Machine :=
  if c.name = ['['] then
    if c.args.getLast? = some [']'] then
      c.testWords c.args.dropLast
    else
      c.complain 2 "missing ]".toList
  else
    c.testWords c.args

------------------------------------------------------------
-- Signals
------------------------------------------------------------

/- The names of signals, from 0 on. -/
def signalNames : List String :=
  ["EXIT", "HUP", "INT", "QUIT", "ILL", "TRAP", "ABRT", "BUS",
    "FPE", "KILL", "USR1", "SEGV", "USR2", "PIPE", "ALRM",
    "TERM", "STKFLT", "CHLD", "CONT", "STOP", "TSTP", "TTIN",
    "TTOU", "URG", "XCPU", "XFSZ", "VTALRM", "PROF", "WINCH",
    "POLL", "PWR", "SYS"]

/- What is said of programs that a signal has ended. -/
def signalTexts : List (Nat × String) :=
  [(1, "Hangup"), (3, "Quit"), (4, "Illegal instruction"),
    (5, "Trace/breakpoint trap"), (6, "Aborted"),
    (7, "Bus error"), (8, "Floating point exception"),
    (9, "Killed"), (10, "User defined signal 1"),
    (11, "Segmentation fault"), (12, "User defined signal 2"),
    (14, "Alarm clock"), (15, "Terminated")]

/- The greatest number of a signal. -/
def lastSignal : Nat :=
  64

/- The number of the signal that a text names. -/
def signal? (text : List Char) : Option Nat :=
  match number? text with
  | some n => if n ≤ lastSignal then some n else none
  | none =>
      let upper := text.map Char.toUpper
      signalNames.findIdx? (fun s => s.toList = upper)

/- The signals that have no effect unless they are caught. -/
def harmless : List Nat :=
  [0, 17, 18, 23, 28]

/- Send a signal to the shell itself. -/
def signalShell
    (n : Nat)
    (m : Machine) : Machine :=
  if harmless.contains n && (m.traps.lookup n).isNone then
    m
  else
    { m with pending := m.pending ++ [n] }

/- End a job that still runs by a signal. -/
def signalJob
    (n pid : Nat)
    (m : Machine) : Machine :=
  let ended (j : Job) : Job :=
    if j.process = pid && m.clock < j.ends then
      ⟨pid, m.clock, 128 + n⟩
    else
      j
  if harmless.contains n then
    m
  else
    { m with
      jobs := m.jobs.map ended
      written :=
        m.written.filter (fun w => w.time ≤ m.clock) }

/- Send a signal to a process. -/
def signalProcess
    (c : Call)
    (n : Nat)
    (target : List Char) : Machine :=
  match number? target with
  | none => c.illegalNumber target
  | some pid =>
      if pid = Machine.processNumber then
        signalShell n c.machine
      else if c.machine.jobs.any (fun j => j.process = pid) then
        signalJob n pid c.machine
      else
        c.complain 1 "No such process\n".toList

/- How to send signals. -/
def killUsage : List Char :=
  ("Usage: kill [-s sigspec | -signum | -sigspec] "
    ++ "[pid | job]... or\nkill -l [exitstatus]").toList

/- Send a signal to processes. -/
def signalAll
    (c : Call)
    (n : Nat)
    (targets : List (List Char)) : Machine :=
  if targets = [] then
    c.complain 2 killUsage
  else
    targets.foldl
      (fun m t => (c.on m).signalProcess n t) (c.done 0)

/- The names of all signals, or the one of a status. -/
def listSignals
    (c : Call)
    (args : List (List Char)) : Machine :=
  match args with
  | [] =>
      c.reply
        (asLines (['0'] :: (signalNames.drop 1).map String.toList))
  | text :: _ =>
      match number? text with
      | none => c.illegalNumber text
      | some n =>
          match signalNames[n % 128]? with
          | some s => c.reply (s.toList ++ ['\n'])
          | none => c.illegalNumber text

/- Send signals, or list them. -/
def kill (c : Call) : Machine :=
  match c.args with
  | [] => c.complain 2 killUsage
  | ['-', 's'] :: name :: targets =>
      match signal? name with
      | some n => c.signalAll n targets
      | none =>
          c.complain 2
            ("invalid signal number or name: ".toList ++ name)
  | ['-', 'l'] :: rest => c.listSignals rest
  | ['-', '-'] :: targets => c.signalAll 15 targets
  | ('-' :: letter :: more) :: targets =>
      match signal? (letter :: more) with
      | some n => c.signalAll n targets
      | none => c.illegalOption letter
  | targets => c.signalAll 15 targets

------------------------------------------------------------
-- Names
------------------------------------------------------------

/- The utilities that are in the shell and programs too. -/
def shared : List (String × (Call → Machine)) :=
  [("true", fun c => c.done 0),
    ("false", fun c => c.done 1),
    ("echo", echo),
    ("printf", printf),
    ("pwd", pwd),
    ("kill", kill),
    ("test", test),
    ("[", test)]

end Call

end ContainerBuild.Shell
