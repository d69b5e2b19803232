import ContainerBuild.Environment
import ContainerBuild.Files.Disk
import ContainerBuild.Number.Decimal
import ContainerBuild.Shell.Command
import ContainerBuild.Text.Octets

/-
  This file defines the machine that programs run on: its
  disk, the time that passes, what is written on the
  channels for output (1) and for errors (2), and the state
  of the shell that runs. A subshell works on a copy of the
  shell's state, and gives back all the rest.

  Key definitions include:
    * `Sink`
    * `Flow`
    * `Variable`
    * `Machine`
    * `Machine.write`
    * `Machine.takeInput`
    * `Machine.value?`
    * `Machine.assign`
    * `Machine.rejoin`
-/

namespace ContainerBuild.Shell

open Text

------------------------------------------------------------
-- Parts of machines
------------------------------------------------------------

/- What was written on a channel, and after what time. -/
structure Writing where
  time : Nat
  channel : Nat
  octets : List UInt8
deriving DecidableEq, Repr

/-
  Where a channel leads. A stream is a line of characters
  that are read in the order in which they were written.
-/
inductive Sink
  | channel (n : Nat)
  | file (l : Location)
  | stream (n : Nat)
  | nowhere
deriving DecidableEq, Repr

/-
  How a script goes on after a command. One that has failed
  leaves the shell as well, unless what it failed in is a
  utility that may fail.
-/
inductive Flow
  | going
  | breaking (loops : Nat)
  | continuing (loops : Nat)
  | returning
  | failed
  | leaving
  | killed (signal : Nat)
  | endless
deriving DecidableEq, Repr

/- A variable; it may have marks and yet no value. -/
structure Variable where
  value : Option (List Char)
  exported : Bool
  locked : Bool
deriving DecidableEq, Repr

/- A variable that was hidden by one of a function. -/
abbrev Hidden :=
  List Char × Option Variable

/-
  A job in the background: its process, the time at which
  it ends, and its status.
-/
structure Job where
  process : Nat
  ends : Nat
  status : Nat
deriving DecidableEq, Repr

/-
  A machine. Time is counted in microseconds; what was
  written last stands first. Loops are those around a
  command, depth counts the functions that are at work, and
  the speaker is the utility that complaints come from.
-/
structure Machine where
  disk : Disk
  clock : Nat
  busyUntil : Nat
  written : List Writing
  streams : List (List Char)
  jobs : List Job
  pending : List Nat
  bindings : List (List Char × Variable)
  functions : List (List Char × Command)
  channels : List (Nat × Sink)
  name : List Char
  args : List (List Char)
  options : List Char
  traps : List (Nat × List Char)
  status : Nat
  substituted : Nat
  line : Nat
  loops : Nat
  depth : Nat
  isSubshell : Bool
  speaker : Option (List Char)
  hidden : List Hidden
  optionIndex : Nat
  optionPlace : Nat
  flow : Flow
deriving Repr

namespace Machine

/- The characters at which values are cut into fields. -/
def usualGaps : List Char :=
  [' ', '\t', '\n']

/- The variables that every shell begins with. -/
def firstBindings : List (List Char × Variable) :=
  [("IFS".toList, ⟨some usualGaps, false, false⟩),
    ("OPTIND".toList, ⟨some ['1'], false, false⟩),
    ("PATH".toList, ⟨none, false, false⟩),
    ("PS1".toList, ⟨some ['#', ' '], false, false⟩),
    ("PS2".toList, ⟨some ['>', ' '], false, false⟩),
    ("PS4".toList, ⟨some ['+', ' '], false, false⟩)]

/- A machine before anything has run. -/
def start (d : Disk) : Machine :=
  { disk := d
    clock := 0
    busyUntil := 0
    written := []
    streams := [[]]
    jobs := []
    pending := []
    bindings := []
    functions := []
    channels :=
      [(0, .stream 0), (1, .channel 1), (2, .channel 2)]
    name := []
    args := []
    options := []
    traps := []
    status := 0
    substituted := 0
    line := 1
    loops := 0
    depth := 0
    isSubshell := false
    speaker := none
    hidden := []
    optionIndex := 1
    optionPlace := 0
    flow := .going }

/- The number of the process. -/
def processNumber : Nat :=
  2

------------------------------------------------------------
-- Flow
------------------------------------------------------------

/- Whether the next command runs. -/
def isGoing (m : Machine) : Bool :=
  m.flow = .going

/- Set the status. -/
def withStatus
    (n : Nat)
    (m : Machine) : Machine :=
  { m with status := n }

/- Go on in another way. -/
def withFlow
    (f : Flow)
    (m : Machine) : Machine :=
  { m with flow := f }

/- Leave the shell with a status. -/
def leave
    (n : Nat)
    (m : Machine) : Machine :=
  { m with status := n, flow := .leaving }

/- Replace the disk. -/
def withDisk
    (d : Disk)
    (m : Machine) : Machine :=
  { m with disk := d }

------------------------------------------------------------
-- Streams
------------------------------------------------------------

/- A new stream with characters to be read. -/
def addStream
    (cs : List Char)
    (m : Machine) : Nat × Machine :=
  (m.streams.length,
    { m with streams := m.streams ++ [cs] })

/- What a stream still holds. -/
def stream
    (n : Nat)
    (m : Machine) : List Char :=
  (m.streams[n]?).getD []

/- Replace what a stream holds. -/
def setStream
    (n : Nat)
    (cs : List Char)
    (m : Machine) : Machine :=
  { m with streams := m.streams.set n cs }

/- The path of a location. -/
def pathOf (l : Location) : String :=
  "/" ++ joinTexts "/" l

/- What a file holds, or nothing. -/
def octetsAt
    (path : String)
    (m : Machine) : List UInt8 :=
  match m.disk.fetch path with
  | .ok c => c.bytes
  | .error _ => []

/- Write where a sink leads. -/
def writeTo
    (s : Sink)
    (cs : List Char)
    (m : Machine) : Machine :=
  if cs = [] then
    m
  else
    match s with
    | .channel n =>
        { m with
          written := ⟨m.clock, n, octetsOf cs⟩ :: m.written }
    | .file l =>
        let path := pathOf l
        let bs := m.octetsAt path ++ octetsOf cs
        m.withDisk (Disk.store path (.octets bs) m.disk).2
    | .stream n => m.setStream n (m.stream n ++ cs)
    | .nowhere => m

/- Write on a channel; what is closed takes nothing. -/
def write
    (channel : Nat)
    (cs : List Char)
    (m : Machine) : Machine :=
  match m.channels.lookup channel with
  | some s => m.writeTo s cs
  | none => m

/- What can be read from a channel, which is then used up. -/
def takeInput
    (channel : Nat)
    (m : Machine) : List Char × Machine :=
  match m.channels.lookup channel with
  | some (.stream n) => (m.stream n, m.setStream n [])
  | _ => ([], m)

/- Put what was not used back to where it was read. -/
def putBack
    (channel : Nat)
    (cs : List Char)
    (m : Machine) : Machine :=
  match m.channels.lookup channel with
  | some (.stream n) => m.setStream n (cs ++ m.stream n)
  | _ => m

/- Lead a channel elsewhere. -/
def lead
    (channel : Nat)
    (s : Sink)
    (m : Machine) : Machine :=
  { m with
    channels :=
      (channel, s)
        :: m.channels.filter (fun c => c.1 != channel) }

/- Close a channel. -/
def close
    (channel : Nat)
    (m : Machine) : Machine :=
  { m with
    channels := m.channels.filter (fun c => c.1 != channel) }

------------------------------------------------------------
-- Complaints
------------------------------------------------------------

/- What stands before the complaints of the shell. -/
def complaintHead (m : Machine) : List Char :=
  m.name ++ ": ".toList ++ decimal m.line ++ ": ".toList
    ++ match m.speaker with
      | none => []
      | some cs => cs ++ ": ".toList

/- Complain as the shell does. -/
def complain
    (message : List Char)
    (m : Machine) : Machine :=
  m.write 2 (m.complaintHead ++ message ++ ['\n'])

/- Complain and fail. -/
def abort
    (message : List Char)
    (m : Machine) : Machine :=
  ((m.complain message).withStatus 2).withFlow .failed

/- Go on after a failure in a utility that may fail. -/
def afterFailure (m : Machine) : Machine :=
  if m.flow = .failed then m.withFlow .going else m

------------------------------------------------------------
-- Variables
------------------------------------------------------------

/- The variable with a name. -/
def binding?
    (name : List Char)
    (m : Machine) : Option Variable :=
  m.bindings.lookup name

/- The value of a variable. -/
def value?
    (name : List Char)
    (m : Machine) : Option (List Char) :=
  (m.binding? name).bind Variable.value

/- Put a variable where it is, or behind all others. -/
def putBinding
    (name : List Char)
    (v : Variable)
    (bs : List (List Char × Variable)) :
    List (List Char × Variable) :=
  match bs with
  | [] => [(name, v)]
  | b :: rest =>
      if b.1 = name then
        (name, v) :: rest
      else
        b :: putBinding name v rest

/- Put a variable. -/
def bind
    (name : List Char)
    (v : Variable)
    (m : Machine) : Machine :=
  { m with bindings := putBinding name v m.bindings }

/- A variable has been put where it is looked for. -/
theorem binding?_bind
    (name : List Char)
    (v : Variable)
    (m : Machine) :
    (m.bind name v).binding? name = some v := by
  simp only [bind, binding?]
  induction m.bindings with
  | nil => simp [putBinding]
  | cons b rest ih =>
      rcases b with ⟨key, w⟩
      by_cases h : key = name
      · simp [putBinding, h]
      · have hn : (name == key) = false := by
          simpa using fun e : name = key => h e.symm
        simp [putBinding, h, List.lookup_cons, hn, ih]

/- Forget a variable. -/
def unbind
    (name : List Char)
    (m : Machine) : Machine :=
  { m with
    bindings := m.bindings.filter (fun b => b.1 != name) }

/- Whether a variable must not change. -/
def isLocked
    (name : List Char)
    (m : Machine) : Bool :=
  ((m.binding? name).map Variable.locked).getD false

/- Set a variable, unless it is locked. -/
def put
    (name value : List Char)
    (m : Machine) : Machine :=
  if m.isLocked name then
    m.abort (name ++ ": is read only".toList)
  else
    let v := (m.binding? name).getD ⟨none, false, false⟩
    let exported := v.exported || m.options.contains 'a'
    m.bind name ⟨some value, exported, v.locked⟩

/- Go on with the options of another argument. -/
def seekOption
    (index place : Nat)
    (m : Machine) : Machine :=
  { m with optionIndex := index, optionPlace := place }

/- The name of the variable with the index of an option. -/
def optionIndexName : List Char :=
  "OPTIND".toList

/- Read options from the argument that a text tells. -/
def seekOptionText
    (text : List Char)
    (m : Machine) : Machine :=
  if text ≠ [] && text.all isAsciiDigit then
    m.seekOption (max (ofDigits text) 1) 0
  else
    m.abort ("Illegal number: ".toList ++ text)

/- Set a variable, and what depends on it. -/
def assign
    (name value : List Char)
    (m : Machine) : Machine :=
  let m := m.put name value
  if m.isGoing && name = optionIndexName then
    m.seekOptionText value
  else
    m

/- Set the marks of a variable besides those it has. -/
def mark
    (exported locked : Bool)
    (name : List Char)
    (m : Machine) : Machine :=
  let v := (m.binding? name).getD ⟨none, false, false⟩
  m.bind name
    ⟨v.value, v.exported || exported, v.locked || locked⟩

/- Put a variable back to what it was. -/
def restore
    (m : Machine)
    (h : Hidden) : Machine :=
  match h.2 with
  | some v => m.bind h.1 v
  | none => m.unbind h.1

------------------------------------------------------------
-- Environments
------------------------------------------------------------

/- The number of rows in which variables are kept. -/
def rowCount : Nat :=
  39

/- The row in which a variable is kept. -/
def rowOf (name : List Char) : Nat :=
  let first := (name.headD '\x00').toNat * 16
  name.foldl (fun n c => n + c.toNat) first % rowCount

/-
  The variables that programs are given, row by row; each
  row is in the order in which its variables were made.
-/
def environment
    (m : Machine) : List (List Char × List Char) :=
  let given := m.bindings.filterMap
    (fun b =>
      match b.2.exported, b.2.value with
      | true, some v => some (b.1, v)
      | _, _ => none)
  (List.range rowCount).flatMap
    (fun row => given.filter (fun v => rowOf v.1 = row))

/- Take over a variable of the environment, if it is a name. -/
def importVariable
    (m : Machine)
    (v : List Char × List Char) : Machine :=
  let value :=
    if v.1 = "IFS".toList then
      usualGaps
    else if v.1 = "OPTIND".toList then
      ['1']
    else
      v.2
  if isName v.1 then
    m.bind v.1 ⟨some value, true, false⟩
  else
    m

/- The directory that programs work in. -/
def directory (m : Machine) : List Char :=
  spread (pathOf m.disk.working)

/- Set the directory that the shell tells its programs. -/
def tellDirectory (m : Machine) : Machine :=
  let name := "PWD".toList
  let set := m.put name m.directory
  if set.isGoing then
    set.mark true false name
  else
    set

/- A shell that begins with an environment. -/
def beginShell
    (env : List (List Char × List Char))
    (m : Machine) : Machine :=
  (env.foldl importVariable
    { m with bindings := firstBindings }).tellDirectory

------------------------------------------------------------
-- Subshells
------------------------------------------------------------

/- A copy for a subshell; only ignored signals stay so. -/
def forSubshell (m : Machine) : Machine :=
  { m with
    traps :=
      m.traps.filter (fun t => t.1 != 0 && t.2 = [])
    loops := 0
    isSubshell := true
    flow := .going }

/- How the shell goes on after a subshell. -/
def flowAfter (inner : Machine) : Flow :=
  match inner.flow with
  | .killed n => .killed n
  | .endless => .endless
  | _ => .going

/- The state of a shell when a subshell has ended. -/
def rejoin
    (outer inner : Machine) : Machine :=
  { outer with
    disk :=
      { inner.disk with working := outer.disk.working }
    clock := inner.clock
    busyUntil := inner.busyUntil
    written := inner.written
    streams := inner.streams
    pending := inner.pending
    status := inner.status % 256
    flow := inner.flowAfter }

end Machine

end ContainerBuild.Shell
