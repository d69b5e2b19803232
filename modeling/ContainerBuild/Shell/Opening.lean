import ContainerBuild.Shell.Expansion

/-
  This file defines where redirections lead channels: to
  files, to devices, to other channels, and to documents.

  Key definitions include:
    * `Machine.openPath`
    * `Machine.redirectOne`
    * `Machine.redirect`
-/

namespace ContainerBuild.Shell

open Text

namespace Machine

------------------------------------------------------------
-- Files
------------------------------------------------------------

/- The path where everything that is written is lost. -/
def nullDevice : List Char :=
  "/dev/null".toList

/- The channel that a path names, if it names one. -/
def channelAt? (path : List Char) : Option Nat :=
  if path = "/dev/stdin".toList then
    some 0
  else if path = "/dev/stdout".toList then
    some 1
  else if path = "/dev/stderr".toList then
    some 2
  else
    match after? "/dev/fd/".toList path with
    | some [d] =>
        if isAsciiDigit d then some (ofDigits [d]) else none
    | _ => none

/- Why a file cannot be opened. -/
def refusalText
    (absence : String)
    (f : Failure) : List Char :=
  match f with
  | .system (.numbered n text _) =>
      if n = 2 || n = 20 then absence.toList else text.toList
  | _ => []

/- A file that was opened, or what is said of it. -/
abbrev Opened :=
  Except (List Char) Sink × Machine

/- Open a file to read what it holds. -/
def openReading
    (path : List Char)
    (m : Machine) : Opened :=
  match m.disk.fetch (gather path) with
  | .ok c =>
      let s := m.addStream (ofOctets c.bytes)
      (.ok (.stream s.1), s.2)
  | .error (.system (.numbered 21 _ _)) =>
      let s := m.addStream []
      (.ok (.stream s.1), s.2)
  | .error f =>
      (.error ("cannot open ".toList ++ path ++ ": ".toList
        ++ refusalText "No such file" f), m)

/- Open a file to write it anew or at its end. -/
def openWriting
    (path : List Char)
    (keep : Bool)
    (m : Machine) : Opened :=
  let text := gather path
  let content : List UInt8 :=
    if keep then m.octetsAt text else []
  let refused (reason : List Char) : List Char :=
    "cannot create ".toList ++ path ++ ": ".toList ++ reason
  if m.options.contains 'C' && !keep
      && m.disk.existsAt text then
    (.error (refused "File exists".toList), m)
  else
    match Disk.store text (.octets content) m.disk,
        m.disk.locate text with
    | (.ok (), d), .ok l => (.ok (.file l), m.withDisk d)
    | (.error f, d), _ =>
        (.error
          (refused (refusalText "Directory nonexistent" f)),
          m.withDisk d)
    | (_, d), .error f =>
        (.error
          (refused (refusalText "Directory nonexistent" f)),
          m.withDisk d)

/- Open what is at a path. -/
def openPath
    (opening : Opening)
    (path : List Char)
    (m : Machine) : Opened :=
  if path = nullDevice then
    (.ok .nowhere, m)
  else
    match channelAt? path with
    | some n =>
        match m.channels.lookup n with
        | some s => (.ok s, m)
        | none =>
            (.error ("cannot open ".toList ++ path
              ++ ": No such file".toList), m)
    | none =>
        match opening with
        | .reading => m.openReading path
        | .writing => m.openWriting path false
        | .appending => m.openWriting path true
        | .updating =>
            match m.openWriting path true with
            | (.ok _, m') => m'.openReading path
            | refused => refused

------------------------------------------------------------
-- Redirections
------------------------------------------------------------

/- Complain about a redirection. -/
def refuse
    (message : List Char)
    (m : Machine) : Bool × Machine :=
  (false, (m.complain message).withStatus 2)

/- Lead a channel to where another one leads. -/
def copyChannel
    (channel : Nat)
    (source : List Char)
    (m : Machine) : Bool × Machine :=
  match source with
  | ['-'] => (true, m.close channel)
  | [d] =>
      if !isAsciiDigit d then
        (false, m.abort Fault.badChannel.message.toList)
      else
        match m.channels.lookup (ofDigits [d]) with
        | some s => (true, m.lead channel s)
        | none =>
            m.refuse (d :: ": Bad file descriptor".toList)
  | _ => (false, m.abort Fault.badChannel.message.toList)

/- Lead a channel as a redirection says, if that is right. -/
def redirectOne
    (sub : Substitute)
    (fuel : Nat)
    (r : Redirection)
    (m : Machine) : Bool × Machine :=
  match r with
  | .file channel opening target =>
      let path := m.text sub false fuel target
      if path.2.isGoing then
        match path.2.openPath opening path.1 with
        | (.ok s, m') => (true, m'.lead channel s)
        | (.error e, m') => m'.refuse e
      else
        (false, path.2)
  | .copy channel source =>
      let text := m.text sub false fuel source
      if text.2.isGoing then
        text.2.copyChannel channel text.1
      else
        (false, text.2)
  | .document channel body =>
      let text := m.text sub false fuel body
      let s := text.2.addStream text.1
      (text.2.isGoing, s.2.lead channel (.stream s.1))

/- Lead channels as redirections say, as far as they can. -/
def redirect
    (sub : Substitute)
    (fuel : Nat)
    (rs : List Redirection)
    (m : Machine) : Bool × Machine :=
  match rs with
  | [] => (true, m)
  | r :: rest =>
      match m.redirectOne sub fuel r with
      | (true, m') => m'.redirect sub fuel rest
      | failed => failed

/- Lead all channels back to where they led before. -/
def restoreChannels
    (m : Machine)
    (before : Machine) : Machine :=
  { m with channels := before.channels }

end Machine

end ContainerBuild.Shell
