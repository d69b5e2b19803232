import ContainerBuild.Shell.Opening
import ContainerBuild.Shell.Settings

/-
  This file defines how a shell reads its own arguments:
  options come first, then a command or the path of a
  script, a name, and the parameters.

  Key definitions include:
    * `Machine.forShell`
    * `Source`
    * `Startup`
    * `Startup.ofArguments`
-/

namespace ContainerBuild.Shell

open Text

------------------------------------------------------------
-- Shells
------------------------------------------------------------

namespace Machine

/- A machine on which another shell begins. -/
def forShell
    (name : List Char)
    (env : List (List Char × List Char))
    (m : Machine) : Machine :=
  { m with
    name := name
    args := []
    functions := []
    options := []
    traps := []
    jobs := []
    pending := []
    hidden := []
    status := 0
    line := 1
    loops := 0
    depth := 0
    isSubshell := false
    speaker := none
    optionIndex := 1
    optionPlace := 0
    flow := .going }.beginShell env

/- What a script in a file is, or why it cannot be read. -/
def scriptAt
    (path : List Char)
    (m : Machine) : Except (List Char) (List Char) :=
  match m.disk.fetch (gather path) with
  | .ok c => .ok (ofOctets c.bytes)
  | .error (.system (.numbered 21 _ _)) => .ok []
  | .error f =>
      .error ("cannot open ".toList ++ path ++ ": ".toList
        ++ refusalText "No such file" f)

end Machine

------------------------------------------------------------
-- Options
------------------------------------------------------------

/- Where a shell reads its commands. -/
inductive Source
  | text (cs : List Char)
  | file (path : List Char)
  | input
deriving DecidableEq, Repr

/- What a shell knows when its options have been read. -/
structure Startup where
  machine : Machine
  hasText : Bool
  source : Source
deriving Repr

namespace Startup

/- Complain before any line has been read. -/
def refuse
    (message : List Char)
    (s : Startup) : Startup :=
  { s with machine := s.machine.abort message }

/- The call of the shell on a machine. -/
def call (s : Startup) : Call :=
  ⟨s.machine, [], s.machine.name, [], true⟩

/- Set the option of a letter. -/
def putLetter
    (on : Bool)
    (letter : Char)
    (s : Startup) : Startup :=
  if letter = 'c' then
    { s with hasText := true }
  else if letter = 'l' then
    s
  else
    { s with machine := Call.putLetters on [letter] s.call }

/-
  Set the options of letters in turn. The letter of named
  options takes its name from the arguments behind it.
-/
def putLetters
    (on : Bool)
    (letters : List Char)
    (rest : List (List Char))
    (s : Startup) : Startup × List (List Char) :=
  match letters, rest with
  | [], _ => (s, rest)
  | 'o' :: more, name :: others =>
      putLetters on more others
        { s with machine := Call.putNamed on name s.call }
  | 'o' :: more, [] => putLetters on more [] s
  | letter :: more, _ =>
      putLetters on more rest (s.putLetter on letter)

/- Letters give nothing back to the arguments. -/
theorem length_putLetters_le
    (on : Bool)
    (letters : List Char)
    (rest : List (List Char))
    (s : Startup) :
    (s.putLetters on letters rest).2.length ≤ rest.length := by
  fun_induction putLetters on letters rest s with
  | case1 => simp
  | case2 _ _ _ _ ih => exact Nat.le_succ_of_le ih
  | case3 _ _ ih => exact ih
  | case4 _ _ _ _ _ _ ih => exact ih

/- Read the options before all other arguments. -/
def putOptions
    (args : List (List Char))
    (s : Startup) : Startup × List (List Char) :=
  match args with
  | ['-'] :: rest => (s, rest)
  | ['-', '-'] :: rest => (s, rest)
  | ('-' :: letters) :: rest =>
      let r := s.putLetters true letters rest
      putOptions r.2 r.1
  | ('+' :: letters) :: rest =>
      let r := s.putLetters false letters rest
      putOptions r.2 r.1
  | _ => (s, args)
termination_by args.length
decreasing_by
  all_goals
    exact Nat.lt_succ_of_le
      (length_putLetters_le _ letters rest s)

------------------------------------------------------------
-- Arguments
------------------------------------------------------------

/- Take the name and the parameters of a script. -/
def withNames
    (args : List (List Char))
    (s : Startup) : Startup :=
  match args with
  | [] => s
  | name :: rest =>
      { s with
        machine :=
          { s.machine with name := name, args := rest } }

/- Take what follows the options. -/
def withArguments
    (args : List (List Char))
    (s : Startup) : Startup :=
  match args with
  | [] =>
      if s.hasText then
        s.refuse "-c requires an argument".toList
      else
        { s with
          machine := Call.putOption true 's' s.machine
          source := .input }
  | arg :: rest =>
      if s.hasText then
        { s with source := .text arg }.withNames rest
      else if s.machine.options.contains 's' then
        { s with
          machine := { s.machine with args := args }
          source := .input }
      else
        { s with
          machine := { s.machine with args := rest }
          source := .file arg }

/- Read the arguments of a shell. -/
def ofArguments
    (args : List (List Char))
    (m : Machine) : Startup :=
  let r := putOptions args ⟨{ m with line := 0 }, false, .input⟩
  if r.1.machine.isGoing then
    r.1.withArguments r.2
  else
    r.1

end Startup

end ContainerBuild.Shell
