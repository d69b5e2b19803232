import ContainerBuild.Shell.Opening

/-
  This file defines the utilities that are programs: they
  read files or their input, and write what they make of it.

  Key definitions include:
    * `Call.withInputs`
    * `Call.cat`
    * `Call.sleep`
    * `tools`
-/

namespace ContainerBuild.Shell

open Text

namespace Call

------------------------------------------------------------
-- Inputs
------------------------------------------------------------

/- What a file holds, or why it cannot be read. -/
def contentAt
    (path : List Char)
    (m : Machine) : Except (List Char) (List Char) × Machine :=
  if path = ['-'] || path = "/dev/stdin".toList then
    let r := m.takeInput 0
    (.ok r.1, r.2)
  else if path = Machine.nullDevice then
    (.ok [], m)
  else
    match m.disk.fetch (gather path) with
    | .ok c => (.ok (ofOctets c.bytes), m)
    | .error (.system (.numbered _ text _)) =>
        (.error text.toList, m)
    | .error _ => (.error [], m)

/- Complain about a file. -/
def complainOf
    (c : Call)
    (path reason : List Char)
    (m : Machine) : Machine :=
  (c.on m).complain 1 (path ++ ": ".toList ++ reason)

/-
  Go through files, or through the input where none is
  named; what cannot be read is complained about.
-/
def withInputs
    (c : Call)
    (paths : List (List Char))
    (use : List Char → List Char → Machine → Machine) :
    Machine :=
  let one (m : Machine) (path : List Char) : Machine :=
    match contentAt path m with
    | (.ok cs, m') => use path cs m'
    | (.error reason, m') => c.complainOf path reason m'
  let all := if paths = [] then [['-']] else paths
  all.foldl one (c.done 0)

/- All that the inputs hold, and the machine after it. -/
def allInput
    (c : Call)
    (paths : List (List Char)) : List Char × Machine :=
  let one
      (r : List Char × Machine)
      (path : List Char) : List Char × Machine :=
    match contentAt path r.2 with
    | (.ok cs, m) => (r.1 ++ cs, m)
    | (.error reason, m) => (r.1, c.complainOf path reason m)
  let all := if paths = [] then [['-']] else paths
  all.foldl one ([], c.done 0)

/- Write what files hold. -/
def cat (c : Call) : Machine :=
  c.withInputs (c.args.filter (fun a => a != ['-', 'u']))
    (fun _ cs m => m.write 1 cs)

------------------------------------------------------------
-- Time
------------------------------------------------------------

/- The microseconds of a time that is written out. -/
def microseconds? (x : Binary64) : Option Nat :=
  match x with
  | .finite false m e =>
      let r := Binary64.ratio m e
      some (r.1 * 1000000 / r.2)
  | _ => none

/- The seconds of units of time. -/
def secondsOf (unit : List Char) : Option Nat :=
  match unit with
  | [] => some 1
  | ['s'] => some 1
  | ['m'] => some 60
  | ['h'] => some 3600
  | ['d'] => some 86400
  | _ => none

/- The microseconds of a time with its unit. -/
def duration? (text : List Char) : Option Nat :=
  let number :=
    text.takeWhile (fun c => !"smhd".toList.contains c)
  match (realOf? number).bind microseconds?,
      secondsOf (text.drop number.length) with
  | some t, some s => some (t * s)
  | _, _ => none

/- Let time pass. -/
def sleep (c : Call) : Machine :=
  match c.args with
  | [] => c.complain 1 "missing operand".toList
  | args =>
      match args.find? (fun a => (duration? a).isNone) with
      | some a =>
          c.complain 1
            ("invalid time interval '".toList ++ a ++ ['\''])
      | none =>
          let t :=
            (args.filterMap duration?).foldl Nat.add 0
          { c.done 0 with clock := c.machine.clock + t }

------------------------------------------------------------
-- Environments
------------------------------------------------------------

/- Write the values of variables of the environment. -/
def printenv (c : Call) : Machine :=
  match c.args with
  | [] =>
      c.reply
        (asLines (c.environment.map
          (fun v => v.1 ++ '=' :: v.2)))
  | names =>
      let values :=
        names.filterMap (fun n => c.environment.lookup n)
      c.replyWith
        (if values.length = names.length then 0 else 1)
        (asLines values)

end Call

------------------------------------------------------------
-- Names
------------------------------------------------------------

/- The utilities that are programs, but for shells. -/
def tools : List (String × (Call → Machine)) :=
  Call.shared
    ++ [("cat", Call.cat),
      ("sleep", Call.sleep),
      ("printenv", Call.printenv)]

end ContainerBuild.Shell
