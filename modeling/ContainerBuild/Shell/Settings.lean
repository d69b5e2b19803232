import ContainerBuild.Shell.Input
import ContainerBuild.Shell.Naming
import ContainerBuild.Shell.Script

/-
  This file defines the utilities of a shell that set its
  options and traps, and the names of all utilities that
  need nothing but the machine.

  Key definitions include:
    * `optionNames`
    * `Call.setOptions`
    * `Call.trap`
    * `special`
    * `ordinary`
-/

namespace ContainerBuild.Shell

open Text

/- The options of a shell, with their letters. -/
def optionNames : List (String × Option Char) :=
  [("errexit", some 'e'), ("noglob", some 'f'),
    ("ignoreeof", some 'I'), ("interactive", some 'i'),
    ("monitor", some 'm'), ("noexec", some 'n'),
    ("stdin", some 's'), ("xtrace", some 'x'),
    ("verbose", some 'v'), ("vi", some 'V'),
    ("emacs", some 'E'), ("noclobber", some 'C'),
    ("allexport", some 'a'), ("notify", some 'b'),
    ("nounset", some 'u'), ("privileged", some 'p'),
    ("nolog", none), ("debug", none)]

/- The letters of the options that are set. -/
def optionLetters (m : Machine) : List Char :=
  (optionNames.filterMap Prod.snd).reverse.filter
    (fun c => m.options.contains c)

namespace Call

------------------------------------------------------------
-- Options
------------------------------------------------------------

/- Set an option, or set it back. -/
def putOption
    (on : Bool)
    (letter : Char)
    (m : Machine) : Machine :=
  let others := m.options.filter (fun c => c != letter)
  { m with
    options := if on then letter :: others else others }

/- List the options. -/
def listOptions (c : Call) : Machine :=
  let line (o : String × Option Char) : List Char :=
    let on :=
      match o.2 with
      | some letter => c.machine.options.contains letter
      | none => false
    let name := o.1.toList
    name ++ List.replicate (16 - name.length) ' '
      ++ (if on then "on" else "off").toList
  c.reply
    (asLines
      ("Current option settings".toList
        :: optionNames.map line))

/- List the options as commands that set them. -/
def listOptionCommands (c : Call) : Machine :=
  let line (o : String × Option Char) : List Char :=
    let on :=
      match o.2 with
      | some letter => c.machine.options.contains letter
      | none => false
    "set ".toList ++ [if on then '-' else '+']
      ++ "o ".toList ++ o.1.toList
  c.reply (asLines (optionNames.map line))

/- Set the options of letters in turn. -/
def putLetters
    (on : Bool)
    (letters : List Char)
    (c : Call) : Machine :=
  letters.foldl
    (fun m letter =>
      if !m.isGoing then
        m
      else if optionNames.any (fun o => o.2 = some letter) then
        putOption on letter m
      else
        m.abort ("Illegal option -".toList ++ [letter]))
    c.machine

/- Set an option by its name. -/
def putNamed
    (on : Bool)
    (name : List Char)
    (c : Call) : Machine :=
  match optionNames.find? (fun o => o.1.toList = name) with
  | some (_, some letter) => putOption on letter c.machine
  | some (_, none) => c.machine
  | none => c.fail ("Illegal option -o ".toList ++ name)

/- Set options and parameters. -/
def setOptions
    (c : Call)
    (args : List (List Char)) : Machine :=
  if !c.machine.isGoing then
    c.machine
  else
    match args with
    | [] => c.done 0
    | ['-', '-'] :: rest => withArgs rest (c.done 0)
    | ['-'] :: rest =>
        let m := putOption false 'x' (c.done 0)
        if rest = [] then m else withArgs rest m
    | ['-', 'o'] :: [] => c.listOptions
    | ['+', 'o'] :: [] => c.listOptionCommands
    | ['-', 'o'] :: name :: rest =>
        (c.on (c.putNamed true name)).setOptions rest
    | ['+', 'o'] :: name :: rest =>
        (c.on (c.putNamed false name)).setOptions rest
    | ('-' :: letters) :: rest =>
        (c.on (c.putLetters true letters)).setOptions rest
    | ('+' :: letters) :: rest =>
        (c.on (c.putLetters false letters)).setOptions rest
    | _ => withArgs args (c.done 0)

/- Set options and parameters, or list the variables. -/
def set (c : Call) : Machine :=
  if c.args = [] then
    c.reply
      (asLines ((sortedBindings c.machine
        (fun v => v.value.isSome)).map bindingText))
  else
    c.setOptions c.args

------------------------------------------------------------
-- Traps
------------------------------------------------------------

/- The name of a signal. -/
def signalName (n : Nat) : List Char :=
  match signalNames[n]? with
  | some s => s.toList
  | none => decimal n

/- List the traps. -/
def listTraps (c : Call) : Machine :=
  let line (t : Nat × List Char) : List Char :=
    "trap -- ".toList ++ singleQuoted t.2 ++ ' '
      :: signalName t.1
  c.reply
    (asLines
      ((c.machine.traps.mergeSort
        (fun a b => a.1 ≤ b.1)).map line))

/- Set what a signal brings about, or set it back. -/
def putTrap
    (action : Option (List Char))
    (n : Nat)
    (m : Machine) : Machine :=
  let others := m.traps.filter (fun t => t.1 != n)
  { m with
    traps :=
      match action with
      | none => others
      | some text => (n, text) :: others }

/- Set what signals bring about. -/
def putTraps
    (c : Call)
    (action : Option (List Char))
    (signals : List (List Char)) : Machine :=
  match signals with
  | [] => c.done 0
  | s :: rest =>
      match signal? s with
      | some n =>
          (c.on (putTrap action n c.machine)).putTraps
            action rest
      | none =>
          (c.machine.write 2 ("trap: ".toList ++ s
            ++ ": bad trap\n".toList)).withStatus 1

/- Set what signals bring about, or list it. -/
def trap (c : Call) : Machine :=
  match c.args.dropWhile (fun a => a = ['-', '-']) with
  | [] => c.listTraps
  | action :: [] => c.putTraps none [action]
  | action :: signals =>
      if (number? action).isSome then
        c.putTraps none (action :: signals)
      else if action = ['-'] then
        c.putTraps none signals
      else
        c.putTraps (some action) signals

------------------------------------------------------------
-- Masks and limits
------------------------------------------------------------

/- Show the permissions that new files do not get. -/
def umask (c : Call) : Machine :=
  match c.args with
  | [] => c.reply "0022\n".toList
  | ['-', 'S'] :: _ => c.reply "u=rwx,g=rx,o=rx\n".toList
  | _ => c.done 0

/- Show the time that programs took. -/
def times (c : Call) : Machine :=
  let line := "0m0.000000s 0m0.000000s".toList
  c.reply (asLines [line, line])

/- Show a limit. -/
def limit (c : Call) : Machine :=
  if c.args.length ≤ 1 then
    c.reply "unlimited\n".toList
  else
    c.done 0

end Call

------------------------------------------------------------
-- Names
------------------------------------------------------------

/- The special utilities: a mistake in them is fatal. -/
def special : List (String × (Call → Machine)) :=
  [(":", fun c => c.done 0),
    ("break", Call.loopFlow .breaking),
    ("continue", Call.loopFlow .continuing),
    ("exit", Call.exit),
    ("export", Call.markAll true false),
    ("local", Call.hideAll),
    ("readonly", Call.markAll false true),
    ("return", Call.leaveFunction),
    ("set", Call.set),
    ("shift", Call.shift),
    ("times", Call.times),
    ("trap", Call.trap),
    ("unset", Call.unset)]

/- The special utilities that run other commands. -/
def specialRunners : List String :=
  [".", "eval", "exec"]

/- The other utilities that only a shell has. -/
def ordinary : List (String × (Call → Machine)) :=
  [("cd", Call.cd),
    ("chdir", Call.cd),
    ("getopts", Call.getopts),
    ("read", Call.read),
    ("umask", Call.umask),
    ("ulimit", Call.limit),
    ("wait", Call.wait),
    ("alias", fun c => c.done 0),
    ("bg", fun c => c.done 0),
    ("fg", fun c => c.done 0),
    ("hash", fun c => c.done 0),
    ("jobs", fun c => c.done 0),
    ("unalias", fun c => c.done 0)]

/- The other utilities that run other commands. -/
def ordinaryRunners : List String :=
  ["command", "type"]

/- Whether a name is that of a special utility. -/
def isSpecial (name : List Char) : Bool :=
  let s := String.ofList name
  (special.lookup s).isSome || specialRunners.contains s

/- Whether a name is that of a utility within the shell. -/
def isBuiltin (name : List Char) : Bool :=
  let s := String.ofList name
  isSpecial name || (ordinary.lookup s).isSome
    || (Call.shared.lookup s).isSome
    || ordinaryRunners.contains s

/- The utility within the shell that needs the machine only. -/
def builtin? (name : List Char) : Option (Call → Machine) :=
  let s := String.ofList name
  ((special.lookup s).or (ordinary.lookup s)).or
    (Call.shared.lookup s)

end ContainerBuild.Shell
