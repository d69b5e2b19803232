import ContainerBuild.Shell.Control

/-
  This file defines the utilities of a shell that mark its
  variables, hide them from what is around a function, and
  forget them.

  Key definitions include:
    * `Call.singleQuoted`
    * `Call.markAll`
    * `Call.hideAll`
    * `Call.unset`
-/

namespace ContainerBuild.Shell

open Text

namespace Call

------------------------------------------------------------
-- Variables
------------------------------------------------------------

/- A value between marks that a shell reads back. -/
def singleQuoted (cs : List Char) : List Char :=
  '\'' :: cs.flatMap
    (fun c => if c = '\'' then "'\"'\"'".toList else [c])
    ++ ['\'']

/- Variables in the order of their names. -/
def sortedBindings
    (m : Machine)
    (p : Variable → Bool) : List (List Char × Variable) :=
  (m.bindings.filter (fun b => p b.2)).mergeSort
    (fun a b => !Condition.precedes b.1 a.1)

/- A variable with its value as a shell reads it. -/
def bindingText (b : List Char × Variable) : List Char :=
  match b.2.value with
  | none => b.1
  | some v => b.1 ++ '=' :: singleQuoted v

/- List the variables that a mark picks out. -/
def listMarked
    (c : Call)
    (p : Variable → Bool) : Machine :=
  c.reply
    (asLines ((sortedBindings c.machine p).map
      (fun b => c.name ++ ' ' :: bindingText b)))

/- The name and the value in an argument that assigns. -/
def assignmentOf
    (arg : List Char) : List Char × Option (List Char) :=
  match splitFirst? '=' arg with
  | some (name, value) => (name, some value)
  | none => (arg, none)

/- Mark variables, and set those that have a value. -/
def markAll
    (exported locked : Bool)
    (c : Call) : Machine :=
  let markOne (m : Machine) (arg : List Char) : Machine :=
    let a := assignmentOf arg
    if !m.isGoing then
      m
    else if !isName a.1 then
      m.abort (a.1 ++ ": bad variable name".toList)
    else
      let m :=
        match a.2 with
        | none => m
        | some v => m.assign a.1 v
      if m.isGoing then m.mark exported locked a.1 else m
  match c.args.filter (fun a => a != ['-', 'p']) with
  | [] =>
      c.listMarked
        (fun v => (exported && v.exported) || (locked && v.locked))
  | args => args.foldl markOne (c.done 0)

/- Make variables of a function's own. -/
def hideAll (c : Call) : Machine :=
  let hide (m : Machine) (arg : List Char) : Machine :=
    let a := assignmentOf arg
    if !m.isGoing then
      m
    else if !isName a.1 then
      m.abort (a.1 ++ ": bad variable name".toList)
    else
      let m :=
        { m with hidden := (a.1, m.binding? a.1) :: m.hidden }
      match a.2 with
      | none => m
      | some v => m.assign a.1 v
  if c.machine.depth = 0 then
    c.fail "not in a function".toList
  else
    c.args.foldl hide (c.done 0)

/- Forget a function. -/
def forgetFunction
    (m : Machine)
    (name : List Char) : Machine :=
  { m with
    functions := m.functions.filter (fun f => f.1 != name) }

/- Forget variables or functions. -/
def unset (c : Call) : Machine :=
  let forget (m : Machine) (name : List Char) : Machine :=
    if !m.isGoing then
      m
    else if !isName name then
      m.abort (name ++ ": bad variable name".toList)
    else if m.isLocked name then
      m.abort (name ++ ": is read only".toList)
    else if name = Machine.optionIndexName then
      (m.unbind name).seekOptionText []
    else if (m.binding? name).isSome then
      m.unbind name
    else
      forgetFunction m name
  match c.args with
  | ['-', 'f'] :: names => names.foldl forgetFunction (c.done 0)
  | ['-', 'v'] :: names => names.foldl forget (c.done 0)
  | names => names.foldl forget (c.done 0)

end Call

end ContainerBuild.Shell
