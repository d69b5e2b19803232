import ContainerBuild.Shell.Control

/-
  This file defines how a shell reads lines into variables,
  and how it reads the options among arguments.

  Key definitions include:
    * `Call.takeLine`
    * `Call.takeField`
    * `Call.read`
    * `Call.getopts`
-/

namespace ContainerBuild.Shell

open Text

namespace Call

------------------------------------------------------------
-- Reading
------------------------------------------------------------

/- A character that was read, and whether it was quoted. -/
abbrev ReadSign :=
  Bool × Char

/-
  The line at the start of characters, what follows it, and
  whether it was ended. A backslash quotes the character
  after it, and joins two lines.
-/
def takeLine
    (raw : Bool)
    (cs : List Char) : List ReadSign × List Char × Bool :=
  match cs with
  | [] => ([], [], false)
  | c :: rest =>
      if c = '\n' then
        ([], rest, true)
      else if c = '\\' && !raw then
        match rest with
        | [] => ([], [], false)
        | '\n' :: more => takeLine raw more
        | d :: more =>
            let l := takeLine raw more
            ((true, d) :: l.1, l.2)
      else if c = '\x00' then
        takeLine raw rest
      else
        let l := takeLine raw rest
        ((false, c) :: l.1, l.2)

/- Whether a sign is a blank at which lines are cut. -/
def isCutBlank
    (gaps : List Char)
    (s : ReadSign) : Bool :=
  !s.1 && gaps.contains s.2
    && Machine.usualGaps.contains s.2

/- Whether a sign is a mark at which lines are cut. -/
def isCutMark
    (gaps : List Char)
    (s : ReadSign) : Bool :=
  !s.1 && gaps.contains s.2
    && !Machine.usualGaps.contains s.2

/- The first field of a line, and the rest of the line. -/
def takeField
    (gaps : List Char)
    (ss : List ReadSign) : List ReadSign × List ReadSign :=
  let isCut (s : ReadSign) : Bool := !s.1 && gaps.contains s.2
  let field := ss.takeWhile (fun s => !isCut s)
  let blanks := isCutBlank gaps
  let rest := (ss.drop field.length).dropWhile blanks
  match rest with
  | [] => (field, [])
  | s :: more =>
      if isCutMark gaps s then
        (field, more.dropWhile blanks)
      else
        (field, rest)

/- The last field of a line: all of it but for its end. -/
def lastField
    (gaps : List Char)
    (ss : List ReadSign) : List ReadSign :=
  let first := takeField gaps ss
  if first.2 = [] then
    first.1
  else
    (ss.reverse.dropWhile (isCutBlank gaps)).reverse

/- Set variables to the fields of a line. -/
def assignFields
    (gaps : List Char)
    (names : List (List Char))
    (ss : List ReadSign)
    (m : Machine) : Machine :=
  match names with
  | [] => m
  | [name] =>
      m.assign name ((lastField gaps ss).map Prod.snd)
  | name :: rest =>
      let f := takeField gaps ss
      let set := m.assign name (f.1.map Prod.snd)
      if set.isGoing then
        assignFields gaps rest f.2 set
      else
        set

/- Read a line into variables. -/
def readInto
    (c : Call)
    (raw : Bool)
    (names : List (List Char)) : Machine :=
  match names.find? (fun n => !isName n) with
  | some name =>
      c.complain 2 (name ++ ": bad variable name".toList)
  | none =>
      if names = [] then
        c.complain 2 "arg count".toList
      else
        let gaps :=
          (c.machine.value? "IFS".toList).getD
            Machine.usualGaps
        let input := c.machine.takeInput 0
        let l := takeLine raw input.1
        let m := input.2.putBack 0 l.2.1
        let ss := l.1.dropWhile (isCutBlank gaps)
        assignFields gaps names ss
          (m.withStatus (if l.2.2 then 0 else 1))

/- Read a line; options come before the names. -/
def readLine
    (c : Call)
    (raw : Bool)
    (args : List (List Char)) : Machine :=
  match args with
  | ['-', '-'] :: rest => c.readInto raw rest
  | ['-', 'r'] :: rest => c.readLine true rest
  | ['-', 'p'] :: _ :: rest => c.readLine raw rest
  | ['-', 'p'] :: [] => c.complain 2 "No arg for -p option".toList
  | ('-' :: letter :: _) :: _ => c.illegalOption letter
  | _ => c.readInto raw args

/- Read a line into variables. -/
def read (c : Call) : Machine :=
  c.readLine false c.args

------------------------------------------------------------
-- Options
------------------------------------------------------------

/-
  What was found among arguments: the letter or a sign for
  what is wrong, the argument of an option, a complaint, and
  where the next option is.
-/
structure FoundOption where
  sign : Char
  argument : Option (List Char)
  complaint : List Char
  index : Nat
  place : Nat
deriving Repr

/- How a letter is known: with an argument or without. -/
inductive OptionKind
  | unknown
  | plain
  | withArgument
deriving DecidableEq, Repr

/- How a letter is known among those that are written. -/
def optionKind
    (letters : List Char)
    (letter : Char) : OptionKind :=
  match letters with
  | [] => .unknown
  | c :: ':' :: rest =>
      if c = letter then
        .withArgument
      else
        optionKind rest letter
  | c :: rest =>
      if c = letter then .plain else optionKind rest letter

/- What is wrong with an option, told or only signed. -/
def wrongOption
    (silent : Bool)
    (sign letter : Char)
    (complaint : List Char)
    (index place : Nat) : FoundOption :=
  if silent then
    ⟨sign, some [letter], [], index, place⟩
  else
    ⟨'?', none, complaint ++ ['\n'], index, place⟩

/-
  The option with a letter; the letters after it are the
  rest of the argument before an index.
-/
def optionOf
    (letters : List Char)
    (args : List (List Char))
    (index place : Nat)
    (letter : Char)
    (more : List Char) : FoundOption :=
  let silent := letters.head? = some ':'
  match optionKind letters letter with
  | .unknown =>
      wrongOption silent '?' letter
        ("Illegal option -".toList ++ [letter]) index place
  | .plain => ⟨letter, some [], [], index, place⟩
  | .withArgument =>
      if more ≠ [] then
        ⟨letter, some more, [], index, 0⟩
      else
        match args[index - 1]? with
        | some value => ⟨letter, some value, [], index + 1, 0⟩
        | none =>
            wrongOption silent ':' letter
              ("No arg for -".toList ++ [letter]
                ++ " option".toList) index place

/- The option at the start of an argument, or the end. -/
def optionFrom
    (letters : List Char)
    (args : List (List Char))
    (index : Nat) : Except Nat FoundOption :=
  match args[index - 1]? with
  | some ['-', '-'] => .error (index + 1)
  | some ('-' :: letter :: more) =>
      .ok (optionOf letters args (index + 1) 2 letter more)
  | _ => .error index

/-
  The next option, or the index behind all of them. A place
  that is not zero is one in the argument before an index.
-/
def optionAt
    (letters : List Char)
    (args : List (List Char))
    (index place : Nat) : Except Nat FoundOption :=
  let before := if index ≤ 1 then [] else args.getD (index - 2) []
  match if place = 0 then [] else before.drop place with
  | letter :: more =>
      .ok (optionOf letters args index (place + 1) letter more)
  | [] => optionFrom letters args index

/- Set a variable if nothing has failed. -/
def putIfGoing
    (name value : List Char)
    (m : Machine) : Machine :=
  if m.isGoing then m.put name value else m

/- Set a variable to a name, or fail. -/
def putNamed?
    (name value : List Char)
    (m : Machine) : Machine :=
  if !m.isGoing then
    m
  else if isName name then
    m.put name value
  else
    m.abort (name ++ ": bad variable name".toList)

/- Tell of an option in variables. -/
def tellOption
    (name : List Char)
    (o : FoundOption)
    (m : Machine) : Machine :=
  let argument := "OPTARG".toList
  let told := m.write 2 o.complaint
  let told :=
    match o.argument with
    | some v => told.put argument v
    | none => told.unbind argument
  let told := putIfGoing Machine.optionIndexName
    (decimal o.index) told
  (putNamed? name [o.sign] told).seekOption o.index o.place

/- Tell that there are no more options. -/
def tellNoOption
    (name : List Char)
    (index : Nat)
    (m : Machine) : Machine :=
  let told := m.put Machine.optionIndexName (decimal index)
  (putNamed? name ['?'] told).seekOption index 0

/- Read the next option among arguments. -/
def getopts (c : Call) : Machine :=
  match c.args with
  | letters :: name :: rest =>
      let m := c.machine
      let args := if rest = [] then m.args else rest
      let isPast := args.length + 1 < m.optionIndex
      let index := if isPast then 1 else m.optionIndex
      let place := if isPast then 0 else m.optionPlace
      match optionAt letters args index place with
      | .ok o => tellOption name o (c.done 0)
      | .error index => tellNoOption name index (c.done 1)
  | _ =>
      c.complain 2
        "Usage: getopts optstring var [arg...]".toList

end Call

end ContainerBuild.Shell
