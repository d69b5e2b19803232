import ContainerBuild.CommandLine.Argument

/-
  This file defines how arguments are read from the left to
  the right under a grammar: options are noted, the first
  word is the operand, and what has no place is kept aside.
  A request for help ends the reading where it stands.

  Key definitions include:
    * `Grammar`
    * `Reading`
    * `letters`
    * `Reading.take`
    * `Grammar.read`
-/

namespace ContainerBuild.CommandLine

open Text

/-
  The options of a command line, and whether its operand
  takes all arguments after it along.
-/
structure Grammar where
  rules : List OptionRule
  takesRest : Bool
deriving DecidableEq, Repr

/-
  What has been read: the operand, the options with their
  values, the latest first, and what had no place. An option
  may also be given nothing.
-/
structure Reading where
  operand : List String
  settings : List (String × Option String)
  surplus : List String
deriving DecidableEq, Repr

namespace Reading

/- Nothing has been read. -/
def nothing : Reading :=
  ⟨[], [], []⟩

/- Note an option. -/
def note
    (name : String)
    (value : Option String)
    (r : Reading) : Reading :=
  { r with settings := (name, value) :: r.settings }

/- Note flags. -/
def noteAll
    (flags : List OptionRule)
    (r : Reading) : Reading :=
  flags.foldl (fun r f => r.note f.name none) r

/- Keep texts aside. -/
def keep
    (texts : List String)
    (r : Reading) : Reading :=
  { r with surplus := r.surplus ++ texts }

/- Take the operand. -/
def withOperand
    (texts : List String)
    (r : Reading) : Reading :=
  { r with operand := texts }

/- Take texts as the operand, or keep them if there is one. -/
def absorb
    (texts : List String)
    (r : Reading) : Reading :=
  if r.operand = [] then
    r.withOperand texts
  else
    r.keep texts

/- Whether the operand is missing and is a single word. -/
def wantsWord
    (g : Grammar)
    (r : Reading) : Bool :=
  r.operand = [] && !g.takesRest

/- The value given last for an option, or that it has none. -/
def value?
    (name : String)
    (r : Reading) : Option (Option String) :=
  r.settings.lookup name

/- Whether an option was given. -/
def has
    (name : String)
    (r : Reading) : Bool :=
  (r.value? name).isSome

end Reading

------------------------------------------------------------
-- Letters
------------------------------------------------------------

/- The flags of a row of letters, all of which are known. -/
def letters
    (rules : List OptionRule)
    (r : OptionRule)
    (cs : List Char) : Except Stop (List OptionRule) :=
  match cs with
  | [] => .ok [r]
  | c :: more =>
      match ruleOfLetter? rules c with
      | none => .error .misuse
      | some next =>
          match letters rules next more with
          | .error s => .error s
          | .ok flags => .ok (r :: flags)

/-
  The flags of a letter and of what is written after it. An
  equals sign before more letters does not count.
-/
def Tail.letters
    (rules : List OptionRule)
    (r : OptionRule)
    (tail : Option Tail) : Except Stop (List OptionRule) :=
  match tail with
  | none => .ok [r]
  | some (.assigned []) => .error .misuse
  | some (.assigned cs) => CommandLine.letters rules r cs
  | some (.more cs) => CommandLine.letters rules r cs

namespace Reading

/- The texts of arguments. -/
def textsOf (as : List Argument) : List String :=
  as.map Argument.text

/- Note flags; a request for help among them comes first. -/
def takeLetters
    (flags : List OptionRule)
    (r : Reading) : Except Stop Reading :=
  if flags.contains .help then
    .error .help
  else
    .ok (r.noteAll flags)

/- Note an option that is written as a name alone. -/
def takeFlag
    (rule : OptionRule)
    (r : Reading) : Except Stop Reading :=
  match rule with
  | .help => .error .help
  | .flag _ name => .ok (r.note name none)
  | .valued _ => .error .misuse

/- What an equals sign gives; a separator is nothing. -/
def assigned (text : String) : Option String :=
  if text = "--" then
    none
  else
    some text

------------------------------------------------------------
-- Reading
------------------------------------------------------------

/-
  Read arguments after what has been read. The separator
  belongs to the operand that it stands before or after.
-/
def take
    (g : Grammar)
    (r : Reading)
    (as : List Argument) : Except Stop Reading :=
  match as with
  | [] => .ok r
  | ⟨text, .unknown⟩ :: rest => take g (r.keep [text]) rest
  | ⟨_, .lettered rule tail⟩ :: rest =>
      match Tail.letters g.rules rule tail with
      | .error s => .error s
      | .ok flags =>
          match r.takeLetters flags with
          | .error s => .error s
          | .ok r' => take g r' rest
  | ⟨_, .named (.valued name) (some v)⟩ :: rest =>
      take g (r.note name (assigned v)) rest
  | ⟨_, .named (.valued name) none⟩
      :: ⟨v, .word⟩ :: rest =>
      take g (r.note name (some v)) rest
  | ⟨_, .named rule none⟩ :: rest =>
      match r.takeFlag rule with
      | .error s => .error s
      | .ok r' => take g r' rest
  | ⟨_, .named _ (some _)⟩ :: _ => .error .misuse
  | ⟨text, .word⟩ :: ⟨sep, .separator⟩ :: rest =>
      if r.wantsWord g then
        take g (r.withOperand [text]) rest
      else
        .ok (r.absorb (text :: sep :: textsOf rest))
  | ⟨text, .word⟩ :: rest =>
      if r.wantsWord g then
        take g (r.withOperand [text]) rest
      else if r.operand = [] then
        .ok (r.absorb (text :: textsOf rest))
      else
        take g (r.keep [text]) rest
  | ⟨sep, .separator⟩ :: ⟨text, _⟩ :: rest =>
      if r.wantsWord g then
        take g (r.withOperand [text]) rest
      else
        .ok (r.absorb (sep :: text :: textsOf rest))
  | ⟨sep, .separator⟩ :: [] => .ok (r.keep [sep])

end Reading

/- Read the texts of a command line. -/
def Grammar.read
    (g : Grammar)
    (texts : List String) : Except Stop Reading :=
  match Argument.ofTexts g.rules texts with
  | .error s => .error s
  | .ok as => Reading.nothing.take g as

end ContainerBuild.CommandLine
