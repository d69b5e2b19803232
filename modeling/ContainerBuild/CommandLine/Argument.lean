import ContainerBuild.Text.Digit
import ContainerBuild.Text.Newline
import ContainerBuild.Text.Split

/-
  This file defines what the arguments of a command line are
  taken for before any of them is acted upon: a word, the
  separator after which there are only words, an option of
  a grammar, or an option that the grammar does not know.
  Names of options may be cut short while they stay clear.

  Key definitions include:
    * `OptionRule`
    * `Token`
    * `Stop`
    * `Token.ofText`
    * `Argument.ofTexts`
-/

namespace ContainerBuild.CommandLine

open Text

------------------------------------------------------------
-- Options
------------------------------------------------------------

/-
  An option: the request for help, a flag that may have a
  letter as well, or a name that is followed by a value.
-/
inductive OptionRule
  | help
  | flag (letter : Option Char) (name : String)
  | valued (name : String)
deriving DecidableEq, Repr

namespace OptionRule

/- The name of an option. -/
def name : OptionRule → String
  | help => "--help"
  | flag _ n => n
  | valued n => n

/- The letter of an option. -/
def letter? : OptionRule → Option Char
  | help => some 'h'
  | flag l _ => l
  | valued _ => none

end OptionRule

/- The option with a letter. -/
def ruleOfLetter?
    (rules : List OptionRule)
    (c : Char) : Option OptionRule :=
  rules.find? (fun r => r.letter? = some c)

/- The option with exactly this name. -/
def ruleOfName?
    (rules : List OptionRule)
    (cs : List Char) : Option OptionRule :=
  rules.find? (fun r => r.name.toList = cs)

/- The options whose names begin like this. -/
def rulesFrom
    (rules : List OptionRule)
    (stem : List Char) : List OptionRule :=
  rules.filter (fun r => startsWith stem r.name.toList)

------------------------------------------------------------
-- Tokens
------------------------------------------------------------

/-
  What is written after the letter of an option: a value
  after an equals sign, or more letters.
-/
inductive Tail
  | assigned (value : List Char)
  | more (cs : List Char)
deriving DecidableEq, Repr

/- What an argument is taken for. -/
inductive Token
  | word
  | separator
  | named (r : OptionRule) (given : Option String)
  | lettered (r : OptionRule) (tail : Option Tail)
  | unknown
deriving DecidableEq, Repr

/- Why the arguments are not acted upon. -/
inductive Stop
  | help
  | misuse
deriving DecidableEq, Repr

/- An argument and what it is taken for. -/
structure Argument where
  text : String
  token : Token
deriving DecidableEq, Repr

namespace Token

/- Whether this is the fraction of a number. -/
def isFraction (cs : List Char) : Bool :=
  match cs with
  | '.' :: digits => digits != [] && digits.all isDigit
  | _ => false

/- Whether this is a negative number. -/
def isNegativeNumber (cs : List Char) : Bool :=
  match cs with
  | '-' :: rest =>
      let digits := dropFinalNewline rest
      (digits != [] && digits.all isDigit)
        || isFraction (digits.dropWhile isDigit)
  | _ => false

/-
  What looks like an option but is none of the grammar.
  Numbers and texts with spaces are words after all.
-/
def ofStranger (cs : List Char) : Token :=
  if isNegativeNumber cs || cs.contains ' ' then
    word
  else
    unknown

/- An option that is written out in full. -/
def ofSpelling?
    (rules : List OptionRule)
    (cs : List Char)
    (given : Option (List Char)) : Option Token :=
  match ruleOfName? rules cs with
  | some r => some (named r (given.map String.ofList))
  | none =>
      match cs with
      | ['-', c] =>
          (ruleOfLetter? rules c).map
            (fun r => lettered r (given.map Tail.assigned))
      | _ => none

/- An option with a value after an equals sign. -/
def ofAssignment?
    (rules : List OptionRule)
    (cs : List Char) : Option Token :=
  match splitFirst? '=' cs with
  | none => none
  | some (spelling, value) =>
      ofSpelling? rules spelling (some value)

/- A name, and the value after an equals sign. -/
def stemOf
    (cs : List Char) : List Char × Option (List Char) :=
  match splitFirst? '=' cs with
  | none => (cs, none)
  | some (stem, value) => (stem, some value)

/- A name that is cut short must fit one option only. -/
def ofStem
    (rules : List OptionRule)
    (cs : List Char) : Except Stop Token :=
  let (stem, given) := stemOf cs
  match rulesFrom rules stem with
  | [] => .ok (ofStranger cs)
  | [r] => .ok (named r (given.map String.ofList))
  | _ => .error .misuse

/- An option that is cut short, or letters in a row. -/
def ofShortened
    (rules : List OptionRule)
    (cs : List Char) : Except Stop Token :=
  match cs with
  | '-' :: '-' :: _ => ofStem rules cs
  | '-' :: c :: rest =>
      match ruleOfLetter? rules c with
      | some r => .ok (lettered r (some (.more rest)))
      | none => .ok (ofStranger cs)
  | _ => .ok word

/- What a text is taken for, the separator aside. -/
def ofText
    (rules : List OptionRule)
    (text : String) : Except Stop Token :=
  let cs := text.toList
  if cs.head? ≠ some '-' then
    .ok word
  else
    match ofSpelling? rules cs none with
    | some t => .ok t
    | none =>
        match ofAssignment? rules cs with
        | some t => .ok t
        | none => ofShortened rules cs

end Token

------------------------------------------------------------
-- Arguments
------------------------------------------------------------

namespace Argument

/- An argument that is a word whatever it looks like. -/
def plain (text : String) : Argument :=
  ⟨text, .word⟩

/- What the texts of a command line are taken for. -/
def ofTexts
    (rules : List OptionRule)
    (texts : List String) : Except Stop (List Argument) :=
  match texts with
  | [] => .ok []
  | text :: rest =>
      if text = "--" then
        .ok (⟨text, .separator⟩ :: rest.map plain)
      else
        match Token.ofText rules text with
        | .error s => .error s
        | .ok t =>
            match ofTexts rules rest with
            | .error s => .error s
            | .ok as => .ok (⟨text, t⟩ :: as)

end Argument

end ContainerBuild.CommandLine
