import ContainerBuild.Text.Digit

/-
  This file defines the words of shell scripts, as they are
  before anything in them is expanded, and what is wrong
  with a script that cannot be read. The characters of
  scripts stand for octets.

  Key definitions include:
    * `Expansion`
    * `Piece`
    * `Word`
    * `Fault`
    * `Word.assignment?`
-/

namespace ContainerBuild.Shell

open Text

------------------------------------------------------------
-- Words
------------------------------------------------------------

/-
  What is made of the value of a parameter. With `onNull`
  an empty value counts as none; the rest of what stands in
  the braces is the argument.
-/
inductive Expansion
  | value
  | length
  | fallback (onNull : Bool)
  | assignment (onNull : Bool)
  | demand (onNull : Bool)
  | substitute (onNull : Bool)
  | trim (fromEnd longest : Bool)
  | malformed
deriving DecidableEq, Repr

/- A piece of a word. -/
inductive Piece
  | literal
      (quoted : Bool)
      (cs : List Char)
  | parameter
      (quoted : Bool)
      (name : List Char)
      (expansion : Expansion)
      (argument : List Char)
  | command
      (quoted : Bool)
      (line : Nat)
      (text : List Char)
  | arithmetic
      (quoted : Bool)
      (text : List Char)
deriving DecidableEq, Repr

/- A word before it is expanded. -/
abbrev Word :=
  List Piece

------------------------------------------------------------
-- Faults
------------------------------------------------------------

/- Why a script cannot be read. -/
inductive Fault
  | openQuote
  | openBrace
  | openSum
  | openBackquote
  | unexpected (found : String) (expected : Option String)
  | badLoopName
  | badFunctionName
  | badChannel
deriving DecidableEq, Repr

namespace Fault

/- The most characters in a complaint about a token. -/
def longest : Nat :=
  63

/- The complaint about a token that is out of place. -/
def misplaced
    (found : String)
    (expected : Option String) : String :=
  let whole :=
    match expected with
    | none => found ++ " unexpected"
    | some e =>
        found ++ " unexpected (expecting " ++ e ++ ")"
  String.ofList (whole.toList.take longest)

/- The message about a fault. -/
def message (f : Fault) : String :=
  "Syntax error: " ++
    match f with
    | openQuote => "Unterminated quoted string"
    | openBrace => "Missing '\x7d'"
    | openSum => "Missing '))'"
    | openBackquote => "EOF in backquote substitution"
    | unexpected found expected => misplaced found expected
    | badLoopName => "Bad for loop variable"
    | badFunctionName => "Bad function name"
    | badChannel => "Bad fd number"

end Fault

------------------------------------------------------------
-- Characters
------------------------------------------------------------

/- The blanks between words. -/
def isGap (c : Char) : Bool :=
  c = ' ' || c = '\t'

/- The characters that end a word. -/
def endsWord (c : Char) : Bool :=
  isGap c || c = '\n' || c = ';' || c = '&' || c = '|'
    || c = '<' || c = '>' || c = '(' || c = ')'

/- The characters that names begin with. -/
def startsName (c : Char) : Bool :=
  c.isAlpha || c = '_'

/- The characters of names. -/
def isNameChar (c : Char) : Bool :=
  startsName c || isAsciiDigit c

/- The parameters that are a sign. -/
def isSpecialName (c : Char) : Bool :=
  ['@', '*', '#', '?', '-', '$', '!'].contains c
    || isAsciiDigit c

/- Whether characters are a name. -/
def isName (cs : List Char) : Bool :=
  match cs with
  | [] => false
  | c :: rest => startsName c && rest.all isNameChar

------------------------------------------------------------
-- Views
------------------------------------------------------------

/- The number of lines that characters end. -/
def countLines (cs : List Char) : Nat :=
  cs.count '\n'

namespace Word

/- Put a piece before a word. -/
def cons
    (p : Piece)
    (w : Word) : Word :=
  match p, w with
  | .literal q cs, .literal q' cs' :: rest =>
      if q = q' then
        .literal q (cs ++ cs') :: rest
      else
        p :: w
  | _, _ => p :: w

/- Put one word before another. -/
def append
    (v w : Word) : Word :=
  v.foldr cons w

/- The characters of a word that quotes nothing. -/
def plain? (w : Word) : Option (List Char) :=
  match w with
  | [.literal false cs] => some cs
  | _ => none

/- The name and the value of a word that assigns. -/
def assignment? (w : Word) : Option (List Char × Word) :=
  match w with
  | .literal false cs :: rest =>
      let name := cs.takeWhile (fun c => c != '=')
      match cs.drop name.length with
      | _ :: value =>
          if isName name then
            if value = [] then
              some (name, rest)
            else
              some (name, .literal false value :: rest)
          else
            none
      | [] => none
  | _ => none

end Word

end ContainerBuild.Shell
