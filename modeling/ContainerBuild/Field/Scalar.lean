import ContainerBuild.Field.Defect
import ContainerBuild.Number.Literal
import ContainerBuild.Text.Utf8

/-
  This file defines scalars, the leaves of structured data,
  and how a field accepts them. A field takes its own kind
  and also what stands for it without loss: a flag or a text
  where a number is due, zero and one where a flag is due.

  Key definitions include:
    * `Scalar`
    * `Scalar.toText`
    * `Scalar.toInteger`
    * `Scalar.toReal`
    * `Scalar.toFlag`
-/

namespace ContainerBuild.Field

open Text

/- A leaf of structured data, or anything that is none. -/
inductive Scalar
  | null
  | flag (b : Bool)
  | integer (n : Int)
  | real (x : Binary64)
  | text (s : String)
  | octets (bs : List UInt8)
  | other
deriving Repr, DecidableEq

------------------------------------------------------------
-- Underscores
------------------------------------------------------------

/- Whether two underscores follow each other. -/
def hasDoubleUnderscore (cs : List Char) : Bool :=
  occursIn ['_', '_'] cs

/-
  Remove underscores, which must not be doubled and not
  stand at either end.
-/
def joined?
    (cs : List Char) : Option (List Char) :=
  if cs.head? = some '_' || cs.getLast? = some '_'
      || hasDoubleUnderscore cs then
    none
  else
    some (cs.filter (fun c => c != '_'))

------------------------------------------------------------
-- Integers
------------------------------------------------------------

/- Remove a point with zeros and nothing else behind it. -/
def dropZeroFraction (cs : List Char) : List Char :=
  match splitFirst? '.' cs with
  | none => cs
  | some (whole, fraction) =>
      if fraction != [] && fraction.all (fun c => c = '0') then
        whole
      else
        cs

/- Remove white space at both ends. -/
def trimWhite (cs : List Char) : List Char :=
  dropEnd isWhiteSpace (dropStart isWhiteSpace cs)

/- A digit other than zero. -/
def isLeadingDigit (c : Char) : Bool :=
  '1' ≤ c && c ≤ '9'

/- An integer without superfluous zeros, as it is written. -/
def exactInteger? (cs : List Char) : Option Int :=
  let s : Bool × List Char :=
    match cs with
    | '-' :: rest => (true, rest)
    | _ => (false, cs)
  match s.2 with
  | ['0'] => some 0
  | c :: rest =>
      if isLeadingDigit c && rest.all isAsciiDigit then
        some (Binary64.signed s.1 (ofDigits s.2))
      else
        none
  | [] => none

/-
  Whether a text starts with an integer that is too long,
  its minus sign included.
-/
def startsTooLong (cs : List Char) : Bool :=
  let s : Nat × List Char :=
    match cs with
    | '-' :: rest => (1, rest)
    | _ => (0, cs)
  (s.2.head?.map isLeadingDigit).getD false
    && maxDigits < s.1 + (s.2.takeWhile isAsciiDigit).length

/-
  Remove the zeros at the start, and underscores between and
  after them; `last` is the character before. What follows
  is a digit, a minus sign, or a point, whose character
  before it is kept; the last one is kept also at the end.
-/
def dropZeros?
    (last : Char)
    (cs : List Char) : Option (List Char) :=
  match cs with
  | [] => some [last]
  | c :: rest =>
      if c = '0' || c = '_' then
        dropZeros? c rest
      else if isLeadingDigit c || c = '-' then
        some (c :: rest)
      else if c = '.' then
        some (last :: c :: rest)
      else
        none

/- The part of a text after its sign, plainly written. -/
def tidy?
    (cs : List Char) : Option (List Char) :=
  match cs with
  | [] => none
  | c :: rest =>
      if c = '0' then
        dropZeros? c rest
      else if isLeadingDigit c then
        some (c :: rest)
      else
        none

/- A loosely written integer, tidied up. -/
def tidied? (cs : List Char) : Option (List Char) :=
  let s := takeSign (trimWhite cs)
  (tidy? s.2).map (fun body =>
    let whole := dropZeroFraction body
    (if s.1 then ['-'] else [])
      ++ (joined? whole).getD whole)

/- The integer that a loosely written text stands for. -/
def looseInteger? (cs : List Char) : Option Int :=
  (tidied? cs).bind (fun text =>
    if startsTooLong text then
      none
    else
      exactInteger? text)

/-
  The integer that a text stands for. Only a text that needs
  no tidying can be found too long.
-/
def integerOfText
    (cs : List Char) : Except Mismatch Int :=
  if startsTooLong cs then
    .error .oversizedInteger
  else
    match exactInteger? cs with
    | some n => .ok n
    | none =>
        match looseInteger? cs with
        | some n => .ok n
        | none => .error .unreadableInteger

/- The bounds within which a real number is an integer. -/
def integerBound : Int :=
  (Nat.pow 2 63 : Nat)

/- The integer that a real number is. -/
def integerOfReal
    (x : Binary64) : Except Mismatch Int :=
  match x with
  | .finite _ _ _ =>
      match x.toInt? with
      | none => .error .fractionalInteger
      | some n =>
          if -integerBound < n && n < integerBound then
            .ok n
          else
            .error .oversizedInteger
  | _ => .error .infiniteInteger

------------------------------------------------------------
-- Real numbers
------------------------------------------------------------

/- The real number that a text stands for. -/
def realOfText
    (cs : List Char) : Except Mismatch Binary64 :=
  match realOf? (trimWhite cs) with
  | some x => .ok x
  | none =>
      match (joined? cs).bind realOf? with
      | some x => .ok x
      | none => .error .unreadableReal

------------------------------------------------------------
-- Flags
------------------------------------------------------------

/- The words for `false`. -/
def falseWords : List String :=
  ["0", "f", "n", "no", "off", "false"]

/- The words for `true`. -/
def trueWords : List String :=
  ["1", "t", "y", "on", "yes", "true"]

/- The flag that a text stands for, in any case. -/
def flagOfText (s : String) : Except Mismatch Bool :=
  let word := String.ofList (s.toList.map lowerAscii)
  if falseWords.contains word then
    .ok false
  else if trueWords.contains word then
    .ok true
  else
    .error .unreadableFlag

/- The flag that an integer stands for. -/
def flagOfInteger (n : Int) : Except Mismatch Bool :=
  if n = 0 then
    .ok false
  else if n = 1 then
    .ok true
  else
    .error .unreadableFlag

/- The flag that a real number stands for. -/
def flagOfReal (x : Binary64) : Except Mismatch Bool :=
  match integerOfReal x with
  | .ok n => flagOfInteger n
  | .error _ => .error .notFlag

------------------------------------------------------------
-- Fields
------------------------------------------------------------

/- The text in a list of octets. -/
def textOfOctets?
    (bs : List UInt8) : Option String :=
  (decode? bs).map String.ofList

namespace Scalar

/- A text field takes texts, and octets that are UTF-8. -/
def toText : Scalar → Except Mismatch String
  | text s => .ok s
  | octets bs =>
      match textOfOctets? bs with
      | some s => .ok s
      | none => .error .undecodableText
  | _ => .error .notText

/- An integer field. -/
def toInteger : Scalar → Except Mismatch Int
  | flag b => .ok (if b then 1 else 0)
  | integer n => .ok n
  | real x => integerOfReal x
  | text s => integerOfText s.toList
  | octets bs =>
      match textOfOctets? bs with
      | some s => integerOfText s.toList
      | none => .error .unreadableInteger
  | _ => .error .notInteger

/- A real field; integers too large for it are refused. -/
def toReal : Scalar → Except Mismatch Binary64
  | flag b => .ok (Binary64.ofBool b)
  | integer n =>
      match Binary64.ofInt? n with
      | some x => .ok x
      | none => .error .notReal
  | real x => .ok x
  | text s => realOfText s.toList
  | octets bs =>
      match textOfOctets? bs with
      | some s => realOfText s.toList
      | none => .error .unreadableReal
  | _ => .error .notReal

/- A flag field. -/
def toFlag : Scalar → Except Mismatch Bool
  | flag b => .ok b
  | integer n =>
      if -integerBound ≤ n && n < integerBound then
        flagOfInteger n
      else
        .error .notFlag
  | real x => flagOfReal x
  | text s => flagOfText s
  | octets bs =>
      match textOfOctets? bs with
      | some s => flagOfText s
      | none => .error .unreadableFlag
  | _ => .error .notFlag

end Scalar

end ContainerBuild.Field
