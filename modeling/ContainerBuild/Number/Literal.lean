import ContainerBuild.Text.Blank
import ContainerBuild.Text.Digit
import ContainerBuild.Text.Quoted
import ContainerBuild.Number.Decimal

/-
  This file defines the reading of numbers given as text.
  White space around a number is ignored, digits of every
  script count, and single underscores may stand between
  digits. Integers have at most 4300 digits in base ten.

  Key definitions include:
    * `realOf?`
    * `IntegerFault`
    * `readIntegerIn`
    * `isUnwritable`
    * `RealFault`
    * `readReal`
-/

namespace ContainerBuild

open Text

------------------------------------------------------------
-- Plain numbers
------------------------------------------------------------

/- A sign, if there is one, and the rest. -/
def takeSign
    (cs : List Char) : Bool × List Char :=
  match cs with
  | '-' :: rest => (true, rest)
  | '+' :: rest => (false, rest)
  | _ => (false, cs)

/- The lower case of an ASCII letter. -/
def lowerAscii (c : Char) : Char :=
  if 'A' ≤ c && c ≤ 'Z' then
    Char.ofNat (c.toNat + 0x20)
  else
    c

/- The power of ten after a mark, or zero without a mark. -/
def exponentOf?
    (cs : List Char) : Option Int :=
  match cs with
  | [] => some 0
  | c :: rest =>
      if c = 'e' || c = 'E' then
        let signed := takeSign rest
        if signed.2 = [] || !signed.2.all isAsciiDigit then
          none
        else
          some (Binary64.signed signed.1 (ofDigits signed.2))
      else
        none

/- A magnitude: digits, a point, digits, a power of ten. -/
def magnitudeOf?
    (negative : Bool)
    (cs : List Char) : Option Binary64 :=
  let whole := cs.takeWhile isAsciiDigit
  let rest := cs.dropWhile isAsciiDigit
  let fraction :=
    match rest with
    | '.' :: more => more.takeWhile isAsciiDigit
    | _ => []
  let tail :=
    match rest with
    | '.' :: more => more.dropWhile isAsciiDigit
    | _ => rest
  if whole = [] && fraction = [] then
    none
  else
    match exponentOf? tail with
    | none => none
    | some e =>
        some (Binary64.ofDecimal negative
          (ofDigits (whole ++ fraction))
          (e - (fraction.length : Int)))

/- The words for infinity. -/
def infinityWords : List (List Char) :=
  ["inf".toList, "infinity".toList]

/- A signed decimal number or one of the special words. -/
def realOf? (cs : List Char) : Option Binary64 :=
  let s := takeSign cs
  let word := s.2.map lowerAscii
  if infinityWords.contains word then
    some (.infinite s.1)
  else if word = "nan".toList then
    some .nan
  else
    magnitudeOf? s.1 s.2

------------------------------------------------------------
-- Digits of every script
------------------------------------------------------------

/- The ASCII form of a digit of any script. -/
def plainDigit (c : Char) : Char :=
  match digitValue? c with
  | some d => digitSign d
  | none => c

/- Digits made plain and white space around them removed. -/
def plainNumber (cs : List Char) : List Char :=
  (dropEnd isWhiteSpace (dropStart isWhiteSpace cs)).map
    plainDigit

/-
  Remove the underscores, each of which must stand between
  two digits. `before` is the character on the left.
-/
def dropUnderscores?
    (before : Char)
    (cs : List Char) : Option (List Char) :=
  match cs with
  | [] => if before = '_' then none else some []
  | c :: rest =>
      if c = '_' then
        if isAsciiDigit before then
          dropUnderscores? c rest
        else
          none
      else if before = '_' && !isAsciiDigit c then
        none
      else
        match dropUnderscores? c rest with
        | none => none
        | some ds => some (c :: ds)

------------------------------------------------------------
-- Integers
------------------------------------------------------------

/- The most digits an integer may have in base ten. -/
def maxDigits : Nat :=
  4300

/- Why an integer with too many digits is refused. -/
def tooManyDigits (count : Nat) : String :=
  "Exceeds the limit (4300 digits) for integer string "
    ++ "conversion: value has " ++ numeral count
    ++ " digits; use sys.set_int_max_str_digits() "
    ++ "to increase the limit"

/- Why a text is not an integer in a base. -/
inductive IntegerFault
  | malformed (base : Nat) (given : List Char)
  | tooLong (count : Nat)
deriving DecidableEq, Repr

/- A malformed number is shown with 200 characters at most. -/
def IntegerFault.message : IntegerFault → String
  | .malformed base given =>
      "invalid literal for int() with base " ++ numeral base
        ++ ": "
        ++ String.ofList ((quotedChars given).take 200)
  | .tooLong count => tooManyDigits count

/- The value of a digit in a base of at most sixteen. -/
def digitIn?
    (base : Nat)
    (c : Char) : Option Nat :=
  (hexValue? c).bind
    (fun d => if d < base then some d else none)

/- Whether a character is a digit in a base. -/
def isDigitIn
    (base : Nat)
    (c : Char) : Bool :=
  (digitIn? base c).isSome

/- The number that digits in a base spell. -/
def ofDigitsIn
    (base : Nat)
    (cs : List Char) : Nat :=
  cs.foldl (fun n c => n * base + (digitIn? base c).getD 0) 0

/- The letter that marks a base, in both cases. -/
def markLetters (base : Nat) : List Char :=
  if base = 2 then
    ['b', 'B']
  else if base = 8 then
    ['o', 'O']
  else if base = 16 then
    ['x', 'X']
  else
    []

/- Remove the mark of a base and an underscore after it. -/
def dropMark
    (base : Nat)
    (cs : List Char) : List Char :=
  match cs with
  | '0' :: c :: rest =>
      if (markLetters base).contains c then
        match rest with
        | '_' :: more => more
        | _ => rest
      else
        cs
  | _ => cs

/-
  The digits at the start of a text, single underscores
  between them left out, and the rest. `none` if an
  underscore is not followed by a digit.
-/
def spanDigits?
    (base : Nat)
    (cs : List Char) : Option (List Char × List Char) :=
  match cs with
  | [] => some ([], [])
  | '_' :: c :: rest =>
      if isDigitIn base c then
        match spanDigits? base rest with
        | none => none
        | some (ds, tail) => some (c :: ds, tail)
      else
        none
  | ['_'] => none
  | c :: rest =>
      if isDigitIn base c then
        match spanDigits? base rest with
        | none => none
        | some (ds, tail) => some (c :: ds, tail)
      else
        some ([], cs)

/-
  Read an integer in a base. In base ten the digits are
  counted before anything behind them is looked at.
-/
def readIntegerIn
    (base : Nat)
    (cs : List Char) : Except IntegerFault Int :=
  let s := takeSign (plainNumber cs)
  match dropMark base s.2 with
  | '_' :: _ => .error (.malformed base cs)
  | body =>
      match spanDigits? base body with
      | none => .error (.malformed base cs)
      | some (ds, tail) =>
          if ds = [] then
            .error (.malformed base cs)
          else if base = 10 && maxDigits < ds.length then
            .error (.tooLong ds.length)
          else if tail != [] then
            .error (.malformed base cs)
          else
            .ok (Binary64.signed s.1 (ofDigitsIn base ds))

/- Read an integer in base ten. -/
def readInteger
    (cs : List Char) : Except IntegerFault Int :=
  readIntegerIn 10 cs

------------------------------------------------------------
-- Writing integers
------------------------------------------------------------

/- Why an integer with too many digits is not written. -/
def unwritable : String :=
  "Exceeds the limit (4300 digits) for integer string "
    ++ "conversion; use sys.set_int_max_str_digits() "
    ++ "to increase the limit"

/- Whether an integer has too many digits to be written. -/
def isUnwritable (n : Int) : Bool :=
  Nat.pow 10 maxDigits ≤ n.natAbs

------------------------------------------------------------
-- Real numbers
------------------------------------------------------------

/- A text that is not a real number. -/
structure RealFault where
  given : List Char
deriving DecidableEq, Repr

/- The whole text is shown. -/
def RealFault.message (f : RealFault) : String :=
  "could not convert string to float: "
    ++ String.ofList (quotedChars f.given)

/- Read a real number. -/
def readReal
    (cs : List Char) : Except RealFault Binary64 :=
  match dropUnderscores? ' ' (plainNumber cs) with
  | none => .error ⟨cs⟩
  | some ds =>
      match realOf? ds with
      | none => .error ⟨cs⟩
      | some x => .ok x

end ContainerBuild
