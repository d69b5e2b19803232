import ContainerBuild.Text.Digit
import ContainerBuild.Text.Newline
import ContainerBuild.Text.Split

/-
  This file defines the kinds of YAML values, named by their
  tags, and the kind that a plain scalar has because of how
  it is written: words for flags and the absent value,
  integers in several bases, real numbers, both also in
  base sixty, and moments.

  Key definitions include:
    * `Tag`
    * `Tag.ofName`
    * `Tag.ofPlain`
-/

namespace ContainerBuild.Yaml

open Text

------------------------------------------------------------
-- Tags
------------------------------------------------------------

/- The kinds of values; all others have no meaning here. -/
inductive Tag
  | null
  | flag
  | integer
  | real
  | binary
  | moment
  | text
  | sequence
  | mapping
  | set
  | orderedMapping
  | pairs
  | merge
  | value
  | unknown
deriving DecidableEq, Repr

/- What the standard tags start with. -/
def tagStart : List Char :=
  "tag:yaml.org,2002:".toList

/- The tag with a full name. -/
def Tag.ofName (name : List Char) : Tag :=
  match after? tagStart name with
  | none => .unknown
  | some rest =>
      match String.ofList rest with
      | "null" => .null
      | "bool" => .flag
      | "int" => .integer
      | "float" => .real
      | "binary" => .binary
      | "timestamp" => .moment
      | "str" => .text
      | "seq" => .sequence
      | "map" => .mapping
      | "set" => .set
      | "omap" => .orderedMapping
      | "pairs" => .pairs
      | "merge" => .merge
      | "value" => .value
      | _ => .unknown

------------------------------------------------------------
-- Forms of plain scalars
------------------------------------------------------------

/- The words for flags. -/
def flagWords : List String :=
  ["yes", "Yes", "YES", "no", "No", "NO", "true", "True",
    "TRUE", "false", "False", "FALSE", "on", "On", "ON",
    "off", "Off", "OFF"]

/- The words for the absent value. -/
def nullWords : List String :=
  ["~", "null", "Null", "NULL"]

/- A text without its sign. -/
def unsigned (cs : List Char) : List Char :=
  match cs with
  | '-' :: rest => rest
  | '+' :: rest => rest
  | _ => cs

/- A digit or an underscore. -/
def isDigitOrLine (c : Char) : Bool :=
  isAsciiDigit c || c = '_'

/- Not empty, and all characters fit. -/
def isRun
    (p : Char → Bool)
    (cs : List Char) : Bool :=
  cs != [] && cs.all p

/- Digits, from a non-zero one on, with underscores. -/
def isLargeNumber (cs : List Char) : Bool :=
  match cs with
  | c :: rest =>
      isAsciiDigit c && c != '0' && rest.all isDigitOrLine
  | [] => false

/- A number below sixty, in one or two digits. -/
def isSixtieth (cs : List Char) : Bool :=
  match cs with
  | [a] => isAsciiDigit a
  | [a, b] => '0' ≤ a && a ≤ '5' && isAsciiDigit b
  | _ => false

/- A number and parts below sixty, with colons between. -/
def isBaseSixty
    (first : List Char → Bool)
    (cs : List Char) : Bool :=
  match splitAll ':' cs with
  | a :: b :: rest => first a && (b :: rest).all isSixtieth
  | _ => false

/- The forms of integers. -/
def isInteger (cs : List Char) : Bool :=
  let u := unsigned cs
  match u with
  | '0' :: 'b' :: rest =>
      isRun (fun c => c = '0' || c = '1' || c = '_') rest
  | '0' :: 'x' :: rest =>
      isRun (fun c => (hexValue? c).isSome || c = '_') rest
  | '0' :: rest =>
      rest.all (fun c => ('0' ≤ c && c ≤ '7') || c = '_')
  | _ => isLargeNumber u || isBaseSixty isLargeNumber u

/- Digits with underscores, from a digit on. -/
def isNumber (cs : List Char) : Bool :=
  match cs with
  | c :: rest => isAsciiDigit c && rest.all isDigitOrLine
  | [] => false

/- A power of ten with its sign, or nothing. -/
def isPower (cs : List Char) : Bool :=
  match cs with
  | [] => true
  | e :: s :: ds =>
      (e = 'e' || e = 'E') && (s = '+' || s = '-')
        && isRun isAsciiDigit ds
  | _ => false

/- The digits after a point, and a power of ten. -/
def isFraction
    (first : Char → Bool)
    (cs : List Char) : Bool :=
  match cs with
  | [] => false
  | c :: _ =>
      first c && isPower (cs.dropWhile isDigitOrLine)

/- The words for infinity and not-a-number. -/
def specialWords : List String :=
  [".inf", ".Inf", ".INF"]

/- The words for not-a-number. -/
def nanWords : List String :=
  [".nan", ".NaN", ".NAN"]

/- The forms of real numbers. -/
def isReal (cs : List Char) : Bool :=
  let u := unsigned cs
  let pointed :=
    match splitFirst? '.' u with
    | none => false
    | some (whole, rest) =>
        (isNumber whole
          && (isPower (rest.dropWhile isDigitOrLine)))
          || (isBaseSixty isNumber whole
            && rest.all isDigitOrLine)
  let bare :=
    match cs with
    | '.' :: rest => isFraction isAsciiDigit rest
    | _ => false
  pointed || bare
    || specialWords.contains (String.ofList u)
    || nanWords.contains (String.ofList cs)

------------------------------------------------------------
-- Moments
------------------------------------------------------------

/- The parts of a moment, as they are written. -/
structure Moment where
  year : List Char
  month : List Char
  day : List Char
  time : Option (List Char × List Char × List Char)
  zone : Option (Option (Bool × List Char × List Char))
deriving DecidableEq, Repr

/- One or two digits. -/
def isShort (cs : List Char) : Bool :=
  isRun isAsciiDigit cs && cs.length ≤ 2

/- Exactly two digits. -/
def isPair (cs : List Char) : Bool :=
  isRun isAsciiDigit cs && cs.length = 2

/- A space or a tab. -/
def isSpaceOrTab (c : Char) : Bool :=
  c = ' ' || c = '\t'

/-
  The zone at the end of a moment: none, the zero zone, or a
  sign with hours and minutes.
-/
def zoneOf?
    (cs : List Char) :
    Option (Option (Option (Bool × List Char × List Char))) :=
  match cs.dropWhile isSpaceOrTab with
  | [] => if cs = [] then some none else none
  | ['Z'] => some (some none)
  | s :: rest =>
      if s = '+' || s = '-' then
        match splitFirst? ':' rest with
        | none =>
            if isShort rest then
              some (some (some (s = '-', rest, [])))
            else
              none
        | some (h, m) =>
            if isShort h && isPair m then
              some (some (some (s = '-', h, m)))
            else
              none
      else
        none

/- The seconds, and the zone behind their fraction. -/
def secondsOf?
    (cs : List Char) :
    Option (List Char
      × Option (Option (Bool × List Char × List Char))) :=
  let second := cs.take 2
  let rest :=
    match cs.drop 2 with
    | '.' :: more => more.dropWhile isAsciiDigit
    | more => more
  if isPair second then
    (zoneOf? rest).map (fun z => (second, z))
  else
    none

/- The time of a moment, after what separates it. -/
def withTime?
    (year month day : List Char)
    (cs : List Char) : Option Moment :=
  match splitFirst? ':' cs with
  | none => none
  | some (hour, rest) =>
      match splitFirst? ':' rest with
      | none => none
      | some (minute, tail) =>
          if isShort hour && isPair minute then
            (secondsOf? tail).map
              (fun s =>
                ⟨year, month, day,
                  some (hour, minute, s.1), s.2⟩)
          else
            none

/- What separates a date from a time, removed. -/
def afterDate?
    (cs : List Char) : Option (List Char) :=
  match cs with
  | c :: rest =>
      if c = 'T' || c = 't' then
        some rest
      else if isSpaceOrTab c then
        some (rest.dropWhile isSpaceOrTab)
      else
        none
  | [] => none

/- The parts of a moment. -/
def Moment.ofText?
    (cs : List Char) : Option Moment :=
  match splitFirst? '-' cs with
  | none => none
  | some (year, rest) =>
      match splitFirst? '-' rest with
      | none => none
      | some (month, tail) =>
          let day := tail.takeWhile isAsciiDigit
          let more := tail.dropWhile isAsciiDigit
          if isRun isAsciiDigit year && year.length = 4
              && isShort month && isShort day then
            if more = [] then
              some ⟨year, month, day, none, none⟩
            else
              (afterDate? more).bind
                (withTime? year month day)
          else
            none

/- The forms of moments; a bare date has all its digits. -/
def isMoment (cs : List Char) : Bool :=
  match Moment.ofText? cs with
  | none => false
  | some m =>
      m.time.isSome || (isPair m.month && isPair m.day)

------------------------------------------------------------
-- Resolution
------------------------------------------------------------

/- The kind of a plain scalar that is not empty. -/
def Tag.ofWord (cs : List Char) : Tag :=
  let word := String.ofList cs
  if flagWords.contains word then
    .flag
  else if isReal cs then
    .real
  else if isInteger cs then
    .integer
  else if word = "<<" then
    .merge
  else if nullWords.contains word then
    .null
  else if isMoment cs then
    .moment
  else if word = "=" then
    .value
  else if ["!", "&", "*"].contains word then
    .unknown
  else
    .text

/- The kind of a plain scalar, a last line feed aside. -/
def Tag.ofPlain (cs : List Char) : Tag :=
  if cs = [] then
    .null
  else
    Tag.ofWord (dropFinalNewline cs)

end ContainerBuild.Yaml
