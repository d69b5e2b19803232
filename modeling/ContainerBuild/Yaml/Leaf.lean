import ContainerBuild.Yaml.Cursor
import ContainerBuild.Yaml.Tag
import ContainerBuild.Field.Scalar
import ContainerBuild.Text.Case

/-
  This file defines the values of YAML scalars. The tag says
  of what kind the value is, and a scalar that does not have
  the form of its kind is a fault.

  Key definitions include:
    * `flagValue`
    * `integerValue`
    * `realValue`
    * `octetsValue`
    * `checkMoment`
    * `scalarValue`
-/

namespace ContainerBuild.Yaml

open Text ContainerBuild.Field

------------------------------------------------------------
-- Flags
------------------------------------------------------------

/- The flag that a word stands for, in any case. -/
def flagValue (cs : List Char) : Except Fault Bool :=
  let word := String.ofList (lower cs)
  if ["yes", "true", "on"].contains word then
    .ok true
  else if ["no", "false", "off"].contains word then
    .ok false
  else
    .error (.unknownWord word)

------------------------------------------------------------
-- Integers
------------------------------------------------------------

/- A text without its underscores. -/
def dropLines (cs : List Char) : List Char :=
  cs.filter (fun c => c != '_')

/- Whether a text has a minus sign. -/
def isNegative (cs : List Char) : Bool :=
  cs.head? = some '-'

/- An integer in a base. -/
def integerIn
    (base : Nat)
    (cs : List Char) : Except Fault Int :=
  match readIntegerIn base cs with
  | .ok n => .ok n
  | .error fault => .error (.badValue fault.message)

/- Integers in base ten, all of them. -/
def decimalValues :
    List (List Char) → Except Fault (List Int)
  | [] => .ok []
  | cs :: rest =>
      match integerIn 10 cs with
      | .error e => .error e
      | .ok n =>
          match decimalValues rest with
          | .error e => .error e
          | .ok ns => .ok (n :: ns)

/- Digits in base sixty, the highest first. -/
def ofSixtieths (ns : List Int) : Int :=
  ns.foldl (fun n d => n * 60 + d) 0

/-
  The magnitude of an integer, which may hold a sign and the
  mark of its base once more.
-/
def integerBody (cs : List Char) : Except Fault Int :=
  match cs with
  | [] => .error .emptyNumber
  | ['0'] => .ok 0
  | '0' :: 'b' :: rest => integerIn 2 rest
  | '0' :: 'x' :: rest => integerIn 16 rest
  | '0' :: _ => integerIn 8 cs
  | _ =>
      if cs.contains ':' then
        (decimalValues (splitAll ':' cs)).map ofSixtieths
      else
        integerIn 10 cs

/- The integer that a text stands for. -/
def integerValue (cs : List Char) : Except Fault Int :=
  let plain := dropLines cs
  match integerBody (unsigned plain) with
  | .error e => .error e
  | .ok n => .ok (if isNegative plain then -n else n)

------------------------------------------------------------
-- Real numbers
------------------------------------------------------------

/- A real number in base ten. -/
def decimalReal (cs : List Char) : Except Fault Binary64 :=
  match readReal cs with
  | .ok x => .ok x
  | .error fault => .error (.badValue fault.message)

/- Real numbers in base ten, all of them. -/
def decimalReals :
    List (List Char) → Except Fault (List Binary64)
  | [] => .ok []
  | cs :: rest =>
      match decimalReal cs with
      | .error e => .error e
      | .ok x =>
          match decimalReals rest with
          | .error e => .error e
          | .ok xs => .ok (x :: xs)

/-
  Real digits in base sixty, the lowest first. Every step is
  rounded, and so is the weight of each digit, which must
  not be too large for a real number.
-/
def sumSixtieths
    (weight : Int)
    (total : Binary64) :
    List Binary64 → Except Fault Binary64
  | [] => .ok total
  | x :: rest =>
      match Binary64.ofInt? weight with
      | none => .error .oversized
      | some w =>
          sumSixtieths (weight * 60) (total.add (x.mul w))
            rest

/- The magnitude of a real number, which may hold a sign. -/
def realBody (cs : List Char) : Except Fault Binary64 :=
  if cs = ".inf".toList then
    .ok (.infinite false)
  else if cs = ".nan".toList then
    .ok .nan
  else if cs.contains ':' then
    match decimalReals (splitAll ':' cs) with
    | .error e => .error e
    | .ok xs => sumSixtieths 1 Binary64.zero xs.reverse
  else
    decimalReal cs

/- The real number that a text stands for. -/
def realValue (cs : List Char) : Except Fault Binary64 :=
  let plain := lower (dropLines cs)
  if plain = [] then
    .error .emptyNumber
  else
    match realBody (unsigned plain) with
    | .error e => .error e
    | .ok x =>
        .ok (if isNegative plain then x.negate else x)

------------------------------------------------------------
-- Octets
------------------------------------------------------------

/- The value of a Base64 sign. -/
def base64Value? (c : Char) : Option Nat :=
  if 'A' ≤ c && c ≤ 'Z' then
    some (c.toNat - 0x41)
  else if 'a' ≤ c && c ≤ 'z' then
    some (c.toNat - 0x61 + 26)
  else if '0' ≤ c && c ≤ '9' then
    some (c.toNat - 0x30 + 52)
  else if c = '+' then
    some 62
  else if c = '/' then
    some 63
  else
    none

/-
  Read Base64 signs: how many of the current four were seen,
  the bits left over from them, and the padding so far.
  Characters that are no signs are skipped.
-/
def unpack
    (seen left pads : Nat)
    (cs : List Char) : Except Fault (List UInt8) :=
  match cs with
  | [] => if seen = 0 then .ok [] else .error .malformed
  | '=' :: rest =>
      if 2 ≤ seen && 4 ≤ seen + pads + 1 then
        .ok []
      else
        unpack seen left (if 2 ≤ seen then pads + 1 else pads)
          rest
  | c :: rest =>
      match base64Value? c with
      | none => unpack seen left pads rest
      | some v =>
          let emit (b : Nat) (r : Except Fault (List UInt8)) :
              Except Fault (List UInt8) :=
            r.map (fun bs => UInt8.ofNat b :: bs)
          match seen with
          | 0 => unpack 1 v 0 rest
          | 1 =>
              emit (left * 4 + v / 16) (unpack 2 (v % 16) 0 rest)
          | 2 =>
              emit (left * 16 + v / 4) (unpack 3 (v % 4) 0 rest)
          | _ => emit (left * 64 + v) (unpack 0 0 0 rest)

/- The octets that a text in Base64 stands for. -/
def octetsValue
    (cs : List Char) : Except Fault (List UInt8) :=
  if cs.all (fun c => c.toNat < 0x80) then
    unpack 0 0 0 cs
  else
    .error .malformed

------------------------------------------------------------
-- Moments
------------------------------------------------------------

/- Whether a year has 366 days. -/
def isLeapYear (year : Nat) : Bool :=
  year % 4 = 0 && (year % 100 != 0 || year % 400 = 0)

/- The days of a month. -/
def daysOf (year month : Nat) : Nat :=
  if month = 2 then
    if isLeapYear year then 29 else 28
  else if [4, 6, 9, 11].contains month then
    30
  else
    31

/- How a span of time is shown. -/
def spanText (minutes : Int) : String :=
  let days := Int.fdiv minutes 1440
  let seconds := Int.fmod minutes 1440 * 60
  let parts :=
    (if days = 0 then [] else ["days=" ++ integerText days])
      ++ (if seconds = 0 then []
        else ["seconds=" ++ integerText seconds])
  let inner := if parts = [] then ["0"] else parts
  "datetime.timedelta(" ++ joinTexts ", " inner ++ ")"

/- A zone must differ by less than a day. -/
def checkZone
    (zone : Bool × List Char × List Char) :
    Except Fault Unit :=
  let size := ofDigits zone.2.1 * 60 + ofDigits zone.2.2
  let minutes := Binary64.signed zone.1 size
  if size < 1440 then
    .ok ()
  else
    .error (.badValue
      ("offset must be a timedelta strictly between "
        ++ "-timedelta(hours=24) and timedelta(hours=24), "
        ++ "not " ++ spanText minutes ++ "."))

/- The limits of the parts of a date. -/
def checkDate (m : Moment) : Except Fault Unit :=
  let year := ofDigits m.year
  let month := ofDigits m.month
  let day := ofDigits m.day
  if year = 0 then
    .error (.badValue "year 0 is out of range")
  else if month = 0 || 12 < month then
    .error (.badValue "month must be in 1..12")
  else if day = 0 || daysOf year month < day then
    .error (.badValue "day is out of range for month")
  else
    .ok ()

/- The limits of the parts of a time. -/
def checkTime
    (time : List Char × List Char × List Char) :
    Except Fault Unit :=
  if 23 < ofDigits time.1 then
    .error (.badValue "hour must be in 0..23")
  else if 59 < ofDigits time.2.1 then
    .error (.badValue "minute must be in 0..59")
  else if 59 < ofDigits time.2.2 then
    .error (.badValue "second must be in 0..59")
  else
    .ok ()

/- The limits of a moment: of its zone, date and time. -/
def Moment.check (m : Moment) : Except Fault Unit :=
  let zone :=
    match m.zone with
    | some (some z) => checkZone z
    | _ => .ok ()
  match zone, checkDate m, m.time with
  | .error e, _, _ => .error e
  | .ok (), .error e, _ => .error e
  | .ok (), .ok (), none => .ok ()
  | .ok (), .ok (), some t => checkTime t

/- A text must be a moment within the limits. -/
def checkMoment (cs : List Char) : Except Fault Unit :=
  match Moment.ofText? (dropFinalNewline cs) with
  | none => .error .noMoment
  | some m => m.check

------------------------------------------------------------
-- Scalars
------------------------------------------------------------

/- Whether the values of a kind are made from a text. -/
def Tag.isScalar : Tag → Bool
  | .null => true
  | .flag => true
  | .integer => true
  | .real => true
  | .binary => true
  | .moment => true
  | .text => true
  | _ => false

/- The value of a text of some kind. -/
def scalarValue
    (tag : Tag)
    (cs : List Char) : Except Fault Scalar :=
  match tag with
  | .null => .ok .null
  | .flag => (flagValue cs).map Scalar.flag
  | .integer => (integerValue cs).map Scalar.integer
  | .real => (realValue cs).map Scalar.real
  | .binary => (octetsValue cs).map Scalar.octets
  | .moment => (checkMoment cs).map (fun _ => Scalar.other)
  | .text => .ok (.text (String.ofList cs))
  | _ => .error .malformed

end ContainerBuild.Yaml
