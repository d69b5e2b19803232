import ContainerBuild.Number.Decimal
import ContainerBuild.Text.Digit

/-
  This file defines how numbers are laid out in slots: with
  a given count of digits, with a sign, and filled up to a
  width with blanks or zeros.

  Key definitions include:
    * `Slot`
    * `Slot.pad`
    * `fixed`
    * `exponential`
    * `general`
    * `Slot.integer`
    * `Slot.natural`
    * `Slot.real`
-/

namespace ContainerBuild.Printed

open Text

------------------------------------------------------------
-- Slots
------------------------------------------------------------

/-
  A slot: where its text stands, what fills it, how signs
  are shown, its width, and the count of digits.
-/
structure Slot where
  left : Bool
  zeros : Bool
  plus : Bool
  blank : Bool
  alternate : Bool
  width : Nat
  precision : Option Nat
deriving DecidableEq, Repr

/- Fill a slot; zeros stand behind the sign. -/
def Slot.pad
    (f : Slot)
    (numeric : Bool)
    (sign body : List Char) : List Char :=
  let missing := f.width - (sign.length + body.length)
  if f.left then
    sign ++ body ++ List.replicate missing ' '
  else if numeric && f.zeros then
    sign ++ List.replicate missing '0' ++ body
  else
    List.replicate missing ' ' ++ sign ++ body

/- A filled slot is as wide as it has to be. -/
theorem Slot.length_pad
    (f : Slot)
    (numeric : Bool)
    (sign body : List Char) :
    (f.pad numeric sign body).length =
      max f.width (sign.length + body.length) := by
  simp only [Slot.pad]
  split
  · simp
    omega
  · split <;> simp <;> omega

/- The sign of a number in a slot. -/
def Slot.sign
    (f : Slot)
    (negative : Bool) : List Char :=
  if negative then
    ['-']
  else if f.plus then
    ['+']
  else if f.blank then
    [' ']
  else
    []

/- Text in a slot, cut to the precision. -/
def Slot.text
    (f : Slot)
    (cs : List Char) : List Char :=
  match f.precision with
  | none => f.pad false [] cs
  | some n => f.pad false [] (cs.take n)

------------------------------------------------------------
-- Whole numbers
------------------------------------------------------------

/- The digits of a number in a base, at most `fuel` many. -/
def digitsIn
    (base fuel n : Nat) : List Char :=
  match fuel with
  | 0 => []
  | k + 1 =>
      if n < base then
        [hexDigit n]
      else
        digitsIn base k (n / base) ++ [hexDigit (n % base)]

/- Digits filled up with zeros; none for zero in none. -/
def Slot.digits
    (f : Slot)
    (base n : Nat) : List Char :=
  let ds := digitsIn base 70 n
  match f.precision with
  | none => ds
  | some p =>
      if p = 0 && n = 0 then [] else padZeros p ds

/- A whole number in a slot. -/
def Slot.integer
    (f : Slot)
    (n : Int) : List Char :=
  f.pad f.precision.isNone (f.sign (n < 0))
    (f.digits 10 n.natAbs)

/- A number in a base, in a slot. -/
def Slot.natural
    (f : Slot)
    (base : Nat)
    (n : Nat) : List Char :=
  let ds := f.digits base n
  if f.alternate && base = 16 && n != 0 then
    f.pad f.precision.isNone ['0', 'x'] ds
  else if f.alternate && base = 8 && ds.head? != some '0' then
    f.pad f.precision.isNone [] ('0' :: ds)
  else
    f.pad f.precision.isNone [] ds

------------------------------------------------------------
-- Real numbers
------------------------------------------------------------

/- Digits with a point before the last ones. -/
def pointed
    (alternate : Bool)
    (places : Nat)
    (ds : List Char) : List Char :=
  let whole := ds.take (ds.length - places)
  let part := ds.drop (ds.length - places)
  if part = [] && !alternate then
    whole
  else
    whole ++ '.' :: part

/- A ratio with a count of decimals. -/
def fixed
    (alternate : Bool)
    (places num den : Nat) : List Char :=
  let n := Binary64.roundDiv (num * Nat.pow 10 places) den
  pointed alternate places (padZeros (places + 1) (decimal n))

/- The digits of a ratio, and the exponent of the first. -/
def leadingDigits
    (count num den : Nat) : Nat × Int :=
  if num = 0 then
    (0, 0)
  else
    let top := Shortest.magnitude num den
    let u := Shortest.inUnits num den (top - count + 1)
    let n := Binary64.roundDiv u.1 u.2
    if Nat.pow 10 count ≤ n then
      (n / 10, top + 1)
    else
      (n, top)

/- An exponent with its sign, in two digits or more. -/
def exponentChars (e : Int) : List Char :=
  'e' :: (if e < 0 then '-' else '+')
    :: padZeros 2 (decimal e.natAbs)

/- A ratio with a power of ten. -/
def exponential
    (alternate : Bool)
    (places num den : Nat) : List Char :=
  let d := leadingDigits (places + 1) num den
  pointed alternate places (padZeros (places + 1) (decimal d.1))
    ++ exponentChars d.2

/- Decimals without the zeros at their end. -/
def dropDecimalZeros (cs : List Char) : List Char :=
  if cs.contains '.' then
    let kept := (cs.reverse.dropWhile (fun c => c = '0'))
    (if kept.head? = some '.' then kept.drop 1 else kept).reverse
  else
    cs

/-
  A ratio in the shorter of the two ways, with a count of
  digits; zeros at the end are dropped.
-/
def general
    (alternate : Bool)
    (count num den : Nat) : List Char :=
  let p := max count 1
  let top := (leadingDigits p num den).2
  if -4 ≤ top && top < p then
    let cs := fixed alternate ((p : Int) - 1 - top).toNat num den
    if alternate then cs else dropDecimalZeros cs
  else
    let cs := exponential alternate (p - 1) num den
    let mantissa := cs.takeWhile (fun c => c != 'e')
    let tail := cs.drop mantissa.length
    if alternate then
      cs
    else
      dropDecimalZeros mantissa ++ tail

/- The ways to write real numbers. -/
inductive RealStyle
  | fixed
  | exponential
  | general
deriving DecidableEq, Repr

/- A real number in a slot. -/
def Slot.real
    (f : Slot)
    (style : RealStyle)
    (x : Binary64) : List Char :=
  let count := f.precision.getD 6
  match x with
  | .nan => f.pad false (f.sign false) ['n', 'a', 'n']
  | .infinite s => f.pad false (f.sign s) ['i', 'n', 'f']
  | .finite s m e =>
      let r := Binary64.ratio m e
      f.pad true (f.sign s)
        (match style with
        | .fixed => Printed.fixed f.alternate count r.1 r.2
        | .exponential =>
            Printed.exponential f.alternate count r.1 r.2
        | .general =>
            Printed.general f.alternate count r.1 r.2)

end ContainerBuild.Printed
