import ContainerBuild.Text.Digit
import ContainerBuild.Number.Binary64

/-
  This file defines the decimal text of numbers. Integers
  are written with all their digits. A binary number is
  written with the fewest digits that read back, and of
  those the ones nearest to its value.

  Key definitions include:
    * `decimal`
    * `integerText`
    * `Shortest.digits`
    * `realText`
    * `roundedText`
-/

namespace ContainerBuild

------------------------------------------------------------
-- Integers
------------------------------------------------------------

/- The sign of a decimal digit below ten. -/
def digitSign (d : Nat) : Char :=
  Char.ofNat (0x30 + d)

/- The decimal digits of a number. -/
def decimal (n : Nat) : List Char :=
  if n < 10 then
    [digitSign n]
  else
    decimal (n / 10) ++ [digitSign (n % 10)]

/- The decimal text of a number. -/
def numeral (n : Nat) : String :=
  String.ofList (decimal n)

/- The decimal digits of an integer, after its sign. -/
def integerChars (n : Int) : List Char :=
  if n < 0 then
    '-' :: decimal n.natAbs
  else
    decimal n.natAbs

/- The decimal text of an integer. -/
def integerText (n : Int) : String :=
  String.ofList (integerChars n)

------------------------------------------------------------
-- Shortest digits
------------------------------------------------------------

namespace Shortest

/-
  The decimal magnitude of a positive ratio below one: the
  least `k` with `num * 10 ^ k ≥ den`, searched upwards.
-/
def leadingZeros
    (fuel : Nat)
    (num den : Nat) : Nat :=
  match fuel with
  | 0 => 0
  | f + 1 =>
      if den ≤ num then
        0
      else
        leadingZeros f (num * 10) den + 1

/- The exponent of the first digit of a positive ratio. -/
def magnitude
    (num den : Nat) : Int :=
  if den ≤ num then
    (Binary64.digitCount (num / den) : Int) - 1
  else
    -(leadingZeros 400 num den : Int)

/- The ratio in units of `10 ^ k`, as a ratio. -/
def inUnits
    (num den : Nat)
    (k : Int) : Nat × Nat :=
  if 0 ≤ k then
    (num, den * Nat.pow 10 k.toNat)
  else
    (num * Nat.pow 10 (-k).toNat, den)

/-
  The two neighbours of a ratio on a decimal grid, the
  nearer one first; of two equally near the even one.
-/
def neighbours (num den : Nat) : List Nat :=
  let q := num / den
  if Binary64.roundDiv num den = q then
    [q, q + 1]
  else
    [q + 1, q]

/- The first neighbour on the grid that reads back. -/
def onGrid?
    (significand : Nat)
    (exponent : Int)
    (k : Int) : Option Nat :=
  let r := Binary64.ratio significand exponent
  let u := inUnits r.1 r.2 k
  (neighbours u.1 u.2).find?
    (fun d =>
      Binary64.ofDecimal false d k
        == Binary64.finite false significand exponent)

/-
  The digits and their unit for a positive number, tried
  with one digit first and with 17 at the latest.
-/
def search
    (significand : Nat)
    (exponent : Int)
    (top : Int)
    (fuel : Nat)
    (count : Nat) : Nat × Int :=
  let k := top - (count : Int) + 1
  match onGrid? significand exponent k with
  | some d => (d, k)
  | none =>
      match fuel with
      | 0 => (0, 0)
      | f + 1 =>
          search significand exponent top f (count + 1)

/- Drop the zeros at the end of a number. -/
def dropZeros
    (fuel : Nat)
    (d : Nat)
    (k : Int) : Nat × Int :=
  match fuel with
  | 0 => (d, k)
  | f + 1 =>
      if d % 10 = 0 && d != 0 then
        dropZeros f (d / 10) (k + 1)
      else
        (d, k)

/- The shortest digits of a positive number and their unit. -/
def digits
    (significand : Nat)
    (exponent : Int) : Nat × Int :=
  let r := Binary64.ratio significand exponent
  let top := magnitude r.1 r.2
  let found := search significand exponent top 17 1
  dropZeros 20 found.1 found.2

end Shortest

------------------------------------------------------------
-- Real numbers
------------------------------------------------------------

/-
  How real numbers are laid out: the exponents of the first
  digit that are written positionally, and the least count
  of exponent digits.
-/
structure RealFormat where
  lowest : Int
  highest : Int
  exponentDigits : Nat

/- Positional from 0.0001 up to sixteen integral digits. -/
def realFormat : RealFormat :=
  ⟨-4, 15, 2⟩

/- Fill digits up with zeros at the front. -/
def padZeros
    (width : Nat)
    (cs : List Char) : List Char :=
  List.replicate (width - cs.length) '0' ++ cs

/- Digits with the point after the first `whole` ones. -/
def withPoint
    (whole : Int)
    (ds : List Char) : List Char :=
  if whole ≤ 0 then
    '0' :: '.' :: List.replicate (-whole).toNat '0' ++ ds
  else if ds.length ≤ whole.toNat then
    ds ++ List.replicate (whole.toNat - ds.length) '0'
      ++ ['.', '0']
  else
    ds.take whole.toNat ++ '.' :: ds.drop whole.toNat

/- Digits in scientific layout. -/
def scientific
    (format : RealFormat)
    (top : Int)
    (ds : List Char) : List Char :=
  let mantissa :=
    match ds with
    | [d] => [d]
    | d :: rest => d :: '.' :: rest
    | [] => []
  let sign := if top < 0 then '-' else '+'
  mantissa ++ 'e' :: sign
    :: padZeros format.exponentDigits (decimal top.natAbs)

/- The text of a magnitude. -/
def magnitudeChars
    (format : RealFormat)
    (significand : Nat)
    (exponent : Int) : List Char :=
  if significand = 0 then
    ['0', '.', '0']
  else
    let found := Shortest.digits significand exponent
    let ds := decimal found.1
    let top := found.2 + (ds.length : Int) - 1
    if format.lowest ≤ top && top ≤ format.highest then
      withPoint (top + 1) ds
    else
      scientific format top ds

/- A minus sign before negative numbers. -/
def withSign
    (negative : Bool)
    (cs : List Char) : List Char :=
  if negative then
    '-' :: cs
  else
    cs

/- The shortest text of a number that reads back. -/
def realText (x : Binary64) : String :=
  match x with
  | .nan => "nan"
  | .infinite s =>
      String.ofList (withSign s ['i', 'n', 'f'])
  | .finite s m e =>
      String.ofList (withSign s (magnitudeChars realFormat m e))

/- A number without decimals, a tie going to even. -/
def roundedText (x : Binary64) : String :=
  match x with
  | .finite s m e =>
      let r := Binary64.ratio m e
      let n := Binary64.roundDiv r.1 r.2
      String.ofList (withSign s (decimal n))
  | other => realText other

end ContainerBuild
