/-
  This file defines 64-bit binary floating point numbers as
  exact values: a sign, a significand and a power of two.
  A quotient is rounded to the nearest number, a tie going
  to the even significand.

  Key definitions include:
    * `Binary64`
    * `Binary64.ofRatio`
    * `Binary64.ofDecimal`
    * `Binary64.ofInt?`
    * `Binary64.toInt?`
    * `Binary64.isPositive`
    * `Binary64.roundedInt?`
-/

namespace ContainerBuild

/-
  A finite number is `significand * 2 ^ exponent` with its
  sign. The significand is below `2 ^ 53`, and at least
  `2 ^ 52` unless the exponent is the least one, -1074.
-/
inductive Binary64
  | nan
  | infinite (negative : Bool)
  | finite
      (negative : Bool)
      (significand : Nat)
      (exponent : Int)
deriving DecidableEq, Repr, Inhabited

namespace Binary64

------------------------------------------------------------
-- Rounding
------------------------------------------------------------

/- The least exponent. -/
def minExponent : Int :=
  -1074

/- The greatest exponent. -/
def maxExponent : Int :=
  971

/- The quotient rounded to the nearest integer, ties to even. -/
def roundDiv
    (num den : Nat) : Nat :=
  let q := num / den
  let r := num % den
  if 2 * r < den then
    q
  else if den < 2 * r then
    q + 1
  else if q % 2 = 0 then
    q
  else
    q + 1

/- The quotient `num / den` divided by `2 ^ e`, as a ratio. -/
def scaled
    (num den : Nat)
    (e : Int) : Nat × Nat :=
  if 0 ≤ e then
    (num, den * Nat.pow 2 e.toNat)
  else
    (num * Nat.pow 2 (-e).toNat, den)

/-
  The exponent that gives the quotient 53 bits. The first
  guess, from the bit lengths, is at most one too small.
-/
def exponentOf
    (num den : Nat) : Int :=
  let guess := (num.log2 : Int) - (den.log2 : Int) - 53
  let s := scaled num den guess
  let e :=
    if s.1 / s.2 < Nat.pow 2 53 then
      guess
    else
      guess + 1
  if e < minExponent then
    minExponent
  else
    e

/- The number nearest to `num / den`, with the given sign. -/
def ofRatio
    (negative : Bool)
    (num den : Nat) : Binary64 :=
  if num = 0 then
    finite negative 0 minExponent
  else
    let e := exponentOf num den
    let s := scaled num den e
    let m := roundDiv s.1 s.2
    let carry := m = Nat.pow 2 53
    let m' := if carry then Nat.pow 2 52 else m
    let e' := if carry then e + 1 else e
    if maxExponent < e' then
      infinite negative
    else
      finite negative m' e'

/- The count of decimal digits of a number. -/
def digitCount (n : Nat) : Nat :=
  if n < 10 then
    1
  else
    digitCount (n / 10) + 1

/-
  The number nearest to `digits * 10 ^ exponent`. Decimal
  magnitudes outside the range are decided at once.
-/
def ofDecimal
    (negative : Bool)
    (digits : Nat)
    (exponent : Int) : Binary64 :=
  let magnitude := (digitCount digits : Int) + exponent
  if digits = 0 || magnitude < -330 then
    finite negative 0 minExponent
  else if 320 < magnitude then
    infinite negative
  else if 0 ≤ exponent then
    ofRatio negative (digits * Nat.pow 10 exponent.toNat) 1
  else
    ofRatio negative digits (Nat.pow 10 (-exponent).toNat)

/- The number nearest to an integer, unless it is too large. -/
def ofInt? (n : Int) : Option Binary64 :=
  match ofRatio (n < 0) n.natAbs 1 with
  | finite s m e => some (finite (s && m != 0) m e)
  | _ => none

/- One, zero. -/
def ofBool (b : Bool) : Binary64 :=
  ofRatio false (if b then 1 else 0) 1

/- Zero. -/
def zero : Binary64 :=
  finite false 0 minExponent

------------------------------------------------------------
-- Views
------------------------------------------------------------

/- The magnitude of a finite number as a ratio. -/
def ratio
    (significand : Nat)
    (exponent : Int) : Nat × Nat :=
  if 0 ≤ exponent then
    (significand * Nat.pow 2 exponent.toNat, 1)
  else
    (significand, Nat.pow 2 (-exponent).toNat)

/- An integer with a given sign and magnitude. -/
def signed
    (negative : Bool)
    (n : Nat) : Int :=
  if negative then
    -(n : Int)
  else
    n

/- The integral part, of finite numbers only. -/
def truncated? : Binary64 → Option Int
  | finite s m e =>
      let r := ratio m e
      some (signed s (r.1 / r.2))
  | _ => none

/- The value, if it is an integer. -/
def toInt? : Binary64 → Option Int
  | finite s m e =>
      let r := ratio m e
      if r.1 % r.2 = 0 then
        some (signed s (r.1 / r.2))
      else
        none
  | _ => none

/- The nearest integer, ties to even, of finite numbers. -/
def roundedInt? : Binary64 → Option (Bool × Nat)
  | finite s m e =>
      let r := ratio m e
      some (s, roundDiv r.1 r.2)
  | _ => none

------------------------------------------------------------
-- Arithmetic
------------------------------------------------------------

/- The number nearest to `n * 2 ^ e`. -/
def ofDyadic
    (n : Int)
    (e : Int) : Binary64 :=
  let r := ratio n.natAbs e
  ofRatio (n < 0) r.1 r.2

/- The sum, rounded; opposite infinities have none. -/
def add : Binary64 → Binary64 → Binary64
  | finite s m e, finite t k f =>
      let low := min e f
      let a := signed s (m * Nat.pow 2 (e - low).toNat)
      let b := signed t (k * Nat.pow 2 (f - low).toNat)
      ofDyadic (a + b) low
  | finite _ _ _, y => y
  | x, finite _ _ _ => x
  | infinite s, infinite t => if s = t then infinite s else nan
  | _, _ => nan

/- The product, rounded; zero times infinity is no number. -/
def mul : Binary64 → Binary64 → Binary64
  | finite s m e, finite t k f =>
      let r := ratio (m * k) (e + f)
      ofRatio (s != t) r.1 r.2
  | infinite s, finite t k _ =>
      if k = 0 then nan else infinite (s != t)
  | finite s m _, infinite t =>
      if m = 0 then nan else infinite (s != t)
  | infinite s, infinite t => infinite (s != t)
  | _, _ => nan

/- The number with the other sign. -/
def negate : Binary64 → Binary64
  | nan => nan
  | infinite s => infinite (!s)
  | finite s m e => finite (!s) m e

------------------------------------------------------------
-- Tests
------------------------------------------------------------

/- Zero of either sign. -/
def isZero : Binary64 → Bool
  | finite _ m _ => m == 0
  | _ => false

/- At most zero; no comparison with not-a-number holds. -/
def isAtMostZero : Binary64 → Bool
  | nan => false
  | infinite s => s
  | finite s m _ => s || m == 0

end Binary64

end ContainerBuild
