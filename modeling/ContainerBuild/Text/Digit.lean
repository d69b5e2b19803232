/-
  This file defines decimal digits of every script, and
  the reading and writing of digit runs.

  The decimal digits come in blocks of ten consecutive
  characters, so the table lists only the zeros.

  Key definitions include:
    * `digitValue?`
    * `isDigit`
    * `ofDigits`
    * `hexValue?`
    * `hexDigits`
-/

namespace ContainerBuild.Text

------------------------------------------------------------
-- Decimal digits
------------------------------------------------------------

/- The zero of each block of ten decimal digits. -/
def digitZeros : List Nat :=
  [0x0030, 0x0660, 0x06F0, 0x07C0, 0x0966, 0x09E6,
   0x0A66, 0x0AE6, 0x0B66, 0x0BE6, 0x0C66, 0x0CE6,
   0x0D66, 0x0DE6, 0x0E50, 0x0ED0, 0x0F20, 0x1040,
   0x1090, 0x17E0, 0x1810, 0x1946, 0x19D0, 0x1A80,
   0x1A90, 0x1B50, 0x1BB0, 0x1C40, 0x1C50, 0xA620,
   0xA8D0, 0xA900, 0xA9D0, 0xA9F0, 0xAA50, 0xABF0,
   0xFF10, 0x104A0, 0x10D30, 0x11066, 0x110F0, 0x11136,
   0x111D0, 0x112F0, 0x11450, 0x114D0, 0x11650, 0x116C0,
   0x11730, 0x118E0, 0x11950, 0x11C50, 0x11D50, 0x11DA0,
   0x16A60, 0x16AC0, 0x16B50, 0x1D7CE, 0x1D7D8, 0x1D7E2,
   0x1D7EC, 0x1D7F6, 0x1E140, 0x1E2F0, 0x1E950, 0x1FBF0]

/- The value of a decimal digit. -/
def digitValue? (c : Char) : Option Nat :=
  if c.toNat < 0x80 then
    if '0' ≤ c && c ≤ '9' then
      some (c.toNat - 0x30)
    else
      none
  else
    match digitZeros.find?
        (fun z => z ≤ c.toNat && c.toNat < z + 10) with
    | some z => some (c.toNat - z)
    | none => none

/- The decimal digits of every script. -/
def isDigit (c : Char) : Bool :=
  (digitValue? c).isSome

/- The ASCII decimal digits. -/
def isAsciiDigit (c : Char) : Bool :=
  '0' ≤ c && c ≤ '9'

/- The number that a run of decimal digits spells. -/
def ofDigits (cs : List Char) : Nat :=
  cs.foldl
    (fun n c => n * 10 + (digitValue? c).getD 0) 0

/- Every ASCII digit of core is a decimal digit. -/
theorem isDigit_of_isAsciiDigit
    (c : Char)
    (h : isAsciiDigit c = true) :
    isDigit c = true := by
  have hn : c.toNat < 0x80 := by
    simp only [isAsciiDigit, Bool.and_eq_true,
      decide_eq_true_eq] at h
    have := h.2
    have h9 : c.toNat ≤ 57 := by
      simpa [Char.le_def, UInt32.le_iff_toNat_le] using this
    omega
  simp only [isAsciiDigit] at h
  simp [isDigit, digitValue?, hn, h]

------------------------------------------------------------
-- Hexadecimal digits
------------------------------------------------------------

/- The value of an ASCII hexadecimal digit. -/
def hexValue? (c : Char) : Option Nat :=
  if '0' ≤ c && c ≤ '9' then
    some (c.toNat - 0x30)
  else if 'a' ≤ c && c ≤ 'f' then
    some (c.toNat - 0x57)
  else if 'A' ≤ c && c ≤ 'F' then
    some (c.toNat - 0x37)
  else
    none

/- The lower case hexadecimal digit of a value below 16. -/
def hexDigit (n : Nat) : Char :=
  if n < 10 then
    Char.ofNat (0x30 + n)
  else
    Char.ofNat (0x57 + n)

/- The `width` lowest hexadecimal digits of a number. -/
def hexDigits
    (width : Nat)
    (n : Nat) : List Char :=
  match width with
  | 0 => []
  | w + 1 => hexDigits w (n / 16) ++ [hexDigit (n % 16)]

/- The number that a run of hexadecimal digits spells. -/
def ofHexDigits? (cs : List Char) : Option Nat :=
  cs.foldl
    (fun acc c =>
      match acc, hexValue? c with
      | some n, some d => some (n * 16 + d)
      | _, _ => none)
    (some 0)

end ContainerBuild.Text
