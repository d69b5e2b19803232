/-
  This file defines the Base64 form of octets, with padding.

  Key definitions include:
    * `base64`
-/

namespace ContainerBuild.Text

/- The sign for a value below 64. -/
def base64Sign (n : Nat) : Char :=
  if n < 26 then
    Char.ofNat (0x41 + n)
  else if n < 52 then
    Char.ofNat (0x61 + (n - 26))
  else if n < 62 then
    Char.ofNat (0x30 + (n - 52))
  else if n = 62 then
    '+'
  else
    '/'

/- Three octets make four signs; a shorter end is padded. -/
def base64 : List UInt8 → List Char
  | [] => []
  | [a] =>
      let n := a.toNat * 16
      [base64Sign (n / 64), base64Sign (n % 64), '=', '=']
  | [a, b] =>
      let n := (a.toNat * 256 + b.toNat) * 4
      [base64Sign (n / 4096), base64Sign (n / 64 % 64),
        base64Sign (n % 64), '=']
  | a :: b :: c :: rest =>
      let n := (a.toNat * 256 + b.toNat) * 256 + c.toNat
      base64Sign (n / 262144) :: base64Sign (n / 4096 % 64)
        :: base64Sign (n / 64 % 64) :: base64Sign (n % 64)
        :: base64 rest

end ContainerBuild.Text
