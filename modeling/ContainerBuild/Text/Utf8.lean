/-
  This file defines the UTF-8 form of text. Decoding splits
  the octets into well-formed characters and maximal
  ill-formed runs; the lenient reading shows each such run
  as one replacement character, the strict one refuses it.

  Key definitions include:
    * `encode`
    * `pieces`
    * `decode`
    * `decode?`
-/

namespace ContainerBuild.Text

------------------------------------------------------------
-- Encoding
------------------------------------------------------------

/- The tail octet that carries the six low bits of `n`. -/
def tailOctet (n : Nat) : UInt8 :=
  UInt8.ofNat (0x80 + n % 64)

/- The octets of one character. -/
def encodeChar (c : Char) : List UInt8 :=
  let n := c.toNat
  if n < 0x80 then
    [UInt8.ofNat n]
  else if n < 0x800 then
    [UInt8.ofNat (0xC0 + n / 64), tailOctet n]
  else if n < 0x10000 then
    [UInt8.ofNat (0xE0 + n / 4096),
      tailOctet (n / 64), tailOctet n]
  else
    [UInt8.ofNat (0xF0 + n / 262144),
      tailOctet (n / 4096), tailOctet (n / 64), tailOctet n]

/- The octets of a list of characters. -/
def encode (cs : List Char) : List UInt8 :=
  cs.flatMap encodeChar

/- The octets of a text. -/
def utf8 (s : String) : List UInt8 :=
  encode s.toList

------------------------------------------------------------
-- Decoding
------------------------------------------------------------

/-
  What a first octet promises: the bits it carries, the
  number of tail octets, and the bounds of the first one.
-/
structure Lead where
  bits : Nat
  tails : Nat
  low : Nat
  high : Nat

/- The promise of a first octet, if it may start a character. -/
def lead?
    (b : UInt8) : Option Lead :=
  let n := b.toNat
  if n < 0x80 then
    some ⟨n, 0, 0x80, 0xBF⟩
  else if n < 0xC2 then
    none
  else if n < 0xE0 then
    some ⟨n - 0xC0, 1, 0x80, 0xBF⟩
  else if n < 0xF0 then
    some
      ⟨n - 0xE0, 2,
        if n = 0xE0 then 0xA0 else 0x80,
        if n = 0xED then 0x9F else 0xBF⟩
  else if n < 0xF5 then
    some
      ⟨n - 0xF0, 3,
        if n = 0xF0 then 0x90 else 0x80,
        if n = 0xF4 then 0x8F else 0xBF⟩
  else
    none

/-
  The longest run of at most `count` tail octets, the first
  of them within the given bounds.
-/
def takeTails
    (count : Nat)
    (low high : Nat)
    (bs : List UInt8) : List UInt8 :=
  match count, bs with
  | 0, _ => []
  | _ + 1, [] => []
  | n + 1, b :: rest =>
      if low ≤ b.toNat && b.toNat ≤ high then
        b :: takeTails n 0x80 0xBF rest
      else
        []

/- The number made of leading bits and tail octets. -/
def joinBits
    (bits : Nat)
    (tails : List UInt8) : Nat :=
  tails.foldl (fun n b => n * 64 + (b.toNat - 0x80)) bits

/-
  Read what starts with octet `b`: a character, or `none`
  for an ill-formed run, and how many octets after `b`
  belong to it.
-/
def readOne
    (b : UInt8)
    (rest : List UInt8) : Option Char × Nat :=
  match lead? b with
  | none => (none, 0)
  | some lead =>
      let tails :=
        takeTails lead.tails lead.low lead.high rest
      if tails.length = lead.tails then
        (some (Char.ofNat (joinBits lead.bits tails)),
          tails.length)
      else
        (none, tails.length)

/-
  The characters of a list of octets, with `none` for each
  maximal ill-formed run.
-/
def pieces : List UInt8 → List (Option Char)
  | [] => []
  | b :: rest =>
      let one := readOne b rest
      one.1 :: pieces (rest.drop one.2)
termination_by bs => bs.length
decreasing_by
  simp only [List.length_drop, List.length_cons]
  omega

/- The character shown for an ill-formed run. -/
def replacement : Char :=
  '\uFFFD'

/- Decode, showing each ill-formed run as a replacement. -/
def decode (bs : List UInt8) : List Char :=
  (pieces bs).map (fun c => c.getD replacement)

/- Decode well-formed octets only. -/
def decode? (bs : List UInt8) : Option (List Char) :=
  (pieces bs).foldr
    (fun c acc =>
      match c, acc with
      | some c, some cs => some (c :: cs)
      | _, _ => none)
    (some [])

end ContainerBuild.Text
