import ContainerBuild.Text.Utf8

/-
  This file defines texts that are looked at octet by octet:
  each of their characters stands for one octet. What cuts,
  counts or compares octets works on such texts, and the
  octets need not be the form of any text.

  Key definitions include:
    * `spread`
    * `octetsOf`
    * `gather`
    * `octetsOf_spread`
-/

namespace ContainerBuild.Text

/- The character that stands for an octet. -/
def octetChar (b : UInt8) : Char :=
  Char.ofNat b.toNat

/- Octets with a character for each. -/
def ofOctets (bs : List UInt8) : List Char :=
  bs.map octetChar

/- The octets of a text with a character for each. -/
def spread (s : String) : List Char :=
  ofOctets (utf8 s)

/- The octets that characters stand for. -/
def octetsOf (cs : List Char) : List UInt8 :=
  cs.map (fun c => UInt8.ofNat c.toNat)

/- The text whose octets characters stand for. -/
def gather (cs : List Char) : String :=
  String.ofList (decode (octetsOf cs))

/- A character stands for the octet it was made of. -/
theorem ofNat_toNat_octetChar (b : UInt8) :
    UInt8.ofNat (octetChar b).toNat = b := by
  have h : b.toNat < 256 := b.toNat_lt
  have hv : b.toNat.isValidChar := Or.inl (by omega)
  have hc : (octetChar b).toNat = b.toNat := by
    rw [octetChar, Char.ofNat, dif_pos hv]
    rfl
  rw [hc]
  exact UInt8.ofNat_toNat

/- No octet is lost or changed. -/
theorem octetsOf_ofOctets (bs : List UInt8) :
    octetsOf (ofOctets bs) = bs := by
  induction bs with
  | nil => rfl
  | cons b rest ih =>
      simp only [ofOctets, octetsOf, List.map_cons] at ih ⊢
      rw [ofNat_toNat_octetChar, ih]

/- The characters of a text stand for its octets. -/
theorem octetsOf_spread (s : String) :
    octetsOf (spread s) = utf8 s :=
  octetsOf_ofOctets (utf8 s)

end ContainerBuild.Text
