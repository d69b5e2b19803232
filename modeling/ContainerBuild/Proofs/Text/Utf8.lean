import ContainerBuild.Text.Utf8

/-
  This file relates encoding to decoding: what was encoded
  is decoded to itself, whatever follows. A character other
  than the line feed has no octet that ends a line, so that
  cutting text and cutting its octets are one thing.

  Main statements:
    * `readOne_encodeChar`
    * `decode_encode`
    * `decode?_encode`
    * `lineFeed_mem_encode_iff`
-/

namespace ContainerBuild.Text

------------------------------------------------------------
-- Octets
------------------------------------------------------------

theorem toNat_octet
    {n : Nat}
    (hSmall : n < 256) :
    (UInt8.ofNat n).toNat = n := by
  rw [UInt8.toNat_ofNat']
  exact Nat.mod_eq_of_lt hSmall

@[simp] theorem toNat_tailOctet (n : Nat) :
    (tailOctet n).toNat = 0x80 + n % 64 :=
  toNat_octet (by omega)

/- The values that characters have. -/
theorem toNat_bounds (c : Char) :
    c.toNat < 0xD800 ∨
      (0xDFFF < c.toNat ∧ c.toNat < 0x110000) :=
  c.valid

/- A tail octet within its bounds is taken. -/
theorem takeTails_cons
    {low high : Nat}
    {b : UInt8}
    (hLow : low ≤ b.toNat)
    (hHigh : b.toNat ≤ high)
    (n : Nat)
    (rest : List UInt8) :
    takeTails (n + 1) low high (b :: rest) =
      b :: takeTails n 0x80 0xBF rest := by
  simp [takeTails, hLow, hHigh]

@[simp] theorem takeTails_zero
    (low high : Nat)
    (bs : List UInt8) :
    takeTails 0 low high bs = [] := by
  cases bs <;> rfl

------------------------------------------------------------
-- First Octets
------------------------------------------------------------

theorem lead?_one
    {n : Nat}
    (hBits : n < 0x80) :
    lead? (UInt8.ofNat n) = some ⟨n, 0, 0x80, 0xBF⟩ := by
  have hByte := toNat_octet (show n < 256 by omega)
  simp [lead?, hByte, hBits]

theorem lead?_two
    {n : Nat}
    (hLow : 2 ≤ n)
    (hHigh : n < 0x20) :
    lead? (UInt8.ofNat (0xC0 + n)) =
      some ⟨n, 1, 0x80, 0xBF⟩ := by
  have hByte := toNat_octet (show 0xC0 + n < 256 by omega)
  simp only [lead?, hByte]
  rw [if_neg (by omega), if_neg (by omega),
    if_pos (by omega), Nat.add_sub_cancel_left]

theorem lead?_three
    {n : Nat}
    (hHigh : n < 0x10) :
    lead? (UInt8.ofNat (0xE0 + n)) =
      some
        ⟨n, 2,
          if n = 0 then 0xA0 else 0x80,
          if n = 0xD then 0x9F else 0xBF⟩ := by
  have hByte := toNat_octet (show 0xE0 + n < 256 by omega)
  have hFirst : (0xE0 + n = 0xE0) = (n = 0) :=
    propext (by omega)
  have hLast : (0xE0 + n = 0xED) = (n = 0xD) :=
    propext (by omega)
  simp only [lead?, hByte, hFirst, hLast]
  rw [if_neg (by omega), if_neg (by omega),
    if_neg (by omega), if_pos (by omega),
    Nat.add_sub_cancel_left]

theorem lead?_four
    {n : Nat}
    (hHigh : n < 5) :
    lead? (UInt8.ofNat (0xF0 + n)) =
      some
        ⟨n, 3,
          if n = 0 then 0x90 else 0x80,
          if n = 4 then 0x8F else 0xBF⟩ := by
  have hByte := toNat_octet (show 0xF0 + n < 256 by omega)
  have hFirst : (0xF0 + n = 0xF0) = (n = 0) :=
    propext (by omega)
  have hLast : (0xF0 + n = 0xF4) = (n = 4) :=
    propext (by omega)
  simp only [lead?, hByte, hFirst, hLast]
  rw [if_neg (by omega), if_neg (by omega),
    if_neg (by omega), if_neg (by omega),
    if_pos (by omega), Nat.add_sub_cancel_left]

------------------------------------------------------------
-- One Character
------------------------------------------------------------

/- Read a character whose lead and tail octets are known. -/
theorem readOne_of_lead
    {b : UInt8}
    {lead : Lead}
    {tails rest : List UInt8}
    {c : Char}
    (hLead : lead? b = some lead)
    (hTails :
      takeTails lead.tails lead.low lead.high
        (tails ++ rest) = tails)
    (hCount : tails.length = lead.tails)
    (hBits : joinBits lead.bits tails = c.toNat) :
    readOne b (tails ++ rest) =
      (some c, tails.length) := by
  simp only [readOne, hLead, hTails, hCount, if_true, hBits]
  rw [Char.ofNat_toNat]

/-
  The octets of a character are read as that character. The
  cases are those of the encoding: the number of octets. The
  bounds of the second octet shut out surrogates and what
  lies beyond the last character.
-/
theorem readOne_encodeChar
    (c : Char)
    (rest : List UInt8) :
    ∃ b tails,
      encodeChar c = b :: tails ∧
        readOne b (tails ++ rest) =
          (some c, tails.length) := by
  have hBounds := toNat_bounds c
  unfold encodeChar
  by_cases hOne : c.toNat < 0x80
  · refine ⟨UInt8.ofNat c.toNat, [], by simp [hOne], ?_⟩
    refine readOne_of_lead (lead?_one hOne) ?_ rfl rfl
    simp
  by_cases hTwo : c.toNat < 0x800
  · refine ⟨UInt8.ofNat (0xC0 + c.toNat / 64),
      [tailOctet c.toNat], by simp [hOne, hTwo], ?_⟩
    refine readOne_of_lead
      (lead?_two (by omega) (by omega)) ?_ rfl ?_
    · simp only [List.cons_append]
      rw [takeTails_cons] <;> simp
      omega
    · simp [joinBits]
      omega
  by_cases hThree : c.toNat < 0x10000
  · refine ⟨UInt8.ofNat (0xE0 + c.toNat / 4096),
      [tailOctet (c.toNat / 64), tailOctet c.toNat],
      by simp [hOne, hTwo, hThree], ?_⟩
    refine readOne_of_lead (lead?_three (by omega)) ?_ rfl ?_
    · simp only [List.cons_append]
      rw [takeTails_cons, takeTails_cons] <;> simp
      · omega
      · split <;> omega
      · split <;> omega
    · simp [joinBits]
      omega
  · refine ⟨UInt8.ofNat (0xF0 + c.toNat / 262144),
      [tailOctet (c.toNat / 4096),
        tailOctet (c.toNat / 64), tailOctet c.toNat],
      by simp [hOne, hTwo, hThree], ?_⟩
    refine readOne_of_lead (lead?_four (by omega)) ?_ rfl ?_
    · simp only [List.cons_append]
      rw [takeTails_cons, takeTails_cons,
        takeTails_cons] <;> simp
      · omega
      · omega
      · split <;> omega
      · split <;> omega
    · simp [joinBits]
      omega

/- No octet of another character ends a line. -/
theorem lineFeed_mem_encodeChar_iff (c : Char) :
    (0x0A : UInt8) ∈ encodeChar c ↔ c = '\n' := by
  have hBounds := toNat_bounds c
  have hFeed :
      ∀ b : UInt8, (0x0A : UInt8) = b ↔ b.toNat = 0x0A := by
    intro b
    rw [← UInt8.toNat_inj]
    exact eq_comm
  have hChar : c = '\n' ↔ c.toNat = 0x0A := by
    rw [← Char.toNat_inj]
    rfl
  rw [hChar]
  unfold encodeChar
  by_cases hOne : c.toNat < 0x80
  · simp only [hOne, if_true, List.mem_singleton, hFeed]
    rw [toNat_octet (by omega)]
  -- All octets of a longer form have their high bit set.
  by_cases hTwo : c.toNat < 0x800
  · simp only [hOne, hTwo, if_false, if_true,
      List.mem_cons, List.not_mem_nil, or_false, hFeed,
      toNat_tailOctet]
    rw [toNat_octet (by omega)]
    omega
  by_cases hThree : c.toNat < 0x10000
  · simp only [hOne, hTwo, hThree, if_false, if_true,
      List.mem_cons, List.not_mem_nil, or_false, hFeed,
      toNat_tailOctet]
    rw [toNat_octet (by omega)]
    omega
  · simp only [hOne, hTwo, hThree, if_false,
      List.mem_cons, List.not_mem_nil, or_false, hFeed,
      toNat_tailOctet]
    rw [toNat_octet (by omega)]
    omega

------------------------------------------------------------
-- Texts
------------------------------------------------------------

/- Encoded characters are read before what follows them. -/
theorem pieces_encode_append
    (cs : List Char)
    (rest : List UInt8) :
    pieces (encode cs ++ rest) =
      cs.map some ++ pieces rest := by
  induction cs with
  | nil => rfl
  | cons c cs ih =>
      rcases readOne_encodeChar c (encode cs ++ rest) with
        ⟨b, tails, hEncode, hRead⟩
      have hSplit :
          encode (c :: cs) ++ rest =
            b :: (tails ++ (encode cs ++ rest)) := by
        simp [encode, hEncode]
      rw [hSplit, pieces]
      simp only [hRead, List.drop_left, ih, List.map_cons,
        List.cons_append]

/- What was encoded is decoded to itself. -/
theorem decode_encode (cs : List Char) :
    decode (encode cs) = cs := by
  have hPieces := pieces_encode_append cs []
  rw [List.append_nil, pieces, List.append_nil] at hPieces
  simp [decode, hPieces, Function.comp_def]

/- It is also well formed. -/
theorem decode?_encode (cs : List Char) :
    decode? (encode cs) = some cs := by
  have hPieces := pieces_encode_append cs []
  rw [List.append_nil, pieces, List.append_nil] at hPieces
  rw [decode?, hPieces]
  clear hPieces
  induction cs with
  | nil => rfl
  | cons c cs ih =>
      simp only [List.map_cons, List.foldr_cons, ih]

/- Only a line feed is encoded with an octet that is one. -/
theorem lineFeed_mem_encode_iff (cs : List Char) :
    (0x0A : UInt8) ∈ encode cs ↔ '\n' ∈ cs := by
  simp [encode, lineFeed_mem_encodeChar_iff]

end ContainerBuild.Text
