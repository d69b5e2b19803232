import ContainerBuild.Json.Writer
import ContainerBuild.Proofs.Json.Spelling

/-
  This file shows that what the writer writes are spellings,
  in every style, so that the reader takes texts back.

  Main statements:
    * `Text.ofHexDigits?_hexDigits`
    * `spellsChar_writeChar`
    * `spellsField_write`
    * `read_write_field`
-/

namespace ContainerBuild

------------------------------------------------------------
-- Hexadecimal digits
------------------------------------------------------------

namespace Text

/- A digit is read as the value it was written for. -/
theorem hexValue?_hexDigit
    {d : Nat}
    (hDigit : d < 16) :
    hexValue? (hexDigit d) = some d := by
  have hAll : ∀ d : Fin 16,
      hexValue? (hexDigit d) = some d.val := by
    decide
  exact hAll ⟨d, hDigit⟩

theorem length_hexDigits (width n : Nat) :
    (hexDigits width n).length = width := by
  induction width generalizing n with
  | zero => rfl
  | succ w ih => simp [hexDigits, ih]

/- The lowest digits spell what is left of a number. -/
theorem ofHexDigits?_hexDigits (width n : Nat) :
    ofHexDigits? (hexDigits width n) =
      some (n % Nat.pow 16 width) := by
  induction width generalizing n with
  | zero =>
      have hZero : n % Nat.pow 16 0 = 0 := Nat.mod_one n
      rw [hZero]
      rfl
  | succ w ih =>
      have hHigh := ih (n / 16)
      have hLow : hexValue? (hexDigit (n % 16)) =
          some (n % 16) :=
        hexValue?_hexDigit (Nat.mod_lt n (by decide))
      have hPower :
          Nat.pow 16 (w + 1) = 16 * Nat.pow 16 w :=
        Nat.mul_comm _ _
      have hParts :
          n / 16 % Nat.pow 16 w * 16 + n % 16 =
            n % Nat.pow 16 (w + 1) := by
        rw [hPower, Nat.mod_mul]
        omega
      unfold ofHexDigits? at hHigh
      simp only [ofHexDigits?, hexDigits, List.foldl_append,
        hHigh, List.foldl_cons, List.foldl_nil, hLow, hParts]

end Text

namespace Json

open Text

------------------------------------------------------------
-- Texts
------------------------------------------------------------

/- The digits of an escape spell a unit of sixteen bits. -/
theorem ofHexDigits?_unit
    {n : Nat}
    (hUnit : n < 0x10000) :
    ofHexDigits? (hexDigits 4 n) = some n := by
  have hMod : n % Nat.pow 16 4 = n :=
    Nat.mod_eq_of_lt (Nat.lt_of_lt_of_le hUnit (by decide))
  rw [ofHexDigits?_hexDigits, hMod]

/- An escape spells its character. -/
theorem spellsChar_charEscape (c : Char) :
    SpellsChar c (charEscape c) := by
  have hValid : c.toNat < 0x110000 := by
    rcases c.valid with hLow | hHigh
    · exact Nat.lt_trans hLow (by decide)
    · exact hHigh.2
  by_cases hUnit : c.toNat < 0x10000
  · have hOne : charEscape c = unitEscape c.toNat :=
      if_pos hUnit
    rw [hOne]
    exact .number _ (length_hexDigits _ _)
      (ofHexDigits?_unit hUnit)
  · have hTwo :
        charEscape c =
          unitEscape (0xD800 + (c.toNat - 0x10000) / 0x400)
            ++ unitEscape
              (0xDC00 + (c.toNat - 0x10000) % 0x400) :=
      if_neg hUnit
    rw [hTwo]
    exact .pair _ _ (length_hexDigits _ _)
      (length_hexDigits _ _) (by omega)
      (ofHexDigits?_unit (by omega))
      (ofHexDigits?_unit (by omega))

/- What is written for a character spells it. -/
theorem spellsChar_writeChar
    (style : Style)
    (c : Char) :
    SpellsChar c (writeChar style c) := by
  unfold writeChar
  split
  · rename_i hMark
    subst hMark
    exact .letter '"' (by decide)
  split
  · rename_i hMark
    subst hMark
    exact .letter '\\' (by decide)
  split
  · rename_i hMark
    subst hMark
    exact .letter 'n' (by decide)
  split
  · rename_i hMark
    subst hMark
    exact .letter 'r' (by decide)
  split
  · rename_i hMark
    subst hMark
    exact .letter 't' (by decide)
  split
  · rename_i hMark
    subst hMark
    exact .letter 'b' (by decide)
  split
  · rename_i hMark
    subst hMark
    exact .letter 'f' (by decide)
  split
  · exact spellsChar_charEscape c
  split
  · exact spellsChar_charEscape c
  · rename_i hQuote hSlash _ _ _ _ _ hControl _
    exact .plain hQuote hSlash (by omega)

/- What is written for characters spells them. -/
theorem spells_writeChars
    (style : Style)
    (cs : List Char) :
    Spells cs (cs.flatMap (writeChar style)) := by
  induction cs with
  | nil => exact .nil
  | cons c rest ih =>
      exact .cons (spellsChar_writeChar style c) ih

------------------------------------------------------------
-- Fields
------------------------------------------------------------

/- An object with one text is written as a spelling of it. -/
theorem spellsField_write
    (style : Style)
    {gap : List Char}
    (hColon : style.colon = ':' :: gap)
    (hGap : IsGap gap)
    (name value : String) :
    SpellsField name value
      (write style (.object [(name, .text value)])) := by
  have hNone : IsGap [] := by simp [IsGap]
  have hField :=
    SpellsField.mk
      (spells_writeChars style name.toList)
      (spells_writeChars style value.toList)
      hNone hNone hNone hGap hNone hNone
  simpa [write, writeFields, writeText, hColon] using hField

/- The reader takes it back. -/
theorem read_write_field
    (style : Style)
    {gap : List Char}
    (hColon : style.colon = ':' :: gap)
    (hGap : IsGap gap)
    (name value : String) :
    read (write style (.object [(name, .text value)])) =
      .ok (.object [(name, .text value)]) :=
  read_of_spellsField 
    (spellsField_write style hColon hGap name value)

end Json

end ContainerBuild
