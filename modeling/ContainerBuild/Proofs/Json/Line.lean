import ContainerBuild.Proofs.Json.Scalar

/-
  This file shows that what is written for a value is one
  line: it has no control character, as these are escaped in
  texts and stand nowhere else.

  Key definitions include:
    * `IsLine`

  Main statements:
    * `isLine_writeChar`
    * `isLine_write`
-/

namespace ContainerBuild.Json

open Text

variable {limits : Limits}
variable {style : Style}

------------------------------------------------------------
-- Lines
------------------------------------------------------------

/- No control character of the ASCII set. -/
def IsLine (cs : List Char) : Prop :=
  ∀ c ∈ cs, 0x20 ≤ c.toNat

theorem isLine_append
    {front back : List Char} :
    IsLine (front ++ back) ↔ IsLine front ∧ IsLine back := by
  simp only [IsLine, List.mem_append, or_imp, forall_and]

theorem isLine_cons
    {c : Char}
    {cs : List Char} :
    IsLine (c :: cs) ↔ 0x20 ≤ c.toNat ∧ IsLine cs := by
  simp only [IsLine, List.forall_mem_cons]

theorem isLine_nil : IsLine [] := by
  simp [IsLine]

theorem isLine_hexDigits (width n : Nat) :
    IsLine (hexDigits width n) := by
  induction width generalizing n with
  | zero => exact isLine_nil
  | succ w ih =>
      have hAll : ∀ d : Fin 16,
          0x20 ≤ (hexDigit d.val).toNat := by
        decide
      have hLast :=
        hAll ⟨n % 16, Nat.mod_lt n (by decide)⟩
      exact isLine_append.mpr
        ⟨ih (n / 16), isLine_cons.mpr ⟨hLast, isLine_nil⟩⟩

theorem isLine_charEscape (c : Char) :
    IsLine (charEscape c) := by
  have hUnit : ∀ n, IsLine (unitEscape n) := by
    intro n
    exact isLine_cons.mpr ⟨by decide,
      isLine_cons.mpr ⟨by decide, isLine_hexDigits 4 n⟩⟩
  unfold charEscape
  simp only
  split
  · exact hUnit _
  · exact isLine_append.mpr ⟨hUnit _, hUnit _⟩

/- A control character is never written as itself. -/
theorem isLine_writeChar
    (style : Style)
    (c : Char) :
    IsLine (writeChar style c) := by
  unfold writeChar
  split
  · simp [IsLine]
  split
  · simp [IsLine]
  split
  · simp [IsLine]
  split
  · simp [IsLine]
  split
  · simp [IsLine]
  split
  · simp [IsLine]
  split
  · simp [IsLine]
  split
  · exact isLine_charEscape c
  split
  · exact isLine_charEscape c
  · rename_i hControl _
    exact isLine_cons.mpr ⟨by omega, isLine_nil⟩

theorem isLine_writeText
    (style : Style)
    (s : String) :
    IsLine (writeText style s) := by
  have hChars :
      IsLine (s.toList.flatMap (writeChar style)) := by
    intro c hMem
    rcases List.mem_flatMap.mp hMem with ⟨d, _, hWritten⟩
    exact isLine_writeChar style d c hWritten
  exact isLine_append.mpr
    ⟨isLine_cons.mpr ⟨by decide, hChars⟩, by simp [IsLine]⟩

theorem isLine_integerChars (n : Int) :
    IsLine (integerChars n) := by
  have hDigits : IsLine (decimal n.natAbs) := by
    intro c hMem
    have hDigit := isAsciiDigit_of_mem_decimal _ c hMem
    simp only [isAsciiDigit, Bool.and_eq_true,
      decide_eq_true_eq] at hDigit
    exact Nat.le_trans (by decide) hDigit.1
  unfold integerChars
  split
  · exact isLine_cons.mpr ⟨by decide, hDigits⟩
  · exact hDigits

/- What stands behind a mark is on its line. -/
theorem Style.IsPlain.isLine
    (hStyle : style.IsPlain) :
    IsLine style.comma ∧ IsLine style.colon := by
  have hSpaces : ∀ n, IsLine (List.replicate n ' ') := by
    intro n c hMem
    rw [List.eq_of_mem_replicate hMem]
    decide
  rcases hStyle with ⟨⟨n, hComma⟩, ⟨m, hColon⟩⟩
  rw [hComma, hColon]
  exact ⟨isLine_cons.mpr ⟨by decide, hSpaces n⟩,
    isLine_cons.mpr ⟨by decide, hSpaces m⟩⟩

theorem isLine_writeItems
    (hStyle : style.IsPlain)
    {items : List Value}
    (hItems : ∀ v ∈ items, IsLine (write style v)) :
    IsLine (writeItems style items) := by
  induction items with
  | nil => exact isLine_nil
  | cons v others ih =>
      have hFirst := hItems v (by simp)
      cases others with
      | nil => exact hFirst
      | cons w more =>
          have hOthers :=
            ih (fun x hMem => hItems x (by simp [hMem]))
          simp only [writeItems, isLine_append]
          exact ⟨⟨hFirst, hStyle.isLine.1⟩, hOthers⟩

theorem isLine_writeFields
    (hStyle : style.IsPlain)
    {fields : List (String × Value)}
    (hFields : ∀ f ∈ fields, IsLine (write style f.2)) :
    IsLine (writeFields style fields) := by
  induction fields with
  | nil => exact isLine_nil
  | cons f others ih =>
      rcases f with ⟨name, v⟩
      have hName := isLine_writeText style name
      have hFirst : IsLine (write style v) :=
        hFields (name, v) (by simp)
      have hColon := hStyle.isLine.2
      cases others with
      | nil =>
          simp only [writeFields, isLine_append]
          exact ⟨⟨hName, hColon⟩, hFirst⟩
      | cons g more =>
          have hOthers :=
            ih (fun h hMem => hFields h (by simp [hMem]))
          simp only [writeFields, isLine_append]
          exact ⟨⟨⟨⟨hName, hColon⟩, hFirst⟩,
            hStyle.isLine.1⟩, hOthers⟩

/- What is written for a value stands on one line. -/
theorem isLine_write
    (hStyle : style.IsPlain)
    {level : Nat}
    {v : Value}
    (hFits : Fits limits level v) :
    IsLine (write style v) := by
  induction hFits with
  | null level => simp [write, IsLine]
  | bool level b => cases b <;> simp [write, IsLine]
  | integer level n _ => exact isLine_integerChars n
  | text level s => exact isLine_writeText style s
  | array level items _ ih =>
      exact isLine_append.mpr
        ⟨isLine_cons.mpr
          ⟨by decide, isLine_writeItems hStyle ih⟩,
          by simp [IsLine]⟩
  | object level fields _ _ ih =>
      exact isLine_append.mpr
        ⟨isLine_cons.mpr
          ⟨by decide, isLine_writeFields hStyle ih⟩,
          by simp [IsLine]⟩

end ContainerBuild.Json
