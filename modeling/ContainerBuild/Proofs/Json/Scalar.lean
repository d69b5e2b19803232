import ContainerBuild.Proofs.Json.Written
import ContainerBuild.Proofs.Number.Decimal

/-
  This file says which values a reader takes within its
  limits, and that words and integers are each scanned as
  one token: an integer up to its last digit, whatever mark
  stands behind it.

  Key definitions include:
    * `Style.IsPlain`
    * `Fits`
    * `Ends`

  Main statements:
    * `scanScalar_integerChars`
    * `tokensFrom_integer`
    * `tokensFrom_word`
-/

namespace ContainerBuild.Json

open Text

------------------------------------------------------------
-- Values within limits
------------------------------------------------------------

/- A style whose marks have nothing but spaces behind them. -/
structure Style.IsPlain (style : Style) : Prop where
  comma :
    ∃ n, style.comma = ',' :: List.replicate n ' '
  colon :
    ∃ n, style.colon = ':' :: List.replicate n ' '

theorem Style.isPlain_compact : Style.compact.IsPlain :=
  ⟨⟨0, rfl⟩, ⟨0, rfl⟩⟩

theorem Style.isPlain_ascii : Style.ascii.IsPlain :=
  ⟨⟨1, rfl⟩, ⟨1, rfl⟩⟩

/-
  The values without real numbers that nest at most so deep,
  with integers of no more digits than a reader takes and
  objects whose fields have different names.
-/
inductive Fits (limits : Limits) : Nat → Value → Prop
  | null (level : Nat) : Fits limits level .null
  | bool (level : Nat) (b : Bool) :
      Fits limits level (.bool b)
  | integer (level : Nat) (n : Int) :
      (decimal n.natAbs).length ≤ limits.digits →
        Fits limits level (.integer n)
  | text (level : Nat) (s : String) :
      Fits limits level (.text s)
  | array (level : Nat) (items : List Value) :
      (∀ v ∈ items, Fits limits level v) →
        Fits limits (level + 1) (.array items)
  | object
      (level : Nat)
      (fields : List (String × Value)) :
      (fields.map Prod.fst).Nodup →
      (∀ f ∈ fields, Fits limits level f.2) →
        Fits limits (level + 1) (.object fields)

/- What may stand behind a value: nothing, or a mark. -/
def Ends (rest : List Char) : Prop :=
  rest = [] ∨
    ∃ c more, rest = c :: more ∧
      (c = ',' ∨ c = ']' ∨ c = '\x7d')

variable {limits : Limits}
variable {style : Style}

------------------------------------------------------------
-- Numbers
------------------------------------------------------------

/- A number does not go on behind its digits. -/
theorem Ends.stops
    {rest : List Char}
    (hEnds : Ends rest) :
    rest.takeWhile isAsciiDigit = [] ∧
      fractionDigits rest = [] ∧ powerOf? rest = none := by
  rcases hEnds with rfl | ⟨c, more, rfl, rfl | rfl | rfl⟩
  · exact ⟨rfl, rfl, rfl⟩
  all_goals exact ⟨rfl, rfl, rfl⟩

/- The digits of a numeral are all found, and no more. -/
theorem wholeDigits_decimal
    {rest : List Char}
    (hEnds : Ends rest)
    (n : Nat) :
    wholeDigits (decimal n ++ rest) = decimal n := by
  by_cases hZero : n = 0
  · subst hZero
    rw [decimal, if_pos (by decide)]
    rfl
  · have hHead := head?_decimal_ne hZero
    have hDigits := isAsciiDigit_of_mem_decimal n
    rcases List.exists_cons_of_ne_nil (decimal_ne_nil n)
      with ⟨c, cs, hCons⟩
    have hSign : c ≠ '0' := by
      rw [hCons] at hHead
      simpa using hHead
    have hRun :
        wholeDigits (decimal n ++ rest) =
          (decimal n ++ rest).takeWhile isAsciiDigit := by
      rw [hCons, List.cons_append]
      unfold wholeDigits
      split
      · rename_i hStart
        exact absurd (List.cons.inj hStart).1 hSign
      · rfl
    rw [hRun, List.takeWhile_append_of_pos hDigits,
      hEnds.stops.1, List.append_nil]

/- A numeral is scanned as its number. -/
theorem scanNumber_decimal
    {rest : List Char}
    {n : Nat}
    (hEnds : Ends rest)
    (hShort : (decimal n).length ≤ limits.digits)
    (negative : Bool) :
    scanNumber limits negative (decimal n ++ rest) =
      (.scalar (.integer (Binary64.signed negative n)),
        (decimal n).length) := by
  have hWhole := wholeDigits_decimal hEnds n
  rcases hEnds.stops with ⟨_, hFraction, hPower⟩
  simp [scanNumber, hWhole, hFraction, hPower,
    Nat.not_lt.mpr hShort, ofDigits_decimal]

/- No word starts like a number. -/
theorem find?_words_of_digit
    {c : Char}
    (hDigit : isAsciiDigit c = true)
    (cs : List Char) :
    words.find? (fun w => startsWith w.1 (c :: cs)) =
        none ∧
      words.find? (fun w => startsWith w.1 ('-' :: c :: cs)) =
        none := by
  have hOther : ∀ d : Char, isAsciiDigit d = false → d ≠ c := by
    rintro d hNone rfl
    rw [hDigit] at hNone
    exact absurd hNone (by simp)
  have hN := hOther 'n' (by decide)
  have hT := hOther 't' (by decide)
  have hF := hOther 'f' (by decide)
  have hNan := hOther 'N' (by decide)
  have hI := hOther 'I' (by decide)
  have hMinus := hOther '-' (by decide)
  constructor <;>
    simp [words, startsWith, after?, hN, hT, hF, hNan, hI,
      hMinus]

/- An integer is scanned up to its last digit. -/
theorem scanScalar_integerChars
    {rest : List Char}
    {n : Int}
    (hEnds : Ends rest)
    (hShort : (decimal n.natAbs).length ≤ limits.digits)
    (offset : Nat) :
    scanScalar limits offset (integerChars n ++ rest) =
      (.scalar (.integer n), (integerChars n).length) := by
  have hDigits := isAsciiDigit_of_mem_decimal n.natAbs
  have hNumber := scanNumber_decimal hEnds hShort
  rcases List.exists_cons_of_ne_nil
      (decimal_ne_nil n.natAbs) with
    ⟨c, cs, hCons⟩
  have hDigit : isAsciiDigit c = true :=
    hDigits c (by simp [hCons])
  rcases find?_words_of_digit hDigit (cs ++ rest) with
    ⟨hPlain, hMinus⟩
  have hSign : c ≠ '-' := by
    rintro rfl
    exact absurd hDigit (by decide)
  rw [hCons, List.cons_append] at hNumber
  unfold integerChars
  by_cases hNegative : n < 0
  · have hSame : Binary64.signed true n.natAbs = n := by
      simp only [Binary64.signed, if_true]
      omega
    have hStarts :
        startsWith ['-'] ('-' :: c :: (cs ++ rest)) =
          true := rfl
    simp [if_pos hNegative, hCons, scanScalar, hMinus,
      hStarts, hDigit, hNumber, hSame]
  · have hSame : Binary64.signed false n.natAbs = n := by
      simp only [Binary64.signed, Bool.false_eq_true,
        if_false]
      omega
    have hStarts :
        startsWith ['-'] (c :: (cs ++ rest)) = false := by
      simp [startsWith, after?, Ne.symm hSign]
    simp [if_neg hNegative, hCons, scanScalar, hPlain,
      hStarts, hDigit, hNumber, hSame]

------------------------------------------------------------
-- Tokens of scalars
------------------------------------------------------------

/-
  What is neither a gap nor a mark nor a text is scanned as
  a scalar, and goes on behind it.
-/
theorem tokensFrom_scalar
    {c : Char}
    {cs rest : List Char}
    {v : Value}
    (hPlain :
      isGap c = false ∧ mark? c = none ∧ c ≠ '"')
    {offset : Nat}
    (hScan :
      scanScalar limits offset (c :: cs ++ rest) =
        (.scalar v, (c :: cs).length)) :
    tokensFrom limits offset (c :: cs ++ rest) =
      ⟨.scalar v, offset⟩ ::
        tokensFrom limits (offset + (c :: cs).length)
          rest := by
  rcases hPlain with ⟨hGap, hMark, hQuote⟩
  rw [List.cons_append] at hScan ⊢
  rw [tokensFrom]
  simp [hGap, scanSymbol, hMark, hQuote, hScan,
    Symbol.isReadable]

/- A digit or a minus sign is no gap, mark or quote. -/
theorem isPlain_of_digit
    {c : Char}
    (hDigit : isAsciiDigit c = true ∨ c = '-') :
    isGap c = false ∧ mark? c = none ∧ c ≠ '"' := by
  have hOther : ∀ d : Char,
      isAsciiDigit d = false → d ≠ '-' → c ≠ d := by
    rintro d hNone hMinus rfl
    rcases hDigit with hDigit | hDigit
    · rw [hDigit] at hNone
      exact absurd hNone (by simp)
    · exact hMinus hDigit
  refine ⟨?_, ?_, hOther _ (by decide) (by decide)⟩
  · simp [isGap, hOther ' ' (by decide) (by decide),
      hOther '\t' (by decide) (by decide),
      hOther '\n' (by decide) (by decide),
      hOther '\r' (by decide) (by decide)]
  · simp [mark?, hOther '[' (by decide) (by decide),
      hOther ']' (by decide) (by decide),
      hOther '\x7b' (by decide) (by decide),
      hOther '\x7d' (by decide) (by decide),
      hOther ',' (by decide) (by decide),
      hOther ':' (by decide) (by decide)]

/- An integer starts with a digit or a minus sign. -/
theorem integerChars_cons (n : Int) :
    ∃ c cs, integerChars n = c :: cs ∧
      (isAsciiDigit c = true ∨ c = '-') := by
  rcases List.exists_cons_of_ne_nil
      (decimal_ne_nil n.natAbs) with
    ⟨c, cs, hCons⟩
  unfold integerChars
  split
  · exact ⟨'-', _, rfl, Or.inr rfl⟩
  · refine ⟨c, cs, hCons, Or.inl ?_⟩
    exact isAsciiDigit_of_mem_decimal n.natAbs c
      (by simp [hCons])

theorem tokensFrom_integer
    {rest : List Char}
    {n : Int}
    (hEnds : Ends rest)
    (hShort : (decimal n.natAbs).length ≤ limits.digits)
    (offset : Nat) :
    tokensFrom limits offset (integerChars n ++ rest) =
      ⟨.scalar (.integer n), offset⟩ ::
        tokensFrom limits
          (offset + (integerChars n).length) rest := by
  have hScan := scanScalar_integerChars hEnds hShort offset
  rcases integerChars_cons n with ⟨c, cs, hCons, hDigit⟩
  rw [hCons] at hScan ⊢
  exact tokensFrom_scalar (isPlain_of_digit hDigit) hScan

/- The words of the values that are written as words. -/
theorem tokensFrom_word
    {word : String}
    {v : Value}
    (hWord :
      (word, v) ∈
        [("null", Value.null), ("true", .bool true),
          ("false", .bool false)])
    (offset : Nat)
    (rest : List Char) :
    tokensFrom limits offset (word.toList ++ rest) =
      ⟨.scalar v, offset⟩ ::
        tokensFrom limits (offset + word.toList.length)
          rest := by
  simp only [List.mem_cons, Prod.mk.injEq,
    List.not_mem_nil, or_false] at hWord
  rcases hWord with ⟨rfl, rfl⟩ | ⟨rfl, rfl⟩ | ⟨rfl, rfl⟩
  · exact tokensFrom_scalar
      ⟨by decide, by decide, by decide⟩ rfl
  · exact tokensFrom_scalar
      ⟨by decide, by decide, by decide⟩ rfl
  · exact tokensFrom_scalar
      ⟨by decide, by decide, by decide⟩ rfl

end ContainerBuild.Json
