import ContainerBuild.Number.Decimal
import Mathlib.Algebra.Group.Nat.Defs

/-
  This file says what decimal numerals are like: digits, the
  first of which is zero for the number zero only, that
  spell the number they are written for.

  Main statements:
    * `isAsciiDigit_of_mem_decimal`
    * `ofDigits_decimal`
    * `head?_decimal_ne`
    * `length_decimal_ofDigits`
-/

namespace ContainerBuild

open Text

------------------------------------------------------------
-- Digits
------------------------------------------------------------

theorem toNat_of_isAsciiDigit
    {c : Char}
    (hDigit : isAsciiDigit c = true) :
    0x30 ≤ c.toNat ∧ c.toNat ≤ 0x39 := by
  simpa [isAsciiDigit, Char.le_def,
    UInt32.le_iff_toNat_le] using hDigit

theorem isAsciiDigit_digitSign
    {d : Nat}
    (hDigit : d < 10) :
    isAsciiDigit (digitSign d) = true := by
  have hAll : ∀ d : Fin 10,
      isAsciiDigit (digitSign d) = true := by
    decide
  exact hAll ⟨d, hDigit⟩

/- A digit has the value it is written for. -/
theorem digitValue?_digitSign
    {d : Nat}
    (hDigit : d < 10) :
    digitValue? (digitSign d) = some d := by
  have hAll : ∀ d : Fin 10,
      digitValue? (digitSign d) = some d.val := by
    decide
  exact hAll ⟨d, hDigit⟩

theorem digitSign_ne_zero
    {d : Nat}
    (hDigit : d < 10)
    (hSome : d ≠ 0) :
    digitSign d ≠ '0' := by
  have hAll : ∀ d : Fin 10,
      d.val ≠ 0 → digitSign d ≠ '0' := by
    decide
  exact hAll ⟨d, hDigit⟩ hSome

------------------------------------------------------------
-- Numerals
------------------------------------------------------------

theorem decimal_ne_nil (n : Nat) : decimal n ≠ [] := by
  rw [decimal]
  split <;> simp

theorem isAsciiDigit_of_mem_decimal (n : Nat) :
    ∀ c ∈ decimal n, isAsciiDigit c = true := by
  induction n using decimal.induct with
  | case1 n hSmall =>
      rw [decimal, if_pos hSmall]
      intro c hMem
      rw [List.mem_singleton.mp hMem]
      exact isAsciiDigit_digitSign hSmall
  | case2 n hLarge ih =>
      rw [decimal, if_neg hLarge]
      intro c hMem
      rcases List.mem_append.mp hMem with hFront | hLast
      · exact ih c hFront
      · rw [List.mem_singleton.mp hLast]
        exact isAsciiDigit_digitSign
          (Nat.mod_lt n (by decide))

/- A numeral spells its number. -/
theorem ofDigits_decimal (n : Nat) :
    ofDigits (decimal n) = n := by
  induction n using decimal.induct with
  | case1 n hSmall =>
      rw [decimal, if_pos hSmall]
      simp [ofDigits, digitValue?_digitSign hSmall]
  | case2 n hLarge ih =>
      have hLast : digitValue? (digitSign (n % 10)) =
          some (n % 10) :=
        digitValue?_digitSign (Nat.mod_lt n (by decide))
      unfold ofDigits at ih ⊢
      rw [decimal, if_neg hLarge, List.foldl_append, ih]
      simp only [List.foldl_cons, List.foldl_nil, hLast,
        Option.getD_some]
      omega

/- Only the numeral of zero starts with a zero. -/
theorem head?_decimal_ne
    {n : Nat}
    (hSome : n ≠ 0) :
    (decimal n).head? ≠ some '0' := by
  induction n using decimal.induct with
  | case1 n hSmall =>
      rw [decimal, if_pos hSmall]
      simpa using digitSign_ne_zero hSmall hSome
  | case2 n hLarge ih =>
      have hFront := ih (by omega)
      rcases List.exists_cons_of_ne_nil
          (decimal_ne_nil (n / 10)) with
        ⟨c, cs, hCons⟩
      rw [hCons] at hFront
      rw [decimal, if_neg hLarge, hCons]
      simpa using hFront

------------------------------------------------------------
-- Lengths
------------------------------------------------------------

/- A number below a power of ten has a numeral as short. -/
theorem length_decimal_le
    {n k : Nat}
    (hLess : n < 10 ^ (k + 1)) :
    (decimal n).length ≤ k + 1 := by
  induction n using decimal.induct generalizing k with
  | case1 n hSmall =>
      rw [decimal, if_pos hSmall, List.length_singleton]
      omega
  | case2 n hLarge ih =>
      cases k with
      | zero => omega
      | succ k =>
          have hFront : n / 10 < 10 ^ (k + 1) := by
            rw [Nat.pow_succ] at hLess
            omega
          rw [decimal, if_neg hLarge, List.length_append,
            List.length_singleton]
          have hShort := ih hFront
          omega

/- No digit of any script has a value beyond nine. -/
theorem digitValue?_lt (c : Char) :
    (digitValue? c).getD 0 < 10 := by
  unfold digitValue?
  split
  · split
    · rename_i hDigit
      have hRange := toNat_of_isAsciiDigit hDigit
      simp only [Option.getD_some]
      omega
    · decide
  · split
    · rename_i hFind
      have hBlock := List.find?_some hFind
      simp only [Bool.and_eq_true, decide_eq_true_eq]
        at hBlock
      simp only [Option.getD_some]
      omega
    · decide

/- Digits after a number make it so many times larger. -/
theorem foldl_digits_lt
    (cs : List Char)
    (n : Nat) :
    cs.foldl
        (fun n c => n * 10 + (digitValue? c).getD 0) n <
      (n + 1) * 10 ^ cs.length := by
  induction cs generalizing n with
  | nil => simp
  | cons c cs ih =>
      have hDigit := digitValue?_lt c
      calc
        _ < (n * 10 + (digitValue? c).getD 0 + 1)
              * 10 ^ cs.length := ih _
        _ ≤ ((n + 1) * 10) * 10 ^ cs.length :=
            Nat.mul_le_mul_right _ (by omega)
        _ = (n + 1) * 10 ^ (c :: cs).length := by
            rw [List.length_cons, Nat.pow_succ,
              Nat.mul_assoc, Nat.mul_comm 10]

/- The numeral of what digits spell is no longer than they. -/
theorem length_decimal_ofDigits
    {cs : List Char}
    {k : Nat}
    (hSome : k ≠ 0)
    (hShort : cs.length ≤ k) :
    (decimal (ofDigits cs)).length ≤ k := by
  rcases Nat.exists_eq_succ_of_ne_zero hSome with ⟨k, rfl⟩
  have hLess := foldl_digits_lt cs 0
  rw [Nat.zero_add, Nat.one_mul] at hLess
  exact length_decimal_le
    (Nat.lt_of_lt_of_le hLess
      (Nat.pow_le_pow_right (by decide) hShort))

end ContainerBuild
