import ContainerBuild.Field.Scalar
import ContainerBuild.Proofs.Number.Decimal
import ContainerBuild.Proofs.Text.Ending

/-
  This file compares the two readings of numbers that are
  given as texts: the plain one, and the loose one of fields.
  Neither accepts all that the other accepts; but where both
  come to a number, they come to the same one.

  Key definitions include:
    * `unscored`
    * `IsVisible`
    * `IsDigitOrScore`
    * `spelledInteger`

  Main statements:
    * `eq_of_readInteger`
    * `eq_of_integerOfText`
    * `readInteger_unique`
    * `isVisible_of_realOf?`
    * `readReal_unique`
-/

namespace ContainerBuild

open Text ContainerBuild.Field

variable {cs ds : List Char}
variable {c : Char}

------------------------------------------------------------
-- Underscores
------------------------------------------------------------

/- A text without its underscores. -/
def unscored (cs : List Char) : List Char :=
  cs.filter (fun c => c != '_')

theorem unscored_score (cs : List Char) :
    unscored ('_' :: cs) = unscored cs := rfl

theorem unscored_cons
    (hOther : c ≠ '_')
    (cs : List Char) :
    unscored (c :: cs) = c :: unscored cs := by
  simp [unscored, hOther]

theorem unscored_of_not_mem
    (hNone : '_' ∉ cs) :
    unscored cs = cs := by
  apply List.filter_eq_self.mpr
  intro c hMem
  have hOther : c ≠ '_' := fun hEq => hNone (hEq ▸ hMem)
  simpa using hOther

/- Joining a text removes the underscores, if it can. -/
theorem eq_of_joined?
    (hJoined : joined? cs = some ds) :
    ds = unscored cs := by
  unfold joined? at hJoined
  split at hJoined
  · exact absurd hJoined (by simp)
  · exact (Option.some.inj hJoined).symm

theorem eq_of_dropUnderscores?
    {before : Char}
    (hDrop : dropUnderscores? before cs = some ds) :
    ds = unscored cs := by
  induction cs generalizing before ds with
  | nil =>
      unfold dropUnderscores? at hDrop
      split at hDrop
      · exact absurd hDrop (by simp)
      · exact (Option.some.inj hDrop).symm
  | cons c rest ih =>
      unfold dropUnderscores? at hDrop
      split at hDrop
      · rename_i hScore
        split at hDrop
        · rw [hScore, unscored_score]
          exact ih hDrop
        · exact absurd hDrop (by simp)
      · rename_i hOther
        split at hDrop
        · exact absurd hDrop (by simp)
        · split at hDrop
          · exact absurd hDrop (by simp)
          · rename_i tail hTail
            cases hDrop
            rw [unscored_cons hOther, ih hTail]

------------------------------------------------------------
-- Characters
------------------------------------------------------------

/- A character that stands for itself in a number. -/
def IsVisible (c : Char) : Prop :=
  0x21 ≤ c.toNat ∧ c.toNat < 0x7F ∧ c ≠ '_'

instance : DecidablePred IsVisible := fun c =>
  inferInstanceAs
    (Decidable (0x21 ≤ c.toNat ∧ c.toNat < 0x7F ∧ c ≠ '_'))

theorem IsVisible.not_isWhiteSpace
    (hVisible : IsVisible c) :
    isWhiteSpace c = false := by
  rcases hVisible with ⟨hLow, hHigh, _⟩
  simp only [isWhiteSpace, Bool.or_eq_false_iff,
    Bool.and_eq_false_iff, decide_eq_false_iff_not,
    beq_eq_false_iff_ne]
  omega

theorem IsVisible.of_isAsciiDigit
    (hDigit : isAsciiDigit c = true) :
    IsVisible c := by
  have hBounds := toNat_of_isAsciiDigit hDigit
  refine ⟨by omega, by omega, ?_⟩
  rintro rfl
  exact absurd hDigit (by decide)

theorem digitValue?_of_isAsciiDigit
    (hDigit : isAsciiDigit c = true) :
    digitValue? c = some (c.toNat - 0x30) := by
  have hBounds := toNat_of_isAsciiDigit hDigit
  have hSmall : c.toNat < 0x80 := by omega
  simp only [digitValue?, if_pos hSmall]
  exact if_pos hDigit

theorem plainDigit_of_some
    {d : Nat}
    (hValue : digitValue? c = some d) :
    plainDigit c = digitSign d := by
  simp only [plainDigit, hValue]

theorem plainDigit_of_none
    (hValue : digitValue? c = none) :
    plainDigit c = c := by
  simp only [plainDigit, hValue]

theorem lt_of_digitValue?
    {d : Nat}
    (hValue : digitValue? c = some d) :
    d < 10 := by
  have hLess := digitValue?_lt c
  rw [hValue] at hLess
  exact hLess

theorem IsVisible.plainDigit_eq
    (hVisible : IsVisible c) :
    plainDigit c = c := by
  by_cases hDigit : isAsciiDigit c = true
  · have hBounds := toNat_of_isAsciiDigit hDigit
    have hSum : 0x30 + (c.toNat - 0x30) = c.toNat := by
      omega
    rw [plainDigit_of_some
      (digitValue?_of_isAsciiDigit hDigit), digitSign, hSum,
      Char.ofNat_toNat]
  · apply plainDigit_of_none
    have hSmall : c.toNat < 0x80 := by
      have hHigh := hVisible.2.1
      omega
    simp only [digitValue?, if_pos hSmall]
    exact if_neg hDigit

/- What is no digit is made of no other character. -/
theorem plainDigit_eq_iff
    {mark : Char}
    (hMark : digitValue? mark = none) :
    plainDigit c = mark ↔ c = mark := by
  cases hValue : digitValue? c with
  | none => rw [plainDigit_of_none hValue]
  | some d =>
      rw [plainDigit_of_some hValue]
      constructor
      · rintro rfl
        rw [digitValue?_digitSign (lt_of_digitValue? hValue)]
          at hMark
        exact absurd hMark (by simp)
      · rintro rfl
        rw [hMark] at hValue
        exact absurd hValue (by simp)

theorem digitIn?_ten_digitSign
    {d : Nat}
    (hDigit : d < 10) :
    digitIn? 10 (digitSign d) = some d := by
  have hAll : ∀ d : Fin 10,
      digitIn? 10 (digitSign d) = some d.val := by
    decide
  exact hAll ⟨d, hDigit⟩

/- No letter is a digit in base ten. -/
theorem digitIn?_ten_of_none
    (hValue : digitValue? c = none) :
    digitIn? 10 c = none := by
  have hNone : ('0' ≤ c && c ≤ '9') = false := by
    apply Bool.eq_false_iff.mpr
    intro hDigit
    rw [digitValue?_of_isAsciiDigit hDigit] at hValue
    exact absurd hValue (by simp)
  simp only [digitIn?, hexValue?, hNone, Bool.false_eq_true,
    if_false, Bool.and_eq_true, decide_eq_true_eq,
    Option.bind_eq_none_iff]
  intro d hHex
  split at hHex
  · rename_i hLower
    have hLow : 97 ≤ c.toNat := hLower.1
    cases hHex
    exact if_neg (by omega)
  · split at hHex
    · rename_i hUpper
      have hLow : 65 ≤ c.toNat := hUpper.1
      cases hHex
      exact if_neg (by omega)
    · exact absurd hHex (by simp)

theorem digitIn?_plainDigit (c : Char) :
    digitIn? 10 (plainDigit c) = digitValue? c := by
  cases hValue : digitValue? c with
  | none =>
      rw [plainDigit_of_none hValue,
        digitIn?_ten_of_none hValue]
  | some d =>
      rw [plainDigit_of_some hValue,
        digitIn?_ten_digitSign (lt_of_digitValue? hValue)]

/- Made plain, digits spell the same number. -/
theorem ofDigitsIn_map_plainDigit (cs : List Char) :
    ofDigitsIn 10 (cs.map plainDigit) = ofDigits cs := by
  simp only [ofDigitsIn, ofDigits, List.foldl_map,
    digitIn?_plainDigit]

/- Underscores are removed before or after. -/
theorem unscored_map_plainDigit (cs : List Char) :
    unscored (cs.map plainDigit) =
      (unscored cs).map plainDigit := by
  have hMark : digitValue? '_' = none := rfl
  have hScore : ∀ c, (plainDigit c != '_') = (c != '_') := by
    intro c
    rw [Bool.eq_iff_iff, bne_iff_ne, bne_iff_ne, ne_eq,
      plainDigit_eq_iff hMark]
  simp only [unscored, List.filter_map, Function.comp_def,
    hScore]

/- A sign is a sign whether digits are plain or not. -/
theorem takeSign_map_plainDigit (cs : List Char) :
    takeSign (cs.map plainDigit) =
      ((takeSign cs).1, (takeSign cs).2.map plainDigit) := by
  cases cs with
  | nil => rfl
  | cons c rest =>
      have hMinus : plainDigit c = '-' ↔ c = '-' :=
        plainDigit_eq_iff rfl
      have hPlus : plainDigit c = '+' ↔ c = '+' :=
        plainDigit_eq_iff rfl
      by_cases hSign : c = '-'
      · cases hSign
        rfl
      · by_cases hOther : c = '+'
        · cases hOther
          rfl
        · simp [takeSign, hMinus, hPlus, hSign, hOther]

------------------------------------------------------------
-- Plain integers
------------------------------------------------------------

/- A digit of any script or an underscore. -/
def IsDigitOrScore (c : Char) : Prop :=
  c = '_' ∨ isDigit c = true

/-
  The integer that the digits in a text spell, with its sign
  and without white space around it.
-/
def spelledInteger (cs : List Char) : Int :=
  let s := takeSign (trimWhite cs)
  Binary64.signed s.1 (ofDigits (unscored s.2))

/- No base has the underscore for a digit. -/
theorem ne_score_of_isDigitIn
    {base : Nat}
    (hDigit : isDigitIn base c = true) :
    c ≠ '_' := by
  rintro rfl
  exact absurd hDigit (by simp [isDigitIn, digitIn?, hexValue?])

/- The digits are those of the text, if nothing follows. -/
theorem eq_of_spanDigits?
    {base : Nat}
    (hSpan : spanDigits? base cs = some (ds, [])) :
    ds = unscored cs ∧
      ∀ c ∈ cs, c = '_' ∨ isDigitIn base c = true := by
  induction cs using spanDigits?.induct base
    generalizing ds with
  | case1 =>
      simp only [spanDigits?] at hSpan
      cases hSpan
      exact ⟨rfl, by simp⟩
  | case2 c rest hDigit hRest ih =>
      simp [spanDigits?, hDigit, hRest] at hSpan
  | case3 c rest hDigit ds' tail hRest ih =>
      simp only [spanDigits?, hDigit, hRest, if_true,
        Option.some.injEq, Prod.mk.injEq] at hSpan
      rcases hSpan with ⟨rfl, rfl⟩
      rcases ih hRest with ⟨rfl, hAll⟩
      rw [unscored_score,
        unscored_cons (ne_score_of_isDigitIn hDigit)]
      refine ⟨rfl, ?_⟩
      simpa [hDigit] using hAll
  | case4 c rest hOther =>
      simp [spanDigits?, hOther] at hSpan
  | case5 => simp [spanDigits?] at hSpan
  | case6 c rest hScore hAlone hDigit hRest ih =>
      simp [spanDigits?, hDigit, hRest] at hSpan
  | case7 c rest hScore hAlone hDigit ds' tail hRest ih =>
      simp only [spanDigits?, hDigit, hRest, if_true,
        Option.some.injEq, Prod.mk.injEq] at hSpan
      rcases hSpan with ⟨rfl, rfl⟩
      rcases ih hRest with ⟨rfl, hAll⟩
      rw [unscored_cons (ne_score_of_isDigitIn hDigit)]
      refine ⟨rfl, ?_⟩
      simpa [hDigit] using hAll
  | case8 c rest hScore hAlone hOther =>
      simp [spanDigits?, hOther] at hSpan

/- Base ten has no mark. -/
theorem dropMark_ten (cs : List Char) :
    dropMark 10 cs = cs := by
  have hNone : ∀ c, (markLetters 10).contains c = false :=
    fun _ => rfl
  unfold dropMark
  split
  · simp only [hNone, Bool.false_eq_true, if_false]
  · rfl

/- The plain reading comes to what the digits spell. -/
theorem eq_of_readInteger
    {n : Int}
    (hRead : readInteger cs = .ok n) :
    n = spelledInteger cs ∧
      ∀ c ∈ (takeSign (trimWhite cs)).2, IsDigitOrScore c := by
  have hPlain :
      plainNumber cs = (trimWhite cs).map plainDigit := rfl
  unfold readInteger readIntegerIn at hRead
  simp only [hPlain, takeSign_map_plainDigit, dropMark_ten]
    at hRead
  split at hRead
  · exact absurd hRead (by simp)
  · split at hRead
    · exact absurd hRead (by simp)
    · rename_i ds tail hSpan
      split at hRead
      · exact absurd hRead (by simp)
      · split at hRead
        · exact absurd hRead (by simp)
        · split at hRead
          · exact absurd hRead (by simp)
          · rename_i hTail
            have hNil : tail = [] := by simpa using hTail
            rw [hNil] at hSpan
            rcases eq_of_spanDigits? hSpan with ⟨rfl, hAll⟩
            cases hRead
            refine ⟨?_, ?_⟩
            · rw [unscored_map_plainDigit,
                ofDigitsIn_map_plainDigit]
              rfl
            · intro c hMem
              have hMark : digitValue? '_' = none := rfl
              have hEither := hAll (plainDigit c)
                (List.mem_map_of_mem hMem)
              rw [plainDigit_eq_iff hMark, isDigitIn,
                digitIn?_plainDigit] at hEither
              exact hEither

------------------------------------------------------------
-- Loose integers
------------------------------------------------------------

/- Removing zeros at the start changes no number. -/
theorem ofDigits_of_dropZeros?
    {last : Char}
    (hDrop : dropZeros? last cs = some ds)
    (hLast : last = '0' ∨ last = '_') :
    ofDigits (unscored ds) = ofDigits (unscored cs) := by
  induction cs generalizing last ds with
  | nil =>
      cases hDrop
      rcases hLast with rfl | rfl <;> rfl
  | cons c rest ih =>
      unfold dropZeros? at hDrop
      split at hDrop
      · rename_i hZero
        have hCase : c = '0' ∨ c = '_' := by
          simpa using hZero
        rw [ih hDrop hCase]
        rcases hCase with rfl | rfl <;> rfl
      · split at hDrop
        · cases hDrop
          rfl
        · split at hDrop
          · cases hDrop
            rcases hLast with rfl | rfl <;> rfl
          · exact absurd hDrop (by simp)

theorem ofDigits_of_tidy?
    (hTidy : tidy? cs = some ds) :
    ofDigits (unscored ds) = ofDigits (unscored cs) := by
  cases cs with
  | nil => exact absurd hTidy (by simp [tidy?])
  | cons c rest =>
      simp only [tidy?] at hTidy
      split at hTidy
      · rename_i hZero
        rw [ofDigits_of_dropZeros? hTidy (Or.inl hZero),
          hZero]
        rfl
      · split at hTidy
        · cases hTidy
          rfl
        · exact absurd hTidy (by simp)

/- What is left comes from the text. -/
theorem mem_of_dropZeros?
    {last : Char}
    (hDrop : dropZeros? last cs = some ds)
    (hMem : c ∈ ds) :
    c ∈ last :: cs := by
  induction cs generalizing last ds with
  | nil =>
      cases hDrop
      exact hMem
  | cons x rest ih =>
      unfold dropZeros? at hDrop
      split at hDrop
      · exact List.mem_cons_of_mem _ (ih hDrop hMem)
      · split at hDrop
        · cases hDrop
          exact List.mem_cons_of_mem _ hMem
        · split at hDrop
          · cases hDrop
            exact hMem
          · exact absurd hDrop (by simp)

theorem mem_of_tidy?
    (hTidy : tidy? cs = some ds)
    (hMem : c ∈ ds) :
    c ∈ cs := by
  cases cs with
  | nil => exact absurd hTidy (by simp [tidy?])
  | cons x rest =>
      simp only [tidy?] at hTidy
      split at hTidy
      · exact mem_of_dropZeros? hTidy hMem
      · split at hTidy
        · cases hTidy
          exact hMem
        · exact absurd hTidy (by simp)

/- Without a point there is no fraction. -/
theorem dropZeroFraction_of_not_mem
    (hWhole : '.' ∉ cs) :
    dropZeroFraction cs = cs := by
  unfold dropZeroFraction
  rw [splitFirst?_eq_none_iff.mpr hWhole]

theorem takeSign_of_isDigitOrScore
    (hAll : ∀ c ∈ cs, IsDigitOrScore c) :
    takeSign cs = (false, cs) := by
  unfold takeSign
  split
  · rename_i rest
    exact absurd (hAll '-' List.mem_cons_self)
      (by simp [IsDigitOrScore, isDigit, digitValue?])
  · rename_i rest
    exact absurd (hAll '+' List.mem_cons_self)
      (by simp [IsDigitOrScore, isDigit, digitValue?])
  · rfl

theorem isAsciiDigit_of_isLeadingDigit
    (hDigit : isLeadingDigit c = true) :
    isAsciiDigit c = true := by
  simp only [isLeadingDigit, isAsciiDigit, Bool.and_eq_true,
    decide_eq_true_eq, Char.le_def,
    UInt32.le_iff_toNat_le] at hDigit ⊢
  refine ⟨Nat.le_trans (by decide) hDigit.1, hDigit.2⟩

/- An integer that is written exactly is made of digits. -/
theorem eq_of_exactInteger?
    {n : Int}
    (hExact : exactInteger? cs = some n) :
    n = Binary64.signed (takeSign cs).1
        (ofDigits (takeSign cs).2) ∧
      ∀ c ∈ (takeSign cs).2, isAsciiDigit c = true := by
  unfold exactInteger? at hExact
  extract_lets s at hExact
  have hSpelled :
      n = Binary64.signed s.1 (ofDigits s.2) ∧
        ∀ c ∈ s.2, isAsciiDigit c = true := by
    split at hExact
    · rename_i hZero
      cases hExact
      rw [hZero]
      refine ⟨by cases s.1 <;> rfl, ?_⟩
      simp [isAsciiDigit]
    · rename_i hCons
      split at hExact
      · rename_i hAll
        simp only [Bool.and_eq_true, List.all_eq_true]
          at hAll
        cases hExact
        refine ⟨rfl, ?_⟩
        rw [hCons]
        intro c hMem
        rcases List.mem_cons.mp hMem with rfl | hMem
        · exact isAsciiDigit_of_isLeadingDigit hAll.1
        · exact hAll.2 c hMem
      · exact absurd hExact (by simp)
    · exact absurd hExact (by simp)
  unfold s at hSpelled
  split at hSpelled
  · exact hSpelled
  · have hAll : ∀ c ∈ cs, IsDigitOrScore c :=
      fun c hMem => Or.inr
        (isDigit_of_isAsciiDigit c (hSpelled.2 c hMem))
    rw [takeSign_of_isDigitOrScore hAll]
    exact hSpelled

------------------------------------------------------------
-- White space
------------------------------------------------------------

/- A character of a text is its sign or comes behind it. -/
theorem mem_takeSign
    (hMem : c ∈ cs) :
    c = '-' ∨ c = '+' ∨ c ∈ (takeSign cs).2 := by
  unfold takeSign
  split
  · rcases List.mem_cons.mp hMem with rfl | hMem
    · exact Or.inl rfl
    · exact Or.inr (Or.inr hMem)
  · rcases List.mem_cons.mp hMem with rfl | hMem
    · exact Or.inr (Or.inl rfl)
    · exact Or.inr (Or.inr hMem)
  · exact Or.inr (Or.inr hMem)

theorem isVisible_of_takeSign
    (hAll : ∀ c ∈ (takeSign cs).2, IsVisible c) :
    ∀ c ∈ cs, IsVisible c := by
  intro c hMem
  rcases mem_takeSign hMem with rfl | rfl | hMem
  · decide
  · decide
  · exact hAll c hMem

/- There is nothing to trim where all can be seen. -/
theorem dropWhile_of_forall
    {p : Char → Bool}
    (hNone : ∀ c ∈ cs, p c = false) :
    cs.dropWhile p = cs := by
  cases cs with
  | nil => rfl
  | cons c rest =>
      simp [hNone c List.mem_cons_self]

theorem trim_of_forall
    {p : Char → Bool}
    (hNone : ∀ c ∈ cs, p c = false) :
    dropEnd p (dropStart p cs) = cs := by
  have hReverse : ∀ c ∈ cs.reverse, p c = false :=
    fun c hMem => hNone c (List.mem_reverse.mp hMem)
  rw [dropStart, dropWhile_of_forall hNone, dropEnd,
    dropWhile_of_forall hReverse, List.reverse_reverse]

/- Underscores are taken away from all of a text, or not. -/
theorem joined?_getD (cs : List Char) :
    (joined? cs).getD cs = unscored cs ∨
      (joined? cs).getD cs = cs := by
  cases hJoined : joined? cs with
  | none => exact Or.inr rfl
  | some ds => exact Or.inl (eq_of_joined? hJoined)

theorem takeSign_signed
    (negative : Bool)
    (hAll : ∀ c ∈ cs, IsDigitOrScore c) :
    takeSign ((if negative then ['-'] else []) ++ cs) =
      (negative, cs) := by
  cases negative with
  | true => rfl
  | false => exact takeSign_of_isDigitOrScore hAll

theorem eq_of_looseInteger?
    {n : Int}
    (hLoose : looseInteger? cs = some n)
    (hAll :
      ∀ c ∈ (takeSign (trimWhite cs)).2, IsDigitOrScore c) :
    n = spelledInteger cs := by
  unfold looseInteger? tidied? at hLoose
  simp only [Option.bind_eq_some_iff, Option.map_eq_some_iff,
    Option.ite_none_left_eq_some] at hLoose
  rcases hLoose with ⟨_, ⟨body, hTidy, rfl⟩, _, hExact⟩
  have hBody : ∀ c ∈ body, IsDigitOrScore c :=
    fun c hMem => hAll c (mem_of_tidy? hTidy hMem)
  have hPoint : '.' ∉ body := by
    intro hMem
    exact absurd (hBody '.' hMem)
      (by simp [IsDigitOrScore, isDigit, digitValue?])
  rw [dropZeroFraction_of_not_mem hPoint] at hExact
  have hJoin : ∀ c ∈ (joined? body).getD body,
      IsDigitOrScore c := by
    intro c hMem
    rcases joined?_getD body with hCase | hCase
    · rw [hCase] at hMem
      exact hBody c (List.mem_filter.mp hMem).1
    · rw [hCase] at hMem
      exact hBody c hMem
  rcases eq_of_exactInteger? hExact with ⟨rfl, hDigits⟩
  rw [takeSign_signed _ hJoin] at hDigits ⊢
  have hSame :
      (joined? body).getD body = unscored body := by
    rcases joined?_getD body with hCase | hCase
    · exact hCase
    · rw [hCase] at hDigits ⊢
      have hNone : '_' ∉ body :=
        fun hMem => absurd (hDigits _ hMem) (by decide)
      exact (unscored_of_not_mem hNone).symm
  simp only [hSame, spelledInteger,
    ofDigits_of_tidy? hTidy]

/- The loose reading comes to what digits spell, if any. -/
theorem eq_of_integerOfText
    {n : Int}
    (hRead : integerOfText cs = .ok n)
    (hAll :
      ∀ c ∈ (takeSign (trimWhite cs)).2, IsDigitOrScore c) :
    n = spelledInteger cs := by
  unfold integerOfText at hRead
  split at hRead
  · exact absurd hRead (by simp)
  · split at hRead
    · rename_i n' hExact
      cases hRead
      rcases eq_of_exactInteger? hExact with
        ⟨hSpelled, hDigits⟩
      have hVisible : ∀ c ∈ cs, IsVisible c :=
        isVisible_of_takeSign
          fun c hMem => .of_isAsciiDigit (hDigits c hMem)
      have hTrim : trimWhite cs = cs :=
        trim_of_forall
          fun c hMem => (hVisible c hMem).not_isWhiteSpace
      have hNone : '_' ∉ (takeSign cs).2 :=
        fun hMem => absurd (hDigits _ hMem) (by decide)
      rw [spelledInteger, hTrim, unscored_of_not_mem hNone]
      exact hSpelled
    · split at hRead
      · rename_i n' hLoose
        cases hRead
        exact eq_of_looseInteger? hLoose hAll
      · exact absurd hRead (by simp)

/- An integer that both readings accept is the same. -/
theorem readInteger_unique
    {n m : Int}
    (hPlain : readInteger cs = .ok n)
    (hLoose : integerOfText cs = .ok m) :
    n = m := by
  rcases eq_of_readInteger hPlain with ⟨hSpelled, hAll⟩
  rw [hSpelled, eq_of_integerOfText hLoose hAll]

------------------------------------------------------------
-- Real numbers
------------------------------------------------------------

/- A letter can be seen in either case. -/
theorem isVisible_of_lowerAscii
    (hLower : IsVisible (lowerAscii c)) :
    IsVisible c := by
  unfold lowerAscii at hLower
  split at hLower
  · rename_i hUpper
    simp only [Bool.and_eq_true, decide_eq_true_eq,
      Char.le_def, UInt32.le_iff_toNat_le] at hUpper
    have hLow : 65 ≤ c.toNat := hUpper.1
    have hHigh : c.toNat ≤ 90 := hUpper.2
    refine ⟨by omega, by omega, ?_⟩
    rintro rfl
    exact absurd hHigh (by decide)
  · exact hLower

theorem isVisible_of_exponentOf?
    {e : Int}
    (hExponent : exponentOf? cs = some e) :
    ∀ c ∈ cs, IsVisible c := by
  cases cs with
  | nil => simp
  | cons c rest =>
      simp only [exponentOf?] at hExponent
      split at hExponent
      · rename_i hMark
        split at hExponent
        · exact absurd hExponent (by simp)
        · rename_i hDigits
          simp only [Bool.or_eq_true, decide_eq_true_eq,
            Bool.not_eq_true', not_or, Bool.not_eq_false,
            List.all_eq_true] at hDigits
          have hRest : ∀ x ∈ rest, IsVisible x :=
            isVisible_of_takeSign
              fun x hMem => .of_isAsciiDigit (hDigits.2 x hMem)
          intro x hMem
          rcases List.mem_cons.mp hMem with rfl | hMem
          · have hCase : x = 'e' ∨ x = 'E' := by
              simpa using hMark
            rcases hCase with rfl | rfl <;> decide
          · exact hRest x hMem
      · exact absurd hExponent (by simp)

/- What is visible behind leading digits is so altogether. -/
theorem isVisible_of_dropWhile
    (hRest : ∀ c ∈ cs.dropWhile isAsciiDigit, IsVisible c) :
    ∀ c ∈ cs, IsVisible c := by
  intro c hMem
  rw [← List.takeWhile_append_dropWhile (p := isAsciiDigit)
    (l := cs)] at hMem
  rcases List.mem_append.mp hMem with hDigit | hMem
  · exact .of_isAsciiDigit
      (List.all_eq_true.mp List.all_takeWhile c hDigit)
  · exact hRest c hMem

/- Parts of a number before and behind a point are digits. -/
theorem isVisible_of_magnitudeOf?
    {negative : Bool}
    {x : Binary64}
    (hMagnitude : magnitudeOf? negative cs = some x) :
    ∀ c ∈ cs, IsVisible c := by
  apply isVisible_of_dropWhile
  simp only [magnitudeOf?, Option.ite_none_left_eq_some]
    at hMagnitude
  rcases hMagnitude with ⟨_, hMagnitude⟩
  generalize cs.dropWhile isAsciiDigit = rest at hMagnitude ⊢
  split at hMagnitude
  · exact absurd hMagnitude (by simp)
  · rename_i hExponent
    have hTail := isVisible_of_exponentOf? hExponent
    split at hTail
    · intro c hMem
      rcases List.mem_cons.mp hMem with rfl | hMem
      · decide
      · exact isVisible_of_dropWhile hTail c hMem
    · exact hTail

/- All of a real number can be seen, and has no underscore. -/
theorem isVisible_of_realOf?
    {x : Binary64}
    (hReal : realOf? cs = some x) :
    ∀ c ∈ cs, IsVisible c := by
  apply isVisible_of_takeSign
  -- Asked letter by letter: there are too many characters to
  -- decide anything for all of them.
  have hWord : ∀ word : List Char,
      word.all (fun c => decide (IsVisible c)) = true →
      (takeSign cs).2.map lowerAscii = word →
        ∀ c ∈ (takeSign cs).2, IsVisible c := by
    rintro _ hVisible rfl c hMem
    simp only [List.all_eq_true, decide_eq_true_eq]
      at hVisible
    exact isVisible_of_lowerAscii
      (hVisible _ (List.mem_map_of_mem hMem))
  simp only [realOf?] at hReal
  split at hReal
  · rename_i hInfinity
    have hAll : ∀ word ∈ infinityWords,
        word.all (fun c => decide (IsVisible c)) = true := by
      decide
    exact hWord _
      (hAll _ (List.contains_iff_mem.mp hInfinity)) rfl
  · split at hReal
    · rename_i hNan
      exact hWord _ (by decide) hNan
    · exact isVisible_of_magnitudeOf? hReal

/- The plain reading removes underscores and reads. -/
theorem realOf?_of_readReal
    {x : Binary64}
    (hRead : readReal cs = .ok x) :
    realOf? (unscored (plainNumber cs)) = some x := by
  unfold readReal at hRead
  split at hRead
  · exact absurd hRead (by simp)
  · rename_i ds hDrop
    rw [← eq_of_dropUnderscores? hDrop]
    split at hRead
    · exact absurd hRead (by simp)
    · rename_i y hReal
      cases hRead
      exact hReal

/- What can be seen is plain already. -/
theorem map_plainDigit_of_isVisible
    (hAll : ∀ c ∈ cs, IsVisible c) :
    cs.map plainDigit = cs := by
  rw [List.map_congr_left
    fun c hMem => (hAll c hMem).plainDigit_eq, List.map_id']

/- A real number that both readings accept is the same. -/
theorem readReal_unique
    {x y : Binary64}
    (hPlain : readReal cs = .ok x)
    (hLoose : realOfText cs = .ok y) :
    x = y := by
  have hNumber :
      plainNumber cs = (trimWhite cs).map plainDigit := rfl
  have hReal := realOf?_of_readReal hPlain
  rw [hNumber] at hReal
  unfold realOfText at hLoose
  split at hLoose
  · rename_i z hTrimmed
    cases hLoose
    have hAll := isVisible_of_realOf? hTrimmed
    have hNone : '_' ∉ trimWhite cs :=
      fun hMem => (hAll _ hMem).2.2 rfl
    rw [map_plainDigit_of_isVisible hAll,
      unscored_of_not_mem hNone, hTrimmed] at hReal
    exact (Option.some.inj hReal).symm
  · split at hLoose
    · rename_i z hLate
      cases hLoose
      rcases Option.bind_eq_some_iff.mp hLate with
        ⟨joined, hJoined, hValue⟩
      have hUnscored := eq_of_joined? hJoined
      have hAll := isVisible_of_realOf? hValue
      have hBlank : ∀ c ∈ cs, isWhiteSpace c = false := by
        intro c hMem
        by_cases hScore : c = '_'
        · rw [hScore]
          decide
        · have hKept : c ∈ joined := by
            rw [hUnscored]
            exact List.mem_filter.mpr
              ⟨hMem, by simpa using hScore⟩
          exact (hAll c hKept).not_isWhiteSpace
      have hTrim : trimWhite cs = cs := trim_of_forall hBlank
      rw [hTrim, unscored_map_plainDigit, ← hUnscored,
        map_plainDigit_of_isVisible hAll, hValue] at hReal
      exact (Option.some.inj hReal).symm
    · exact absurd hLoose (by simp)

end ContainerBuild
