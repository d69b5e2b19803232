import ContainerBuild.Json.Reader

/-
  This file says how texts are spelled within JSON and shows
  that the reader takes every spelling back: characters may
  stand for themselves or be escaped in each of the ways
  that JSON has, and gaps may stand between the tokens.

  Key definitions include:
    * `SpellsChar`
    * `Spells`
    * `SpellsField`

  Main statements:
    * `scanText_of_spells`
    * `tokensFrom_text`
    * `read_of_spellsField`
-/

namespace ContainerBuild.Json

open Text

------------------------------------------------------------
-- Spellings
------------------------------------------------------------

/- The letters of short escapes and what they stand for. -/
def letterEscapes : List (Char × Char) :=
  [('"', '"'), ('\\', '\\'), ('/', '/'), ('b', '\x08'),
   ('f', '\x0c'), ('n', '\n'), ('r', '\r'), ('t', '\t')]

/-
  The ways to spell a character: as itself unless it is a
  mark or a control character, by a letter, by its number in
  four hexadecimal digits, or by those of a surrogate pair.
-/
inductive SpellsChar (c : Char) : List Char → Prop
  | plain :
      c ≠ '"' → c ≠ '\\' → 0x20 ≤ c.toNat →
        SpellsChar c [c]
  | letter (e : Char) :
      (e, c) ∈ letterEscapes → SpellsChar c ['\\', e]
  | number (ds : List Char) :
      ds.length = 4 → ofHexDigits? ds = some c.toNat →
        SpellsChar c ('\\' :: 'u' :: ds)
  | pair (hs ls : List Char) :
      hs.length = 4 → ls.length = 4 →
      0x10000 ≤ c.toNat →
      ofHexDigits? hs =
        some (0xD800 + (c.toNat - 0x10000) / 0x400) →
      ofHexDigits? ls =
        some (0xDC00 + (c.toNat - 0x10000) % 0x400) →
        SpellsChar c
          ('\\' :: 'u' :: (hs ++ '\\' :: 'u' :: ls))

/- The ways to spell characters one after the other. -/
inductive Spells : List Char → List Char → Prop
  | nil : Spells [] []
  | cons {c : Char} {cs ws rest : List Char} :
      SpellsChar c ws → Spells cs rest →
        Spells (c :: cs) (ws ++ rest)

/- Blanks that may stand between tokens. -/
def IsGap (cs : List Char) : Prop :=
  ∀ c ∈ cs, isGap c = true

/-
  The ways to spell an object whose only field is a text,
  with gaps around its marks.
-/
inductive SpellsField
    (name value : String) : List Char → Prop
  | mk {g₀ g₁ g₂ g₃ g₄ g₅ ns vs : List Char} :
      Spells name.toList ns → Spells value.toList vs →
      IsGap g₀ → IsGap g₁ → IsGap g₂ →
      IsGap g₃ → IsGap g₄ → IsGap g₅ →
        SpellsField name value
          (g₀ ++ '\x7b' :: (g₁ ++ '"' :: (ns ++ '"' ::
            (g₂ ++ ':' :: (g₃ ++ '"' :: (vs ++ '"' ::
              (g₄ ++ '\x7d' :: g₅)))))))

------------------------------------------------------------
-- Characters
------------------------------------------------------------

/- Four digits are a unit if something follows them. -/
theorem unicodeUnit?_append
    {ds tail : List Char}
    (hLength : ds.length = 4)
    (hTail : tail ≠ []) :
    unicodeUnit? (ds ++ tail) = ofHexDigits? ds := by
  match ds, hLength with
  | [a, b, c, d], _ =>
      cases tail with
      | nil => exact absurd rfl hTail
      | cons x rest => rfl

/- The number of a character is no surrogate. -/
theorem unitChar_toNat (c : Char) :
    isHighUnit c.toNat = false ∧ unitChar c.toNat = c := by
  have hValid : c.toNat < 0xD800 ∨ 0xDFFF < c.toNat := by
    rcases c.valid with hLow | hHigh
    · exact Or.inl hLow
    · exact Or.inr hHigh.1
  constructor
  · simp only [isHighUnit, Bool.and_eq_false_iff,
      decide_eq_false_iff_not]
    omega
  · have hPlain :
        (0xD800 ≤ c.toNat && c.toNat < 0xE000) =
          false := by
      simp only [Bool.and_eq_false_iff,
        decide_eq_false_iff_not]
      omega
    simp [unitChar, hPlain, Char.ofNat_toNat]

/- The halves of a pair make up their character again. -/
theorem pairChar_halves
    {c : Char}
    (hBeyond : 0x10000 ≤ c.toNat) :
    pairChar
        (0xD800 + (c.toNat - 0x10000) / 0x400)
        (0xDC00 + (c.toNat - 0x10000) % 0x400) = c := by
  have hSum :
      0x10000 +
          (0xD800 + (c.toNat - 0x10000) / 0x400 - 0xD800) *
            0x400 +
          (0xDC00 + (c.toNat - 0x10000) % 0x400 - 0xDC00) =
        c.toNat := by
    omega
  exact (congrArg Char.ofNat hSum).trans
    (Char.ofNat_toNat c)

/- The table of letters is the one that is read. -/
theorem plainEscape?_of_mem
    {e c : Char}
    (hMem : (e, c) ∈ letterEscapes) :
    plainEscape? e = some c ∧ e ≠ 'u' := by
  simp only [letterEscapes, List.mem_cons, Prod.mk.injEq,
    List.not_mem_nil, or_false] at hMem
  rcases hMem with h | h | h | h | h | h | h | h <;>
    rcases h with ⟨rfl, rfl⟩ <;> decide

/- The two units of a pair are read as one character. -/
theorem scanChar_pair
    {high low : Nat}
    {hs ls tail : List Char}
    (hHighLength : hs.length = 4)
    (hLowLength : ls.length = 4)
    (hHigh : ofHexDigits? hs = some high)
    (hLow : ofHexDigits? ls = some low)
    (hIsHigh : isHighUnit high = true)
    (hIsLow : isLowUnit low = true)
    (hTail : tail ≠ [])
    (start offset : Nat) :
    scanChar start offset '\\'
        ('u' :: (hs ++ '\\' :: 'u' :: (ls ++ tail))) =
      .ok (pairChar high low, 12) := by
  have hFirst :
      unicodeUnit?
          (hs ++ ('\\' :: 'u' :: (ls ++ tail))) =
        some high :=
    (unicodeUnit?_append hHighLength (by simp)).trans hHigh
  have hSecond : unicodeUnit? (ls ++ tail) = some low :=
    (unicodeUnit?_append hLowLength hTail).trans hLow
  have hDrop :
      (hs ++ ('\\' :: 'u' :: (ls ++ tail))).drop 4 =
        '\\' :: 'u' :: (ls ++ tail) := by
    rw [← hHighLength, List.drop_left]
  simp [scanChar, hFirst, hIsHigh, hDrop, nextUnit?,
    hSecond, hIsLow]

/-
  A spelled character is read before what follows it. The
  cases are the ways to spell it.
-/
theorem scanChar_of_spellsChar
    {c : Char}
    {spelled : List Char}
    (hSpells : SpellsChar c spelled) :
    ∃ w ws,
      spelled = w :: ws ∧ w ≠ '"' ∧
        ∀ start offset tail, tail ≠ [] →
          scanChar start offset w (ws ++ tail) =
            .ok (c, ws.length + 1) := by
  cases hSpells with
  | plain hQuote hSlash hControl =>
      refine ⟨c, [], rfl, hQuote, ?_⟩
      intro start offset tail _
      simp [scanChar, hSlash, Nat.not_lt.mpr hControl]
  | letter e hMem =>
      rcases plainEscape?_of_mem hMem with ⟨hEscape, hNotU⟩
      refine ⟨'\\', [e], rfl, by decide, ?_⟩
      intro start offset tail _
      simp [scanChar, hNotU, hEscape]
  | number ds hLength hDigits =>
      rcases unitChar_toNat c with ⟨hNotHigh, hUnit⟩
      refine ⟨'\\', 'u' :: ds, rfl, by decide, ?_⟩
      intro start offset tail hTail
      have hRead := unicodeUnit?_append hLength hTail
      simp [scanChar, hRead, hDigits, hNotHigh, hUnit,
        hLength]
  | pair hs ls hHighLength hLowLength hBeyond hHigh hLow =>
      refine ⟨'\\', 'u' :: (hs ++ '\\' :: 'u' :: ls), rfl,
        by decide, ?_⟩
      intro start offset tail hTail
      have hBound : c.toNat < 0x110000 := by
        rcases c.valid with hSmall | hLarge
        · exact Nat.lt_trans hSmall (by decide)
        · exact hLarge.2
      have hIsHigh :
          isHighUnit
              (0xD800 + (c.toNat - 0x10000) / 0x400) =
            true := by
        simp only [isHighUnit, Bool.and_eq_true,
          decide_eq_true_eq]
        omega
      have hIsLow :
          isLowUnit
              (0xDC00 + (c.toNat - 0x10000) % 0x400) =
            true := by
        simp only [isLowUnit, Bool.and_eq_true,
          decide_eq_true_eq]
        omega
      have hScan :=
        scanChar_pair hHighLength hLowLength hHigh hLow
          hIsHigh hIsLow hTail start offset
      rw [pairChar_halves hBeyond] at hScan
      have hUsed :
          ('u' :: (hs ++ '\\' :: 'u' :: ls)).length + 1 =
            12 := by
        simp [hHighLength, hLowLength]
      rw [hUsed, List.cons_append, List.append_assoc]
      exact hScan

------------------------------------------------------------
-- Texts
------------------------------------------------------------

/- A spelled text is read up to its closing mark. -/
theorem scanText_of_spells
    {cs spelled : List Char}
    (hSpells : Spells cs spelled)
    (start offset : Nat)
    (rest : List Char) :
    scanText start offset (spelled ++ '"' :: rest) =
      .ok (cs, spelled.length + 1) := by
  induction hSpells generalizing offset with
  | nil => simp [scanText]
  | cons hChar hSpells ih =>
      rename_i c cs' ws rest'
      rcases scanChar_of_spellsChar hChar with
        ⟨w, ws', rfl, hQuote, hScan⟩
      have hTail : rest' ++ '"' :: rest ≠ [] := by simp
      rw [List.cons_append, List.cons_append, scanText,
        List.append_assoc]
      simp only [hQuote, if_false,
        hScan start offset _ hTail, Nat.add_sub_cancel,
        List.drop_left, ih]
      simp
      omega

------------------------------------------------------------
-- Tokens
------------------------------------------------------------

/- A gap has no tokens. -/
theorem tokensFrom_gap
    {gap : List Char}
    (hGap : IsGap gap)
    (limits : Limits)
    (offset : Nat)
    (rest : List Char) :
    tokensFrom limits offset (gap ++ rest) =
      tokensFrom limits (offset + gap.length) rest := by
  induction gap generalizing offset with
  | nil => rfl
  | cons c gap ih =>
      have hHead : isGap c = true := hGap c (by simp)
      have hTail : IsGap gap := by
        intro d hMem
        exact hGap d (by simp [hMem])
      rw [List.cons_append, tokensFrom, if_pos hHead,
        ih hTail, List.length_cons, Nat.add_assoc,
        Nat.add_comm 1]

/- A mark is a token of its own. -/
theorem tokensFrom_mark
    {c : Char}
    (symbol : Symbol)
    (hGap : isGap c = false)
    (hMark : mark? c = some symbol)
    (hReadable : symbol.isReadable = true)
    (limits : Limits)
    (offset : Nat)
    (rest : List Char) :
    tokensFrom limits offset (c :: rest) =
      ⟨symbol, offset⟩ ::
        tokensFrom limits (offset + 1) rest := by
  rw [tokensFrom]
  simp [hGap, scanSymbol, hMark, hReadable]

/- A spelled text between its marks is one token. -/
theorem tokensFrom_text
    {cs spelled : List Char}
    (hSpells : Spells cs spelled)
    (limits : Limits)
    (offset : Nat)
    (rest : List Char) :
    tokensFrom limits offset
        ('"' :: (spelled ++ '"' :: rest)) =
      ⟨.text (String.ofList cs), offset⟩ ::
        tokensFrom limits (offset + (spelled.length + 2))
          rest := by
  have hGap : isGap '"' = false := by decide
  have hMark : mark? '"' = none := by decide
  have hScan :=
    scanText_of_spells hSpells offset (offset + 1) rest
  have hDrop :
      (spelled ++ '"' :: rest).drop (spelled.length + 1) =
        rest := by
    simp
  rw [tokensFrom]
  simp [hGap, scanSymbol, hMark, hScan, Symbol.isReadable,
    hDrop]

------------------------------------------------------------
-- Objects
------------------------------------------------------------

/- A spelled object does not start with a byte order mark. -/
theorem SpellsField.head?_ne
    {name value : String}
    {cs : List Char}
    (hSpells : SpellsField name value cs) :
    cs.head? ≠ some '\uFEFF' := by
  cases hSpells with
  | @mk g₀ _ _ _ _ _ _ _ _ _ hGap =>
      intro hHead
      cases g₀ with
      | nil => exact absurd hHead (by simp)
      | cons c gap =>
          have hMark : c = '\uFEFF' := by
            simpa using hHead
          have hIsGap : isGap c = true :=
            hGap c (by simp)
          rw [hMark] at hIsGap
          exact absurd hIsGap (by decide)

/- A spelled object is read as the object it spells. -/
theorem read_of_spellsField
    {name value : String}
    {cs : List Char}
    (hSpells : SpellsField name value cs) :
    read cs = .ok (.object [(name, .text value)]) := by
  have hHead := hSpells.head?_ne
  cases hSpells with
  | mk hName hValue h₀ h₁ h₂ h₃ h₄ h₅ =>
      rename_i g₀ g₁ g₂ g₃ g₄ g₅ ns vs
      rw [read, readWithin, if_neg hHead, tokens]
      rw [tokensFrom_gap h₀,
        tokensFrom_mark .openObject
          (by decide) rfl rfl,
        tokensFrom_gap h₁, tokensFrom_text hName,
        tokensFrom_gap h₂,
        tokensFrom_mark .colon
          (by decide) rfl rfl,
        tokensFrom_gap h₃, tokensFrom_text hValue,
        tokensFrom_gap h₄,
        tokensFrom_mark .closeObject
          (by decide) rfl rfl,
        ← List.append_nil g₅, tokensFrom_gap h₅,
        tokensFrom]
      simp [run, step, beginValue, beginField, afterValue,
        Fields.set, Limits.standard]

/- Two brackets are the array without items. -/
theorem read_noItems : read ['[', ']'] = .ok (.array []) := by
  rw [read, readWithin, if_neg (by decide), tokens,
    tokensFrom_mark .openArray (by decide) rfl rfl,
    tokensFrom_mark .closeArray (by decide) rfl rfl,
    tokensFrom]
  simp [run, step, beginValue, afterValue, Limits.standard]

end ContainerBuild.Json
