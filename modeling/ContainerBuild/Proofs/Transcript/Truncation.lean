import ContainerBuild.Proofs.Transcript.Reading

/-
  This file compares a transcript with one that goes on
  after it. What was read before the end of the transcript
  remains; only the last step may still be remarked upon.

  Key definitions include:
    * `Transcript.Continues`

  Main statements:
    * `Transcript.scanLines_append`
    * `Transcript.continues_of_reading`
    * `truncation_monotone`
-/

namespace ContainerBuild

open Text

namespace Transcript

------------------------------------------------------------
-- Lines
------------------------------------------------------------

/- A text that ends in a line feed is a row of lines. -/
theorem exists_lines_append
    {front : List Char}
    (hEnds : EndsIn '\n' front) :
    ∃ ls, ∀ rest, lines (front ++ rest) = ls ++ lines rest := by
  rcases exists_endEach_of_endsIn hEnds with
    ⟨ps, hEnded, rfl⟩
  refine ⟨ps.map dropReturns, fun rest => ?_⟩
  rw [lines, splitAll_endEach hEnded, List.map_append]
  rfl

/- What ends a transcript says that it is not cut short. -/
theorem incomplete_of_scanLine
    {s : Scan}
    {line : List Char}
    {p : Parsed}
    (hEnded : scanLine s line = .ended p) :
    p.incomplete = false := by
  have hPlain : scanPlainLine s line = .ended p := by
    unfold scanLine at hEnded
    split at hEnded
    · exact absurd hEnded (by simp)
    · exact hEnded
  unfold scanPlainLine at hPlain
  split at hPlain
  · split at hPlain <;> exact absurd hPlain (by simp)
  · split at hPlain
    · cases hPlain
      rfl
    · split at hPlain
      · cases hPlain
        rfl
      · exact absurd hPlain (by simp)

/-
  Scanning comes to an end within some lines, whatever is
  behind them, or it goes on behind them. The induction is on
  the lines.
-/
theorem scanLines_append
    (s : Scan)
    (ls : List (List Char)) :
    (∃ r,
      (∀ p, r = .ok p → p.incomplete = false) ∧
        ∀ rest, scanLines s (ls ++ rest) = r) ∨
    (∃ s', ∀ rest,
      scanLines s (ls ++ rest) = scanLines s' rest) := by
  induction ls generalizing s with
  | nil => exact Or.inr ⟨s, fun rest => rfl⟩
  | cons line ls ih =>
      cases hLine : scanLine s line with
      | next s' =>
          have hStep : ∀ rest,
              scanLines s (line :: ls ++ rest) =
                scanLines s' (ls ++ rest) := by
            intro rest
            rw [List.cons_append, scanLines, hLine]
          simpa only [hStep] using ih s'
      | ended p =>
          refine Or.inl ⟨.ok p, ?_, ?_⟩
          · intro q hSame
            cases hSame
            exact incomplete_of_scanLine hLine
          · intro rest
            rw [List.cons_append, scanLines, hLine]
      | failed fault =>
          refine Or.inl ⟨.error fault, by simp, ?_⟩
          intro rest
          rw [List.cons_append, scanLines, hLine]

/- Where nothing follows, the steps are those so far. -/
theorem scanLines_nothing (s : Scan) :
    scanLines s (lines []) =
      .ok ⟨⟨"", "", s.steps⟩, some .incompleteOutput⟩ := by
  have hLine : lines [] = [[]] := rfl
  rw [hLine, scanLines_eq_reading,
    Scan.before_eq_steps (Or.inr rfl),
    reading_cons (by decide) (by decide)]
  simp [reading, stepPlaces, endPlace, closing]

------------------------------------------------------------
-- Steps
------------------------------------------------------------

/-
  Steps that go on from others: there are no fewer of them,
  those before the last are the same, and the last has its
  number and command and may have come to use the cache.
-/
structure Continues (steps more : List Step) : Prop where
  length : steps.length ≤ more.length
  front :
    ∀ i, i + 1 < steps.length → more[i]? = steps[i]?
  last :
    ∀ s, steps.getLast? = some s →
      ∃ s', more[steps.length - 1]? = some s' ∧
        s'.number = s.number ∧ s'.command = s.command ∧
        (s.usedCache = true → s'.usedCache = true)

namespace Continues

theorem of_isPrefix
    {steps more : List Step}
    (hPrefix : steps <+: more) :
    Continues steps more where
  length := hPrefix.length_le
  front := by
    intro i hBefore
    rcases hPrefix with ⟨rest, rfl⟩
    exact List.getElem?_append_left (by omega)
  last := by
    intro s hLast
    rcases hPrefix with ⟨rest, rfl⟩
    refine ⟨s, ?_, rfl, rfl, id⟩
    rw [List.getLast?_eq_getElem?] at hLast
    rw [List.getElem?_append_left, hLast]
    exact (List.getElem?_eq_some_iff.mp hLast).1

/- Remarks about the last step keep what was known of it. -/
theorem of_withRemarks
    (front : List Step)
    (s : Step)
    (remarks : List (List Char))
    (rest : List Step) :
    Continues (front ++ [s])
      (front ++ withRemarks remarks s :: rest) where
  length := by simp
  front := by
    intro i hBefore
    have hFront : i < front.length := by simpa using hBefore
    rw [List.getElem?_append_left hFront,
      List.getElem?_append_left hFront]
  last := by
    intro s' hLast
    have hSame : s = s' := by simpa using hLast
    subst hSame
    refine ⟨withRemarks remarks s, by simp, rfl, rfl, ?_⟩
    intro hUsed
    simp [withRemarks, hUsed]

end Continues

/- What is read behind some steps comes behind them. -/
theorem prefix_of_reading
    {before : List Step}
    {ls : List (List Char)}
    {q : Parsed}
    (hRead : reading before ls = .ok q) :
    before <+: q.report.steps := by
  unfold reading at hRead
  split at hRead
  · exact absurd hRead (by simp)
  · cases hRead
    rw [closing_steps]
    exact List.prefix_append _ _

/- What lines say after a scan continues its steps. -/
theorem continues_of_reading
    {s : Scan}
    {ls : List (List Char)}
    {q : Parsed}
    (hRead : reading (s.before ls) ls = .ok q) :
    Continues s.steps q.report.steps := by
  have hPrefix := prefix_of_reading hRead
  cases hCurrent : s.current with
  | none =>
      rw [Scan.before_eq_steps (Or.inl hCurrent)] at hPrefix
      exact .of_isPrefix hPrefix
  | some step =>
      rcases hPrefix with ⟨rest, hSteps⟩
      simp only [Scan.before, hCurrent, List.append_assoc,
        List.singleton_append] at hSteps
      simp only [Scan.steps, hCurrent, List.reverse_cons,
        ← hSteps]
      exact .of_withRemarks _ _ _ _

/- Without a remark in front they are all the same. -/
theorem prefix_of_reading_plain
    {s : Scan}
    {ls : List (List Char)}
    {q : Parsed}
    (hRead : reading (s.before ls) ls = .ok q)
    (hPlain : isRemark (ls.headD []) = false) :
    s.steps <+: q.report.steps := by
  have hNone : remarksFrom ls 0 = [] := by
    cases ls with
    | nil => rfl
    | cons line rest =>
        have hOther : isRemark line = false := hPlain
        simp [remarksFrom, hOther]
  rw [Scan.before_eq_steps (Or.inr hNone)] at hRead
  exact prefix_of_reading hRead

end Transcript

open Transcript

theorem parseText_eq_ok_iff
    {text : String}
    {p : Parsed} :
    parseText text = .ok p ↔
      scanLines ⟨[], none⟩ (linesOf text) = .ok p := by
  have hParse :
      Transcript.parse text =
        scanLines ⟨[], none⟩ (linesOf text) :=
    rfl
  rw [parseText, hParse]
  cases scanLines ⟨[], none⟩ (linesOf text) <;> simp

/-
  A transcript that is cut behind a line: if its end was met
  before, nothing behind the cut counts. Otherwise the steps
  continue, and those that were there remain as they are
  unless what is behind the cut starts with a remark.
-/
theorem truncation_monotone
    {start more : String}
    {p q : Parsed}
    (hEnds : EndsIn '\n' start.toList)
    (hStart : parseText start = .ok p)
    (hAll : parseText (start ++ more) = .ok q) :
    (p.incomplete = false → q = p) ∧
    (p.incomplete = true →
      Continues p.report.steps q.report.steps ∧
      (isRemark ((linesOf more).headD []) = false →
        p.report.steps <+: q.report.steps)) := by
  rcases exists_lines_append hEnds with ⟨ls, hLines⟩
  have hCut : linesOf start = ls ++ lines [] := by
    rw [linesOf, ← hLines, List.append_nil]
  have hWhole : linesOf (start ++ more) =
      ls ++ linesOf more := by
    rw [linesOf, String.toList_append, hLines, linesOf]
  rw [parseText_eq_ok_iff, hCut] at hStart
  rw [parseText_eq_ok_iff, hWhole] at hAll
  rcases scanLines_append ⟨[], none⟩ ls with
    ⟨r, hEnd, hSame⟩ | ⟨s, hOn⟩
  · rw [hSame] at hStart hAll
    have hComplete := hEnd p hStart
    have hParsed : q = p := by
      rw [hStart] at hAll
      exact (Except.ok.inj hAll).symm
    refine ⟨fun _ => hParsed, fun hCutShort => ?_⟩
    rw [hComplete] at hCutShort
    exact absurd hCutShort (by simp)
  · rw [hOn, scanLines_nothing] at hStart
    rw [hOn, scanLines_eq_reading] at hAll
    cases hStart
    refine ⟨fun hComplete => ?_, fun _ => ?_⟩
    · exact absurd hComplete (by simp [Parsed.incomplete])
    · exact ⟨continues_of_reading hAll,
        prefix_of_reading_plain hAll⟩

/- Two steps, the last of which may be remarked upon. -/
def Transcript.openSample : String :=
  "Step 1 : a\nStep 2 : b\n"

/- The same with a remark, and with an error behind it. -/
def Transcript.failedSample : String :=
  Transcript.openSample ++ " ---> Using cache\nError\n"

theorem truncation_monotone_sample :
    (∃ p q,
      parseText Transcript.openSample = .ok p ∧
        parseText Transcript.failedSample = .ok q ∧
        p.incomplete = true ∧
        Continues p.report.steps q.report.steps ∧
        ¬ p.report.steps <+: q.report.steps) ∧
    (∃ p q,
      parseText Transcript.failedSample = .ok p ∧
        parseText
          (Transcript.failedSample ++ " ---> 4a\nStep x") =
            .ok q ∧
        p.incomplete = false ∧ q = p) := by
  have hOpen :
      parseText Transcript.openSample =
        .ok
          ⟨⟨"", "",
              [⟨1, "a", false, ""⟩, ⟨2, "b", false, ""⟩]⟩,
            some .incompleteOutput⟩ :=
    rfl
  have hFailed :
      parseText Transcript.failedSample =
        .ok
          ⟨⟨"", "",
              [⟨1, "a", false, ""⟩, ⟨2, "b", true, ""⟩]⟩,
            some (.errorReported
              "Build reported an error")⟩ :=
    rfl
  have hMore :
      parseText
          (Transcript.failedSample ++ " ---> 4a\nStep x") =
        .ok
          ⟨⟨"", "",
              [⟨1, "a", false, ""⟩, ⟨2, "b", true, ""⟩]⟩,
            some (.errorReported
              "Build reported an error")⟩ :=
    rfl
  constructor
  · refine ⟨_, _, hOpen, hFailed, rfl, ?_, by decide⟩
    exact ((truncation_monotone (Or.inr (by decide)) hOpen
      hFailed).2 rfl).1
  · refine ⟨_, _, hFailed, hMore, rfl, ?_⟩
    exact (truncation_monotone (Or.inr (by decide)) hFailed
      hMore).1 rfl

end ContainerBuild
