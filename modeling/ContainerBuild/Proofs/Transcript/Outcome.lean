import ContainerBuild.Stream.Parsed

/-
  This file says in which ways a transcript can end. Every
  line leads on or ends the scan with a final image or an
  error, so that a report never holds both, and a report of
  a transcript that stopped holds neither.

  Key definitions include:
    * `Outcome`

  Main statements:
    * `scanLine_ended`
    * `scanLines_outcome`
    * `Transcript.tooLong_of_scanLines`
    * `parseText_outcome`
    * `parseText_eq_error_iff`
    * `parseText_error`
-/

namespace ContainerBuild

open Text

namespace Transcript

/- The ways in which a transcript ends. -/
inductive Outcome : Parsed → Prop
  | built (id : String) (steps : List Step) :
      Outcome ⟨⟨"", id, steps⟩, none⟩
  | reported (message text : String) (steps : List Step) :
      Outcome
        ⟨⟨message, "", steps⟩, some (.errorReported text)⟩
  | stopped (steps : List Step) :
      Outcome ⟨⟨"", "", steps⟩, some .incompleteOutput⟩

/- A line that ends the scan has an image or an error. -/
theorem scanLine_ended
    {s : Scan}
    {line : List Char}
    {p : Parsed}
    (hEnded : scanLine s line = .ended p) :
    Outcome p := by
  have hPlain :
      scanPlainLine s line = .ended p → Outcome p := by
    intro hPlain
    unfold scanPlainLine at hPlain
    cases hStep : after? stepMark line with
    | some rest =>
        cases hNumber : stepOfLine rest <;>
          simp [hStep, hNumber] at hPlain
    | none =>
        cases hSuccess : after? successMark line with
        | some id =>
            simp only [hStep, hSuccess,
              Advance.ended.injEq] at hPlain
            subst hPlain
            exact Outcome.built _ _
        | none =>
            cases hError : after? errorMark line with
            | some message =>
                simp only [hStep, hSuccess, hError,
                  Advance.ended.injEq] at hPlain
                subst hPlain
                exact Outcome.reported _ _ _
            | none =>
                simp [hStep, hSuccess, hError] at hPlain
  unfold scanLine at hEnded
  split at hEnded
  · exact absurd hEnded (by simp)
  · exact hPlain hEnded

/- The lines of a transcript end in one of the ways. -/
theorem scanLines_outcome
    {s : Scan}
    {ls : List (List Char)}
    {p : Parsed}
    (hScan : scanLines s ls = .ok p) :
    Outcome p := by
  induction ls generalizing s with
  | nil =>
      cases hScan
      exact Outcome.stopped _
  | cons line rest ih =>
      simp only [scanLines] at hScan
      cases hLine : scanLine s line with
      | next s' =>
          rw [hLine] at hScan
          exact ih hScan
      | ended q =>
          rw [hLine] at hScan
          cases hScan
          exact scanLine_ended hLine
      | failed fault =>
          rw [hLine] at hScan
          exact absurd hScan (by simp)

/- The number of a step may be too long, nothing else. -/
theorem tooLong_of_stepOfLine
    {rest : List Char}
    {fault : IntegerFault}
    (hStep : stepOfLine rest = .error fault) :
    fault = .tooLong (numberDigits rest).length ∧
      maxDigits < (numberDigits rest).length := by
  unfold stepOfLine at hStep
  simp only at hStep
  split at hStep
  · rename_i hLong
    cases hStep
    exact ⟨rfl, hLong⟩
  · exact absurd hStep (by simp)

/- A line fails at the number of its step. -/
theorem tooLong_of_scanLine
    {s : Scan}
    {line : List Char}
    {fault : IntegerFault}
    (hFailed : scanLine s line = .failed fault) :
    ∃ n, fault = .tooLong n ∧ maxDigits < n := by
  have hPlain :
      scanPlainLine s line = .failed fault →
        ∃ n, fault = .tooLong n ∧ maxDigits < n := by
    intro hPlain
    unfold scanPlainLine at hPlain
    split at hPlain
    · split at hPlain
      · rename_i hStep
        cases hPlain
        exact ⟨_, tooLong_of_stepOfLine hStep⟩
      · exact absurd hPlain (by simp)
    · split at hPlain
      · exact absurd hPlain (by simp)
      · split at hPlain <;>
          exact absurd hPlain (by simp)
  unfold scanLine at hFailed
  split at hFailed
  · exact absurd hFailed (by simp)
  · exact hPlain hFailed

theorem tooLong_of_scanLines
    {s : Scan}
    {ls : List (List Char)}
    {fault : IntegerFault}
    (hScan : scanLines s ls = .error fault) :
    ∃ n, fault = .tooLong n ∧ maxDigits < n := by
  induction ls generalizing s with
  | nil => exact absurd hScan (by simp [scanLines])
  | cons line rest ih =>
      simp only [scanLines] at hScan
      cases hLine : scanLine s line with
      | next s' =>
          rw [hLine] at hScan
          exact ih hScan
      | ended p =>
          rw [hLine] at hScan
          exact absurd hScan (by simp)
      | failed fault' =>
          rw [hLine] at hScan
          cases hScan
          exact tooLong_of_scanLine hLine

end Transcript

/- A parsed text ends in one of the ways. -/
theorem parseText_outcome
    {text : String}
    {p : Parsed}
    (hParse : parseText text = .ok p) :
    Transcript.Outcome p := by
  unfold parseText at hParse
  cases hText : Transcript.parse text with
  | ok q =>
      rw [hText] at hParse
      cases hParse
      exact Transcript.scanLines_outcome hText
  | error fault =>
      rw [hText] at hParse
      exact absurd hParse (by simp)

/- Parsing fails at too long a step number only. -/
theorem parseText_eq_error_iff
    {text : String}
    {f : Failure} :
    parseText text = .error f ↔
      ∃ n, Transcript.parse text = .error (.tooLong n) ∧
        maxDigits < n ∧ f = .value (tooManyDigits n) := by
  unfold parseText
  cases hText : Transcript.parse text with
  | ok p => simp
  | error fault =>
      rcases Transcript.tooLong_of_scanLines hText with
        ⟨n, rfl, hLong⟩
      simp only [Except.error.injEq,
        IntegerFault.tooLong.injEq]
      constructor
      · rintro rfl
        exact ⟨n, rfl, hLong, rfl⟩
      · rintro ⟨_, rfl, _, rfl⟩
        rfl

/- Parsing fails with an unsuitable value only. -/
theorem parseText_error
    {text : String}
    {f : Failure}
    (hParse : parseText text = .error f) :
    ∃ message, f = .value message := by
  rcases parseText_eq_error_iff.mp hParse with
    ⟨n, _, _, rfl⟩
  exact ⟨tooManyDigits n, rfl⟩

end ContainerBuild
