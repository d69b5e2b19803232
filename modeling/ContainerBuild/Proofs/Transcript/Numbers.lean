import ContainerBuild.Proofs.Builder.Verdict
import ContainerBuild.Proofs.Transcript.Reading
import ContainerBuild.Proofs.Wire

/-
  This file shows that the step numbers in reports are short
  enough for a reader of JSON, wherever a report comes from:
  a transcript with a longer number has no report.

  Main statements:
    * `isShort_of_parseText`
    * `isShort_of_parseBody`
    * `Concludes.isShort`
    * `Builder.isShort_of_build`
-/

namespace ContainerBuild

open Transcript

/- Only the step numbers count. -/
theorem Report.IsShort.of_steps
    {r r' : Report}
    (hShort : r.IsShort)
    (hSteps : r'.steps = r.steps) :
    r'.IsShort := by
  unfold Report.IsShort
  rw [hSteps]
  exact hShort

theorem Report.withRecord_steps
    (message : String)
    (r : Report) :
    (r.withRecord message).steps = r.steps := by
  unfold Report.withRecord
  split <;> rfl

/- A number of few digits has a short numeral. -/
theorem isShortNumber_stepAt
    {ls : List (List Char)}
    {i : Nat}
    (hFits : isTooLong ls i = false) :
    Report.IsShortNumber (stepAt ls i).number := by
  have hDigits :
      (numberDigits (announcementAt ls i)).length ≤
        maxDigits := by
    simpa [isTooLong] using hFits
  exact length_decimal_ofDigits (by decide) hDigits

theorem isShort_of_parseText
    {text : String}
    {p : Parsed}
    (hParse : parseText text = .ok p) :
    p.report.IsShort := by
  have hShort := short_of_parseText hParse
  rw [parseText_of_short hShort] at hParse
  cases hParse
  intro step hMem
  rw [closing_steps] at hMem
  rcases List.mem_map.mp hMem with ⟨i, hPlace, rfl⟩
  exact isShortNumber_stepAt (hShort i hPlace)

theorem isShort_of_parseBody
    {body : Body}
    {p : Parsed}
    (hParse : parseBody body = .ok p) :
    p.report.IsShort := by
  rcases parseBody_ok hParse with ⟨d, _, hDemuxed⟩
  unfold Demuxed.parse at hDemuxed
  cases hText : parseText d.text with
  | error f =>
      rw [hText] at hDemuxed
      exact absurd hDemuxed (by simp)
  | ok q =>
      have hShort := isShort_of_parseText hText
      rw [hText] at hDemuxed
      cases hRecord : d.problem with
      | none =>
          rw [hRecord] at hDemuxed
          cases hDemuxed
          exact hShort
      | some e =>
          rw [hRecord] at hDemuxed
          cases hDemuxed
          exact hShort.of_steps (Report.withRecord_steps _ _)

/- What is recorded of a transcript are its steps. -/
theorem BuildResult.exists_record_report
    (subject : String)
    (p : Parsed)
    (r : BuildResult) :
    ∃ report,
      (r.record subject p).report = some report ∧
        report.steps = p.report.steps := by
  unfold record
  split
  · exact ⟨_, rfl, rfl⟩
  · split
    · exact ⟨_, rfl, rfl⟩
    · split
      · exact ⟨_, rfl, rfl⟩
      · exact ⟨_, rfl, rfl⟩

/- Whatever is concluded from, the report is short. -/
theorem Concludes.isShort
    {name : String}
    {x : Except Failure Transmission}
    {r : BuildResult}
    (hConcludes : Concludes name x r)
    {report : Report}
    (hReport : r.report = some report) :
    report.IsShort := by
  cases hConcludes with
  | early e subject _ => exact absurd hReport (by simp)
  | silent e details _ _ => exact absurd hReport (by simp)
  | partly e details p _ _ hParse =>
      cases hReport
      exact isShort_of_parseText hParse
  | transmitted t p hParse =>
      rcases BuildResult.exists_record_report name p
          ((BuildResult.start name).addProblem name
            t.problem) with ⟨recorded, hRecorded, hSteps⟩
      rw [hRecorded] at hReport
      cases hReport
      exact (isShort_of_parseText hParse).of_steps hSteps

theorem Builder.isShort_of_build
    {σ : Type}
    {b : Builder σ}
    {o : BuildOrder}
    {s : σ}
    {r : BuildResult}
    (hBuild : (b.build o s).1 = .ok r)
    {report : Report}
    (hReport : r.report = some report) :
    report.IsShort := by
  rw [Builder.build_fst] at hBuild
  exact (Course.concludes hBuild).isShort hReport

end ContainerBuild
