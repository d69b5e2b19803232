import ContainerBuild.Proofs.Builder.Accounting
import ContainerBuild.Proofs.Builder.Agreement

/-
  This file shows that a report and the verdict that comes
  with it never contradict each other: a report tells of a
  final image or of an error, not of both, a build whose
  report tells of an error has not succeeded, and the report
  of a transcript that stopped tells of neither.

  Key definitions include:
    * `Report.TellsNeither`
    * `Parsed.Agrees`
    * `BuildResult.Agrees`

  Main statements:
    * `parseText_agrees`
    * `parseBody_agrees`
    * `Concludes.agrees`
    * `report_agrees_with_verdict`
-/

namespace ContainerBuild

------------------------------------------------------------
-- Reports
------------------------------------------------------------

/- Of a final image and an error, at most one is told of. -/
def Report.TellsOne (r : Report) : Prop :=
  r.finalImageId = "" ∨ r.errorMessage = ""

/- Neither a final image nor an error is told of. -/
def Report.TellsNeither (r : Report) : Prop :=
  r.finalImageId = "" ∧ r.errorMessage = ""

/- How a report goes together with the verdict on it. -/
structure Parsed.Agrees (p : Parsed) : Prop where
  tellsOne : p.report.TellsOne
  failed :
    p.report.errorMessage ≠ "" →
      p.complete = false ∧ p.incomplete = false
  stopped : p.incomplete = true → p.report.TellsNeither

/-
  How the report of a result, if there is one, goes together
  with its success and its warnings.
-/
structure BuildResult.Agrees (r : BuildResult) : Prop where
  tellsOne :
    ∀ report, r.report = some report → report.TellsOne
  failed :
    ∀ report, r.report = some report →
      report.errorMessage ≠ "" → r.success = false
  stopped :
    ∀ i ∈ r.issues, i.isWarning = true →
      i.code = "BUILD_OUTPUT_INCOMPLETE" →
        ∃ report, r.report = some report ∧
          report.TellsNeither

------------------------------------------------------------
-- Transcripts and streams
------------------------------------------------------------

namespace Transcript

theorem Outcome.agrees
    {p : Parsed}
    (hOutcome : Outcome p) :
    p.Agrees := by
  cases hOutcome with
  | built id steps =>
      exact ⟨Or.inr rfl, fun hError => absurd rfl hError,
        by simp [Parsed.incomplete]⟩
  | reported message text steps =>
      exact ⟨Or.inl rfl, fun _ => ⟨rfl, rfl⟩,
        by simp [Parsed.incomplete]⟩
  | stopped steps =>
      exact ⟨Or.inl rfl, fun hError => absurd rfl hError,
        fun _ => ⟨rfl, rfl⟩⟩

end Transcript

/- The message of an error record goes where there is room. -/
theorem Report.TellsOne.withRecord
    {r : Report}
    (hOne : r.TellsOne)
    (message : String) :
    (r.withRecord message).TellsOne := by
  unfold Report.withRecord
  split
  · rename_i hEmpty
    left
    simp only [Bool.and_eq_true, decide_eq_true_eq] at hEmpty
    exact hEmpty.2
  · exact hOne

/- With an error record nothing is complete or just stopped. -/
theorem Parsed.Agrees.withRecord
    {p : Parsed}
    (hAgrees : p.Agrees)
    (message : String)
    (code : Option ErrorCode) :
    Agrees
      ⟨p.report.withRecord message,
        some (.streamError message code)⟩ where
  tellsOne := hAgrees.tellsOne.withRecord message
  failed := fun _ => ⟨rfl, rfl⟩
  stopped := by simp [Parsed.incomplete]

theorem parseText_agrees
    {text : String}
    {p : Parsed}
    (hParse : parseText text = .ok p) :
    p.Agrees :=
  (parseText_outcome hParse).agrees

theorem parseBody_agrees
    {body : Body}
    {p : Parsed}
    (hParse : parseBody body = .ok p) :
    p.Agrees := by
  rcases parseBody_ok hParse with ⟨d, hDemux, hDemuxed⟩
  unfold Demuxed.parse at hDemuxed
  cases hText : parseText d.text with
  | error f =>
      rw [hText] at hDemuxed
      exact absurd hDemuxed (by simp)
  | ok q =>
      have hAgrees := parseText_agrees hText
      cases hRecord : d.problem with
      | none =>
          simp only [hText, hRecord] at hDemuxed
          cases hDemuxed
          exact hAgrees
      | some e =>
          simp only [hText, hRecord] at hDemuxed
          cases hDemuxed
          rcases Body.demux_problem hDemux hRecord with
            ⟨message, code, rfl⟩
          exact hAgrees.withRecord message code

------------------------------------------------------------
-- Results
------------------------------------------------------------

namespace BuildResult

/- A result of one error has failed, whatever its report. -/
theorem agrees_of_error
    (name : String)
    {report : Option Report}
    (e : BuildError)
    (subject details : Option String)
    (hOne : ∀ r, report = some r → r.TellsOne) :
    Agrees
      ⟨name, report,
        [Issue.ofError e .error subject details]⟩ where
  tellsOne := hOne
  failed := fun _ _ _ => rfl
  stopped := by simp [Issue.ofError, Issue.isWarning]

/-
  A result that reflects a report agrees as that does: a
  warning stands alone, so that the report is one of a
  transcript that stopped.
-/
theorem Reflects.agrees
    {p : Parsed}
    {r : BuildResult}
    (hReflects : r.Reflects p)
    (hAgrees : p.Agrees)
    (hOrderly : r.Orderly) :
    r.Agrees where
  tellsOne := by
    intro report hReport
    rw [hReflects.report] at hReport
    cases hReport
    exact hAgrees.tellsOne
  failed := by
    intro report hReport hError
    rw [hReflects.report] at hReport
    cases hReport
    rcases hAgrees.failed hError with
      ⟨hComplete, hIncomplete⟩
    rw [hReflects.success, hComplete, hIncomplete]
    rfl
  stopped := by
    intro i hMem hWarning _
    have hAlone := (hOrderly.warning i hMem hWarning).2
    have hSuccess : r.success = true :=
      hOrderly.success.mpr (Or.inr ⟨i, hAlone, hWarning⟩)
    have hProblem : p.problem ≠ none := by
      intro hNone
      rw [hReflects.silent.mpr hNone] at hMem
      exact absurd hMem (by simp)
    have hIncomplete : p.incomplete = true := by
      rw [hReflects.success] at hSuccess
      simpa [Parsed.complete, hProblem] using hSuccess
    exact ⟨p.report, hReflects.report,
      hAgrees.stopped hIncomplete⟩

end BuildResult

/- Whatever is concluded from, the result agrees. -/
theorem Concludes.agrees
    {name : String}
    {x : Except Failure Transmission}
    {r : BuildResult}
    (hConcludes : Concludes name x r)
    (hProblem :
      ∀ t e, x = .ok t → t.problem = some e →
        ∃ message code, e = .streamError message code) :
    r.Agrees := by
  have hOrderly := hConcludes.orderly hProblem
  cases hConcludes with
  | early e subject hEarly =>
      exact BuildResult.agrees_of_error name e _ _ (by simp)
  | silent e details hSilent hEmpty =>
      exact BuildResult.agrees_of_error name e _ _ (by simp)
  | partly e details p hLate hSome hParse =>
      refine BuildResult.agrees_of_error name e _ _ ?_
      rintro _ ⟨⟩
      exact (parseText_agrees hParse).tellsOne
  | transmitted t p hParse =>
      have hAgrees := parseText_agrees hParse
      cases hRecord : t.problem with
      | none =>
          rw [hRecord] at hOrderly
          exact (BuildResult.start_reflects name p).agrees
            hAgrees hOrderly
      | some e =>
          rcases hProblem t e rfl hRecord with
            ⟨message, code, rfl⟩
          rw [hRecord] at hOrderly
          exact (BuildResult.withError_reflects p).agrees
            (hAgrees.withRecord message code) hOrderly

------------------------------------------------------------
-- Agreement
------------------------------------------------------------

/-
  Reports and verdicts agree wherever reports come from: the
  parsing of a text, the parsing of a body, and any build,
  whatever its collaborators do.
-/
theorem report_agrees_with_verdict :
    (∀ text p, parseText text = .ok p → p.Agrees) ∧
    (∀ body p, parseBody body = .ok p → p.Agrees) ∧
    (∀ (σ : Type) (b : Builder σ) o s r,
      (b.build o s).1 = .ok r → r.Agrees) := by
  refine ⟨fun _ _ => parseText_agrees,
    fun _ _ => parseBody_agrees, ?_⟩
  intro σ b o s r hBuild
  rw [Builder.build_fst] at hBuild
  exact (Course.concludes hBuild).agrees
    (fun _ _ => Course.outcome_problem)

/-
  A transcript that stopped, a stream with an error after
  the final image, and a build that reports an error.
-/
theorem report_agrees_with_verdict_sample :
    (parseText "Step 1 : FROM a\n" =
        .ok
          ⟨⟨"", "", [⟨1, "FROM a", false, ""⟩]⟩,
            some .incompleteOutput⟩ ∧
      Parsed.Agrees
        ⟨⟨"", "", [⟨1, "FROM a", false, ""⟩]⟩,
          some .incompleteOutput⟩) ∧
    (parseBody (.ofLines lateErrorLines) =
        .ok
          ⟨⟨"", "4a5b", []⟩,
            some (.streamError "disk full" none)⟩ ∧
      Parsed.Agrees
        ⟨⟨"", "4a5b", []⟩,
          some (.streamError "disk full" none)⟩) ∧
    ∃ r,
      ((Builder.bare (.giving .text
          (.whole (.text "Error: no space\n")))).build
            .sample .blank).1 = .ok r ∧
        r.report = some ⟨": no space", "", []⟩ ∧
        r.success = false ∧ r.Agrees := by
  rcases report_agrees_with_verdict with
    ⟨hText, hBody, hBuild⟩
  have hParse :
      parseText "Step 1 : FROM a\n" =
        .ok
          ⟨⟨"", "", [⟨1, "FROM a", false, ""⟩]⟩,
            some .incompleteOutput⟩ := rfl
  have hLate :
      parseBody (.ofLines lateErrorLines) =
        .ok
          ⟨⟨"", "4a5b", []⟩,
            some (.streamError "disk full" none)⟩ := by
    unfold parseBody
    rw [demux_lateErrorLines]
    rfl
  refine ⟨⟨hParse, hText _ _ hParse⟩,
    ⟨hLate, hBody _ _ hLate⟩, ?_⟩
  have hRun :=
    Builder.bare_build (o := .sample) .text
      (.whole (.text "Error: no space\n")) .blank rfl
  exact ⟨_, hRun, rfl, rfl, hBuild _ _ _ _ _ hRun⟩

end ContainerBuild
