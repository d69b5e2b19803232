import ContainerBuild.Proofs.Builder.Conclusion
import ContainerBuild.Proofs.Builder.Recording
import ContainerBuild.Proofs.Stream.Carriage

/-
  This file says how the issues and the report of a result
  account for the course of its build, whatever registry,
  stager and backend do.

  Key definitions include:
    * `BuildResult.Orderly`
    * `Course.Raises`
    * `Accounts`

  Main statements:
    * `Concludes.orderly`
    * `Concludes.accounts`
    * `Builder.build_accounts`
-/

namespace ContainerBuild

------------------------------------------------------------
-- Results by themselves
------------------------------------------------------------

namespace BuildResult

/-
  What holds of the issues of every result. A result that
  succeeds has a report, and no error is told in it.
-/
structure Orderly (r : BuildResult) : Prop where
  atMostTwo : r.issues.length ≤ 2
  two :
    r.issues.length = 2 →
      r.issues.map Issue.code =
        ["BUILD_STREAM_ERROR", "BUILD_ERROR_REPORTED"]
  graded :
    ∀ i ∈ r.issues,
      i.isError = true ∨ i.isWarning = true
  warning :
    ∀ i ∈ r.issues, i.isWarning = true →
      i.code = "BUILD_OUTPUT_INCOMPLETE" ∧ r.issues = [i]
  success :
    r.success = true ↔
      r.issues = [] ∨
        ∃ i, r.issues = [i] ∧ i.isWarning = true
  clean :
    r.success = true →
      r.errorMessage = "" ∧
        ∃ report, r.report = some report ∧
          report.errorMessage = ""

/- One error makes an orderly result. -/
theorem orderly_of_error
    (name : String)
    (report : Option Report)
    (e : BuildError)
    (subject details : Option String) :
    Orderly
      ⟨name, report,
        [Issue.ofError e .error subject details]⟩ where
  atMostTwo := by simp
  two := by simp
  graded := by simp [Issue.ofError, Issue.isError]
  warning := by simp [Issue.ofError, Issue.isWarning]
  success := by
    simp [BuildResult.success, Issue.ofError,
      Issue.isError, Issue.isWarning]
  clean := by
    simp [BuildResult.success, Issue.ofError,
      Issue.isError]

/- Two errors do if they are those of stream and transcript. -/
theorem orderly_of_errors
    (name message text : String)
    (code : Option ErrorCode)
    (report : Option Report)
    (subject details subject' details' : Option String) :
    Orderly
      ⟨name, report,
        [Issue.ofError (.streamError message code) .error
            subject details,
          Issue.ofError (.errorReported text) .error
            subject' details']⟩ where
  atMostTwo := by simp
  two := by simp [Issue.ofError, BuildError.code]
  graded := by simp [Issue.ofError, Issue.isError]
  warning := by simp [Issue.ofError, Issue.isWarning]
  success := by
    simp [BuildResult.success, Issue.ofError,
      Issue.isError]
  clean := by
    simp [BuildResult.success, Issue.ofError,
      Issue.isError]

theorem orderly_of_transcript
    {p : Parsed}
    (name : String)
    (hOutcome : Transcript.Outcome p) :
    Orderly ((start name).record name p) := by
  rw [record_start]
  cases hOutcome with
  | built id steps =>
      exact {
        atMostTwo := by simp
        two := by simp
        graded := by simp
        warning := by simp
        success := by simp [BuildResult.success]
        clean := fun _ => ⟨rfl, _, rfl, rfl⟩ }
  | reported message text steps =>
      exact orderly_of_error name _ (.errorReported text)
        (some name) none
  | stopped steps =>
      exact {
        atMostTwo := by simp
        two := by simp
        graded := by
          simp [problemIssue, Issue.ofError,
            Issue.isError, Issue.isWarning]
        warning := by
          simp [problemIssue, Issue.ofError,
            BuildError.code]
        success := by
          simp [BuildResult.success, problemIssue,
            Issue.ofError, Issue.isError, Issue.isWarning]
        clean := fun _ => ⟨rfl, _, rfl, rfl⟩ }

/- A transcript adds at most the error that it reports. -/
theorem laterIssues_outcome
    {p : Parsed}
    (name : String)
    (hOutcome : Transcript.Outcome p) :
    laterIssues name p = [] ∨
      ∃ text,
        laterIssues name p =
          [Issue.ofError (.errorReported text) .error
            (some name) none] := by
  cases hOutcome with
  | built id steps => exact Or.inl (by simp [laterIssues])
  | stopped steps => exact Or.inl rfl
  | reported message text steps =>
      unfold laterIssues
      split
      · exact Or.inl rfl
      · exact Or.inr ⟨text, rfl⟩

theorem orderly_of_record
    {p : Parsed}
    (name message : String)
    (code : Option ErrorCode)
    (details : Option String)
    (hOutcome : Transcript.Outcome p) :
    Orderly
      ((Conclusion.withError name (.streamError message code)
        details).record name p) := by
  rw [record_withError]
  rcases laterIssues_outcome name hOutcome with
    hNone | ⟨text, hOne⟩
  · rw [hNone]
    exact orderly_of_error _ _ _ _ _
  · rw [hOne]
    exact orderly_of_errors _ _ _ _ _ _ _ _ _

end BuildResult

theorem Concludes.orderly
    {name : String}
    {x : Except Failure Transmission}
    {r : BuildResult}
    (hConcludes : Concludes name x r)
    (hProblem :
      ∀ t e, x = .ok t → t.problem = some e →
        ∃ message code, e = .streamError message code) :
    r.Orderly := by
  cases hConcludes with
  | early e subject hEarly =>
      exact BuildResult.orderly_of_error _ _ _ _ _
  | silent e details hSilent hEmpty =>
      exact BuildResult.orderly_of_error _ _ _ _ _
  | partly e details p hLate hSome hParse =>
      exact BuildResult.orderly_of_error _ _ _ _ _
  | transmitted t p hParse =>
      have hOutcome := parseText_outcome hParse
      cases hRecord : t.problem with
      | none =>
          exact BuildResult.orderly_of_transcript name
            hOutcome
      | some e =>
          rcases hProblem t e rfl hRecord with
            ⟨message, code, hError⟩
          subst hError
          exact BuildResult.orderly_of_record name message
            code none hOutcome

------------------------------------------------------------
-- Results and courses
------------------------------------------------------------

/-
  An error that a collaborator raises and that the course
  comes to: during the checks, the staging or the sending,
  or in a stream after lines that are all read.
-/
inductive Course.Raises
    (format : OutputFormat) :
    Course → BuildError → Prop
  | checking (e : BuildError) :
      Raises format (.refused (.build e)) e
  | staging (e : BuildError) :
      Raises format (.unstaged (.build e)) e
  | replying (e : BuildError) :
      Raises format (.replied (.error (.build e))) e
  | streaming (body : Body) (e : BuildError) :
      format = .records →
      body.failure? = some (.build e) →
      (∀ line ∈ body.delivery.lines, ReadsOn line) →
        Raises format (.replied (.ok body)) e

/-
  How a result accounts for what its build came to. The
  report is missing only for an error that came before any
  output, or without any; an error that was caught is the
  only issue, be it raised by a collaborator or found in
  the stream.
-/
structure Accounts
    (format : OutputFormat)
    (c : Course)
    (r : BuildResult) : Prop where
  errorRecord :
    ∀ body e, c = .replied (.ok body) → format = .records →
      HoldsError e body.delivery.lines →
        (∃ i, r.issues.head? = some i ∧
          i.code = "BUILD_STREAM_ERROR" ∧
          i.message = e.message) ∧
        r.success = false
  absent :
    r.report = none ↔
      ∃ i, r.issues = [i] ∧
        (i.code ∈ earlyCodes ∨
          (i.code ∈ silentCodes ∧
            ∃ e, c.outcome format = .error (.build e) ∧
              e.recoveredText = ""))
  malformed :
    ∀ i ∈ r.issues, i.code = "MALFORMED_STREAM_RECORD" →
      ∃ report, r.report = some report
  failed :
    ∀ f, c.outcome format = .error f →
      ∃ e i, f = .build e ∧ r.issues = [i] ∧
        i.code = e.code ∧ i.message = e.message
  caught :
    ∀ e, c.Raises format e →
      ∃ i, r.issues = [i] ∧
        i.code = e.code ∧ i.message = e.message

/- An error record of the stream comes out of the course. -/
theorem Course.outcome_of_holdsError
    {body : Body}
    {e : BuildError}
    (hHolds : HoldsError e body.delivery.lines) :
    ∃ t,
      (Course.replied (.ok body)).outcome .records =
        .ok t ∧
      t.problem = some e := by
  rcases hHolds.demuxLines 1 "" 0 body.delivery.failure with
    ⟨d, hDemux, hProblem⟩
  have hBody : body.demux = .ok d := hDemux
  refine ⟨⟨d.text, d.problem⟩, ?_, hProblem⟩
  simp only [outcome, Body.transmission, hBody]

/- What fails after the lines of a body is its failure. -/
theorem Body.delivery_failure (b : Body) :
    b.delivery.failure = b.failure? := by
  rw [Body.delivery_eq]
  rfl

/- An error that is raised comes out of the course. -/
theorem Course.Raises.outcome
    {format : OutputFormat}
    {c : Course}
    {e : BuildError}
    (hRaises : c.Raises format e) :
    ∃ e', c.outcome format = .error (.build e') ∧
      e'.code = e.code ∧ e'.message = e.message := by
  cases hRaises with
  | checking => exact ⟨e, rfl, rfl, rfl⟩
  | staging => exact ⟨e, rfl, rfl, rfl⟩
  | replying => exact ⟨e, rfl, rfl, rfl⟩
  | streaming body e hFormat hFailure hOn =>
      rcases demuxLines_of_readsOn hOn 1 "" 0 (.build e) with
        ⟨soFar, hLines⟩
      rcases attachOutput_build soFar e with
        ⟨e', hAttached, hCode, hMessage⟩
      have hDemux : body.demux = .error (.build e') := by
        rw [Body.demux, Body.delivery_failure, hFailure,
          ← hAttached]
        exact hLines
      refine ⟨e', ?_, hCode, hMessage⟩
      simp only [Course.outcome, Body.transmission, hFormat,
        hDemux]

/- The result of an error that was caught accounts for it. -/
theorem accounts_of_error
    {format : OutputFormat}
    {c : Course}
    {e : BuildError}
    (name : String)
    (report : Option Report)
    (subject details : Option String)
    (hOutcome : c.outcome format = .error (.build e))
    (hAbsent :
      report = none ↔
        e.code ∈ earlyCodes ∨
          (e.code ∈ silentCodes ∧ e.recoveredText = "")) :
    Accounts format c
      ⟨name, report,
        [Issue.ofError e .error subject details]⟩ where
  errorRecord := by
    intro body e' hCourse hFormat hHolds
    subst hCourse
    subst hFormat
    rcases Course.outcome_of_holdsError hHolds with
      ⟨t, hOk, hProblem⟩
    rw [hOutcome] at hOk
    exact absurd hOk (by simp)
  absent := by
    constructor
    · intro hNone
      refine ⟨_, rfl, ?_⟩
      rcases hAbsent.mp hNone with hEarly | ⟨hSilent, hEmpty⟩
      · exact Or.inl hEarly
      · exact Or.inr ⟨hSilent, e, hOutcome, hEmpty⟩
    · rintro ⟨i, hIssues, hCode⟩
      cases hIssues
      refine hAbsent.mpr ?_
      rcases hCode with hEarly | ⟨hSilent, e', hError, hEmpty⟩
      · exact Or.inl hEarly
      · rw [hOutcome] at hError
        cases hError
        exact Or.inr ⟨hSilent, hEmpty⟩
  malformed := by
    intro i hMem hCode
    cases List.mem_singleton.mp hMem
    have hMalformed : e.code = "MALFORMED_STREAM_RECORD" :=
      hCode
    refine Option.ne_none_iff_exists'.mp ?_
    intro hNone
    have hImpossible := hAbsent.mp hNone
    simp [hMalformed, earlyCodes, silentCodes]
      at hImpossible
  failed := by
    intro f hFailure
    rw [hOutcome] at hFailure
    cases hFailure
    exact ⟨e, _, rfl, rfl, rfl, rfl⟩
  caught := by
    intro e' hRaises
    rcases hRaises.outcome with
      ⟨raised, hRaised, hCode, hMessage⟩
    rw [hOutcome] at hRaised
    cases hRaised
    exact ⟨_, rfl, hCode, hMessage⟩

/- The codes of the issues that go with a transcript. -/
def lateCodes : List String :=
  ["BUILD_STREAM_ERROR", "BUILD_OUTPUT_INCOMPLETE",
    "BUILD_ERROR_REPORTED"]

theorem accounts_of_report
    {format : OutputFormat}
    {c : Course}
    {t : Transmission}
    {r : BuildResult}
    {report : Report}
    (hOutcome : c.outcome format = .ok t)
    (hReport : r.report = some report)
    (hCodes : ∀ i ∈ r.issues, i.code ∈ lateCodes)
    (hRecord :
      ∀ e, t.problem = some e →
        (∃ i, r.issues.head? = some i ∧
          i.code = "BUILD_STREAM_ERROR" ∧
          i.message = e.message) ∧
        r.success = false) :
    Accounts format c r where
  errorRecord := by
    intro body e hCourse hFormat hHolds
    subst hCourse
    subst hFormat
    rcases Course.outcome_of_holdsError hHolds with
      ⟨t', hOk, hProblem⟩
    rw [hOutcome] at hOk
    cases hOk
    exact hRecord e hProblem
  absent := by
    constructor
    · intro hNone
      rw [hReport] at hNone
      exact absurd hNone (by simp)
    · rintro ⟨i, hIssues, hCode⟩
      have hLate := hCodes i (by rw [hIssues]; simp)
      rcases hCode with hEarly | ⟨hSilent, e, hError, _⟩
      · simp only [lateCodes, List.mem_cons,
          List.not_mem_nil, or_false] at hLate
        rcases hLate with hCode | hCode | hCode <;>
          simp [hCode, earlyCodes] at hEarly
      · rw [hOutcome] at hError
        exact absurd hError (by simp)
  malformed := fun _ _ _ => ⟨report, hReport⟩
  failed := by
    intro f hFailure
    rw [hOutcome] at hFailure
    exact absurd hFailure (by simp)
  caught := by
    intro e hRaises
    rcases hRaises.outcome with ⟨e', hRaised, _, _⟩
    rw [hOutcome] at hRaised
    exact absurd hRaised (by simp)

/- The issue of a problem has its code. -/
theorem BuildResult.record_start_codes
    {p : Parsed}
    (name : String)
    (hOutcome : Transcript.Outcome p) :
    ∀ i ∈ ((start name).record name p).issues,
      i.code ∈ lateCodes := by
  rw [record_start]
  cases hOutcome with
  | built id steps => simp
  | reported message text steps =>
      simp [problemIssue_code, BuildError.code, lateCodes]
  | stopped steps =>
      simp [problemIssue_code, BuildError.code, lateCodes]

theorem BuildResult.record_withError_codes
    {p : Parsed}
    (name message : String)
    (code : Option ErrorCode)
    (details : Option String)
    (hOutcome : Transcript.Outcome p) :
    ∀ i ∈ ((Conclusion.withError name
        (.streamError message code) details).record
          name p).issues,
      i.code ∈ lateCodes := by
  rw [record_withError]
  rcases laterIssues_outcome name hOutcome with
    hNone | ⟨text, hOne⟩
  · rw [hNone]
    simp [Issue.ofError, BuildError.code, lateCodes]
  · rw [hOne]
    simp [Issue.ofError, BuildError.code, lateCodes]

/- What is concluded from a course accounts for it. -/
theorem Concludes.accounts
    {name : String}
    {format : OutputFormat}
    {c : Course}
    {r : BuildResult}
    (hConcludes : Concludes name (c.outcome format) r) :
    Accounts format c r := by
  generalize hOutcome : c.outcome format = x at hConcludes
  cases hConcludes with
  | early e subject hEarly =>
      exact accounts_of_error _ _ _ _ hOutcome
        ⟨fun _ => Or.inl hEarly, fun _ => rfl⟩
  | silent e details hSilent hEmpty =>
      exact accounts_of_error _ _ _ _ hOutcome
        ⟨fun _ => Or.inr ⟨hSilent, hEmpty⟩, fun _ => rfl⟩
  | partly e details p hLate hSome hParse =>
      refine accounts_of_error _ _ _ _ hOutcome
        ⟨by simp, ?_⟩
      rintro (hEarly | ⟨hSilent, hEmpty⟩)
      · exact absurd hEarly hLate
      · exact absurd hEmpty (hSome hSilent)
  | transmitted t p hParse =>
      have hParsed := parseText_outcome hParse
      cases hRecord : t.problem with
      | none =>
          refine accounts_of_report hOutcome
            (congrArg BuildResult.report
              (BuildResult.record_start name p))
            (BuildResult.record_start_codes name hParsed) ?_
          intro e hProblem
          rw [hRecord] at hProblem
          exact absurd hProblem (by simp)
      | some e =>
          rcases Course.outcome_problem hOutcome hRecord with
            ⟨message, code, hError⟩
          subst hError
          have hResult :=
            BuildResult.record_withError name
              (.streamError message code) none p
          refine accounts_of_report hOutcome
            (congrArg BuildResult.report hResult)
            (BuildResult.record_withError_codes name message
              code none hParsed) ?_
          intro e hProblem
          rw [hRecord] at hProblem
          cases hProblem
          exact
            ⟨⟨_, congrArg (List.head? ∘ BuildResult.issues)
                hResult, rfl, rfl⟩,
              congrArg BuildResult.success hResult⟩

/-
  Whatever the collaborators do: a build that gives a result
  gives an orderly one, which accounts for its course.
-/
theorem Builder.build_accounts
    {σ : Type}
    (b : Builder σ)
    (o : BuildOrder)
    (s : σ)
    (r : BuildResult)
    (hBuild : (b.build o s).1 = .ok r) :
    r.Orderly ∧
      Accounts b.backend.format (b.course o s) r := by
  rw [Builder.build_fst] at hBuild
  have hConcludes := Course.concludes hBuild
  exact
    ⟨hConcludes.orderly
        (fun _ _ hOutcome hProblem =>
          Course.outcome_problem hOutcome hProblem),
      hConcludes.accounts⟩

/- A result that fails, with the final image in its report. -/
def lateErrorResult : BuildResult :=
  ⟨"realm/tools:demo", some ⟨"", "4a5b", []⟩,
    [⟨"BUILD_STREAM_ERROR", "disk full", .error,
      some "realm/tools:demo", none⟩]⟩

theorem Builder.build_accounts_sample :
    ((Builder.bare (.giving .records
      (.ofLines lateErrorLines))).build
        .sample .blank).1 = .ok lateErrorResult ∧
    lateErrorResult.Orderly ∧
    Accounts .records
      (.replied (.ok (.ofLines lateErrorLines)))
      lateErrorResult := by
  have hBuild :
      ((Builder.bare (.giving .records
        (.ofLines lateErrorLines))).build
          .sample .blank).1 =
        .ok lateErrorResult := by
    rw [Builder.bare_build _ _ _ rfl]
    simp only [Course.result, Conclusion.ofReply,
      Body.transmission, demux_lateErrorLines]
    rfl
  exact ⟨hBuild, Builder.build_accounts _ _ _ _ hBuild⟩

end ContainerBuild
