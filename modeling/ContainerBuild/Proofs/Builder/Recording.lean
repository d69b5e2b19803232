import ContainerBuild.Builder.Conclusion

/-
  This file says what the builder records of a transcript,
  and that this is what the report of the stream itself
  says. The two tell the precedence of an error record in
  different ways: the builder looks at the issues so far,
  the stream at the error record.

  Key definitions include:
    * `BuildResult.laterIssues`
    * `BuildResult.Reflects`

  Main statements:
    * `BuildResult.record_start`
    * `BuildResult.record_withError`
    * `Conclusion.ofTransmission_reflects`
-/

namespace ContainerBuild

------------------------------------------------------------
-- Recording
------------------------------------------------------------

namespace BuildResult

/- The issues of a transcript after an error record. -/
def laterIssues
    (subject : String)
    (p : Parsed) : List Issue :=
  if saysNothing p.report then
    []
  else
    (p.problem.toList.filter
      (fun e => !isIncomplete e)).map (problemIssue subject)

/- Without an error record the transcript alone counts. -/
theorem record_start
    (name : String)
    (p : Parsed) :
    (start name).record name p =
      ⟨name, some p.report,
        p.problem.toList.map (problemIssue name)⟩ := by
  rcases p with ⟨report, problem⟩
  cases problem with
  | none => rfl
  | some e => rfl

/-
  After an error record its message completes a report that
  says nothing, as in the report of the stream.
-/
theorem record_withError
    (name : String)
    (e : BuildError)
    (details : Option String)
    (p : Parsed) :
    (Conclusion.withError name e details).record name p =
      ⟨name, some (p.report.withRecord e.message),
        Issue.ofError e .error (some name) details ::
          laterIssues name p⟩ := by
  rcases p with ⟨report, problem⟩
  have hFailed :
      (Conclusion.withError name e details).success =
        false := rfl
  have hLast :
      (Conclusion.withError name e details).lastMessage =
        e.message := rfl
  cases hNothing : saysNothing report with
  | true =>
      have hRecord :
          report.withRecord e.message =
            report.setError e.message := if_pos hNothing
      simp only [record, laterIssues, hFailed, hLast,
        hNothing, hRecord]
      rfl
  | false =>
      have hRecord : report.withRecord e.message = report :=
        if_neg (by simpa [saysNothing] using hNothing)
      cases problem with
      | none =>
          simp only [record, laterIssues, hFailed, hNothing,
            hRecord]
          rfl
      | some later =>
          cases hIncomplete : isIncomplete later with
          | true =>
              simp only [record, laterIssues, hFailed,
                hNothing, hRecord, hIncomplete]
              simp [Conclusion.withError, setReport,
                addIssue, start, hIncomplete]
          | false =>
              simp only [record, laterIssues, hFailed,
                hNothing, hRecord, hIncomplete]
              simp [Conclusion.withError, setReport,
                addIssue, start, hIncomplete]

------------------------------------------------------------
-- Reports of streams
------------------------------------------------------------

/-
  A result says what the report of a stream says: it has the
  report, succeeds if the stream is complete or stopped, and
  begins with the issue of the problem, if there is one.
-/
structure Reflects
    (p : Parsed)
    (r : BuildResult) : Prop where
  report : r.report = some p.report
  success : r.success = (p.complete || p.incomplete)
  silent : r.issues = [] ↔ p.problem = none
  first :
    ∀ e, p.problem = some e →
      ∃ i, r.issues.head? = some i ∧
        i.code = e.code ∧ i.message = e.message

theorem problemIssue_code
    (subject : String)
    (e : BuildError) :
    (problemIssue subject e).code = e.code := by
  cases e <;> rfl

theorem problemIssue_message
    (subject : String)
    (e : BuildError) :
    (problemIssue subject e).message = e.message := by
  cases e <;> rfl

/- Only a transcript that stopped is no error. -/
theorem problemIssue_isError
    (subject : String)
    (e : BuildError) :
    (problemIssue subject e).isError =
      !isIncomplete e := by
  cases e <;> rfl

/- Without an error record a result reflects the transcript. -/
theorem start_reflects
    (name : String)
    (p : Parsed) :
    ((start name).record name p).Reflects p := by
  rw [record_start]
  rcases p with ⟨report, problem⟩
  cases problem with
  | none =>
      exact ⟨rfl, rfl, by simp, by simp⟩
  | some e =>
      refine ⟨rfl, ?_, by simp, ?_⟩
      · have hError := problemIssue_isError name e
        simp only [success, Option.toList_some,
          List.map_cons, List.map_nil, List.any_cons,
          List.any_nil, Bool.or_false, hError, Bool.not_not]
        cases e <;> rfl
      · intro e' hProblem
        cases hProblem
        exact ⟨problemIssue name e, rfl,
          problemIssue_code name e,
          problemIssue_message name e⟩

/- With an error record a result reflects the record. -/
theorem withError_reflects
    {name message : String}
    {code : Option ErrorCode}
    {details : Option String}
    (p : Parsed) :
    ((Conclusion.withError name (.streamError message code)
      details).record name p).Reflects
      ⟨p.report.withRecord message,
        some (.streamError message code)⟩ := by
  rw [record_withError]
  refine ⟨rfl, rfl, by simp, ?_⟩
  intro e hProblem
  cases hProblem
  exact ⟨_, rfl, rfl, rfl⟩

end BuildResult

/-
  What is concluded from a demuxed stream reflects its
  report.
-/
theorem Conclusion.ofTransmission_reflects
    {d : Demuxed}
    {p : Parsed}
    (name : String)
    (hParse : d.parse = .ok p)
    (hProblem :
      ∀ e, d.problem = some e →
        ∃ message code, e = .streamError message code) :
    ∃ r,
      Conclusion.ofTransmission name ⟨d.text, d.problem⟩ =
        .ok r ∧
      r.Reflects p := by
  unfold Demuxed.parse at hParse
  cases hText : parseText d.text with
  | error f =>
      rw [hText] at hParse
      exact absurd hParse (by simp)
  | ok q =>
      simp only [hText] at hParse
      refine ⟨_, by
        simp only [Conclusion.ofTransmission, hText]; rfl,
        ?_⟩
      cases hRecord : d.problem with
      | none =>
          simp only [hRecord] at hParse
          cases hParse
          exact BuildResult.start_reflects name p
      | some e =>
          simp only [hRecord] at hParse
          cases hParse
          rcases hProblem e hRecord with
            ⟨message, code, hError⟩
          subst hError
          exact BuildResult.withError_reflects q

end ContainerBuild
