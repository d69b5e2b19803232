import ContainerBuild.Proofs.Builder.Course
import ContainerBuild.Proofs.Stream.Demux
import ContainerBuild.Proofs.Transcript.Outcome

/-
  This file says what can be concluded from the outcome of a
  course. A result comes about in few ways: an error came
  early, an error came with or without output, or something
  was transmitted.

  Key definitions include:
    * `BuildError.recoveredText`
    * `Concludes`
    * `Conclusion.ofOutcome`

  Main statements:
    * `Course.outcome_problem`
    * `Conclusion.ofOutcome_ok`
    * `Course.concludes`
-/

namespace ContainerBuild

------------------------------------------------------------
-- Outcomes
------------------------------------------------------------

/- Only an error record comes with a transmission. -/
theorem Body.transmission_problem
    {format : OutputFormat}
    {b : Body}
    {t : Transmission}
    {e : BuildError}
    (hTransmission : b.transmission format = .ok t)
    (hProblem : t.problem = some e) :
    ∃ message code, e = .streamError message code := by
  cases format with
  | text =>
      simp only [Body.transmission] at hTransmission
      cases hText : b.plainText with
      | ok s =>
          rw [hText] at hTransmission
          cases hTransmission
          exact absurd hProblem (by simp)
      | error f =>
          rw [hText] at hTransmission
          exact absurd hTransmission (by simp)
  | records =>
      simp only [Body.transmission] at hTransmission
      cases hDemux : b.demux with
      | ok d =>
          rw [hDemux] at hTransmission
          cases hTransmission
          exact Body.demux_problem hDemux hProblem
      | error f =>
          rw [hDemux] at hTransmission
          exact absurd hTransmission (by simp)

theorem Course.outcome_problem
    {format : OutputFormat}
    {c : Course}
    {t : Transmission}
    {e : BuildError}
    (hOutcome : c.outcome format = .ok t)
    (hProblem : t.problem = some e) :
    ∃ message code, e = .streamError message code := by
  cases c with
  | refused f => exact absurd hOutcome (by simp [outcome])
  | unstaged f => exact absurd hOutcome (by simp [outcome])
  | replied reply =>
      cases reply with
      | error f =>
          exact absurd hOutcome (by simp [outcome])
      | ok body =>
          exact Body.transmission_problem hOutcome hProblem

------------------------------------------------------------
-- Conclusions
------------------------------------------------------------

/- The output that an error brings along. -/
def BuildError.recoveredText : BuildError → String
  | unreachable _ text => text
  | buildFailed _ text _ => text
  | malformedRecord _ text _ => text
  | _ => ""

/- The codes of the errors that come before any output. -/
def earlyCodes : List String :=
  ["INVALID_IMAGE_NAME", "IMAGE_ALREADY_EXISTS",
    "REGISTRY_ERROR", "STAGING_FAILED"]

/- The codes of the errors that may come without output. -/
def silentCodes : List String :=
  ["BUILD_FAILED", "BACKEND_UNREACHABLE"]

/-
  The ways to conclude from an outcome: with the issue of an
  error and no report, with that issue and the report of the
  output that came along, or with what is recorded of a
  transmission.
-/
inductive Concludes (name : String) :
    Except Failure Transmission → BuildResult → Prop
  | early (e : BuildError) (subject : String) :
      e.code ∈ earlyCodes →
        Concludes name (.error (.build e))
          ⟨name, none,
            [Issue.ofError e .error (some subject) none]⟩
  | silent (e : BuildError) (details : Option String) :
      e.code ∈ silentCodes → e.recoveredText = "" →
        Concludes name (.error (.build e))
          ⟨name, none,
            [Issue.ofError e .error (some name) details]⟩
  | partly
      (e : BuildError)
      (details : Option String)
      (p : Parsed) :
      e.code ∉ earlyCodes →
      (e.code ∈ silentCodes → e.recoveredText ≠ "") →
      parseText e.recoveredText = .ok p →
        Concludes name (.error (.build e))
          ⟨name, some p.report,
            [Issue.ofError e .error (some name) details]⟩
  | transmitted (t : Transmission) (p : Parsed) :
      parseText t.text = .ok p →
        Concludes name (.ok t)
          (((BuildResult.start name).addProblem name
            t.problem).record name p)

namespace BuildResult

theorem recover_ok
    {text : String}
    {r r' : BuildResult}
    (hRecover : r.recover text = .ok r') :
    ∃ p, parseText text = .ok p ∧
      r' = r.setReport p.report := by
  unfold recover at hRecover
  cases hParse : parseText text with
  | ok p =>
      rw [hParse] at hRecover
      cases hRecover
      exact ⟨p, rfl, rfl⟩
  | error f =>
      rw [hParse] at hRecover
      exact absurd hRecover (by simp)

theorem recoverSome_ok
    {text : String}
    {r r' : BuildResult}
    (hRecover : r.recoverSome text = .ok r') :
    (text = "" ∧ r' = r) ∨
      (text ≠ "" ∧ ∃ p, parseText text = .ok p ∧
        r' = r.setReport p.report) := by
  unfold recoverSome at hRecover
  by_cases hEmpty : text = ""
  · rw [if_pos hEmpty] at hRecover
    cases hRecover
    exact Or.inl ⟨hEmpty, rfl⟩
  · rw [if_neg hEmpty] at hRecover
    exact Or.inr ⟨hEmpty, recover_ok hRecover⟩

theorem recover_error
    {text : String}
    {r : BuildResult}
    {f : Failure}
    (hRecover : r.recover text = .error f) :
    ∃ message, f = .value message := by
  unfold recover at hRecover
  cases hParse : parseText text with
  | ok p =>
      rw [hParse] at hRecover
      exact absurd hRecover (by simp)
  | error g =>
      rw [hParse] at hRecover
      cases hRecover
      exact parseText_error hParse

theorem recoverSome_error
    {text : String}
    {r : BuildResult}
    {f : Failure}
    (hRecover : r.recoverSome text = .error f) :
    ∃ message, f = .value message := by
  unfold recoverSome at hRecover
  by_cases hEmpty : text = ""
  · rw [if_pos hEmpty] at hRecover
    exact absurd hRecover (by simp)
  · rw [if_neg hEmpty] at hRecover
    exact recover_error hRecover

end BuildResult

/- What is concluded from a failure is one of the ways. -/
theorem Conclusion.ofFailure_ok
    {name : String}
    {f : Failure}
    {r : BuildResult}
    (hOk : Conclusion.ofFailure name f = .ok r) :
    Concludes name (.error f) r := by
  unfold Conclusion.ofFailure at hOk
  split at hOk
  · rcases BuildResult.recoverSome_ok hOk with
      ⟨hEmpty, hResult⟩ | ⟨hSome, p, hParse, hResult⟩
    · subst hResult
      exact .silent _ _
        (by simp [BuildError.code, silentCodes]) hEmpty
    · subst hResult
      exact .partly _ _ p
        (by simp [BuildError.code, earlyCodes])
        (fun _ => hSome) hParse
  · rcases BuildResult.recover_ok hOk with
      ⟨p, hParse, hResult⟩
    subst hResult
    exact .partly _ _ p
      (by simp [BuildError.code, earlyCodes])
      (by simp [BuildError.code, silentCodes]) hParse
  · rcases BuildResult.recoverSome_ok hOk with
      ⟨hEmpty, hResult⟩ | ⟨hSome, p, hParse, hResult⟩
    · subst hResult
      exact .silent _ _
        (by simp [BuildError.code, silentCodes]) hEmpty
    · subst hResult
      exact .partly _ _ p
        (by simp [BuildError.code, earlyCodes])
        (fun _ => hSome) hParse
  · exact absurd hOk (by simp)

/-
  A staging error is only passed on: what parsing adds is no
  such error.
-/
theorem Conclusion.ofFailure_error
    {name : String}
    {f : Failure}
    {m : String}
    (hError :
      Conclusion.ofFailure name f =
        .error (.build (.stagingFailed m))) :
    f = .build (.stagingFailed m) := by
  unfold Conclusion.ofFailure at hError
  split at hError
  · rcases BuildResult.recoverSome_error hError with ⟨_, h⟩
    exact absurd h (by simp)
  · rcases BuildResult.recover_error hError with ⟨_, h⟩
    exact absurd h (by simp)
  · rcases BuildResult.recoverSome_error hError with ⟨_, h⟩
    exact absurd h (by simp)
  · exact Except.error.inj hError

theorem Conclusion.ofTransmission_ok
    {name : String}
    {t : Transmission}
    {r : BuildResult}
    (hOk : Conclusion.ofTransmission name t = .ok r) :
    Concludes name (.ok t) r := by
  unfold Conclusion.ofTransmission at hOk
  cases hParse : parseText t.text with
  | error f =>
      rw [hParse] at hOk
      exact absurd hOk (by simp)
  | ok p =>
      rw [hParse] at hOk
      cases hOk
      exact .transmitted t p hParse

theorem Conclusion.ofTransmission_error
    {name : String}
    {t : Transmission}
    {f : Failure}
    (hError : Conclusion.ofTransmission name t = .error f) :
    ∃ message, f = .value message := by
  unfold Conclusion.ofTransmission at hError
  cases hParse : parseText t.text with
  | error g =>
      rw [hParse] at hError
      cases hError
      exact parseText_error hParse
  | ok p =>
      rw [hParse] at hError
      exact absurd hError (by simp)

/- What a reply gives is concluded from its outcome. -/
def Conclusion.ofOutcome
    (name : String)
    (x : Except Failure Transmission) :
    Except Failure BuildResult :=
  match x with
  | .error f => Conclusion.ofFailure name f
  | .ok t => Conclusion.ofTransmission name t

theorem Conclusion.ofReply_eq
    (name : String)
    (format : OutputFormat)
    (reply : Except Failure Body) :
    Conclusion.ofReply name format reply =
      Conclusion.ofOutcome name
        ((Course.replied reply).outcome format) := by
  cases reply with
  | error f => rfl
  | ok body =>
      simp only [Conclusion.ofReply, Course.outcome]
      cases body.transmission format with
      | error f => rfl
      | ok t => rfl

theorem Conclusion.ofOutcome_ok
    {name : String}
    {x : Except Failure Transmission}
    {r : BuildResult}
    (hOk : Conclusion.ofOutcome name x = .ok r) :
    Concludes name x r := by
  cases x with
  | error f => exact Conclusion.ofFailure_ok hOk
  | ok t => exact Conclusion.ofTransmission_ok hOk

theorem Conclusion.ofOutcome_error
    {name : String}
    {x : Except Failure Transmission}
    {m : String}
    (hError :
      Conclusion.ofOutcome name x =
        .error (.build (.stagingFailed m))) :
    x = .error (.build (.stagingFailed m)) := by
  cases x with
  | error f =>
      exact congrArg Except.error
        (Conclusion.ofFailure_error hError)
  | ok t =>
      rcases Conclusion.ofTransmission_error hError with
        ⟨_, h⟩
      exact absurd h (by simp)

------------------------------------------------------------
-- Results of courses
------------------------------------------------------------

theorem Builder.rejection_ok
    {o : BuildOrder}
    {f : Failure}
    {r : BuildResult}
    (hOk : Builder.rejection o f = .ok r) :
    Concludes o.reference.fullName (.error f) r := by
  unfold Builder.rejection at hOk
  split at hOk
  · cases hOk
    exact .early _ _ (by simp [BuildError.code, earlyCodes])
  · cases hOk
    exact .early _ _ (by simp [BuildError.code, earlyCodes])
  · cases hOk
    exact .early _ _ (by simp [BuildError.code, earlyCodes])
  · exact absurd hOk (by simp)

/- Either staging failed, or the result was there. -/
theorem Builder.stagingResult_ok
    {o : BuildOrder}
    {x : Except Failure BuildResult}
    {r : BuildResult}
    (hOk : Builder.stagingResult o x = .ok r) :
    (∃ m, x = .error (.build (.stagingFailed m)) ∧
      Concludes o.reference.fullName
        (.error (.build (.stagingFailed m))) r) ∨
      x = .ok r := by
  unfold Builder.stagingResult at hOk
  split at hOk
  · cases hOk
    exact Or.inl ⟨_, rfl, .early _ _
      (by simp [BuildError.code, earlyCodes])⟩
  · exact Or.inr hOk

/- Every course that gives a result concludes with it. -/
theorem Course.concludes
    {o : BuildOrder}
    {format : OutputFormat}
    {c : Course}
    {r : BuildResult}
    (hOk : c.result o format = .ok r) :
    Concludes o.reference.fullName (c.outcome format) r := by
  cases c with
  | refused f => exact Builder.rejection_ok hOk
  | unstaged f =>
      rcases Builder.stagingResult_ok hOk with
        ⟨m, hFailure, hConcludes⟩ | hNone
      · cases hFailure
        exact hConcludes
      · exact absurd hNone (by simp)
  | replied reply =>
      rcases Builder.stagingResult_ok hOk with
        ⟨m, hFailure, hConcludes⟩ | hSome
      · rw [Conclusion.ofReply_eq] at hFailure
        rw [Conclusion.ofOutcome_error hFailure]
        exact hConcludes
      · rw [Conclusion.ofReply_eq] at hSome
        exact Conclusion.ofOutcome_ok hSome

end ContainerBuild
