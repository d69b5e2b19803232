import ContainerBuild.Proofs.Builder.Interruption
import ContainerBuild.Proofs.Engine

/-
  This file says what a build by a command comes to for every
  way in which the command ends: its output is returned only
  if it reported success, and kept with the error otherwise.
  The builder tells a failed build as its only issue, with
  the report of the output that was kept.

  Key definitions include:
    * `Outcome.Succeeds`
    * `Outcome.IsMissing`
    * `Outcome.Expires`
    * `Outcome.transcript`
    * `CommandResult.Tells`
    * `LocalEngine.Judges`

  Main statements:
    * `CommandResult.exists_tells`
    * `LocalEngine.judges_build`
    * `verdict_follows_outcome`
-/

namespace ContainerBuild

open Text

------------------------------------------------------------
-- Ways to end
------------------------------------------------------------

namespace Outcome

/- The command ended and reported success. -/
def Succeeds (x : Outcome) : Prop :=
  ∃ output errors, x = .finished 0 output errors

/- The system has no such program. -/
def IsMissing (x : Outcome) : Prop :=
  ∃ text subject, x = .refused (.numbered 2 text subject)

/- The time was up before the command ended. -/
def Expires (x : Outcome) : Prop :=
  ∃ output errors, x = .expired output errors

/- What arrived, if anything did, as a text. -/
def arrivedText (c : Option Chunk) : String :=
  match c with
  | none => ""
  | some c => lineText c.bytes

/-
  What the command wrote, errors last, or else what the
  system said.
-/
def transcript : Outcome → String
  | finished _ output errors =>
      output.getD "" ++ errors.getD ""
  | expired output errors =>
      arrivedText output ++ arrivedText errors
  | refused e => e.message
  | failed _ => ""

end Outcome

------------------------------------------------------------
-- Results of commands
------------------------------------------------------------

namespace CommandResult

/- A text that arrived is the text of its own octets. -/
theorem partialText_eq (c : Option Chunk) :
    partialText c = Outcome.arrivedText c := by
  cases c with
  | none => rfl
  | some c =>
      cases c with
      | text s => exact (lineText_utf8 s).symm
      | octets bs => rfl

/- The result of a command tells how it ended. -/
structure Tells
    (x : Outcome)
    (r : CommandResult) : Prop where
  available : r.toolAvailable = false ↔ x.IsMissing
  timedOut : r.timedOut = true ↔ x.Expires
  succeeded : r.succeeded = true ↔ x.Succeeds
  combined : ¬ x.IsMissing → r.combined = x.transcript

/- A refusal is a missing program or one that may not run. -/
theorem isMissing_iff {e : SystemError} :
    isMissing e = true ↔ (Outcome.refused e).IsMissing := by
  cases e with
  | plain text => simp [isMissing, Outcome.IsMissing]
  | numbered number text subject =>
      simp [isMissing, Outcome.IsMissing]

/- Every command that ends has a result that tells so. -/
theorem exists_tells
    {ending : Ending}
    (hEnds : ∀ f, ending.outcome ≠ .failed f)
    (program : String)
    (arguments : List String) :
    ∃ r, ofEnding (program :: arguments) ending = .ok r ∧
      r.Tells ending.outcome := by
  unfold ofEnding
  cases hOutcome : ending.outcome with
  | finished code output errors =>
      refine ⟨_, rfl, ?_, ?_, ?_, fun _ => rfl⟩
      · simp [Outcome.IsMissing]
      · simp [Outcome.Expires]
      · simp [succeeded, Outcome.Succeeds]
  | expired output errors =>
      refine ⟨_, rfl, ?_, ?_, ?_, fun _ => ?_⟩
      · simp [Outcome.IsMissing]
      · simp [Outcome.Expires]
      · simp [succeeded, Outcome.Succeeds]
      · simp only [combined, Outcome.transcript,
          partialText_eq]
  | refused e =>
      unfold ofRefusal
      simp only
      by_cases hMissing : isMissing e = true
      · rw [if_pos hMissing]
        have hNone := isMissing_iff.mp hMissing
        refine ⟨_, rfl, ?_, ?_, ?_, fun hOther => ?_⟩
        · simp [hNone]
        · simp [Outcome.Expires]
        · simp [succeeded, Outcome.Succeeds]
        · exact absurd hNone hOther
      · rw [if_neg hMissing]
        have hSome := mt isMissing_iff.mpr hMissing
        refine ⟨_, rfl, ?_, ?_, ?_, fun _ => ?_⟩
        · simp [hSome]
        · simp [Outcome.Expires]
        · simp [succeeded, Outcome.Succeeds]
        · exact String.empty_append
  | failed f => exact absurd hOutcome (hEnds f)

end CommandResult

------------------------------------------------------------
-- Verdicts
------------------------------------------------------------

namespace LocalEngine

/-
  What a build gives agrees with how its command ended:
  output for a success, an engine out of reach for a missing
  program, and for all else a failed build that keeps what
  is known.
-/
structure Judges
    (x : Outcome)
    (built : Except Failure String) : Prop where
  succeeds :
    ∀ text, built = .ok text ↔
      x.Succeeds ∧ text = x.transcript
  unreachable :
    (∃ m text,
      built = .error (.build (.unreachable m text))) ↔
      x.IsMissing
  fails :
    ¬ x.Succeeds → ¬ x.IsMissing →
      ∃ m timedOut,
        built =
          .error (.build
            (.buildFailed m x.transcript timedOut)) ∧
        (timedOut = true ↔ x.Expires)

variable {σ : Type}
variable {x : Outcome}
variable {r : CommandResult}

theorem Judges.of_succeeds
    (hSucceeds : x.Succeeds) :
    Judges x (.ok x.transcript) where
  succeeds := by simp [hSucceeds, eq_comm]
  unreachable := by
    rcases hSucceeds with ⟨output, errors, rfl⟩
    simp [Outcome.IsMissing]
  fails := fun hFails => absurd hSucceeds hFails

theorem Judges.of_isMissing
    (hMissing : x.IsMissing)
    (m text : String) :
    Judges x (.error (.build (.unreachable m text))) where
  succeeds := by
    rcases hMissing with ⟨reason, subject, rfl⟩
    simp [Outcome.Succeeds]
  unreachable := by simp [hMissing]
  fails := fun _ hOther => absurd hMissing hOther

theorem Judges.of_fails
    {timedOut : Bool}
    (hFails : ¬ x.Succeeds)
    (hFound : ¬ x.IsMissing)
    (hTimedOut : timedOut = true ↔ x.Expires)
    (m : String) :
    Judges x
      (.error (.build
        (.buildFailed m x.transcript timedOut))) where
  succeeds := by simp [hFails]
  unreachable := by simp [hFound]
  fails := fun _ _ => ⟨m, timedOut, rfl, hTimedOut⟩

/- What is made of the result of a command. -/
def concluded
    (e : LocalEngine)
    (r : CommandResult) : Except Failure String :=
  match e.verdict r with
  | .ok text => .ok text
  | .error problem => .error (.build problem)

/-
  The flags of the result are looked at in this order: is
  there a program, was there time, was there success.
-/
theorem judges_concluded
    (hTells : r.Tells x)
    (e : LocalEngine) :
    Judges x (e.concluded r) := by
  unfold concluded verdict
  by_cases hMissing : x.IsMissing
  · have hNone := hTells.available.mpr hMissing
    simp only [hNone, Bool.not_false, if_true]
    exact .of_isMissing hMissing _ _
  · have hFound : r.toolAvailable = true := by
      simpa using mt hTells.available.mp hMissing
    have hKept := hTells.combined hMissing
    simp only [hFound, Bool.not_true, Bool.false_eq_true,
      if_false, hKept]
    by_cases hSucceeded : r.succeeded = true
    · have hInTime : r.timedOut = false := by
        simp only [CommandResult.succeeded, Bool.and_eq_true,
          Bool.not_eq_true'] at hSucceeded
        exact hSucceeded.1.2
      simp only [hInTime, Bool.false_eq_true, if_false,
        hSucceeded, if_true]
      exact .of_succeeds (hTells.succeeded.mp hSucceeded)
    · have hFails := mt hTells.succeeded.mpr hSucceeded
      cases hExpired : r.timedOut with
      | true =>
          exact .of_fails hFails hMissing
            (by rw [← hTells.timedOut, hExpired]) _
      | false =>
          simp only [Bool.false_eq_true, if_false, hSucceeded]
          exact .of_fails hFails hMissing
            (by rw [← hTells.timedOut, hExpired]) _

/- A build concludes from the result of its command. -/
theorem judges_build
    {launch : Launcher σ}
    {parent : Environment}
    {ending : Ending}
    {request : BuildRequest}
    {s t : σ}
    (e : LocalEngine)
    (hLaunch :
      launch ((e.request request).launch parent) s =
        (.ok ending, t))
    (hEnds : ∀ f, ending.outcome ≠ .failed f) :
    Judges ending.outcome
      (e.build (CommandRequest.run launch parent) request
        s).1 := by
  rcases CommandResult.exists_tells hEnds e.binary _ with
    ⟨r, hResult, hTells⟩
  have hRun :
      CommandRequest.run launch parent (e.request request)
          s = (.ok r, t) := by
    unfold CommandRequest.run
    rw [Action.next_of_ok hLaunch]
    exact congrArg (·, t) hResult
  have hBuilt :
      (e.build (CommandRequest.run launch parent) request
        s).1 = e.concluded r := by
    unfold build concluded
    rw [Action.next_of_ok hRun]
    cases e.verdict r <;> rfl
  rw [hBuilt]
  exact judges_concluded hTells e

/- A build that fails is a reply that fails. -/
theorem reply_of_build_error
    {e : LocalEngine}
    {run : Runner σ}
    {request : BuildRequest}
    {s : σ}
    {f : Failure}
    (hBuild : (e.build run request s).1 = .error f) :
    ((e.backend run).reply request s).1 = .error f :=
  Action.fst_next_of_error
    (Action.fst_next_of_error hBuild _) _

end LocalEngine

/- The result of a reply that is a failed build. -/
theorem Course.result_of_buildFailed
    {m raw : String}
    {timedOut : Bool}
    {p : Parsed}
    (o : BuildOrder)
    (format : OutputFormat)
    (hParse : parseText raw = .ok p) :
    (Course.replied (.error
        (.build (.buildFailed m raw timedOut)))).result o
          format =
      .ok
        ⟨o.reference.fullName,
          if raw = "" then none else some p.report,
          [Issue.ofError (.buildFailed m raw timedOut) .error
            (some o.reference.fullName)
            (Conclusion.textOrNone raw)]⟩ := by
  simp only [Course.result, Conclusion.ofReply,
    Conclusion.ofFailure,
    BuildResult.recoverSome_of_parse _ hParse]
  rfl

/-
  An order that is sent to a command, which ends in some way.
  The output is returned exactly if the command reported
  success, the engine is out of reach exactly if there is no
  such program, and otherwise the build failed, in time or
  not, with the output so far or the words of the system.
  Whenever the build failed, that is the only issue of the
  result, and the report is that of the text that was kept,
  unless there is none.
-/
theorem verdict_follows_outcome
    {σ : Type}
    {b : Builder σ}
    {o : BuildOrder}
    {s staged t : σ}
    {c : BuildContext}
    {launch : Launcher σ}
    {parent : Environment}
    {ending : Ending}
    (e : LocalEngine)
    (hStages : b.Stages o s c staged)
    (hLaunch :
      launch ((e.request (b.job o c)).launch parent) staged =
        (.ok ending, t))
    (hEnds : ∀ f, ending.outcome ≠ .failed f) :
    LocalEngine.Judges ending.outcome
        (e.build (CommandRequest.run launch parent)
          (b.job o c) staged).1 ∧
      ∀ m raw timedOut,
        (e.build (CommandRequest.run launch parent)
            (b.job o c) staged).1 =
          .error (.build (.buildFailed m raw timedOut)) →
        ∀ p, parseText raw = .ok p →
          ((b.withBackend
              (e.backend
                (CommandRequest.run launch parent))).build
                  o s).1 =
            .ok
              ⟨o.reference.fullName,
                if raw = "" then none else some p.report,
                [Issue.ofError (.buildFailed m raw timedOut)
                  .error (some o.reference.fullName)
                  (Conclusion.textOrNone raw)]⟩ := by
  refine ⟨e.judges_build hLaunch hEnds, ?_⟩
  intro m raw timedOut hBuild p hParse
  have hReply :
      ((b.withBackend
          (e.backend (CommandRequest.run launch parent))).reply
            o c staged).1 =
        .error (.build (.buildFailed m raw timedOut)) :=
    LocalEngine.reply_of_build_error hBuild
  rw [(hStages.withBackend _).build, hReply]
  exact Course.result_of_buildFailed o _ hParse

/- A command whose time is up after some octets. -/
def Outcome.late : Outcome :=
  .expired
    (some (.octets (utf8 "Step 1 : FROM a\n" ++ [0xFF]))) none

/- It runs that command, whatever it is asked for. -/
def Launcher.late : Launcher Disk :=
  fun _ => Action.give ⟨.late, .zero⟩

/- The engine behind that command. -/
def LocalEngine.sample : LocalEngine :=
  ⟨"docker", true⟩

/- The step is kept, and the octet that is no text replaced. -/
theorem verdict_follows_outcome_late :
    ∃ m,
      (LocalEngine.sample.build
          (CommandRequest.run .late [])
          ⟨⟨⟨"/", []⟩, "Dockerfile"⟩, "realm/tools:demo",
            none⟩ .blank).1 =
        .error (.build
          (.buildFailed m "Step 1 : FROM a\n\uFFFD" true)) ∧
      ((Builder.bare (LocalEngine.sample.backend
          (CommandRequest.run .late []))).build .sample
            .blank).1 =
        .ok
          ⟨"realm/tools:demo",
            some ⟨"", "", [⟨1, "FROM a", false, ""⟩]⟩,
            [⟨"BUILD_FAILED", m, .error,
              some "realm/tools:demo",
              some "Step 1 : FROM a\n\uFFFD"⟩]⟩ := by
  have hStages :=
    Builder.bare_stages
      (.giving .text (.whole (.text ""))) .sample .blank rfl
  have hText :
      Outcome.late.transcript =
        "Step 1 : FROM a\n\uFFFD" := by
    decide +kernel
  have hParse :
      parseText "Step 1 : FROM a\n\uFFFD" =
        .ok
          ⟨⟨"", "", [⟨1, "FROM a", false, ""⟩]⟩,
            some .incompleteOutput⟩ :=
    rfl
  have hLaunch :
      ∀ l : Launch,
        Launcher.late l .blank =
          (.ok ⟨.late, .zero⟩, .blank) :=
    fun _ => rfl
  have hEnds : ∀ f, Outcome.late ≠ .failed f := by
    simp [Outcome.late]
  rcases verdict_follows_outcome .sample hStages
      (hLaunch (CommandRequest.launch [] _)) hEnds with
    ⟨hJudges, hResult⟩
  rcases hJudges.fails
      (by simp [Outcome.Succeeds, Outcome.late])
      (by simp [Outcome.IsMissing, Outcome.late]) with
    ⟨m, timedOut, hBuild, hExpires⟩
  have hTimedOut : timedOut = true :=
    hExpires.mpr ⟨_, _, rfl⟩
  subst hTimedOut
  rw [hText] at hBuild
  exact ⟨m, hBuild, hResult m _ true hBuild _ hParse⟩

end ContainerBuild
