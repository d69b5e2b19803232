import ContainerBuild.Backend
import ContainerBuild.BuildResult
import ContainerBuild.Stream.Parsed

/-
  This file defines what is concluded from the reply of a
  backend: the report that its transcript gives and the
  issues that come with it. An error record of the stream
  comes before any error of the transcript, and a failed
  reply leaves the report of what had arrived.

  Key definitions include:
    * `Transmission`
    * `Body.transmission`
    * `BuildResult.record`
    * `Conclusion.ofTransmission`
    * `Conclusion.ofFailure`
    * `Conclusion.ofReply`
-/

namespace ContainerBuild

------------------------------------------------------------
-- Transmissions
------------------------------------------------------------

/- A transcript and the error record that came with it. -/
structure Transmission where
  text : String
  problem : Option BuildError
deriving DecidableEq, Repr

/- A body that is meant to be the transcript itself. -/
def Body.plainText : Body → Except Failure String
  | .whole (.text s) => .ok s
  | .whole (.octets _) => .error .wrongKind
  | .chunks _ _ => .error .missingPart
  | .numbers _ => .error .missingPart

/- What a body transmits in a format. -/
def Body.transmission
    (format : OutputFormat)
    (b : Body) : Except Failure Transmission :=
  match format with
  | .text =>
      match b.plainText with
      | .ok s => .ok ⟨s, none⟩
      | .error f => .error f
  | .records =>
      match b.demux with
      | .ok d => .ok ⟨d.text, d.problem⟩
      | .error f => .error f

------------------------------------------------------------
-- Recording
------------------------------------------------------------

/- What is said of a transcript without a final image. -/
def incompleteDetails : String :=
  "Build output ended before a final image id; "
    ++ "the step list may be partial."

namespace BuildResult

/- The message of the last issue. -/
def lastMessage (r : BuildResult) : String :=
  match r.issues.getLast? with
  | some i => i.message
  | none => ""

/- Whether a report says how its build ended. -/
def saysNothing (report : Report) : Bool :=
  report.errorMessage = "" && report.finalImageId = ""

/- The issue that the end of a transcript is. -/
def problemIssue
    (subject : String)
    (e : BuildError) : Issue :=
  match e with
  | .incompleteOutput =>
      Issue.ofError e .warning (some subject)
        (some incompleteDetails)
  | other => Issue.ofError other .error (some subject) none

/- Whether an error is only that the transcript stopped. -/
def isIncomplete : BuildError → Bool
  | .incompleteOutput => true
  | _ => false

/-
  Record the report of a transcript. If there is an error
  already, its message goes into a report that says nothing,
  and a transcript that stopped is no further issue.
-/
def record
    (subject : String)
    (p : Parsed)
    (r : BuildResult) : BuildResult :=
  if !r.success && saysNothing p.report then
    r.setReport (p.report.setError r.lastMessage)
  else
    match p.problem with
    | none => r.setReport p.report
    | some e =>
        if !r.success && isIncomplete e then
          r.setReport p.report
        else
          (r.setReport p.report).addIssue
            (problemIssue subject e)

/- Add the issue of an error record, if there is one. -/
def addProblem
    (subject : String)
    (problem : Option BuildError)
    (r : BuildResult) : BuildResult :=
  match problem with
  | none => r
  | some e =>
      r.addIssue (Issue.ofError e .error (some subject) none)

/- Set the report of what could be recovered. -/
def recover
    (text : String)
    (r : BuildResult) : Except Failure BuildResult :=
  match parseText text with
  | .ok p => .ok (r.setReport p.report)
  | .error f => .error f

/- Recover from a text unless it is empty. -/
def recoverSome
    (text : String)
    (r : BuildResult) : Except Failure BuildResult :=
  if text = "" then
    .ok r
  else
    r.recover text

end BuildResult

------------------------------------------------------------
-- Conclusions
------------------------------------------------------------

namespace Conclusion

/- The result of a build with one error. -/
def withError
    (imageName : String)
    (e : BuildError)
    (details : Option String) : BuildResult :=
  (BuildResult.start imageName).addIssue
    (Issue.ofError e .error (some imageName) details)

/- A text unless it is empty. -/
def textOrNone (s : String) : Option String :=
  if s = "" then none else some s

/- The result of what was transmitted. -/
def ofTransmission
    (imageName : String)
    (t : Transmission) : Except Failure BuildResult :=
  match parseText t.text with
  | .error f => .error f
  | .ok p =>
      .ok (((BuildResult.start imageName).addProblem imageName
        t.problem).record imageName p)

/-
  The result of a failed reply. The failures of building
  that a backend is known for are issues; others are not
  met here.
-/
def ofFailure
    (imageName : String)
    (f : Failure) : Except Failure BuildResult :=
  match f with
  | .build (.buildFailed m raw timedOut) =>
      (withError imageName (.buildFailed m raw timedOut)
        (textOrNone raw)).recoverSome raw
  | .build (.malformedRecord m text number) =>
      (withError imageName (.malformedRecord m text number)
        none).recover text
  | .build (.unreachable m text) =>
      (withError imageName (.unreachable m text)
        none).recoverSome text
  | other => .error other

/- The result of a reply. -/
def ofReply
    (imageName : String)
    (format : OutputFormat)
    (reply : Except Failure Body) :
    Except Failure BuildResult :=
  match reply with
  | .error f => ofFailure imageName f
  | .ok b =>
      match b.transmission format with
      | .error f => ofFailure imageName f
      | .ok t => ofTransmission imageName t

end Conclusion

end ContainerBuild
