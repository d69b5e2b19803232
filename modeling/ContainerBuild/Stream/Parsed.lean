import ContainerBuild.Stream.Demux
import ContainerBuild.Transcript

/-
  This file defines the report of a build stream: that of
  its transcript, except that an error record takes the
  place of whatever the transcript ended with.

  Key definitions include:
    * `withRecord`
    * `parseText`
    * `parseBody`
-/

namespace ContainerBuild

/-
  Keep the message of an error record in a report that has
  neither an error nor a final image.
-/
def Report.withRecord
    (message : String)
    (r : Report) : Report :=
  if r.errorMessage = "" && r.finalImageId = "" then
    r.setError message
  else
    r

/- Parse a transcript; too long a number is a failure. -/
def parseText (text : String) : Except Failure Parsed :=
  match Transcript.parse text with
  | .ok p => .ok p
  | .error fault => .error (.value fault.message)

/- The report of a demuxed stream. -/
def Demuxed.parse (d : Demuxed) : Except Failure Parsed :=
  match parseText d.text with
  | .error f => .error f
  | .ok p =>
      match d.problem with
      | none => .ok p
      | some e =>
          .ok ⟨p.report.withRecord e.message, some e⟩

/- The report of a body. -/
def parseBody (b : Body) : Except Failure Parsed :=
  match b.demux with
  | .error f => .error f
  | .ok d => d.parse

end ContainerBuild
