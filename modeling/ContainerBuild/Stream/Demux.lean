import ContainerBuild.Stream.Body
import ContainerBuild.Json.Reader
import ContainerBuild.Text.Blank

/-
  This file defines the build stream of the engine, one JSON
  object a line, and the transcript that its fragments make
  up. An error record ends the stream; a line that is no
  JSON object, or a failure of the body, ends the reading,
  and the text so far goes with the error.

  Key definitions include:
    * `Record`
    * `Record.ofFields`
    * `readLine`
    * `Demuxed`
    * `Demux.run`
    * `Body.demux`
-/

namespace ContainerBuild

open Text

------------------------------------------------------------
-- Records
------------------------------------------------------------

/- What a record says. -/
inductive Record
  | fragment (s : String)
  | error (message : String) (code : Option ErrorCode)
  | other
deriving DecidableEq, Repr

/- The message of an error record that has none. -/
def unexplained : String :=
  "Build stream reported an error without a message"

/- A field that counts as present. -/
def truthy?
    (v : Option Json.Value) : Option Json.Value :=
  match v with
  | some v => if v.isTruthy then some v else none
  | none => none

/- The details of an error record. -/
def detailField?
    (name : String)
    (fields : List (String × Json.Value)) :
    Option Json.Value :=
  match Json.Fields.get? "errorDetail" fields with
  | some (.object detail) => Json.Fields.get? name detail
  | _ => none

/- The message of an error record, from either place. -/
def errorMessageOf
    (fields : List (String × Json.Value)) : String :=
  match truthy? (Json.Fields.get? "error" fields) with
  | some v => v.display
  | none =>
      match truthy? (detailField? "message" fields) with
      | some v => v.display
      | none => unexplained

/- The code of an error record. -/
def errorCodeOf
    (fields : List (String × Json.Value)) :
    Option ErrorCode :=
  match detailField? "code" fields with
  | some (.integer n) => some (.number n)
  | some (.bool b) => some (.flag b)
  | _ => none

/- Line feeds at the end of a message do not count. -/
def dropLineFeeds (s : String) : String :=
  String.ofList (dropEnd (fun c => c = '\n') s.toList)

/- The record with given fields. -/
def Record.ofFields
    (fields : List (String × Json.Value)) : Record :=
  if Json.Fields.has "error" fields
      || Json.Fields.has "errorDetail" fields then
    .error (dropLineFeeds (errorMessageOf fields))
      (errorCodeOf fields)
  else
    match Json.Fields.get? "stream" fields with
    | some (.text s) => .fragment s
    | _ => .other

------------------------------------------------------------
-- Lines
------------------------------------------------------------

/- What a line of the stream is. -/
inductive LineKind
  | blank
  | record (r : Record)
  | malformed (message : Nat → String)
  | tooDeep

/- How a message speaks of a line. -/
def lineOfStream (n : Nat) : String :=
  "Line " ++ numeral n ++ " of the build stream is not "

/- Read a line of the stream. -/
def readLine (line : String) : LineKind :=
  let cs := line.toList
  if cs.all isBlank then
    .blank
  else
    match Json.read cs with
    | .ok (.object fields) => .record (Record.ofFields fields)
    | .ok _ =>
        .malformed (fun n => lineOfStream n ++ "a JSON object")
    | .error .tooDeep => .tooDeep
    | .error fault =>
        .malformed
          (fun n =>
            lineOfStream n ++ "valid JSON: "
              ++ fault.message cs)

------------------------------------------------------------
-- Streams
------------------------------------------------------------

/-
  The text of a stream, the error record that ended it, and
  the number of records.
-/
structure Demuxed where
  text : String
  problem : Option BuildError
  records : Nat
deriving DecidableEq, Repr

/-
  The failure of a body, with the text so far. A failed
  build keeps the output it brings along itself.
-/
def attachOutput
    (text : String)
    (f : Failure) : Failure :=
  match f with
  | .build (.buildFailed m raw timedOut) =>
      .build (.buildFailed m (if raw = "" then text else raw)
        timedOut)
  | .build (.unreachable m _) =>
      .build (.unreachable m text)
  | other => other

/- Read the lines, the first of which has a given number. -/
def demuxLines
    (number : Nat)
    (text : String)
    (records : Nat)
    (failure : Option Failure)
    (ls : List String) : Except Failure Demuxed :=
  match ls with
  | [] =>
      match failure with
      | none => .ok ⟨text, none, records⟩
      | some f => .error (attachOutput text f)
  | line :: rest =>
      match readLine line with
      | .blank =>
          demuxLines (number + 1) text records failure rest
      | .malformed message =>
          .error (.build
            (.malformedRecord (message number) text number))
      | .tooDeep => .error .tooDeep
      | .record (.error message code) =>
          .ok ⟨text, some (.streamError message code),
            records + 1⟩
      | .record (.fragment s) =>
          demuxLines (number + 1) (text ++ s) (records + 1)
            failure rest
      | .record .other =>
          demuxLines (number + 1) text (records + 1)
            failure rest

/- The transcript that a body carries. -/
def Body.demux (b : Body) : Except Failure Demuxed :=
  let d := b.delivery
  demuxLines 1 "" 0 d.failure d.lines

end ContainerBuild
