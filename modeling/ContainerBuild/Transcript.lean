import ContainerBuild.Report
import ContainerBuild.Failure
import ContainerBuild.Number.Literal
import ContainerBuild.Text.Blank

/-
  This file defines build transcripts, the text that a build
  prints, and the report that is recovered from one.

  A line that starts with the step mark begins a step. The
  arrow lines directly after it belong to the step and say
  whether the cache was used and which image was produced.
  Lines of any other kind are skipped. A line with the final
  image or an error ends the transcript.

  Key definitions include:
    * `Transcript.lines`
    * `Transcript.stepOfLine`
    * `Transcript.Scan`
    * `Transcript.scanLine`
    * `Transcript.scanLines`
    * `Parsed`
    * `Transcript.parse`
-/

namespace ContainerBuild

open Text

------------------------------------------------------------
-- Outcomes
------------------------------------------------------------

/-
  A report, and why it is not the report of a complete
  build, if it is not.
-/
structure Parsed where
  report : Report
  problem : Option BuildError
deriving DecidableEq, Repr

namespace Parsed

/- The transcript ended with a final image. -/
def complete (p : Parsed) : Bool :=
  p.problem.isNone

/- The transcript stopped before its last line. -/
def incomplete (p : Parsed) : Bool :=
  match p.problem with
  | some .incompleteOutput => true
  | _ => false

end Parsed

namespace Transcript

------------------------------------------------------------
-- Lines
------------------------------------------------------------

/- The mark of a line that begins a step. -/
def stepMark : List Char :=
  "Step ".toList

/- The mark of a line that names the final image. -/
def successMark : List Char :=
  "Successfully built ".toList

/- The mark of a line that reports an error. -/
def errorMark : List Char :=
  "Error".toList

/- The mark of a line that belongs to a step. -/
def arrowMark : List Char :=
  " ---> ".toList

/- The remark that the cache was used. -/
def cacheRemark : List Char :=
  "Using cache".toList

/- What stands between a step's number and its command. -/
def separator : List Char :=
  " : ".toList

/- Carriage returns at the end of a line do not count. -/
def dropReturns (cs : List Char) : List Char :=
  dropEnd (fun c => c = '\r') cs

/- The lines of a transcript. -/
def lines (cs : List Char) : List (List Char) :=
  (splitAll '\n' cs).map dropReturns

------------------------------------------------------------
-- Steps
------------------------------------------------------------

/- The digits of a step's number, after blanks. -/
def numberDigits (rest : List Char) : List Char :=
  (dropBlankStart rest).takeWhile isDigit

/- What follows the digits, or all if there are none. -/
def afterNumber (rest : List Char) : List Char :=
  if numberDigits rest = [] then
    rest
  else
    (dropBlankStart rest).dropWhile isDigit

/- The command of a step line after its mark. -/
def commandOf (rest : List Char) : List Char :=
  match splitText? separator rest with
  | some (_, command) => command
  | none => trimBlank (afterNumber rest)

/-
  The step that a line announces after its mark. Its number
  must not have too many digits.
-/
def stepOfLine
    (rest : List Char) : Except IntegerFault Step :=
  let ds := numberDigits rest
  if maxDigits < ds.length then
    .error (.tooLong ds.length)
  else
    .ok (Step.new (ofDigits ds)
      (String.ofList (commandOf rest)))

/- What an arrow line says, after its mark, about a step. -/
def annotate
    (remark : List Char)
    (s : Step) : Step :=
  if startsWith cacheRemark remark then
    ⟨s.number, s.command, true, s.imageId⟩
  else if remark != [] && !remark.any isBlank then
    ⟨s.number, s.command, s.usedCache,
      String.ofList remark⟩
  else
    s

------------------------------------------------------------
-- Scanning
------------------------------------------------------------

/-
  The steps that are done, last one first, and the step
  whose arrow lines may still follow.
-/
structure Scan where
  done : List Step
  current : Option Step

/- The steps of a scan in order. -/
def Scan.steps (s : Scan) : List Step :=
  match s.current with
  | none => s.done.reverse
  | some step => (step :: s.done).reverse

/- No further arrow line belongs to the current step. -/
def Scan.close (s : Scan) : Scan :=
  match s.current with
  | none => s
  | some step => ⟨step :: s.done, none⟩

/- What a line leads to. -/
inductive Advance
  | next (s : Scan)
  | ended (p : Parsed)
  | failed (fault : IntegerFault)

/- The message about an error line. -/
def errorText (message : List Char) : String :=
  match trimBlank message with
  | [] => "Build reported an error"
  | cs => String.ofList cs

/- Look at a line that belongs to no step. -/
def scanPlainLine
    (s : Scan)
    (line : List Char) : Advance :=
  match after? stepMark line with
  | some rest =>
      match stepOfLine rest with
      | .error fault => .failed fault
      | .ok step => .next ⟨s.close.done, some step⟩
  | none =>
      match after? successMark line with
      | some id =>
          .ended
            ⟨⟨"", String.ofList id, s.steps⟩, none⟩
      | none =>
          match after? errorMark line with
          | some message =>
              .ended
                ⟨⟨String.ofList message, "", s.steps⟩,
                  some (.errorReported (errorText message))⟩
          | none => .next s.close

/- Look at a line. -/
def scanLine
    (s : Scan)
    (line : List Char) : Advance :=
  match s.current, after? arrowMark line with
  | some step, some remark =>
      .next ⟨s.done, some (annotate remark step)⟩
  | _, _ => scanPlainLine s line

/- Look at the lines until one of them ends the scan. -/
def scanLines
    (s : Scan)
    (ls : List (List Char)) : Except IntegerFault Parsed :=
  match ls with
  | [] => .ok ⟨⟨"", "", s.steps⟩, some .incompleteOutput⟩
  | line :: rest =>
      match scanLine s line with
      | .next s' => scanLines s' rest
      | .ended p => .ok p
      | .failed fault => .error fault

/- The report of a transcript. -/
def parse (text : String) : Except IntegerFault Parsed :=
  scanLines ⟨[], none⟩ (lines text.toList)

end Transcript

end ContainerBuild
