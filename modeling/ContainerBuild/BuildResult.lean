import ContainerBuild.Failure
import ContainerBuild.Report
import ContainerBuild.Text.Split

/-
  This file defines the result of a build request: the
  report that could be recovered, if any, and the issues
  that came up, in order. A build succeeds if no issue is an
  error.

  Key definitions include:
    * `Severity`
    * `Issue`
    * `Issue.ofError`
    * `BuildResult`
    * `BuildResult.success`
    * `BuildResult.errorMessage`
-/

namespace ContainerBuild

------------------------------------------------------------
-- Issues
------------------------------------------------------------

/- How grave an issue is. -/
inductive Severity
  | error
  | warning
  | info
  | custom (label : String)
deriving DecidableEq, Repr

/- The label of a severity. -/
def Severity.label : Severity → String
  | error => "error"
  | warning => "warning"
  | info => "info"
  | custom label => label

/- The severity with a label. -/
def Severity.ofLabel (label : String) : Severity :=
  if label = "error" then
    error
  else if label = "warning" then
    warning
  else if label = "info" then
    info
  else
    custom label

/- Something that came up during a build. -/
structure Issue where
  code : String
  message : String
  severity : Severity
  subject : Option String
  details : Option String
deriving DecidableEq, Repr

namespace Issue

/- Whether an issue keeps a build from succeeding. -/
def isError (i : Issue) : Bool :=
  i.severity = .error

/- Whether an issue is a warning. -/
def isWarning (i : Issue) : Bool :=
  i.severity = .warning

/- The issue that an error is. -/
def ofError
    (e : BuildError)
    (severity : Severity)
    (subject details : Option String) : Issue :=
  ⟨e.code, e.message, severity, subject, details⟩

end Issue

------------------------------------------------------------
-- Results
------------------------------------------------------------

/- The result of a build request. -/
structure BuildResult where
  imageName : String
  report : Option Report
  issues : List Issue
deriving DecidableEq, Repr

namespace BuildResult

/- The result before anything came up. -/
def start (imageName : String) : BuildResult :=
  ⟨imageName, none, []⟩

/- Add an issue. -/
def addIssue
    (i : Issue)
    (r : BuildResult) : BuildResult :=
  ⟨r.imageName, r.report, r.issues ++ [i]⟩

/- Set the report. -/
def setReport
    (report : Report)
    (r : BuildResult) : BuildResult :=
  ⟨r.imageName, some report, r.issues⟩

/- Whether no issue is an error. -/
def success (r : BuildResult) : Bool :=
  !r.issues.any Issue.isError

/- The issues that are errors. -/
def errors (r : BuildResult) : List Issue :=
  r.issues.filter Issue.isError

/- The issues that are warnings. -/
def warnings (r : BuildResult) : List Issue :=
  r.issues.filter Issue.isWarning

/- The messages of all errors. -/
def errorMessage (r : BuildResult) : String :=
  Text.joinTexts "; " (r.errors.map Issue.message)

/- The final image, if one was built. -/
def finalImageId (r : BuildResult) : String :=
  match r.report with
  | some report => report.finalImageId
  | none => ""

end BuildResult

end ContainerBuild
