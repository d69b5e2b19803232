/-
  This file defines build reports: the steps that a build
  went through, in order, and how it ended.

  Key definitions include:
    * `Step`
    * `Report`
    * `Report.addStep`
    * `Report.modifyStep`
    * `Report.completed`
-/

namespace ContainerBuild

/- One instruction that a build executed. -/
structure Step where
  number : Nat
  command : String
  usedCache : Bool
  imageId : String
deriving DecidableEq, Repr, Inhabited

/- A step as it is announced. -/
def Step.new
    (number : Nat)
    (command : String) : Step :=
  ⟨number, command, false, ""⟩

/-
  The steps of a build with the final image, if it was
  built, or the error message, if there is one.
-/
structure Report where
  errorMessage : String
  finalImageId : String
  steps : List Step
deriving DecidableEq, Repr, Inhabited

namespace Report

/- The report of nothing. -/
def empty : Report :=
  ⟨"", "", []⟩

/- Append a step. -/
def addStep
    (step : Step)
    (r : Report) : Report :=
  ⟨r.errorMessage, r.finalImageId, r.steps ++ [step]⟩

/- Change the step at a position. -/
def modifyStep
    (i : Nat)
    (f : Step → Step)
    (r : Report) : Report :=
  ⟨r.errorMessage, r.finalImageId, r.steps.modify i f⟩

/- Note that a step's result was found in the cache. -/
def markCached
    (i : Nat)
    (r : Report) : Report :=
  r.modifyStep i
    (fun s => ⟨s.number, s.command, true, s.imageId⟩)

/- Note the image that a step produced. -/
def setImageId
    (i : Nat)
    (id : String)
    (r : Report) : Report :=
  r.modifyStep i
    (fun s => ⟨s.number, s.command, s.usedCache, id⟩)

/- Note the final image. -/
def setFinalImage
    (id : String)
    (r : Report) : Report :=
  ⟨r.errorMessage, id, r.steps⟩

/- Note the error message. -/
def setError
    (message : String)
    (r : Report) : Report :=
  ⟨message, r.finalImageId, r.steps⟩

/- Whether a final image was built. -/
def completed (r : Report) : Bool :=
  r.finalImageId != ""

end Report

end ContainerBuild
