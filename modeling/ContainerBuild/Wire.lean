import ContainerBuild.Report
import ContainerBuild.Field.Scalar
import ContainerBuild.Json.Writer

/-
  This file defines the wire form of build reports: an
  object with a fixed list of fields. Reading also accepts
  the fields under their plain names, takes what stands for
  a field's value without loss, ignores other fields, and
  otherwise lists every defect.

  Key definitions include:
    * `Report.toWire`
    * `Report.toJson`
    * `Step.ofFields`
    * `Report.ofWire`
-/

namespace ContainerBuild

open ContainerBuild.Field

------------------------------------------------------------
-- Writing
------------------------------------------------------------

/- The wire form of a step. -/
def Step.toWire (s : Step) : Json.Value :=
  .object
    [("StepNumber", .integer s.number),
      ("Command", .text s.command),
      ("UsedCache", .bool s.usedCache),
      ("ProducedDockerImageId", .text s.imageId)]

/- The wire form of a report. -/
def Report.toWire (r : Report) : Json.Value :=
  .object
    [("ErrorMessage", .text r.errorMessage),
      ("FinalDockerImageId", .text r.finalImageId),
      ("Steps", .array (r.steps.map Step.toWire))]

/- The wire form as one line of text. -/
def Report.toJson (r : Report) : String :=
  Json.writeString Json.Style.compact r.toWire

------------------------------------------------------------
-- Fields
------------------------------------------------------------

/- The scalar that a JSON value is. -/
def Json.Value.scalar : Json.Value → Scalar
  | .null => .null
  | .bool b => .flag b
  | .integer n => .integer n
  | .real x => .real x
  | .text s => .text s
  | .array _ => .other
  | .object _ => .other

/- The fields of an object that is being read. -/
abbrev Fields :=
  List (String × Json.Value)

/- A field by its wire name, or else by its plain name. -/
def lookupField
    (wireName plainName : String)
    (fields : Fields) : Option (String × Json.Value) :=
  match Json.Fields.get? wireName fields with
  | some v => some (wireName, v)
  | none =>
      match Json.Fields.get? plainName fields with
      | some v => some (plainName, v)
      | none => none

/- Read a field, or give the default where it is absent. -/
def readField
    {α : Type}
    (wireName plainName : String)
    (convert : Scalar → Except Mismatch α)
    (default? : Option α)
    (fields : Fields) : Except (List Defect) α :=
  match lookupField wireName plainName fields with
  | some (name, v) =>
      match convert v.scalar with
      | .ok a => .ok a
      | .error m => .error [⟨[.name name], m⟩]
  | none =>
      match default? with
      | some a => .ok a
      | none => .error [⟨[.name wireName], .missing⟩]

/- The defects of a field that was read. -/
def defectsOf
    {α : Type}
    (r : Except (List Defect) α) : List Defect :=
  match r with
  | .ok _ => []
  | .error defects => defects

/- A step number is an integer that is not negative. -/
def stepNumber (v : Scalar) : Except Mismatch Nat :=
  match v.toInteger with
  | .error m => .error m
  | .ok n =>
      if n < 0 then
        .error .negative
      else
        .ok n.toNat

------------------------------------------------------------
-- Reading
------------------------------------------------------------

/- Read a step from its fields. -/
def Step.ofFields
    (fields : Fields) : Except (List Defect) Step :=
  let number :=
    readField "StepNumber" "step_number"
      stepNumber none fields
  let command :=
    readField "Command" "command"
      Scalar.toText none fields
  let cached :=
    readField "UsedCache" "used_cache"
      Scalar.toFlag (some false) fields
  let image :=
    readField "ProducedDockerImageId" "produced_image_id"
      Scalar.toText (some "") fields
  match number, command, cached, image with
  | .ok n, .ok c, .ok u, .ok i => .ok ⟨n, c, u, i⟩
  | _, _, _, _ =>
      .error
        (defectsOf number ++ defectsOf command
          ++ defectsOf cached ++ defectsOf image)

/- Read a step. -/
def Step.ofWire
    (v : Json.Value) : Except (List Defect) Step :=
  match v with
  | .object fields => Step.ofFields fields
  | _ => .error [⟨[], .notModel "BuildStep"⟩]

/- Read the items of a list of steps, from a position on. -/
def stepsOfItems
    (i : Nat)
    (items : List Json.Value) :
    Except (List Defect) (List Step) :=
  match items with
  | [] => .ok []
  | v :: rest =>
      let first := Step.ofWire v
      let others := stepsOfItems (i + 1) rest
      match first, others with
      | .ok s, .ok ss => .ok (s :: ss)
      | _, _ =>
          .error
            (within (.index i) (defectsOf first)
              ++ defectsOf others)

/- Read the list of steps, which may be absent. -/
def stepsOfFields
    (fields : Fields) : Except (List Defect) (List Step) :=
  match lookupField "Steps" "steps" fields with
  | none => .ok []
  | some (name, .array items) =>
      match stepsOfItems 0 items with
      | .ok steps => .ok steps
      | .error defects => .error (within (.name name) defects)
  | some (name, _) => .error [⟨[.name name], .notList⟩]

/- Read a report from its fields. -/
def Report.ofFields
    (fields : Fields) : Except (List Defect) Report :=
  let message :=
    readField "ErrorMessage" "error_message"
      Scalar.toText (some "") fields
  let image :=
    readField "FinalDockerImageId" "final_image_id"
      Scalar.toText (some "") fields
  let steps := stepsOfFields fields
  match message, image, steps with
  | .ok m, .ok i, .ok ss => .ok ⟨m, i, ss⟩
  | _, _, _ =>
      .error
        (defectsOf message ++ defectsOf image
          ++ defectsOf steps)

/- Read a report. -/
def Report.ofWire
    (v : Json.Value) : Except (List Defect) Report :=
  match v with
  | .object fields => Report.ofFields fields
  | _ => .error [⟨[], .notModel "BuildOutput"⟩]

end ContainerBuild
