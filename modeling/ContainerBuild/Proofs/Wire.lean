import ContainerBuild.Wire
import ContainerBuild.Proofs.Json.Readback
import ContainerBuild.Proofs.Json.Line

/-
  This file shows that the wire form of a build report loses
  nothing: every report that a series of edits leads to is
  read back from its wire form and from its line of text,
  and every wire form with all its fields, in whatever
  order, is that of the report read from it.

  Key definitions include:
    * `Json.Same`
    * `Step.IsWire`
    * `Report.IsWire`
    * `Report.Edit`
    * `Report.edited`
    * `Report.IsShort`

  Main statements:
    * `Report.ofWire_toWire`
    * `Report.IsShort.fits`
    * `Report.isShort_edited`
    * `Report.IsWire.read`
    * `wire_round_trips`
-/

namespace ContainerBuild

------------------------------------------------------------
-- Fields in any order
------------------------------------------------------------

namespace Json

mutual

/- The same value, but for the order of fields. -/
inductive Same : Value → Value → Prop
  | refl (v : Value) : Same v v
  | array {items others : List Value} :
      SameItems items others →
        Same (.array items) (.array others)
  | object
      {fields mid others : List (String × Value)} :
      SameFields fields mid →
      mid.Perm others →
        Same (.object fields) (.object others)

/- Item by item the same. -/
inductive SameItems : List Value → List Value → Prop
  | nil : SameItems [] []
  | cons {v w : Value} {items others : List Value} :
      Same v w →
      SameItems items others →
        SameItems (v :: items) (w :: others)

/- Field by field the same. -/
inductive SameFields :
    List (String × Value) → List (String × Value) → Prop
  | nil : SameFields [] []
  | cons
      {v w : Value}
      {fields others : List (String × Value)}
      (name : String) :
      Same v w →
      SameFields fields others →
        SameFields ((name, v) :: fields)
          ((name, w) :: others)

end

/- A field is found by its name, wherever it stands. -/
theorem Fields.get?_of_mem
    {name : String}
    {v : Value}
    {fields : List (String × Value)}
    (hNames : (fields.map Prod.fst).Nodup)
    (hMem : (name, v) ∈ fields) :
    Fields.get? name fields = some v := by
  induction fields with
  | nil => exact absurd hMem (by simp)
  | cons f rest ih =>
      rw [List.map_cons, List.nodup_cons] at hNames
      rcases List.mem_cons.mp hMem with rfl | hRest
      · exact if_pos rfl
      · have hLater : name ∈ rest.map Prod.fst :=
          List.mem_map.mpr ⟨(name, v), hRest, rfl⟩
        have hOther : f.1 ≠ name := by
          rintro rfl
          exact hNames.1 hLater
        rw [Fields.get?, if_neg hOther]
        exact ih hNames.2 hRest

/-
  What is found under a name does not depend on the order of
  the fields, as long as their names are different.
-/
theorem Fields.get?_of_perm
    {fields others : List (String × Value)}
    (hPerm : fields.Perm others)
    (hNames : (others.map Prod.fst).Nodup)
    {f : String × Value}
    (hMem : f ∈ others) :
    Fields.get? f.1 fields = some f.2 :=
  Fields.get?_of_mem
    ((hPerm.map Prod.fst).nodup_iff.mpr hNames)
    (hPerm.mem_iff.mpr hMem)

end Json

/- A field that is there under its wire name is read. -/
theorem readField_of_get?
    {α : Type}
    {wireName : String}
    {v : Json.Value}
    {fields : Fields}
    (hField : Json.Fields.get? wireName fields = some v)
    (convert : Field.Scalar → Except Field.Mismatch α)
    {a : α}
    (hValue : convert v.scalar = .ok a)
    (plainName : String)
    (default? : Option α) :
    readField wireName plainName convert default? fields =
      .ok a := by
  simp [readField, lookupField, hField, hValue]

------------------------------------------------------------
-- Steps
------------------------------------------------------------

/- A step is read from its fields in any order. -/
theorem Step.ofWire_of_perm
    {n : Int}
    (hNumber : 0 ≤ n)
    {command image : String}
    {cached : Bool}
    {fields : Fields}
    (hPerm :
      fields.Perm
        [("StepNumber", .integer n),
          ("Command", .text command),
          ("UsedCache", .bool cached),
          ("ProducedDockerImageId", .text image)]) :
    Step.ofWire (.object fields) =
      .ok ⟨n.toNat, command, cached, image⟩ := by
  have hGet :=
    fun f =>
      Json.Fields.get?_of_perm hPerm (by simp) (f := f)
  have hValue : stepNumber (.integer n) = .ok n.toNat :=
    if_neg (Int.not_lt.mpr hNumber)
  have hStep :=
    readField_of_get?
      (hGet ("StepNumber", .integer n) (by simp))
      stepNumber hValue "step_number" none
  have hCommand :=
    readField_of_get?
      (hGet ("Command", .text command) (by simp))
      Field.Scalar.toText rfl "command" none
  have hCached :=
    readField_of_get?
      (hGet ("UsedCache", .bool cached) (by simp))
      Field.Scalar.toFlag rfl "used_cache" (some false)
  have hImage :=
    readField_of_get?
      (hGet ("ProducedDockerImageId", .text image)
        (by simp))
      Field.Scalar.toText rfl "produced_image_id" (some "")
  simp only [Step.ofWire, Step.ofFields, hStep, hCommand,
    hCached, hImage]

theorem Step.ofWire_toWire (s : Step) :
    Step.ofWire s.toWire = .ok s :=
  Step.ofWire_of_perm (Int.natCast_nonneg s.number)
    (List.Perm.refl _)

/-
  The wire forms of steps: all fields, each of its own type,
  in any order.
-/
inductive Step.IsWire : Json.Value → Prop
  | mk
      {fields : Fields}
      {n : Int}
      (command image : String)
      (cached : Bool) :
      0 ≤ n →
      fields.Perm
        [("StepNumber", .integer n),
          ("Command", .text command),
          ("UsedCache", .bool cached),
          ("ProducedDockerImageId", .text image)] →
        IsWire (.object fields)

/- A wire form is that of the step read from it. -/
theorem Step.IsWire.read
    {v : Json.Value}
    (hWire : Step.IsWire v) :
    ∃ s, Step.ofWire v = .ok s ∧
      Json.Same s.toWire v := by
  rcases hWire with ⟨command, image, cached, hNumber, hPerm⟩
  refine ⟨_, Step.ofWire_of_perm hNumber hPerm, ?_⟩
  refine .object ?_ hPerm.symm
  rw [Int.toNat_of_nonneg hNumber]
  exact .cons _ (.refl _) (.cons _ (.refl _)
    (.cons _ (.refl _) (.cons _ (.refl _) .nil)))

/- Steps are read one after the other. -/
theorem stepsOfItems_of_map
    {items : List Json.Value}
    {steps : List Step}
    (hItems : items.map Step.ofWire = steps.map .ok)
    (i : Nat) :
    stepsOfItems i items = .ok steps := by
  induction items generalizing steps i with
  | nil =>
      rw [List.map_nil, eq_comm, List.map_eq_nil_iff]
        at hItems
      rw [hItems]
      rfl
  | cons v others ih =>
      rcases List.map_eq_cons_iff.mp hItems.symm with
        ⟨s, more, rfl, hFirst, hOthers⟩
      simp only [stepsOfItems, ← hFirst,
        ih hOthers.symm (i + 1)]

/- So are all wire forms of steps. -/
theorem Step.IsWire.readAll
    {items : List Json.Value}
    (hItems : ∀ v ∈ items, Step.IsWire v) :
    ∃ steps : List Step,
      items.map Step.ofWire = steps.map .ok ∧
        Json.SameItems (steps.map Step.toWire) items := by
  induction items with
  | nil => exact ⟨[], rfl, .nil⟩
  | cons v others ih =>
      rcases (hItems v (by simp)).read with
        ⟨s, hRead, hSame⟩
      rcases ih (fun w hMem => hItems w (by simp [hMem]))
        with ⟨steps, hOthers, hSames⟩
      refine ⟨s :: steps, ?_, .cons hSame hSames⟩
      rw [List.map_cons, List.map_cons, hRead, hOthers]

------------------------------------------------------------
-- Reports
------------------------------------------------------------

/- A report is read from its fields in any order. -/
theorem Report.ofWire_of_perm
    {message image : String}
    {items : List Json.Value}
    {steps : List Step}
    (hItems : items.map Step.ofWire = steps.map .ok)
    {fields : Fields}
    (hPerm :
      fields.Perm
        [("ErrorMessage", .text message),
          ("FinalDockerImageId", .text image),
          ("Steps", .array items)]) :
    Report.ofWire (.object fields) =
      .ok ⟨message, image, steps⟩ := by
  have hGet :=
    fun f =>
      Json.Fields.get?_of_perm hPerm (by simp) (f := f)
  have hMessage :=
    readField_of_get?
      (hGet ("ErrorMessage", .text message) (by simp))
      Field.Scalar.toText rfl "error_message" (some "")
  have hImage :=
    readField_of_get?
      (hGet ("FinalDockerImageId", .text image) (by simp))
      Field.Scalar.toText rfl "final_image_id" (some "")
  have hSteps : stepsOfFields fields = .ok steps := by
    have hArray := hGet ("Steps", .array items) (by simp)
    simp only [stepsOfFields, lookupField, hArray,
      stepsOfItems_of_map hItems 0]
  simp only [Report.ofWire, Report.ofFields, hMessage,
    hImage, hSteps]

theorem Report.ofWire_toWire (r : Report) :
    Report.ofWire r.toWire = .ok r := by
  refine Report.ofWire_of_perm ?_ (List.Perm.refl _)
  rw [List.map_map]
  exact List.map_congr_left
    (fun s _ => Step.ofWire_toWire s)

/-
  The wire forms of reports: all fields, each of its own
  type, in any order.
-/
inductive Report.IsWire : Json.Value → Prop
  | mk
      {fields : Fields}
      {items : List Json.Value}
      (message image : String) :
      (∀ v ∈ items, Step.IsWire v) →
      fields.Perm
        [("ErrorMessage", .text message),
          ("FinalDockerImageId", .text image),
          ("Steps", .array items)] →
        IsWire (.object fields)

/- A wire form is that of the report read from it. -/
theorem Report.IsWire.read
    {v : Json.Value}
    (hWire : Report.IsWire v) :
    ∃ r, Report.ofWire v = .ok r ∧
      Json.Same r.toWire v := by
  rcases hWire with ⟨message, image, hItems, hPerm⟩
  rcases Step.IsWire.readAll hItems with
    ⟨steps, hRead, hSame⟩
  refine ⟨_, Report.ofWire_of_perm hRead hPerm, ?_⟩
  refine .object ?_ hPerm.symm
  exact .cons _ (.refl _) (.cons _ (.refl _)
    (.cons _ (.array hSame) .nil))

------------------------------------------------------------
-- Edits
------------------------------------------------------------

namespace Report

/- What is done to a report that is being written. -/
inductive Edit
  | addStep (number : Nat) (command : String)
  | markCached (i : Nat)
  | setImageId (i : Nat) (id : String)
  | setFinalImage (id : String)
  | setError (message : String)

/- The report after an edit. -/
def edit
    (r : Report)
    (e : Edit) : Report :=
  match e with
  | .addStep number command =>
      r.addStep (Step.new number command)
  | .markCached i => r.markCached i
  | .setImageId i id => r.setImageId i id
  | .setFinalImage id => r.setFinalImage id
  | .setError message => r.setError message

/- The report that a series of edits leads to. -/
def edited (edits : List Edit) : Report :=
  edits.foldl edit empty

/- A number that a reader takes. -/
def IsShortNumber (n : Nat) : Prop :=
  (decimal n).length ≤ maxDigits

/- An edit with no longer step number. -/
def Edit.IsShort (e : Edit) : Prop :=
  match e with
  | .addStep number _ => IsShortNumber number
  | _ => True

/- A report with no longer step numbers. -/
def IsShort (r : Report) : Prop :=
  ∀ s ∈ r.steps, IsShortNumber s.number

/- Changing a step keeps the numbers if it keeps its own. -/
theorem IsShort.modifyStep
    {r : Report}
    (hShort : r.IsShort)
    {f : Step → Step}
    (hKeeps : ∀ s, (f s).number = s.number)
    (i : Nat) :
    (r.modifyStep i f).IsShort := by
  intro s hMem
  rcases List.mem_iff_getElem?.mp hMem with ⟨j, hAt⟩
  rw [Report.modifyStep, List.getElem?_modify] at hAt
  rcases Option.map_eq_some_iff.mp hAt with
    ⟨old, hOld, hSame⟩
  have hNumber : s.number = old.number := by
    rw [← hSame]
    split
    · exact hKeeps old
    · rfl
  rw [hNumber]
  exact hShort old (List.mem_of_getElem? hOld)

/- An edit with a short number keeps the others. -/
theorem IsShort.edit
    {r : Report}
    (hShort : r.IsShort)
    {e : Edit}
    (hEdit : e.IsShort) :
    (r.edit e).IsShort := by
  cases e with
  | addStep number command =>
      intro s hMem
      rcases List.mem_append.mp hMem with hOld | hNew
      · exact hShort s hOld
      · rw [List.mem_singleton.mp hNew]
        exact hEdit
  | markCached i =>
      refine hShort.modifyStep ?_ i
      exact fun _ => rfl
  | setImageId i id =>
      refine hShort.modifyStep ?_ i
      exact fun _ => rfl
  | setFinalImage id => exact hShort
  | setError message => exact hShort

/- So does a series of them, by induction on the series. -/
theorem isShort_edited
    {edits : List Edit}
    (hEdits : ∀ e ∈ edits, e.IsShort) :
    (edited edits).IsShort := by
  suffices hRun : ∀ r : Report, r.IsShort →
      (edits.foldl edit r).IsShort by
    exact hRun empty (by simp [IsShort, empty])
  induction edits with
  | nil => exact fun r hShort => hShort
  | cons e others ih =>
      intro r hShort
      exact ih (fun d hMem => hEdits d (by simp [hMem]))
        (r.edit e) (hShort.edit (hEdits e (by simp)))

------------------------------------------------------------
-- Lines of text
------------------------------------------------------------

open Json (Fits Limits)

/- The wire form of a short report is within the limits. -/
theorem IsShort.fits
    {r : Report}
    (hShort : r.IsShort)
    (level : Nat) :
    Fits Limits.standard (level + 3) r.toWire := by
  have hSteps : ∀ v ∈ r.steps.map Step.toWire,
      Fits Limits.standard (level + 1) v := by
    intro v hMem
    rcases List.mem_map.mp hMem with ⟨s, hStep, rfl⟩
    refine .object level _ (by simp) ?_
    simp only [List.forall_mem_cons, List.not_mem_nil,
      false_imp_iff, implies_true, and_true]
    exact ⟨.integer _ _ (hShort s hStep), .text _ _,
      .bool _ _, .text _ _⟩
  refine .object (level + 2) _ (by simp) ?_
  simp only [List.forall_mem_cons, List.not_mem_nil,
    false_imp_iff, implies_true, and_true]
  exact ⟨.text _ _, .text _ _,
    .array (level + 1) _ hSteps⟩

/- The line of a short report is read as its wire form. -/
theorem IsShort.read_toJson
    {r : Report}
    (hShort : r.IsShort) :
    Json.read r.toJson.toList = .ok r.toWire := by
  rw [toJson, Json.writeString, String.toList_ofList]
  exact Json.readWithin_write Json.Style.isPlain_compact
    (hShort.fits 987)

/- The line of a short report is one line. -/
theorem IsShort.isLine_toJson
    {r : Report}
    (hShort : r.IsShort) :
    Json.IsLine r.toJson.toList := by
  rw [toJson, Json.writeString, String.toList_ofList]
  exact Json.isLine_write Json.Style.isPlain_compact
    (hShort.fits 0)

end Report

/-
  A report that was edited with short step numbers is read
  back from its line of text, which has no control
  character, and from its wire form. Every wire form with
  all its fields is that of the report read from it.
-/
theorem wire_round_trips :
    (∀ edits : List Report.Edit,
      (∀ e ∈ edits, e.IsShort) →
        Json.read (Report.edited edits).toJson.toList =
            .ok (Report.edited edits).toWire ∧
          Report.ofWire (Report.edited edits).toWire =
            .ok (Report.edited edits) ∧
          Json.IsLine
            (Report.edited edits).toJson.toList) ∧
      ∀ w, Report.IsWire w →
        ∃ r, Report.ofWire w = .ok r ∧
          Json.Same r.toWire w := by
  refine ⟨?_, fun w hWire => hWire.read⟩
  intro edits hEdits
  have hShort := Report.isShort_edited hEdits
  exact ⟨hShort.read_toJson, Report.ofWire_toWire _,
    hShort.isLine_toJson⟩

/-
  Edits with quotation marks, backslashes, control characters
  and characters beyond sixteen bits.
-/
def Report.Edit.sample : List Report.Edit :=
  [.addStep 12 "RUN echo \"a\\b\"", .markCached 0,
    .setImageId 0 "\x00\x1f\x7f", .setError "\t\n\u2028",
    .setFinalImage "😀"]

/- A wire form with its fields in another order. -/
def Report.wireSample : Json.Value :=
  .object
    [("Steps",
        .array
          [.object
            [("UsedCache", .bool true),
              ("ProducedDockerImageId", .text ""),
              ("StepNumber", .integer 7),
              ("Command", .text "FROM x")]]),
      ("ErrorMessage", .text ""),
      ("FinalDockerImageId", .text "ca4d7b1b9a51")]

theorem wire_round_trips_sample :
    Json.read
          (Report.edited Report.Edit.sample).toJson.toList =
        .ok (Report.edited Report.Edit.sample).toWire ∧
      ∃ r, Report.ofWire Report.wireSample = .ok r ∧
        Json.Same r.toWire Report.wireSample := by
  have hShort : Report.IsShortNumber 12 := by
    have hTwo : decimal 12 = ['1', '2'] := by
      simp [decimal, digitSign]
    rw [Report.IsShortNumber, hTwo]
    decide
  have hEdits : ∀ e ∈ Report.Edit.sample, e.IsShort := by
    simp [Report.Edit.sample, Report.Edit.IsShort, hShort]
  have hFour : ∀ a b c d : String × Json.Value,
      ([a, b] ++ [c, d]).Perm ([c, d] ++ [a, b]) :=
    fun _ _ _ _ => List.perm_append_comm
  have hThree : ∀ a b c : String × Json.Value,
      ([a] ++ [b, c]).Perm ([b, c] ++ [a]) :=
    fun _ _ _ => List.perm_append_comm
  have hStep := Step.IsWire.mk "FROM x" "" true
    (by decide : (0 : Int) ≤ 7) (hFour _ _ _ _)
  have hWire : Report.IsWire Report.wireSample :=
    .mk "" "ca4d7b1b9a51"
      (List.forall_mem_singleton.mpr hStep) (hThree _ _ _)
  exact ⟨(wire_round_trips.1 Report.Edit.sample hEdits).1,
    wire_round_trips.2 Report.wireSample hWire⟩

end ContainerBuild
