import ContainerBuild.Text.Split

/-
  This file defines what can be wrong with a field of
  structured data: where it stands, a code for the kind of
  mismatch, and its message.

  Key definitions include:
    * `Field.Place`
    * `Field.Mismatch`
    * `Field.Mismatch.code`
    * `Field.Mismatch.message`
    * `Field.Defect`
-/

namespace ContainerBuild.Field

/- One step on the way to a field. -/
inductive Place
  | name (s : String)
  | index (i : Nat)
deriving DecidableEq, Repr

/- How a value fails to be what its field holds. -/
inductive Mismatch
  | missing
  | notText
  | undecodableText
  | notInteger
  | unreadableInteger
  | fractionalInteger
  | infiniteInteger
  | oversizedInteger
  | negative
  | notReal
  | unreadableReal
  | notFlag
  | unreadableFlag
  | notList
  | notModel (name : String)
  | notChoice (choices : String)
  | rejected (reason : String)
deriving DecidableEq, Repr

/- The code of a mismatch. -/
def Mismatch.code : Mismatch → String
  | .missing => "missing"
  | .notText => "string_type"
  | .undecodableText => "string_unicode"
  | .notInteger => "int_type"
  | .unreadableInteger => "int_parsing"
  | .fractionalInteger => "int_from_float"
  | .infiniteInteger => "finite_number"
  | .oversizedInteger => "int_parsing_size"
  | .negative => "greater_than_equal"
  | .notReal => "float_type"
  | .unreadableReal => "float_parsing"
  | .notFlag => "bool_type"
  | .unreadableFlag => "bool_parsing"
  | .notList => "list_type"
  | .notModel _ => "model_type"
  | .notChoice _ => "literal_error"
  | .rejected _ => "value_error"

/- The message about a mismatch. -/
def Mismatch.message : Mismatch → String
  | .missing => "Field required"
  | .notText => "Input should be a valid string"
  | .undecodableText =>
      "Input should be a valid string, unable to parse "
        ++ "raw data as a unicode string"
  | .notInteger => "Input should be a valid integer"
  | .unreadableInteger =>
      "Input should be a valid integer, unable to parse "
        ++ "string as an integer"
  | .fractionalInteger =>
      "Input should be a valid integer, got a number with "
        ++ "a fractional part"
  | .infiniteInteger => "Input should be a finite number"
  | .oversizedInteger =>
      "Unable to parse input string as an integer, "
        ++ "exceeded maximum size"
  | .negative =>
      "Input should be greater than or equal to 0"
  | .notReal => "Input should be a valid number"
  | .unreadableReal =>
      "Input should be a valid number, unable to parse "
        ++ "string as a number"
  | .notFlag => "Input should be a valid boolean"
  | .unreadableFlag =>
      "Input should be a valid boolean, unable to "
        ++ "interpret input"
  | .notList => "Input should be a valid list"
  | .notModel name =>
      "Input should be a valid dictionary or instance of "
        ++ name
  | .notChoice choices => "Input should be " ++ choices
  | .rejected reason => "Value error, " ++ reason

/- A mismatch and where it was found. -/
structure Defect where
  place : List Place
  mismatch : Mismatch
deriving DecidableEq, Repr

/- The defects of a part, seen from the whole. -/
def within
    (p : Place)
    (defects : List Defect) : List Defect :=
  defects.map (fun d => ⟨p :: d.place, d.mismatch⟩)

end ContainerBuild.Field
