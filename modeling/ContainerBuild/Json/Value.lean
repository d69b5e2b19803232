import ContainerBuild.Text.Quoted
import ContainerBuild.Text.Split
import ContainerBuild.Number.Decimal

/-
  This file defines JSON values. The fields of an object
  keep their order of first appearance, and a repeated name
  gives its field the later value. Integers and real numbers
  are kept apart, as they are written apart.

  Key definitions include:
    * `Value`
    * `Fields.set`
    * `Fields.get?`
    * `Value.isTruthy`
    * `Value.shown`
    * `Value.display`
-/

namespace ContainerBuild.Json

------------------------------------------------------------
-- Values
------------------------------------------------------------

/- A JSON value. -/
inductive Value
  | null
  | bool (b : Bool)
  | integer (n : Int)
  | real (x : Binary64)
  | text (s : String)
  | array (items : List Value)
  | object (fields : List (String × Value))
deriving Inhabited, Repr

------------------------------------------------------------
-- Fields
------------------------------------------------------------

namespace Fields

variable {α : Type}

/- Set a field, in its place if it is there already. -/
def set
    (name : String)
    (v : α)
    (fields : List (String × α)) : List (String × α) :=
  match fields with
  | [] => [(name, v)]
  | f :: rest =>
      if f.1 = name then
        (name, v) :: rest
      else
        f :: set name v rest

/- The value of a field. -/
def get?
    (name : String)
    (fields : List (String × α)) : Option α :=
  match fields with
  | [] => none
  | f :: rest =>
      if f.1 = name then
        some f.2
      else
        get? name rest

/- Whether a field is there. -/
def has
    (name : String)
    (fields : List (String × α)) : Bool :=
  (get? name fields).isSome

/- A field has the value that was set last. -/
theorem get?_set
    (name other : String)
    (v : α)
    (fields : List (String × α)) :
    get? other (set name v fields) =
      if name = other then
        some v
      else
        get? other fields := by
  induction fields with
  | nil => simp [set, get?]
  | cons f rest ih =>
      by_cases h : f.1 = name
      · by_cases ho : name = other
        · simp [set, h, ho, get?]
        · simp [set, h, ho, get?]
      · by_cases ho : name = other
        · subst ho
          simp [set, h, get?, ih]
        · simp [set, h, ho, get?, ih]

end Fields

namespace Value

/- A field of an object; other values have none. -/
def get?
    (name : String)
    (v : Value) : Option Value :=
  match v with
  | object fields => Fields.get? name fields
  | _ => none

/-
  Empty texts, arrays and objects, zeros, `false` and `null`
  count as absent.
-/
def isTruthy : Value → Bool
  | null => false
  | bool b => b
  | integer n => n != 0
  | real x => !x.isZero
  | text s => s != ""
  | array items => !items.isEmpty
  | object fields => !fields.isEmpty

------------------------------------------------------------
-- Display
------------------------------------------------------------

mutual

/- The value as shown within a message, texts in quotes. -/
def shown : Value → String
  | null => "None"
  | bool true => "True"
  | bool false => "False"
  | integer n => integerText n
  | real x => realText x
  | text s => Text.quoted s
  | array items =>
      "[" ++ Text.joinTexts ", " (shownItems items) ++ "]"
  | object fields =>
      "\x7b" ++ Text.joinTexts ", " (shownFields fields)
        ++ "\x7d"

/- The items of an array as shown. -/
def shownItems : List Value → List String
  | [] => []
  | v :: rest => shown v :: shownItems rest

/- The fields of an object as shown. -/
def shownFields : List (String × Value) → List String
  | [] => []
  | (name, v) :: rest =>
      (Text.quoted name ++ ": " ++ shown v)
        :: shownFields rest

end

/- The value as a message: a text stands for itself. -/
def display (v : Value) : String :=
  match v with
  | text s => s
  | other => shown other

end Value

end ContainerBuild.Json
