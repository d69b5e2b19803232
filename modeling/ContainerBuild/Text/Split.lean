/-
  This file defines the cutting and joining of text at
  separators.

  Key definitions include:
    * `splitAll`
    * `splitFirst?`
    * `splitText?`
    * `after?`
    * `joinWith`
-/

namespace ContainerBuild.Text

variable {α : Type}

------------------------------------------------------------
-- Cutting
------------------------------------------------------------

/- The pieces between the occurrences of a separator. -/
def splitAll
    [DecidableEq α]
    (sep : α) : List α → List (List α)
  | [] => [[]]
  | x :: xs =>
      if x = sep then
        [] :: splitAll sep xs
      else
        match splitAll sep xs with
        | [] => [[x]]
        | p :: ps => (x :: p) :: ps

/- What stands before and after the first separator. -/
def splitFirst?
    [DecidableEq α]
    (sep : α) : List α → Option (List α × List α)
  | [] => none
  | x :: xs =>
      if x = sep then
        some ([], xs)
      else
        match splitFirst? sep xs with
        | none => none
        | some (before, rest) => some (x :: before, rest)

/- What follows a given beginning. -/
def after?
    [DecidableEq α]
    (start : List α)
    (xs : List α) : Option (List α) :=
  match start, xs with
  | [], xs => some xs
  | _ :: _, [] => none
  | s :: ss, x :: xs =>
      if s = x then
        after? ss xs
      else
        none

/- Whether a list begins with another. -/
def startsWith
    [DecidableEq α]
    (start : List α)
    (xs : List α) : Bool :=
  (after? start xs).isSome

/- What stands before and after a first occurrence. -/
def splitText?
    [DecidableEq α]
    (sep : List α)
    (xs : List α) : Option (List α × List α) :=
  match after? sep xs with
  | some rest => some ([], rest)
  | none =>
      match xs with
      | [] => none
      | x :: tail =>
          match splitText? sep tail with
          | none => none
          | some (before, rest) => some (x :: before, rest)

/- Whether a list occurs within another. -/
def occursIn
    [DecidableEq α]
    (part : List α)
    (xs : List α) : Bool :=
  (splitText? part xs).isSome

------------------------------------------------------------
-- Joining
------------------------------------------------------------

/- Join pieces with a separator between neighbours. -/
def joinWith
    (sep : List α) : List (List α) → List α
  | [] => []
  | [p] => p
  | p :: q :: ps => p ++ sep ++ joinWith sep (q :: ps)

/- Join texts with a separator between neighbours. -/
def joinTexts
    (sep : String)
    (texts : List String) : String :=
  String.ofList (joinWith sep.toList (texts.map String.toList))

------------------------------------------------------------
-- Laws
------------------------------------------------------------

/- There is always a piece. -/
theorem splitAll_ne_nil
    [DecidableEq α]
    (sep : α)
    (xs : List α) :
    splitAll sep xs ≠ [] := by
  cases xs with
  | nil => simp [splitAll]
  | cons x xs =>
      simp only [splitAll]
      split
      · simp
      · split <;> simp

/- Joining the pieces again gives the whole. -/
theorem joinWith_splitAll
    [DecidableEq α]
    (sep : α)
    (xs : List α) :
    joinWith [sep] (splitAll sep xs) = xs := by
  induction xs with
  | nil => rfl
  | cons x xs ih =>
      have hne := splitAll_ne_nil sep xs
      simp only [splitAll]
      split
      · rename_i h
        cases hs : splitAll sep xs with
        | nil => exact absurd hs hne
        | cons p ps =>
            rw [hs] at ih
            simp [joinWith, ih, h]
      · cases hs : splitAll sep xs with
        | nil => exact absurd hs hne
        | cons p ps =>
            rw [hs] at ih
            cases ps with
            | nil => simpa [joinWith] using ih
            | cons q qs => simpa [joinWith] using ih

end ContainerBuild.Text
