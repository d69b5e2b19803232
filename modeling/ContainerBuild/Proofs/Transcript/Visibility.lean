import ContainerBuild.Proofs.Transcript.Reading

/-
  This file says when the end of a transcript can be seen in
  its report alone. It can unless the line that ends the
  transcript is bare, with nothing behind its mark: then the
  report looks like that of a transcript that stopped.

  Key definitions include:
    * `Parsed.TellsOnce`
    * `Transcript.EndsBare`
    * `Transcript.ShowsEnd`

  Main statements:
    * `Transcript.end_cases`
    * `Transcript.showsEnd_closing`
    * `outcome_visible_iff`
    * `not_outcome_visible`
-/

namespace ContainerBuild

open Text

------------------------------------------------------------
-- Outcomes
------------------------------------------------------------

namespace Parsed

/- There is a final image, and no problem. -/
def TellsImage (p : Parsed) : Prop :=
  p.report.finalImageId ≠ "" ∧ p.problem = none

/- There is an error message, and an error was reported. -/
def TellsError (p : Parsed) : Prop :=
  p.report.errorMessage ≠ "" ∧
    ∃ text, p.problem = some (.errorReported text)

/- The transcript stopped. -/
def TellsStop (p : Parsed) : Prop :=
  p.problem = some .incompleteOutput

/- Exactly one of the three is told. -/
def TellsOnce (p : Parsed) : Prop :=
  (p.TellsImage ∧ ¬ p.TellsError ∧ ¬ p.TellsStop) ∨
    (¬ p.TellsImage ∧ p.TellsError ∧ ¬ p.TellsStop) ∨
    (¬ p.TellsImage ∧ ¬ p.TellsError ∧ p.TellsStop)

end Parsed

namespace Transcript

/- The line that ends the transcript is a mark, no more. -/
def EndsBare (ls : List (List Char)) : Prop :=
  ls[endPlace ls]? = some successMark ∨
    ls[endPlace ls]? = some errorMark

/- A transcript ends in an image, an error, or nowhere. -/
theorem end_cases (ls : List (List Char)) :
    (endPlace ls = ls.length ∧ ls[endPlace ls]? = none) ∨
      (∃ id, ls[endPlace ls]? = some (successMark ++ id)) ∨
      ∃ message,
        ls[endPlace ls]? = some (errorMark ++ message) := by
  cases hLast : ls[endPlace ls]? with
  | none =>
      have hBehind : ls.length ≤ endPlace ls :=
        List.getElem?_eq_none_iff.mp hLast
      have hWithin : endPlace ls ≤ ls.length :=
        List.findIdx_le_length
      exact Or.inl ⟨Nat.le_antisymm hWithin hBehind, rfl⟩
  | some line =>
      rcases List.getElem?_eq_some_iff.mp hLast with
        ⟨hHere, rfl⟩
      have hEnd : isEnd ls[endPlace ls] = true :=
        List.findIdx_getElem
      rcases Bool.or_eq_true_iff.mp hEnd with
        hSuccess | hError
      · rcases startsWith_iff.mp hSuccess with ⟨id, hLine⟩
        exact Or.inr (Or.inl ⟨id, by rw [hLine]⟩)
      · rcases startsWith_iff.mp hError with
          ⟨message, hLine⟩
        exact Or.inr (Or.inr ⟨message, by rw [hLine]⟩)

/- One mark is not the other with something behind it. -/
theorem successMark_append_ne (id : List Char) :
    successMark ++ id ≠ errorMark := by
  intro hSame
  have hStarts : successMark <+: errorMark := ⟨id, hSame⟩
  exact absurd hStarts (by decide)

theorem errorMark_append_ne (message : List Char) :
    errorMark ++ message ≠ successMark := by
  intro hSame
  have hStarts : errorMark <+: successMark :=
    ⟨message, hSame⟩
  exact absurd hStarts (by decide)

/- Behind the last line there is nothing. -/
theorem endPlace_ne_length
    {ls : List (List Char)}
    {line : List Char}
    (hLast : ls[endPlace ls]? = some line) :
    endPlace ls ≠ ls.length := by
  rcases List.getElem?_eq_some_iff.mp hLast with ⟨hHere, _⟩
  exact Nat.ne_of_lt hHere

/-
  What can be seen of the end of a transcript: exactly one
  outcome, unless the line at the end is bare. An image and
  an error message come with the problem that belongs to
  them, and where there is neither, the transcript stopped
  or ended in a bare line.
-/
structure ShowsEnd
    (ls : List (List Char))
    (p : Parsed) : Prop where
  once : p.TellsOnce ↔ ¬ EndsBare ls
  image : p.report.finalImageId ≠ "" → p.TellsImage
  error : p.report.errorMessage ≠ "" → p.TellsError
  stop : p.TellsStop ↔ endPlace ls = ls.length
  neither :
    p.report.finalImageId = "" ∧
        p.report.errorMessage = "" ↔
      p.TellsStop ∨ EndsBare ls

section Ends

variable {ls : List (List Char)}

theorem showsEnd_success
    {id : List Char}
    (hLast : ls[endPlace ls]? = some (successMark ++ id))
    (steps : List Step) :
    ShowsEnd ls (closing steps ls[endPlace ls]?) := by
  have hBare : EndsBare ls ↔ id = [] := by
    simp [EndsBare, hLast, successMark_append_ne]
  have hBefore := endPlace_ne_length hLast
  rw [hLast, closing_success]
  exact {
    once := by
      rw [hBare]
      simp [Parsed.TellsOnce, Parsed.TellsImage,
        Parsed.TellsError, Parsed.TellsStop]
    image := fun hImage => ⟨hImage, rfl⟩
    error := fun hError => absurd rfl hError
    stop := by simp [Parsed.TellsStop, hBefore]
    neither := by simp [Parsed.TellsStop, hBare] }

theorem showsEnd_error
    {message : List Char}
    (hLast :
      ls[endPlace ls]? = some (errorMark ++ message))
    (steps : List Step) :
    ShowsEnd ls (closing steps ls[endPlace ls]?) := by
  have hBare : EndsBare ls ↔ message = [] := by
    simp [EndsBare, hLast, errorMark_append_ne]
  have hBefore := endPlace_ne_length hLast
  rw [hLast, closing_error]
  exact {
    once := by
      rw [hBare]
      simp [Parsed.TellsOnce, Parsed.TellsImage,
        Parsed.TellsError, Parsed.TellsStop]
    image := fun hImage => absurd rfl hImage
    error := fun hError => ⟨hError, _, rfl⟩
    stop := by simp [Parsed.TellsStop, hBefore]
    neither := by simp [Parsed.TellsStop, hBare] }

theorem showsEnd_stopped
    (hBehind : endPlace ls = ls.length)
    (hLast : ls[endPlace ls]? = none)
    (steps : List Step) :
    ShowsEnd ls (closing steps ls[endPlace ls]?) := by
  have hBare : ¬ EndsBare ls := by
    simp [EndsBare, hLast]
  rw [hLast]
  exact {
    once := by
      simp [hBare, closing, Parsed.TellsOnce,
        Parsed.TellsImage, Parsed.TellsError,
        Parsed.TellsStop]
    image := fun hImage => absurd rfl hImage
    error := fun hError => absurd rfl hError
    stop := by simp [closing, Parsed.TellsStop, hBehind]
    neither := by simp [closing, Parsed.TellsStop] }

theorem showsEnd_closing
    (ls : List (List Char))
    (steps : List Step) :
    ShowsEnd ls (closing steps ls[endPlace ls]?) := by
  rcases end_cases ls with
    ⟨hBehind, hLast⟩ | ⟨id, hLast⟩ | ⟨message, hLast⟩
  · exact showsEnd_stopped hBehind hLast steps
  · exact showsEnd_success hLast steps
  · exact showsEnd_error hLast steps

end Ends

end Transcript

open Transcript

------------------------------------------------------------
-- Visibility
------------------------------------------------------------

/- A report shows the end of its transcript, if not bare. -/
theorem outcome_visible_iff
    {text : String}
    {p : Parsed}
    (hParse : parseText text = .ok p) :
    ShowsEnd (linesOf text) p := by
  have hClosing :=
    parseText_of_short (short_of_parseText hParse)
  rw [hParse] at hClosing
  cases hClosing
  exact showsEnd_closing _ _

/- A transcript that ends in an image. -/
theorem outcome_visible_built :
    parseText "Successfully built 4a5b" =
        .ok ⟨⟨"", "4a5b", []⟩, none⟩ ∧
      ShowsEnd (linesOf "Successfully built 4a5b")
        ⟨⟨"", "4a5b", []⟩, none⟩ := by
  have hParse :
      parseText "Successfully built 4a5b" =
        .ok ⟨⟨"", "4a5b", []⟩, none⟩ := rfl
  exact ⟨hParse, outcome_visible_iff hParse⟩

/- An error line without a message tells no outcome. -/
theorem not_outcome_visible :
    ¬ ∀ text p, parseText text = .ok p → p.TellsOnce := by
  intro hAlways
  have hParse :
      parseText "Error" =
        .ok
          ⟨⟨"", "", []⟩,
            some (.errorReported
              "Build reported an error")⟩ := rfl
  have hOnce := hAlways _ _ hParse
  simp [Parsed.TellsOnce, Parsed.TellsImage,
    Parsed.TellsError, Parsed.TellsStop] at hOnce

end ContainerBuild
