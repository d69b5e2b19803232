import ContainerBuild.ImageName
import ContainerBuild.Proofs.Text.Ending

/-
  This file says what accepted names are like: none of their
  components is empty, so that a reference gives the name
  back as the user wrote it.

  Main statements:
    * `ImageName.ne_nil_of_check`
    * `Reference.imageName_of_check`
-/

namespace ContainerBuild

open Text

------------------------------------------------------------
-- Components
------------------------------------------------------------

namespace ImageName

theorem ne_nil_of_checkComponents
    {name : String}
    {cs : List (List Char)}
    (hCheck : checkComponents name cs = .ok ()) :
    ∀ c ∈ cs, c ≠ [] := by
  induction cs with
  | nil => simp
  | cons c rest ih =>
      intro d hMem
      simp only [checkComponents] at hCheck
      by_cases hEmpty : c = []
      · rw [if_pos hEmpty] at hCheck
        exact absurd hCheck (by simp)
      · rw [if_neg hEmpty] at hCheck
        cases hHead : checkRegistry (String.ofList c) with
        | error e =>
            rw [hHead] at hCheck
            exact absurd hCheck (by simp)
        | ok _ =>
            rw [hHead] at hCheck
            rcases List.mem_cons.mp hMem with rfl | hRest
            · exact hEmpty
            · exact ih hCheck d hRest

/- No component of an accepted name is empty. -/
theorem ne_nil_of_check
    {name : String}
    (hCheck : check name = .ok ()) :
    ∀ c ∈ components name, c ≠ [] := by
  unfold check at hCheck
  split at hCheck
  · exact absurd hCheck (by simp)
  · cases hLocal : checkLocal name with
    | error e =>
        rw [hLocal] at hCheck
        exact absurd hCheck (by simp)
    | ok _ =>
        rw [hLocal] at hCheck
        exact ne_nil_of_checkComponents hCheck

end ImageName

------------------------------------------------------------
-- References
------------------------------------------------------------

/- A text that is cut is name and tag around a colon. -/
theorem cutAtColon?_eq_some
    {s name tag : String}
    (hCut : cutAtColon? s = some (name, tag)) :
    ':' ∉ name.toList ∧ s = name ++ ":" ++ tag := by
  unfold cutAtColon? at hCut
  cases hFirst : splitFirst? ':' s.toList with
  | none =>
      rw [hFirst] at hCut
      exact absurd hCut (by simp)
  | some cut =>
      rcases cut with ⟨before, rest⟩
      rw [hFirst] at hCut
      cases hCut
      rcases eq_append_of_splitFirst? hFirst with
        ⟨hOpen, hSame⟩
      refine ⟨by simpa using hOpen, ?_⟩
      apply String.toList_injective
      simp [hSame]

/- Behind a name without colons the first colon is cut at. -/
theorem cutAtColon?_append
    {name : String}
    (hOpen : ':' ∉ name.toList)
    (tag : String) :
    cutAtColon? (name ++ ":" ++ tag) = some (name, tag) := by
  have hText :
      (name ++ ":" ++ tag).toList =
        name.toList ++ ':' :: tag.toList := by
    simp
  simp only [cutAtColon?, hText,
    splitFirst?_append_cons hOpen, String.ofList_toList]

theorem cutAtColon?_eq_none_iff
    {s : String} :
    cutAtColon? s = none ↔ ':' ∉ s.toList := by
  rw [← splitFirst?_eq_none_iff]
  unfold cutAtColon?
  split <;> simp_all

/- A reference keeps the repository that it is given. -/
theorem Reference.repositoryPath_ofUserInput
    (namespaceName repository userText : String) :
    (ofUserInput namespaceName repository
        userText).repositoryPath =
      namespaceName ++ "/" ++ repository := by
  unfold ofUserInput
  cases cutAtColon? userText <;> rfl

/- The reference of an accepted name gives the name back. -/
theorem Reference.imageName_of_check
    {userText : String}
    (namespaceName repository : String)
    (hCheck : ImageName.check userText = .ok ()) :
    (ofUserInput namespaceName repository
        userText).imageName = userText := by
  unfold ofUserInput
  cases hCut : cutAtColon? userText with
  | none => rfl
  | some cut =>
      rcases cut with ⟨name, tag⟩
      rcases cutAtColon?_eq_some hCut with ⟨hOpen, hSame⟩
      have hTag : tag ≠ "" := by
        rintro rfl
        have hLast :
            [] ∈ ImageName.components userText := by
          rw [ImageName.components, hSame]
          simp [splitAll_append_cons hOpen, splitAll]
        exact ImageName.ne_nil_of_check hCheck [] hLast rfl
      simp [imageName, tag?, hTag, hSame]

end ContainerBuild
