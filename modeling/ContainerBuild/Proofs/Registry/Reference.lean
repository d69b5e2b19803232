import ContainerBuild.Builder
import ContainerBuild.Proofs.ImageName

/-
  This file shows that the registry is asked for the very
  image that is built: whatever the user's text is, the
  repository and tag of the look-up make up the reference of
  the build. Accepted names are kept as they are written,
  and different ones stand for different images.

  Main statements:
    * `Reference.lookup_eq_fullName`
    * `Reference.fullName_of_check`
    * `checked_is_built`
-/

namespace ContainerBuild

------------------------------------------------------------
-- Look-ups
------------------------------------------------------------

namespace Reference

/-
  Cutting the user's text and cutting the name made of it
  again come to the same. The cases are a text without a
  colon, one with an empty tag, and one with a tag.
-/
theorem lookup_eq_fullName
    (namespaceName repository userText : String)
    {r : Reference}
    (hReference :
      r = ofUserInput namespaceName repository userText)
    {l : TagLookup}
    (hLookup :
      l = TagLookup.ofName r.repositoryPath r.imageName) :
    l.repository ++ ":" ++ l.tag = r.fullName := by
  subst hLookup hReference
  unfold ofUserInput
  cases hCut : cutAtColon? userText with
  | none =>
      simp only [imageName, fullName, tag?, TagLookup.ofName,
        hCut]
  | some cut =>
      rcases cut with ⟨name, tag⟩
      have hOpen := (cutAtColon?_eq_some hCut).1
      by_cases hEmpty : tag = ""
      · have hWhole : cutAtColon? name = none :=
          cutAtColon?_eq_none_iff.mpr hOpen
        simp only [imageName, fullName, tag?, if_pos hEmpty,
          TagLookup.ofName, hWhole]
      · have hAgain := cutAtColon?_append hOpen tag
        simp only [imageName, fullName, tag?, if_neg hEmpty,
          TagLookup.ofName, hAgain]

------------------------------------------------------------
-- Accepted names
------------------------------------------------------------

/-
  The reference of an accepted name is the name behind the
  repository. What stands between them tells whether the
  name has a tag.
-/
theorem fullName_of_check
    {userText : String}
    (namespaceName repository : String)
    (hCheck : ImageName.check userText = .ok ()) :
    (ofUserInput namespaceName repository
        userText).fullName =
      namespaceName ++ "/" ++ repository
        ++ (if ':' ∈ userText.toList then "/" else ":")
        ++ userText := by
  have hName :=
    imageName_of_check namespaceName repository hCheck
  cases hCut : cutAtColon? userText with
  | none =>
      have hOpen := cutAtColon?_eq_none_iff.mp hCut
      simp only [ofUserInput, hCut, fullName, tag?,
        repositoryPath, if_neg hOpen]
  | some cut =>
      rcases cut with ⟨name, tag⟩
      rcases cutAtColon?_eq_some hCut with ⟨hOpen, hSame⟩
      have hReference :
          ofUserInput namespaceName repository userText =
            ⟨namespaceName, repository, name, some tag⟩ := by
        simp only [ofUserInput, hCut]
      have hColon : ':' ∈ userText.toList := by
        rw [hSame]
        simp
      rw [hReference] at hName ⊢
      by_cases hEmpty : tag = ""
      · -- The name would have lost its colon.
        simp only [imageName, tag?, if_pos hEmpty] at hName
        exact absurd hColon (hName ▸ hOpen)
      · simp only [fullName, tag?, if_neg hEmpty,
          repositoryPath, if_pos hColon]
        rw [hSame]
        simp only [String.append_assoc]

/- Different accepted names are different images. -/
theorem eq_of_fullName_eq
    {namespaceName repository name name' : String}
    (hCheck : ImageName.check name = .ok ())
    (hCheck' : ImageName.check name' = .ok ())
    (hSame :
      (ofUserInput namespaceName repository
          name).fullName =
        (ofUserInput namespaceName repository
          name').fullName) :
    name = name' := by
  rw [fullName_of_check namespaceName repository hCheck,
    fullName_of_check namespaceName repository hCheck']
    at hSame
  have hList := congrArg String.toList hSame
  simp only [String.toList_append, List.append_assoc,
    List.append_cancel_left_eq] at hList
  -- A slash and a colon do not start the same text.
  apply String.toList_injective
  split at hList <;> split at hList
  · simpa using hList
  · exact absurd hList (by simp)
  · exact absurd hList (by simp)
  · simpa using hList

end Reference

------------------------------------------------------------
-- Images
------------------------------------------------------------

/-
  For every order there are a repository and a tag that the
  registry is asked for, and together they are the reference
  that the backend is handed. An accepted name stands in its
  reference as it was written, and within a repository no
  two of them have the same reference.
-/
theorem checked_is_built :
    (∀ o : BuildOrder,
      ∃ l : TagLookup,
        (∀ (σ : Type) (client : RegistryClient)
          (transport : Transport σ),
          client.hasImage transport
              o.reference.repositoryPath
              o.reference.imageName =
            (RegistryClient.send transport
              (client.tagsRequest l.repository)).next
              (fun answer =>
                Action.ofExcept
                  (RegistryClient.lookupAnswer l
                    answer))) ∧
        l.repository ++ ":" ++ l.tag =
          o.reference.fullName ∧
        ∀ (σ : Type) (b : Builder σ) (c : BuildContext),
          (b.job o c).imageName =
            l.repository ++ ":" ++ l.tag) ∧
    (∀ namespaceName repository name,
      ImageName.check name = .ok () →
        (Reference.ofUserInput namespaceName repository
          name).imageName = name) ∧
    (∀ namespaceName repository name name',
      ImageName.check name = .ok () →
      ImageName.check name' = .ok () →
        ((Reference.ofUserInput namespaceName repository
            name).fullName =
          (Reference.ofUserInput namespaceName repository
            name').fullName ↔
          name = name')) := by
  refine ⟨?_, ?_, ?_⟩
  · intro o
    have hSame :=
      Reference.lookup_eq_fullName o.namespaceName
        o.repository o.image (r := o.reference) rfl rfl
    exact ⟨_, fun _ _ _ => rfl, hSame,
      fun _ _ _ => hSame.symm⟩
  · intro namespaceName repository name hCheck
    exact Reference.imageName_of_check namespaceName
      repository hCheck
  · intro namespaceName repository name name' hCheck
      hCheck'
    constructor
    · exact Reference.eq_of_fullName_eq hCheck hCheck'
    · rintro rfl
      rfl

/- A text with two colons, and accepted names of both kinds. -/
theorem checked_is_built_sample :
    (∃ l : TagLookup,
      l.repository ++ ":" ++ l.tag =
          "realm1/repo1/centos:7:1" ∧
        ∀ (b : Builder Unit) (c : BuildContext),
          (b.job ⟨"df", "Dockerfile", "realm1", "repo1",
              "centos:7:1"⟩ c).imageName =
            l.repository ++ ":" ++ l.tag) ∧
    ImageName.check "centos:7" = .ok () ∧
    (Reference.ofUserInput "realm1" "repo1"
        "centos:7").imageName = "centos:7" ∧
    ImageName.check "web" = .ok () ∧
    (Reference.ofUserInput "realm1" "repo1"
        "centos:7").fullName ≠
      (Reference.ofUserInput "realm1" "repo1"
        "web").fullName := by
  have hTagged : ImageName.check "centos:7" = .ok () := rfl
  have hPlain : ImageName.check "web" = .ok () := rfl
  rcases checked_is_built with ⟨hImage, hName, hDifferent⟩
  refine ⟨?_, hTagged, hName _ _ _ hTagged, hPlain, ?_⟩
  · rcases hImage
        ⟨"df", "Dockerfile", "realm1", "repo1",
          "centos:7:1"⟩ with
      ⟨l, _, hFull, hJob⟩
    exact ⟨l, hFull.trans (by decide), hJob Unit⟩
  · intro hSame
    exact absurd
      ((hDifferent _ _ _ _ hTagged hPlain).mp hSame)
      (by decide)

end ContainerBuild
