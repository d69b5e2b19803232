import ContainerBuild.Proofs.ImageName.Language

/-
  This file compares the local rule with the message that it
  is explained by. The message describes texts with at most
  one colon and with local signs otherwise. The rule accepts
  these, and also texts with a line feed at the end of a
  component, which it does not look at.

  Key definitions include:
    * `ImageName.IsLocalSign`
    * `ImageName.IsDescribed`
    * `ImageName.IsLoose`
    * `ImageName.IsTolerated`

  Main statements:
    * `ImageName.isTolerated_iff`
    * `ImageName.isDescribed_iff`
    * `local_rule_described_iff`
-/

namespace ContainerBuild

open Text

namespace ImageName

------------------------------------------------------------
-- Signs
------------------------------------------------------------

/- ASCII letters and digits, the line and the hyphen. -/
def IsLocalSign (c : Char) : Prop :=
  ('A' ≤ c ∧ c ≤ 'Z') ∨ ('a' ≤ c ∧ c ≤ 'z')
    ∨ ('0' ≤ c ∧ c ≤ '9') ∨ c = '_' ∨ c = '-'

theorem isLocalChar_iff
    {c : Char} :
    isLocalChar c = true ↔ IsLocalSign c := by
  simp [isLocalChar, IsLocalSign, or_assoc]

theorem not_isLocalSign_colon : ¬ IsLocalSign ':' := by
  simp [IsLocalSign]

theorem not_isLocalSign_lineFeed : ¬ IsLocalSign '\n' := by
  simp [IsLocalSign]

/-
  The texts that the message describes: at most one colon,
  and no sign besides that is not local.
-/
structure IsDescribed (cs : List Char) : Prop where
  colons : cs.count ':' ≤ 1
  signs : ∀ c ∈ cs, c ≠ ':' → IsLocalSign c

------------------------------------------------------------
-- Components
------------------------------------------------------------

/- Local signs, and perhaps a line feed behind them. -/
inductive IsLoose : List Char → Prop
  | clean (cs : List Char) :
      (∀ c ∈ cs, IsLocalSign c) → IsLoose cs
  | fed (cs : List Char) :
      (∀ c ∈ cs, IsLocalSign c) → IsLoose (cs ++ ['\n'])

variable {cs first second : List Char}

theorem withoutFinalNewline_append (cs : List Char) :
    withoutFinalNewline (cs ++ ['\n']) = cs := by
  simp [withoutFinalNewline]

/- Either there is a line feed at the end, or nothing goes. -/
theorem eq_append_of_withoutFinalNewline (cs : List Char) :
    withoutFinalNewline cs = cs ∨
      cs = withoutFinalNewline cs ++ ['\n'] := by
  rcases List.eq_nil_or_concat cs with rfl | ⟨front, c, rfl⟩
  · exact Or.inl rfl
  · rw [List.concat_eq_append]
    by_cases hFeed : c = '\n'
    · subst hFeed
      right
      rw [withoutFinalNewline_append]
    · left
      simp [withoutFinalNewline, hFeed]

theorem isLocalComponent_iff_isLoose :
    isLocalComponent cs = true ↔ IsLoose cs := by
  have hKept :
      isLocalComponent cs = true ↔
        ∀ c ∈ withoutFinalNewline cs, IsLocalSign c := by
    simp only [isLocalComponent, List.all_eq_true,
      isLocalChar_iff]
  rw [hKept]
  constructor
  · intro hLocal
    rcases eq_append_of_withoutFinalNewline cs with
      hSame | hFeed
    · rw [hSame] at hLocal
      exact .clean cs hLocal
    · rw [hFeed]
      exact .fed _ hLocal
  · rintro (⟨_, hLocal⟩ | ⟨_, hLocal⟩)
    · intro c hMem
      rcases eq_append_of_withoutFinalNewline cs with
        hSame | hFeed
      · exact hLocal c (hSame ▸ hMem)
      · apply hLocal c
        rw [hFeed]
        exact List.mem_append_left _ hMem
    · rw [withoutFinalNewline_append]
      exact hLocal

theorem IsLoose.colon_not_mem
    (hLoose : IsLoose cs) :
    ':' ∉ cs := by
  cases hLoose with
  | clean _ hLocal =>
      intro hMem
      exact not_isLocalSign_colon (hLocal _ hMem)
  | fed front hLocal =>
      simp only [List.mem_append, List.mem_singleton,
        not_or]
      exact ⟨fun hMem =>
        not_isLocalSign_colon (hLocal _ hMem), by decide⟩

/- Without line feeds all signs are local. -/
theorem forall_isLocalSign_iff :
    (∀ c ∈ cs, IsLocalSign c) ↔
      IsLoose cs ∧ '\n' ∉ cs := by
  constructor
  · intro hLocal
    exact ⟨.clean cs hLocal, fun hMem =>
      not_isLocalSign_lineFeed (hLocal _ hMem)⟩
  · rintro ⟨_ | _, hNone⟩
    · assumption
    · exact absurd (by simp) hNone

------------------------------------------------------------
-- Texts
------------------------------------------------------------

/- One loose component, or two around a colon. -/
def IsTolerated (cs : List Char) : Prop :=
  IsLoose cs ∨
    ∃ first second,
      IsLoose first ∧ IsLoose second ∧
        cs = first ++ ':' :: second

/- Tolerated texts are what the cutting at colons gives. -/
theorem isTolerated_iff :
    IsTolerated cs ↔
      (splitAll ':' cs).length ≤ 2 ∧
        ∀ part ∈ splitAll ':' cs, IsLoose part := by
  constructor
  · rintro (hOne | ⟨first, second, hFirst, hSecond, rfl⟩)
    · rw [splitAll_of_not_mem hOne.colon_not_mem]
      simp [hOne]
    · rw [splitAll_append_cons hFirst.colon_not_mem,
        splitAll_of_not_mem hSecond.colon_not_mem]
      simp [hFirst, hSecond]
  · rintro ⟨hFew, hParts⟩
    rw [length_splitAll] at hFew
    rcases cases_of_count_le_one (Nat.le_of_succ_le_succ hFew)
      with hOne | ⟨first, second, hFirst, hSecond, rfl⟩
    · rw [splitAll_of_not_mem hOne] at hParts
      exact Or.inl (hParts cs (by simp))
    · rw [splitAll_append_cons hFirst,
        splitAll_of_not_mem hSecond] at hParts
      exact Or.inr ⟨first, second, hParts first (by simp),
        hParts second (by simp), rfl⟩

/- The message describes one run of signs, or two. -/
theorem isDescribed_iff_runs :
    IsDescribed cs ↔
      (∀ c ∈ cs, IsLocalSign c) ∨
        ∃ first second,
          (∀ c ∈ first, IsLocalSign c) ∧
            (∀ c ∈ second, IsLocalSign c) ∧
              cs = first ++ ':' :: second := by
  have hOther : ∀ {part : List Char},
      (∀ c ∈ part, IsLocalSign c) → part.count ':' = 0 := by
    intro part hLocal
    apply List.count_eq_zero.mpr
    exact fun hMem => not_isLocalSign_colon (hLocal _ hMem)
  constructor
  · rintro ⟨hFew, hSigns⟩
    rcases cases_of_count_le_one hFew with
      hOne | ⟨first, second, hFirst, hSecond, rfl⟩
    · left
      intro c hMem
      exact hSigns c hMem (fun hSame => hOne (hSame ▸ hMem))
    · refine Or.inr ⟨first, second, ?_, ?_, rfl⟩
      · intro c hMem
        exact hSigns c (by simp [hMem])
          (fun hSame => hFirst (hSame ▸ hMem))
      · intro c hMem
        exact hSigns c (by simp [hMem])
          (fun hSame => hSecond (hSame ▸ hMem))
  · rintro (hLocal | ⟨first, second, hFirst, hSecond, rfl⟩)
    · exact ⟨by simp [hOther hLocal],
        fun c hMem _ => hLocal c hMem⟩
    · refine ⟨by simp [hOther hFirst, hOther hSecond], ?_⟩
      intro c hMem hSign
      rcases List.mem_append.mp hMem with hFront | hBehind
      · exact hFirst c hFront
      · exact hSecond c
          ((List.mem_cons.mp hBehind).resolve_left hSign)

/- What is tolerated beyond that has a line feed. -/
theorem isDescribed_iff :
    IsDescribed cs ↔ IsTolerated cs ∧ '\n' ∉ cs := by
  rw [isDescribed_iff_runs]
  simp only [forall_isLocalSign_iff]
  constructor
  · rintro (⟨hLoose, hNone⟩ |
      ⟨first, second, ⟨hFirst, hFree⟩, ⟨hSecond, hClear⟩,
        rfl⟩)
    · exact ⟨Or.inl hLoose, hNone⟩
    · exact ⟨Or.inr ⟨first, second, hFirst, hSecond, rfl⟩,
        by simp [hFree, hClear]⟩
  · rintro ⟨hLoose | ⟨first, second, hFirst, hSecond, rfl⟩,
      hNone⟩
    · exact Or.inl ⟨hLoose, hNone⟩
    · simp only [List.mem_append, List.mem_cons, not_or]
        at hNone
      exact Or.inr ⟨first, second, ⟨hFirst, hNone.1⟩,
        ⟨hSecond, hNone.2.2⟩, rfl⟩

------------------------------------------------------------
-- The Local Rule
------------------------------------------------------------

theorem checkLocal_eq_ok_iff_isTolerated
    {name : String} :
    checkLocal name = .ok () ↔ IsTolerated name.toList := by
  simp only [checkLocal_eq_ok_iff, isTolerated_iff,
    components, isLocalComponent_iff_isLoose]

/- The colons are counted before any sign is looked at. -/
theorem checkLocal_of_not_isTolerated
    {name : String}
    (hOther : ¬ IsTolerated name.toList) :
    checkLocal name =
      .error
        ⟨name,
          if 1 < name.toList.count ':' then
            .tooManyComponents
          else
            .forbiddenCharacter⟩ := by
  have hRefused : checkLocal name ≠ .ok () := fun hCheck =>
    hOther (checkLocal_eq_ok_iff_isTolerated.mp hCheck)
  have hMany :
      2 < (components name).length ↔
        1 < name.toList.count ':' := by
    rw [components, length_splitAll]
    omega
  unfold checkLocal at hRefused ⊢
  simp only [hMany] at hRefused ⊢
  split
  · rfl
  · rename_i hFew
    rw [if_neg hFew] at hRefused
    split at hRefused
    · exact absurd rfl hRefused
    · rename_i hForbidden
      rw [if_neg hForbidden]

end ImageName

/-
  The local rule accepts one or two components of local signs
  with or without a line feed behind each, and turns down
  all else by its colons or by its signs. This is what its
  message describes, exactly unless a text is accepted
  although it has a line feed.
-/
theorem local_rule_described_iff (name : String) :
    (ImageName.checkLocal name = .ok () ↔
      ImageName.IsTolerated name.toList) ∧
    ((ImageName.checkLocal name = .ok () ↔
        ImageName.IsDescribed name.toList) ↔
      ¬ (ImageName.IsTolerated name.toList ∧
        '\n' ∈ name.toList)) ∧
    (¬ ImageName.IsTolerated name.toList →
      ImageName.checkLocal name =
        .error
          ⟨name,
            if 1 < name.toList.count ':' then
              .tooManyComponents
            else
              .forbiddenCharacter⟩) := by
  refine ⟨ImageName.checkLocal_eq_ok_iff_isTolerated, ?_,
    ImageName.checkLocal_of_not_isTolerated⟩
  rw [ImageName.checkLocal_eq_ok_iff_isTolerated,
    ImageName.isDescribed_iff, iff_self_and, not_and]

/- A described name, and one that is turned down. -/
theorem local_rule_described_iff_sample :
    ImageName.IsDescribed "Web_1:v-2".toList ∧
    ImageName.checkLocal "Web_1:v-2" = .ok () ∧
    ¬ ImageName.IsTolerated "a:b:c".toList ∧
    ImageName.checkLocal "a:b:c" =
      .error ⟨"a:b:c", .tooManyComponents⟩ := by
  rcases local_rule_described_iff "Web_1:v-2" with
    ⟨_, hExact, _⟩
  rcases local_rule_described_iff "a:b:c" with
    ⟨hOther, _, hRefused⟩
  have hAccepted :
      ImageName.checkLocal "Web_1:v-2" = .ok () := by
    decide +kernel
  have hUntolerated :
      ¬ ImageName.IsTolerated "a:b:c".toList := by
    intro hTolerated
    exact absurd (hOther.mpr hTolerated) (by decide +kernel)
  refine ⟨(hExact.mpr ?_).mp hAccepted, hAccepted,
    hUntolerated, hRefused hUntolerated⟩
  rintro ⟨_, hFeed⟩
  exact absurd hFeed (by decide)

/- A name with a line feed, which nobody describes. -/
theorem not_local_rule_described :
    ImageName.checkLocal "web\n" = .ok () ∧
      ¬ ImageName.IsDescribed "web\n".toList := by
  refine ⟨by decide +kernel, ?_⟩
  intro hDescribed
  have hSign := hDescribed.signs '\n' (by decide) (by decide)
  exact ImageName.not_isLocalSign_lineFeed hSign

end ContainerBuild
