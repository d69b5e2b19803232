import ContainerBuild.Proofs.ImageName
import Mathlib.Data.List.DropRight

/-
  This file says which names are accepted, and which part of
  a text the registry rule blames. An accepted name is one
  component or two around a colon; what is blamed is what
  the longest front and then the longest rest leave over.

  Key definitions include:
    * `ImageName.IsAlphanumeric`
    * `ImageName.IsNameSign`
    * `ImageName.IsRegistrySign`
    * `ImageName.IsName`
    * `ImageName.Blames`

  Main statements:
    * `ImageName.offendingFragment_eq_nil_iff`
    * `ImageName.exists_blames`
    * `ImageName.check_eq_ok_iff`
    * `ImageName.exactly_names_accepted`
-/

namespace ContainerBuild

open Text

------------------------------------------------------------
-- Longest Fronts and Rests
------------------------------------------------------------

section Runs

variable {α : Type}
variable {p : α → Bool}
variable {xs ys : List α}

/- What is taken is the longest front of its kind. -/
theorem isPrefix_takeWhile
    (hPrefix : xs <+: ys)
    (hAll : ∀ x ∈ xs, p x = true) :
    xs <+: ys.takeWhile p := by
  rcases hPrefix with ⟨zs, rfl⟩
  rw [List.takeWhile_append_of_pos hAll]
  exact List.prefix_append _ _

/- The same from the other end. -/
theorem isSuffix_rtakeWhile
    (hSuffix : xs <:+ ys)
    (hAll : ∀ x ∈ xs, p x = true) :
    xs <:+ ys.rtakeWhile p := by
  apply List.reverse_prefix.mp
  rw [List.rtakeWhile, List.reverse_reverse]
  apply isPrefix_takeWhile
  · exact List.reverse_prefix.mpr hSuffix
  · intro x hMem
    exact hAll x (List.mem_reverse.mp hMem)

end Runs

namespace ImageName

------------------------------------------------------------
-- Signs
------------------------------------------------------------

/- The characters a-z and 0-9. -/
def IsAlphanumeric (c : Char) : Prop :=
  ('a' ≤ c ∧ c ≤ 'z') ∨ ('0' ≤ c ∧ c ≤ '9')

/- The characters of accepted names. -/
def IsNameSign (c : Char) : Prop :=
  IsAlphanumeric c ∨ c = '_' ∨ c = '-'

/- The characters that the registry rule lets pass. -/
def IsRegistrySign (c : Char) : Prop :=
  IsAlphanumeric c ∨ c = '.' ∨ c = '_' ∨ c = '-'

theorem isLeadingChar_iff
    {c : Char} :
    isLeadingChar c = true ↔ IsAlphanumeric c := by
  simp [isLeadingChar, IsAlphanumeric]

theorem isTrailingChar_iff
    {c : Char} :
    isTrailingChar c = true ↔ IsRegistrySign c := by
  simp only [isTrailingChar, IsRegistrySign, Bool.or_eq_true,
    isLeadingChar_iff, decide_eq_true_eq, or_assoc]

theorem IsAlphanumeric.isRegistrySign
    {c : Char}
    (hPlain : IsAlphanumeric c) :
    IsRegistrySign c :=
  Or.inl hPlain

/- Capitals are local only, and a dot is of the registry only. -/
theorem isNameSign_iff
    {c : Char} :
    IsNameSign c ↔
      isLocalChar c = true ∧ IsRegistrySign c := by
  constructor
  · rintro (hPlain | rfl | rfl)
    · refine ⟨?_, hPlain.isRegistrySign⟩
      rcases hPlain with hLetter | hDigit
      · simp [isLocalChar, hLetter]
      · simp [isLocalChar, hDigit]
    · exact ⟨by decide, by simp [IsRegistrySign]⟩
    · exact ⟨by decide, by simp [IsRegistrySign]⟩
  · rintro ⟨hLocal, hPlain | rfl | rfl | rfl⟩
    · exact Or.inl hPlain
    · exact absurd hLocal (by decide)
    · exact Or.inr (Or.inl rfl)
    · exact Or.inr (Or.inr rfl)

------------------------------------------------------------
-- The Registry Rule
------------------------------------------------------------

variable {cs : List Char}

/- Nothing is left over if all characters pass. -/
theorem offendingFragment_eq_nil_iff :
    offendingFragment cs = [] ↔
      ∀ c ∈ cs, IsRegistrySign c := by
  have hRest :
      offendingFragment cs = [] ↔
        ∀ c ∈ cs.dropWhile isLeadingChar,
          isTrailingChar c = true :=
    List.rdropWhile_eq_nil_iff
  rw [hRest]
  constructor
  · intro hAll c hMem
    rw [← List.takeWhile_append_dropWhile
      (p := isLeadingChar) (l := cs)] at hMem
    rcases List.mem_append.mp hMem with hFront | hBehind
    · exact (isLeadingChar_iff.mp
        (List.mem_takeWhile_imp hFront)).isRegistrySign
    · exact isTrailingChar_iff.mp (hAll c hBehind)
  · intro hAll c hMem
    apply isTrailingChar_iff.mpr
    exact hAll c ((List.dropWhile_sublist _).mem hMem)

/-
  A fragment is to blame for a text: it stands between the
  longest front of letters and digits and, of what follows
  that front, the longest rest that passes.
-/
structure Blames
    (cs front fragment rest : List Char) : Prop where
  whole : cs = front ++ fragment ++ rest
  inFront : ∀ c ∈ front, IsAlphanumeric c
  longestFront :
    ∀ other, other <+: cs →
      (∀ c ∈ other, IsAlphanumeric c) → other <+: front
  inRest : ∀ c ∈ rest, IsRegistrySign c
  longestRest :
    ∀ other, other <:+ fragment ++ rest →
      (∀ c ∈ other, IsRegistrySign c) → other <:+ rest
  nonempty : fragment ≠ []
  first :
    ∀ c, fragment.head? = some c → ¬ IsAlphanumeric c
  last :
    ∀ c, fragment.getLast? = some c → ¬ IsRegistrySign c

/- The fragment that is left over is to blame. -/
theorem exists_blames
    (hLeft : offendingFragment cs ≠ []) :
    ∃ front rest,
      Blames cs front (offendingFragment cs) rest := by
  let behind := cs.dropWhile isLeadingChar
  have hBehind :
      offendingFragment cs
          ++ behind.rtakeWhile isTrailingChar = behind :=
    List.rdropWhile_append_rtakeWhile
  refine ⟨cs.takeWhile isLeadingChar,
    behind.rtakeWhile isTrailingChar, ?_⟩
  exact {
    whole := by
      rw [List.append_assoc, hBehind]
      exact List.takeWhile_append_dropWhile.symm
    inFront := fun c hMem =>
      isLeadingChar_iff.mp (List.mem_takeWhile_imp hMem)
    longestFront := by
      intro other hPrefix hAll
      apply isPrefix_takeWhile hPrefix
      intro c hMem
      exact isLeadingChar_iff.mpr (hAll c hMem)
    inRest := fun c hMem =>
      isTrailingChar_iff.mp (List.mem_rtakeWhile_imp hMem)
    longestRest := by
      intro other hSuffix hAll
      rw [hBehind] at hSuffix
      apply isSuffix_rtakeWhile hSuffix
      intro c hMem
      exact isTrailingChar_iff.mpr (hAll c hMem)
    nonempty := hLeft
    first := by
      intro c hHead hPlain
      have hFirst : behind.head? = some c := by
        rw [← hBehind, List.head?_append, hHead]
        rfl
      have hStops :=
        List.head?_dropWhile_not isLeadingChar cs
      rw [hFirst] at hStops
      simp only [isLeadingChar_iff.mpr hPlain] at hStops
      exact absurd hStops (by simp)
    last := by
      intro c hLast hPasses
      rcases List.mem_getLast?_eq_getLast hLast with
        ⟨hSome, rfl⟩
      exact List.rdropWhile_last_not isTrailingChar behind
        hSome (isTrailingChar_iff.mpr hPasses) }

/- The message about a fragment ends in quoting it. -/
theorem message_offending
    (name fragment : String) :
    ∃ before,
      InvalidName.message ⟨name, .offending fragment⟩ =
        before ++ "Offending fragment: '" ++ fragment
          ++ "'" := by
  refine ⟨"Image name '" ++ name ++ "' is not valid: "
    ++ ("does not conform to docker name rules: "
      ++ "[a-z0-9]+(?:[._-][a-z0-9]+)*  "), ?_⟩
  unfold InvalidName.message NameFault.reason
  simp only [String.append_assoc]

/- The rule for one component, which is not empty. -/
theorem checkRegistry_ofList_eq_ok_iff
    (hSome : cs ≠ []) :
    checkRegistry (String.ofList cs) = .ok () ↔
      ∀ c ∈ cs, IsRegistrySign c := by
  have hText : String.ofList cs ≠ "" := by
    intro hEmpty
    apply hSome
    simpa using congrArg String.toList hEmpty
  rw [← offendingFragment_eq_nil_iff, checkRegistry,
    if_neg hText, String.toList_ofList]
  cases offendingFragment cs with
  | nil => simp
  | cons c fragment => simp

theorem checkRegistry_eq_error
    {s : String}
    {e : InvalidName}
    (hSome : s ≠ "")
    (hCheck : checkRegistry s = .error e) :
    offendingFragment s.toList ≠ [] ∧
      e =
        ⟨s, .offending
          (String.ofList (offendingFragment s.toList))⟩ := by
  rw [checkRegistry, if_neg hSome] at hCheck
  cases hLeft : offendingFragment s.toList with
  | nil =>
      rw [hLeft] at hCheck
      exact absurd hCheck (by simp)
  | cons c fragment =>
      rw [hLeft] at hCheck
      cases hCheck
      exact ⟨by simp, rfl⟩

theorem checkComponents_eq_ok_iff
    {name : String}
    {parts : List (List Char)} :
    checkComponents name parts = .ok () ↔
      ∀ part ∈ parts,
        part ≠ [] ∧ ∀ c ∈ part, IsRegistrySign c := by
  induction parts with
  | nil => simp [checkComponents]
  | cons part parts ih =>
      rw [List.forall_mem_cons, checkComponents]
      by_cases hEmpty : part = []
      · simp [hEmpty]
      · rw [if_neg hEmpty, ← ih,
          ← checkRegistry_ofList_eq_ok_iff hEmpty]
        cases checkRegistry (String.ofList part) with
        | error e => simp
        | ok _ => simp [hEmpty]

------------------------------------------------------------
-- The Local Rule
------------------------------------------------------------

theorem checkLocal_eq_ok_iff
    {name : String} :
    checkLocal name = .ok () ↔
      (components name).length ≤ 2 ∧
        ∀ part ∈ components name,
          isLocalComponent part = true := by
  unfold checkLocal
  by_cases hMany : 2 < (components name).length
  · simp [hMany, Nat.not_le.mpr hMany]
  · rw [if_neg hMany]
    by_cases hLocal :
        (components name).all isLocalComponent = true
    · simp only [if_pos hLocal, true_iff]
      exact ⟨Nat.not_lt.mp hMany,
        List.all_eq_true.mp hLocal⟩
    · simp only [if_neg hLocal, reduceCtorEq, false_iff]
      rintro ⟨_, hAll⟩
      exact hLocal (List.all_eq_true.mpr hAll)

/-
  The line feed that the local rule overlooks at the end is
  not overlooked by the registry rule.
-/
theorem isLocalComponent_iff
    (hPasses : ∀ c ∈ cs, IsRegistrySign c) :
    isLocalComponent cs = true ↔
      ∀ c ∈ cs, IsNameSign c := by
  have hWhole : withoutFinalNewline cs = cs := by
    unfold withoutFinalNewline
    split
    · rename_i hLast
      have hFeed := hPasses _ (List.mem_of_getLast? hLast)
      exact absurd hFeed
        (by simp [IsRegistrySign, IsAlphanumeric])
    · rfl
  rw [isLocalComponent, hWhole, List.all_eq_true]
  constructor
  · intro hLocal c hMem
    exact isNameSign_iff.mpr ⟨hLocal c hMem, hPasses c hMem⟩
  · intro hAll c hMem
    exact (isNameSign_iff.mp (hAll c hMem)).1

------------------------------------------------------------
-- Names
------------------------------------------------------------

/- One part of a name. -/
def IsComponent (cs : List Char) : Prop :=
  cs ≠ [] ∧ ∀ c ∈ cs, IsNameSign c

/- One component, or two around a colon. -/
def IsName (name : String) : Prop :=
  ∃ first, IsComponent first ∧
    (name.toList = first ∨
      ∃ second, IsComponent second ∧
        name.toList = first ++ ':' :: second)

theorem IsComponent.colon_not_mem
    (hPart : IsComponent cs) :
    ':' ∉ cs := by
  intro hMem
  have hColon := hPart.2 _ hMem
  exact absurd hColon
    (by simp [IsNameSign, IsAlphanumeric])

/- Names are what the cutting at colons gives. -/
theorem isName_iff
    {name : String} :
    IsName name ↔
      (components name).length ≤ 2 ∧
        ∀ part ∈ components name, IsComponent part := by
  constructor
  · rintro ⟨first, hFirst, hOne | ⟨second, hSecond, hTwo⟩⟩
    · rw [components, hOne,
        splitAll_of_not_mem hFirst.colon_not_mem]
      simp [hFirst]
    · rw [components, hTwo,
        splitAll_append_cons hFirst.colon_not_mem,
        splitAll_of_not_mem hSecond.colon_not_mem]
      simp [hFirst, hSecond]
  · rintro ⟨hFew, hParts⟩
    have hJoined := joinWith_splitAll ':' name.toList
    have hSome := splitAll_ne_nil ':' name.toList
    unfold components at hFew hParts
    cases hCut : splitAll ':' name.toList with
    | nil => exact absurd hCut hSome
    | cons first rest =>
        rw [hCut] at hFew hParts hJoined
        cases rest with
        | nil =>
            refine ⟨first, hParts first (by simp), ?_⟩
            exact Or.inl hJoined.symm
        | cons second more =>
            have hEnd : more = [] := by
              apply List.eq_nil_of_length_eq_zero
              simp only [List.length_cons] at hFew
              omega
            subst hEnd
            refine ⟨first, hParts first (by simp),
              Or.inr ⟨second, hParts second (by simp), ?_⟩⟩
            rw [← hJoined]
            simp [joinWith]

/- Both rules together accept the names. -/
theorem check_eq_ok_iff
    {name : String} :
    check name = .ok () ↔ IsName name := by
  have hBoth :
      check name = .ok () ↔
        checkLocal name = .ok () ∧
          checkComponents name (components name) =
            .ok () := by
    unfold check
    by_cases hEmpty : name = ""
    · subst hEmpty
      simp [components, splitAll, checkComponents]
    · rw [if_neg hEmpty]
      cases checkLocal name with
      | error e => simp
      | ok _ => simp
  rw [hBoth, isName_iff, checkLocal_eq_ok_iff,
    checkComponents_eq_ok_iff, and_assoc]
  apply and_congr_right
  intro _
  constructor
  · rintro ⟨hLocal, hParts⟩ part hMem
    rcases hParts part hMem with ⟨hSome, hPasses⟩
    exact ⟨hSome, (isLocalComponent_iff hPasses).mp
      (hLocal part hMem)⟩
  · intro hParts
    have hPasses :
        ∀ part ∈ components name,
          ∀ c ∈ part, IsRegistrySign c :=
      fun part hMem c hChar =>
        (isNameSign_iff.mp
          ((hParts part hMem).2 c hChar)).2
    constructor
    · intro part hMem
      exact (isLocalComponent_iff (hPasses part hMem)).mpr
        (hParts part hMem).2
    · intro part hMem
      exact ⟨(hParts part hMem).1, hPasses part hMem⟩

/-
  Exactly the names are accepted, and everything else is an
  invalid name. The registry rule by itself fails where a
  character does not pass, and its message ends in quoting
  the fragment that is to blame.
-/
theorem exactly_names_accepted :
    (∀ name, check name = .ok () ↔ IsName name) ∧
    (∀ name, ¬ IsName name → ∃ e, check name = .error e) ∧
    ∀ s : String, s ≠ "" →
      ((∃ e, checkRegistry s = .error e) ↔
        ∃ c ∈ s.toList, ¬ IsRegistrySign c) ∧
      ∀ e, checkRegistry s = .error e →
        ∃ front fragment rest,
          Blames s.toList front fragment rest ∧
            e = ⟨s, .offending (String.ofList fragment)⟩ ∧
            ∃ before,
              e.message =
                before ++ "Offending fragment: '"
                  ++ String.ofList fragment ++ "'" := by
  refine ⟨fun _ => check_eq_ok_iff, ?_, ?_⟩
  · intro name hOther
    cases hCheck : check name with
    | error e => exact ⟨e, rfl⟩
    | ok _ => exact absurd (check_eq_ok_iff.mp hCheck) hOther
  · intro s hSome
    constructor
    · have hChars : s.toList ≠ [] := by simpa using hSome
      have hPasses := checkRegistry_ofList_eq_ok_iff hChars
      rw [String.ofList_toList] at hPasses
      rw [← not_iff_not]
      simp only [not_exists, not_and, not_not, ← hPasses]
      cases checkRegistry s with
      | error e => simp
      | ok _ => simp
    · intro e hCheck
      rcases checkRegistry_eq_error hSome hCheck with
        ⟨hLeft, rfl⟩
      rcases exists_blames hLeft with ⟨front, rest, hBlames⟩
      exact ⟨front, _, rest, hBlames, rfl,
        message_offending s _⟩

/- A name with a tag, one with capitals, and their blame. -/
theorem exactly_names_accepted_sample :
    IsName "webapp:v1-2" ∧
    ¬ IsName "WebApp" ∧
    (∃ e, check "WebApp" = .error e) ∧
    "My_Repo" ≠ "" ∧
    checkRegistry "My_Repo" =
      .error ⟨"My_Repo", .offending "My_R"⟩ ∧
    ∃ front rest,
      Blames "My_Repo".toList front "My_R".toList rest := by
  rcases exactly_names_accepted with
    ⟨hAccepts, hRejects, hBlame⟩
  have hOther : ¬ IsName "WebApp" := by
    intro hName
    exact absurd ((hAccepts _).mpr hName)
      (by decide +kernel)
  have hCheck :
      checkRegistry "My_Repo" =
        .error ⟨"My_Repo", .offending "My_R"⟩ := by
    decide +kernel
  refine ⟨(hAccepts _).mp (by decide +kernel), hOther,
    hRejects _ hOther, by decide, hCheck, ?_⟩
  rcases (hBlame "My_Repo" (by decide)).2 _ hCheck with
    ⟨front, fragment, rest, hBlames, hSame, _⟩
  have hFragment : fragment = "My_R".toList := by
    simp only [InvalidName.mk.injEq, NameFault.offending.injEq,
      true_and] at hSame
    rw [hSame, String.toList_ofList]
  exact ⟨front, rest, hFragment ▸ hBlames⟩

end ImageName

end ContainerBuild
