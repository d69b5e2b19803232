import ContainerBuild.Proofs.Builder.Cleanup
import ContainerBuild.Proofs.ImageName.Language
import Mathlib.Data.List.Chain

/-
  This file compares accepted names with the rule for names
  that is quoted when one is turned down: runs of letters
  and digits, joined by single separators. Accepted names
  may break it by a separator at an end, or by two in a row,
  and they get to the registry and the backend all the same.

  Key definitions include:
    * `ImageName.ObeysDockerRule`
    * `ImageName.SeparatesWell`
    * `Builder.Reaches`

  Main statements:
    * `ImageName.obeysDockerRule_iff`
    * `Builder.reaches_iff`
    * `docker_rule_obeyed_iff`
-/

namespace ContainerBuild

namespace ImageName

------------------------------------------------------------
-- The Quoted Rule
------------------------------------------------------------

/- The characters that join runs of letters and digits. -/
def IsSeparator (c : Char) : Prop :=
  c = '.' ∨ c = '_' ∨ c = '-'

/- Letters and digits, at least one of them. -/
def IsRun (cs : List Char) : Prop :=
  cs ≠ [] ∧ ∀ c ∈ cs, IsAlphanumeric c

/-
  The rule [a-z0-9]+(?:[._-][a-z0-9]+)* for a component as a
  whole.
-/
inductive ObeysDockerRule : List Char → Prop
  | run (cs : List Char) : IsRun cs → ObeysDockerRule cs
  | join (cs : List Char) (c : Char) (rest : List Char) :
      IsRun cs → IsSeparator c → ObeysDockerRule rest →
        ObeysDockerRule (cs ++ c :: rest)

/-
  No separator stands at an end, and no two of them stand
  next to each other.
-/
structure SeparatesWell (cs : List Char) : Prop where
  starts : ∀ c, cs.head? = some c → IsAlphanumeric c
  ends : ∀ c, cs.getLast? = some c → IsAlphanumeric c
  apart :
    cs.IsChain
      (fun c d => IsAlphanumeric c ∨ IsAlphanumeric d)

variable {c d : Char}
variable {cs rest : List Char}

theorem isRegistrySign_iff :
    IsRegistrySign c ↔ IsAlphanumeric c ∨ IsSeparator c :=
  Iff.rfl

theorem IsRun.separatesWell
    (hRun : IsRun cs) :
    SeparatesWell cs where
  starts := fun c hHead =>
    hRun.2 c (List.mem_of_head? hHead)
  ends := fun c hLast =>
    hRun.2 c (List.mem_of_getLast? hLast)
  apart := by
    apply List.Pairwise.isChain
    apply List.pairwise_of_forall_mem_list
    intro c hMem d _
    exact Or.inl (hRun.2 c hMem)

/- A separator between a run and what separates well. -/
theorem SeparatesWell.join
    (hRun : IsRun cs)
    (hSome : rest ≠ [])
    (hRest : SeparatesWell rest)
    (c : Char) :
    SeparatesWell (cs ++ c :: rest) where
  starts := by
    intro d hHead
    rw [List.head?_append_of_ne_nil cs hRun.1] at hHead
    exact hRun.2 d (List.mem_of_head? hHead)
  ends := by
    intro d hLast
    rw [List.getLast?_append_cons,
      List.getLast?_cons_of_ne_nil hSome] at hLast
    exact hRest.ends d hLast
  apart := by
    apply List.isChain_append.mpr
    refine ⟨hRun.separatesWell.apart, ?_, ?_⟩
    · apply List.isChain_cons.mpr
      refine ⟨?_, hRest.apart⟩
      intro d hHead
      exact Or.inr (hRest.starts d hHead)
    · intro d hLast _ _
      exact Or.inl (hRun.2 d (List.mem_of_getLast? hLast))

/- One more letter or digit in front makes no difference. -/
theorem ObeysDockerRule.cons
    (hPlain : IsAlphanumeric c)
    (hObeys : ObeysDockerRule cs) :
    ObeysDockerRule (c :: cs) := by
  have hLonger : ∀ xs, IsRun xs → IsRun (c :: xs) := by
    intro xs hRun
    exact ⟨by simp, List.forall_mem_cons.mpr
      ⟨hPlain, hRun.2⟩⟩
  cases hObeys with
  | run _ hRun => exact .run _ (hLonger cs hRun)
  | join front d rest hRun hSeparator hRest =>
      exact .join (c :: front) d rest (hLonger front hRun)
        hSeparator hRest

/- What follows some characters, from a letter or digit on. -/
theorem SeparatesWell.behind
    (front : List Char)
    (hWell : SeparatesWell (front ++ c :: rest))
    (hPlain : IsAlphanumeric c) :
    SeparatesWell (c :: rest) where
  starts := by
    intro d hHead
    cases hHead
    exact hPlain
  ends := by
    intro d hLast
    apply hWell.ends
    rw [List.getLast?_append_cons, hLast]
  apart := (List.isChain_append.mp hWell.apart).2.1

/-
  Induction on the length: behind the first character there
  is a run that goes on, or a separator and another run.
-/
theorem obeysDockerRule_of_separatesWell
    (hSome : cs ≠ [])
    (hPasses : ∀ c ∈ cs, IsRegistrySign c)
    (hWell : SeparatesWell cs) :
    ObeysDockerRule cs := by
  induction hLength : cs.length using Nat.strong_induction_on
    generalizing cs with
  | _ n ih =>
      subst hLength
      cases cs with
      | nil => exact absurd rfl hSome
      | cons c behind =>
          have hPlain : IsAlphanumeric c :=
            hWell.starts c rfl
          have hPassed :
              ∀ d ∈ behind, IsRegistrySign d :=
            fun d hMem =>
              hPasses d (List.mem_cons_of_mem c hMem)
          cases behind with
          | nil => exact .run [c] ⟨by simp, by simpa⟩
          | cons d rest =>
              by_cases hNext : IsAlphanumeric d
              · apply ObeysDockerRule.cons hPlain
                exact ih _ (by simp) (by simp) hPassed
                  (.behind [c] hWell hNext) rfl
              · have hSeparator : IsSeparator d :=
                  (isRegistrySign_iff.mp
                    (hPassed d (by simp))).resolve_left
                      hNext
                cases rest with
                | nil =>
                    exact absurd (hWell.ends d rfl) hNext
                | cons e more =>
                    have hAfter : IsAlphanumeric e :=
                      ((List.isChain_cons_cons.mp
                        hWell.apart.of_cons).1).resolve_left
                          hNext
                    apply ObeysDockerRule.join [c] d
                      (e :: more) ⟨by simp, by simpa⟩
                      hSeparator
                    apply ih _ (by simp) (by simp) ?_
                      (.behind [c, d] hWell hAfter) rfl
                    intro x hMem
                    exact hPassed x
                      (List.mem_cons_of_mem d hMem)

/- The rule, said by separators. -/
theorem obeysDockerRule_iff :
    ObeysDockerRule cs ↔
      cs ≠ [] ∧ (∀ c ∈ cs, IsRegistrySign c) ∧
        SeparatesWell cs := by
  constructor
  · intro hObeys
    induction hObeys with
    | run cs hRun =>
        exact ⟨hRun.1,
          fun c hMem => (hRun.2 c hMem).isRegistrySign,
          hRun.separatesWell⟩
    | join cs c rest hRun hSeparator _ ih =>
        rcases ih with ⟨hSome, hPasses, hWell⟩
        refine ⟨by simp, ?_, .join hRun hSome hWell c⟩
        intro d hMem
        rcases List.mem_append.mp hMem with hFront | hMem
        · exact (hRun.2 d hFront).isRegistrySign
        · rcases List.mem_cons.mp hMem with rfl | hRest
          · exact isRegistrySign_iff.mpr
              (Or.inr hSeparator)
          · exact hPasses d hRest
  · rintro ⟨hSome, hPasses, hWell⟩
    exact obeysDockerRule_of_separatesWell hSome hPasses
      hWell

end ImageName

------------------------------------------------------------
-- Names That Get Through
------------------------------------------------------------

namespace Builder

variable {σ : Type}

variable {b : Builder σ}
variable {o : BuildOrder}
variable {s : σ}

/- The registry is asked for every name that is accepted. -/
theorem lookUp_mem_calls_iff
    {path name : String} :
    .lookUp path name ∈ b.calls o s ↔
      ImageName.check o.image = .ok () ∧
        b.registry.isSome = true ∧
        path = o.namespaceName ++ "/" ++ o.repository ∧
        name = o.image := by
  have hMakes := b.makes_calls o s
  generalize b.calls o s = calls at hMakes
  cases hMakes with
  | unnamed f hName =>
      simp only [List.not_mem_nil, false_iff]
      rintro ⟨hCheck, _⟩
      simp [checkName, hCheck] at hName
  | refused f checked hName hAbsent =>
      simp [mem_lookUps, check_of_checkName hName]
  | unstaged f checked staged hName hAbsent hStage =>
      simp [mem_lookUps, check_of_checkName hName]
  | sent c staged hStages =>
      simp [mem_sequence, mem_lookUps,
        check_of_checkName hStages.name]

/- What is sent was staged before. -/
theorem exists_stages_of_send
    {request : BuildRequest}
    (hCall : .send request ∈ b.calls o s) :
    ∃ c staged,
      b.Stages o s c staged ∧ request = b.job o c := by
  have hMakes := b.makes_calls o s
  generalize b.calls o s = calls at hMakes hCall
  cases hMakes with
  | unnamed f hName => exact absurd hCall (by simp)
  | refused f checked hName hAbsent =>
      exact absurd hCall (by simp [mem_lookUps])
  | unstaged f checked staged hName hAbsent hStage =>
      exact absurd hCall (by simp [mem_lookUps])
  | sent c staged hStages =>
      refine ⟨c, staged, hStages, ?_⟩
      simpa [mem_sequence, mem_lookUps] using hCall

/- The registry or the backend is called with the name. -/
inductive Reaches
    (b : Builder σ)
    (o : BuildOrder)
    (s : σ) : Prop
  | lookUp (path : String) :
      .lookUp path o.image ∈ b.calls o s → Reaches b o s
  | send (request : BuildRequest) :
      .send request ∈ b.calls o s →
      request.imageName = o.reference.fullName →
        Reaches b o s

/-
  A name gets through if it is accepted and if there is
  somebody to be called with it.
-/
theorem reaches_iff :
    b.Reaches o s ↔
      ImageName.check o.image = .ok () ∧
        (b.registry.isSome = true ∨
          ∃ c staged, b.Stages o s c staged) := by
  constructor
  · rintro (⟨path, hCall⟩ | ⟨request, hCall, _⟩)
    · rcases lookUp_mem_calls_iff.mp hCall with
        ⟨hCheck, hRegistry, _⟩
      exact ⟨hCheck, Or.inl hRegistry⟩
    · rcases exists_stages_of_send hCall with
        ⟨c, staged, hStages, _⟩
      exact ⟨check_of_checkName hStages.name,
        Or.inr ⟨c, staged, hStages⟩⟩
  · rintro ⟨hCheck, hRegistry | ⟨c, staged, hStages⟩⟩
    · apply Reaches.lookUp
      exact lookUp_mem_calls_iff.mpr
        ⟨hCheck, hRegistry, rfl, rfl⟩
    · apply Reaches.send (b.job o c) ?_ rfl
      rw [hStages.calls, mem_sequence]
      exact Or.inr (Or.inr (Or.inl rfl))

end Builder

/-
  An accepted name has one or two components, and obeys the
  quoted rule exactly if its separators stand apart from the
  ends and from each other. Nothing else is turned down on
  the way to the registry or the backend: a name gets there
  whether it obeys the rule or not.
-/
theorem docker_rule_obeyed_iff
    {σ : Type}
    (b : Builder σ)
    (o : BuildOrder)
    (s : σ) :
    (ImageName.check o.image = .ok () →
      (ImageName.components o.image).length ∈ [1, 2] ∧
        ((∀ part ∈ ImageName.components o.image,
            ImageName.ObeysDockerRule part) ↔
          ∀ part ∈ ImageName.components o.image,
            ImageName.SeparatesWell part)) ∧
    (b.Reaches o s ↔
      ImageName.check o.image = .ok () ∧
        (b.registry.isSome = true ∨
          ∃ c staged, b.Stages o s c staged)) := by
  refine ⟨?_, Builder.reaches_iff⟩
  intro hCheck
  have hName := ImageName.check_eq_ok_iff.mp hCheck
  rcases ImageName.isName_iff.mp hName with ⟨hFew, hParts⟩
  constructor
  · have hSome : ImageName.components o.image ≠ [] :=
      Text.splitAll_ne_nil ':' o.image.toList
    have hLength := List.length_pos_of_ne_nil hSome
    simp only [List.mem_cons, List.not_mem_nil, or_false]
    omega
  · apply forall₂_congr
    intro part hMem
    rcases hParts part hMem with ⟨hNonempty, hSigns⟩
    rw [ImageName.obeysDockerRule_iff]
    constructor
    · rintro ⟨_, _, hWell⟩
      exact hWell
    · intro hWell
      refine ⟨hNonempty, ?_, hWell⟩
      intro c hChar
      exact (ImageName.isNameSign_iff.mp
        (hSigns c hChar)).2

/- The order of a name. -/
def BuildOrder.named (name : String) : BuildOrder :=
  ⟨"/srv/Dockerfile", "Dockerfile", "realm", "tools", name⟩

/- A name that obeys, and one that starts with a separator. -/
theorem docker_rule_obeyed_iff_sample :
    ImageName.check "web-app:v1" = .ok () ∧
    (∀ part ∈ ImageName.components "web-app:v1",
      ImageName.ObeysDockerRule part) ∧
    ImageName.check "-web" = .ok () ∧
    (¬ ∀ part ∈ ImageName.components "-web",
      ImageName.ObeysDockerRule part) ∧
    (Builder.bare (.giving .records (.numbers []))).Reaches
      (.named "-web") .blank := by
  have hObeys : ImageName.check "web-app:v1" = .ok () := rfl
  have hBreaks : ImageName.check "-web" = .ok () := rfl
  have hRule := fun name =>
    docker_rule_obeyed_iff
      (Builder.bare (.giving .records (.numbers [])))
      (.named name) .blank
  refine ⟨hObeys, ?_, hBreaks, ?_, ?_⟩
  · apply ((hRule "web-app:v1").1 hObeys).2.mpr
    have hParts :
        ImageName.components
            (BuildOrder.named "web-app:v1").image =
          ["web-app".toList, "v1".toList] :=
      rfl
    simp only [hParts, List.forall_mem_cons]
    refine ⟨⟨?_, ?_, ?_⟩, ⟨?_, ?_, ?_⟩, by simp⟩
    all_goals simp [ImageName.IsAlphanumeric]
  · intro hAll
    have hWell := ((hRule "-web").1 hBreaks).2.mp hAll
      "-web".toList (by decide)
    exact absurd (hWell.starts '-' rfl)
      (by simp [ImageName.IsAlphanumeric])
  · apply (hRule "-web").2.mpr
    exact ⟨hBreaks, Or.inr
      ⟨_, _, Builder.bare_stages _ _ _ rfl⟩⟩

/-
  An accepted name that the rule forbids: the registry is
  asked for it, and it is sent to the backend.
-/
theorem not_docker_rule_obeyed :
    ImageName.check "-web" = .ok () ∧
    "-web".toList ∈ ImageName.components "-web" ∧
    ¬ ImageName.ObeysDockerRule "-web".toList ∧
    .lookUp "realm/tools" "-web" ∈
      Builder.scribbling.calls (.named "-web")
        (.afterContexts 0) ∧
    ∃ request,
      .send request ∈
          Builder.scribbling.calls (.named "-web")
            (.afterContexts 0) ∧
        request.imageName = "realm/tools:-web" := by
  refine ⟨rfl, by decide, ?_, by decide +kernel,
    Builder.scribbling.job (.named "-web")
      (.numbered "imagebuild-aaaaaaaa"),
    by decide +kernel, by decide +kernel⟩
  intro hObeys
  have hWell := (ImageName.obeysDockerRule_iff.mp hObeys).2.2
  exact absurd (hWell.starts '-' rfl)
    (by simp [ImageName.IsAlphanumeric])

end ContainerBuild
