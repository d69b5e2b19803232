import ContainerBuild.Proofs.StagingArea.Steps

/-
  This file shows that a staging area stays consistent in
  every series of permitted steps: contexts are at different
  paths within one directory, and those that have not been
  released are there.

  Key definitions include:
    * `StagingArea.IsConsistent`
    * `StagingArea.Spares`

  Main statements:
    * `StagingArea.IsConsistent.exists_spares`
    * `StagingArea.IsConsistent.step`
    * `StagingArea.IsConsistent.after`
-/

namespace ContainerBuild

namespace StagingArea

variable {base : Option Path}
variable {a : StagingArea}
variable {s : Step}

------------------------------------------------------------
-- Consistency
------------------------------------------------------------

/-
  What every series of permitted steps keeps up: contexts
  have different directories, all within one, on the way to
  which none of them lies; and the directory of each that
  has not been released is there.
-/
structure IsConsistent
    (base : Option Path)
    (a : StagingArea) : Prop where
  sound : a.disk.IsSound
  isIn :
    ∀ (i : Nat) (x : StagedContext),
      a.contexts[i]? = some x →
        (Staging.home base a.disk).IsIn x.context.directory
  distinct :
    ∀ (i j : Nat) (x y : StagedContext),
      a.contexts[i]? = some x →
      a.contexts[j]? = some y →
      x.context.directory = y.context.directory →
        i = j
  apart :
    ∀ (i : Nat) (x : StagedContext),
      a.contexts[i]? = some x →
      ∀ l, a.disk.OnWay (Staging.home base a.disk) l →
        ¬ a.disk.place x.context.directory <+: l
  present :
    ∀ (i : Nat) (x : StagedContext),
      a.contexts[i]? = some x →
      x.released = false →
        a.disk.find? x.context.directory.toText =
          some (a.disk.place x.context.directory, .directory)

namespace IsConsistent

theorem start
    {d : Disk}
    (hSound : d.IsSound) :
    IsConsistent base ⟨d, []⟩ :=
  ⟨hSound, by simp, by simp, by simp, by simp⟩

/- The disk changes, but the contexts remain. -/
theorem change
    (hConsistent : a.IsConsistent base)
    (hBase : ∀ dir, base = some dir → dir.IsPlain)
    {d' : Disk}
    {inside : Location → Prop}
    (hConfined :
      a.disk.Confined d' inside
        (a.disk.OnWay (Staging.home base a.disk)))
    (hWay :
      ∀ l, a.disk.OnWay (Staging.home base a.disk) l →
        ¬ inside l)
    (hThere :
      ∀ (i : Nat) (x : StagedContext),
        a.contexts[i]? = some x →
        x.released = false →
          d'.entry? (a.disk.place x.context.directory) =
            some .directory) :
    IsConsistent base ⟨d', a.contexts⟩ := by
  have hHome : Staging.home base d' =
      Staging.home base a.disk :=
    Staging.home_congr hConfined.temporary
  have hPlace := Disk.place_congr hConfined.working
  exact {
    sound :=
      ⟨hConfined.tree hConsistent.sound.tree,
        hConfined.temporary ▸ hConsistent.sound.temporary⟩
    isIn := by
      rw [hHome]
      exact hConsistent.isIn
    distinct := hConsistent.distinct
    apart := by
      intro i x hAt l hOn
      rw [hHome] at hOn
      rw [hPlace]
      exact hConsistent.apart i x hAt l
        (hOn.congr hConfined.working)
    present := by
      intro i x hAt hHeld
      have hIn := hConsistent.isIn i x hAt
      rw [hPlace]
      refine hConfined.find?
        (hIn.isPlain
          (Staging.isPlain_home hBase hConsistent.sound))
        (hConsistent.present i x hAt hHeld) ?_
        (hThere i x hAt hHeld)
      intro q hLeads hShort
      exact hWay _ ⟨q, hIn.leadsTo hLeads hShort, rfl⟩ }

/- A context counts as released, and is not removed yet. -/
theorem markReleased
    (hConsistent : a.IsConsistent base)
    {index : Nat}
    {x : StagedContext}
    (hAt : a.contexts[index]? = some x) :
    IsConsistent base
      ⟨a.disk,
        a.contexts.set index ⟨x.context, true⟩⟩ := by
  have hOld : ∀ (i : Nat) (y : StagedContext),
      (a.contexts.set index ⟨x.context, true⟩)[i]? =
          some y →
        ∃ z, a.contexts[i]? = some z ∧
          y.context = z.context ∧
          (y.released = false → z.released = false) := by
    intro i y hY
    rw [List.getElem?_set] at hY
    split at hY
    · rename_i hSame
      subst hSame
      split at hY
      · cases hY
        exact ⟨x, hAt, rfl, by simp⟩
      · exact absurd hY (by simp)
    · exact ⟨y, hY, rfl, id⟩
  exact {
    sound := hConsistent.sound
    isIn := by
      intro i y hY
      rcases hOld i y hY with ⟨z, hZ, hSame, _⟩
      rw [hSame]
      exact hConsistent.isIn i z hZ
    distinct := by
      intro i j y y' hY hY' hSame
      rcases hOld i y hY with ⟨z, hZ, hContext, _⟩
      rcases hOld j y' hY' with ⟨z', hZ', hContext', _⟩
      rw [hContext, hContext'] at hSame
      exact hConsistent.distinct i j z z' hZ hZ' hSame
    apart := by
      intro i y hY
      rcases hOld i y hY with ⟨z, hZ, hSame, _⟩
      rw [hSame]
      exact hConsistent.apart i z hZ
    present := by
      intro i y hY hHeld
      rcases hOld i y hY with ⟨z, hZ, hSame, hBefore⟩
      rw [hSame]
      exact hConsistent.present i z hZ (hBefore hHeld) }

/- A new context in a directory of its own. -/
theorem add
    (hConsistent : a.IsConsistent base)
    {c : BuildContext}
    (hIn : (Staging.home base a.disk).IsIn c.directory)
    (hNew :
      ∀ (i : Nat) (x : StagedContext),
        a.contexts[i]? = some x →
          x.context.directory ≠ c.directory)
    (hApart :
      ∀ l, a.disk.OnWay (Staging.home base a.disk) l →
        ¬ a.disk.place c.directory <+: l)
    (hFound :
      a.disk.find? c.directory.toText =
        some (a.disk.place c.directory, .directory)) :
    (a.add c).IsConsistent base := by
  have hCases : ∀ (i : Nat) (x : StagedContext),
      (a.contexts ++ [⟨c, false⟩])[i]? = some x →
        a.contexts[i]? = some x ∨
          i = a.contexts.length ∧ x = ⟨c, false⟩ := by
    intro i x hAt
    by_cases hOld : i < a.contexts.length
    · rw [List.getElem?_append_left hOld] at hAt
      exact Or.inl hAt
    · rw [List.getElem?_append_right (Nat.not_lt.mp hOld),
        List.getElem?_singleton] at hAt
      split at hAt
      · cases hAt
        exact Or.inr ⟨by omega, rfl⟩
      · exact absurd hAt (by simp)
  exact {
    sound := hConsistent.sound
    isIn := by
      intro i x hAt
      rcases hCases i x hAt with hOld | ⟨_, rfl⟩
      · exact hConsistent.isIn i x hOld
      · exact hIn
    distinct := by
      intro i j x y hX hY hSame
      rcases hCases i x hX with hX | ⟨hI, rfl⟩ <;>
        rcases hCases j y hY with hY | ⟨hJ, rfl⟩
      · exact hConsistent.distinct i j x y hX hY hSame
      · exact absurd hSame (hNew i x hX)
      · exact absurd hSame.symm (hNew j y hY)
      · rw [hI, hJ]
    apart := by
      intro i x hAt
      rcases hCases i x hAt with hOld | ⟨_, rfl⟩
      · exact hConsistent.apart i x hOld
      · exact hApart
    present := by
      intro i x hAt hHeld
      rcases hCases i x hAt with hOld | ⟨_, rfl⟩
      · exact hConsistent.present i x hOld hHeld
      · exact hFound }

end IsConsistent

------------------------------------------------------------
-- Spared Contexts
------------------------------------------------------------

/-
  A change of the disk that leaves alone the way to the
  directory of contexts, and all contexts but one at most.
-/
structure Spares
    (base : Option Path)
    (a : StagingArea)
    (target : Option Nat)
    (d' : Disk)
    (inside : Location → Prop) : Prop where
  confined :
    a.disk.Confined d' inside
      (a.disk.OnWay (Staging.home base a.disk))
  way :
    ∀ l, a.disk.OnWay (Staging.home base a.disk) l →
      ¬ inside l
  others :
    ∀ (i : Nat) (x : StagedContext),
      a.contexts[i]? = some x →
      target ≠ some i →
      ∀ l, a.disk.place x.context.directory <+: l →
        ¬ inside l

namespace Spares

variable {target : Option Nat}
variable {d' : Disk}
variable {inside : Location → Prop}

/- Making the way to the directory spares all contexts. -/
theorem of_grows
    (hGrows :
      a.disk.Grows d'
        (a.disk.OnWay (Staging.home base a.disk)))
    (target : Option Nat) :
    Spares base a target d' (fun _ => False) where
  confined := hGrows.confined (fun _ hOn => Or.inr hOn)
  way := fun _ _ => id
  others := fun _ _ _ _ _ _ => id

/- A change in a directory spares those of other paths. -/
theorem of_confined
    (hConsistent : a.IsConsistent base)
    {p : Path}
    (hIn : (Staging.home base a.disk).IsIn p)
    (hApart :
      ∀ l, a.disk.OnWay (Staging.home base a.disk) l →
        ¬ a.disk.place p <+: l)
    (hOther :
      ∀ (i : Nat) (x : StagedContext),
        a.contexts[i]? = some x →
        target ≠ some i →
          x.context.directory ≠ p)
    (hConfined :
      a.disk.Confined d' (a.disk.place p <+: ·)
        (a.disk.OnWay (Staging.home base a.disk))) :
    Spares base a target d' (a.disk.place p <+: ·) where
  confined := hConfined
  way := hApart
  others := by
    intro i x hAt hNot l hUnder hInside
    exact hOther i x hAt hNot
      (Disk.eq_of_place_prefix (hConsistent.isIn i x hAt)
        hIn hUnder hInside)

/- A change in the directory of one context. -/
theorem of_context
    (hConsistent : a.IsConsistent base)
    {index : Nat}
    {x : StagedContext}
    (hAt : a.contexts[index]? = some x)
    (hConfined :
      a.disk.Confined d'
        (a.disk.place x.context.directory <+: ·)
        (a.disk.OnWay (Staging.home base a.disk))) :
    Spares base a (some index) d'
      (a.disk.place x.context.directory <+: ·) := by
  refine of_confined hConsistent
    (hConsistent.isIn index x hAt)
    (hConsistent.apart index x hAt) ?_ hConfined
  intro i y hY hNot hSame
  exact hNot (congrArg some
    (hConsistent.distinct i index y x hY hAt hSame).symm)

/- Everything in a spared context stays as it is. -/
theorem entry
    (hSpares : Spares base a target d' inside)
    (hConsistent : a.IsConsistent base)
    {i : Nat}
    {x : StagedContext}
    (hAt : a.contexts[i]? = some x)
    (hNot : target ≠ some i)
    {l : Location}
    (hUnder : a.disk.place x.context.directory <+: l) :
    d'.entry? l = a.disk.entry? l :=
  hSpares.confined.entry
    (hSpares.others i x hAt hNot l hUnder)
    (fun hOn => hConsistent.apart i x hAt l hOn hUnder)

/- So its directory is still there. -/
theorem directory
    (hSpares : Spares base a target d' inside)
    (hConsistent : a.IsConsistent base)
    {i : Nat}
    {x : StagedContext}
    (hAt : a.contexts[i]? = some x)
    (hNot : target ≠ some i)
    (hHeld : x.released = false) :
    d'.entry? (a.disk.place x.context.directory) =
      some .directory := by
  rw [hSpares.entry hConsistent hAt hNot
    (List.prefix_refl _)]
  exact (Disk.find?_eq_some_iff.mp
    (hConsistent.present i x hAt hHeld)).2

/- An area whose contexts are all spared stays consistent. -/
theorem isConsistent
    (hSpares : Spares base a none d' inside)
    (hConsistent : a.IsConsistent base)
    (hBase : ∀ dir, base = some dir → dir.IsPlain) :
    IsConsistent base ⟨d', a.contexts⟩ :=
  hConsistent.change hBase hSpares.confined hSpares.way
    (fun _ _ hAt hHeld =>
      hSpares.directory hConsistent hAt (by simp) hHeld)

end Spares

------------------------------------------------------------
-- Consistent Steps
------------------------------------------------------------

namespace IsConsistent

theorem place_ne_nil
    (hConsistent : a.IsConsistent base)
    {i : Nat}
    {x : StagedContext}
    (hAt : a.contexts[i]? = some x) :
    a.disk.place x.context.directory ≠ [] := by
  rcases Disk.place_of_isIn (hConsistent.isIn i x hAt)
      a.disk with
    ⟨name, _, hPlace⟩
  simp [hPlace]

theorem isPlain
    (hConsistent : a.IsConsistent base)
    (hBase : ∀ dir, base = some dir → dir.IsPlain)
    {i : Nat}
    {x : StagedContext}
    (hAt : a.contexts[i]? = some x) :
    x.context.directory.IsPlain :=
  (hConsistent.isIn i x hAt).isPlain
    (Staging.isPlain_home hBase hConsistent.sound)

/- A fresh path is not that of any context. -/
theorem ne_of_isFresh
    (hConsistent : a.IsConsistent base)
    {p : Path}
    (hFresh : Staging.IsFresh base p a.disk)
    (hUnused :
      ∀ x ∈ a.contexts, x.released = true →
        x.context.directory ≠ p)
    {i : Nat}
    {x : StagedContext}
    (hAt : a.contexts[i]? = some x) :
    x.context.directory ≠ p := by
  cases hReleased : x.released with
  | true =>
      exact hUnused x (List.mem_of_getElem? hAt) hReleased
  | false =>
      rintro rfl
      have hFound :=
        hConsistent.present i x hAt hReleased
      have hThere := (Disk.find?_eq_some_iff.mp hFound).2
      rw [hFresh.none] at hThere
      exact absurd hThere (by simp)

/- Releasing a context spares the others. -/
theorem exists_spares_release
    (hConsistent : a.IsConsistent base)
    (hBase : ∀ dir, base = some dir → dir.IsPlain)
    (index : Nat) :
    ∃ inside,
      Spares base a (some index) (a.release index).disk
        inside := by
  unfold StagingArea.release
  split
  · exact ⟨_, .of_grows (.refl a.disk _) _⟩
  · rename_i x hAt
    split
    · exact ⟨_, .of_grows (.refl a.disk _) _⟩
    · exact ⟨_, .of_context hConsistent hAt
        (Staging.confined_clear
          (hConsistent.isPlain hBase hAt)
          (hConsistent.place_ne_nil hAt))⟩

/- So does every permitted step, of whatever kind. -/
theorem exists_spares
    (hConsistent : a.IsConsistent base)
    (hBase : ∀ dir, base = some dir → dir.IsPlain)
    (hPermits : a.Permits base s) :
    ∃ inside,
      Spares base a s.target? (step base s a).2.disk
        inside := by
  cases s with
  | stage source name =>
      have hOther : ∀ p,
          (Staging.newDirectory base a.disk).1 = .ok p →
            Staging.IsFresh base p a.disk →
            ∀ (i : Nat) (x : StagedContext),
              a.contexts[i]? = some x →
              Step.target? (.stage source name) ≠ some i →
                x.context.directory ≠ p :=
        fun p hNew hFresh i x hAt _ =>
          hConsistent.ne_of_isFresh hFresh
            (hPermits p hNew) hAt
      rcases hStage :
          Staging.stage base source name a.disk with
        ⟨f | c, d'⟩
      · rw [step_stage_of_error hStage]
        rcases Staging.course_of_stage_error hBase
            hConsistent.sound hStage with
          hGrows | ⟨p, hNew, hFresh, hConfined⟩
        · exact ⟨_, .of_grows hGrows _⟩
        · exact ⟨_, .of_confined hConsistent hFresh.isIn
            hFresh.apart (hOther p hNew hFresh) hConfined⟩
      · rw [step_stage_of_ok hStage]
        rcases Staging.isFresh_of_stage hBase
            hConsistent.sound hStage with
          ⟨hNew, hFresh⟩
        have hContext := (Staging.hasContext_of_stage hBase
          hConsistent.sound.tree
          hConsistent.sound.temporary hStage).2
        exact ⟨_, .of_confined hConsistent hFresh.isIn
          hFresh.apart (hOther _ hNew hFresh)
          hContext.confined⟩
  | release index =>
      rw [Step.Releases.snd_step (Or.inl rfl)]
      exact hConsistent.exists_spares_release hBase index
  | within index failure =>
      rw [Step.Releases.snd_step (Or.inr ⟨failure, rfl⟩)]
      exact hConsistent.exists_spares_release hBase index
  | write index name octets =>
      cases hAt : a.contexts[index]? with
      | none =>
          rw [snd_step_write_of_none hAt]
          exact ⟨_, .of_grows (.refl a.disk _) _⟩
      | some x =>
          rcases hWrite :
              writeIn x.context name octets a.disk with
            ⟨r, d'⟩
          rw [snd_step_write hAt hWrite]
          exact ⟨_, .of_context hConsistent hAt
            (confined_writeIn
              (Staging.isPlain_home hBase hConsistent.sound)
              (hConsistent.isIn index x hAt)
              (hPermits x hAt) hWrite).1⟩

/- Releasing a context leaves the area consistent. -/
theorem release
    (hConsistent : a.IsConsistent base)
    (hBase : ∀ dir, base = some dir → dir.IsPlain)
    (index : Nat) :
    (a.release index).IsConsistent base := by
  rcases hConsistent.exists_spares_release hBase index with
    ⟨inside, hSpares⟩
  unfold StagingArea.release at hSpares ⊢
  split
  · exact hConsistent
  · rename_i x hAt
    simp only [hAt] at hSpares
    split
    · exact hConsistent
    · rename_i hHeld
      rw [if_neg hHeld] at hSpares
      refine (hConsistent.markReleased hAt).change hBase
        hSpares.confined hSpares.way ?_
      intro i y hY hNot
      rw [List.getElem?_set] at hY
      split at hY
      · split at hY
        · cases hY
          exact absurd hNot (by simp)
        · exact absurd hY (by simp)
      · rename_i hOther
        exact hSpares.directory hConsistent hY
          (by simpa using hOther) hNot

/-
  Staging leaves the area consistent: a context that was made
  is one more, at a path that no other has.
-/
theorem stage
    (hConsistent : a.IsConsistent base)
    (hBase : ∀ dir, base = some dir → dir.IsPlain)
    {source name : String}
    (hPermits : a.Permits base (.stage source name)) :
    (StagingArea.step base
        (.stage source name) a).2.IsConsistent base := by
  rcases hConsistent.exists_spares hBase hPermits with
    ⟨inside, hSpares⟩
  rcases hStage :
      Staging.stage base source name a.disk with
    ⟨f | c, d'⟩
  · rw [step_stage_of_error hStage] at hSpares ⊢
    exact hSpares.isConsistent hConsistent hBase
  · rw [step_stage_of_ok hStage] at hSpares ⊢
    rcases Staging.isFresh_of_stage hBase hConsistent.sound
        hStage with
      ⟨hNew, hFresh⟩
    have hContext := (Staging.hasContext_of_stage hBase
      hConsistent.sound.tree
      hConsistent.sound.temporary hStage).2
    have hPlace := Disk.place_congr hContext.working
    have hHome : Staging.home base d' =
        Staging.home base a.disk :=
      Staging.home_congr hContext.temporary
    refine (hSpares.isConsistent hConsistent hBase).add
      ?_ ?_ ?_ ?_
    · rw [hHome]
      exact hFresh.isIn
    · intro i x hAt
      exact hConsistent.ne_of_isFresh hFresh
        (hPermits _ hNew) hAt
    · intro l hOn
      rw [hHome] at hOn
      rw [hPlace]
      exact hFresh.apart l (hOn.congr hContext.working)
    · rw [hPlace]
      exact hContext.found

/- Writing removes no directory of a context. -/
theorem write
    (hConsistent : a.IsConsistent base)
    (hBase : ∀ dir, base = some dir → dir.IsPlain)
    {index : Nat}
    {name : String}
    {octets : List UInt8}
    (hPermits :
      a.Permits base (.write index name octets)) :
    (StagingArea.step base
        (.write index name octets) a).2.IsConsistent
      base := by
  rcases hConsistent.exists_spares hBase hPermits with
    ⟨inside, hSpares⟩
  cases hAt : a.contexts[index]? with
  | none =>
      rw [snd_step_write_of_none hAt]
      exact hConsistent
  | some x =>
      rcases hWrite :
          writeIn x.context name octets a.disk with ⟨r, d'⟩
      rw [snd_step_write hAt hWrite] at hSpares ⊢
      have hKeeps := (confined_writeIn
        (Staging.isPlain_home hBase hConsistent.sound)
        (hConsistent.isIn index x hAt)
        (hPermits x hAt) hWrite).2
      refine hConsistent.change hBase hSpares.confined
        hSpares.way ?_
      intro i y hY hHeld
      exact hKeeps.directory _
        (Disk.find?_eq_some_iff.mp
          (hConsistent.present i y hY hHeld)).2

/- Every permitted step leaves the area consistent. -/
theorem step
    (hConsistent : a.IsConsistent base)
    (hBase : ∀ dir, base = some dir → dir.IsPlain)
    (hPermits : a.Permits base s) :
    (StagingArea.step base s a).2.IsConsistent base := by
  cases s with
  | stage source name => exact hConsistent.stage hBase hPermits
  | release index =>
      rw [Step.Releases.snd_step (Or.inl rfl)]
      exact hConsistent.release hBase index
  | within index failure =>
      rw [Step.Releases.snd_step (Or.inr ⟨failure, rfl⟩)]
      exact hConsistent.release hBase index
  | write index name octets =>
      exact hConsistent.write hBase hPermits

/- So does every series of them, by induction on the series. -/
theorem after
    {steps : List Step}
    (hConsistent : a.IsConsistent base)
    (hBase : ∀ dir, base = some dir → dir.IsPlain)
    (hAllows : a.Allows base steps) :
    (a.after base steps).IsConsistent base := by
  induction steps generalizing a with
  | nil => exact hConsistent
  | cons s rest ih =>
      exact ih (hConsistent.step hBase hAllows.1) hAllows.2

end IsConsistent

end StagingArea

end ContainerBuild
