import ContainerBuild.Proofs.Staging
import ContainerBuild.Proofs.Files.Confined

/-
  This file says what staging can do to a disk, also when it
  fails. A new directory is at a path within the directory
  of contexts at which there was nothing; elsewhere at most
  the way to that directory is made.

  Key definitions include:
    * `Path.IsIn`
    * `Staging.home`
    * `Staging.IsFresh`

  Main statements:
    * `Disk.eq_of_place_prefix`
    * `Staging.isFresh_of_stage`
    * `Staging.course_of_stage_error`
-/

namespace ContainerBuild

------------------------------------------------------------
-- Children
------------------------------------------------------------

namespace Path

variable {dir p q : Path}

/- A path that names something within a directory. -/
def IsIn (dir p : Path) : Prop :=
  ∃ name, IsPlainName name ∧ name ≠ ".." ∧
    p = dir.join ⟨"", [name]⟩

theorem IsIn.isPlain
    (hIn : dir.IsIn p)
    (hPlain : dir.IsPlain) :
    p.IsPlain := by
  rcases hIn with ⟨name, hName, _, rfl⟩
  exact hPlain.join ⟨Or.inl rfl, by simpa using hName⟩

/-
  The way to it, short of itself, is the way to the
  directory.
-/
theorem IsIn.leadsTo
    (hIn : dir.IsIn p)
    (hLeads : q.LeadsTo p)
    (hShort : q.parts ≠ p.parts) :
    q.LeadsTo dir := by
  rcases hIn with ⟨name, _, _, rfl⟩
  refine ⟨hLeads.root, ?_⟩
  rcases List.prefix_concat_iff.mp hLeads.parts with
    hSame | hPrefix
  · exact absurd hSame hShort
  · exact hPrefix

end Path

namespace Disk

variable {d : Disk}
variable {dir p q : Path}

theorem place_of_isIn
    (hIn : dir.IsIn p)
    (d : Disk) :
    ∃ name, p = dir.join ⟨"", [name]⟩ ∧
      d.place p = d.place dir ++ [name] := by
  rcases hIn with ⟨name, hName, hUp, rfl⟩
  refine ⟨name, rfl, ?_⟩
  rw [place_join, further_of_isPart hName.part hUp]

/- Different names in one directory have nothing in common. -/
theorem eq_of_place_prefix
    (hP : dir.IsIn p)
    (hQ : dir.IsIn q)
    {l : Location}
    (hBelowP : d.place p <+: l)
    (hBelowQ : d.place q <+: l) :
    p = q := by
  rcases place_of_isIn hP d with ⟨m, hPathP, hPlaceP⟩
  rcases place_of_isIn hQ d with ⟨n, hPathQ, hPlaceQ⟩
  rw [hPlaceP] at hBelowP
  rw [hPlaceQ] at hBelowQ
  have hPrefix :=
    List.prefix_of_prefix_length_le hBelowP hBelowQ
      (by simp)
  have hNames : m = n := by
    simpa using hPrefix.eq_of_length (by simp)
  rw [hPathP, hPathQ, hNames]

end Disk

------------------------------------------------------------
-- Staging
------------------------------------------------------------

namespace Staging

variable {d d' : Disk}
variable {base : Option Path}
variable {p : Path}

/- The directory in which contexts are made. -/
def home
    (base : Option Path)
    (d : Disk) : Path :=
  base.getD d.temporary

theorem home_congr
    (hTemporary : d'.temporary = d.temporary) :
    home base d' = home base d := by
  rw [home, home, hTemporary]

theorem isPlain_home
    (hBase : ∀ dir, base = some dir → dir.IsPlain)
    (hSound : d.IsSound) :
    (home base d).IsPlain := by
  cases base with
  | none => exact hSound.temporary
  | some dir => exact hBase dir rfl

/- The way to the base directory is the way to it. -/
theorem IsOnWay.home
    {l : Location}
    (hWay : IsOnWay base d l) :
    d.OnWay (home base d) l := by
  rcases hWay with ⟨dir, rfl, hOn⟩
  exact hOn

/-
  A path within that directory at which there is nothing, and
  through which the way to that directory does not lead.
-/
structure IsFresh
    (base : Option Path)
    (p : Path)
    (d : Disk) : Prop where
  isIn : (home base d).IsIn p
  none : d.entry? (d.place p) = none
  apart :
    ∀ l, d.OnWay (home base d) l → ¬ d.place p <+: l

theorem IsFresh.place_ne_nil
    (hFresh : IsFresh base p d) :
    d.place p ≠ [] := by
  intro hRoot
  have hNone := hFresh.none
  rw [hRoot] at hNone
  exact absurd hNone (by simp)

/- A new directory is made at a fresh path. -/
theorem isFresh_of_newDirectory
    (hBase : ∀ dir, base = some dir → dir.IsPlain)
    (hSound : d.IsSound)
    (hNew : newDirectory base d = (.ok p, d')) :
    IsFresh base p d ∧
      d.Confined d' (d.place p <+: ·)
        (d.OnWay (home base d)) := by
  rcases hasTemporary_of_newDirectory hBase
      hSound.temporary hNew with
    ⟨dir, grown, _, hDir, hGrown, hMade⟩
  have hPlace : grown.place p = d.place p :=
    Disk.place_congr hGrown.working p
  have hNone := hMade.fresh
  rw [hPlace] at hNone
  refine ⟨⟨?_, ?_, ?_⟩, ?_⟩
  · rw [home, hDir]
    exact hMade.path
  · rcases hGrown.entry (d.place p) with
      hSame | ⟨_, hEmpty, _⟩
    · rw [← hSame, hNone]
    · exact hEmpty
  · rintro l ⟨q, hLeads, rfl⟩ hUnder
    rw [home, hDir] at hLeads
    have hThere := hMade.way q hLeads
    rw [Disk.place_congr hGrown.working q,
      (hGrown.tree hSound.tree).none_below hNone hUnder]
      at hThere
    exact absurd hThere (by simp)
  · have hFirst :
        d.Confined grown (d.place p <+: ·)
          (d.OnWay (home base d)) :=
      hGrown.confined (fun l hOn => Or.inr hOn.home)
    refine hFirst.trans (hMade.grows.confined ?_)
    rintro l rfl
    exact Or.inl (hPlace ▸ List.prefix_refl _)

/- Without a new directory only the way to it is made. -/
theorem grows_newDirectory_of_error
    {f : Failure}
    (hBase : ∀ dir, base = some dir → dir.IsPlain)
    (hNew : newDirectory base d = (.error f, d')) :
    d.Grows d' (IsOnWay base d) := by
  cases base with
  | none =>
      have hMake :
          Disk.makeTemporary d.temporary d =
            (.error f, d') :=
        hNew
      rcases Disk.makeFresh_eq_error hMake with ⟨n, rfl⟩
      exact Disk.grows_withSerial n d _
  | some dir =>
      have hGrows :
          d.Grows (Disk.makeDirectories dir d).2
            (IsOnWay (some dir) d) :=
        (Disk.grows_makeDirectories (hBase dir rfl) d).mono
          (fun l hOn => ⟨dir, rfl, hOn⟩)
      rcases hMake : Disk.makeDirectories dir d with
        ⟨r, grown⟩
      rw [hMake] at hGrows
      cases r with
      | error g =>
          rw [newDirectory, Action.next_of_error hMake]
            at hNew
          cases hNew
          exact hGrows
      | ok _ =>
          rw [newDirectory, Action.next_of_ok hMake] at hNew
          rcases Disk.makeFresh_eq_error hNew with ⟨n, rfl⟩
          exact hGrows.trans (Disk.grows_withSerial n grown _)

theorem copyFile_eq_error
    {source target : String}
    {f : Failure}
    (hCopy :
      Disk.copyFile source target d = (.error f, d')) :
    d' = d := by
  unfold Disk.copyFile at hCopy
  split at hCopy
  · cases hCopy
    rfl
  · cases hCopy
    rfl
  · extract_lets same at hCopy
    rcases ite_eq_iff.mp hCopy with
      ⟨_, hFail⟩ | ⟨_, hCopy⟩
    · cases hFail
      rfl
    · split at hCopy
      · cases hCopy
        rfl
      · exact Disk.store_eq_error hCopy

/- Clearing a context changes what is in its directory. -/
theorem confined_clear
    {c : BuildContext}
    {way : Location → Prop}
    (hPlain : c.directory.IsPlain)
    (hBelow : d.place c.directory ≠ []) :
    d.Confined (c.clear d) (d.place c.directory <+: ·)
      way := by
  rw [BuildContext.clear]
  exact Disk.confined_removeTree hPlain hBelow
    (fun _ hUnder => hUnder)

/- A context that cannot be filled is at most cleared. -/
theorem confined_fill_of_error
    {source : String}
    {c : BuildContext}
    {f : Failure}
    {way : Location → Prop}
    (hPlain : c.directory.IsPlain)
    (hBelow : d.place c.directory ≠ [])
    (hFill : fill source c d = (.error f, d')) :
    d.Confined d' (d.place c.directory <+: ·) way := by
  unfold fill at hFill
  simp only at hFill
  split at hFill
  · exact absurd hFill (by simp)
  · rename_i hCopy
    rw [copyFile_eq_error hCopy] at hFill
    split at hFill
    · cases hFill
      exact .refl d _ _
    · cases hFill
      exact confined_clear hPlain hBelow

/- A context that was made changes its own places only. -/
theorem HasContext.confined
    {source : String}
    {c : BuildContext}
    (hContext : HasContext base source c d d') :
    d.Confined d' (d.place c.directory <+: ·)
      (d.OnWay (home base d)) where
  working := hContext.working
  temporary := hContext.temporary
  tree := fun _ => hContext.tree
  outside := by
    intro l hOutside
    rcases hContext.outside l hOutside with
      hSame | ⟨⟨dir, rfl, hOn⟩, hNew⟩
    · exact Or.inl hSame
    · exact Or.inr ⟨hOn, hNew⟩

/- A context that was made is at a fresh path. -/
theorem isFresh_of_stage
    {source name : String}
    {c : BuildContext}
    (hBase : ∀ dir, base = some dir → dir.IsPlain)
    (hSound : d.IsSound)
    (hStage : stage base source name d = (.ok c, d')) :
    (newDirectory base d).1 = .ok c.directory ∧
      IsFresh base c.directory d := by
  rcases stage_eq_ok hStage with ⟨_, p, made, hNew, rfl, _⟩
  exact ⟨by rw [hNew],
    (isFresh_of_newDirectory hBase hSound hNew).1⟩

theorem stage_of_invalidName
    {name : String}
    (hFile : ¬ isFileName name = true)
    (source : String) :
    stage base source name d =
      (.error (.build (invalidName name)), d) := by
  rw [stage, if_neg hFile]
  rfl

theorem stage_of_newDirectory_error
    {name : String}
    {f : Failure}
    (hFile : isFileName name = true)
    (hNew : newDirectory base d = (.error f, d'))
    (source : String) :
    stage base source name d =
      (.error (explain notCreated f), d') := by
  simp only [stage, if_pos hFile, Action.next,
    Action.mapFailure, hNew]

/- What is made is filled. -/
theorem stage_of_newDirectory
    {name : String}
    (hFile : isFileName name = true)
    (hNew : newDirectory base d = (.ok p, d'))
    (source : String) :
    stage base source name d = fill source ⟨p, name⟩ d' := by
  simp only [stage, if_pos hFile, Action.next,
    Action.mapFailure, hNew]

/-
  Staging that fails before there is a new directory makes no
  more than the way to it; later it changes what is at a
  fresh path at most.
-/
theorem course_of_stage_error
    {source name : String}
    {f : Failure}
    (hBase : ∀ dir, base = some dir → dir.IsPlain)
    (hSound : d.IsSound)
    (hStage : stage base source name d = (.error f, d')) :
    d.Grows d' (d.OnWay (home base d)) ∨
      ∃ p, (newDirectory base d).1 = .ok p ∧
        IsFresh base p d ∧
        d.Confined d' (d.place p <+: ·)
          (d.OnWay (home base d)) := by
  by_cases hFile : isFileName name = true
  · rcases hNew : newDirectory base d with ⟨g | p, made⟩
    · rw [stage_of_newDirectory_error hFile hNew] at hStage
      cases hStage
      exact Or.inl
        ((grows_newDirectory_of_error hBase hNew).mono
          (fun _ hOn => hOn.home))
    · rw [stage_of_newDirectory hFile hNew] at hStage
      rcases isFresh_of_newDirectory hBase hSound hNew with
        ⟨hFresh, hMade⟩
      have hPlace : made.place p = d.place p :=
        Disk.place_congr hMade.working p
      have hRest :
          made.Confined d' (made.place p <+: ·)
            (d.OnWay (home base d)) :=
        confined_fill_of_error
          (hFresh.isIn.isPlain (isPlain_home hBase hSound))
          (hPlace ▸ hFresh.place_ne_nil) hStage
      rw [hPlace] at hRest
      exact Or.inr ⟨p, rfl, hFresh, hMade.trans hRest⟩
  · rw [stage_of_invalidName hFile] at hStage
    cases hStage
    exact Or.inl (.refl d _)

end Staging

end ContainerBuild
