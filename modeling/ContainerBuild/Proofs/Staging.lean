import ContainerBuild.Proofs.Files.Change
import ContainerBuild.Staging

/-
  This file says what staging leaves on the disk: a new
  directory that holds the Dockerfile and nothing else. All
  other places are as before, except that the directories on
  the way to the base directory are there.

  Key definitions include:
    * `Staging.IsOnWay`
    * `Staging.HasContext`

  Main statements:
    * `Staging.hasTemporary_of_newDirectory`
    * `Staging.hasContext_of_stage`
-/

namespace ContainerBuild

namespace Staging

variable {d d' : Disk}
variable {base : Option Path}
variable {c : BuildContext}

------------------------------------------------------------
-- Names
------------------------------------------------------------

theorem isPlain_of_baseOf
    {text : Option String}
    {dir : Path}
    (hBase : baseOf text = some dir) :
    dir.IsPlain := by
  cases text with
  | none => exact absurd hBase (by simp [baseOf])
  | some s =>
      by_cases hEmpty : s = ""
      · exact absurd hBase (by simp [baseOf, hEmpty])
      · simp only [baseOf, if_neg hEmpty,
          Option.some.injEq] at hBase
        exact hBase ▸ Path.isPlain_ofText s

theorem isPlainName_of_isFileName
    {name : String}
    (hFile : isFileName name = true) :
    Path.IsPlainName name := by
  have hBoth : name ≠ "" ∧ (Path.ofText name).name = name := by
    simpa [isFileName] using hFile
  rcases hBoth with ⟨hSome, hName⟩
  have hMem : name ∈ (Path.ofText name).parts := by
    rcases List.eq_nil_or_concat (Path.ofText name).parts
      with hNil | ⟨front, part, hParts⟩
    · rw [Path.name, hNil] at hName
      exact absurd hName.symm hSome
    · rw [Path.name, hParts, List.concat_eq_append,
        List.getLastD_concat] at hName
      rw [hParts, hName]
      simp
  exact (Path.isPlain_ofText name).parts name hMem

------------------------------------------------------------
-- Directories
------------------------------------------------------------

/- The places on the way to the base directory, if any. -/
def IsOnWay
    (base : Option Path)
    (d : Disk)
    (l : Location) : Prop :=
  ∃ dir, base = some dir ∧ d.OnWay dir l

theorem IsOnWay.congr
    {l : Location}
    (hWorking : d'.working = d.working)
    (hWay : IsOnWay base d' l) :
    IsOnWay base d l := by
  rcases hWay with ⟨dir, hBase, hWay⟩
  exact ⟨dir, hBase, hWay.congr hWorking⟩

/-
  The directory is made within the base directory or the
  directory of temporary files. Before that the disk may
  grow on the way to the base directory.
-/
theorem hasTemporary_of_newDirectory
    {p : Path}
    (hBase : ∀ dir, base = some dir → dir.IsPlain)
    (hTemporary : d.temporary.IsPlain)
    (hNew : newDirectory base d = (.ok p, d')) :
    ∃ dir grown,
      dir.IsPlain ∧ base.getD d.temporary = dir ∧
        d.Grows grown (IsOnWay base d) ∧
        Disk.HasTemporary dir p grown d' := by
  cases base with
  | none =>
      exact ⟨d.temporary, d, hTemporary, rfl, .refl d _,
        Disk.hasTemporary_of_makeTemporary hTemporary hNew⟩
  | some dir =>
      have hPlain : dir.IsPlain := hBase dir rfl
      rcases Action.next_eq_ok_iff.mp hNew with
        ⟨_, grown, hMade, hMake⟩
      have hGrows := Disk.grows_makeDirectories hPlain d
      rw [hMade] at hGrows
      exact ⟨dir, grown, hPlain, rfl,
        hGrows.mono (fun l hWay => ⟨dir, rfl, hWay⟩),
        Disk.hasTemporary_of_makeTemporary hPlain hMake⟩

------------------------------------------------------------
-- Contexts
------------------------------------------------------------

/-
  A context that was staged: its directory is at a place
  where there was nothing, the Dockerfile is all it holds,
  and elsewhere the disk only grew on the way to the base
  directory, which does not lead through the context.
-/
structure HasContext
    (base : Option Path)
    (source : String)
    (c : BuildContext)
    (d d' : Disk) : Prop where
  path : c.directory.IsPlain
  fresh :
    ∀ l, d.place c.directory <+: l → d.entry? l = none
  found :
    d'.find? c.directory.toText =
      some (d.place c.directory, .directory)
  inside :
    ∃ content,
      d'.fetch source = .ok content ∧
        ∀ l, d.place c.directory <+: l →
          d'.entry? l =
            if l = d.place c.directory then
              some .directory
            else if
              l = d.place c.directory ++ [c.dockerfile]
            then
              some (.file content)
            else
              none
  outside :
    ∀ l, ¬ d.place c.directory <+: l →
      d'.entry? l = d.entry? l ∨
        (IsOnWay base d l ∧ d.entry? l = none ∧
          d'.entry? l = some .directory)
  apart :
    ∀ l, IsOnWay base d l → ¬ d.place c.directory <+: l
  tree : d'.IsTree
  working : d'.working = d.working
  temporary : d'.temporary = d.temporary

/- A context is never the root itself. -/
theorem HasContext.place_ne_nil
    {source : String}
    (hContext : HasContext base source c d d') :
    d.place c.directory ≠ [] := by
  intro hRoot
  have hNone := hContext.fresh _ (List.prefix_refl _)
  rw [hRoot] at hNone
  exact absurd hNone (by simp)

theorem fill_eq_ok
    {source : String}
    {made : BuildContext}
    (hFill : fill source c d = (.ok made, d')) :
    made = c ∧
      Disk.copyFile source c.dockerfilePath.toText d =
        (.ok (), d') := by
  unfold fill at hFill
  simp only at hFill
  split at hFill
  · rename_i hCopy
    cases hFill
    exact ⟨rfl, hCopy⟩
  · split at hFill <;> exact absurd hFill (by simp)

theorem stage_eq_ok
    {source name : String}
    (hStage : stage base source name d = (.ok c, d')) :
    isFileName name = true ∧
      ∃ dir made,
        newDirectory base d = (.ok dir, made) ∧
          c = ⟨dir, name⟩ ∧
          Disk.copyFile source c.dockerfilePath.toText
              made =
            (.ok (), d') := by
  unfold stage at hStage
  split at hStage
  · rename_i hFile
    rcases Action.next_eq_ok_iff.mp hStage with
      ⟨dir, made, hNew, hFill⟩
    rcases fill_eq_ok hFill with ⟨rfl, hCopy⟩
    exact ⟨hFile, dir, made,
      Action.mapFailure_eq_ok_iff.mp hNew, rfl, hCopy⟩
  · exact absurd hStage
      (by simp [Action.failBuild, Action.fail])

/- The Dockerfile is written in the directory itself. -/
theorem exists_content_of_copyFile
    {source : String}
    (hFile : isFileName c.dockerfile = true)
    (hPlain : c.directory.IsPlain)
    (hTree : d.IsTree)
    (hMade :
      d.entry? (d.place c.directory) = some .directory)
    (hNone :
      ∀ name, d.entry? (d.place c.directory ++ [name]) =
        none)
    (hCopy :
      Disk.copyFile source c.dockerfilePath.toText d =
        (.ok (), d')) :
    ∃ content,
      d'.fetch source = .ok content ∧ d'.IsTree ∧
        d.KeepsDirectories d' ∧
        d' =
          d.put (d.place c.directory ++ [c.dockerfile])
            (.file content) := by
  have hName := isPlainName_of_isFileName hFile
  have hTarget :
      c.dockerfilePath =
        c.directory.join ⟨"", [c.dockerfile]⟩ :=
    congrArg c.directory.join
      (Path.ofText_of_isPlainName hName)
  have hPlainTarget : c.dockerfilePath.IsPlain :=
    hPlain.join (Path.isPlain_ofText _)
  rcases Disk.copyFile_eq_ok hCopy with
    ⟨content, hFetch, hStore⟩
  rcases Disk.store_eq_ok hStore with
    ⟨l, hLocate, hFree, rfl⟩
  have hResolve := Disk.resolve_of_locate hLocate
  have hPlace :
      l = Disk.further (d.place c.directory)
        c.dockerfile := by
    rw [Disk.eq_place_of_resolve hPlainTarget hResolve,
      hTarget, Disk.place_join]
  -- Two dots would lead to the directory above.
  have hUp : c.dockerfile ≠ ".." := by
    intro hDots
    have hAbove : l = (d.place c.directory).dropLast := by
      rw [hPlace, hDots]
      simp [Disk.further, Path.isPart]
    exact hFree
      (hAbove ▸ hTree.directory_dropLast hMade)
  rw [Disk.further_of_isPart hName.part hUp] at hPlace
  subst hPlace
  exact ⟨content, Disk.fetch_put (hNone _) _ hFetch,
    hTree.put hResolve hFree _,
    Disk.keepsDirectories_put hFree _, rfl⟩

/- Staging makes a context, if it gives one. -/
theorem hasContext_of_stage
    {source name : String}
    (hBase : ∀ dir, base = some dir → dir.IsPlain)
    (hTree : d.IsTree)
    (hTemporary : d.temporary.IsPlain)
    (hStage : stage base source name d = (.ok c, d')) :
    c.dockerfile = name ∧
      HasContext base source c d d' := by
  rcases stage_eq_ok hStage with
    ⟨hFile, p, made, hNew, rfl, hCopy⟩
  refine ⟨rfl, ?_⟩
  rcases hasTemporary_of_newDirectory hBase hTemporary hNew
    with ⟨dir, grown, hPlain, hDir, hGrown, hMade⟩
  have hTreeGrown := hGrown.tree hTree
  have hPlainPath : p.IsPlain := by
    rcases hMade.path with ⟨name', hName', _, rfl⟩
    exact hPlain.join ⟨Or.inl rfl, by simpa using hName'⟩
  -- All three disks agree on where things are.
  have hPlaceGrown : grown.place p = d.place p :=
    Disk.place_congr hGrown.working p
  have hPlaceMade : made.place p = d.place p :=
    (Disk.place_congr hMade.grows.working p).trans
      hPlaceGrown
  have hFresh :
      ∀ l, d.place p <+: l → grown.entry? l = none :=
    fun l => hTreeGrown.none_below
      (hPlaceGrown ▸ hMade.fresh)
  have hGrownMade :
      ∀ l, l ≠ d.place p →
        made.entry? l = grown.entry? l := by
    intro l hOther
    rcases hMade.grows.entry l with hSame | ⟨hHere, _⟩
    · exact hSame
    · exact absurd (hHere.trans hPlaceGrown) hOther
  have hTop : made.entry? (d.place p) = some .directory :=
    hPlaceGrown ▸ hMade.made
  have hNone :
      ∀ name',
        made.entry? (d.place p ++ [name']) = none := by
    intro name'
    rw [hGrownMade _ (by simp)]
    exact hFresh _ (List.prefix_append _ _)
  rcases exists_content_of_copyFile (c := ⟨p, name⟩) hFile
      hPlainPath (hMade.grows.tree hTreeGrown)
      (by rw [hPlaceMade]; exact hTop)
      (by rw [hPlaceMade]; exact hNone) hCopy with
    ⟨content, hFetch, hTreeEnd, hKeeps, hEnd⟩
  rw [hPlaceMade] at hEnd
  have hEntry :
      ∀ l, d'.entry? l =
        if l = d.place p ++ [name] then
          some (.file content)
        else made.entry? l := by
    intro l
    rw [hEnd]
    exact Disk.entry?_put (by simp) _ made l
  exact {
    path := hPlainPath
    fresh := by
      intro l hBelow
      have hNone := hFresh l hBelow
      rcases hGrown.entry l with hSame | ⟨_, hNone', _⟩
      · rw [← hSame, hNone]
      · exact hNone'
    found := by
      have hResolve := hKeeps.resolve hMade.found
      rw [hPlaceGrown] at hResolve
      have hDir := hKeeps.directory _ hTop
      simp only [Disk.find?, hResolve, hDir,
        Option.map_some]
    inside := by
      refine ⟨content, hFetch, fun l hBelow => ?_⟩
      rw [hEntry]
      by_cases hHere : l = d.place p
      · rw [if_pos hHere, if_neg (by simp [hHere]),
          hHere, hTop]
      · rw [if_neg hHere, hGrownMade l hHere,
          hFresh l hBelow]
    outside := by
      intro l hOutside
      have hFile : l ≠ d.place p ++ [name] := by
        rintro rfl
        exact hOutside (List.prefix_append _ _)
      have hOther : l ≠ d.place p := by
        rintro rfl
        exact hOutside (List.prefix_refl _)
      rw [hEntry, if_neg hFile, hGrownMade l hOther]
      exact hGrown.entry l
    apart := by
      rintro l ⟨dir', hSome, q, hLeads, rfl⟩ hBelow
      have hSame : dir' = dir := by
        rw [hSome] at hDir
        exact hDir
      subst hSame
      have hDir := hMade.way q hLeads
      rw [Disk.place_congr hGrown.working q,
        hFresh _ hBelow] at hDir
      exact absurd hDir (by simp)
    tree := hTreeEnd
    working := by
      rw [hEnd]
      exact hMade.grows.working.trans hGrown.working
    temporary := by
      rw [hEnd]
      exact hMade.grows.temporary.trans hGrown.temporary }

end Staging

end ContainerBuild
