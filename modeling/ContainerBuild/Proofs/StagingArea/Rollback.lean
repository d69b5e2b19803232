import ContainerBuild.Proofs.Files.Refusal
import ContainerBuild.Proofs.StagingArea.Isolation

/-
  This file says when staging is all or nothing. What was
  made for a context is removed again if the system refuses
  the copy. A null character in one of the paths is no
  refusal of the system, and then nothing is removed.

  Key definitions include:
    * `Staging.AllOrNothing`
    * `Staging.MeetsNull`

  Main statements:
    * `Staging.grows_clear`
    * `Staging.failed_of_free`
    * `Staging.allOrNothing_of_free`
    * `Staging.stage_of_meetsNull`
    * `staging_all_or_nothing_iff`
-/

namespace ContainerBuild

namespace Staging

variable {d d' : Disk}
variable {base : Option Path}
variable {source name : String}
variable {p : Path}

------------------------------------------------------------
-- All or Nothing
------------------------------------------------------------

/-
  There is a context that holds the Dockerfile, or staging
  fails as such. If it fails, at most the way to the base
  directory was made, and a new directory in it is gone.
-/
inductive AllOrNothing
    (base : Option Path)
    (source name : String)
    (d : Disk) :
    Except Failure BuildContext × Disk → Prop
  | all (c : BuildContext) (d' : Disk) :
      c.dockerfile = name →
      HasContext base source c d d' →
        AllOrNothing base source name d (.ok c, d')
  | nothing (message : String) (d' : Disk) :
      d.Grows d' (IsOnWay base d) →
      (∀ p, (newDirectory base d).1 = .ok p →
        d'.entry? (d.place p) = none) →
        AllOrNothing base source name d
          (.error (.build (.stagingFailed message)), d')

/-
  A null character is met: in the path of the directory of
  contexts or, once there is a new directory in it, in the
  path or the name of the Dockerfile.
-/
def MeetsNull
    (base : Option Path)
    (source name : String)
    (d : Disk) : Prop :=
  isFileName name = true ∧
    ('\x00' ∈ (home base d).toText.toList ∨
      (∃ p, (newDirectory base d).1 = .ok p) ∧
        ('\x00' ∈ source.toList ∨ '\x00' ∈ name.toList))

/- What is all or nothing fails as staging does, if at all. -/
theorem AllOrNothing.fst_ne_value
    {r : Except Failure BuildContext × Disk}
    (hAll : AllOrNothing base source name d r)
    (message : String) :
    r.1 ≠ .error (.value message) := by
  cases hAll with
  | all c d' _ _ => simp
  | nothing m d' _ _ => simp

------------------------------------------------------------
-- Removal
------------------------------------------------------------

/- The way to the base directory does not touch new paths. -/
theorem none_of_isFresh
    (hFresh : IsFresh base p d)
    (hGrows : d.Grows d' (IsOnWay base d)) :
    d'.entry? (d.place p) = none := by
  rcases hGrows.entry (d.place p) with hSame | ⟨hWay, _⟩
  · rw [hSame, hFresh.none]
  · exact absurd (List.prefix_refl _)
      (hFresh.apart _ hWay.home)

/- Without more than the way there is nothing of a context. -/
theorem allOrNothing_of_grows
    (hBase : ∀ dir, base = some dir → dir.IsPlain)
    (hSound : d.IsSound)
    (hGrows : d.Grows d' (IsOnWay base d))
    (message : String) :
    AllOrNothing base source name d
      (.error (.build (.stagingFailed message)), d') := by
  refine .nothing message d' hGrows ?_
  intro p hOk
  rcases hNew : newDirectory base d with ⟨r, made⟩
  rw [hNew] at hOk
  cases hOk
  have hFresh :=
    (isFresh_of_newDirectory hBase hSound hNew).1
  exact none_of_isFresh hFresh hGrows

/-
  Clearing a context at once leaves the disk as it was before
  its directory was made.
-/
theorem grows_clear
    {made : Disk}
    (hBase : ∀ dir, base = some dir → dir.IsPlain)
    (hSound : d.IsSound)
    (hNew : newDirectory base d = (.ok p, made)) :
    d.Grows (BuildContext.clear ⟨p, name⟩ made)
      (IsOnWay base d) := by
  rcases hasTemporary_of_newDirectory hBase hSound.temporary
      hNew with
    ⟨_, grown, _, _, hGrown, hMade⟩
  have hFound :
      made.find? p.toText =
        some (grown.place p, .directory) :=
    Disk.find?_eq_some_iff.mpr ⟨hMade.found, hMade.made⟩
  have hClear :
      BuildContext.clear ⟨p, name⟩ made =
        made.removeBelow (grown.place p) := by
    simp only [BuildContext.clear, Disk.removeTree, hFound]
  have hBelow : grown.place p ≠ [] := by
    intro hRoot
    have hNone := hMade.fresh
    rw [hRoot] at hNone
    exact absurd hNone (by simp)
  have hRestored : ∀ l,
      Disk.entry? (made.removeBelow (grown.place p)) l =
        grown.entry? l := by
    intro l
    rw [Disk.entry?_removeBelow hBelow]
    split
    · rename_i hUnder
      exact ((hGrown.tree hSound.tree).none_below
        hMade.fresh hUnder).symm
    · rename_i hOutside
      rcases hMade.grows.entry l with hSame | ⟨rfl, _⟩
      · exact hSame
      · exact absurd (List.prefix_refl _) hOutside
  rw [hClear]
  exact {
    working := hMade.grows.working.trans hGrown.working
    temporary := hMade.grows.temporary.trans hGrown.temporary
    tree := fun hTree =>
      (hMade.grows.tree (hGrown.tree hTree)).removeBelow
        hBelow
    entry := by
      intro l
      rw [hRestored]
      exact hGrown.entry l }

------------------------------------------------------------
-- Null Characters
------------------------------------------------------------

theorem newDirectory_of_null
    (hNull : '\x00' ∈ (home base d).toText.toList) :
    (newDirectory base d).1 =
      .error (.value "embedded null byte") := by
  cases base with
  | none =>
      have hMake :
          (Disk.makeTemporary d.temporary d).1 =
            .error (.value "embedded null byte") :=
        Disk.makeTemporary_of_null hNull d
      exact hMake
  | some dir =>
      have hMake :
          Disk.makeDirectories dir d =
            (.error (.value "embedded null byte"), d) :=
        Disk.makeDirectories_of_null hNull d
      rw [newDirectory, Action.next_of_error hMake]

theorem free_of_newDirectory
    (hNew : newDirectory base d = (.ok p, d')) :
    '\x00' ∉ p.toText.toList := by
  cases base with
  | none =>
      have hMake :
          Disk.makeTemporary d.temporary d = (.ok p, d') :=
        hNew
      exact Disk.free_of_makeTemporary hMake
  | some dir =>
      rcases Action.next_eq_ok_iff.mp hNew with
        ⟨_, _, _, hMake⟩
      exact Disk.free_of_makeTemporary hMake

theorem directory_of_newDirectory
    (hBase : ∀ dir, base = some dir → dir.IsPlain)
    (hSound : d.IsSound)
    (hNew : newDirectory base d = (.ok p, d')) :
    d'.entry? (d.place p) = some .directory := by
  rcases hasTemporary_of_newDirectory hBase hSound.temporary
      hNew with
    ⟨_, grown, _, _, hGrown, hMade⟩
  rw [← Disk.place_congr hGrown.working p]
  exact hMade.made

theorem null_mem_dockerfilePath_iff
    {c : BuildContext}
    (hFile : isFileName c.dockerfile = true) :
    '\x00' ∈ c.dockerfilePath.toText.toList ↔
      '\x00' ∈ c.directory.toText.toList ∨
        '\x00' ∈ c.dockerfile.toList := by
  have hName := isPlainName_of_isFileName hFile
  rw [BuildContext.dockerfilePath,
    Path.ofText_of_isPlainName hName, Path.null_mem_join_iff]

section Copy

variable {c : BuildContext}

/- The context is not cleared. -/
theorem fill_of_null
    (hNull :
      '\x00' ∈ source.toList ∨
        '\x00' ∈ c.dockerfilePath.toText.toList) :
    fill source c d =
      (.error (.value "embedded null byte"), d) := by
  simp only [fill, Disk.copyFile_of_null hNull,
    Failure.systemMessage?]

/- The context is cleared. -/
theorem fill_eq_error
    {f : Failure}
    (hFree :
      ¬ ('\x00' ∈ source.toList ∨
        '\x00' ∈ c.dockerfilePath.toText.toList))
    (hFill : fill source c d = (.error f, d')) :
    ∃ message, f = .build (.stagingFailed message) ∧
      d' = c.clear d := by
  unfold fill at hFill
  simp only at hFill
  split at hFill
  · exact absurd hFill (by simp)
  · rename_i g after hCopy
    have hRefuses :=
      Disk.copyFile_failsOnly source c.dockerfilePath.toText
        d g (by rw [hCopy])
    rcases hRefuses.exists_system hFree with ⟨e, rfl⟩
    rw [copyFile_eq_error hCopy] at hFill
    cases hFill
    exact ⟨_, rfl, rfl⟩

end Copy

------------------------------------------------------------
-- Staging
------------------------------------------------------------

/- Without a null character the copy meets none either. -/
theorem free_of_not_meetsNull
    (hFile : isFileName name = true)
    (hFree : ¬ MeetsNull base source name d)
    (hNew : newDirectory base d = (.ok p, d')) :
    ¬ ('\x00' ∈ source.toList ∨
      '\x00' ∈ (BuildContext.dockerfilePath
        ⟨p, name⟩).toText.toList) := by
  rw [null_mem_dockerfilePath_iff hFile]
  intro hNull
  refine hFree ⟨hFile, Or.inr ⟨⟨p, by rw [hNew]⟩, ?_⟩⟩
  rcases hNull with hSource | hPath | hName
  · exact Or.inl hSource
  · exact absurd hPath (free_of_newDirectory hNew)
  · exact Or.inr hName

/- Nor is it met by a directory that cannot be made. -/
theorem exists_system_of_not_meetsNull
    {f : Failure}
    (hFile : isFileName name = true)
    (hFree : ¬ MeetsNull base source name d)
    (hNew : newDirectory base d = (.error f, d')) :
    ∃ e, f = .system e := by
  have hHome : '\x00' ∉ (home base d).toText.toList :=
    fun hNull => hFree ⟨hFile, Or.inl hNull⟩
  exact (refuses_of_newDirectory
    (by rw [hNew])).exists_system hHome

/- Without a null character staging is all or nothing. -/
theorem allOrNothing_of_free
    (hBase : ∀ dir, base = some dir → dir.IsPlain)
    (hSound : d.IsSound)
    (hFree : ¬ MeetsNull base source name d) :
    AllOrNothing base source name d
      (stage base source name d) := by
  by_cases hFile : isFileName name = true
  · rcases hNew : newDirectory base d with ⟨g | p, made⟩
    · rcases exists_system_of_not_meetsNull hFile hFree hNew
        with ⟨e, rfl⟩
      rw [stage_of_newDirectory_error hFile hNew]
      exact allOrNothing_of_grows hBase hSound
        (grows_newDirectory_of_error hBase hNew) _
    · have hCopy := free_of_not_meetsNull hFile hFree hNew
      have hStage := stage_of_newDirectory hFile hNew source
      rcases hFill : fill source ⟨p, name⟩ made with
        ⟨f | c, d'⟩
      · rcases fill_eq_error hCopy hFill with
          ⟨message, rfl, rfl⟩
        rw [hStage, hFill]
        exact allOrNothing_of_grows hBase hSound
          (grows_clear hBase hSound hNew) message
      · rw [hFill] at hStage
        rcases hasContext_of_stage hBase hSound.tree
            hSound.temporary hStage with ⟨hName, hContext⟩
        rw [hStage]
        exact .all c d' hName hContext
  · rw [stage_of_invalidName hFile]
    exact allOrNothing_of_grows hBase hSound (.refl d _) _

/- A null character that is met is met by the copy. -/
theorem null_of_meetsNull
    (hMeets : MeetsNull base source name d)
    (hNew : newDirectory base d = (.ok p, d')) :
    '\x00' ∈ source.toList ∨
      '\x00' ∈ (BuildContext.dockerfilePath
        ⟨p, name⟩).toText.toList := by
  rcases hMeets with
    ⟨hFile, hHome | ⟨_, hSource | hName⟩⟩
  · have hValue := newDirectory_of_null hHome
    rw [hNew] at hValue
    exact absurd hValue (by simp)
  · exact Or.inl hSource
  · rw [null_mem_dockerfilePath_iff hFile]
    exact Or.inr (Or.inr hName)

/- At a null character staging fails with that. -/
theorem fst_stage_of_meetsNull
    (hMeets : MeetsNull base source name d) :
    (stage base source name d).1 =
      .error (.value "embedded null byte") := by
  rcases hNew : newDirectory base d with ⟨g | p, made⟩
  · rw [stage_of_newDirectory_error hMeets.1 hNew]
    rcases hMeets.2 with hHome | ⟨⟨p, hOk⟩, _⟩
    · have hValue := newDirectory_of_null hHome
      rw [hNew] at hValue
      cases hValue
      rfl
    · rw [hNew] at hOk
      exact absurd hOk (by simp)
  · rw [stage_of_newDirectory hMeets.1 hNew,
      fill_of_null (null_of_meetsNull hMeets hNew)]

/- At a null character a new directory is left behind. -/
theorem stage_of_meetsNull
    (hBase : ∀ dir, base = some dir → dir.IsPlain)
    (hSound : d.IsSound)
    (hMeets : MeetsNull base source name d) :
    (stage base source name d).1 =
        .error (.value "embedded null byte") ∧
      ∀ p, (newDirectory base d).1 = .ok p →
        Disk.entry? (stage base source name d).2
            (d.place p) =
          some .directory := by
  refine ⟨fst_stage_of_meetsNull hMeets, ?_⟩
  intro p hOk
  rcases hNew : newDirectory base d with ⟨r, made⟩
  rw [hNew] at hOk
  cases hOk
  rw [stage_of_newDirectory hMeets.1 hNew,
    fill_of_null (null_of_meetsNull hMeets hNew)]
  exact directory_of_newDirectory hBase hSound hNew

end Staging

/-
  Staging is all or nothing exactly if it meets no null
  character. If it meets one, it fails with a failure that
  is not explained, and a new directory is left behind.
-/
theorem staging_all_or_nothing_iff
    {text : Option String}
    {d : Disk}
    (hSound : d.IsSound)
    (source name : String) :
    (Staging.AllOrNothing (Staging.baseOf text) source name d
        (Staging.stage (Staging.baseOf text) source name
          d) ↔
      ¬ Staging.MeetsNull (Staging.baseOf text) source name
        d) ∧
    (Staging.MeetsNull (Staging.baseOf text) source name d →
      (Staging.stage (Staging.baseOf text) source name
            d).1 =
          .error (.value "embedded null byte") ∧
        ∀ p,
          (Staging.newDirectory (Staging.baseOf text) d).1 =
              .ok p →
            Disk.entry?
                (Staging.stage (Staging.baseOf text) source
                  name d).2
                (d.place p) =
              some .directory) := by
  have hBase :
      ∀ dir, Staging.baseOf text = some dir →
        dir.IsPlain :=
    fun _ hSome => Staging.isPlain_of_baseOf hSome
  refine ⟨⟨?_, Staging.allOrNothing_of_free hBase hSound⟩,
    Staging.stage_of_meetsNull hBase hSound⟩
  intro hAll hMeets
  exact hAll.fst_ne_value _
    (Staging.stage_of_meetsNull hBase hSound hMeets).1

namespace StagingArea

/- The path of a stored Dockerfile, spoilt at its end. -/
def spoiltSource : String :=
  "/srv/Dockerfile\x00"

theorem newDirectory_sample :
    (Staging.newDirectory sampleBase sample.disk).1 =
      .ok ⟨"/", ["contexts", "imagebuild-aaaaaaaa"]⟩ := by
  decide +kernel

theorem meetsNull_sample :
    Staging.MeetsNull sampleBase spoiltSource "Dockerfile"
      sample.disk :=
  ⟨by decide, Or.inr
    ⟨⟨_, newDirectory_sample⟩, Or.inl (by decide)⟩⟩

theorem isSound_sample : sample.disk.IsSound :=
  ⟨Disk.isTree_of_entries (by decide +kernel),
    Path.isPlain_ofText "/tmp"⟩

end StagingArea

/-
  A Dockerfile that is missing is all or nothing, one whose
  path is spoilt is not.
-/
theorem staging_all_or_nothing_iff_sample :
    StagingArea.sample.disk.IsSound ∧
    Staging.AllOrNothing StagingArea.sampleBase "/srv/none"
      "Dockerfile" StagingArea.sample.disk
      (Staging.stage StagingArea.sampleBase "/srv/none"
        "Dockerfile" StagingArea.sample.disk) ∧
    (Staging.stage StagingArea.sampleBase
          StagingArea.spoiltSource "Dockerfile"
          StagingArea.sample.disk).1 =
        .error (.value "embedded null byte") ∧
    Disk.entry?
        (Staging.stage StagingArea.sampleBase
          StagingArea.spoiltSource "Dockerfile"
          StagingArea.sample.disk).2
        ["contexts", "imagebuild-aaaaaaaa"] =
      some .directory := by
  have hSound := StagingArea.isSound_sample
  have hMissing :
      ¬ Staging.MeetsNull StagingArea.sampleBase "/srv/none"
        "Dockerfile" StagingArea.sample.disk := by
    rintro ⟨_, hHome | ⟨_, hNull⟩⟩
    · exact absurd hHome (by decide)
    · exact absurd hNull (by decide)
  have hSpoilt :=
    (staging_all_or_nothing_iff hSound
      StagingArea.spoiltSource "Dockerfile").2
        StagingArea.meetsNull_sample
  exact ⟨hSound,
    (staging_all_or_nothing_iff hSound "/srv/none"
      "Dockerfile").1.mpr hMissing,
    hSpoilt.1,
    hSpoilt.2 _ StagingArea.newDirectory_sample⟩

/- So staging is not all or nothing for every path. -/
theorem not_staging_all_or_nothing :
    ¬ Staging.AllOrNothing StagingArea.sampleBase
      StagingArea.spoiltSource "Dockerfile"
      StagingArea.sample.disk
      (Staging.stage StagingArea.sampleBase
        StagingArea.spoiltSource "Dockerfile"
        StagingArea.sample.disk) := by
  intro hAll
  have hBase :
      ∀ dir, StagingArea.sampleBase = some dir →
        dir.IsPlain :=
    fun _ hSome => Staging.isPlain_of_baseOf hSome
  exact hAll.fst_ne_value _
    (Staging.stage_of_meetsNull hBase
      StagingArea.isSound_sample
      StagingArea.meetsNull_sample).1

end ContainerBuild
