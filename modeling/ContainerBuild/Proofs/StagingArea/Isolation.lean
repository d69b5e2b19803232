import ContainerBuild.Proofs.StagingArea.Consistency

/-
  This file shows that build contexts are isolated from each
  other, whatever is done in a staging area: each is made
  apart from all others, a step on one leaves the others as
  they are, and its first release removes it for good.

  Key definitions include:
    * `StagingArea.HoldsOnly`
    * `StagingArea.Isolates`

  Main statements:
    * `StagingArea.IsConsistent.isolates`
    * `contexts_isolated`
-/

namespace ContainerBuild

namespace StagingArea

variable {base : Option Path}
variable {a : StagingArea}
variable {s : Step}

------------------------------------------------------------
-- Isolation
------------------------------------------------------------

/- The first release removes all that is in the directory. -/
theorem IsConsistent.entry?_release
    (hConsistent : a.IsConsistent base)
    {i : Nat}
    {x : StagedContext}
    (hAt : a.contexts[i]? = some x)
    (hHeld : x.released = false)
    {l : Location}
    (hUnder : a.disk.place x.context.directory <+: l) :
    (a.release i).disk.entry? l = none := by
  have hFound := hConsistent.present i x hAt hHeld
  rw [release_of_held hAt hHeld]
  simp only [BuildContext.clear, Disk.removeTree, hFound]
  rw [Disk.entry?_removeBelow
    (hConsistent.place_ne_nil hAt), if_pos hUnder]

/-
  A context as it is staged: its directory holds the file of
  that name and nothing else, with the content of the stored
  file at that time.
-/
structure HoldsOnly
    (a : StagingArea)
    (source name : String)
    (c : BuildContext) : Prop where
  dockerfile : c.dockerfile = name
  found :
    a.disk.find? c.directory.toText =
      some (a.disk.place c.directory, .directory)
  inside :
    ∃ content,
      a.disk.fetch source = .ok content ∧
        ∀ l, a.disk.place c.directory <+: l →
          a.disk.entry? l =
            if l = a.disk.place c.directory then
              some .directory
            else if
              l = a.disk.place c.directory ++ [name]
            then
              some (.file content)
            else
              none

theorem holdsOnly_of_stage
    {source name : String}
    {c : BuildContext}
    {d' : Disk}
    {contexts : List StagedContext}
    (hBase : ∀ dir, base = some dir → dir.IsPlain)
    (hSound : a.disk.IsSound)
    (hStage :
      Staging.stage base source name a.disk = (.ok c, d')) :
    HoldsOnly ⟨d', contexts⟩ source name c := by
  rcases Staging.hasContext_of_stage hBase hSound.tree
      hSound.temporary hStage with
    ⟨rfl, hContext⟩
  have hPlace := Disk.place_congr hContext.working
  refine ⟨rfl, ?_, ?_⟩
  · rw [hPlace]
    exact hContext.found
  · rw [hPlace]
    exact hContext.inside

/-
  What holds of a step in a staging area. A context that it
  stages is held in a directory that no other context has,
  with its Dockerfile only. Contexts that it is not about
  stay as they are, and so does everything in them; only a
  release lets go of a context. The first release leaves
  nothing of it; after a release, whatever is done, others
  change nothing at all. A failure within a context comes
  through.
-/
structure Isolates
    (base : Option Path)
    (a : StagingArea)
    (s : Step) : Prop where
  staged :
    ∀ source name c, s = .stage source name →
      (step base s a).1 = .ok (.staged c) →
        (step base s a).2.contexts =
            a.contexts ++ [⟨c, false⟩] ∧
          (∀ x ∈ a.contexts,
            x.context.directory ≠ c.directory) ∧
          (step base s a).2.HoldsOnly source name c
  held :
    ∀ (i : Nat) (x : StagedContext),
      a.contexts[i]? = some x →
      ¬ s.Releases i →
        (step base s a).2.contexts[i]? = some x
  others :
    ∀ (i : Nat) (x : StagedContext),
      a.contexts[i]? = some x →
      s.target? ≠ some i →
      ∀ l, a.disk.place x.context.directory <+: l →
        (step base s a).2.disk.entry? l = a.disk.entry? l
  first :
    ∀ (i : Nat) (x : StagedContext),
      a.contexts[i]? = some x →
      x.released = false →
      s.Releases i →
      ∀ l, a.disk.place x.context.directory <+: l →
        (step base s a).2.disk.entry? l = none
  later :
    ∀ (i : Nat) (x : StagedContext),
      a.contexts[i]? = some x →
      s.Releases i →
      ∀ (steps : List Step) (t : Step),
        t.Releases i →
          (step base t
              ((step base s a).2.after base steps)).2 =
            (step base s a).2.after base steps
  raised :
    ∀ (i : Nat) (x : StagedContext) (f : Failure),
      a.contexts[i]? = some x →
      s = .within i (some f) →
        (step base s a).1 = .error f

theorem IsConsistent.isolates
    (hConsistent : a.IsConsistent base)
    (hBase : ∀ dir, base = some dir → dir.IsPlain)
    (hPermits : a.Permits base s) :
    Isolates base a s where
  staged := by
    rintro source name c rfl hStaged
    rcases hStage :
        Staging.stage base source name a.disk with
      ⟨f | made, d'⟩
    · rw [step_stage_of_error hStage] at hStaged
      exact absurd hStaged (by simp)
    · rw [step_stage_of_ok hStage] at hStaged ⊢
      cases hStaged
      refine ⟨rfl, ?_,
        holdsOnly_of_stage hBase hConsistent.sound hStage⟩
      rcases Staging.isFresh_of_stage hBase
          hConsistent.sound hStage with
        ⟨hNew, hFresh⟩
      intro x hMem
      rcases List.mem_iff_getElem?.mp hMem with ⟨i, hAt⟩
      exact hConsistent.ne_of_isFresh hFresh
        (hPermits _ hNew) hAt
  held := fun _ _ hAt hOther => getElem?_step hAt hOther
  others := by
    intro i x hAt hNot l hUnder
    rcases hConsistent.exists_spares hBase hPermits with
      ⟨inside, hSpares⟩
    exact hSpares.entry hConsistent hAt hNot hUnder
  first := by
    intro i x hAt hHeld hReleases l hUnder
    rw [hReleases.snd_step]
    exact hConsistent.entry?_release hAt hHeld hUnder
  later := by
    intro i x hAt hReleases steps t hAgain
    have hReleased :
        (StagingArea.step base s a).2.contexts[i]? =
          some ⟨x.context, true⟩ := by
      rw [hReleases.snd_step]
      exact getElem?_release hAt
    rw [hAgain.snd_step]
    exact release_of_released
      (getElem?_after_of_released hReleased rfl steps) rfl
  raised := by
    rintro i x f hAt rfl
    simp only [StagingArea.step, doWith, hAt]

end StagingArea

/-
  Contexts are isolated from each other: after any series of
  steps, in which no directory gets the path of a released
  context and what is written in one stays inside, contexts
  are at different paths, the directories of those not yet
  released are there, and the next step isolates them.
-/
theorem contexts_isolated
    {text : Option String}
    {d : Disk}
    (hSound : d.IsSound)
    {steps : List StagingArea.Step}
    (hAllows :
      StagingArea.Allows (Staging.baseOf text) ⟨d, []⟩
        steps)
    {s : StagingArea.Step}
    (hPermits :
      (StagingArea.after (Staging.baseOf text) steps
          ⟨d, []⟩).Permits
        (Staging.baseOf text) s) :
    StagingArea.IsConsistent (Staging.baseOf text)
        (StagingArea.after (Staging.baseOf text) steps
          ⟨d, []⟩) ∧
      StagingArea.Isolates (Staging.baseOf text)
        (StagingArea.after (Staging.baseOf text) steps
          ⟨d, []⟩) s := by
  have hBase :
      ∀ dir, Staging.baseOf text = some dir →
        dir.IsPlain :=
    fun _ hSome => Staging.isPlain_of_baseOf hSome
  have hConsistent :=
    (StagingArea.IsConsistent.start hSound).after hBase
      hAllows
  exact ⟨hConsistent, hConsistent.isolates hBase hPermits⟩

namespace StagingArea

/- An area with a stored Dockerfile and no contexts. -/
def sample : StagingArea :=
  ⟨⟨[(["srv"], .directory),
      (["srv", "Dockerfile"], .file (.octets [0x46]))],
    [], Path.ofText "/tmp", 0⟩, []⟩

/-
  A context is made, released, and made again by writing in
  it; then there is a second one.
-/
def sampleSteps : List Step :=
  [.stage "/srv/Dockerfile" "Dockerfile", .release 0,
    .write 0 "notes/second" [2],
    .stage "/srv/Dockerfile" "Dockerfile"]

def sampleBase : Option Path :=
  Staging.baseOf (some "/contexts")

/- The second context gets a path of its own. -/
theorem permits_sample :
    (sample.after sampleBase
        (sampleSteps.take 3)).Permits sampleBase
      (.stage "/srv/Dockerfile" "Dockerfile") := by
  have hPaths :
      (sample.after sampleBase
          (sampleSteps.take 3)).contexts =
        [⟨⟨⟨"/", ["contexts", "imagebuild-aaaaaaaa"]⟩,
          "Dockerfile"⟩, true⟩] ∧
      (Staging.newDirectory sampleBase
          (sample.after sampleBase
            (sampleSteps.take 3)).disk).1 =
        .ok ⟨"/", ["contexts", "imagebuild-aaaaaaab"]⟩ := by
    decide +kernel
  intro p hNew x hMem _
  rw [hPaths.2] at hNew
  rw [hPaths.1, List.mem_singleton] at hMem
  cases hNew
  rw [hMem]
  decide

theorem allows_sample :
    sample.Allows sampleBase sampleSteps :=
  ⟨fun _ _ _ hMem => absurd hMem (by simp [sample]), trivial,
    fun _ _ => staysIn_of_notMem (by decide) (by decide) _,
    permits_sample, trivial⟩

end StagingArea

/-
  A failure within the second context comes through, and
  what was written in the first one is left alone.
-/
theorem contexts_isolated_sample :
    StagingArea.sample.Allows StagingArea.sampleBase
        StagingArea.sampleSteps ∧
      StagingArea.Isolates StagingArea.sampleBase
        (StagingArea.sample.after StagingArea.sampleBase
          StagingArea.sampleSteps)
        (.within 1 (some .tooDeep)) := by
  have hSound : StagingArea.sample.disk.IsSound :=
    ⟨Disk.isTree_of_entries (by decide +kernel),
      Path.isPlain_ofText "/tmp"⟩
  refine ⟨StagingArea.allows_sample, ?_⟩
  exact (contexts_isolated hSound
    StagingArea.allows_sample
    (s := .within 1 (some .tooDeep)) trivial).2

end ContainerBuild
