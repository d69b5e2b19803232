import ContainerBuild.Proofs.Builder.Calls
import ContainerBuild.Proofs.Staging

/-
  This file says what becomes of build contexts. A context
  is there until the reply of the backend has been read, and
  gone when the build ends, however it ends. Elsewhere only
  the backend changes the disk, and staging only makes the
  base directory.

  Key definitions include:
    * `Disk.IsRemovable`
    * `DiskAccess.IsFaithful`
    * `Builder.LooksOnly`
    * `Builder.CleansUp`
    * `Builder.Series`

  Main statements:
    * `Disk.entry?_removeTree`
    * `Builder.Stages.cleansUp`
    * `Builder.Series.gone`
    * `contexts_cleaned_up`
-/

namespace ContainerBuild

------------------------------------------------------------
-- Removal
------------------------------------------------------------

namespace Disk

variable {d : Disk}
variable {path : String}
variable {top : Location}

/-
  A path is given to remove the tree at a place: it leads to
  that tree, or it leads nowhere and the tree is gone.
-/
def IsRemovable
    (d : Disk)
    (path : String)
    (top : Location) : Prop :=
  d.find? path = some (top, .directory) ∨
    (d.find? path = none ∧
      ∀ l, top <+: l → d.entry? l = none)

/- What is removed is the tree and nothing else. -/
theorem entry?_removeTree
    (hBelow : top ≠ [])
    (hRemovable : d.IsRemovable path top)
    (l : Location) :
    Disk.entry? (d.removeTree path) l =
      if top <+: l then none else d.entry? l := by
  rcases hRemovable with hFound | ⟨hNowhere, hNone⟩
  · simp only [removeTree, hFound]
    exact entry?_removeBelow hBelow d l
  · simp only [removeTree, hNowhere]
    by_cases hUnder : top <+: l
    · rw [if_pos hUnder, hNone l hUnder]
    · rw [if_neg hUnder]

theorem removeTree_working
    (path : String)
    (d : Disk) :
    (d.removeTree path).working = d.working := by
  unfold removeTree
  split <;> rfl

theorem removeTree_temporary
    (path : String)
    (d : Disk) :
    (d.removeTree path).temporary = d.temporary := by
  unfold removeTree
  split <;> rfl

theorem IsTree.removeTree
    (hTree : d.IsTree)
    (hBelow : top ≠ [])
    (hRemovable : d.IsRemovable path top) :
    (d.removeTree path).IsTree := by
  rcases hRemovable with hFound | ⟨hNowhere, _⟩
  · simp only [Disk.removeTree, hFound]
    exact hTree.removeBelow hBelow
  · simp only [Disk.removeTree, hNowhere]
    exact hTree

end Disk

/- A world keeps its disk as it is put there. -/
def DiskAccess.IsFaithful
    {σ : Type}
    (access : DiskAccess σ) : Prop :=
  ∀ d s, access.view (access.update d s) = d

namespace Builder

variable {σ : Type}
variable {b : Builder σ}
variable {access : DiskAccess σ}
variable {base : Option Path}
variable {o : BuildOrder}
variable {s t staged : σ}
variable {c : BuildContext}
variable {tops : List Location}

------------------------------------------------------------
-- One Build
------------------------------------------------------------

/- The registry is asked without any effect on the disk. -/
def LooksOnly
    (b : Builder σ)
    (access : DiskAccess σ) : Prop :=
  ∀ registry, b.registry = some registry →
    ∀ path name s,
      access.view (registry.hasImage path name s).2 =
        access.view s

/-
  What holds of a build with a context: the context is
  released last, after the reply has been read; its
  directory is there when the backend is called, and nothing
  of it is left in the end. Nothing was there before.
  Outside of it, staging makes no more than the base
  directory, and the release changes nothing of what the
  backend left.
-/
structure CleansUp
    (b : Builder σ)
    (access : DiskAccess σ)
    (base : Option Path)
    (o : BuildOrder)
    (s staged : σ)
    (c : BuildContext) : Prop where
  held :
    b.calls o s =
        b.sequence o c
          (b.backend.build (b.job o c) staged).1.isOk ∧
      (b.build o s).2 =
        b.stager.release c (b.reply o c staged).2
  present :
    (access.view staged).find? c.directory.toText =
      some ((access.view s).place c.directory, .directory)
  fresh :
    ∀ l, (access.view s).place c.directory <+: l →
      Disk.entry? (access.view s) l = none
  gone :
    ∀ l, (access.view s).place c.directory <+: l →
      Disk.entry? (access.view (b.build o s).2) l = none
  staging :
    ∀ l, ¬ (access.view s).place c.directory <+: l →
      Disk.entry? (access.view staged) l =
          Disk.entry? (access.view s) l ∨
        (Staging.IsOnWay base (access.view s) l ∧
          Disk.entry? (access.view s) l = none ∧
          Disk.entry? (access.view staged) l = some .directory)
  releasing :
    ∀ l, ¬ (access.view s).place c.directory <+: l →
      Disk.entry? (access.view (b.build o s).2) l =
        Disk.entry? (access.view (b.reply o c staged).2) l

/- A check has no effect on the disk, then. -/
theorem LooksOnly.view_checkAbsent
    (hLooks : b.LooksOnly access)
    (o : BuildOrder)
    (s : σ) :
    access.view (b.checkAbsent o s).2 = access.view s := by
  unfold checkAbsent
  cases hRegistry : b.registry with
  | none => rfl
  | some registry =>
      simp only [Action.next]
      rw [← hLooks registry hRegistry
        o.reference.repositoryPath o.reference.imageName s]
      cases registry.hasImage o.reference.repositoryPath
          o.reference.imageName s with
      | mk answer s' =>
          cases answer with
          | error f => rfl
          | ok found => cases found <;> rfl

/- An order that is staged is staged on the disk. -/
theorem Stages.stage_view
    (hStages : b.Stages o s c staged)
    (hAccess : access.IsFaithful)
    (hStager : b.stager = .onDisk access base)
    (hLooks : b.LooksOnly access) :
    Staging.stage base o.source o.dockerfile
        (access.view s) =
      (.ok c, access.view staged) := by
  rcases hStages.stage with ⟨checked, hAbsent, hStage⟩
  have hChecked : access.view checked = access.view s := by
    have hView := hLooks.view_checkAbsent o s
    rwa [hAbsent] at hView
  rw [hStager] at hStage
  simp only [Stager.onDisk, DiskAccess.lift,
    Action.onPart, hChecked] at hStage
  rcases hRun : Staging.stage base o.source o.dockerfile
      (access.view s) with ⟨r, d⟩
  rw [hRun] at hStage
  cases hStage
  rw [hAccess d checked]

theorem Stages.hasContext
    (hStages : b.Stages o s c staged)
    (hAccess : access.IsFaithful)
    (hStager : b.stager = .onDisk access base)
    (hBase : ∀ dir, base = some dir → dir.IsPlain)
    (hLooks : b.LooksOnly access)
    (hSound : (access.view s).IsSound) :
    Staging.HasContext base o.source c (access.view s)
      (access.view staged) :=
  (Staging.hasContext_of_stage hBase hSound.tree
    hSound.temporary
    (hStages.stage_view hAccess hStager hLooks)).2

/- In the end the tree at the context's path is removed. -/
theorem Stages.view_build
    (hStages : b.Stages o s c staged)
    (hAccess : access.IsFaithful)
    (hStager : b.stager = .onDisk access base) :
    access.view (b.build o s).2 =
      (access.view (b.reply o c staged).2).removeTree
        c.directory.toText := by
  rw [hStages.build_run, hStager]
  exact hAccess _ _

theorem Stages.cleansUp
    (hStages : b.Stages o s c staged)
    (hAccess : access.IsFaithful)
    (hStager : b.stager = .onDisk access base)
    (hBase : ∀ dir, base = some dir → dir.IsPlain)
    (hLooks : b.LooksOnly access)
    (hSound : (access.view s).IsSound)
    (hRemovable :
      (access.view (b.reply o c staged).2).IsRemovable
        c.directory.toText
        ((access.view s).place c.directory)) :
    b.CleansUp access base o s staged c := by
  have hContext := hStages.hasContext hAccess hStager hBase
    hLooks hSound
  have hEnd := hStages.view_build hAccess hStager
  have hEntry :=
    Disk.entry?_removeTree hContext.place_ne_nil
      hRemovable
  exact {
    held := ⟨hStages.calls, by rw [hStages.build_run]⟩
    present := hContext.found
    fresh := hContext.fresh
    gone := by
      intro l hUnder
      rw [hEnd, hEntry, if_pos hUnder]
    staging := hContext.outside
    releasing := by
      intro l hOutside
      rw [hEnd, hEntry, if_neg hOutside] }

------------------------------------------------------------
-- Series of Builds
------------------------------------------------------------

/-
  What a backend in a series of builds must heed: the
  context can be removed, the disk is still a tree with the
  same settings, and nothing is put where the directories of
  earlier contexts were.
-/
structure Heeds
    (b : Builder σ)
    (access : DiskAccess σ)
    (tops : List Location)
    (o : BuildOrder)
    (s staged : σ)
    (c : BuildContext) : Prop where
  removable :
    (access.view (b.reply o c staged).2).IsRemovable
      c.directory.toText
      ((access.view s).place c.directory)
  tree : (access.view (b.reply o c staged).2).IsTree
  working :
    (access.view (b.reply o c staged).2).working =
      (access.view staged).working
  temporary :
    (access.view (b.reply o c staged).2).temporary =
      (access.view staged).temporary
  earlier :
    ∀ top ∈ tops, ∀ l, top <+: l →
      ¬ (access.view s).place c.directory <+: l →
      Disk.entry? (access.view staged) l = none →
        Disk.entry? (access.view (b.reply o c staged).2) l =
          none

/-
  Builds one after another, each of them with a context, and
  the places of the contexts, the last one first.
-/
inductive Series
    (b : Builder σ)
    (access : DiskAccess σ)
    (s : σ) : List Location → σ → Prop
  | nil : Series b access s [] s
  | build
      (o : BuildOrder)
      (c : BuildContext)
      (tops : List Location)
      (t staged : σ) :
      Series b access s tops t →
      b.Stages o t c staged →
      b.Heeds access tops o t staged c →
        Series b access s
          ((access.view t).place c.directory :: tops)
          (b.build o t).2

/- A build whose end is known. -/
theorem Series.build_of_eq
    {top : Location}
    {r : Except Failure BuildResult}
    {t' : σ}
    (hSeries : b.Series access s tops t)
    (hStages : b.Stages o t c staged)
    (hHeeds : b.Heeds access tops o t staged c)
    (hPlace : (access.view t).place c.directory = top)
    (hRun : b.build o t = (r, t')) :
    b.Series access s (top :: tops) t' := by
  have hNext :=
    Series.build o c tops t staged hSeries hStages hHeeds
  rwa [hPlace, hRun] at hNext

/-
  What one build after another keeps up: the disk is sound
  and has the same settings, nothing is left of the
  contexts, and the way to the base directory never led
  through one.
-/
structure Keeps
    (access : DiskAccess σ)
    (base : Option Path)
    (tops : List Location)
    (s t : σ) : Prop where
  sound : (access.view t).IsSound
  working : (access.view t).working = (access.view s).working
  gone :
    ∀ top ∈ tops, ∀ l, top <+: l →
      Disk.entry? (access.view t) l = none
  apart :
    ∀ top ∈ tops, ∀ l,
      Staging.IsOnWay base (access.view s) l →
        ¬ top <+: l

theorem Keeps.build
    (hKeeps : Keeps access base tops s t)
    (hAccess : access.IsFaithful)
    (hStager : b.stager = .onDisk access base)
    (hBase : ∀ dir, base = some dir → dir.IsPlain)
    (hLooks : b.LooksOnly access)
    (hStages : b.Stages o t c staged)
    (hHeeds : b.Heeds access tops o t staged c) :
    Keeps access base
      ((access.view t).place c.directory :: tops) s
      (b.build o t).2 := by
  have hContext := hStages.hasContext hAccess hStager hBase
    hLooks hKeeps.sound
  have hClean := hStages.cleansUp hAccess hStager hBase
    hLooks hKeeps.sound hHeeds.removable
  have hEnd := hStages.view_build hAccess hStager
  have hSettings :
      (access.view (b.build o t).2).working =
        (access.view s).working := by
    rw [hEnd, Disk.removeTree_working, hHeeds.working,
      hContext.working, hKeeps.working]
  exact {
    sound := {
      tree := by
        rw [hEnd]
        exact hHeeds.tree.removeTree hContext.place_ne_nil
          hHeeds.removable
      temporary := by
        rw [hEnd, Disk.removeTree_temporary,
          hHeeds.temporary, hContext.temporary]
        exact hKeeps.sound.temporary }
    working := hSettings
    gone := by
      intro top hMem l hUnder
      by_cases hHere :
          (access.view t).place c.directory <+: l
      · exact hClean.gone l hHere
      · rcases List.mem_cons.mp hMem with rfl | hEarlier
        · exact absurd hUnder hHere
        · rw [hClean.releasing l hHere]
          refine hHeeds.earlier top hEarlier l hUnder
            hHere ?_
          have hNone := hKeeps.gone top hEarlier l hUnder
          rcases hClean.staging l hHere with
            hSame | ⟨hWay, _⟩
          · rw [hSame, hNone]
          · exact absurd hUnder
              (hKeeps.apart top hEarlier l
                (hWay.congr hKeeps.working))
    apart := by
      intro top hMem l hWay
      rcases List.mem_cons.mp hMem with rfl | hEarlier
      · exact hContext.apart l
          (hWay.congr hKeeps.working.symm)
      · exact hKeeps.apart top hEarlier l hWay }

theorem Series.keeps
    (hSeries : b.Series access s tops t)
    (hAccess : access.IsFaithful)
    (hStager : b.stager = .onDisk access base)
    (hBase : ∀ dir, base = some dir → dir.IsPlain)
    (hLooks : b.LooksOnly access)
    (hSound : (access.view s).IsSound) :
    Keeps access base tops s t := by
  induction hSeries with
  | nil =>
      exact ⟨hSound, rfl, by simp, by simp⟩
  | build o c tops t staged _ hStages hHeeds ih =>
      exact ih.build hAccess hStager hBase hLooks hStages
        hHeeds

end Builder

/-
  Every build with a context cleans up after itself,
  whatever its backend does and gives, provided the context
  can be removed; and after any series of such builds
  nothing is left of any context.
-/
theorem contexts_cleaned_up
    {σ : Type}
    {b : Builder σ}
    {access : DiskAccess σ}
    {text : Option String}
    (hAccess : access.IsFaithful)
    (hStager :
      b.stager = .onDisk access (Staging.baseOf text))
    (hLooks : b.LooksOnly access) :
    (∀ o s c staged,
      (access.view s).IsSound →
      b.Stages o s c staged →
      (access.view (b.reply o c staged).2).IsRemovable
          c.directory.toText
          ((access.view s).place c.directory) →
        b.CleansUp access (Staging.baseOf text) o s staged
          c) ∧
    (∀ tops s t,
      (access.view s).IsSound →
      b.Series access s tops t →
        ∀ top ∈ tops, ∀ l, top <+: l →
          Disk.entry? (access.view t) l = none) := by
  have hBase :
      ∀ dir, Staging.baseOf text = some dir →
        dir.IsPlain :=
    fun _ hSome => Staging.isPlain_of_baseOf hSome
  constructor
  · intro o s c staged hSound hStages hRemovable
    exact hStages.cleansUp hAccess hStager hBase hLooks
      hSound hRemovable
  · intro tops s t hSound hSeries
    exact (hSeries.keeps hAccess hStager hBase hLooks
      hSound).gone

/-
  A backend that writes another file into the context, and
  whose reply fails as no builder expects it.
-/
def Backend.scribbling : Backend Disk :=
  ⟨.records, fun request =>
    (Disk.store
      (request.context.directory.join
        ⟨"", ["notes"]⟩).toText (.octets [])).next
      (fun _ => Action.give (Action.fail .tooDeep))⟩

/- A registry without any image. -/
def Registry.empty {σ : Type} : Registry σ :=
  ⟨fun _ _ => Action.give false,
    fun _ _ _ => Action.give (),
    fun _ _ => Action.give ()⟩

def Builder.scribbling : Builder Disk :=
  ⟨.scribbling, some .empty,
    .onDisk .self (Staging.baseOf (some "/contexts")),
    .self, none⟩

/- A disk with a stored Dockerfile, after some contexts. -/
def Disk.afterContexts (n : Nat) : Disk :=
  ⟨(if n = 0 then [] else [(["contexts"], .directory)])
      ++ [(["srv"], .directory),
        (["srv", "Dockerfile"], .file (.octets [0x46]))],
    [], Path.ofText "/tmp", n⟩

/- The contexts of such a disk. -/
def BuildContext.numbered (name : String) : BuildContext :=
  ⟨⟨"/", ["contexts", name]⟩, "Dockerfile"⟩

/- A disk with such a context. -/
def Disk.withContext (n : Nat) (name : String) : Disk :=
  ⟨[(["contexts", name, "Dockerfile"],
        .file (.octets [0x46])),
      (["contexts", name], .directory),
      (["contexts"], .directory),
      (["srv"], .directory),
      (["srv", "Dockerfile"], .file (.octets [0x46]))],
    [], Path.ofText "/tmp", n + 1⟩

/- The context is made, and the scribbling does not stop it. -/
theorem Builder.scribbling_first :
    Builder.scribbling.Stages .sample (.afterContexts 0)
        (.numbered "imagebuild-aaaaaaaa")
        (.withContext 0 "imagebuild-aaaaaaaa") ∧
      Builder.scribbling.Heeds .self [] .sample
        (.afterContexts 0)
        (.withContext 0 "imagebuild-aaaaaaaa")
        (.numbered "imagebuild-aaaaaaaa") where
  left :=
    ⟨by decide, .afterContexts 0, rfl, by decide +kernel⟩
  right := {
    removable := Or.inl (by decide +kernel)
    tree := Disk.isTree_of_entries (by decide +kernel)
    working := by decide +kernel
    temporary := by decide +kernel
    earlier := by simp }

theorem Builder.scribbling_second :
    Builder.scribbling.Stages .sample (.afterContexts 1)
        (.numbered "imagebuild-aaaaaaab")
        (.withContext 1 "imagebuild-aaaaaaab") ∧
      Builder.scribbling.Heeds .self
        [["contexts", "imagebuild-aaaaaaaa"]] .sample
        (.afterContexts 1)
        (.withContext 1 "imagebuild-aaaaaaab")
        (.numbered "imagebuild-aaaaaaab") where
  left :=
    ⟨by decide, .afterContexts 1, rfl, by decide +kernel⟩
  right := {
    removable := Or.inl (by decide +kernel)
    tree := Disk.isTree_of_entries (by decide +kernel)
    working := by decide +kernel
    temporary := by decide +kernel
    earlier := by
      intro top hMem l hUnder _ _
      cases List.mem_singleton.mp hMem
      exact Disk.none_below_of_entries (by simp)
        (by decide +kernel) hUnder }

/- Two builds that fail unexpectedly leave no context. -/
theorem contexts_cleaned_up_scribbling :
    (Builder.scribbling.build .sample
        (.afterContexts 0)).1 = .error .tooDeep ∧
    Builder.scribbling.CleansUp .self
      (Staging.baseOf (some "/contexts")) .sample
      (.afterContexts 0)
      (.withContext 0 "imagebuild-aaaaaaaa")
      (.numbered "imagebuild-aaaaaaaa") ∧
    Builder.scribbling.Series .self (.afterContexts 0)
      [["contexts", "imagebuild-aaaaaaab"],
        ["contexts", "imagebuild-aaaaaaaa"]]
      (.afterContexts 2) ∧
    ∀ l, ["contexts", "imagebuild-aaaaaaaa"] <+: l →
      Disk.entry? (Disk.afterContexts 2) l = none := by
  have hSound : (Disk.afterContexts 0).IsSound :=
    ⟨Disk.isTree_of_entries (by decide +kernel),
      Path.isPlain_ofText "/tmp"⟩
  have hLooks : Builder.scribbling.LooksOnly .self := by
    rintro registry hSome path name s
    cases hSome
    rfl
  have hClean :=
    @contexts_cleaned_up Disk .scribbling .self
      (some "/contexts") (fun _ _ => rfl) rfl hLooks
  rcases Builder.scribbling_first with
    ⟨hStages, hHeeds⟩
  rcases Builder.scribbling_second with
    ⟨hStages', hHeeds'⟩
  have hRun :
      Builder.scribbling.build .sample
          (.afterContexts 0) =
        (.error .tooDeep, .afterContexts 1) := by
    rw [hStages.build_run]
    decide +kernel
  have hRun' :
      Builder.scribbling.build .sample
          (.afterContexts 1) =
        (.error .tooDeep, .afterContexts 2) := by
    rw [hStages'.build_run]
    decide +kernel
  have hFirst :
      Builder.scribbling.Series .self (.afterContexts 0)
        [["contexts", "imagebuild-aaaaaaaa"]]
        (.afterContexts 1) :=
    Builder.Series.nil.build_of_eq hStages hHeeds
      (by decide +kernel) hRun
  have hSecond :
      Builder.scribbling.Series .self (.afterContexts 0)
        [["contexts", "imagebuild-aaaaaaab"],
          ["contexts", "imagebuild-aaaaaaaa"]]
        (.afterContexts 2) :=
    hFirst.build_of_eq hStages' hHeeds'
      (by decide +kernel) hRun'
  refine ⟨by rw [hRun], ?_, hSecond, ?_⟩
  · exact hClean.1 _ _ _ _ hSound hStages hHeeds.removable
  · exact hClean.2 _ _ _ hSound hSecond _ (by simp)

end ContainerBuild
