import ContainerBuild.Proofs.StagingArea.Course

/-
  This file says what the steps in a staging area do: which
  of them there may be, what they write, and how contexts
  come to count as released.

  Key definitions include:
    * `StagingArea.Step.Releases`
    * `StagingArea.after`
    * `StagingArea.StaysIn`
    * `StagingArea.Permits`
    * `StagingArea.Allows`

  Main statements:
    * `StagingArea.confined_writeIn`
    * `StagingArea.getElem?_step`
    * `StagingArea.getElem?_after_of_released`
-/

namespace ContainerBuild

namespace StagingArea

variable {base : Option Path}
variable {a : StagingArea}
variable {s : Step}

------------------------------------------------------------
-- Steps
------------------------------------------------------------

/- The index of the context that a step is about, if any. -/
def Step.target? (s : Step) : Option Nat :=
  match s with
  | .stage _ _ => none
  | .release index => some index
  | .within index _ => some index
  | .write index _ _ => some index

/- A step that releases a context at its end. -/
def Step.Releases
    (index : Nat)
    (s : Step) : Prop :=
  s = .release index ∨
    ∃ failure, s = .within index failure

/- Releasing is the only effect of such a step. -/
theorem Step.Releases.snd_step
    {index : Nat}
    (hReleases : s.Releases index)
    (a : StagingArea) :
    (step base s a).2 = a.release index := by
  rcases hReleases with rfl | ⟨failure, rfl⟩ <;>
    cases hAt : a.contexts[index]? <;>
    simp [step, doWith, StagingArea.release, hAt]

theorem snd_step_write_of_none
    {index : Nat}
    (hAt : a.contexts[index]? = none)
    (name : String)
    (octets : List UInt8) :
    (step base (.write index name octets) a).2 = a := by
  simp only [step, doWith, hAt]

theorem snd_step_write
    {index : Nat}
    {x : StagedContext}
    {name : String}
    {octets : List UInt8}
    {r : Except Failure Unit}
    {d' : Disk}
    (hAt : a.contexts[index]? = some x)
    (hWrite :
      writeIn x.context name octets a.disk = (r, d')) :
    (step base (.write index name octets) a).2 =
      ⟨d', a.contexts⟩ := by
  simp only [step, doWith, hAt, Action.next, Action.onPart,
    hWrite]
  cases r <;> rfl

theorem step_stage_of_ok
    {source name : String}
    {c : BuildContext}
    {d' : Disk}
    (hStage :
      Staging.stage base source name a.disk = (.ok c, d')) :
    step base (.stage source name) a =
      (.ok (.staged c),
        ⟨d', a.contexts ++ [⟨c, false⟩]⟩) := by
  simp only [step, Action.next, Action.onPart, hStage]
  rfl

theorem step_stage_of_error
    {source name : String}
    {f : Failure}
    {d' : Disk}
    (hStage :
      Staging.stage base source name a.disk =
        (.error f, d')) :
    step base (.stage source name) a =
      (.error f, ⟨d', a.contexts⟩) := by
  simp only [step, Action.next, Action.onPart, hStage]
  rfl

/- The area after some steps. -/
def after
    (base : Option Path)
    (steps : List Step)
    (a : StagingArea) : StagingArea :=
  steps.foldl (fun b s => (step base s b).2) a

------------------------------------------------------------
-- Permitted Steps
------------------------------------------------------------

/- A name that never leads out of a directory. -/
structure StaysIn
    (top : Location)
    (name : String) : Prop where
  root : (Path.ofText name).root = ""
  parts :
    ∀ front, front <+: (Path.ofText name).parts →
      top <+: Disk.follow top front

/- A name without two dots among its parts stays inside. -/
theorem staysIn_of_notMem
    {name : String}
    (hRoot : (Path.ofText name).root = "")
    (hUp : ".." ∉ (Path.ofText name).parts)
    (top : Location) :
    StaysIn top name := by
  refine ⟨hRoot, fun front hFront => ?_⟩
  have hPlain := (Path.isPlain_ofText name).parts
  induction front using List.reverseRecOn with
  | nil => exact List.prefix_refl _
  | append_singleton front part ih =>
      have hMem : part ∈ (Path.ofText name).parts :=
        hFront.subset (by simp)
      have hOther : part ≠ ".." := by
        rintro rfl
        exact hUp hMem
      rw [Disk.follow_concat,
        Disk.further_of_isPart (hPlain part hMem).part
          hOther]
      exact (ih ((List.prefix_append front [part]).trans
        hFront)).trans (List.prefix_append _ _)

/-
  What is assumed of a step: a new directory does not get
  the path of a context that has been released, and what is
  written in a context stays in its directory.
-/
def Permits
    (base : Option Path)
    (a : StagingArea)
    (s : Step) : Prop :=
  match s with
  | .stage _ _ =>
      ∀ p, (Staging.newDirectory base a.disk).1 = .ok p →
        ∀ x ∈ a.contexts, x.released = true →
          x.context.directory ≠ p
  | .write index name _ =>
      ∀ x, a.contexts[index]? = some x →
        StaysIn (a.disk.place x.context.directory) name
  | _ => True

/- The same of every step of a series. -/
def Allows
    (base : Option Path)
    (a : StagingArea)
    (steps : List Step) : Prop :=
  match steps with
  | [] => True
  | s :: rest =>
      a.Permits base s ∧ Allows base (step base s a).2 rest

------------------------------------------------------------
-- Writing
------------------------------------------------------------

section Writing

variable {d : Disk}
variable {dir p q : Path}
variable {name : String}

/- What is written in a context is at a path below its own. -/
theorem StaysIn.join_eq
    {top : Location}
    (hStays : StaysIn top name)
    (p : Path) :
    p.join (Path.ofText name) =
      ⟨p.root, p.parts ++ (Path.ofText name).parts⟩ :=
  if_pos hStays.root

/-
  The way there leads to the directory of contexts first, and
  from the context on never out of it.
-/
theorem StaysIn.cases_leadsTo
    (hStays : StaysIn (d.place p) name)
    (hIn : dir.IsIn p)
    (hLeads : q.LeadsTo (p.join (Path.ofText name))) :
    d.place p <+: d.place q ∨ q.LeadsTo dir := by
  rw [hStays.join_eq] at hLeads
  have hStart : d.start q = d.start p := by
    simp only [Disk.start, hLeads.root]
  rcases List.prefix_or_prefix_of_prefix hLeads.parts
      (List.prefix_append p.parts _) with
    hShort | ⟨front, hLong⟩
  · by_cases hSame : q.parts = p.parts
    · have hPlace : d.place q = d.place p := by
        rw [Disk.place, Disk.place, hStart, hSame]
      exact Or.inl (hPlace ▸ List.prefix_refl _)
    · exact Or.inr
        (hIn.leadsTo ⟨hLeads.root, hShort⟩ hSame)
  · left
    have hFront : front <+: (Path.ofText name).parts := by
      have hParts := hLeads.parts
      rw [← hLong] at hParts
      exact (List.prefix_append_right_inj _).mp hParts
    have hPlace :
        d.place q = Disk.follow (d.place p) front := by
      rw [Disk.place, ← hLong, hStart, Disk.follow,
        List.foldl_append]
      rfl
    rw [hPlace]
    exact hStays.parts front hFront

/- Writing in a context changes what is in its directory. -/
theorem confined_writeIn
    {c : BuildContext}
    (hPlain : dir.IsPlain)
    (hIn : dir.IsIn c.directory)
    (hStays : StaysIn (d.place c.directory) name)
    {octets : List UInt8}
    {r : Except Failure Unit}
    {d' : Disk}
    (hWrite : writeIn c name octets d = (r, d')) :
    d.Confined d' (d.place c.directory <+: ·)
        (d.OnWay dir) ∧
      d.KeepsDirectories d' := by
  have hTarget :
      (c.directory.join (Path.ofText name)).IsPlain :=
    (hIn.isPlain hPlain).join (Path.isPlain_ofText name)
  have hLeads := Path.LeadsTo.refl
    (c.directory.join (Path.ofText name))
  have hParent := hLeads.parent.isPlain hTarget
  have hGrows := Disk.grows_makeDirectories hParent d
  have hInside :
      d.place c.directory <+:
        d.place (c.directory.join (Path.ofText name)) := by
    rcases hStays.cases_leadsTo hIn hLeads with
      hBelow | hAbove
    · exact hBelow
    · have hParts := hAbove.parts.length_le
      rw [hStays.join_eq] at hParts
      rcases hIn with ⟨part, _, _, hPath⟩
      have hLength :
          c.directory.parts.length =
            dir.parts.length + 1 := by
        rw [hPath]
        exact List.length_append
      rw [List.length_append, hLength] at hParts
      omega
  have hWay : ∀ l,
      d.OnWay (c.directory.join
          (Path.ofText name)).parent l →
        d.place c.directory <+: l ∨ d.OnWay dir l := by
    rintro l ⟨q, hOn, rfl⟩
    refine (hStays.cases_leadsTo hIn
      ⟨hOn.root, hOn.parts.trans hLeads.parent.parts⟩).imp
        id ?_
    exact fun hAbove => ⟨q, hAbove, rfl⟩
  unfold writeIn at hWrite
  rcases hMake : Disk.makeDirectories
      (c.directory.join (Path.ofText name)).parent d with
    ⟨f | _, made⟩
  · rw [hMake] at hGrows
    simp only [Action.next_of_error hMake] at hWrite
    cases hWrite
    exact ⟨hGrows.confined hWay, hGrows.keepsDirectories⟩
  · rw [hMake] at hGrows
    simp only [Action.next_of_ok hMake] at hWrite
    have hThere :
        d.place c.directory <+:
          made.place
            (c.directory.join (Path.ofText name)) := by
      rw [Disk.place_congr hGrows.working]
      exact hInside
    have hStored :
        made.Confined
          (Disk.store
            (c.directory.join (Path.ofText name)).toText
            (.octets octets) made).2
          (d.place c.directory <+: ·) (d.OnWay dir) :=
      Disk.confined_store hTarget hThere _
    have hKept :=
      Disk.keepsDirectories_store
        (c.directory.join (Path.ofText name)).toText
        (.octets octets) made
    rw [hWrite] at hStored hKept
    exact ⟨(hGrows.confined hWay).trans hStored,
      hGrows.keepsDirectories.trans hKept⟩

end Writing

------------------------------------------------------------
-- Releases
------------------------------------------------------------

theorem release_of_held
    {index : Nat}
    {x : StagedContext}
    (hAt : a.contexts[index]? = some x)
    (hHeld : x.released = false) :
    a.release index =
      ⟨x.context.clear a.disk,
        a.contexts.set index ⟨x.context, true⟩⟩ := by
  simp [release, hAt, hHeld]

theorem release_of_released
    {index : Nat}
    {x : StagedContext}
    (hAt : a.contexts[index]? = some x)
    (hReleased : x.released = true) :
    a.release index = a := by
  simp [release, hAt, hReleased]

/- A context counts as released afterwards in any case. -/
theorem getElem?_release
    {index : Nat}
    {x : StagedContext}
    (hAt : a.contexts[index]? = some x) :
    (a.release index).contexts[index]? =
      some ⟨x.context, true⟩ := by
  cases hReleased : x.released with
  | true =>
      rw [release_of_released hAt hReleased, hAt,
        ← hReleased]
  | false =>
      rw [release_of_held hAt hReleased]
      have hIndex : index < a.contexts.length :=
        (List.getElem?_eq_some_iff.mp hAt).1
      exact List.getElem?_set_self hIndex

/- Only its release changes the state of a context. -/
theorem getElem?_step
    {i : Nat}
    {x : StagedContext}
    (hAt : a.contexts[i]? = some x)
    (hOther : ¬ s.Releases i) :
    (step base s a).2.contexts[i]? = some x := by
  have hRelease : ∀ index, index ≠ i →
      (a.release index).contexts[i]? = some x := by
    intro index hNot
    unfold release
    split
    · exact hAt
    · split
      · exact hAt
      · rw [List.getElem?_set_ne hNot]
        exact hAt
  cases s with
  | stage source name =>
      rcases hStage :
          Staging.stage base source name a.disk with
        ⟨f | c, d'⟩
      · rw [step_stage_of_error hStage]
        exact hAt
      · rw [step_stage_of_ok hStage]
        have hIndex : i < a.contexts.length :=
          (List.getElem?_eq_some_iff.mp hAt).1
        exact (List.getElem?_append_left hIndex).trans hAt
  | release index =>
      rw [Step.Releases.snd_step (Or.inl rfl)]
      exact hRelease index
        (fun hSame => hOther (hSame ▸ Or.inl rfl))
  | within index failure =>
      rw [Step.Releases.snd_step (Or.inr ⟨failure, rfl⟩)]
      exact hRelease index
        (fun hSame => hOther (hSame ▸ Or.inr ⟨failure, rfl⟩))
  | write index name octets =>
      cases hTarget : a.contexts[index]? with
      | none =>
          rw [snd_step_write_of_none hTarget]
          exact hAt
      | some y =>
          rcases hWrite :
              writeIn y.context name octets a.disk with
            ⟨r, d'⟩
          rw [snd_step_write hTarget hWrite]
          exact hAt

/- Once released, a context remains so, whatever is done. -/
theorem getElem?_after_of_released
    {i : Nat}
    {x : StagedContext}
    (hAt : a.contexts[i]? = some x)
    (hReleased : x.released = true)
    (steps : List Step) :
    (a.after base steps).contexts[i]? = some x := by
  induction steps generalizing a with
  | nil => exact hAt
  | cons s rest ih =>
      have hNext :
          (step base s a).2.contexts[i]? = some x := by
        by_cases hReleases : s.Releases i
        · rw [hReleases.snd_step,
            release_of_released hAt hReleased]
          exact hAt
        · exact getElem?_step hAt hReleases
      exact ih hNext

end StagingArea

end ContainerBuild
