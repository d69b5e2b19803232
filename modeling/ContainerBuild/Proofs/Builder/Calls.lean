import ContainerBuild.Proofs.Builder.Course
import ContainerBuild.Proofs.ImageName

/-
  This file says in which order a builder calls its
  collaborators. A recorded builder is the same builder with
  collaborators that write down each call; what it gives and
  what it does are not affected by that.

  Key definitions include:
    * `Call`
    * `Recorded`
    * `Builder.recorded`
    * `Builder.calls`
    * `Builder.sequence`
    * `Builder.Makes`
    * `Builder.Ordered`

  Main statements:
    * `Builder.recorded_build`
    * `Builder.makes_calls`
    * `Builder.calls_ordered`
-/

namespace ContainerBuild

------------------------------------------------------------
-- Records of calls
------------------------------------------------------------

/-
  The calls of a builder: the registry is asked, a
  Dockerfile is staged, a build is sent, its reply has been
  read, a context is released.
-/
inductive Call
  | lookUp (repositoryPath name : String)
  | stage (source name : String)
  | send (request : BuildRequest)
  | read
  | release (c : BuildContext)
deriving DecidableEq, Repr

/- A world and the calls that were made in it so far. -/
structure Recorded (σ : Type) where
  calls : List Call
  world : σ

section Recording

variable {σ α : Type}

/- Put back the world, with some more calls. -/
def Recorded.after
    (made : List Call)
    (world : σ)
    (s : Recorded σ) : Recorded σ :=
  ⟨s.calls ++ made, world⟩

/- An action with the calls that are written down for it. -/
def Action.noting
    (made : List Call)
    (m : Action σ α) : Action (Recorded σ) α :=
  m.onPart Recorded.world (Recorded.after made)

theorem Action.noting_run
    (made : List Call)
    (m : Action σ α)
    (before : List Call)
    (s : σ) :
    m.noting made ⟨before, s⟩ =
      ((m s).1, ⟨before ++ made, (m s).2⟩) :=
  rfl

/- A registry whose look-ups are written down. -/
def Registry.recorded
    (r : Registry σ) : Registry (Recorded σ) :=
  ⟨fun path name =>
      (r.hasImage path name).noting [.lookUp path name],
    fun name tag target => (r.save name tag target).noting [],
    fun name tag => (r.remove name tag).noting []⟩

def Stager.recorded
    (x : Stager σ) : Stager (Recorded σ) :=
  ⟨fun source name =>
      (x.stage source name).noting [.stage source name],
    fun c s => s.after [.release c] (x.release c s.world)⟩

/- A backend whose replies are written down when read. -/
def Backend.recorded
    (x : Backend σ) : Backend (Recorded σ) :=
  ⟨x.format, fun request =>
    ((x.build request).noting [.send request]).next
      (fun read => Action.give (read.noting [.read]))⟩

def DiskAccess.recorded
    (access : DiskAccess σ) : DiskAccess (Recorded σ) :=
  ⟨fun s => access.view s.world,
    fun d s => s.after [] (access.update d s.world)⟩

/- The builder among collaborators that write down calls. -/
def Builder.recorded
    (b : Builder σ) : Builder (Recorded σ) :=
  ⟨b.backend.recorded, b.registry.map Registry.recorded,
    b.stager.recorded, b.access.recorded, b.timeout⟩

/- The calls that are made to have an order built. -/
def Builder.calls
    (b : Builder σ)
    (o : BuildOrder)
    (s : σ) : List Call :=
  (b.recorded.build o ⟨[], s⟩).2.calls

end Recording

------------------------------------------------------------
-- Ways to make calls
------------------------------------------------------------

namespace Builder

variable {σ : Type}

/- The question to the registry, if there is one. -/
def lookUps
    (b : Builder σ)
    (o : BuildOrder) : List Call :=
  match b.registry with
  | none => []
  | some _ =>
      [.lookUp (o.namespaceName ++ "/" ++ o.repository)
        o.image]

/-
  All calls for an order that is sent, with or without a
  reply to read.
-/
def sequence
    (b : Builder σ)
    (o : BuildOrder)
    (c : BuildContext)
    (reads : Bool) : List Call :=
  b.lookUps o
    ++ [.stage o.source o.dockerfile, .send (b.job o c)]
    ++ (if reads then [.read] else [])
    ++ [.release c]

/-
  The calls that are made by the time a build ends: none for
  an invalid name, the look-up if that decides, no more than
  the staging if that fails, and otherwise all of them.
-/
inductive Makes
    (b : Builder σ)
    (o : BuildOrder)
    (s : σ) : List Call → Prop
  | unnamed (f : Failure) :
      checkName o = .error f → Makes b o s []
  | refused (f : Failure) (checked : σ) :
      checkName o = .ok () →
      b.checkAbsent o s = (.error f, checked) →
        Makes b o s (b.lookUps o)
  | unstaged (f : Failure) (checked staged : σ) :
      checkName o = .ok () →
      b.checkAbsent o s = (.ok (), checked) →
      b.stager.stage o.source o.dockerfile checked =
          (.error f, staged) →
        Makes b o s
          (b.lookUps o ++ [.stage o.source o.dockerfile])
  | sent (c : BuildContext) (staged : σ) :
      b.Stages o s c staged →
        Makes b o s
          (b.sequence o c
            (b.backend.build (b.job o c) staged).1.isOk)

------------------------------------------------------------
-- Recorded runs
------------------------------------------------------------

theorem check_of_checkName
    {o : BuildOrder}
    (hName : checkName o = .ok ()) :
    ImageName.check o.image = .ok () := by
  unfold checkName at hName
  cases hCheck : ImageName.check o.image with
  | error e =>
      rw [hCheck] at hName
      exact absurd hName (by simp)
  | ok _ => rfl

/- Under a valid name the registry is asked for that name. -/
theorem checkAbsent_eq
    (b : Builder σ)
    {o : BuildOrder}
    (hName : checkName o = .ok ()) :
    b.checkAbsent o =
      match b.registry with
      | none => Action.give ()
      | some registry =>
          (registry.hasImage
              (o.namespaceName ++ "/" ++ o.repository)
              o.image).next
            (fun found =>
              if found then
                Action.failBuild
                  (.alreadyExists o.reference.fullName)
              else
                Action.give ()) := by
  have hPath :
      o.reference.repositoryPath =
        o.namespaceName ++ "/" ++ o.repository :=
    Reference.repositoryPath_ofUserInput _ _ _
  have hImage : o.reference.imageName = o.image :=
    Reference.imageName_of_check _ _
      (check_of_checkName hName)
  unfold checkAbsent
  cases b.registry with
  | none => rfl
  | some registry => simp only [hPath, hImage]

theorem recorded_checkAbsent
    (b : Builder σ)
    {o : BuildOrder}
    (hName : checkName o = .ok ())
    (before : List Call)
    (s : σ) :
    b.recorded.checkAbsent o ⟨before, s⟩ =
      ((b.checkAbsent o s).1,
        ⟨before ++ b.lookUps o, (b.checkAbsent o s).2⟩) := by
  rw [checkAbsent_eq _ hName, checkAbsent_eq _ hName]
  rcases b with ⟨backend, registry, stager, access, timeout⟩
  cases registry with
  | none => simp [recorded, lookUps, Action.give]
  | some registry =>
      cases hAsk :
          registry.hasImage
            (o.namespaceName ++ "/" ++ o.repository)
            o.image s with
      | mk answer s' =>
          have hNoted :
              registry.recorded.hasImage
                  (o.namespaceName ++ "/" ++ o.repository)
                  o.image ⟨before, s⟩ =
                (answer,
                  ⟨before ++ [.lookUp
                      (o.namespaceName ++ "/"
                        ++ o.repository) o.image],
                    s'⟩) := by
            simp only [Registry.recorded,
              Action.noting_run, hAsk]
          cases answer with
          | error f =>
              simp only [recorded, lookUps,
                Option.map_some, Action.next_of_error hAsk,
                Action.next_of_error hNoted]
          | ok found =>
              simp only [recorded, lookUps,
                Option.map_some, Action.next_of_ok hAsk,
                Action.next_of_ok hNoted]
              cases found <;> rfl

/- Only a backend that took the build is read from. -/
theorem recorded_reply
    (b : Builder σ)
    (o : BuildOrder)
    (c : BuildContext)
    (before : List Call)
    (s : σ) :
    b.recorded.reply o c ⟨before, s⟩ =
      ((b.reply o c s).1,
        ⟨before ++ .send (b.job o c) ::
            (if (b.backend.build (b.job o c) s).1.isOk then
              [.read]
            else
              []),
          (b.reply o c s).2⟩) := by
  cases hBuild : b.backend.build (b.job o c) s with
  | mk taken s' =>
      have hNoted :
          (b.backend.build (b.job o c)).noting
              [.send (b.job o c)] ⟨before, s⟩ =
            (taken,
              ⟨before ++ [.send (b.job o c)], s'⟩) := by
        rw [Action.noting_run, hBuild]
      cases taken with
      | error f =>
          have hSent :
              b.recorded.backend.build (b.recorded.job o c)
                  ⟨before, s⟩ =
                (.error f,
                  ⟨before ++ [.send (b.job o c)], s'⟩) :=
            Action.next_of_error hNoted _
          simp only [reply, Action.next_of_error hSent,
            Action.next_of_error hBuild]
          rfl
      | ok read =>
          have hSent :
              b.recorded.backend.build (b.recorded.job o c)
                  ⟨before, s⟩ =
                (.ok (read.noting [.read]),
                  ⟨before ++ [.send (b.job o c)], s'⟩) :=
            Action.next_of_ok hNoted _
          simp only [reply, Action.next_of_ok hSent,
            Action.next_of_ok hBuild, Action.noting_run]
          simp [Except.isOk, Except.toBool]

/- An order that is sent is sent in the recorded world. -/
theorem Stages.recorded
    {b : Builder σ}
    {o : BuildOrder}
    {s staged : σ}
    {c : BuildContext}
    (hStages : b.Stages o s c staged)
    (before : List Call) :
    b.recorded.Stages o ⟨before, s⟩ c
      ⟨before ++ b.lookUps o
          ++ [.stage o.source o.dockerfile],
        staged⟩ := by
  rcases hStages.stage with ⟨checked, hAbsent, hStage⟩
  refine ⟨hStages.name, ⟨before ++ b.lookUps o, checked⟩,
    ?_, ?_⟩
  · rw [recorded_checkAbsent b hStages.name, hAbsent]
  · simp only [Builder.recorded, Stager.recorded,
      Action.noting_run, hStage]

/- The recorded run of an order that is sent. -/
theorem Stages.recorded_build
    {b : Builder σ}
    {o : BuildOrder}
    {s staged : σ}
    {c : BuildContext}
    (hStages : b.Stages o s c staged)
    (before : List Call) :
    b.recorded.build o ⟨before, s⟩ =
      ((b.build o s).1,
        ⟨before ++ b.sequence o c
            (b.backend.build (b.job o c) staged).1.isOk,
          (b.build o s).2⟩) := by
  rw [hStages.build_run,
    (hStages.recorded before).build_run, recorded_reply]
  simp [sequence, Builder.recorded, Stager.recorded,
    Recorded.after, Backend.recorded]

theorem Stages.calls
    {b : Builder σ}
    {o : BuildOrder}
    {s staged : σ}
    {c : BuildContext}
    (hStages : b.Stages o s c staged) :
    b.calls o s =
      b.sequence o c
        (b.backend.build (b.job o c) staged).1.isOk := by
  simp only [Builder.calls, hStages.recorded_build,
    List.nil_append]

/- The recorded run of an order that the registry refuses. -/
theorem recorded_build_of_refused
    {b : Builder σ}
    {o : BuildOrder}
    {s checked : σ}
    {f : Failure}
    (hName : checkName o = .ok ())
    (hAbsent : b.checkAbsent o s = (.error f, checked))
    (before : List Call) :
    b.recorded.build o ⟨before, s⟩ =
      ((b.build o s).1,
        ⟨before ++ b.lookUps o, (b.build o s).2⟩) := by
  have hRecorded := recorded_checkAbsent b hName before s
  rw [hAbsent] at hRecorded
  rw [build_of_refused hName hRecorded,
    build_of_refused hName hAbsent]

/- The recorded run of an order that cannot be staged. -/
theorem recorded_build_of_unstaged
    {b : Builder σ}
    {o : BuildOrder}
    {s checked staged : σ}
    {f : Failure}
    (hName : checkName o = .ok ())
    (hAbsent : b.checkAbsent o s = (.ok (), checked))
    (hStage :
      b.stager.stage o.source o.dockerfile checked =
        (.error f, staged))
    (before : List Call) :
    b.recorded.build o ⟨before, s⟩ =
      ((b.build o s).1,
        ⟨before ++
            (b.lookUps o ++ [.stage o.source o.dockerfile]),
          (b.build o s).2⟩) := by
  have hRecorded := recorded_checkAbsent b hName before s
  rw [hAbsent] at hRecorded
  have hNoted :
      b.recorded.stager.stage o.source o.dockerfile
          ⟨before ++ b.lookUps o, checked⟩ =
        (.error f,
          ⟨before ++ b.lookUps o
            ++ [.stage o.source o.dockerfile], staged⟩) := by
    simp only [Builder.recorded, Stager.recorded,
      Action.noting_run, hStage]
  rw [build_of_unstaged hName hRecorded hNoted,
    build_of_unstaged hName hAbsent hStage,
    List.append_assoc]

/-
  Writing down changes nothing, and what is written down is
  one of the ways to make calls.
-/
theorem exists_makes
    (b : Builder σ)
    (o : BuildOrder)
    (s : σ) :
    ∃ made, b.Makes o s made ∧
      ∀ before,
        b.recorded.build o ⟨before, s⟩ =
          ((b.build o s).1,
            ⟨before ++ made, (b.build o s).2⟩) := by
  rcases b.build_cases o s with
    ⟨f, hName⟩ | ⟨f, checked, hName, hAbsent⟩ |
      ⟨f, checked, staged, hName, hAbsent, hStage⟩ |
      ⟨c, staged, hStages⟩
  · refine ⟨[], .unnamed f hName, fun before => ?_⟩
    rw [build_of_unnamed hName, build_of_unnamed hName,
      List.append_nil]
  · exact ⟨_, .refused f checked hName hAbsent,
      recorded_build_of_refused hName hAbsent⟩
  · exact ⟨_,
      .unstaged f checked staged hName hAbsent hStage,
      recorded_build_of_unstaged hName hAbsent hStage⟩
  · exact ⟨_, .sent c staged hStages,
      hStages.recorded_build⟩

/- A recorded run is the run, with the calls written down. -/
theorem recorded_build
    (b : Builder σ)
    (o : BuildOrder)
    (before : List Call)
    (s : σ) :
    b.recorded.build o ⟨before, s⟩ =
      ((b.build o s).1,
        ⟨before ++ b.calls o s, (b.build o s).2⟩) := by
  rcases b.exists_makes o s with ⟨made, hMakes, hRun⟩
  have hCalls : b.calls o s = made := by
    simp only [calls, hRun, List.nil_append]
  rw [hRun, hCalls]

theorem makes_calls
    (b : Builder σ)
    (o : BuildOrder)
    (s : σ) :
    b.Makes o s (b.calls o s) := by
  rcases b.exists_makes o s with ⟨made, hMakes, hRun⟩
  have hCalls : b.calls o s = made := by
    simp only [calls, hRun, List.nil_append]
  rw [hCalls]
  exact hMakes

------------------------------------------------------------
-- The order of calls
------------------------------------------------------------

/- The registry says that it has no such image. -/
def Allows
    (b : Builder σ)
    (o : BuildOrder)
    (s : σ) : Prop :=
  ∀ registry, b.registry = some registry →
    (registry.hasImage
      (o.namespaceName ++ "/" ++ o.repository)
      o.image s).1 = .ok false

/-
  What holds of the calls for an order: they are an initial
  part of one sequence, each is made with the words of the
  order and after what must come before it, and an order
  that is turned down has no effect but the look-up.
-/
structure Ordered
    (b : Builder σ)
    (o : BuildOrder)
    (s : σ)
    (calls : List Call) : Prop where
  initial : ∃ c reads, calls <+: b.sequence o c reads
  lookUp :
    ∀ path name, .lookUp path name ∈ calls →
      path = o.namespaceName ++ "/" ++ o.repository ∧
        name = o.image ∧
        ImageName.check o.image = .ok () ∧
        b.registry.isSome = true
  stage :
    ∀ source name, .stage source name ∈ calls →
      source = o.source ∧ name = o.dockerfile ∧
        ImageName.check o.image = .ok () ∧ b.Allows o s
  send :
    ∀ request, .send request ∈ calls →
      (b.stager.stage o.source o.dockerfile
          (b.check o s).2).1 = .ok request.context ∧
        request.imageName = o.reference.fullName ∧
        request.timeout = b.timeout ∧
        calls.getLast? = some (.release request.context)
  release :
    ∀ c, .release c ∈ calls →
      ∃ request, .send request ∈ calls ∧
        request.context = c
  unnamed :
    ImageName.check o.image ≠ .ok () →
      calls = [] ∧ (b.build o s).2 = s
  refused :
    ∀ registry, b.registry = some registry →
      ImageName.check o.image = .ok () →
      ¬ b.Allows o s →
        calls =
            [.lookUp
              (o.namespaceName ++ "/" ++ o.repository)
              o.image] ∧
          (b.build o s).2 =
            (registry.hasImage
              (o.namespaceName ++ "/" ++ o.repository)
              o.image s).2

/- A valid name passes the checks if the registry allows it. -/
theorem allows_iff
    {b : Builder σ}
    {o : BuildOrder}
    {s : σ}
    (hName : checkName o = .ok ()) :
    b.Allows o s ↔ (b.checkAbsent o s).1 = .ok () := by
  rw [checkAbsent_eq b hName]
  unfold Allows
  cases hRegistry : b.registry with
  | none => simp [Action.give]
  | some registry =>
      cases hAsk :
          registry.hasImage
            (o.namespaceName ++ "/" ++ o.repository)
            o.image s with
      | mk answer s' =>
          simp only [Option.some.injEq, forall_eq', hAsk,
            Action.next]
          cases answer with
          | error f => simp
          | ok found =>
              cases found with
              | false => simp [Action.give]
              | true =>
                  simp [Action.failBuild, Action.fail]

/- The look-up is all that checking an order does. -/
theorem checkAbsent_snd
    {b : Builder σ}
    {o : BuildOrder}
    {registry : Registry σ}
    (hName : checkName o = .ok ())
    (hRegistry : b.registry = some registry)
    (s : σ) :
    (b.checkAbsent o s).2 =
      (registry.hasImage
        (o.namespaceName ++ "/" ++ o.repository)
        o.image s).2 := by
  rw [checkAbsent_eq b hName, hRegistry]
  simp only [Action.next]
  cases registry.hasImage
      (o.namespaceName ++ "/" ++ o.repository)
      o.image s with
  | mk answer s' =>
      cases answer with
      | error f => rfl
      | ok found => cases found <;> rfl

theorem mem_lookUps
    {b : Builder σ}
    {o : BuildOrder}
    {call : Call} :
    call ∈ b.lookUps o ↔
      b.registry.isSome = true ∧
        call =
          .lookUp (o.namespaceName ++ "/" ++ o.repository)
            o.image := by
  unfold lookUps
  cases b.registry <;> simp

theorem ordered_of_unnamed
    {b : Builder σ}
    {o : BuildOrder}
    {f : Failure}
    (s : σ)
    (hName : checkName o = .error f) :
    b.Ordered o s [] where
  initial :=
    ⟨⟨⟨"", []⟩, ""⟩, false, List.nil_prefix⟩
  lookUp := by simp
  stage := by simp
  send := by simp
  release := by simp
  unnamed := by
    intro _
    refine ⟨rfl, ?_⟩
    rw [build_of_unnamed hName]
  refused := by
    intro _ _ hCheck
    simp [checkName, hCheck] at hName

theorem ordered_of_refused
    {b : Builder σ}
    {o : BuildOrder}
    {s checked : σ}
    {f : Failure}
    (hName : checkName o = .ok ())
    (hAbsent : b.checkAbsent o s = (.error f, checked)) :
    b.Ordered o s (b.lookUps o) where
  initial :=
    ⟨⟨⟨"", []⟩, ""⟩, false, by simp [sequence]⟩
  lookUp := by
    intro path name hMem
    rcases mem_lookUps.mp hMem with ⟨hRegistry, hCall⟩
    cases hCall
    exact ⟨rfl, rfl, check_of_checkName hName, hRegistry⟩
  stage := by simp [mem_lookUps]
  send := by simp [mem_lookUps]
  release := by simp [mem_lookUps]
  unnamed := fun hCheck =>
    absurd (check_of_checkName hName) hCheck
  refused := by
    intro registry hRegistry _ _
    refine ⟨by simp [lookUps, hRegistry], ?_⟩
    rw [← checkAbsent_snd hName hRegistry, hAbsent,
      build_of_refused hName hAbsent]

theorem ordered_of_unstaged
    {b : Builder σ}
    {o : BuildOrder}
    {s checked : σ}
    (hName : checkName o = .ok ())
    (hAbsent : b.checkAbsent o s = (.ok (), checked)) :
    b.Ordered o s
      (b.lookUps o ++ [.stage o.source o.dockerfile]) := by
  have hAllows : b.Allows o s :=
    (allows_iff hName).mpr (by rw [hAbsent])
  exact {
    initial :=
      ⟨⟨⟨"", []⟩, ""⟩, false, by simp [sequence]⟩
    lookUp := by
      intro path name hMem
      simp only [List.mem_append, mem_lookUps,
        List.mem_singleton, reduceCtorEq, or_false] at hMem
      rcases hMem with ⟨hRegistry, hCall⟩
      cases hCall
      exact ⟨rfl, rfl, check_of_checkName hName, hRegistry⟩
    stage := by
      intro source name hMem
      simp only [List.mem_append, mem_lookUps,
        List.mem_singleton, reduceCtorEq, and_false,
        false_or, Call.stage.injEq] at hMem
      exact ⟨hMem.1, hMem.2, check_of_checkName hName,
        hAllows⟩
    send := by simp [mem_lookUps]
    release := by simp [mem_lookUps]
    unnamed := fun hCheck =>
      absurd (check_of_checkName hName) hCheck
    refused := fun _ _ _ hRefused =>
      absurd hAllows hRefused }

/- The calls of a sequence are the four kinds and the reading. -/
theorem mem_sequence
    {b : Builder σ}
    {o : BuildOrder}
    {c : BuildContext}
    {reads : Bool}
    {call : Call} :
    call ∈ b.sequence o c reads ↔
      call ∈ b.lookUps o ∨
        call = .stage o.source o.dockerfile ∨
        call = .send (b.job o c) ∨
        (reads = true ∧ call = .read) ∨
        call = .release c := by
  cases reads <;> simp [sequence]

theorem ordered_of_sent
    {b : Builder σ}
    {o : BuildOrder}
    {s staged : σ}
    {c : BuildContext}
    (hStages : b.Stages o s c staged)
    (reads : Bool) :
    b.Ordered o s (b.sequence o c reads) := by
  rcases hStages.stage with ⟨checked, hAbsent, hStage⟩
  have hName := hStages.name
  have hAllows : b.Allows o s :=
    (allows_iff hName).mpr (by rw [hAbsent])
  have hCheck : (b.check o s).2 = checked := by
    simp only [check, hName, hAbsent]
  exact {
    initial := ⟨c, reads, List.prefix_refl _⟩
    lookUp := by
      intro path name hMem
      simp only [mem_sequence, mem_lookUps, reduceCtorEq,
        and_false, or_false] at hMem
      rcases hMem with ⟨hRegistry, hCall⟩
      cases hCall
      exact ⟨rfl, rfl, check_of_checkName hName, hRegistry⟩
    stage := by
      intro source name hMem
      simp only [mem_sequence, mem_lookUps, reduceCtorEq,
        and_false, or_false, false_or,
        Call.stage.injEq] at hMem
      exact ⟨hMem.1, hMem.2, check_of_checkName hName,
        hAllows⟩
    send := by
      intro request hMem
      simp only [mem_sequence, mem_lookUps, reduceCtorEq,
        and_false, or_false, false_or,
        Call.send.injEq] at hMem
      subst hMem
      refine ⟨?_, rfl, rfl, List.getLast?_concat⟩
      rw [hCheck, hStage]
      rfl
    release := by
      intro c' hMem
      simp only [mem_sequence, mem_lookUps, reduceCtorEq,
        and_false, false_or, Call.release.injEq] at hMem
      subst hMem
      exact ⟨b.job o c', by simp [mem_sequence], rfl⟩
    unnamed := fun hCheck =>
      absurd (check_of_checkName hName) hCheck
    refused := fun _ _ _ hRefused =>
      absurd hAllows hRefused }

/-
  Whatever the collaborators do, the calls of a build are in
  order. Nothing else is assumed: the calls are those of the
  recorded run, which gives and does what the run does.
-/
theorem calls_ordered
    (b : Builder σ)
    (o : BuildOrder)
    (s : σ) :
    b.recorded.build o ⟨[], s⟩ =
        ((b.build o s).1, ⟨b.calls o s, (b.build o s).2⟩) ∧
      b.Ordered o s (b.calls o s) := by
  refine ⟨recorded_build b o [] s, ?_⟩
  have hMakes := b.makes_calls o s
  generalize b.calls o s = calls at hMakes
  cases hMakes with
  | unnamed f hName => exact ordered_of_unnamed s hName
  | refused f checked hName hAbsent =>
      exact ordered_of_refused hName hAbsent
  | unstaged f checked staged hName hAbsent hStage =>
      exact ordered_of_unstaged hName hAbsent
  | sent c staged hStages =>
      exact ordered_of_sent hStages _

end Builder

end ContainerBuild
