import ContainerBuild.Builder

/-
  This file says how a build goes: an order is refused, or
  its Dockerfile is not staged, or the backend replies. What
  a build gives depends on this course alone.

  Key definitions include:
    * `Course`
    * `Builder.course`
    * `Course.result`
    * `Course.outcome`
    * `Builder.Stages`
    * `Builder.withBackend`
    * `Builder.bare`

  Main statements:
    * `Builder.build_fst`
    * `Builder.Stages.build`
    * `Builder.build_cases`
    * `Builder.course_cases`
-/

namespace ContainerBuild

------------------------------------------------------------
-- Courses
------------------------------------------------------------

/-
  How far a build gets: a check refuses the order, or the
  Dockerfile cannot be staged, or something comes of the
  backend's reply.
-/
inductive Course
  | refused (f : Failure)
  | unstaged (f : Failure)
  | replied (reply : Except Failure Body)

/- The course that an order takes with the collaborators. -/
def Builder.course
    {σ : Type}
    (b : Builder σ)
    (o : BuildOrder)
    (s : σ) : Course :=
  match b.check o s with
  | (.error f, _) => .refused f
  | (.ok (), checked) =>
      match
        b.stager.stage o.source o.dockerfile checked with
      | (.error f, _) => .unstaged f
      | (.ok c, staged) => .replied (b.reply o c staged).1

namespace Course

/- What a course gives. -/
def result
    (o : BuildOrder)
    (format : OutputFormat) :
    Course → Except Failure BuildResult
  | refused f => Builder.rejection o f
  | unstaged f => Builder.stagingResult o (.error f)
  | replied reply =>
      Builder.stagingResult o
        (Conclusion.ofReply o.reference.fullName format
          reply)

/-
  What a course leaves to conclude from: a failure, of the
  builder itself or of a collaborator, or what a reply
  transmitted.
-/
def outcome
    (format : OutputFormat) :
    Course → Except Failure Transmission
  | refused f => .error f
  | unstaged f => .error f
  | replied (.error f) => .error f
  | replied (.ok body) => body.transmission format

end Course

/- A build gives what its course gives. -/
theorem Builder.build_fst
    {σ : Type}
    (b : Builder σ)
    (o : BuildOrder)
    (s : σ) :
    (b.build o s).1 =
      (b.course o s).result o b.backend.format := by
  cases hCheck : b.check o s with
  | mk checked s₁ =>
      cases checked with
      | error f =>
          simp only [Builder.build, Builder.course, hCheck]
          rfl
      | ok _ =>
          cases hStage :
              b.stager.stage o.source o.dockerfile s₁ with
          | mk staged s₂ =>
              cases staged with
              | error f =>
                  simp only [Builder.build, Builder.course,
                    hCheck, Builder.buildStaged,
                    Action.next, hStage]
                  rfl
              | ok c =>
                  simp only [Builder.build, Builder.course,
                    hCheck, Builder.buildStaged,
                    Action.next, hStage]
                  rfl

/- Bodies that transmit the same give the same. -/
theorem Course.result_congr
    {body body' : Body}
    {format format' : OutputFormat}
    (o : BuildOrder)
    (hSame :
      body.transmission format =
        body'.transmission format') :
    (Course.replied (.ok body)).result o format =
      (Course.replied (.ok body')).result o format' := by
  simp only [result, Conclusion.ofReply, hSame]

/- So do streams that carry the same. -/
theorem Course.result_of_demux
    {body body' : Body}
    (o : BuildOrder)
    (hDemux : body.demux = body'.demux) :
    (Course.replied (.ok body)).result o .records =
      (Course.replied (.ok body')).result o .records := by
  refine Course.result_congr o ?_
  simp only [Body.transmission, hDemux]

------------------------------------------------------------
-- Orders that are sent
------------------------------------------------------------

/-
  An order whose name is valid, whose image is not there
  yet, and whose Dockerfile is staged in a context.
-/
structure Builder.Stages
    {σ : Type}
    (b : Builder σ)
    (o : BuildOrder)
    (s : σ)
    (c : BuildContext)
    (staged : σ) : Prop where
  name : Builder.checkName o = .ok ()
  stage :
    ∃ checked,
      b.checkAbsent o s = (.ok (), checked) ∧
        b.stager.stage o.source o.dockerfile checked =
          (.ok c, staged)

/- Such an order is sent, and the backend replies. -/
theorem Builder.Stages.course
    {σ : Type}
    {b : Builder σ}
    {o : BuildOrder}
    {s staged : σ}
    {c : BuildContext}
    (hStages : b.Stages o s c staged) :
    b.course o s = .replied (b.reply o c staged).1 := by
  rcases hStages.stage with ⟨checked, hAbsent, hStage⟩
  have hCheck : b.check o s = (.ok (), checked) := by
    simp only [Builder.check, hStages.name, hAbsent]
  simp only [Builder.course, hCheck, hStage]

/- The result of a reply to such an order. -/
theorem Builder.Stages.build
    {σ : Type}
    {b : Builder σ}
    {o : BuildOrder}
    {s staged : σ}
    {c : BuildContext}
    (hStages : b.Stages o s c staged) :
    (b.build o s).1 =
      (Course.replied (b.reply o c staged).1).result o
        b.backend.format := by
  rw [Builder.build_fst, hStages.course]

/- The world after it, too: the context is released last. -/
theorem Builder.Stages.build_run
    {σ : Type}
    {b : Builder σ}
    {o : BuildOrder}
    {s staged : σ}
    {c : BuildContext}
    (hStages : b.Stages o s c staged) :
    b.build o s =
      ((Course.replied (b.reply o c staged).1).result o
          b.backend.format,
        b.stager.release c (b.reply o c staged).2) := by
  rcases hStages.stage with ⟨checked, hAbsent, hStage⟩
  have hCheck : b.check o s = (.ok (), checked) := by
    simp only [Builder.check, hStages.name, hAbsent]
  have hStaged :
      b.buildStaged o checked =
        ((b.buildIn o c staged).1,
          b.stager.release c (b.buildIn o c staged).2) :=
    Action.next_of_ok hStage _
  simp only [Builder.build, hCheck, hStaged]
  rfl

------------------------------------------------------------
-- Orders that are not sent
------------------------------------------------------------

section Unsent

variable {σ : Type}
variable {b : Builder σ}
variable {o : BuildOrder}
variable {s checked staged : σ}
variable {f : Failure}

/- An order with an invalid name changes nothing. -/
theorem Builder.build_of_unnamed
    (hName : Builder.checkName o = .error f)
    (b : Builder σ)
    (s : σ) :
    b.build o s = (Builder.rejection o f, s) := by
  simp only [Builder.build, Builder.check, hName,
    Action.fail]

/- An order that is refused gets no further than that. -/
theorem Builder.build_of_refused
    (hName : Builder.checkName o = .ok ())
    (hAbsent : b.checkAbsent o s = (.error f, checked)) :
    b.build o s = (Builder.rejection o f, checked) := by
  simp only [Builder.build, Builder.check, hName, hAbsent]

/- Nor does an order that cannot be staged. -/
theorem Builder.build_of_unstaged
    (hName : Builder.checkName o = .ok ())
    (hAbsent : b.checkAbsent o s = (.ok (), checked))
    (hStage :
      b.stager.stage o.source o.dockerfile checked =
        (.error f, staged)) :
    b.build o s =
      (Builder.stagingResult o (.error f), staged) := by
  have hStaged :
      b.buildStaged o checked = (.error f, staged) :=
    Action.next_of_error hStage _
  simp only [Builder.build, Builder.check, hName, hAbsent,
    hStaged]

/- There is no other way for an order to go. -/
theorem Builder.build_cases
    (b : Builder σ)
    (o : BuildOrder)
    (s : σ) :
    (∃ f, Builder.checkName o = .error f) ∨
    (∃ f checked,
      Builder.checkName o = .ok () ∧
        b.checkAbsent o s = (.error f, checked)) ∨
    (∃ f checked staged,
      Builder.checkName o = .ok () ∧
        b.checkAbsent o s = (.ok (), checked) ∧
        b.stager.stage o.source o.dockerfile checked =
          (.error f, staged)) ∨
    ∃ c staged, b.Stages o s c staged := by
  cases hName : Builder.checkName o with
  | error f => exact Or.inl ⟨f, rfl⟩
  | ok _ =>
      right
      rcases hAbsent : b.checkAbsent o s with
        ⟨found, checked⟩
      cases found with
      | error f => exact Or.inl ⟨f, checked, rfl, rfl⟩
      | ok _ =>
          right
          rcases hStage :
              b.stager.stage o.source o.dockerfile
                checked with ⟨made, staged⟩
          cases made with
          | error f =>
              exact Or.inl
                ⟨f, checked, staged, rfl, rfl, hStage⟩
          | ok c =>
              exact Or.inr
                ⟨c, staged, hName, checked, hAbsent, hStage⟩

end Unsent

------------------------------------------------------------
-- Other backends
------------------------------------------------------------

/- A builder with another backend. -/
def Builder.withBackend
    {σ : Type}
    (x : Backend σ)
    (b : Builder σ) : Builder σ :=
  ⟨x, b.registry, b.stager, b.access, b.timeout⟩

/- The backend has no part in it. -/
theorem Builder.Stages.withBackend
    {σ : Type}
    {b : Builder σ}
    {o : BuildOrder}
    {s staged : σ}
    {c : BuildContext}
    (hStages : b.Stages o s c staged)
    (x : Backend σ) :
    (b.withBackend x).Stages o s c staged :=
  ⟨hStages.name, hStages.stage⟩

/-
  Before anything is sent the backend has no say: whatever
  it is, an order is refused, is not staged, or is sent.
-/
theorem Builder.course_cases
    {σ : Type}
    (b : Builder σ)
    (o : BuildOrder)
    (s : σ) :
    (∃ f, ∀ x,
      (b.withBackend x).course o s = .refused f) ∨
    (∃ f, ∀ x,
      (b.withBackend x).course o s = .unstaged f) ∨
    (∃ c staged, b.Stages o s c staged) := by
  cases hName : Builder.checkName o with
  | error f =>
      refine Or.inl ⟨f, fun x => ?_⟩
      simp only [course, check, hName, Action.fail]
  | ok _ =>
      cases hAbsent : b.checkAbsent o s with
      | mk found checked =>
          have hCheck :
              ∀ x, (b.withBackend x).check o s =
                (found, checked) := by
            intro x
            simp only [check, hName]
            exact hAbsent
          cases found with
          | error f =>
              refine Or.inl ⟨f, fun x => ?_⟩
              simp only [course, hCheck x]
          | ok _ =>
              cases hStage :
                  b.stager.stage o.source o.dockerfile
                    checked with
              | mk made staged =>
                  cases made with
                  | error f =>
                      refine Or.inr (Or.inl
                        ⟨f, fun x => ?_⟩)
                      have hStageX :
                          (b.withBackend x).stager.stage
                              o.source o.dockerfile
                              checked =
                            (.error f, staged) := hStage
                      simp only [course, hCheck x, hStageX]
                  | ok c =>
                      exact Or.inr (Or.inr
                        ⟨c, staged, hName, checked,
                          hAbsent, hStage⟩)

------------------------------------------------------------
-- Bare builders
------------------------------------------------------------

/- A backend whose replies are all one body. -/
def Backend.giving
    {σ : Type}
    (format : OutputFormat)
    (body : Body) : Backend σ :=
  ⟨format, fun _ => Action.give (Action.give body)⟩

/-
  A builder that is little more than its backend: there is
  no registry, and nothing is copied into the context.
-/
def Builder.bare (x : Backend Disk) : Builder Disk :=
  ⟨x, none,
    ⟨fun _ name => Action.give ⟨⟨"/", []⟩, name⟩,
      fun _ d => d⟩,
    DiskAccess.self, none⟩

/- It sends every order that has a valid name. -/
theorem Builder.bare_stages
    (x : Backend Disk)
    (o : BuildOrder)
    (d : Disk)
    (hName : Builder.checkName o = .ok ()) :
    (Builder.bare x).Stages o d
      ⟨⟨"/", []⟩, o.dockerfile⟩ d :=
  ⟨hName, d, rfl, rfl⟩

/- What such an order gives with a body as the reply. -/
theorem Builder.bare_build
    {o : BuildOrder}
    (format : OutputFormat)
    (body : Body)
    (d : Disk)
    (hName : Builder.checkName o = .ok ()) :
    ((Builder.bare (.giving format body)).build o d).1 =
      (Course.replied (.ok body)).result o format := by
  rw [(Builder.bare_stages _ o d hName).build]
  rfl

/- An order with a valid name. -/
def BuildOrder.sample : BuildOrder :=
  ⟨"/srv/Dockerfile", "Dockerfile", "realm", "tools", "demo"⟩

/- A disk with nothing on it. -/
def Disk.blank : Disk :=
  ⟨[], [], ⟨"/", []⟩, 0⟩

end ContainerBuild
