import ContainerBuild.Engine.Remote
import ContainerBuild.Proofs.Builder.Course
import ContainerBuild.Proofs.Stream.Carriage

/-
  This file says what a build gives whose engine fails in
  the middle of the reply. All lines that were complete
  count, and what came after them does not; the failure
  counts unless the lines had ended the reading already.

  Key definitions include:
    * `EngineClient.Delivers`
    * `EndsReading`
    * `EngineError.interruptionCode`

  Main statements:
    * `RemoteEngine.demux_relay_failed`
    * `RemoteEngine.result_interrupted`
    * `interrupted_build`
-/

namespace ContainerBuild

open Text

------------------------------------------------------------
-- Replies of the engine
------------------------------------------------------------

/- A client answers a call in a state with a body. -/
def EngineClient.Delivers
    {σ : Type}
    (client : EngineClient σ)
    (call : BuildCall)
    (s : σ)
    (body : Body) : Prop :=
  (client.build call s).1 = .ok body

/- A client that answers every call with one body. -/
def EngineClient.answering
    {σ : Type}
    (body : Body) : EngineClient σ :=
  ⟨fun _ => Action.give (), Action.give (), Action.give [],
    fun _ => Action.give body⟩

theorem EngineClient.answering_delivers
    {σ : Type}
    (call : BuildCall)
    (s : σ)
    (body : Body) :
    (EngineClient.answering body).Delivers call s body :=
  rfl

namespace RemoteEngine

/- The body is handed on. -/
theorem reply_of_delivers
    {σ : Type}
    {disk : σ → Disk}
    {client : EngineClient σ}
    {connection : Connection}
    {request : BuildRequest}
    {s : σ}
    {body : Body}
    (hDelivers :
      client.Delivers (buildCall (disk s) request) s body) :
    (((backend disk client connection).build request).next
        (fun read => read) s).1 =
      .ok (relay connection request.imageName body) := by
  unfold EngineClient.Delivers at hDelivers
  cases hBuild :
      client.build (buildCall (disk s) request) s with
  | mk delivered after =>
      rw [hBuild] at hDelivers
      have hBody : delivered = .ok body := hDelivers
      subst hBody
      simp only [backend, send, Action.next,
        Action.mapFailure, hBuild, Action.give]

/- What an order that is sent to the engine gives. -/
theorem build_of_delivers
    {σ : Type}
    {b : Builder σ}
    {o : BuildOrder}
    {s staged : σ}
    {c : BuildContext}
    {disk : σ → Disk}
    {client : EngineClient σ}
    {body : Body}
    (connection : Connection)
    (hStages : b.Stages o s c staged)
    (hDelivers :
      client.Delivers (buildCall (disk staged) (b.job o c))
        staged body) :
    ((b.withBackend
        (backend disk client connection)).build o s).1 =
      (Course.replied (.ok
        (relay connection o.reference.fullName body))).result
          o .records := by
  have hReply :
      ((b.withBackend (backend disk client connection)).reply
        o c staged).1 =
        .ok (relay connection o.reference.fullName body) :=
    reply_of_delivers hDelivers
  rw [(hStages.withBackend _).build, hReply]
  rfl

/- A reply that ends well carries what its octets carry. -/
theorem demux_relay_whole
    (connection : Connection)
    (imageName : String)
    (cs : List Chunk) :
    (relay connection imageName (.chunks cs none)).demux =
      demuxOctets (cs.flatMap Chunk.bytes) none := by
  rw [Body.demux_eq]
  rfl

/- A reply that fails carries its ended part. -/
theorem demux_relay_failed
    {cs : List Chunk}
    {part : List UInt8}
    (connection : Connection)
    (imageName : String)
    (f : Failure)
    (hPart :
      IsEndedPart lineFeed part (cs.flatMap Chunk.bytes)) :
    (relay connection imageName
        (.chunks cs (some f))).demux =
      interrupted (streamFailure connection imageName f)
        (demuxOctets part none) := by
  rw [Body.demux_eq]
  exact demuxOctets_interrupted hPart _

end RemoteEngine

------------------------------------------------------------
-- Readings that go on
------------------------------------------------------------

/- The code of the issue of a failure during a build. -/
def EngineError.interruptionCode : EngineError → String
  | api _ _ => "BUILD_FAILED"
  | _ => "BACKEND_UNREACHABLE"

/- What can be recovered from a text that parses. -/
theorem BuildResult.recoverSome_of_parse
    {text : String}
    {p : Parsed}
    (r : BuildResult)
    (hParse : parseText text = .ok p) :
    r.recoverSome text =
      .ok
        ⟨r.imageName,
          if text = "" then r.report else some p.report,
          r.issues⟩ := by
  unfold recoverSome
  split
  · rfl
  · simp only [recover, hParse]
    rfl

/-
  A failure ends a reading that was going on: its issue is
  the only one, and the report is that of the text so far.
-/
theorem RemoteEngine.ofFailure_interrupted
    {text : String}
    {p : Parsed}
    {e : EngineError}
    (connection : Connection)
    (name : String)
    (hTransport : e.isTransport = true)
    (hParse : parseText text = .ok p) :
    ∃ i,
      Conclusion.ofFailure name
          (attachOutput text
            (streamFailure connection name (.engine e))) =
        .ok
          ⟨name, if text = "" then none else some p.report,
            [i]⟩ ∧
      i.code = e.interruptionCode := by
  cases e with
  | api reason explanation =>
      exact ⟨_,
        BuildResult.recoverSome_of_parse _ hParse, rfl⟩
  | client reason =>
      simp only [EngineError.isTransport,
        Bool.false_eq_true] at hTransport
  | connection reason =>
      exact ⟨_,
        BuildResult.recoverSome_of_parse _ hParse, rfl⟩
  | timeout reason =>
      exact ⟨_,
        BuildResult.recoverSome_of_parse _ hParse, rfl⟩

/- Hence the result of a build that is interrupted. -/
theorem RemoteEngine.result_interrupted
    {cs : List Chunk}
    {part : List UInt8}
    {d : Demuxed}
    {p : Parsed}
    {e : EngineError}
    (connection : Connection)
    (o : BuildOrder)
    (hTransport : e.isTransport = true)
    (hPart :
      IsEndedPart lineFeed part (cs.flatMap Chunk.bytes))
    (hDemux : demuxOctets part none = .ok d)
    (hGoesOn : d.problem = none)
    (hParse : parseText d.text = .ok p) :
    ∃ r i,
      (Course.replied (.ok
        (relay connection o.reference.fullName
          (.chunks cs (some (.engine e)))))).result
            o .records = .ok r ∧
        r.issues = [i] ∧
        i.code = e.interruptionCode ∧
        r.report =
          if d.text = "" then none else some p.report := by
  rcases RemoteEngine.ofFailure_interrupted connection
      o.reference.fullName hTransport hParse with
    ⟨i, hFailure, hCode⟩
  have hBody :
      (relay connection o.reference.fullName
          (.chunks cs (some (.engine e)))).demux =
        .error (attachOutput d.text
          (streamFailure connection o.reference.fullName
            (.engine e))) := by
    rw [demux_relay_failed connection _ _ hPart, hDemux]
    simp only [interrupted, hGoesOn]
  refine
    ⟨⟨o.reference.fullName,
        if d.text = "" then none else some p.report, [i]⟩,
      i, ?_, rfl, hCode, rfl⟩
  simp only [Course.result, Conclusion.ofReply,
    Body.transmission, hBody, hFailure]
  rfl

------------------------------------------------------------
-- Readings that have ended
------------------------------------------------------------

/- The lines themselves ended the reading. -/
inductive EndsReading : Except Failure Demuxed → Prop
  | problem (d : Demuxed) (e : BuildError) :
      d.problem = some e → EndsReading (.ok d)
  | malformed (message text : String) (number : Int) :
      EndsReading
        (.error
          (.build (.malformedRecord message text number)))

/- Then no failure matters any more. -/
theorem EndsReading.interrupted
    {x : Except Failure Demuxed}
    (hEnds : EndsReading x)
    (f : Failure) :
    interrupted f x = x := by
  cases hEnds with
  | problem d e hProblem =>
      simp only [ContainerBuild.interrupted, hProblem]
  | malformed message text number => rfl

/-
  An engine that fails after some chunks. If the ended part
  of their octets leaves the reading going on, the failure
  is the only issue and the report is that of the text so
  far. If the ended part ends the reading, the result is
  that of an engine that replies with this part alone. What
  follows the ended part has no influence.
-/
theorem interrupted_build
    {σ : Type}
    {b : Builder σ}
    {o : BuildOrder}
    {s staged : σ}
    {c : BuildContext}
    (disk : σ → Disk)
    {client : EngineClient σ}
    (connection : Connection)
    {cs : List Chunk}
    {part : List UInt8}
    (e : EngineError)
    (hStages : b.Stages o s c staged)
    (hTransport : e.isTransport = true)
    (hDelivers :
      client.Delivers
        (RemoteEngine.buildCall (disk staged) (b.job o c))
        staged (.chunks cs (some (.engine e))))
    (hPart :
      IsEndedPart lineFeed part (cs.flatMap Chunk.bytes)) :
    (∀ d p, (Body.whole (.octets part)).demux = .ok d →
      d.problem = none → parseText d.text = .ok p →
        ∃ r i,
          ((b.withBackend
            (RemoteEngine.backend disk client
              connection)).build o s).1 = .ok r ∧
          r.issues = [i] ∧
          i.code = e.interruptionCode ∧
          r.report =
            if d.text = "" then none else some p.report) ∧
    (∀ client' ps,
      EndsReading (Body.whole (.octets part)).demux →
      client'.Delivers
          (RemoteEngine.buildCall (disk staged) (b.job o c))
          staged (.chunks ps none) →
        ps.flatMap Chunk.bytes = part →
          ((b.withBackend
            (RemoteEngine.backend disk client
              connection)).build o s).1 =
          ((b.withBackend
            (RemoteEngine.backend disk client'
              connection)).build o s).1) ∧
    (∀ client' cs',
      client'.Delivers
          (RemoteEngine.buildCall (disk staged) (b.job o c))
          staged (.chunks cs' (some (.engine e))) →
        IsEndedPart lineFeed part
            (cs'.flatMap Chunk.bytes) →
          ((b.withBackend
            (RemoteEngine.backend disk client
              connection)).build o s).1 =
          ((b.withBackend
            (RemoteEngine.backend disk client'
              connection)).build o s).1) := by
  have hWhole :
      (Body.whole (.octets part)).demux =
        demuxOctets part none := by
    rw [Body.demux_eq]
    simp [Body.octets, Body.chunkList, Chunk.bytes,
      Body.failure?]
  rw [hWhole,
    RemoteEngine.build_of_delivers connection hStages
      hDelivers]
  refine ⟨?_, ?_, ?_⟩
  · intro d p hDemux hGoesOn hParse
    exact RemoteEngine.result_interrupted connection o
      hTransport hPart hDemux hGoesOn hParse
  · intro client' ps hEnds hDelivers' hOctets
    rw [RemoteEngine.build_of_delivers connection hStages
      hDelivers']
    refine Course.result_of_demux o ?_
    rw [RemoteEngine.demux_relay_failed connection _ _ hPart,
      RemoteEngine.demux_relay_whole, hOctets,
      hEnds.interrupted]
  · intro client' cs' hDelivers' hPart'
    rw [RemoteEngine.build_of_delivers connection hStages
      hDelivers']
    refine Course.result_of_demux o ?_
    rw [RemoteEngine.demux_relay_failed connection _ _ hPart,
      RemoteEngine.demux_relay_failed connection _ _ hPart']

/- A builder whose engine answers with some chunks. -/
def engineSample
    (cs : List Chunk)
    (failure : Option Failure) : Builder Disk :=
  Builder.bare
    (RemoteEngine.backend (fun d => d)
      (.answering (.chunks cs failure))
      Connection.onThisMachine)

/- The line of a step. -/
def stepLines : List String :=
  [fragmentLine "Step 1 : FROM a\n"]

/- Lines and the beginning of another one. -/
def cutOff
    (ls : List String)
    (s : String) : List Chunk :=
  [.octets (endEach lineFeed (ls.map utf8)), .text s]

theorem isEndedPart_cutOff
    {s : String}
    (ls : List String)
    (hOpen : lineFeed ∉ utf8 s) :
    IsEndedPart lineFeed (endEach lineFeed (ls.map utf8))
      ((cutOff ls s).flatMap Chunk.bytes) := by
  have hOctets :
      (cutOff ls s).flatMap Chunk.bytes =
        endEach lineFeed (ls.map utf8) ++ utf8 s := by
    simp [cutOff, Chunk.bytes]
  rw [hOctets]
  exact (isEndedPart_iff hOpen).mpr rfl

theorem interrupted_build_sample :
    (∃ r i,
      ((engineSample (cutOff stepLines "\x7b\"str")
        (some (.engine (.connection "reset")))).build
          .sample .blank).1 = .ok r ∧
      r.issues = [i] ∧
      i.code = "BACKEND_UNREACHABLE" ∧
      r.report =
        some ⟨"", "", [⟨1, "FROM a", false, ""⟩]⟩) ∧
    ((engineSample (cutOff lateErrorLines "\x7b\"str")
        (some (.engine (.timeout "late")))).build
          .sample .blank).1 =
      ((engineSample
        [.octets (endEach lineFeed
          (lateErrorLines.map utf8))] none).build
            .sample .blank).1 := by
  have hOpen : lineFeed ∉ utf8 "\x7b\"str" := by decide
  have hStages :=
    Builder.bare_stages
      (.giving .text (.whole (.text ""))) .sample .blank rfl
  constructor
  · have hParse :
        parseText "Step 1 : FROM a\n" =
          .ok
            ⟨⟨"", "", [⟨1, "FROM a", false, ""⟩]⟩,
              some .incompleteOutput⟩ :=
      rfl
    rcases demux_of_carries
        (carries_fragmentLines ["Step 1 : FROM a\n"])
        (Body.holdsLines_ofLines _) (by decide) rfl with
      ⟨count, hDemux⟩
    exact
      (interrupted_build (fun d => d)
        Connection.onThisMachine (.connection "reset")
        hStages rfl
        (EngineClient.answering_delivers _ _ _)
        (isEndedPart_cutOff _ hOpen)).1 _ _
          hDemux rfl hParse
  · have hEnds :
        EndsReading
          (Body.whole (.octets (endEach lineFeed
            (lateErrorLines.map utf8)))).demux := by
      have hDemux := demux_lateErrorLines
      unfold Body.ofLines at hDemux
      rw [hDemux]
      exact .problem _ _ rfl
    exact
      (interrupted_build (fun d => d)
        Connection.onThisMachine (.timeout "late")
        hStages rfl
        (EngineClient.answering_delivers _ _ _)
        (isEndedPart_cutOff _ hOpen)).2.1 _ _ hEnds
          (EngineClient.answering_delivers _ _ _)
          (by simp [Chunk.bytes])

end ContainerBuild
