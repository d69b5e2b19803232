import ContainerBuild.Proofs.Builder.Course
import ContainerBuild.Proofs.Builder.Recording
import ContainerBuild.Proofs.Stream.Carriage
import ContainerBuild.Proofs.Transcript.Outcome

/-
  This file says that it does not matter how a transcript
  comes to the builder, as a text or in the records of a
  stream, nor whether the builder or the report of the
  stream concludes from the records.

  Key definitions include:
    * `Backend.Returns`

  Main statements:
    * `records_agree_with_text`
    * `builder_agrees_with_report`
-/

namespace ContainerBuild

open Text

------------------------------------------------------------
-- Records and texts
------------------------------------------------------------

/-
  Whatever is asked for and in whatever state, the reply of
  a backend turns out to be a body.
-/
def Backend.Returns
    {σ : Type}
    (x : Backend σ)
    (body : Body) : Prop :=
  ∀ request s,
    ((x.build request).next (fun read => read) s).1 =
      .ok body

/- What an order that is sent gives with such a backend. -/
theorem Backend.Returns.build
    {σ : Type}
    {x : Backend σ}
    {body : Body}
    {b : Builder σ}
    {o : BuildOrder}
    {s staged : σ}
    {c : BuildContext}
    (hReturns : x.Returns body)
    (hStages : b.Stages o s c staged) :
    ((b.withBackend x).build o s).1 =
      (Course.replied (.ok body)).result o x.format := by
  have hReply :
      ((b.withBackend x).reply o c staged).1 = .ok body :=
    hReturns _ _
  rw [(hStages.withBackend x).build, hReply]
  rfl

/-
  A text may be cut into fragments anywhere and carried by
  the records of a stream, among blank lines and records
  that say nothing: the text comes back, and the report of
  the stream and the result of any build are those of the
  text.
-/
theorem records_agree_with_text
    (text : String)
    {ls fragments : List String}
    {body : Body}
    (hCut : String.join fragments = text)
    (hCarries : Carries ls fragments)
    (hHolds : HoldsLines body.octets ls)
    (hLines : ∀ l ∈ ls, '\n' ∉ l.toList)
    (hWhole : body.failure? = none) :
    (∃ count, body.demux = .ok ⟨text, none, count⟩) ∧
      parseBody body = parseText text ∧
      ∀ (σ : Type) (b : Builder σ) (x y : Backend σ),
        x.format = .records → x.Returns body →
          y.format = .text → y.Returns (.whole (.text text)) →
            ∀ o s,
              ((b.withBackend x).build o s).1 =
                ((b.withBackend y).build o s).1 := by
  subst hCut
  have hDemux := demux_of_carries hCarries hHolds hLines hWhole
  refine ⟨hDemux,
    parseBody_of_carries hCarries hHolds hLines hWhole, ?_⟩
  intro σ b x y hRecords hBody hText hPlain o s
  have hSame :
      body.transmission x.format =
        (Body.whole (.text (String.join fragments))).transmission
          y.format := by
    rcases hDemux with ⟨count, hDemux⟩
    simp only [hRecords, hText, Body.transmission, hDemux,
      Body.plainText]
  rcases b.course_cases o s with
    ⟨f, hRefused⟩ | ⟨f, hUnstaged⟩ | ⟨c, staged, hStages⟩
  · rw [Builder.build_fst, Builder.build_fst, hRefused x,
      hRefused y]
    rfl
  · rw [Builder.build_fst, Builder.build_fst, hUnstaged x,
      hUnstaged y]
    rfl
  · rw [hBody.build hStages, hPlain.build hStages]
    exact Course.result_congr o hSame

/- A short text. -/
def sampleText : String :=
  "Step 1 : FROM a\nSuccessfully built 4a5b\n"

/- Lines that carry it, the first two of them idle. -/
def sampleLines : List String :=
  "" :: fieldLine "status" "pulling" ::
    ["Step 1 : FR", "OM a\nSuccessfully built 4a5b\n"].map
      fragmentLine

theorem carries_sampleLines :
    Carries sampleLines
      ["Step 1 : FR", "OM a\nSuccessfully built 4a5b\n"] := by
  have hStatus :=
    Json.read_of_spellsField
      (spellsField_fieldLine "status" "pulling")
  have hIdle : IsIdle [("status", .text "pulling")] :=
    ⟨rfl, rfl, by simp [Json.Fields.get?]⟩
  exact .blank rfl
    (.idle hStatus hIdle (carries_fragmentLines _))

theorem records_agree_with_text_sample :
    (∃ count,
      (Body.ofLines sampleLines).demux =
        .ok ⟨sampleText, none, count⟩) ∧
    parseBody (.ofLines sampleLines) =
      parseText sampleText ∧
    ((Builder.bare (.giving .records
      (.ofLines sampleLines))).build .sample .blank).1 =
    ((Builder.bare (.giving .text
      (.whole (.text sampleText)))).build
        .sample .blank).1 := by
  rcases records_agree_with_text sampleText rfl
      carries_sampleLines (Body.holdsLines_ofLines _)
      (by decide) rfl with
    ⟨hDemux, hParse, hBuild⟩
  refine ⟨hDemux, hParse, ?_⟩
  exact hBuild Disk
    (Builder.bare (.giving .text (.ofLines [])))
    (.giving .records (.ofLines sampleLines))
    (.giving .text (.whole (.text sampleText)))
    rfl (fun _ _ => rfl) rfl (fun _ _ => rfl)
    .sample .blank

------------------------------------------------------------
-- Builder and report
------------------------------------------------------------

/- A report is made of what was demuxed. -/
theorem parseBody_ok
    {body : Body}
    {p : Parsed}
    (hParse : parseBody body = .ok p) :
    ∃ d, body.demux = .ok d ∧ d.parse = .ok p := by
  unfold parseBody at hParse
  cases hDemux : body.demux with
  | error f =>
      rw [hDemux] at hParse
      exact absurd hParse (by simp)
  | ok d =>
      rw [hDemux] at hParse
      exact ⟨d, rfl, hParse⟩

/- Parsing what was demuxed gives no error of building. -/
theorem Demuxed.parse_ne_build
    (d : Demuxed)
    (e : BuildError) :
    d.parse ≠ .error (.build e) := by
  intro hParse
  unfold Demuxed.parse at hParse
  cases hText : parseText d.text with
  | ok p =>
      rw [hText] at hParse
      cases hProblem : d.problem with
      | none => simp [hProblem] at hParse
      | some e' => simp [hProblem] at hParse
  | error f =>
      rw [hText] at hParse
      rcases parseText_error hText with ⟨message, hValue⟩
      subst hValue
      exact absurd hParse (by simp)

/- Hence such an error comes from demuxing. -/
theorem parseBody_build
    {body : Body}
    {e : BuildError}
    (hParse : parseBody body = .error (.build e)) :
    body.demux = .error (.build e) := by
  unfold parseBody at hParse
  cases hDemux : body.demux with
  | error f =>
      rw [hDemux] at hParse
      cases hParse
      rfl
  | ok d =>
      rw [hDemux] at hParse
      exact absurd hParse (d.parse_ne_build e)

/- The result of a demuxed stream reflects its report. -/
theorem Course.result_reflects
    {body : Body}
    {d : Demuxed}
    {p : Parsed}
    (o : BuildOrder)
    (hDemux : body.demux = .ok d)
    (hParse : d.parse = .ok p) :
    ∃ r,
      (Course.replied (.ok body)).result o .records =
        .ok r ∧
      r.Reflects p := by
  rcases Conclusion.ofTransmission_reflects
      o.reference.fullName hParse
      (fun _ hProblem => Body.demux_problem hDemux hProblem)
    with ⟨r, hResult, hReflects⟩
  refine ⟨r, ?_, hReflects⟩
  simp only [result, Conclusion.ofReply, Body.transmission,
    hDemux, hResult]
  rfl

/- The result of a malformed record has its issue only. -/
theorem Course.result_malformed
    {body : Body}
    {message text : String}
    {number : Int}
    {p : Parsed}
    (o : BuildOrder)
    (hDemux :
      body.demux =
        .error
          (.build (.malformedRecord message text number)))
    (hParse : parseText text = .ok p) :
    (Course.replied (.ok body)).result o .records =
      .ok
        ⟨o.reference.fullName, some p.report,
          [Issue.ofError
            (.malformedRecord message text number) .error
            (some o.reference.fullName) none]⟩ := by
  simp only [result, Conclusion.ofReply, Body.transmission,
    hDemux, Conclusion.ofFailure, BuildResult.recover, hParse]
  rfl

/-
  What the report of a stream says, a build says for which
  a backend replies with the same octets: the result
  reflects the report, and a malformed record is its one
  issue, with the report of the text before it.
-/
theorem builder_agrees_with_report
    {σ : Type}
    {b : Builder σ}
    {o : BuildOrder}
    {s staged : σ}
    {c : BuildContext}
    {body reply : Body}
    (hFormat : b.backend.format = .records)
    (hStages : b.Stages o s c staged)
    (hReply : (b.reply o c staged).1 = .ok reply)
    (hOctets : reply.octets = body.octets)
    (hFailure : reply.failure? = body.failure?) :
    (∀ p, parseBody body = .ok p →
      ∃ r, (b.build o s).1 = .ok r ∧ r.Reflects p) ∧
    (∀ message text number p,
      parseBody body =
        .error
          (.build (.malformedRecord message text number)) →
      parseText text = .ok p →
        ∃ r i, (b.build o s).1 = .ok r ∧
          r.issues = [i] ∧
          i.code = "MALFORMED_STREAM_RECORD" ∧
          i.message = message ∧
          r.report = some p.report) := by
  have hDemux : reply.demux = body.demux :=
    Body.demux_congr hOctets hFailure
  rw [hStages.build, hReply, hFormat]
  constructor
  · intro p hParse
    rcases parseBody_ok hParse with ⟨d, hBody, hRead⟩
    exact Course.result_reflects o (hDemux.trans hBody) hRead
  · intro message text number p hParse hText
    have hBody := hDemux.trans (parseBody_build hParse)
    exact ⟨_, _, Course.result_malformed o hBody hText,
      rfl, rfl, rfl, rfl⟩

/- Lines of a stream, the second of which is no object. -/
def brokenLines : List String :=
  [fragmentLine "Step 1 : FROM a\n", "[]"]

theorem parseBody_brokenLines :
    parseBody (.ofLines brokenLines) =
      .error (.build (.malformedRecord
        (lineOfStream 2 ++ "a JSON object")
        "Step 1 : FROM a\n" 2)) := by
  have hFirst :=
    readLine_fragment
      (spellsField_fieldLine "stream" "Step 1 : FROM a\n")
  unfold parseBody Body.demux
  rw [Body.delivery_ofLines (by decide)]
  simp only [brokenLines, fragmentLine, demuxLines, hFirst,
    readLine_noItems]
  rfl

/- The octets of the sample above, to be cut anywhere. -/
def sampleOctets : List UInt8 :=
  (Body.ofLines sampleLines).octets

theorem builder_agrees_with_report_sample :
    (∃ r,
      ((Builder.bare (.giving .records
        (.chunks
          [.octets (sampleOctets.take 5),
            .octets (sampleOctets.drop 5)]
          none))).build .sample .blank).1 = .ok r ∧
      r.Reflects
        ⟨⟨"", "4a5b", [⟨1, "FROM a", false, ""⟩]⟩,
          none⟩) ∧
    (∃ r i,
      ((Builder.bare (.giving .records
        (.ofLines brokenLines))).build
          .sample .blank).1 = .ok r ∧
      r.issues = [i] ∧
      i.code = "MALFORMED_STREAM_RECORD" ∧
      i.message = lineOfStream 2 ++ "a JSON object" ∧
      r.report =
        some ⟨"", "", [⟨1, "FROM a", false, ""⟩]⟩) := by
  constructor
  · have hParse :
        parseBody (.ofLines sampleLines) =
          .ok
            ⟨⟨"", "4a5b", [⟨1, "FROM a", false, ""⟩]⟩,
              none⟩ :=
      (parseBody_of_carries carries_sampleLines
        (Body.holdsLines_ofLines _) (by decide) rfl).trans
          rfl
    have hOctets :
        (Body.chunks
          [.octets (sampleOctets.take 5),
            .octets (sampleOctets.drop 5)]
          none).octets = (Body.ofLines sampleLines).octets := by
      simp [Body.octets, Body.chunkList, Chunk.bytes,
        sampleOctets]
    exact
      (builder_agrees_with_report rfl
        (Builder.bare_stages _ _ .blank rfl) rfl hOctets rfl).1
          _ hParse
  · exact
      (builder_agrees_with_report rfl
        (Builder.bare_stages _ _ .blank rfl) rfl rfl rfl).2
          _ _ _ ⟨⟨"", "", [⟨1, "FROM a", false, ""⟩]⟩,
            some .incompleteOutput⟩
          parseBody_brokenLines rfl

end ContainerBuild
