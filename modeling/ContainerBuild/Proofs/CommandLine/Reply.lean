import ContainerBuild.CommandLine.Session
import ContainerBuild.Proofs.Builder.Interruption
import ContainerBuild.Proofs.Files.Refusal
import ContainerBuild.Proofs.Files.Tree
import ContainerBuild.Proofs.Transcript.Numbers

/-
  This file says what the command line replies. It prints
  one line, from which the report of the library is read
  back, and the exit code goes together with what is
  printed. Nothing is printed about a transcript that cannot
  be read or parsed.

  Key definitions include:
    * `CommandLine.parseWhole`
    * `CommandLine.Reply.Prints`
    * `CommandLine.Reply.TellsParsed`
    * `CommandLine.Reply.TellsResult`
    * `CommandLine.Reply.IsRefusal`

  Main statements:
    * `CommandLine.parseOctets_eq`
    * `CommandLine.Reply.ofParsed_tells`
    * `CommandLine.Reply.ofResult_tells`
    * `CommandLine.BuildTask.isShort_of_result`
    * `CommandLine.replies_tell`
-/

namespace ContainerBuild.CommandLine

open Text

------------------------------------------------------------
-- Transcripts
------------------------------------------------------------

/-
  What the library makes of the octets of a transcript: a
  stream of records, taken as a whole, or a text whose line
  ends are unified.
-/
def parseWhole
    (records : Bool)
    (bs : List UInt8) : Except Failure Parsed :=
  if records then
    parseBody (.whole (.octets bs))
  else
    parseText (String.ofList (unifyNewlines (decode bs)))

/- Reading line by line makes no difference. -/
theorem parseOctets_eq
    (records : Bool)
    (bs : List UInt8) :
    parseOctets records bs = parseWhole records bs := by
  have hOctets :
      (Body.ofFile bs).octets =
        (Body.whole (.octets bs)).octets := by
    rw [Body.octets_ofFile]
    simp [Body.octets, Body.chunkList, Chunk.bytes]
  have hBody :
      parseBody (.ofFile bs) =
        parseBody (.whole (.octets bs)) := by
    unfold parseBody
    rw [Body.demux_congr hOctets rfl]
  cases records with
  | false => rfl
  | true => exact hBody

theorem isShort_of_parseWhole
    {records : Bool}
    {bs : List UInt8}
    {p : Parsed}
    (hParse : parseWhole records bs = .ok p) :
    p.report.IsShort := by
  cases records with
  | false => exact isShort_of_parseText hParse
  | true => exact isShort_of_parseBody hParse

theorem agrees_of_parseWhole
    {records : Bool}
    {bs : List UInt8}
    {p : Parsed}
    (hParse : parseWhole records bs = .ok p) :
    p.Agrees := by
  cases records with
  | false => exact parseText_agrees hParse
  | true => exact parseBody_agrees hParse

------------------------------------------------------------
-- Printed Lines
------------------------------------------------------------

namespace Reply

/- One line is printed, and it is read as a value. -/
def Prints
    (reply : Reply)
    (v : Json.Value) : Prop :=
  ∃ line,
    reply.output = line ++ "\n" ∧
      Json.IsLine line.toList ∧
      Json.read line.toList = .ok v

/-
  What is told about a parsed transcript: the report, by the
  fields that are printed, and by the exit code whether it
  is complete.
-/
structure TellsParsed
    (reply : Reply)
    (p : Parsed)
    (fields : Fields) : Prop where
  prints : reply.Prints (.object fields)
  report : Report.ofWire (.object fields) = .ok p.report
  code :
    reply.code =
      if p.complete then 0 else if p.incomplete then 2 else 1
  succeeded :
    reply.code = 0 →
      Json.Fields.get? "ErrorMessage" fields =
        some (.text "")
  brokeOff :
    reply.code = 2 →
      Json.Fields.get? "ErrorMessage" fields =
          some (.text "") ∧
        Json.Fields.get? "FinalDockerImageId" fields =
          some (.text "")

/-
  What is told about the result of a build: its name and its
  success, as the exit code says, too, and its report, if
  there is one.
-/
structure TellsResult
    (reply : Reply)
    (r : BuildResult)
    (fields : Fields) : Prop where
  prints : reply.Prints (.object fields)
  image :
    Json.Fields.get? "Image" fields =
      some (.text r.imageName)
  success :
    Json.Fields.get? "Success" fields =
      some (.bool r.success)
  code : reply.code = if r.success then 0 else 1
  output :
    ∃ v, Json.Fields.get? "BuildOutput" fields = some v ∧
      match r.report with
      | none => v = .null
      | some report => Report.ofWire v = .ok report

/- Nothing is printed, and the exit code says so. -/
structure IsRefusal (reply : Reply) : Prop where
  output : reply.output = ""
  code : reply.code = 1

------------------------------------------------------------
-- Replies about Transcripts
------------------------------------------------------------

/- The exit code says how complete the transcript is. -/
theorem ofParsed_code (p : Parsed) :
    (ofParsed p).code =
      if p.complete then 0
      else if p.incomplete then 2 else 1 := by
  rcases p with ⟨report, problem⟩
  cases problem with
  | none => rfl
  | some e => cases e <;> rfl

theorem ofParsed_output (p : Parsed) :
    (ofParsed p).output = p.report.toJson ++ "\n" := by
  unfold ofParsed
  simp only
  split <;> rfl

/- The reply to a parsed transcript tells what it says. -/
theorem ofParsed_tells
    {p : Parsed}
    (hShort : p.report.IsShort)
    (hAgrees : p.Agrees) :
    (ofParsed p).TellsParsed p
      [("ErrorMessage", .text p.report.errorMessage),
        ("FinalDockerImageId",
          .text p.report.finalImageId),
        ("Steps",
          .array (p.report.steps.map Step.toWire))] where
  prints :=
    ⟨_, ofParsed_output p, hShort.isLine_toJson,
      hShort.read_toJson⟩
  report := Report.ofWire_toWire p.report
  code := ofParsed_code p
  succeeded := by
    intro hCode
    have hComplete : p.complete = true := by
      rw [ofParsed_code] at hCode
      split at hCode
      · assumption
      · split at hCode <;> exact absurd hCode (by decide)
    have hEmpty : p.report.errorMessage = "" := by
      by_cases hError : p.report.errorMessage = ""
      · exact hError
      · rw [(hAgrees.failed hError).1] at hComplete
        exact absurd hComplete (by decide)
    rw [hEmpty]
    rfl
  brokeOff := by
    intro hCode
    have hIncomplete : p.incomplete = true := by
      rw [ofParsed_code] at hCode
      split at hCode
      · exact absurd hCode (by decide)
      · split at hCode
        · assumption
        · exact absurd hCode (by decide)
    rcases hAgrees.stopped hIncomplete with
      ⟨hImage, hError⟩
    rw [hError, hImage]
    exact ⟨rfl, rfl⟩

end Reply

------------------------------------------------------------
-- Replies about Builds
------------------------------------------------------------

open Json (Fits Limits)

/- What is printed about a result is within the limits. -/
theorem fits_printedResult
    {r : BuildResult}
    (hShort :
      ∀ report, r.report = some report → report.IsShort)
    (level : Nat) :
    Fits Limits.standard (level + 4) (printedResult r) := by
  refine .object (level + 3) _ (by simp) ?_
  simp only [List.forall_mem_cons, List.not_mem_nil,
    false_imp_iff, implies_true, and_true]
  refine ⟨.text _ _, .bool _ _, ?_⟩
  cases hReport : r.report with
  | none => exact .null _
  | some report => exact (hShort report hReport).fits level

/- The reply to a result tells what it says. -/
theorem Reply.ofResult_tells
    {r : BuildResult}
    {fields : Fields}
    (hShort :
      ∀ report, r.report = some report → report.IsShort)
    (hFields : printedResult r = .object fields) :
    (Reply.ofResult r).TellsResult r fields where
  prints := by
    rw [← hFields]
    refine ⟨_, rfl, ?_, ?_⟩
    · rw [Json.writeString, String.toList_ofList]
      exact Json.isLine_write Json.Style.isPlain_ascii
        (fits_printedResult hShort 0)
    · rw [Json.writeString, String.toList_ofList]
      exact Json.readWithin_write Json.Style.isPlain_ascii
        (fits_printedResult hShort 986)
  image := by
    cases hFields
    rfl
  success := by
    cases hFields
    rfl
  code := rfl
  output := by
    cases hFields
    refine ⟨_, rfl, ?_⟩
    cases r.report with
    | none => rfl
    | some report => exact Report.ofWire_toWire report

/- The report of every task that gives a result is short. -/
theorem BuildTask.isShort_of_result
    {σ : Type}
    {t : BuildTask}
    {b : Builder σ}
    {s s' : σ}
    {r : BuildResult}
    (hResult : t.result b s = (.ok r, s'))
    {report : Report}
    (hReport : r.report = some report) :
    report.IsShort := by
  have hRun : (t.result b s).1 = .ok r :=
    congrArg Prod.fst hResult
  unfold BuildTask.result at hRun
  cases hImage : t.image with
  | none =>
      simp only [hImage, Action.ofExcept] at hRun
      exact (Builder.rejection_ok hRun).isShort hReport
  | some image =>
      cases hName : t.fileName with
      | some name =>
          simp only [hImage, hName] at hRun
          exact Builder.isShort_of_build hRun hReport
      | none =>
          simp only [hImage, hName] at hRun
          rcases hCheck : b.check t.order s with
            ⟨checked, s₁⟩
          rw [hCheck] at hRun
          cases checked with
          | error f =>
              simp only at hRun
              exact (Builder.rejection_ok hRun).isShort
                hReport
          | ok _ =>
              simp only at hRun
              rcases Builder.stagingResult_ok hRun with
                ⟨m, _, hConcludes⟩ | hNone
              · exact hConcludes.isShort hReport
              · exact absurd hNone (by simp)

------------------------------------------------------------
-- Runs
------------------------------------------------------------

section Runs

variable {σ : Type}
variable {h : Host σ}
variable {s : σ}
variable {path : Path}
variable {records : Bool}

/- To parse a file leaves the world as it is. -/
theorem run_parse
    (h : Host σ)
    (verbose : Bool)
    (path : Path)
    (records : Bool)
    (s : σ) :
    Invocation.run h ⟨verbose, .parse path records⟩ s =
      (Reply.ofOutcome
        (parseFile (h.disk s) path records), s) :=
  rfl

theorem run_parse_of_ok
    {content : Content}
    {p : Parsed}
    (hFetch :
      (h.disk s).fetch path.toText = .ok content)
    (hParse : parseWhole records content.bytes = .ok p)
    (verbose : Bool) :
    Invocation.run h ⟨verbose, .parse path records⟩ s =
      (.ok (Reply.ofParsed p), s) := by
  rw [run_parse]
  simp only [parseFile, hFetch, parseOctets_eq, hParse,
    Reply.ofOutcome]

/- A failure that is told about is all that is told. -/
theorem run_parse_of_error
    {f : Failure}
    {m : String}
    (hFails :
      parseFile (h.disk s) path records = .error f)
    (hTold : toldMessage? f = some m)
    (verbose : Bool) :
    ∃ reply,
      Invocation.run h ⟨verbose, .parse path records⟩ s =
          (.ok reply, s) ∧
        reply.IsRefusal := by
  refine ⟨Reply.ofMessage m, ?_, ⟨rfl, rfl⟩⟩
  rw [run_parse, hFails]
  simp only [Reply.ofOutcome, hTold]

theorem run_build_of_ok
    {t : BuildTask}
    {config : Config}
    {b : Builder σ}
    {r : BuildResult}
    {configured connected built : σ}
    (hConfig :
      t.configuration h s = (.ok config, configured))
    (hBuilder :
      h.builder config .absent configured =
        (.ok b, connected))
    (hResult : t.result b connected = (.ok r, built))
    (verbose : Bool) :
    Invocation.run h ⟨verbose, .build t⟩ s =
      (.ok (Reply.ofResult r), built) := by
  have hTask :
      (Task.build t).perform h s =
        (.ok (Reply.ofResult r), built) := by
    simp only [Task.perform, BuildTask.perform]
    rw [Action.next_of_ok hConfig,
      Action.next_of_ok hBuilder,
      Action.next_of_ok hResult]
    rfl
  simp only [Invocation.run, Action.next, Action.attempt,
    hTask]
  rfl

end Runs

/-
  The command line reports what the library computes, for
  every transcript and every build that gives a result. The
  system refuses a file only by a path that it can take.
-/
theorem replies_tell
    {σ : Type}
    (h : Host σ)
    (verbose : Bool)
    (s : σ) :
    (∀ path records content p,
      (h.disk s).fetch path.toText = .ok content →
      parseWhole records content.bytes = .ok p →
        ∃ reply fields,
          Invocation.run h
              ⟨verbose, .parse path records⟩ s =
              (.ok reply, s) ∧
            reply.TellsParsed p fields) ∧
    (∀ path records f,
      '\x00' ∉ path.toText.toList →
      (h.disk s).fetch path.toText = .error f →
        ∃ reply,
          Invocation.run h
              ⟨verbose, .parse path records⟩ s =
              (.ok reply, s) ∧
            reply.IsRefusal) ∧
    (∀ path records content e,
      (h.disk s).fetch path.toText = .ok content →
      parseWhole records content.bytes = .error (.build e) →
        ∃ reply,
          Invocation.run h
              ⟨verbose, .parse path records⟩ s =
              (.ok reply, s) ∧
            reply.IsRefusal) ∧
    (∀ t config b r configured connected built,
      BuildTask.configuration t h s =
          (.ok config, configured) →
      h.builder config .absent configured =
          (.ok b, connected) →
      BuildTask.result t b connected = (.ok r, built) →
        ∃ reply fields,
          Invocation.run h ⟨verbose, .build t⟩ s =
              (.ok reply, built) ∧
            reply.TellsResult r fields) := by
  refine ⟨?_, ?_, ?_, ?_⟩
  · intro path records content p hFetch hParse
    exact ⟨_, _, run_parse_of_ok hFetch hParse verbose,
      Reply.ofParsed_tells (isShort_of_parseWhole hParse)
        (agrees_of_parseWhole hParse)⟩
  · intro path records f hText hFetch
    rcases Disk.exists_message_of_fetch hText hFetch with
      ⟨m, hMessage⟩
    have hTold : toldMessage? f = some m := by
      cases f with
      | build e =>
          exact absurd hMessage
            (by simp [Failure.systemMessage?])
      | _ => exact hMessage
    refine run_parse_of_error ?_ hTold verbose
    simp only [parseFile, hFetch]
  · intro path records content e hFetch hParse
    refine run_parse_of_error (f := .build e) ?_ rfl verbose
    simp only [parseFile, hFetch, parseOctets_eq, hParse]
  · intro t config b r configured connected built hConfig
      hBuilder hResult
    exact ⟨_, _,
      run_build_of_ok hConfig hBuilder hResult verbose,
      Reply.ofResult_tells
        (fun _ hReport =>
          BuildTask.isShort_of_result hResult hReport)
        rfl⟩

/- A disk with a transcript whose line ends in a return. -/
def transcriptDisk : Disk :=
  ⟨[(["tmp"], .directory),
      (["t"],
        .file (.octets (utf8 "Successfully built a\r")))],
    [], ⟨"/", ["tmp"]⟩, 0⟩

/- A host whose every command says the same. -/
def transcriptHost : Host Disk :=
  ⟨.self, [],
    fun _ =>
      Action.give
        ⟨.finished 0 (some "Successfully built a\n") none,
          .zero⟩,
    .answering (.chunks [] none),
    fun _ => Action.give (.ofBody 404 [] [])⟩

/- The task to build an image of that very file. -/
def transcriptTask : BuildTask :=
  ⟨⟨"/", ["t"]⟩, some "f", "r", "t", some "d", none⟩

/- The configuration when nothing is given. -/
def transcriptConfig : Config :=
  ⟨.localEngine, "docker", none, true, none, false, "",
    2375, "", "", false, "", 5000, "", "", false⟩

/-
  The file is a complete transcript, and no stream of
  records; another file is not there.
-/
theorem replies_tell_sample :
    (∃ reply fields,
      Invocation.run transcriptHost
          ⟨false, .parse ⟨"/", ["t"]⟩ false⟩
          transcriptDisk =
          (.ok reply, transcriptDisk) ∧
        reply.TellsParsed ⟨⟨"", "a", []⟩, none⟩ fields) ∧
    (∃ reply,
      Invocation.run transcriptHost
          ⟨false, .parse ⟨"/", ["u"]⟩ false⟩
          transcriptDisk =
          (.ok reply, transcriptDisk) ∧
        reply.IsRefusal) ∧
    (∃ reply,
      Invocation.run transcriptHost
          ⟨false, .parse ⟨"/", ["t"]⟩ true⟩
          transcriptDisk =
          (.ok reply, transcriptDisk) ∧
        reply.IsRefusal) ∧
    ∃ reply fields built,
      Invocation.run transcriptHost
          ⟨false, .build transcriptTask⟩ transcriptDisk =
          (.ok reply, built) ∧
        reply.TellsResult
          ⟨"r/t:d", some ⟨"", "a", []⟩, []⟩ fields := by
  rcases replies_tell transcriptHost false transcriptDisk
    with ⟨hParsed, hUnread, hUnparsed, hBuilt⟩
  have hFetch :
      transcriptDisk.fetch (Path.mk "/" ["t"]).toText =
        .ok (.octets (utf8 "Successfully built a\r")) := by
    decide +kernel
  have hMissing :
      transcriptDisk.fetch (Path.mk "/" ["u"]).toText =
        .error (Disk.Refusal.notFound.failure "/u") := by
    decide +kernel
  refine ⟨?_, ?_, ?_, ?_⟩
  · exact hParsed _ false _ _ hFetch (by decide +kernel)
  · exact hUnread _ false _ (by decide +kernel) hMissing
  · refine hUnparsed _ true _
      (.malformedRecord
        ("Line 1 of the build stream is not valid JSON: "
          ++ "Expecting value: line 1 column 1 (char 0)")
        "" 1) hFetch ?_
    decide +kernel
  · have hConfig :
        transcriptTask.configuration transcriptHost
            transcriptDisk =
          (.ok transcriptConfig, transcriptDisk) := by
      decide +kernel
    rcases hRun :
        transcriptTask.result
          (transcriptHost.builderWith transcriptConfig
            (transcriptConfig.localEngine.backend
              transcriptHost.runner)) transcriptDisk with
      ⟨made, built⟩
    have hMade :
        made =
          .ok ⟨"r/t:d", some ⟨"", "a", []⟩, []⟩ := by
      refine (congrArg Prod.fst hRun).symm.trans ?_
      decide +kernel
    subst hMade
    rcases hBuilt _ _ _ _ _ _ _ hConfig rfl hRun with
      ⟨reply, fields, hReply, hTells⟩
    exact ⟨reply, fields, built, hReply, hTells⟩

end ContainerBuild.CommandLine
