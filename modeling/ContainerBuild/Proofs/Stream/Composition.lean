import ContainerBuild.Proofs.Stream.Carriage

/-
  This file takes a stream apart behind a line. The first
  line that ends the reading decides, and what is behind it
  does not count. If no line does, what follows is read as
  it would be on its own, with the text, the records and the
  lines before it added.

  Key definitions include:
    * `BringsOutput`
    * `ReadsBehind`

  Main statements:
    * `demuxLines_append`
    * `readsBehind_demuxLines`
    * `streams_compose`
-/

namespace ContainerBuild

open Text

------------------------------------------------------------
-- Lines Behind Lines
------------------------------------------------------------

/- Lines are read one after another, up to one that ends. -/
theorem demuxLines_append
    (number : Nat)
    (text : String)
    (records : Nat)
    (failure : Option Failure)
    (ls ms : List String) :
    demuxLines number text records failure (ls ++ ms) =
      match demuxLines number text records none ls with
      | .error f => .error f
      | .ok d =>
          match d.problem with
          | some _ => .ok d
          | none =>
              demuxLines (number + ls.length) d.text
                d.records failure ms := by
  induction ls generalizing number text records with
  | nil => rfl
  | cons line rest ih =>
      have hLength :
          number + (line :: rest).length =
            number + 1 + rest.length := by
        rw [List.length_cons]
        omega
      rw [hLength]
      simp only [List.cons_append, demuxLines]
      cases readLine line with
      | blank => exact ih _ _ _
      | malformed message => rfl
      | tooDeep => rfl
      | record r =>
          cases r with
          | fragment s => exact ih _ _ _
          | error message code => rfl
          | other => exact ih _ _ _

/- What is delivered of octets behind ended lines. -/
theorem deliveredLines_append
    {ls : List (List UInt8)}
    (hEnded : ∀ l ∈ ls, lineFeed ∉ l)
    (bs : List UInt8)
    (failed : Bool) :
    deliveredLines (endEach lineFeed ls ++ bs) failed =
      ls ++ deliveredLines bs failed := by
  rcases exists_endEach lineFeed bs with
    ⟨ms, tail, hMore, hOpen, rfl⟩
  have hBoth : ∀ l ∈ ls ++ ms, lineFeed ∉ l := by
    intro l hMem
    rcases List.mem_append.mp hMem with hMem | hMem
    · exact hEnded l hMem
    · exact hMore l hMem
  rw [← List.append_assoc, ← endEach_append,
    deliveredLines_endEach hBoth hOpen,
    deliveredLines_endEach hMore hOpen]
  split
  · rfl
  · exact List.append_assoc ls ms [tail]

------------------------------------------------------------
-- Streams Behind Lines
------------------------------------------------------------

/- A message about a line says which one it is. -/
theorem exists_reason_of_malformed
    {line : String}
    {message : Nat → String}
    (hLine : readLine line = .malformed message) :
    ∃ reason,
      readLine line =
        .malformed (fun n => lineOfStream n ++ reason) := by
  unfold readLine at hLine ⊢
  simp only at hLine ⊢
  split at hLine
  · exact absurd hLine (by simp)
  · rename_i hSolid
    rw [if_neg hSolid]
    split at hLine
    · exact absurd hLine (by simp)
    · rename_i hRead
      exact ⟨"a JSON object", rfl⟩
    · exact absurd hLine (by simp)
    · rename_i fault _ hRead
      refine ⟨"valid JSON: " ++ fault.message line.toList, ?_⟩
      simp only [String.append_assoc]

/-
  A failure of a body that is not given the text so far: it
  is no lost connection, and no failed build that brings no
  output along.
-/
def BringsOutput : Failure → Prop
  | .build (.unreachable _ _) => False
  | .build (.buildFailed _ raw _) => raw ≠ ""
  | _ => True

/-
  What lines, the first of which has a given number, come to
  on their own, and what they come to behind others, so many
  of which were read before.
-/
inductive ReadsBehind
    (before : Demuxed)
    (count : Nat)
    (failure : Option Failure)
    (number : Nat) :
    List String → Except Failure Demuxed →
      Except Failure Demuxed → Prop
  | ended (ls : List String) (d : Demuxed) :
      ReadsBehind before count failure number ls
        (.ok d)
        (.ok
          ⟨before.text ++ d.text, d.problem,
            before.records + d.records⟩)
  | malformed
      (front rest : List String)
      (line text reason : String) :
      (∀ l ∈ front, ReadsOn l) →
      readLine line =
          .malformed (fun n => lineOfStream n ++ reason) →
        ReadsBehind before count failure number
          (front ++ line :: rest)
          (.error (.build (.malformedRecord
            (lineOfStream (number + front.length) ++ reason)
            text (number + front.length : Nat))))
          (.error (.build (.malformedRecord
            (lineOfStream (count + (number + front.length))
              ++ reason)
            (before.text ++ text)
            (count + (number + front.length) : Nat))))
  | nested (ls : List String) :
      ReadsBehind before count failure number ls
        (.error .tooDeep) (.error .tooDeep)
  | unreachable
      (ls : List String)
      (message lost text : String) :
      failure = some (.build (.unreachable message lost)) →
      (∀ l ∈ ls, ReadsOn l) →
        ReadsBehind before count failure number ls
          (.error (.build (.unreachable message text)))
          (.error (.build
            (.unreachable message (before.text ++ text))))
  | failed
      (ls : List String)
      (message text : String)
      (timedOut : Bool) :
      failure =
        some (.build (.buildFailed message "" timedOut)) →
      (∀ l ∈ ls, ReadsOn l) →
        ReadsBehind before count failure number ls
          (.error (.build
            (.buildFailed message text timedOut)))
          (.error (.build
            (.buildFailed message (before.text ++ text)
              timedOut)))
  | handedOn (ls : List String) (f : Failure) :
      failure = some f →
      (∀ l ∈ ls, ReadsOn l) →
      BringsOutput f →
        ReadsBehind before count failure number ls
          (.error f) (.error f)

section ReadsBehind

variable {before : Demuxed}
variable {count : Nat}
variable {failure : Option Failure}

/- A line that is read does not change the relation. -/
theorem ReadsBehind.cons
    {number : Nat}
    {line : String}
    {ls : List String}
    {alone behind : Except Failure Demuxed}
    (hOn : ReadsOn line)
    (hReads :
      ReadsBehind before count failure (number + 1) ls alone
        behind) :
    ReadsBehind before count failure number (line :: ls)
      alone behind := by
  have hAll : ∀ {ms : List String},
      (∀ l ∈ ms, ReadsOn l) →
        ∀ l ∈ line :: ms, ReadsOn l := by
    intro ms hRest l hMem
    rcases List.mem_cons.mp hMem with rfl | hMem
    · exact hOn
    · exact hRest l hMem
  cases hReads with
  | ended _ d => exact .ended _ d
  | malformed front rest bad text reason hFront hBad =>
      have hPlace :
          number + 1 + front.length =
            number + (line :: front).length := by
        rw [List.length_cons]
        omega
      rw [hPlace]
      exact .malformed (line :: front) rest bad text reason
        (hAll hFront) hBad
  | nested => exact .nested _
  | unreachable _ message lost text hFailure hRest =>
      exact .unreachable _ message lost text hFailure
        (hAll hRest)
  | failed _ message text timedOut hFailure hRest =>
      exact .failed _ message text timedOut hFailure
        (hAll hRest)
  | handedOn _ f hFailure hRest hBrings =>
      exact .handedOn _ f hFailure (hAll hRest) hBrings

/- Behind all lines the failure is given the text so far. -/
theorem readsBehind_struck
    {f : Failure}
    (hFailure : failure = some f)
    (number : Nat)
    (text : String) :
    ReadsBehind before count failure number []
      (.error (attachOutput text f))
      (.error (attachOutput (before.text ++ text) f)) := by
  have hNone : ∀ l ∈ ([] : List String), ReadsOn l := by
    simp
  have hHandedOn :
      BringsOutput f → (∀ s, attachOutput s f = f) →
        ReadsBehind before count failure number []
          (.error (attachOutput text f))
          (.error (attachOutput (before.text ++ text) f)) := by
    intro hBrings hSame
    rw [hSame, hSame]
    exact .handedOn [] f hFailure hNone hBrings
  cases f with
  | build e =>
      cases e with
      | unreachable message lost =>
          exact .unreachable [] message lost text hFailure
            hNone
      | buildFailed message raw timedOut =>
          by_cases hRaw : raw = ""
          · subst hRaw
            exact .failed [] message text timedOut hFailure
              hNone
          · exact hHandedOn hRaw
              (fun s => by simp [attachOutput, hRaw])
      | _ => exact hHandedOn trivial (fun _ => rfl)
  | _ => exact hHandedOn trivial (fun _ => rfl)

/-
  Lines are read behind others as they are on their own, by
  induction on the lines.
-/
theorem readsBehind_demuxLines
    (number : Nat)
    (text : String)
    (records : Nat)
    (ls : List String) :
    ReadsBehind before count failure number ls
      (demuxLines number text records failure ls)
      (demuxLines (count + number) (before.text ++ text)
        (before.records + records) failure ls) := by
  induction ls generalizing number text records with
  | nil =>
      simp only [demuxLines]
      cases hFailure : failure with
      | none => exact .ended [] ⟨text, none, records⟩
      | some f => exact readsBehind_struck rfl number text
  | cons line rest ih =>
      simp only [demuxLines]
      cases hLine : readLine line with
      | blank =>
          exact (ih (number + 1) text records).cons
            (.blank hLine)
      | malformed message =>
          rcases exists_reason_of_malformed hLine with
            ⟨reason, hReason⟩
          have hMessage := hLine.symm.trans hReason
          cases hMessage
          exact .malformed [] rest line text reason (by simp)
            hReason
      | tooDeep => exact .nested _
      | record r =>
          cases r with
          | fragment s =>
              have hRest := ih (number + 1) (text ++ s)
                (records + 1)
              rw [← String.append_assoc] at hRest
              exact hRest.cons (.fragment s hLine)
          | error message code =>
              exact .ended _
                ⟨text, some (.streamError message code),
                  records + 1⟩
          | other =>
              exact (ih (number + 1) text (records + 1)).cons
                (.other hLine)

end ReadsBehind

/-
  A body whose octets are those of two others, the first of
  which stops at a line feed, and which fails as the second
  does. If the first comes to an end of its own, this is the
  end of the whole. Otherwise the second is read behind the
  lines of the first.
-/
theorem streams_compose
    {front back whole : Body}
    (hEnds : EndsIn lineFeed front.octets)
    (hSafe : front.failure? = none)
    (hOctets :
      whole.octets = front.octets ++ back.octets)
    (hFailure : whole.failure? = back.failure?) :
    (∀ d, front.demux = .ok d → d.problem = none →
      ReadsBehind d (front.octets.count lineFeed)
        back.failure? 1 back.delivery.lines back.demux
        whole.demux) ∧
    (∀ d e, front.demux = .ok d → d.problem = some e →
      whole.demux = .ok d) ∧
    (∀ f, front.demux = .error f →
      whole.demux = .error f) := by
  rcases exists_endEach_of_endsIn hEnds with
    ⟨ls, hEnded, hFront⟩
  have hAlone :
      front.demux =
        demuxLines 1 "" 0 none (ls.map lineText) := by
    rw [Body.demux_eq, hSafe, hFront, demuxOctets,
      Delivery.ofOctets, deliveredLines_ended hEnded]
  have hWhole :
      whole.demux =
        demuxLines 1 "" 0 back.failure?
          (ls.map lineText ++ back.delivery.lines) := by
    rw [Body.demux_eq, hOctets, hFailure, hFront,
      demuxOctets, Delivery.ofOctets, Body.delivery_eq,
      Delivery.ofOctets, deliveredLines_append hEnded,
      List.map_append]
  rw [hWhole, demuxLines_append, ← hAlone]
  refine ⟨?_, ?_, ?_⟩
  · intro d hDemux hGoesOn
    have hBack :
        back.demux =
          demuxLines 1 "" 0 back.failure?
            back.delivery.lines := by
      rw [Body.demux_eq, demuxOctets, ← Body.delivery_eq]
    have hBehind :
        ReadsBehind d ls.length back.failure? 1
          back.delivery.lines
          (demuxLines 1 "" 0 back.failure?
            back.delivery.lines)
          (demuxLines (ls.length + 1) (d.text ++ "")
            (d.records + 0) back.failure?
            back.delivery.lines) :=
      readsBehind_demuxLines 1 "" 0 back.delivery.lines
    rw [String.append_empty, Nat.add_comm ls.length] at hBehind
    simp only [hDemux, hGoesOn, hFront,
      count_endEach hEnded, List.length_map]
    rw [hBack]
    exact hBehind
  · intro d e hDemux hProblem
    simp only [hDemux, hProblem]
  · intro f hDemux
    simp only [hDemux]

/- Lines that are read: a fragment and a blank one. -/
def frontLines : List String :=
  [fragmentLine "one", ""]

/- Lines that stop being read: a fragment and a list. -/
def backLines : List String :=
  [fragmentLine "two", "[]"]

theorem demux_frontLines :
    (Body.ofLines frontLines).demux =
      .ok ⟨"one", none, 1⟩ := by
  have hFragment :=
    readLine_fragment (spellsField_fieldLine "stream" "one")
  have hBlank : readLine "" = .blank :=
    readLine_blank rfl
  unfold Body.demux
  rw [Body.delivery_ofLines (by decide)]
  simp only [frontLines, fragmentLine, demuxLines, hFragment,
    hBlank]
  rfl

theorem demux_backLines :
    (Body.ofLines backLines).demux =
      .error (.build (.malformedRecord
        (lineOfStream 2 ++ "a JSON object") "two"
        (2 : Nat))) := by
  have hFragment :=
    readLine_fragment (spellsField_fieldLine "stream" "two")
  unfold Body.demux
  rw [Body.delivery_ofLines (by decide)]
  simp only [backLines, fragmentLine, demuxLines, hFragment,
    readLine_noItems]
  rfl

/- A failure that names a line names a later one behind. -/
theorem ReadsBehind.of_malformed
    {before : Demuxed}
    {count number line : Nat}
    {failure : Option Failure}
    {ls : List String}
    {reason text : String}
    {behind : Except Failure Demuxed}
    (hReads :
      ReadsBehind before count failure number ls
        (.error (.build (.malformedRecord
          (lineOfStream line ++ reason) text line)))
        behind)
    (hSafe : failure = none) :
    behind =
      .error (.build (.malformedRecord
        (lineOfStream (count + line) ++ reason)
        (before.text ++ text) (count + line : Nat))) := by
  generalize hAlone :
    (Except.error _ : Except Failure Demuxed) = alone
      at hReads
  cases hReads with
  | malformed front rest bad held why hOn hLine =>
      injection hAlone with hAlone
      injection hAlone with hAlone
      injection hAlone with hMessage hText hLine
      have hPlace : line = number + front.length :=
        Int.ofNat.inj hLine
      subst hPlace hText
      rw [String.append_right_inj] at hMessage
      rw [hMessage]
  | handedOn _ f hFailure =>
      exact absurd (hSafe.symm.trans hFailure) (by simp)
  | _ => exact absurd hAlone (by simp)

/- The second line of the one is the fourth of the whole. -/
theorem streams_compose_sample :
    EndsIn lineFeed (Body.ofLines frontLines).octets ∧
    (Body.ofLines frontLines).failure? = none ∧
    (Body.ofLines (frontLines ++ backLines)).octets =
      (Body.ofLines frontLines).octets ++
        (Body.ofLines backLines).octets ∧
    (Body.ofLines (frontLines ++ backLines)).failure? =
      (Body.ofLines backLines).failure? ∧
    (Body.ofLines (frontLines ++ backLines)).demux =
      .error (.build (.malformedRecord
        (lineOfStream 4 ++ "a JSON object") "onetwo"
        4)) := by
  have hEnds :
      EndsIn lineFeed (Body.ofLines frontLines).octets := by
    rw [Body.octets_ofLines]
    exact endsIn_endEach lineFeed _
  have hOctets :
      (Body.ofLines (frontLines ++ backLines)).octets =
        (Body.ofLines frontLines).octets ++
          (Body.ofLines backLines).octets := by
    simp only [Body.octets_ofLines, List.map_append,
      endEach_append]
  have hFailure :
      (Body.ofLines (frontLines ++ backLines)).failure? =
        (Body.ofLines backLines).failure? := by
    rw [Body.failure?_ofLines, Body.failure?_ofLines]
  have hCount :
      (Body.ofLines frontLines).octets.count lineFeed =
        2 := by
    have hEnded :
        ∀ l ∈ frontLines.map utf8, lineFeed ∉ l := by
      intro l hMem
      rcases List.mem_map.mp hMem with ⟨s, hIn, rfl⟩
      have hLines : ∀ s ∈ frontLines, '\n' ∉ s.toList := by
        decide
      exact lineFeed_not_mem_utf8 (hLines s hIn)
    rw [Body.octets_ofLines, count_endEach hEnded]
    rfl
  have hBehind :=
    (streams_compose hEnds (Body.failure?_ofLines _) hOctets
      hFailure).1 _ demux_frontLines rfl
  rw [demux_backLines, hCount] at hBehind
  have hJoined : "one" ++ "two" = "onetwo" := by decide
  have hWhole :=
    hBehind.of_malformed (Body.failure?_ofLines _)
  rw [hJoined] at hWhole
  exact ⟨hEnds, Body.failure?_ofLines _, hOctets, hFailure,
    hWhole⟩

end ContainerBuild
