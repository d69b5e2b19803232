import ContainerBuild.Proofs.Stream.Delivery
import ContainerBuild.Stream.Demux

/-
  This file describes what demuxing makes of octets. Only
  octets and failure count, and a failure strikes after the
  ended lines: it ends a reading that is still going on and
  takes the text so far along, but it changes nothing once a
  record or a line has ended the reading.

  Key definitions include:
    * `demuxOctets`
    * `interrupted`
    * `HoldsError`

  Main statements:
    * `Body.demux_eq`
    * `demuxLines_some`
    * `demuxOctets_interrupted`
    * `demuxLines_of_readsOn`
    * `HoldsError.demuxLines`
    * `demuxLines_problem`
    * `chunks_invisible`
-/

namespace ContainerBuild

open Text

------------------------------------------------------------
-- Lines
------------------------------------------------------------

theorem readLine_blank
    {line : String}
    (hBlank : line.toList.all isBlank = true) :
    readLine line = .blank := by
  simp only [readLine, hBlank, if_true]

/- A line that is an object is the record of its fields. -/
theorem readLine_of_fields
    {line : String}
    {fields : List (String × Json.Value)}
    (hBlank : line.toList.all isBlank = false)
    (hRead : Json.read line.toList = .ok (.object fields)) :
    readLine line = .record (Record.ofFields fields) := by
  simp only [readLine, hBlank, hRead, Bool.false_eq_true,
    if_false]

------------------------------------------------------------
-- Octets
------------------------------------------------------------

/- The transcript that octets carry. -/
def demuxOctets
    (bs : List UInt8)
    (failure : Option Failure) : Except Failure Demuxed :=
  demuxLines 1 "" 0 failure
    (Delivery.ofOctets bs failure).lines

/- A body carries what its octets carry. -/
theorem Body.demux_eq (b : Body) :
    b.demux = demuxOctets b.octets b.failure? := by
  rw [Body.demux, Body.delivery_eq]
  rfl

/- Bodies of the same octets carry the same. -/
theorem Body.demux_congr
    {a b : Body}
    (hOctets : a.octets = b.octets)
    (hFailure : a.failure? = b.failure?) :
    a.demux = b.demux := by
  rw [Body.demux_eq, Body.demux_eq, hOctets, hFailure]

------------------------------------------------------------
-- Interruption
------------------------------------------------------------

/-
  What a failure after the last line makes of an outcome. A
  reading that a record or a line has ended is not affected.
-/
def interrupted
    (f : Failure)
    (r : Except Failure Demuxed) :
    Except Failure Demuxed :=
  match r with
  | .ok d =>
      match d.problem with
      | none => .error (attachOutput d.text f)
      | some _ => .ok d
  | .error g => .error g

/- A failure strikes after all lines were read. -/
theorem demuxLines_some
    (number : Nat)
    (text : String)
    (records : Nat)
    (f : Failure)
    (ls : List String) :
    demuxLines number text records (some f) ls =
      interrupted f
        (demuxLines number text records none ls) := by
  induction ls generalizing number text records with
  | nil => rfl
  | cons line rest ih =>
      simp only [demuxLines]
      cases readLine line with
      | blank => exact ih _ _ _
      | malformed message => rfl
      | tooDeep => rfl
      | record r =>
          cases r with
          | fragment s => exact ih _ _ _
          | error message code => rfl
          | other => exact ih _ _ _

/-
  Octets that fail carry what their ended part carries, but
  for the failure. What follows the ended part is lost.
-/
theorem demuxOctets_interrupted
    {part bs : List UInt8}
    (hPart : IsEndedPart lineFeed part bs)
    (f : Failure) :
    demuxOctets bs (some f) =
      interrupted f (demuxOctets part none) := by
  rcases exists_endEach lineFeed bs with
    ⟨ls, tail, hEnded, hOpen, rfl⟩
  have hEach : part = endEach lineFeed ls :=
    (isEndedPart_iff hOpen).mp hPart
  have hPartLines :
      deliveredLines part false = ls := by
    rw [hEach, deliveredLines_ended hEnded]
  have hLines :
      deliveredLines (endEach lineFeed ls ++ tail) true =
        ls := by
    simpa using deliveredLines_endEach hEnded hOpen true
  simp only [demuxOctets, Delivery.ofOctets,
    Option.isSome_some, Option.isSome_none, hLines,
    hPartLines]
  exact demuxLines_some 1 "" 0 f _

------------------------------------------------------------
-- Error records
------------------------------------------------------------

/- A line after which the reading goes on. -/
inductive ReadsOn (line : String) : Prop
  | blank : readLine line = .blank → ReadsOn line
  | fragment (s : String) :
      readLine line = .record (.fragment s) → ReadsOn line
  | other : readLine line = .record .other → ReadsOn line

/-
  If the reading goes on after every line, it comes to the
  failure, if there is one.
-/
theorem demuxLines_of_readsOn
    {ls : List String}
    (hOn : ∀ line ∈ ls, ReadsOn line)
    (number : Nat)
    (text : String)
    (records : Nat)
    (f : Failure) :
    ∃ soFar,
      demuxLines number text records (some f) ls =
        .error (attachOutput soFar f) := by
  induction ls generalizing number text records with
  | nil => exact ⟨text, rfl⟩
  | cons line rest ih =>
      have hRest : ∀ line ∈ rest, ReadsOn line :=
        fun l hMem => hOn l (List.mem_cons_of_mem _ hMem)
      cases hOn line List.mem_cons_self with
      | blank hLine =>
          simp only [demuxLines, hLine]
          exact ih hRest _ _ _
      | fragment s hLine =>
          simp only [demuxLines, hLine]
          exact ih hRest _ _ _
      | other hLine =>
          simp only [demuxLines, hLine]
          exact ih hRest _ _ _

/- An error keeps its code and message with the output. -/
theorem attachOutput_build
    (text : String)
    (e : BuildError) :
    ∃ e', attachOutput text (.build e) = .build e' ∧
      e'.code = e.code ∧ e'.message = e.message := by
  cases e <;> exact ⟨_, rfl, rfl, rfl⟩

/- The reading of lines comes to the record of an error. -/
inductive HoldsError : BuildError → List String → Prop
  | here
      (message : String)
      (code : Option ErrorCode)
      (line : String)
      (rest : List String) :
      readLine line = .record (.error message code) →
        HoldsError (.streamError message code)
          (line :: rest)
  | later
      (e : BuildError)
      (line : String)
      (rest : List String) :
      ReadsOn line → HoldsError e rest →
        HoldsError e (line :: rest)

/- An error record that is come to ends the stream. -/
theorem HoldsError.demuxLines
    {e : BuildError}
    {ls : List String}
    (hHolds : HoldsError e ls)
    (number : Nat)
    (text : String)
    (records : Nat)
    (failure : Option Failure) :
    ∃ d,
      demuxLines number text records failure ls = .ok d ∧
        d.problem = some e := by
  induction hHolds generalizing number text records with
  | here message code line rest hLine =>
      simp only [ContainerBuild.demuxLines, hLine]
      exact ⟨_, rfl, rfl⟩
  | later e line rest hOn hRest ih =>
      cases hOn with
      | blank hLine =>
          simp only [ContainerBuild.demuxLines, hLine]
          exact ih _ _ _
      | fragment s hLine =>
          simp only [ContainerBuild.demuxLines, hLine]
          exact ih _ _ _
      | other hLine =>
          simp only [ContainerBuild.demuxLines, hLine]
          exact ih _ _ _

/- A problem of a stream is an error record it comes to. -/
theorem demuxLines_problem
    {number : Nat}
    {text : String}
    {records : Nat}
    {failure : Option Failure}
    {ls : List String}
    {d : Demuxed}
    {e : BuildError}
    (hDemux :
      demuxLines number text records failure ls = .ok d)
    (hProblem : d.problem = some e) :
    HoldsError e ls := by
  induction ls generalizing number text records with
  | nil =>
      cases failure with
      | none =>
          cases hDemux
          exact absurd hProblem (by simp)
      | some f => exact absurd hDemux (by simp [demuxLines])
  | cons line rest ih =>
      simp only [demuxLines] at hDemux
      cases hLine : readLine line with
      | blank =>
          rw [hLine] at hDemux
          exact .later _ _ _ (.blank hLine) (ih hDemux)
      | malformed message =>
          rw [hLine] at hDemux
          exact absurd hDemux (by simp)
      | tooDeep =>
          rw [hLine] at hDemux
          exact absurd hDemux (by simp)
      | record r =>
          rw [hLine] at hDemux
          cases r with
          | fragment s =>
              exact .later _ _ _ (.fragment s hLine)
                (ih hDemux)
          | other =>
              exact .later _ _ _ (.other hLine) (ih hDemux)
          | error message code =>
              cases hDemux
              cases hProblem
              exact .here message code line rest hLine

/- Only an error record is a problem of a stream. -/
theorem HoldsError.eq_streamError
    {e : BuildError}
    {ls : List String}
    (hHolds : HoldsError e ls) :
    ∃ message code, e = .streamError message code := by
  induction hHolds with
  | here message code line rest hLine =>
      exact ⟨message, code, rfl⟩
  | later e line rest hOn hRest ih => exact ih

theorem Body.demux_problem
    {b : Body}
    {d : Demuxed}
    {e : BuildError}
    (hDemux : b.demux = .ok d)
    (hProblem : d.problem = some e) :
    ∃ message code, e = .streamError message code :=
  (demuxLines_problem hDemux hProblem).eq_streamError

------------------------------------------------------------
-- Failures
------------------------------------------------------------

/-
  The ways in which a reading fails: at a line that nests too
  deeply, at a line that is no record, or after all lines.
-/
inductive ReadingFails
    (failure : Option Failure)
    (ls : List String) : Failure → Prop
  | nested
      (front rest : List String)
      (line : String) :
      ls = front ++ line :: rest →
      (∀ l ∈ front, ReadsOn l) →
      readLine line = .tooDeep →
        ReadingFails failure ls .tooDeep
  | malformed (message text : String) (number : Int) :
      ReadingFails failure ls
        (.build (.malformedRecord message text number))
  | struck (f : Failure) (text : String) :
      failure = some f →
      (∀ l ∈ ls, ReadsOn l) →
        ReadingFails failure ls (attachOutput text f)

/- A line that is read does not keep the rest from failing. -/
theorem ReadingFails.cons
    {failure : Option Failure}
    {line : String}
    {ls : List String}
    {f : Failure}
    (hOn : ReadsOn line)
    (hFails : ReadingFails failure ls f) :
    ReadingFails failure (line :: ls) f := by
  cases hFails with
  | nested front rest deep hLines hFront hDeep =>
      refine .nested (line :: front) rest deep
        (by rw [hLines]; rfl) ?_ hDeep
      intro l hMem
      rcases List.mem_cons.mp hMem with rfl | hMem
      · exact hOn
      · exact hFront l hMem
  | malformed message text number =>
      exact .malformed message text number
  | struck f text hFailure hAll =>
      refine .struck f text hFailure ?_
      intro l hMem
      rcases List.mem_cons.mp hMem with rfl | hMem
      · exact hOn
      · exact hAll l hMem

/- Reading stops at a line that nests too deeply. -/
theorem demuxLines_of_nested
    {front : List String}
    {line : String}
    (hFront : ∀ l ∈ front, ReadsOn l)
    (hDeep : readLine line = .tooDeep)
    (rest : List String)
    (number : Nat)
    (text : String)
    (records : Nat)
    (failure : Option Failure) :
    demuxLines number text records failure
        (front ++ line :: rest) =
      .error .tooDeep := by
  induction front generalizing number text records with
  | nil => simp only [List.nil_append, demuxLines, hDeep]
  | cons l front ih =>
      have hTail : ∀ l ∈ front, ReadsOn l :=
        fun m hMem => hFront m (List.mem_cons_of_mem _ hMem)
      cases hFront l List.mem_cons_self with
      | blank hLine =>
          simp only [List.cons_append, demuxLines, hLine]
          exact ih hTail _ _ _
      | fragment s hLine =>
          simp only [List.cons_append, demuxLines, hLine]
          exact ih hTail _ _ _
      | other hLine =>
          simp only [List.cons_append, demuxLines, hLine]
          exact ih hTail _ _ _

------------------------------------------------------------
-- Chunks
------------------------------------------------------------

/- The lines are the ended ones, and the open one if it counts. -/
theorem Body.delivery_cut (b : Body) :
    ∃ ls tail,
      (∀ l ∈ ls, lineFeed ∉ l) ∧ lineFeed ∉ tail ∧
      b.octets = endEach lineFeed ls ++ tail ∧
      b.delivery =
        ⟨(if b.failure?.isSome || tail = [] then
            ls
          else
            ls ++ [tail]).map lineText,
          b.failure?⟩ := by
  rcases exists_endEach lineFeed b.octets with
    ⟨ls, tail, hEnded, hOpen, hOctets⟩
  refine ⟨ls, tail, hEnded, hOpen, hOctets, ?_⟩
  rw [Body.delivery_eq, Delivery.ofOctets, hOctets,
    deliveredLines_endEach hEnded hOpen]

/-
  However octets are cut into chunks, of texts or of octets,
  and whichever failure follows them: the lines that arrive
  are the pieces that a line feed ends and, if nothing
  fails, what is left behind the last of them. All that is
  made of the lines is the same as well.
-/
theorem chunks_invisible
    {a b : Body}
    (hOctets : a.octets = b.octets)
    (hFailure : a.failure? = b.failure?) :
    (∃ ls tail,
      (∀ l ∈ ls, lineFeed ∉ l) ∧ lineFeed ∉ tail ∧
      a.octets = endEach lineFeed ls ++ tail ∧
      a.delivery =
        ⟨(if a.failure?.isSome || tail = [] then
            ls
          else
            ls ++ [tail]).map lineText,
          a.failure?⟩) ∧
    a.delivery = b.delivery ∧
    a.demux = b.demux := by
  refine ⟨a.delivery_cut, ?_, ?_⟩
  · rw [Body.delivery_eq, Body.delivery_eq, hOctets,
      hFailure]
  · exact Body.demux_congr hOctets hFailure

/- A character cut in two, between empty chunks. -/
def cutSample : Body :=
  .chunks
    [.text "[", .octets [0xC3], .text "", .octets [0xA9],
      .octets [], .text "]\n[", .text "1"]
    (some (.build (.unreachable "lost" "")))

/- The same octets and failure with other chunks. -/
def uncutSample : Body :=
  .chunks [.text "[é]\n[1"]
    (some (.build (.unreachable "lost" "")))

theorem chunks_invisible_sample :
    cutSample.octets = uncutSample.octets ∧
    cutSample.failure? = uncutSample.failure? ∧
    cutSample.delivery = uncutSample.delivery ∧
    cutSample.delivery.lines = ["[é]"] ∧
    cutSample.demux = uncutSample.demux := by
  have hOctets :
      cutSample.octets = uncutSample.octets := by decide
  have hSame := chunks_invisible hOctets rfl
  have hLines :
      deliveredLines uncutSample.octets true =
        [utf8 "[é]"] := by
    decide
  refine ⟨hOctets, rfl, hSame.2.1, ?_, hSame.2.2⟩
  rw [Body.delivery_eq, hOctets]
  exact
    (congrArg (List.map lineText) hLines).trans
      (by simp)

end ContainerBuild
