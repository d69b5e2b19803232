import ContainerBuild.Stream.Parsed
import ContainerBuild.Proofs.Text.Ending

/-
  This file reads a transcript as a whole, place by place:
  which lines announce steps, which lines belong to a step,
  and which line ends the transcript. Scanning the lines one
  after another finds just this.

  Key definitions include:
    * `Transcript.endPlace`
    * `Transcript.stepPlaces`
    * `Transcript.remarksFrom`
    * `Transcript.stepAt`
    * `Transcript.reading`
    * `Transcript.Reads`
    * `Transcript.LeavesOpen`

  Main statements:
    * `Transcript.scanLines_eq_reading`
    * `Transcript.scanLines_stray`
    * `transcript_reads`
-/

namespace ContainerBuild

open Text

namespace Transcript

------------------------------------------------------------
-- Kinds of Lines
------------------------------------------------------------

/- Whether a line announces a step. -/
def announces (line : List Char) : Bool :=
  startsWith stepMark line

/- Whether a line is a remark about the step before it. -/
def isRemark (line : List Char) : Bool :=
  startsWith arrowMark line

/- Whether a line ends the transcript. -/
def isEnd (line : List Char) : Bool :=
  startsWith successMark line || startsWith errorMark line

/- Whether a remark is the name of an image. -/
def namesImage (remark : List Char) : Bool :=
  remark != [] && !remark.any isBlank

/- A line cannot start with two marks that part ways. -/
theorem startsWith_eq_false
    {mark other line : List Char}
    (hApart : ¬ mark <+: other ∧ ¬ other <+: mark)
    (hStarts : startsWith mark line = true) :
    startsWith other line = false := by
  rw [Bool.eq_false_iff]
  intro hOther
  rcases List.prefix_or_prefix_of_prefix
      (startsWith_iff.mp hStarts)
      (startsWith_iff.mp hOther) with hPrefix | hPrefix
  · exact hApart.1 hPrefix
  · exact hApart.2 hPrefix

theorem after?_eq_none_iff
    {mark line : List Char} :
    after? mark line = none ↔
      startsWith mark line = false := by
  simp [startsWith]

/- What follows a mark is the line without the mark. -/
theorem drop_of_after?
    {mark line rest : List Char}
    (hAfter : after? mark line = some rest) :
    startsWith mark line = true ∧
      line.drop mark.length = rest := by
  have hLine := after?_eq_some_iff.mp hAfter
  refine ⟨startsWith_iff.mpr ⟨rest, hLine.symm⟩, ?_⟩
  rw [hLine, List.drop_left]

/- A line that announces a step is of no other kind. -/
theorem isEnd_of_announces
    {line : List Char}
    (hStep : announces line = true) :
    isEnd line = false := by
  have hSuccess :
      startsWith successMark line = false :=
    startsWith_eq_false (by decide) hStep
  have hError : startsWith errorMark line = false :=
    startsWith_eq_false (by decide) hStep
  simp only [isEnd, hSuccess, hError, Bool.or_self]

/- So is a remark. -/
theorem plain_of_isRemark
    {line : List Char}
    (hRemark : isRemark line = true) :
    announces line = false ∧ isEnd line = false := by
  have hSuccess :
      startsWith successMark line = false :=
    startsWith_eq_false (by decide) hRemark
  have hError : startsWith errorMark line = false :=
    startsWith_eq_false (by decide) hRemark
  refine ⟨startsWith_eq_false (by decide) hRemark, ?_⟩
  simp only [isEnd, hSuccess, hError, Bool.or_self]

------------------------------------------------------------
-- Places
------------------------------------------------------------

/-
  The place of the line that ends the transcript, or behind
  the last line if there is none.
-/
def endPlace (ls : List (List Char)) : Nat :=
  ls.findIdx isEnd

/- The places before that whose lines announce steps. -/
def stepPlaces (ls : List (List Char)) : List Nat :=
  (List.range (endPlace ls)).filter
    (fun i => announces (ls.getD i []))

/- What the line at a place says behind the step mark. -/
def announcementAt
    (ls : List (List Char))
    (i : Nat) : List Char :=
  (ls.getD i []).drop stepMark.length

/- The longest run of remarks from a place on. -/
def remarksFrom
    (ls : List (List Char))
    (i : Nat) : List (List Char) :=
  ((ls.drop i).takeWhile isRemark).map
    (List.drop arrowMark.length)

/-
  The step that the line at a place announces. The remarks
  directly after it say whether the cache was used; the last
  of them that is the name of an image counts.
-/
def stepAt
    (ls : List (List Char))
    (i : Nat) : Step :=
  let announcement := announcementAt ls i
  let remarks := remarksFrom ls (i + 1)
  ⟨ofDigits (numberDigits announcement),
    String.ofList (commandOf announcement),
    remarks.any (startsWith cacheRemark),
    String.ofList
      ((remarks.filter namesImage).getLastD [])⟩

/- Whether the step at a place has too long a number. -/
def isTooLong
    (ls : List (List Char))
    (i : Nat) : Bool :=
  maxDigits < (numberDigits (announcementAt ls i)).length

/- The report of some steps and the line after them. -/
def closing
    (steps : List Step)
    (last : Option (List Char)) : Parsed :=
  match last with
  | none => ⟨⟨"", "", steps⟩, some .incompleteOutput⟩
  | some line =>
      match after? successMark line with
      | some id => ⟨⟨"", String.ofList id, steps⟩, none⟩
      | none =>
          let message := line.drop errorMark.length
          ⟨⟨String.ofList message, "", steps⟩,
            some (.errorReported (errorText message))⟩

/-
  What lines say after some steps: the first number that is
  too long is a failure; otherwise the steps are those at
  their places, and the line at the end closes the report.
-/
def reading
    (before : List Step)
    (ls : List (List Char)) :
    Except IntegerFault Parsed :=
  match (stepPlaces ls).find? (isTooLong ls) with
  | some i =>
      .error
        (.tooLong
          (numberDigits (announcementAt ls i)).length)
  | none =>
      .ok
        (closing (before ++ (stepPlaces ls).map (stepAt ls))
          ls[endPlace ls]?)

------------------------------------------------------------
-- One Line More
------------------------------------------------------------

section Cons

variable {line : List Char}
variable {ls : List (List Char)}

theorem endPlace_cons
    (hOn : isEnd line = false) :
    endPlace (line :: ls) = endPlace ls + 1 := by
  simp [endPlace, List.findIdx_cons, hOn]

/- Places are one further behind another line. -/
theorem stepPlaces_cons
    (hOn : isEnd line = false) :
    stepPlaces (line :: ls) =
      (if announces line then [0] else [])
        ++ (stepPlaces ls).map (· + 1) := by
  have hShift :
      (fun i => announces ((line :: ls).getD i [])) ∘
          Nat.succ =
        fun i => announces (ls.getD i []) := rfl
  rw [stepPlaces, endPlace_cons hOn,
    List.range_succ_eq_map, List.filter_cons,
    List.filter_map, hShift]
  cases hStep : announces line <;>
    simp [hStep, stepPlaces]

/- What is said at a place is said one further. -/
theorem reading_cons
    (hOn : isEnd line = false)
    (hPlain : announces line = false)
    (before : List Step) :
    reading before (line :: ls) = reading before ls := by
  have hLong :
      isTooLong (line :: ls) ∘ (· + 1) = isTooLong ls := rfl
  have hSteps :
      stepAt (line :: ls) ∘ (· + 1) = stepAt ls := rfl
  simp only [reading, stepPlaces_cons hOn, hPlain,
    endPlace_cons hOn, Bool.false_eq_true, if_false,
    List.nil_append, List.find?_map, List.map_map, hLong,
    hSteps, List.getElem?_cons_succ]
  cases (stepPlaces ls).find? (isTooLong ls) <;> rfl

/- A step comes before the steps after it. -/
theorem reading_cons_step
    (hStep : announces line = true)
    (before : List Step) :
    reading before (line :: ls) =
      if isTooLong (line :: ls) 0 then
        .error
          (.tooLong
            (numberDigits
              (line.drop stepMark.length)).length)
      else
        reading (before ++ [stepAt (line :: ls) 0]) ls := by
  have hOn := isEnd_of_announces hStep
  have hLong :
      isTooLong (line :: ls) ∘ (· + 1) = isTooLong ls := rfl
  have hSteps :
      stepAt (line :: ls) ∘ (· + 1) = stepAt ls := rfl
  simp only [reading, stepPlaces_cons hOn, hStep,
    endPlace_cons hOn, if_true, List.singleton_append,
    List.find?_cons, List.find?_map, List.map_cons,
    List.map_map, hLong, hSteps, List.getElem?_cons_succ]
  cases isTooLong (line :: ls) 0 with
  | true => rfl
  | false =>
      cases (stepPlaces ls).find? (isTooLong ls) <;>
        simp [announcementAt]

/- Nothing counts behind the line that ends all. -/
theorem reading_cons_end
    (hEnd : isEnd line = true)
    (before : List Step) :
    reading before (line :: ls) =
      .ok (closing before (some line)) := by
  have hPlace : endPlace (line :: ls) = 0 := by
    simp [endPlace, List.findIdx_cons, hEnd]
  simp [reading, stepPlaces, hPlace]

end Cons

------------------------------------------------------------
-- Scanning
------------------------------------------------------------

/- A step with what some more remarks say about it. -/
def withRemarks
    (remarks : List (List Char))
    (s : Step) : Step :=
  ⟨s.number, s.command,
    s.usedCache || remarks.any (startsWith cacheRemark),
    match (remarks.filter namesImage).getLast? with
    | some id => String.ofList id
    | none => s.imageId⟩

/- A remark about the cache has a blank in it. -/
theorem namesImage_of_cacheRemark
    {remark : List Char}
    (hCache : startsWith cacheRemark remark = true) :
    namesImage remark = false := by
  rcases startsWith_iff.mp hCache with ⟨rest, rfl⟩
  have hBlank : cacheRemark.any isBlank = true := by decide
  simp [namesImage, List.any_append, hBlank]

/- Remarks add up one after another. -/
theorem withRemarks_cons
    (remark : List Char)
    (remarks : List (List Char))
    (s : Step) :
    withRemarks (remark :: remarks) s =
      withRemarks remarks (annotate remark s) := by
  cases hCache : startsWith cacheRemark remark with
  | true =>
      simp [withRemarks, annotate, hCache,
        namesImage_of_cacheRemark hCache]
  | false =>
      cases hImage : namesImage remark with
      | false =>
          have hOther :
              (remark != [] && !remark.any isBlank) =
                false := hImage
          simp [withRemarks, annotate, hCache, hImage, hOther]
      | true =>
          have hOther :
              (remark != [] && !remark.any isBlank) =
                true := hImage
          simp only [withRemarks, annotate, hCache, hOther,
            List.any_cons, Bool.false_or,
            List.filter_cons_of_pos hImage,
            List.getLast?_cons, Bool.false_eq_true,
            if_false, if_true, Step.mk.injEq, true_and]
          cases (remarks.filter namesImage).getLast? <;> rfl

/- A step is announced and then remarked upon. -/
theorem stepAt_zero
    (line : List Char)
    (ls : List (List Char)) :
    stepAt (line :: ls) 0 =
      withRemarks (remarksFrom ls 0)
        (Step.new
          (ofDigits (numberDigits
            (line.drop stepMark.length)))
          (String.ofList
            (commandOf (line.drop stepMark.length)))) := by
  have hImage (remarks : List (List Char)) :
      String.ofList (remarks.getLastD []) =
        match remarks.getLast? with
        | some id => String.ofList id
        | none => "" := by
    rw [List.getLastD_eq_getLast?]
    cases remarks.getLast? <;> rfl
  simp only [stepAt, withRemarks, Step.new, hImage,
    Bool.false_or]
  rfl

/-
  The steps before some lines, the last of which the lines
  may still make remarks about.
-/
def Scan.before
    (s : Scan)
    (ls : List (List Char)) : List Step :=
  match s.current with
  | none => s.done.reverse
  | some step =>
      s.done.reverse ++ [withRemarks (remarksFrom ls 0) step]

/- Without a remark about it the last step is as it is. -/
theorem Scan.before_eq_steps
    {s : Scan}
    {ls : List (List Char)}
    (hNone :
      s.current = none ∨ remarksFrom ls 0 = []) :
    s.before ls = s.steps := by
  unfold Scan.before Scan.steps
  cases hCurrent : s.current with
  | none => rfl
  | some step =>
      have hEmpty : remarksFrom ls 0 = [] := by
        simpa [hCurrent] using hNone
      simp [hEmpty, withRemarks]

/- A closed scan has no step to make remarks about. -/
theorem Scan.close_current (s : Scan) :
    s.close.current = none := by
  unfold Scan.close
  cases hCurrent : s.current with
  | none => exact hCurrent
  | some step => rfl

theorem Scan.done_close (s : Scan) :
    s.close.done.reverse = s.steps := by
  unfold Scan.close Scan.steps
  cases s.current <;> rfl

theorem Scan.before_close
    (s : Scan)
    (ls : List (List Char)) :
    s.close.before ls = s.steps := by
  simp only [Scan.before, s.close_current, s.done_close]

/- What an advance leads to with the lines that are left. -/
def Advance.finish
    (rest : List (List Char)) :
    Advance → Except IntegerFault Parsed
  | next s => reading (s.before rest) rest
  | ended p => .ok p
  | failed fault => .error fault

/- A line that belongs to no step begins anew. -/
theorem finish_scanPlainLine
    (s : Scan)
    (line : List Char)
    (rest : List (List Char)) :
    (scanPlainLine s line).finish rest =
      reading s.steps (line :: rest) := by
  unfold scanPlainLine
  cases hStep : after? stepMark line with
  | some announcement =>
      rcases drop_of_after? hStep with ⟨hAnnounces, hDrop⟩
      rw [reading_cons_step hAnnounces, stepAt_zero, hDrop]
      by_cases hLong :
          maxDigits < (numberDigits announcement).length
      · have hRefused :
            isTooLong (line :: rest) 0 = true := by
          simpa [isTooLong, announcementAt, hDrop]
            using hLong
        simp only [stepOfLine, hLong, if_true, hRefused,
          Advance.finish]
      · have hTaken :
            isTooLong (line :: rest) 0 = false := by
          simpa [isTooLong, announcementAt, hDrop]
            using hLong
        simp only [stepOfLine, hLong, if_false, hTaken,
          Bool.false_eq_true, Advance.finish, Scan.before,
          s.done_close]
  | none =>
      have hPlain : announces line = false :=
        after?_eq_none_iff.mp hStep
      cases hSuccess : after? successMark line with
      | some id =>
          have hEnd : isEnd line = true := by
            simp [isEnd, (drop_of_after? hSuccess).1]
          simp only [Advance.finish, reading_cons_end hEnd,
            closing, hSuccess]
      | none =>
          cases hError : after? errorMark line with
          | some message =>
              rcases drop_of_after? hError with
                ⟨hStarts, hDrop⟩
              have hEnd : isEnd line = true := by
                simp [isEnd, hStarts]
              simp only [Advance.finish,
                reading_cons_end hEnd, closing, hSuccess,
                hDrop]
          | none =>
              have hOn : isEnd line = false := by
                simp [isEnd, after?_eq_none_iff.mp hSuccess,
                  after?_eq_none_iff.mp hError]
              simp only [Advance.finish, s.before_close,
                reading_cons hOn hPlain]

/- A line that is no remark about a step belongs to none. -/
theorem scanLine_of_alone
    {s : Scan}
    {line : List Char}
    (hAlone : s.current = none ∨ isRemark line = false) :
    scanLine s line = scanPlainLine s line := by
  rcases hAlone with hClosed | hOther
  · simp only [scanLine, hClosed]
  · simp only [scanLine, after?_eq_none_iff.mpr hOther]
    cases s.current <;> rfl

theorem finish_scanLine_alone
    {s : Scan}
    {line : List Char}
    (hAlone : s.current = none ∨ isRemark line = false)
    (rest : List (List Char)) :
    (scanLine s line).finish rest =
      reading (s.before (line :: rest)) (line :: rest) := by
  have hBefore : s.before (line :: rest) = s.steps := by
    refine Scan.before_eq_steps (hAlone.imp_right ?_)
    intro hOther
    simp [remarksFrom, hOther]
  rw [scanLine_of_alone hAlone, hBefore,
    finish_scanPlainLine]

/- A remark about a step goes to that step. -/
theorem finish_scanLine_remark
    {s : Scan}
    {step : Step}
    {line : List Char}
    (hCurrent : s.current = some step)
    (hRemark : isRemark line = true)
    (rest : List (List Char)) :
    (scanLine s line).finish rest =
      reading (s.before (line :: rest)) (line :: rest) := by
  rcases Option.isSome_iff_exists.mp hRemark with
    ⟨remark, hAfter⟩
  rcases plain_of_isRemark hRemark with ⟨hPlain, hOn⟩
  have hRun :
      remarksFrom (line :: rest) 0 =
        remark :: remarksFrom rest 0 := by
    simp [remarksFrom, hRemark, (drop_of_after? hAfter).2]
  simp only [scanLine, hCurrent, hAfter, Advance.finish,
    Scan.before, hRun, withRemarks_cons,
    reading_cons hOn hPlain]

/-
  Scanning lines finds what they say after the steps before
  them, by induction on the lines.
-/
theorem scanLines_eq_reading
    (s : Scan)
    (ls : List (List Char)) :
    scanLines s ls = reading (s.before ls) ls := by
  induction ls generalizing s with
  | nil =>
      rw [Scan.before_eq_steps (Or.inr rfl)]
      simp [scanLines, reading, stepPlaces, endPlace,
        closing]
  | cons line rest ih =>
      have hFinish :
          scanLines s (line :: rest) =
            (scanLine s line).finish rest := by
        rw [scanLines]
        cases scanLine s line with
        | next s' => exact ih s'
        | ended p => rfl
        | failed fault => rfl
      rw [hFinish]
      cases hCurrent : s.current with
      | none =>
          exact finish_scanLine_alone (Or.inl hCurrent) rest
      | some step =>
          cases hRemark : isRemark line with
          | false =>
              exact finish_scanLine_alone (Or.inr hRemark)
                rest
          | true =>
              exact finish_scanLine_remark hCurrent hRemark
                rest

------------------------------------------------------------
-- Stray Remarks
------------------------------------------------------------

/- Lines behind which a remark would be about a step. -/
def LeavesOpen (ls : List (List Char)) : Prop :=
  ∃ front step run,
    ls = front ++ step :: run ∧ announces step = true ∧
      ∀ line ∈ run, isRemark line = true

/- A line of another kind leaves no step open. -/
theorem not_leavesOpen_of_getLast?
    {ls : List (List Char)}
    {last : List Char}
    (hLast : ls.getLast? = some last)
    (hPlain : announces last = false)
    (hOther : isRemark last = false) :
    ¬ LeavesOpen ls := by
  rintro ⟨front, step, run, rfl, hStep, hRun⟩
  have hEnd : (step :: run).getLast? = some last := by
    simpa [List.getLast?_append, List.getLast?_cons]
      using hLast
  rcases List.mem_cons.mp (List.mem_of_getLast? hEnd) with
    rfl | hMem
  · rw [hPlain] at hStep
    exact absurd hStep (by simp)
  · rw [hRun last hMem] at hOther
    exact absurd hOther (by simp)

/- Only a step opens a closed scan, or a remark keeps it. -/
theorem current_of_scanLine
    {s s' : Scan}
    {line : List Char}
    (hNext : scanLine s line = .next s')
    (hPlain : announces line = false)
    (hAlone : s.current = none ∨ isRemark line = false) :
    s'.current = none := by
  rw [scanLine_of_alone hAlone, scanPlainLine,
    after?_eq_none_iff.mpr hPlain] at hNext
  simp only at hNext
  split at hNext
  · exact absurd hNext (by simp)
  · split at hNext
    · exact absurd hNext (by simp)
    · cases hNext
      exact s.close_current

/- A remark after lines that leave no step open is nothing. -/
theorem scanLines_stray
    {s : Scan}
    {before : List (List Char)}
    {line : List Char}
    (hRemark : isRemark line = true)
    (hClosed :
      s.current = none ∨
        ∃ other ∈ before, isRemark other = false)
    (hOutside : ¬ LeavesOpen before)
    (after : List (List Char)) :
    scanLines s (before ++ line :: after) =
      scanLines s (before ++ after) := by
  induction before generalizing s with
  | nil =>
      have hNone : s.current = none := by simpa using hClosed
      rcases plain_of_isRemark hRemark with ⟨hPlain, hOn⟩
      rw [List.nil_append, List.nil_append,
        scanLines_eq_reading, scanLines_eq_reading,
        reading_cons hOn hPlain,
        Scan.before_eq_steps (Or.inl hNone),
        Scan.before_eq_steps (Or.inl hNone)]
  | cons first before ih =>
      simp only [List.cons_append, scanLines]
      cases hFirst : scanLine s first with
      | ended p => rfl
      | failed fault => rfl
      | next s' =>
          refine ih ?_ ?_
          · by_cases hSome :
                ∃ other ∈ before, isRemark other = false
            · exact Or.inr hSome
            · have hAll :
                  ∀ other ∈ before,
                    isRemark other = true := by
                intro other hMem
                cases hOther : isRemark other with
                | true => rfl
                | false =>
                    exact absurd ⟨other, hMem, hOther⟩ hSome
              have hPlain : announces first = false := by
                rw [Bool.eq_false_iff]
                intro hStep
                exact hOutside
                  ⟨[], first, before, rfl, hStep, hAll⟩
              refine Or.inl
                (current_of_scanLine hFirst hPlain ?_)
              rcases hClosed with hNone | ⟨x, hMem, hOther⟩
              · exact Or.inl hNone
              · rcases List.mem_cons.mp hMem with
                  rfl | hMem
                · exact Or.inr hOther
                · exact absurd ⟨x, hMem, hOther⟩ hSome
          · rintro ⟨front, step, run, rfl, hStep, hRun⟩
            exact hOutside
              ⟨first :: front, step, run, rfl, hStep, hRun⟩

------------------------------------------------------------
-- Transcripts
------------------------------------------------------------

/- What a report says about the lines of its transcript. -/
structure Reads
    (ls : List (List Char))
    (p : Parsed) : Prop where
  steps :
    p.report.steps = (stepPlaces ls).map (stepAt ls)
  announced :
    ∀ i ∈ stepPlaces ls,
      stepOfLine (announcementAt ls i) =
        .ok
          (Step.new (stepAt ls i).number
            (stepAt ls i).command)
  built :
    ∀ id, ls[endPlace ls]? = some (successMark ++ id) →
      p.report.finalImageId = String.ofList id ∧
        p.report.errorMessage = "" ∧ p.problem = none
  failed :
    ∀ message,
      ls[endPlace ls]? = some (errorMark ++ message) →
        p.report.finalImageId = "" ∧
          p.report.errorMessage = String.ofList message ∧
          p.problem =
            some (.errorReported (errorText message))
  stopped :
    endPlace ls = ls.length →
      p.report.finalImageId = "" ∧
        p.report.errorMessage = "" ∧
        p.problem = some .incompleteOutput

theorem closing_success
    (steps : List Step)
    (id : List Char) :
    closing steps (some (successMark ++ id)) =
      ⟨⟨"", String.ofList id, steps⟩, none⟩ := by
  simp only [closing, after?_eq_some_iff.mpr rfl]

theorem closing_error
    (steps : List Step)
    (message : List Char) :
    closing steps (some (errorMark ++ message)) =
      ⟨⟨String.ofList message, "", steps⟩,
        some (.errorReported (errorText message))⟩ := by
  have hError :
      startsWith errorMark (errorMark ++ message) = true :=
    startsWith_iff.mpr (List.prefix_append _ _)
  have hOther :
      after? successMark (errorMark ++ message) = none :=
    after?_eq_none_iff.mpr
      (startsWith_eq_false (by decide) hError)
  simp only [closing, hOther, List.drop_left]

theorem closing_steps
    (steps : List Step)
    (last : Option (List Char)) :
    (closing steps last).report.steps = steps := by
  unfold closing
  split
  · rfl
  · split <;> rfl

/- Numbers that are short enough are read with their steps. -/
theorem reads_closing
    {ls : List (List Char)}
    (hShort : ∀ i ∈ stepPlaces ls, isTooLong ls i = false) :
    Reads ls
      (closing ((stepPlaces ls).map (stepAt ls))
        ls[endPlace ls]?) where
  steps := closing_steps _ _
  announced := by
    intro i hMem
    have hFits := hShort i hMem
    simp only [isTooLong, decide_eq_false_iff_not] at hFits
    simp only [stepOfLine, if_neg hFits]
    rfl
  built := by
    intro id hLast
    rw [hLast, closing_success]
    exact ⟨rfl, rfl, rfl⟩
  failed := by
    intro message hLast
    rw [hLast, closing_error]
    exact ⟨rfl, rfl, rfl⟩
  stopped := by
    intro hBehind
    rw [hBehind, List.getElem?_eq_none (Nat.le_refl _)]
    exact ⟨rfl, rfl, rfl⟩

/- The lines of a text. -/
def linesOf (text : String) : List (List Char) :=
  lines text.toList

end Transcript

open Transcript

/- A text is refused at the first number that is too long. -/
theorem parseText_eq_reading (text : String) :
    parseText text =
      match
        (stepPlaces (linesOf text)).find?
          (isTooLong (linesOf text)) with
      | some i =>
          .error
            (.value
              (tooManyDigits
                (numberDigits
                  (announcementAt (linesOf text) i)).length))
      | none =>
          .ok
            (closing
              ((stepPlaces (linesOf text)).map
                (stepAt (linesOf text)))
              (linesOf text)[endPlace (linesOf text)]?) := by
  have hParse :
      Transcript.parse text = reading [] (linesOf text) :=
    scanLines_eq_reading ⟨[], none⟩ (linesOf text)
  rw [parseText, hParse, reading]
  cases (stepPlaces (linesOf text)).find?
      (isTooLong (linesOf text)) <;> rfl

/- A text with short numbers only is parsed as it reads. -/
theorem parseText_of_short
    {text : String}
    (hShort :
      ∀ i ∈ stepPlaces (linesOf text),
        isTooLong (linesOf text) i = false) :
    parseText text =
      .ok
        (closing
          ((stepPlaces (linesOf text)).map
            (stepAt (linesOf text)))
          (linesOf text)[endPlace (linesOf text)]?) := by
  have hFind :
      (stepPlaces (linesOf text)).find?
        (isTooLong (linesOf text)) = none := by
    refine List.find?_eq_none.mpr ?_
    intro i hMem
    simp [hShort i hMem]
  rw [parseText_eq_reading, hFind]

/- A text that is parsed has short numbers only. -/
theorem short_of_parseText
    {text : String}
    {p : Parsed}
    (hParse : parseText text = .ok p) :
    ∀ i ∈ stepPlaces (linesOf text),
      isTooLong (linesOf text) i = false := by
  intro i hMem
  rw [parseText_eq_reading] at hParse
  split at hParse
  · exact absurd hParse (by simp)
  · rename_i hFind
    simpa using List.find?_eq_none.mp hFind i hMem

/-
  A transcript is refused exactly if a step before its end
  has too long a number, and otherwise it is read place by
  place. A remark that is not about a step changes nothing.
-/
theorem transcript_reads :
    (∀ text,
      (∃ message, parseText text = .error (.value message)) ↔
        ∃ i ∈ stepPlaces (linesOf text),
          maxDigits <
            (numberDigits
              (announcementAt (linesOf text) i)).length) ∧
    (∀ text,
      (∀ i ∈ stepPlaces (linesOf text),
        (numberDigits
            (announcementAt (linesOf text) i)).length ≤
          maxDigits) →
        ∃ p, parseText text = .ok p ∧
          Reads (linesOf text) p) ∧
    (∀ text other before line after,
      linesOf text = before ++ line :: after →
      linesOf other = before ++ after →
      isRemark line = true →
      ¬ LeavesOpen before →
        parseText text = parseText other) := by
  refine ⟨?_, ?_, ?_⟩
  · intro text
    rw [parseText_eq_reading]
    cases hFind :
        (stepPlaces (linesOf text)).find?
          (isTooLong (linesOf text)) with
    | none =>
        have hShort := List.find?_eq_none.mp hFind
        simpa [isTooLong] using hShort
    | some i =>
        have hMem := List.mem_of_find?_eq_some hFind
        have hLong := List.find?_some hFind
        simp only [isTooLong, decide_eq_true_eq] at hLong
        simpa using ⟨i, hMem, hLong⟩
  · intro text hFits
    have hShort :
        ∀ i ∈ stepPlaces (linesOf text),
          isTooLong (linesOf text) i = false := by
      intro i hMem
      simpa [isTooLong] using hFits i hMem
    exact ⟨_, parseText_of_short hShort,
      reads_closing hShort⟩
  · intro text other before line after hText hOther hRemark
      hOutside
    have hSame :=
      scanLines_stray (s := ⟨[], none⟩) hRemark
        (Or.inl rfl) hOutside after
    rw [← hText, ← hOther] at hSame
    simp only [linesOf] at hSame
    simp only [parseText, Transcript.parse, hSame]

/- A step with a remark, and one that comes too late. -/
def Transcript.sample : String :=
  "Step 1 : a\r\n ---> Using cache\nx\n ---> b\nError"

/- The same without the remark that comes too late. -/
def Transcript.briefSample : String :=
  "Step 1 : a\r\n ---> Using cache\nx\nError"

theorem transcript_reads_sample :
    (∃ p, parseText Transcript.sample = .ok p ∧
        Reads (linesOf Transcript.sample) p) ∧
      stepPlaces (linesOf Transcript.sample) = [0] ∧
      parseText Transcript.sample =
        parseText Transcript.briefSample := by
  rcases transcript_reads with ⟨_, hRead, hStray⟩
  have hBefore :
      linesOf Transcript.sample =
        ["Step 1 : a".toList, " ---> Using cache".toList,
            "x".toList]
          ++ " ---> b".toList :: ["Error".toList] := by
    decide +kernel
  have hBrief :
      linesOf Transcript.briefSample =
        ["Step 1 : a".toList, " ---> Using cache".toList,
            "x".toList]
          ++ ["Error".toList] := by
    decide +kernel
  have hPlaces :
      stepPlaces (linesOf Transcript.sample) = [0] := by
    rw [hBefore]
    decide +kernel
  have hOutside :
      ¬ LeavesOpen
        ["Step 1 : a".toList, " ---> Using cache".toList,
          "x".toList] :=
    not_leavesOpen_of_getLast? rfl (by decide) (by decide)
  refine ⟨hRead _ ?_, hPlaces, ?_⟩
  · rw [hPlaces, hBefore]
    decide +kernel
  · exact hStray _ _ _ _ _ hBefore hBrief (by decide)
      hOutside

end ContainerBuild
