import ContainerBuild.Proofs.Builder.Agreement
import ContainerBuild.Proofs.Number.Decimal
import Mathlib.Data.List.DropRight

/-
  This file says which message the error record of a stream
  has, and that this message gets into the report of the
  stream and of a build if the transcript says nothing of
  how it ended. The message is chosen among the fields that
  count as present, and then the line feeds at its end are
  dropped: a text of nothing but line feeds is chosen, and
  nothing of it is left.

  Key definitions include:
    * `HasInk`
    * `CountsAsAbsent`
    * `Record.Words`
    * `Record.IsHollow`
    * `ComesTo`

  Main statements:
    * `Json.Value.dropLineFeeds_display_eq_empty_iff`
    * `Record.message_eq_empty_iff`
    * `HoldsError.exists_comesTo`
    * `stream_error_told_iff`
-/

namespace ContainerBuild

open Text

------------------------------------------------------------
-- Line Feeds
------------------------------------------------------------

theorem dropLineFeeds_eq_empty_iff
    {s : String} :
    dropLineFeeds s = "" ↔ ∀ c ∈ s.toList, c = '\n' := by
  have hDrop :
      dropEnd (fun c => c = '\n') s.toList = [] ↔
        ∀ c ∈ s.toList, decide (c = '\n') = true :=
    List.rdropWhile_eq_nil_iff
  simp only [decide_eq_true_eq] at hDrop
  rw [← hDrop, dropLineFeeds, String.ofList_eq_empty_iff]

/- Some of what is written is no line feed. -/
def HasInk (cs : List Char) : Prop :=
  ∃ c ∈ cs, c ≠ '\n'

theorem hasInk_decimal (n : Nat) : HasInk (decimal n) := by
  rcases List.exists_mem_of_ne_nil _ (decimal_ne_nil n) with
    ⟨c, hMem⟩
  refine ⟨c, hMem, ?_⟩
  rintro rfl
  exact absurd (isAsciiDigit_of_mem_decimal n _ hMem)
    (by decide)

theorem HasInk.cons
    {cs : List Char}
    (hInk : HasInk cs)
    (c : Char) :
    HasInk (c :: cs) := by
  rcases hInk with ⟨d, hMem, hOther⟩
  exact ⟨d, List.mem_cons_of_mem c hMem, hOther⟩

theorem hasInk_integerChars (n : Int) :
    HasInk (integerChars n) := by
  unfold integerChars
  split
  · exact (hasInk_decimal _).cons '-'
  · exact hasInk_decimal _

theorem hasInk_withPoint
    (whole : Int)
    (ds : List Char) :
    HasInk (withPoint whole ds) := by
  refine ⟨'.', ?_, by decide⟩
  unfold withPoint
  split
  · simp
  split
  · simp
  · simp

theorem hasInk_magnitudeChars
    (format : RealFormat)
    (significand : Nat)
    (exponent : Int) :
    HasInk (magnitudeChars format significand exponent) := by
  unfold magnitudeChars
  split
  · exact ⟨'0', List.mem_cons_self, by decide⟩
  · simp only
    split
    · exact hasInk_withPoint _ _
    · refine ⟨'e', ?_, by decide⟩
      simp [scientific]

theorem HasInk.withSign
    {cs : List Char}
    (hInk : HasInk cs)
    (negative : Bool) :
    HasInk (withSign negative cs) := by
  cases negative with
  | false => exact hInk
  | true => exact hInk.cons '-'

theorem hasInk_realText (x : Binary64) :
    HasInk (realText x).toList := by
  cases x with
  | nan => exact ⟨'n', by decide, by decide⟩
  | infinite s =>
      rw [realText, String.toList_ofList]
      refine HasInk.withSign ?_ s
      exact ⟨'i', List.mem_cons_self, by decide⟩
  | finite s m e =>
      rw [realText, String.toList_ofList]
      exact (hasInk_magnitudeChars _ m e).withSign s

/- Every value but a text is shown with some ink. -/
theorem Json.Value.hasInk_shown
    {v : Json.Value}
    (hOther : ∀ s, v ≠ .text s) :
    HasInk v.shown.toList := by
  cases v with
  | null => exact ⟨'N', by decide, by decide⟩
  | bool b =>
      cases b
      · exact ⟨'F', by decide, by decide⟩
      · exact ⟨'T', by decide, by decide⟩
  | integer n =>
      rw [shown, integerText, String.toList_ofList]
      exact hasInk_integerChars n
  | real x => exact hasInk_realText x
  | text s => exact absurd rfl (hOther s)
  | array items =>
      refine ⟨'[', ?_, by decide⟩
      simp [shown]
  | object fields =>
      refine ⟨'\x7b', ?_, by decide⟩
      simp [shown]

theorem Json.Value.display_of_other
    {v : Json.Value}
    (hOther : ∀ s, v ≠ .text s) :
    v.display = v.shown := by
  cases v with
  | text s => exact absurd rfl (hOther s)
  | _ => rfl

/- Only a text can come to nothing in the end. -/
theorem Json.Value.dropLineFeeds_display_eq_empty_iff
    {v : Json.Value} :
    dropLineFeeds v.display = "" ↔
      ∃ s, v = .text s ∧ ∀ c ∈ s.toList, c = '\n' := by
  rw [dropLineFeeds_eq_empty_iff]
  constructor
  · intro hFeeds
    by_cases hText : ∃ s, v = .text s
    · rcases hText with ⟨s, rfl⟩
      exact ⟨s, rfl, hFeeds⟩
    · have hOther : ∀ s, v ≠ .text s := not_exists.mp hText
      rcases hasInk_shown hOther with ⟨c, hMem, hInk⟩
      rw [display_of_other hOther] at hFeeds
      exact absurd (hFeeds c hMem) hInk
  · rintro ⟨s, rfl, hFeeds⟩
    exact hFeeds

------------------------------------------------------------
-- Messages
------------------------------------------------------------

/- A field that is absent, or whose value counts as that. -/
def CountsAsAbsent (v : Option Json.Value) : Prop :=
  ∀ x, v = some x → x.isTruthy = false

theorem truthy?_eq_some_iff
    {v : Option Json.Value}
    {x : Json.Value} :
    truthy? v = some x ↔ v = some x ∧ x.isTruthy = true := by
  cases v with
  | none => simp [truthy?]
  | some y =>
      simp only [truthy?, Option.some.injEq,
        Option.ite_none_right_eq_some]
      constructor
      · rintro ⟨hTruthy, rfl⟩
        exact ⟨rfl, hTruthy⟩
      · rintro ⟨rfl, hTruthy⟩
        exact ⟨hTruthy, rfl⟩

theorem truthy?_eq_none_iff
    {v : Option Json.Value} :
    truthy? v = none ↔ CountsAsAbsent v := by
  simp only [Option.eq_none_iff_forall_ne_some,
    CountsAsAbsent, ne_eq, truthy?_eq_some_iff, not_and,
    Bool.not_eq_true]

namespace Record

variable {fields : List (String × Json.Value)}
variable {v w : Json.Value}

/-
  The value that gives an error record its message: that of
  `error`, or else that of `message` in `errorDetail`, unless
  it counts as absent.
-/
inductive Words
    (fields : List (String × Json.Value)) :
    Json.Value → Prop
  | error (v : Json.Value) :
      Json.Fields.get? "error" fields = some v →
      v.isTruthy = true →
        Words fields v
  | detail
      (inner : List (String × Json.Value))
      (v : Json.Value) :
      CountsAsAbsent (Json.Fields.get? "error" fields) →
      Json.Fields.get? "errorDetail" fields =
        some (.object inner) →
      Json.Fields.get? "message" inner = some v →
      v.isTruthy = true →
        Words fields v

theorem detailField?_eq_some_iff
    {name : String} :
    detailField? name fields = some v ↔
      ∃ inner,
        Json.Fields.get? "errorDetail" fields =
            some (.object inner) ∧
          Json.Fields.get? name inner = some v := by
  unfold detailField?
  split
  · rename_i inner hDetail
    simp [hDetail]
  · rename_i hOther
    simp only [reduceCtorEq, false_iff]
    rintro ⟨inner, hDetail, _⟩
    exact hOther inner hDetail

theorem words_iff :
    Words fields v ↔
      (truthy? (Json.Fields.get? "error" fields)).or
        (truthy? (detailField? "message" fields)) =
          some v := by
  rw [Option.or_eq_some_iff, truthy?_eq_none_iff,
    truthy?_eq_some_iff, truthy?_eq_some_iff,
    detailField?_eq_some_iff]
  constructor
  · rintro (⟨_, hError, hTruthy⟩ |
      ⟨inner, _, hAbsent, hDetail, hMessage, hTruthy⟩)
    · exact Or.inl ⟨hError, hTruthy⟩
    · exact Or.inr
        ⟨hAbsent, ⟨inner, hDetail, hMessage⟩, hTruthy⟩
  · rintro (⟨hError, hTruthy⟩ |
      ⟨hAbsent, ⟨inner, hDetail, hMessage⟩, hTruthy⟩)
    · exact .error v hError hTruthy
    · exact .detail inner v hAbsent hDetail hMessage hTruthy

theorem Words.unique
    (hWords : Words fields v)
    (hOther : Words fields w) :
    v = w := by
  rw [words_iff] at hWords hOther
  exact Option.some.inj (hWords.symm.trans hOther)

theorem errorMessageOf_eq
    (fields : List (String × Json.Value)) :
    errorMessageOf fields =
      match
        (truthy? (Json.Fields.get? "error" fields)).or
          (truthy? (detailField? "message" fields)) with
      | some v => v.display
      | none => unexplained := by
  unfold errorMessageOf
  cases truthy? (Json.Fields.get? "error" fields) <;> rfl

theorem errorMessageOf_of_words
    (hWords : Words fields v) :
    errorMessageOf fields = v.display := by
  rw [errorMessageOf_eq, words_iff.mp hWords]

theorem errorMessageOf_of_wordless
    (hWordless : ∀ v, ¬ Words fields v) :
    errorMessageOf fields = unexplained := by
  simp only [words_iff,
    ← Option.eq_none_iff_forall_ne_some] at hWordless
  rw [errorMessageOf_eq, hWordless]

/- The words of a record are a text of line feeds only. -/
def IsHollow (fields : List (String × Json.Value)) : Prop :=
  ∃ s, Words fields (.text s) ∧ ∀ c ∈ s.toList, c = '\n'

theorem isHollow_iff_of_words
    (hWords : Words fields v) :
    dropLineFeeds v.display = "" ↔ IsHollow fields := by
  rw [Json.Value.dropLineFeeds_display_eq_empty_iff]
  constructor
  · rintro ⟨s, rfl, hFeeds⟩
    exact ⟨s, hWords, hFeeds⟩
  · rintro ⟨s, hText, hFeeds⟩
    exact ⟨s, hWords.unique hText, hFeeds⟩

/- A message is empty exactly if its words are hollow. -/
theorem message_eq_empty_iff :
    dropLineFeeds (errorMessageOf fields) = "" ↔
      IsHollow fields := by
  by_cases hSome : ∃ v, Words fields v
  · rcases hSome with ⟨v, hWords⟩
    rw [errorMessageOf_of_words hWords,
      isHollow_iff_of_words hWords]
  · have hWordless : ∀ v, ¬ Words fields v :=
      not_exists.mp hSome
    rw [errorMessageOf_of_wordless hWordless]
    apply iff_of_false
    · decide
    · rintro ⟨s, hText, _⟩
      exact hWordless _ hText

end Record

------------------------------------------------------------
-- Error records of streams
------------------------------------------------------------

/-
  The reading of lines comes to an error record with given
  fields, which is the first line that says so.
-/
inductive ComesTo
    (fields : List (String × Json.Value)) :
    List String → Prop
  | here (line : String) (rest : List String) :
      line.toList.all isBlank = false →
      Json.read line.toList = .ok (.object fields) →
      (Json.Fields.has "error" fields
        || Json.Fields.has "errorDetail" fields) = true →
        ComesTo fields (line :: rest)
  | later (line : String) (rest : List String) :
      ReadsOn line → ComesTo fields rest →
        ComesTo fields (line :: rest)

/- The error that a record with given fields is. -/
def Record.problem
    (fields : List (String × Json.Value)) : BuildError :=
  .streamError (dropLineFeeds (errorMessageOf fields))
    (errorCodeOf fields)

/- Only a line that is an object is a record. -/
theorem readLine_eq_record
    {line : String}
    {r : Record}
    (hLine : readLine line = .record r) :
    ∃ fields,
      line.toList.all isBlank = false ∧
        Json.read line.toList = .ok (.object fields) ∧
        Record.ofFields fields = r := by
  simp only [readLine] at hLine
  split at hLine
  · cases hLine
  · rename_i hBlank
    split at hLine
    · rename_i fields hRead
      cases hLine
      exact ⟨fields, by simpa using hBlank, hRead, rfl⟩
    · cases hLine
    · cases hLine
    · cases hLine

/- Only fields that say so make an error record. -/
theorem ofFields_eq_error
    {fields : List (String × Json.Value)}
    {message : String}
    {code : Option ErrorCode}
    (hError : Record.ofFields fields = .error message code) :
    (Json.Fields.has "error" fields
      || Json.Fields.has "errorDetail" fields) = true ∧
      Record.problem fields = .streamError message code := by
  unfold Record.ofFields at hError
  split at hError
  · rename_i hSays
    cases hError
    exact ⟨hSays, rfl⟩
  · split at hError <;> cases hError

/- The error that lines hold is that of such a record. -/
theorem HoldsError.exists_comesTo
    {e : BuildError}
    {ls : List String}
    (hHolds : HoldsError e ls) :
    ∃ fields, ComesTo fields ls ∧
      Record.problem fields = e := by
  induction hHolds with
  | here message code line rest hLine =>
      rcases readLine_eq_record hLine with
        ⟨fields, hBlank, hRead, hFields⟩
      rcases ofFields_eq_error hFields with ⟨hSays, hProblem⟩
      exact ⟨fields, .here line rest hBlank hRead hSays,
        hProblem⟩
  | later e line rest hOn _ ih =>
      rcases ih with ⟨fields, hComes, hProblem⟩
      exact ⟨fields, .later line rest hOn hComes, hProblem⟩

------------------------------------------------------------
-- Reports
------------------------------------------------------------

/- A report that says nothing is given the error's message. -/
theorem Demuxed.parse_of_silent
    {d : Demuxed}
    {e : BuildError}
    {p : Parsed}
    (hProblem : d.problem = some e)
    (hText : parseText d.text = .ok p)
    (hMessage : p.report.errorMessage = "")
    (hImage : p.report.finalImageId = "") :
    d.parse =
      .ok ⟨p.report.setError e.message, some e⟩ := by
  simp only [Demuxed.parse, hText, hProblem,
    Report.withRecord, hMessage, hImage, decide_true,
    Bool.and_self, if_true]

/-
  An error that ends a stream has the words of its record
  without the line feeds at their end, or if it has none, a
  message that says so. It is empty exactly if the words are
  hollow. A report that says nothing else tells it, and so
  does that of any build to which the body is the reply.
-/
theorem stream_error_told_iff
    {body : Body}
    {d : Demuxed}
    {e : BuildError}
    (hDemux : body.demux = .ok d)
    (hProblem : d.problem = some e) :
    (∃ fields, ComesTo fields body.delivery.lines ∧
      (∀ v, Record.Words fields v →
        e.message = dropLineFeeds v.display) ∧
      ((∀ v, ¬ Record.Words fields v) →
        e.message = unexplained) ∧
      (e.message ≠ "" ↔ ¬ Record.IsHollow fields)) ∧
    ∀ p, parseText d.text = .ok p →
      p.report.errorMessage = "" →
        p.report.finalImageId = "" →
          (∃ q, parseBody body = .ok q ∧
            q.report.errorMessage = e.message) ∧
          ∀ (σ : Type) (b : Builder σ) o s staged c,
            b.backend.format = .records →
              b.Stages o s c staged →
                (b.reply o c staged).1 = .ok body →
                  ∃ r report, (b.build o s).1 = .ok r ∧
                    r.report = some report ∧
                    report.errorMessage = e.message := by
  constructor
  · rcases (demuxLines_problem hDemux hProblem).exists_comesTo
      with ⟨fields, hComes, rfl⟩
    refine ⟨fields, hComes, ?_, ?_, ?_⟩
    · intro v hWords
      exact congrArg dropLineFeeds
        (Record.errorMessageOf_of_words hWords)
    · intro hWordless
      have hMessage :=
        Record.errorMessageOf_of_wordless hWordless
      exact (congrArg dropLineFeeds hMessage).trans rfl
    · exact not_congr Record.message_eq_empty_iff
  · intro p hText hMessage hImage
    have hParse :=
      Demuxed.parse_of_silent hProblem hText hMessage hImage
    constructor
    · refine
        ⟨⟨p.report.setError e.message, some e⟩, ?_, rfl⟩
      simp only [parseBody, hDemux, hParse]
    · intro σ b o s staged c hFormat hStages hReply
      rcases Course.result_reflects o hDemux hParse with
        ⟨r, hResult, hReflects⟩
      refine ⟨r, _, ?_, hReflects.report, rfl⟩
      rw [hStages.build, hReply, hFormat, hResult]

/- Lines of a stream that an error with a message ends. -/
def fullDiskLines : List String :=
  [fragmentLine "Step 1 : FROM a\n",
    fieldLine "error" "disk full\n"]

theorem demux_fullDiskLines :
    (Body.ofLines fullDiskLines).demux =
      .ok
        ⟨"Step 1 : FROM a\n",
          some (.streamError "disk full" none), 2⟩ := by
  have hFirst :=
    readLine_fragment
      (spellsField_fieldLine "stream" "Step 1 : FROM a\n")
  have hSecond :
      readLine (fieldLine "error" "disk full\n") =
        .record (.error "disk full" none) :=
    readLine_of_spellsField
      (spellsField_fieldLine "error" "disk full\n")
  unfold Body.demux
  rw [Body.delivery_ofLines (by decide)]
  simp only [fullDiskLines, fragmentLine, demuxLines,
    hFirst, hSecond]
  rfl

theorem stream_error_told_iff_sample :
    (∃ q, parseBody (.ofLines fullDiskLines) = .ok q ∧
      q.report.errorMessage = "disk full") ∧
    ∃ r report,
      ((Builder.bare (.giving .records
        (.ofLines fullDiskLines))).build
          .sample .blank).1 = .ok r ∧
      r.report = some report ∧
      report.errorMessage = "disk full" := by
  rcases
    (stream_error_told_iff demux_fullDiskLines rfl).2
      ⟨⟨"", "", [⟨1, "FROM a", false, ""⟩]⟩,
        some .incompleteOutput⟩
      rfl rfl rfl with
    ⟨hReport, hBuild⟩
  refine ⟨hReport, ?_⟩
  exact hBuild Disk
    (.bare (.giving .records (.ofLines fullDiskLines)))
    .sample .blank .blank _ rfl
    (Builder.bare_stages _ _ .blank rfl) rfl

/- A stream whose error has nothing but a line feed to say. -/
def hollowBody : Body :=
  .ofLines [fieldLine "error" "\n"]

theorem demux_hollowBody :
    hollowBody.demux =
      .ok ⟨"", some (.streamError "" none), 1⟩ := by
  have hLine :
      readLine (fieldLine "error" "\n") =
        .record (.error "" none) :=
    readLine_of_spellsField
      (spellsField_fieldLine "error" "\n")
  unfold Body.demux hollowBody
  rw [Body.delivery_ofLines (by decide)]
  simp only [demuxLines, hLine]

/- Its message is empty and no report has any other. -/
theorem not_stream_error_told :
    hollowBody.demux =
        .ok ⟨"", some (.streamError "" none), 1⟩ ∧
      parseText "" =
        .ok ⟨⟨"", "", []⟩, some .incompleteOutput⟩ ∧
      parseBody hollowBody =
        .ok
          ⟨⟨"", "", []⟩, some (.streamError "" none)⟩ ∧
      ∃ r,
        ((Builder.bare (.giving .records hollowBody)).build
          .sample .blank).1 = .ok r ∧
        r.report = some ⟨"", "", []⟩ := by
  have hParse :
      Demuxed.parse ⟨"", some (.streamError "" none), 1⟩ =
        .ok ⟨⟨"", "", []⟩, some (.streamError "" none)⟩ :=
    rfl
  refine ⟨demux_hollowBody, rfl, ?_, ?_⟩
  · simp only [parseBody, demux_hollowBody, hParse]
  · rcases Course.result_reflects .sample demux_hollowBody
        hParse with
      ⟨r, hResult, hReflects⟩
    refine ⟨r, ?_, hReflects.report⟩
    rw [Builder.bare_build .records hollowBody .blank rfl,
      hResult]

end ContainerBuild
