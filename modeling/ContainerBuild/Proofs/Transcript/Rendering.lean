import ContainerBuild.Proofs.Number.Decimal
import ContainerBuild.Proofs.Transcript.Reading

/-
  This file says how a build prints the steps it goes
  through, and shows that parsing recovers them: whatever
  stands between the steps, in whatever order the remarks
  about a step come, and however the lines are ended.

  Key definitions include:
    * `Transcript.Prints`
    * `Transcript.FitsLine`
    * `Transcript.StepText`
    * `Transcript.IsNoise`
    * `Transcript.Renders`

  Main statements:
    * `Transcript.Prints.lines`
    * `Transcript.StepText.stepOfLine_announcement`
    * `Transcript.StepText.withRemarks_of_perm`
    * `Transcript.reading_of_renders`
    * `rendered_steps_recovered`
-/

namespace ContainerBuild

open Text

namespace Transcript

------------------------------------------------------------
-- Printed Lines
------------------------------------------------------------

/-
  The text that lines are printed as: every line but the
  last ends in a line feed, or in a carriage return and a
  line feed.
-/
inductive Prints : List (List Char) → List Char → Prop
  | last (line : List Char) : Prints [line] line
  | feed
      {line text : List Char}
      {ls : List (List Char)} :
      Prints ls text →
        Prints (line :: ls) (line ++ '\n' :: text)
  | returnFeed
      {line text : List Char}
      {ls : List (List Char)} :
      Prints ls text →
        Prints (line :: ls) (line ++ '\r' :: '\n' :: text)

theorem dropReturns_concat (cs : List Char) :
    dropReturns (cs ++ ['\r']) = dropReturns cs := by
  simp [dropReturns, dropEnd]

theorem dropReturns_of_getLast?
    {cs : List Char}
    (hLast : cs.getLast? ≠ some '\r') :
    dropReturns cs = cs := by
  rcases List.eq_nil_or_concat cs with
    rfl | ⟨front, c, rfl⟩
  · rfl
  · have hOther : c ≠ '\r' := by simpa using hLast
    simp [dropReturns, dropEnd, hOther]

theorem dropReturns_isPrefix (cs : List Char) :
    dropReturns cs <+: cs := by
  rw [dropReturns, dropEnd, ← List.reverse_suffix,
    List.reverse_reverse]
  exact List.dropWhile_suffix _

/- However they are ended, the lines are found again. -/
theorem Prints.lines
    {ls : List (List Char)}
    {text : List Char}
    (hPrints : Prints ls text)
    (hLines : ∀ line ∈ ls, '\n' ∉ line) :
    Transcript.lines text = ls.map dropReturns := by
  induction hPrints with
  | last line =>
      have hOpen : '\n' ∉ line := hLines line (by simp)
      simp [Transcript.lines, splitAll_of_not_mem hOpen]
  | @feed line text ls hRest ih =>
      have hOpen : '\n' ∉ line := hLines line (by simp)
      have hTail : Transcript.lines text =
          ls.map dropReturns :=
        ih (fun l hMem => hLines l (by simp [hMem]))
      rw [Transcript.lines, splitAll_append_cons hOpen,
        List.map_cons, ← Transcript.lines, hTail,
        List.map_cons]
  | @returnFeed line text ls hRest ih =>
      have hOpen : '\n' ∉ line ++ ['\r'] := by
        simpa using hLines line (by simp)
      have hTail : Transcript.lines text =
          ls.map dropReturns :=
        ih (fun l hMem => hLines l (by simp [hMem]))
      have hText :
          line ++ '\r' :: '\n' :: text =
            (line ++ ['\r']) ++ '\n' :: text := by
        simp
      rw [hText, Transcript.lines,
        splitAll_append_cons hOpen, List.map_cons,
        dropReturns_concat, ← Transcript.lines, hTail,
        List.map_cons]

/-
  A text that can stand at the end of a line: it has no line
  feed, and no carriage return that would count as part of
  the line's end.
-/
structure FitsLine (cs : List Char) : Prop where
  inside : '\n' ∉ cs
  ending : cs.getLast? ≠ some '\r'

instance (cs : List Char) : Decidable (FitsLine cs) :=
  decidable_of_iff
    ('\n' ∉ cs ∧ cs.getLast? ≠ some '\r')
    ⟨fun h => ⟨h.1, h.2⟩, fun h => ⟨h.inside, h.ending⟩⟩

namespace FitsLine

theorem append
    {xs ys : List Char}
    (hFirst : FitsLine xs)
    (hSecond : FitsLine ys) :
    FitsLine (xs ++ ys) where
  inside := by
    simpa using ⟨hFirst.inside, hSecond.inside⟩
  ending := by
    rw [List.getLast?_append]
    cases hLast : ys.getLast? with
    | none => simpa using hFirst.ending
    | some c =>
        have hOther := hSecond.ending
        rw [hLast] at hOther
        simpa using hOther

theorem of_forall
    {cs : List Char}
    (hOther : ∀ c ∈ cs, c ≠ '\n' ∧ c ≠ '\r') :
    FitsLine cs where
  inside := fun hMem => (hOther _ hMem).1 rfl
  ending := fun hLast =>
    (hOther _ (List.mem_of_getLast? hLast)).2 rfl

theorem dropReturns
    {cs : List Char}
    (hFits : FitsLine cs) :
    Transcript.dropReturns cs = cs :=
  dropReturns_of_getLast? hFits.ending

end FitsLine

------------------------------------------------------------
-- Digits
------------------------------------------------------------

theorem isBlank_of_isAsciiDigit
    {c : Char}
    (hDigit : isAsciiDigit c = true) :
    isBlank c = false := by
  have hRange := toNat_of_isAsciiDigit hDigit
  simp only [isBlank, isWhiteSpace, Bool.or_eq_false_iff,
    Bool.and_eq_false_iff, decide_eq_false_iff_not,
    beq_eq_false_iff_ne]
  omega

/- A character that is no digit is not in a numeral. -/
theorem not_mem_decimal
    {c : Char}
    (hOther : isAsciiDigit c = false)
    (n : Nat) :
    c ∉ decimal n := by
  intro hMem
  rw [isAsciiDigit_of_mem_decimal n c hMem] at hOther
  exact absurd hOther (by simp)

theorem fitsLine_decimal (n : Nat) :
    FitsLine (decimal n) := by
  refine .of_forall fun c hMem => ⟨?_, ?_⟩
  · rintro rfl
    exact not_mem_decimal (by decide) n hMem
  · rintro rfl
    exact not_mem_decimal (by decide) n hMem

/- A numeral is read up to a character that is no digit. -/
theorem numberDigits_decimal
    (n : Nat)
    {rest : List Char}
    (hEnds : ∀ c ∈ rest.head?, isDigit c = false) :
    numberDigits (decimal n ++ rest) = decimal n := by
  have hDigit : ∀ c ∈ decimal n, isDigit c = true :=
    fun c hMem => isDigit_of_isAsciiDigit c
      (isAsciiDigit_of_mem_decimal n c hMem)
  have hStart :
      dropBlankStart (decimal n ++ rest) =
        decimal n ++ rest := by
    rcases List.exists_cons_of_ne_nil
        (decimal_ne_nil n) with ⟨c, cs, hCons⟩
    have hSolid : isBlank c = false :=
      isBlank_of_isAsciiDigit
        (isAsciiDigit_of_mem_decimal n c (by simp [hCons]))
    rw [hCons, List.cons_append, dropBlankStart, dropStart,
      List.dropWhile_cons_of_neg (by simp [hSolid])]
  have hTail : rest.takeWhile isDigit = [] := by
    cases rest with
    | nil => rfl
    | cons c cs => simp [hEnds c rfl]
  rw [numberDigits, hStart,
    List.takeWhile_append_of_pos hDigit, hTail,
    List.append_nil]

/- The separator is found behind what it does not begin in. -/
theorem splitText?_append
    {α : Type}
    [DecidableEq α]
    {x : α}
    {sep before : List α}
    (hOther : x ∉ before)
    (rest : List α) :
    splitText? (x :: sep) (before ++ (x :: sep ++ rest)) =
      some (before, rest) := by
  induction before with
  | nil =>
      have hFound :
          after? (x :: sep) (x :: sep ++ rest) = some rest :=
        after?_eq_some_iff.mpr rfl
      rw [List.nil_append, splitText?.eq_def, hFound]
  | cons y before ih =>
      have hHead : x ≠ y := by
        rintro rfl
        exact hOther (by simp)
      have hTail : x ∉ before :=
        fun hMem => hOther (by simp [hMem])
      simp only [List.cons_append, splitText?, after?,
        if_neg hHead]
      rw [← List.cons_append, ih hTail]

------------------------------------------------------------
-- Printed Steps
------------------------------------------------------------

/-
  A step as a build prints it: its number, of how many steps
  it is one if that is printed, and its command; whether the
  cache was used, other remarks about it, and the image that
  it produced, if that is printed.
-/
structure StepText where
  number : Nat
  total : Option Nat
  command : List Char
  cached : Bool
  annotations : List (List Char)
  imageId : Option (List Char)
  short : (decimal number).length ≤ maxDigits
  commandFits : FitsLine command
  annotationsFit :
    ∀ remark ∈ annotations,
      FitsLine remark ∧ remark.any isBlank = true ∧
        startsWith cacheRemark remark = false
  imageFits : ∀ id ∈ imageId, namesImage id = true

namespace StepText

variable (t : StepText)

/- What stands between the number and the separator. -/
def totalText : List Char :=
  match t.total with
  | none => []
  | some m => '/' :: decimal m

/- What the line of the step says behind the step mark. -/
def announcement : List Char :=
  decimal t.number ++
    (t.totalText ++ (separator ++ t.command))

/- The line that announces the step. -/
def heading : List Char :=
  stepMark ++ t.announcement

/- The remarks about the step, in no order. -/
def remarks : List (List Char) :=
  (if t.cached then [cacheRemark] else [])
    ++ (t.annotations ++ t.imageId.toList)

/- The step that is printed. -/
def step : Step :=
  ⟨t.number, String.ofList t.command, t.cached,
    String.ofList (t.imageId.getD [])⟩

theorem not_mem_totalText
    {c : Char}
    (hOther : isAsciiDigit c = false)
    (hSlash : c ≠ '/') :
    c ∉ t.totalText := by
  unfold totalText
  cases t.total with
  | none => simp
  | some m => simp [hSlash, not_mem_decimal hOther m]

theorem fitsLine_heading : FitsLine t.heading := by
  have hTotal : FitsLine t.totalText := by
    refine .of_forall fun c hMem => ⟨?_, ?_⟩
    · rintro rfl
      exact t.not_mem_totalText (by decide) (by decide) hMem
    · rintro rfl
      exact t.not_mem_totalText (by decide) (by decide) hMem
  have hMark : FitsLine stepMark := by decide
  have hSeparator : FitsLine separator := by decide
  exact hMark.append ((fitsLine_decimal t.number).append
    (hTotal.append (hSeparator.append t.commandFits)))

theorem numberDigits_announcement :
    numberDigits t.announcement = decimal t.number := by
  refine numberDigits_decimal t.number ?_
  have hSlash : isDigit '/' = false := by decide
  have hSpace : isDigit ' ' = false := by decide
  unfold totalText
  cases t.total with
  | none => simp [separator, hSpace]
  | some m => simp [hSlash]

/- The first separator is the one before the command. -/
theorem commandOf_announcement :
    commandOf t.announcement = t.command := by
  have hOther : ' ' ∉ decimal t.number ++ t.totalText := by
    simpa using ⟨not_mem_decimal (by decide) t.number,
      t.not_mem_totalText (by decide) (by decide)⟩
  have hCut :
      splitText? separator t.announcement =
        some (decimal t.number ++ t.totalText,
          t.command) := by
    rw [announcement, ← List.append_assoc]
    exact splitText?_append hOther t.command
  rw [commandOf, hCut]

/- The line of a step is read as the step without remarks. -/
theorem stepOfLine_announcement :
    stepOfLine t.announcement =
      .ok (Step.new t.number
        (String.ofList t.command)) := by
  simp only [stepOfLine, t.numberDigits_announcement,
    t.commandOf_announcement, ofDigits_decimal,
    if_neg (Nat.not_lt.mpr t.short)]

/- Only the image is a name among the remarks. -/
theorem filter_remarks :
    t.remarks.filter namesImage = t.imageId.toList := by
  have hCache :
      (if t.cached then [cacheRemark] else []).filter
        namesImage = [] := by
    have hNot : namesImage cacheRemark = false := by decide
    split <;> simp [hNot]
  have hOthers : t.annotations.filter namesImage = [] := by
    refine List.filter_eq_nil_iff.mpr fun remark hMem => ?_
    simp [namesImage, (t.annotationsFit remark hMem).2.1]
  have hImage :
      t.imageId.toList.filter namesImage =
        t.imageId.toList := by
    refine List.filter_eq_self.mpr fun id hMem => ?_
    exact t.imageFits id (by simpa using hMem)
  rw [remarks, List.filter_append, List.filter_append,
    hCache, hOthers, hImage]
  rfl

theorem any_remarks :
    t.remarks.any (startsWith cacheRemark) = t.cached := by
  have hOthers :
      t.annotations.any (startsWith cacheRemark) =
        false := by
    refine List.any_eq_false.mpr fun remark hMem => ?_
    simp [(t.annotationsFit remark hMem).2.2]
  have hImage :
      t.imageId.toList.any (startsWith cacheRemark) =
        false := by
    refine List.any_eq_false.mpr fun id hMem hCache => ?_
    have hName := t.imageFits id (by simpa using hMem)
    rw [namesImage_of_cacheRemark hCache] at hName
    exact absurd hName (by simp)
  have hCache :
      startsWith cacheRemark cacheRemark = true := by
    decide
  rw [remarks, List.any_append, List.any_append, hOthers,
    hImage]
  cases t.cached <;> simp [hCache]

/- The remarks make up the step, in whatever order. -/
theorem withRemarks_of_perm
    {rs : List (List Char)}
    (hPerm : rs.Perm t.remarks) :
    withRemarks rs
        (Step.new t.number (String.ofList t.command)) =
      t.step := by
  have hUsed :
      rs.any (startsWith cacheRemark) = t.cached := by
    rw [← t.any_remarks, Bool.eq_iff_iff]
    simp only [List.any_eq_true, hPerm.mem_iff]
  have hNames :
      rs.filter namesImage = t.imageId.toList := by
    have hSame := hPerm.filter namesImage
    rw [t.filter_remarks] at hSame
    cases hImage : t.imageId with
    | none =>
        rw [hImage] at hSame
        exact hSame.eq_nil
    | some id =>
        rw [hImage] at hSame
        exact List.perm_singleton.mp hSame
  simp only [withRemarks, hUsed, hNames, Step.new, step,
    Bool.false_or, Step.mk.injEq, true_and]
  cases t.imageId <;> rfl

theorem fitsLine_of_mem_remarks
    {remark : List Char}
    (hMem : remark ∈ t.remarks) :
    FitsLine remark := by
  rcases List.mem_append.mp hMem with hCache | hMem
  · have hSame : remark = cacheRemark := by
      cases hUsed : t.cached <;> simp_all
    rw [hSame]
    decide
  · rcases List.mem_append.mp hMem with hOther | hImage
    · exact (t.annotationsFit remark hOther).1
    · have hName := t.imageFits remark (by simpa using hImage)
      have hSolid : ∀ c ∈ remark, isBlank c = false := by
        simp only [namesImage, Bool.and_eq_true] at hName
        simpa using hName.2
      refine .of_forall fun c hIn => ⟨?_, ?_⟩
      · rintro rfl
        exact absurd (hSolid _ hIn) (by decide)
      · rintro rfl
        exact absurd (hSolid _ hIn) (by decide)

end StepText

------------------------------------------------------------
-- Printed Transcripts
------------------------------------------------------------

/- A line that is of no interest. -/
structure IsNoise (line : List Char) : Prop where
  inside : '\n' ∉ line
  plain : announces line = false
  goesOn : isEnd line = false
  other : isRemark line = false

/-
  The lines of a build that went through some steps and made
  an image: each step is announced, and the remarks about it
  follow in some order. Noise may stand before a step and
  before the end, and anything behind the end.
-/
inductive Renders (image : List Char) :
    List StepText → List (List Char) → Prop
  | built (after : List (List Char)) :
      FitsLine image →
      (∀ line ∈ after, '\n' ∉ line) →
        Renders image [] ((successMark ++ image) :: after)
  | noise
      {line : List Char}
      {ts : List StepText}
      {ls : List (List Char)} :
      IsNoise line →
      Renders image ts ls →
        Renders image ts (line :: ls)
  | step
      {t : StepText}
      {rs : List (List Char)}
      {ts : List StepText}
      {ls : List (List Char)} :
      rs.Perm t.remarks →
      Renders image ts ls →
        Renders image (t :: ts)
          (t.heading :: (rs.map (arrowMark ++ ·) ++ ls))

theorem startsWith_dropReturns
    {mark line : List Char}
    (hOther : startsWith mark line = false) :
    startsWith mark (dropReturns line) = false := by
  rw [Bool.eq_false_iff] at hOther ⊢
  intro hStarts
  exact hOther (startsWith_iff.mpr
    ((startsWith_iff.mp hStarts).trans
      (dropReturns_isPrefix line)))

/- So is its beginning, without the end of the line. -/
theorem IsNoise.dropReturns
    {line : List Char}
    (hNoise : IsNoise line) :
    IsNoise (Transcript.dropReturns line) where
  inside := fun hMem =>
    hNoise.inside ((dropReturns_isPrefix line).subset hMem)
  plain := startsWith_dropReturns hNoise.plain
  goesOn := by
    have hOn := hNoise.goesOn
    rw [isEnd, Bool.or_eq_false_iff] at hOn ⊢
    exact hOn.imp startsWith_dropReturns
      startsWith_dropReturns
  other := startsWith_dropReturns hNoise.other

/- A remark behind its mark is one. -/
theorem isRemark_append (remark : List Char) :
    isRemark (arrowMark ++ remark) = true :=
  startsWith_iff.mpr (List.prefix_append _ _)

theorem remarksFrom_append
    (rs ls : List (List Char)) :
    remarksFrom (rs.map (arrowMark ++ ·) ++ ls) 0 =
      rs ++ remarksFrom ls 0 := by
  have hAll : ∀ line ∈ rs.map (arrowMark ++ ·),
      isRemark line = true := by
    intro line hMem
    rcases List.mem_map.mp hMem with ⟨remark, _, rfl⟩
    exact isRemark_append remark
  have hDrop :
      (rs.map (arrowMark ++ ·)).map
        (List.drop arrowMark.length) = rs := by
    simp [List.map_map, Function.comp_def]
  simp only [remarksFrom, List.drop_zero]
  rw [List.takeWhile_append_of_pos hAll, List.map_append,
    hDrop]

/- No step is announced by a remark. -/
theorem reading_remarks
    (before : List Step)
    (rs ls : List (List Char)) :
    reading before (rs.map (arrowMark ++ ·) ++ ls) =
      reading before ls := by
  induction rs with
  | nil => rfl
  | cons remark rs ih =>
      rcases plain_of_isRemark (isRemark_append remark) with
        ⟨hPlain, hOn⟩
      rw [List.map_cons, List.cons_append,
        reading_cons hOn hPlain, ih]

/-
  A printed step and its remarks are read as the step, if no
  further remark follows them.
-/
theorem StepText.reading_heading
    (t : StepText)
    {rs ls : List (List Char)}
    (hPerm : rs.Perm t.remarks)
    (hNone : remarksFrom ls 0 = [])
    (before : List Step) :
    reading before
        (t.heading :: (rs.map (arrowMark ++ ·) ++ ls)) =
      reading (before ++ [t.step]) ls := by
  have hStep : announces t.heading = true :=
    startsWith_iff.mpr (List.prefix_append _ _)
  have hAnnouncement :
      t.heading.drop stepMark.length = t.announcement :=
    List.drop_left
  have hShort :
      isTooLong
        (t.heading :: (rs.map (arrowMark ++ ·) ++ ls)) 0 =
        false := by
    have hDigits := t.numberDigits_announcement
    simp only [isTooLong, announcementAt, List.getD_cons_zero,
      hAnnouncement, hDigits]
    simpa using t.short
  rw [reading_cons_step hStep, hShort, stepAt_zero,
    hAnnouncement, remarksFrom_append, hNone,
    List.append_nil, t.numberDigits_announcement,
    t.commandOf_announcement, ofDigits_decimal,
    t.withRemarks_of_perm hPerm, if_neg (by simp),
    reading_remarks]

section Rendered

variable {image : List Char}
variable {ts : List StepText}
variable {ls : List (List Char)}

theorem Renders.inside
    (hRenders : Renders image ts ls) :
    ∀ line ∈ ls, '\n' ∉ line := by
  induction hRenders with
  | built after hFits hAfter =>
      have hMark : FitsLine successMark := by decide
      intro line hMem
      rcases List.mem_cons.mp hMem with rfl | hMem
      · exact (hMark.append hFits).inside
      · exact hAfter line hMem
  | noise hNoise _ ih =>
      intro line hMem
      rcases List.mem_cons.mp hMem with rfl | hMem
      · exact hNoise.inside
      · exact ih line hMem
  | @step t rs ts ls hPerm _ ih =>
      have hMark : FitsLine arrowMark := by decide
      intro line hMem
      rcases List.mem_cons.mp hMem with rfl | hMem
      · exact t.fitsLine_heading.inside
      · rcases List.mem_append.mp hMem with hMem | hMem
        · rcases List.mem_map.mp hMem with
            ⟨remark, hIn, rfl⟩
          exact (hMark.append (t.fitsLine_of_mem_remarks
            (hPerm.mem_iff.mp hIn))).inside
        · exact ih line hMem

/-
  Without their ends the lines still print the same: steps
  and remarks stay as they are, and noise remains noise.
-/
theorem Renders.dropReturns
    (hRenders : Renders image ts ls) :
    Renders image ts (ls.map Transcript.dropReturns) := by
  induction hRenders with
  | built after hFits hAfter =>
      have hMark : FitsLine successMark := by decide
      rw [List.map_cons, (hMark.append hFits).dropReturns]
      refine .built _ hFits ?_
      intro line hMem hIn
      rcases List.mem_map.mp hMem with ⟨l, hL, rfl⟩
      exact hAfter l hL ((dropReturns_isPrefix l).subset hIn)
  | noise hNoise _ ih =>
      rw [List.map_cons]
      exact .noise hNoise.dropReturns ih
  | @step t rs ts ls hPerm _ ih =>
      have hMark : FitsLine arrowMark := by decide
      have hRemarks :
          (rs.map (arrowMark ++ ·)).map
              Transcript.dropReturns =
            rs.map (arrowMark ++ ·) := by
        rw [List.map_map]
        refine List.map_congr_left fun remark hMem => ?_
        exact (hMark.append (t.fitsLine_of_mem_remarks
          (hPerm.mem_iff.mp hMem))).dropReturns
      rw [List.map_cons, List.map_append, hRemarks,
        t.fitsLine_heading.dropReturns]
      exact .step hPerm ih

/- What is printed does not start with a remark. -/
theorem Renders.remarksFrom_zero
    (hRenders : Renders image ts ls) :
    remarksFrom ls 0 = [] := by
  have hNone : ∀ {line : List Char}
      (rest : List (List Char)),
      isRemark line = false →
        remarksFrom (line :: rest) 0 = [] := by
    intro line rest hOther
    simp [remarksFrom, hOther]
  cases hRenders with
  | built after hFits hAfter =>
      have hEnd :
          startsWith successMark (successMark ++ image) =
            true :=
        startsWith_iff.mpr (List.prefix_append _ _)
      exact hNone _ (startsWith_eq_false (by decide) hEnd)
  | noise hNoise _ => exact hNone _ hNoise.other
  | @step t rs ts ls hPerm _ =>
      have hStep : announces t.heading = true :=
        startsWith_iff.mpr (List.prefix_append _ _)
      exact hNone _ (startsWith_eq_false (by decide) hStep)

/-
  Printed lines are read as the steps that were printed, by
  induction on what is printed, from the first line on.
-/
theorem reading_of_renders
    (hRenders : Renders image ts ls)
    (before : List Step) :
    reading before ls =
      .ok
        ⟨⟨"", String.ofList image,
            before ++ ts.map StepText.step⟩, none⟩ := by
  induction hRenders generalizing before with
  | built after hFits hAfter =>
      have hEnd : isEnd (successMark ++ image) = true := by
        have hStarts :
            startsWith successMark (successMark ++ image) =
              true :=
          startsWith_iff.mpr (List.prefix_append _ _)
        simp [isEnd, hStarts]
      rw [reading_cons_end hEnd, closing_success,
        List.map_nil, List.append_nil]
  | noise hNoise _ ih =>
      rw [reading_cons hNoise.goesOn hNoise.plain, ih]
  | @step t rs ts ls hPerm hRest ih =>
      rw [t.reading_heading hPerm hRest.remarksFrom_zero, ih,
        List.map_cons, List.append_assoc,
        List.singleton_append]

end Rendered

end Transcript

open Transcript

/-
  Parsing recovers what was printed: all steps in order, each
  with its number, command, use of the cache and image, and
  the image that was made in the end.
-/
theorem rendered_steps_recovered
    {image : List Char}
    {ts : List StepText}
    {ls : List (List Char)}
    {text : String}
    (hRenders : Renders image ts ls)
    (hPrints : Prints ls text.toList) :
    parseText text =
      .ok
        ⟨⟨"", String.ofList image, ts.map StepText.step⟩,
          none⟩ := by
  have hParse :
      Transcript.parse text =
        reading [] (ls.map dropReturns) := by
    rw [← hPrints.lines hRenders.inside]
    exact scanLines_eq_reading ⟨[], none⟩ (linesOf text)
  rw [parseText, hParse,
    reading_of_renders hRenders.dropReturns [],
    List.nil_append]

/- A step from the cache, of a command with a separator. -/
def Transcript.cachedText : StepText where
  number := 7
  total := some 9
  command := "RUN a : b".toList
  cached := true
  annotations := ["Running in 3".toList]
  imageId := some "03dc".toList
  short :=
    Nat.le_trans
      (length_decimal_le (n := 7) (k := 0) (by decide))
      (by decide)
  commandFits := by decide
  annotationsFit := by decide
  imageFits := by decide

/- A step of the same number that has no command. -/
def Transcript.bareText : StepText where
  number := 7
  total := none
  command := []
  cached := false
  annotations := []
  imageId := none
  short :=
    Nat.le_trans
      (length_decimal_le (n := 7) (k := 0) (by decide))
      (by decide)
  commandFits := by decide
  annotationsFit := by simp
  imageFits := by simp

/- What is printed about both, with noise between them. -/
def Transcript.printedSample : String :=
  "Sending\nStep 7/9 : RUN a : b\r\n ---> 03dc\n"
    ++ " ---> Running in 3\r\n ---> Using cache\n\n"
    ++ "Step 7 : \r\nSuccessfully built 03dc\n"

theorem rendered_steps_recovered_sample :
    parseText Transcript.printedSample =
      .ok
        ⟨⟨"", "03dc",
          [⟨7, "RUN a : b", true, "03dc"⟩,
            ⟨7, "", false, ""⟩]⟩, none⟩ := by
  have hSending : IsNoise "Sending".toList :=
    ⟨by decide, by decide, by decide, by decide⟩
  have hEmpty : IsNoise [] :=
    ⟨by decide, by decide, by decide, by decide⟩
  have hBuilt :
      Renders "03dc".toList []
        [successMark ++ "03dc".toList, []] :=
    .built [[]] (by decide) (by simp)
  have hBare :
      Renders "03dc".toList [bareText]
        [bareText.heading, successMark ++ "03dc".toList,
          []] :=
    .step (.refl bareText.remarks) hBuilt
  have hRenders :=
    Renders.noise hSending
      (.step (List.reverse_perm cachedText.remarks)
        (.noise hEmpty hBare))
  have hSeven : decimal 7 = ['7'] := by
    rw [decimal]
    decide
  have hNine : decimal 9 = ['9'] := by
    rw [decimal]
    decide
  have hCached :
      cachedText.heading =
        "Step 7/9 : RUN a : b".toList := by
    simp only [StepText.heading, StepText.announcement,
      StepText.totalText, cachedText, hSeven, hNine]
    decide
  have hBareLine : bareText.heading = "Step 7 : ".toList := by
    simp only [StepText.heading, StepText.announcement,
      StepText.totalText, bareText, hSeven]
    decide
  rw [hCached, hBareLine] at hRenders
  have hText :
      Transcript.printedSample.toList =
        "Sending".toList ++ '\n' ::
          ("Step 7/9 : RUN a : b".toList ++ '\r' :: '\n' ::
            (" ---> 03dc".toList ++ '\n' ::
              (" ---> Running in 3".toList ++
                '\r' :: '\n' ::
                (" ---> Using cache".toList ++ '\n' ::
                  ([] ++ '\n' ::
                    ("Step 7 : ".toList ++ '\r' :: '\n' ::
                      ("Successfully built 03dc".toList ++
                        '\n' :: []))))))) := by
    decide +kernel
  refine rendered_steps_recovered hRenders ?_
  rw [hText]
  exact .feed (.returnFeed (.feed (.returnFeed (.feed
    (.feed (.returnFeed (.feed (.last []))))))))

end ContainerBuild
