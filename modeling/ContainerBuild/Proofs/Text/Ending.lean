import ContainerBuild.Text.Split

/-
  This file relates cutting at a separator to lists that end
  each of their pieces with it. Every list is a row of ended
  pieces and an open one after them, in one way only, and
  cutting finds just these pieces.

  Key definitions include:
    * `endEach`
    * `EndsIn`
    * `IsEndedPart`

  Main statements:
    * `splitAll_endEach`
    * `splitAll_joinWith`
    * `startsWith_iff`
    * `exists_endEach`
    * `length_splitAll`
    * `isEndedPart_iff`
-/

namespace ContainerBuild.Text

variable {α : Type}

------------------------------------------------------------
-- Ended Pieces
------------------------------------------------------------

/- Pieces, each with the end mark behind it. -/
def endEach
    (mark : α)
    (ps : List (List α)) : List α :=
  ps.flatMap (fun p => p ++ [mark])

@[simp] theorem endEach_nil (mark : α) :
    endEach mark [] = [] :=
  rfl

@[simp] theorem endEach_cons
    (mark : α)
    (p : List α)
    (ps : List (List α)) :
    endEach mark (p :: ps) =
      p ++ mark :: endEach mark ps := by
  simp [endEach]

theorem endEach_append
    (mark : α)
    (ps qs : List (List α)) :
    endEach mark (ps ++ qs) =
      endEach mark ps ++ endEach mark qs := by
  simp [endEach]

/- A list of elements that stops at an end mark. -/
def EndsIn
    (mark : α)
    (xs : List α) : Prop :=
  xs = [] ∨ xs.getLast? = some mark

theorem endsIn_endEach
    (mark : α)
    (ps : List (List α)) :
    EndsIn mark (endEach mark ps) := by
  rcases List.eq_nil_or_concat ps with rfl | ⟨qs, p, rfl⟩
  · exact Or.inl rfl
  · right
    rw [List.concat_eq_append, endEach_append]
    simp

------------------------------------------------------------
-- Joining
------------------------------------------------------------

/- What is no separator comes from one of the pieces. -/
theorem mem_joinWith_iff
    {sep : List α}
    {x : α}
    (hOther : x ∉ sep)
    {ps : List (List α)} :
    x ∈ joinWith sep ps ↔ ∃ p ∈ ps, x ∈ p := by
  induction ps with
  | nil => simp [joinWith]
  | cons p ps ih =>
      cases ps with
      | nil => simp [joinWith]
      | cons q qs =>
          rw [joinWith, List.mem_append, List.mem_append, ih]
          simp [hOther]

------------------------------------------------------------
-- Cutting
------------------------------------------------------------

section Cutting

variable [DecidableEq α]
variable {mark : α}

/- A list without the separator is one piece. -/
theorem splitAll_of_not_mem
    {xs : List α}
    (hOpen : mark ∉ xs) :
    splitAll mark xs = [xs] := by
  induction xs with
  | nil => rfl
  | cons x xs ih =>
      have hHead : x ≠ mark := by
        intro hEq
        exact hOpen (by simp [hEq])
      have hTail : mark ∉ xs := by
        intro hMem
        exact hOpen (by simp [hMem])
      simp [splitAll, hHead, ih hTail]

/- The piece before a separator comes first. -/
theorem splitAll_append_cons
    {p : List α}
    (hOpen : mark ∉ p)
    (xs : List α) :
    splitAll mark (p ++ mark :: xs) =
      p :: splitAll mark xs := by
  induction p with
  | nil => simp [splitAll]
  | cons x p ih =>
      have hHead : x ≠ mark := by
        intro hEq
        exact hOpen (by simp [hEq])
      have hTail : mark ∉ p := by
        intro hMem
        exact hOpen (by simp [hMem])
      simp [splitAll, hHead, ih hTail]

/- Cutting in two finds the first separator. -/
theorem eq_append_of_splitFirst?
    {xs before rest : List α}
    (hCut : splitFirst? mark xs = some (before, rest)) :
    mark ∉ before ∧ xs = before ++ mark :: rest := by
  induction xs generalizing before with
  | nil => exact absurd hCut (by simp [splitFirst?])
  | cons x xs ih =>
      by_cases hHead : x = mark
      · subst hHead
        simp only [splitFirst?, if_true] at hCut
        cases hCut
        exact ⟨by simp, rfl⟩
      · simp only [splitFirst?, if_neg hHead] at hCut
        cases hTail : splitFirst? mark xs with
        | none =>
            rw [hTail] at hCut
            exact absurd hCut (by simp)
        | some cut =>
            rw [hTail] at hCut
            cases hCut
            rcases ih hTail with ⟨hOpen, hSame⟩
            refine ⟨?_, by simp [hSame]⟩
            intro hMem
            rcases List.mem_cons.mp hMem with hEq | hMem
            · exact hHead hEq.symm
            · exact hOpen hMem

/- The first separator is found behind what has none. -/
theorem splitFirst?_append_cons
    {before : List α}
    (hOpen : mark ∉ before)
    (rest : List α) :
    splitFirst? mark (before ++ mark :: rest) =
      some (before, rest) := by
  induction before with
  | nil => simp [splitFirst?]
  | cons x before ih =>
      have hHead : x ≠ mark := by
        intro hEq
        exact hOpen (by simp [hEq])
      have hTail : mark ∉ before := by
        intro hMem
        exact hOpen (by simp [hMem])
      simp [splitFirst?, hHead, ih hTail]

theorem splitFirst?_eq_none_iff
    {xs : List α} :
    splitFirst? mark xs = none ↔ mark ∉ xs := by
  constructor
  · intro hNone hMem
    rcases List.append_of_mem hMem with ⟨front, rest, rfl⟩
    induction front with
    | nil => simp [splitFirst?] at hNone
    | cons x front ih =>
        simp only [List.cons_append, splitFirst?] at hNone
        split at hNone
        · exact absurd hNone (by simp)
        · split at hNone
          · rename_i hTail
            exact ih hTail (by simp)
          · exact absurd hNone (by simp)
  · intro hOpen
    cases hCut : splitFirst? mark xs with
    | none => rfl
    | some cut =>
        have hSame := (eq_append_of_splitFirst? hCut).2
        exact absurd (by rw [hSame]; simp) hOpen

/- The ended pieces are cut off one by one. -/
theorem splitAll_endEach
    {ps : List (List α)}
    (hEnded : ∀ p ∈ ps, mark ∉ p)
    (xs : List α) :
    splitAll mark (endEach mark ps ++ xs) =
      ps ++ splitAll mark xs := by
  induction ps with
  | nil => rfl
  | cons p ps ih =>
      have hHead : mark ∉ p :=
        hEnded p (by simp)
      have hTail : ∀ q ∈ ps, mark ∉ q := by
        intro q hMem
        exact hEnded q (by simp [hMem])
      simp only [endEach_cons, List.append_assoc,
        List.cons_append]
      rw [splitAll_append_cons hHead, ih hTail]

/- Cutting finds the ended pieces and the open one. -/
theorem splitAll_endEach_append
    {ps : List (List α)}
    (hEnded : ∀ p ∈ ps, mark ∉ p)
    {tail : List α}
    (hOpen : mark ∉ tail) :
    splitAll mark (endEach mark ps ++ tail) =
      ps ++ [tail] := by
  rw [splitAll_endEach hEnded, splitAll_of_not_mem hOpen]

/- There are as many end marks as ended pieces. -/
theorem count_endEach
    {ps : List (List α)}
    (hEnded : ∀ p ∈ ps, mark ∉ p) :
    (endEach mark ps).count mark = ps.length := by
  induction ps with
  | nil => rfl
  | cons p ps ih =>
      have hHead : p.count mark = 0 :=
        List.count_eq_zero.mpr (hEnded p (by simp))
      have hTail : ∀ q ∈ ps, mark ∉ q := by
        intro q hMem
        exact hEnded q (by simp [hMem])
      rw [endEach_cons, List.count_append, hHead,
        List.count_cons_self, ih hTail, List.length_cons,
        Nat.zero_add]

/- Cutting undoes joining, except that nothing is a piece. -/
theorem splitAll_joinWith
    {ps : List (List α)}
    (hSome : ps ≠ [])
    (hOpen : ∀ p ∈ ps, mark ∉ p) :
    splitAll mark (joinWith [mark] ps) = ps := by
  induction ps with
  | nil => exact absurd rfl hSome
  | cons p ps ih =>
      have hHead : mark ∉ p := hOpen p (by simp)
      cases ps with
      | nil => exact splitAll_of_not_mem hHead
      | cons q qs =>
          have hTail :
              splitAll mark (joinWith [mark] (q :: qs)) =
                q :: qs := by
            refine ih (by simp) ?_
            intro r hMem
            exact hOpen r (List.mem_cons_of_mem p hMem)
          simp only [joinWith, List.append_assoc,
            List.singleton_append]
          rw [splitAll_append_cons hHead, hTail]

/- What follows a beginning is the rest. -/
theorem after?_eq_some_iff
    {start xs rest : List α} :
    after? start xs = some rest ↔ xs = start ++ rest := by
  induction start generalizing xs with
  | nil => simp [after?]
  | cons s ss ih =>
      cases xs with
      | nil => simp [after?]
      | cons x xs =>
          by_cases hHead : s = x
          · simp [after?, hHead, ih]
          · simp [after?, hHead, Ne.symm hHead]

theorem startsWith_iff
    {start xs : List α} :
    startsWith start xs = true ↔ start <+: xs := by
  simp only [startsWith, Option.isSome_iff_exists,
    after?_eq_some_iff]
  exact exists_congr fun rest => eq_comm

/- Every list is a row of ended pieces and an open one. -/
theorem exists_endEach
    (mark : α)
    (xs : List α) :
    ∃ ps tail,
      (∀ p ∈ ps, mark ∉ p) ∧ mark ∉ tail ∧
        xs = endEach mark ps ++ tail := by
  induction xs with
  | nil => exact ⟨[], [], by simp, by simp, rfl⟩
  | cons x xs ih =>
      rcases ih with ⟨ps, tail, hEnded, hOpen, rfl⟩
      by_cases hMark : x = mark
      · refine ⟨[] :: ps, tail, ?_, hOpen, ?_⟩
        · intro p hMem
          rcases List.mem_cons.mp hMem with rfl | hMem
          · simp
          · exact hEnded p hMem
        · simp [hMark]
      · cases ps with
        | nil =>
            refine ⟨[], x :: tail, by simp, ?_, rfl⟩
            intro hMem
            rcases List.mem_cons.mp hMem with hEq | hMem
            · exact hMark hEq.symm
            · exact hOpen hMem
        | cons p ps =>
            refine ⟨(x :: p) :: ps, tail, ?_, hOpen, ?_⟩
            · intro q hMem hIn
              rcases List.mem_cons.mp hMem with rfl | hMem
              · rcases List.mem_cons.mp hIn with hEq | hIn
                · exact hMark hEq.symm
                · exact hEnded p (by simp) hIn
              · exact hEnded q (by simp [hMem]) hIn
            · simp

/- No piece contains the separator. -/
theorem not_mem_of_mem_splitAll
    {xs p : List α}
    (hMem : p ∈ splitAll mark xs) :
    mark ∉ p := by
  rcases exists_endEach mark xs with
    ⟨ps, tail, hEnded, hOpen, rfl⟩
  rw [splitAll_endEach_append hEnded hOpen] at hMem
  rcases List.mem_append.mp hMem with hMem | hMem
  · exact hEnded p hMem
  · rwa [List.mem_singleton.mp hMem]

/- There is one piece more than there are separators. -/
theorem length_splitAll
    (mark : α)
    (xs : List α) :
    (splitAll mark xs).length = xs.count mark + 1 := by
  rcases exists_endEach mark xs with
    ⟨ps, tail, hEnded, hOpen, rfl⟩
  rw [splitAll_endEach_append hEnded hOpen,
    List.length_append, List.count_append,
    count_endEach hEnded, List.count_eq_zero.mpr hOpen]
  rfl

/- Around a single separator there is none. -/
theorem cases_of_count_le_one
    {xs : List α}
    (hFew : xs.count mark ≤ 1) :
    mark ∉ xs ∨
      ∃ first second,
        mark ∉ first ∧ mark ∉ second ∧
          xs = first ++ mark :: second := by
  by_cases hMem : mark ∈ xs
  · rcases List.append_of_mem hMem with
      ⟨first, second, rfl⟩
    rw [List.count_append, List.count_cons_self] at hFew
    refine Or.inr ⟨first, second, ?_, ?_, rfl⟩
    · exact List.count_eq_zero.mp (by omega)
    · exact List.count_eq_zero.mp (by omega)
  · exact Or.inl hMem

end Cutting

------------------------------------------------------------
-- The Ended Part
------------------------------------------------------------

/-
  The longest part at the start of a list that stops at an
  end mark.
-/
structure IsEndedPart
    (mark : α)
    (part xs : List α) : Prop where
  isPrefix : part <+: xs
  endsIn : EndsIn mark part
  longest :
    ∀ other, other <+: xs → EndsIn mark other →
      other.length ≤ part.length

/-
  What reaches beyond the ended pieces stops within the open
  one, where there is no end mark.
-/
theorem eq_endEach_of_endsIn
    {mark : α}
    {ps : List (List α)}
    {tail part : List α}
    (hOpen : mark ∉ tail)
    (hPrefix : part <+: endEach mark ps ++ tail)
    (hEnds : EndsIn mark part)
    (hLong : (endEach mark ps).length ≤ part.length) :
    part = endEach mark ps := by
  have hWithin : endEach mark ps <+: part :=
    List.prefix_of_prefix_length_le
      (List.prefix_append _ _) hPrefix hLong
  rcases hWithin with ⟨more, rfl⟩
  have hMore : more <+: tail :=
    (List.prefix_append_right_inj _).mp hPrefix
  rcases List.eq_nil_or_concat more with
    rfl | ⟨front, x, rfl⟩
  · exact List.append_nil _
  · rw [List.concat_eq_append] at hMore hEnds
    have hMark : x = mark := by
      rcases hEnds with hNil | hLast
      · simp at hNil
      · simpa using hLast
    have hMem : mark ∈ tail :=
      hMore.subset (by simp [hMark])
    exact absurd hMem hOpen

/- What stops at an end mark consists of ended pieces. -/
theorem exists_endEach_of_endsIn
    [DecidableEq α]
    {mark : α}
    {xs : List α}
    (hEnds : EndsIn mark xs) :
    ∃ ps, (∀ p ∈ ps, mark ∉ p) ∧ xs = endEach mark ps := by
  rcases exists_endEach mark xs with
    ⟨ps, tail, hEnded, hOpen, rfl⟩
  refine ⟨ps, hEnded, ?_⟩
  exact eq_endEach_of_endsIn hOpen (List.prefix_refl _)
    hEnds (by simp)

/- The ended pieces make up the ended part. -/
theorem isEndedPart_iff
    {mark : α}
    {ps : List (List α)}
    {tail part : List α}
    (hOpen : mark ∉ tail) :
    IsEndedPart mark part (endEach mark ps ++ tail) ↔
      part = endEach mark ps := by
  constructor
  · intro hPart
    have hLong :
        (endEach mark ps).length ≤ part.length :=
      hPart.longest _ (List.prefix_append _ _)
        (endsIn_endEach mark ps)
    exact eq_endEach_of_endsIn hOpen hPart.isPrefix
      hPart.endsIn hLong
  · rintro rfl
    refine ⟨List.prefix_append _ _,
      endsIn_endEach mark ps, ?_⟩
    intro other hPrefix hEnds
    rcases Nat.le_total other.length
        (endEach mark ps).length with hShort | hLong
    · exact hShort
    · have hSame :=
        eq_endEach_of_endsIn hOpen hPrefix hEnds hLong
      exact Nat.le_of_eq (congrArg List.length hSame)

end ContainerBuild.Text
