import ContainerBuild.Proofs.Json.Scalar

/-
  This file shows that the reader takes back every value
  that the writer writes, in a style with blanks at most
  after its marks: texts of all characters, integers within
  the limit of digits, and arrays and objects of any length
  within the limit of nesting.

  Key definitions include:
    * `Stage.AwaitsValue`
    * `Stage.AwaitsField`
    * `ReadsBack`

  Main statements:
    * `run_writeItems`
    * `run_writeFields`
    * `readsBack_of_fits`
    * `readWithin_write`
-/

namespace ContainerBuild.Json

open Text

variable {limits : Limits}
variable {style : Style}

------------------------------------------------------------
-- Reading scalars
------------------------------------------------------------

/- A token that leads on is taken. -/
theorem run_of_continue
    {maxDepth : Nat}
    {m m' : Machine}
    {t : Token}
    (hStep : step maxDepth m t = .continue m')
    (ts : List Token) :
    run maxDepth m (t :: ts) = run maxDepth m' ts := by
  rw [run, hStep]

/- The stages in which a value may begin. -/
def Stage.AwaitsValue (stage : Stage) : Prop :=
  stage = .value ∨ stage = .firstItem

/-
  What is written for a value is read as that value, in
  whatever containers it stands, as far as there is room for
  it, and whatever follows.
-/
def ReadsBack
    (limits : Limits)
    (style : Style)
    (level : Nat)
    (v : Value) : Prop :=
  ∀ stage stack offset rest,
    stage.AwaitsValue →
    stack.length + level ≤ limits.depth →
    Ends rest →
      ∃ behind,
        run limits.depth ⟨stage, stack⟩
            (tokensFrom limits offset
              (write style v ++ rest)) =
          run limits.depth ⟨.rest v, stack⟩
            (tokensFrom limits behind rest)

/- One token is enough for a scalar. -/
theorem readsBack_of_token
    {symbol : Symbol}
    {v : Value}
    (level : Nat)
    (hStands :
      symbol = .scalar v ∨
        ∃ s, symbol = .text s ∧ v = .text s)
    (hToken :
      ∀ offset rest, Ends rest →
        tokensFrom limits offset (write style v ++ rest) =
          ⟨symbol, offset⟩ ::
            tokensFrom limits
              (offset + (write style v).length) rest) :
    ReadsBack limits style level v := by
  intro stage stack offset rest hStage _ hEnds
  have hStep :
      step limits.depth ⟨stage, stack⟩ ⟨symbol, offset⟩ =
        .continue ⟨.rest v, stack⟩ := by
    rcases hStands with rfl | ⟨s, rfl, rfl⟩ <;>
      rcases hStage with rfl | rfl <;> rfl
  rw [hToken offset rest hEnds, run_of_continue hStep]
  exact ⟨_, rfl⟩

theorem readsBack_text
    (level : Nat)
    (s : String) :
    ReadsBack limits style level (.text s) := by
  refine readsBack_of_token level (Or.inr ⟨s, rfl, rfl⟩) ?_
  intro offset rest _
  have hText :=
    tokensFrom_text (spells_writeChars style s.toList)
      limits offset rest
  rw [String.ofList_toList] at hText
  simpa [write, writeText] using hText

------------------------------------------------------------
-- Reading containers
------------------------------------------------------------

/- A mark and the spaces behind it are one token. -/
theorem tokensFrom_spaced
    {c : Char}
    (symbol : Symbol)
    (hGap : isGap c = false)
    (hMark : mark? c = some symbol)
    (hReadable : symbol.isReadable = true)
    (n offset : Nat)
    (rest : List Char) :
    ∃ behind,
      tokensFrom limits offset
          (c :: List.replicate n ' ' ++ rest) =
        ⟨symbol, offset⟩ ::
          tokensFrom limits behind rest := by
  have hSpaces : IsGap (List.replicate n ' ') := by
    intro d hMem
    rw [List.eq_of_mem_replicate hMem]
    rfl
  rw [List.cons_append,
    tokensFrom_mark symbol hGap hMark hReadable,
    tokensFrom_gap hSpaces]
  exact ⟨_, rfl⟩

theorem Style.IsPlain.tokensFrom_comma
    (hStyle : style.IsPlain)
    (offset : Nat)
    (rest : List Char) :
    ∃ behind,
      tokensFrom limits offset (style.comma ++ rest) =
        ⟨.comma, offset⟩ ::
          tokensFrom limits behind rest := by
  rcases hStyle.comma with ⟨n, hComma⟩
  rw [hComma]
  exact tokensFrom_spaced .comma (by decide) rfl rfl n
    offset rest

theorem Style.IsPlain.tokensFrom_colon
    (hStyle : style.IsPlain)
    (offset : Nat)
    (rest : List Char) :
    ∃ behind,
      tokensFrom limits offset (style.colon ++ rest) =
        ⟨.colon, offset⟩ ::
          tokensFrom limits behind rest := by
  rcases hStyle.colon with ⟨n, hColon⟩
  rw [hColon]
  exact tokensFrom_spaced .colon (by decide) rfl rfl n
    offset rest

theorem Style.IsPlain.ends_comma
    (hStyle : style.IsPlain)
    (rest : List Char) :
    Ends (style.comma ++ rest) := by
  rcases hStyle.comma with ⟨n, hComma⟩
  rw [hComma]
  exact Or.inr ⟨',', _, rfl, Or.inl rfl⟩

/-
  The items of an array are read one after the other, up to
  the closing mark. The induction is on the items, as they
  are written.
-/
theorem run_writeItems
    (hStyle : style.IsPlain)
    {level : Nat}
    {items : List Value}
    (hItems :
      ∀ v ∈ items, ReadsBack limits style level v)
    (hSome : items ≠ [])
    {stage : Stage}
    (hStage : stage.AwaitsValue)
    {outer : List Frame}
    (hRoom : outer.length + (level + 1) ≤ limits.depth)
    (done : List Value)
    (offset : Nat)
    (rest : List Char) :
    ∃ behind,
      run limits.depth ⟨stage, .array done :: outer⟩
          (tokensFrom limits offset
            (writeItems style items ++ ']' :: rest)) =
        run limits.depth
          ⟨.rest (.array (done.reverse ++ items)), outer⟩
          (tokensFrom limits behind rest) := by
  have hInside :
      (Frame.array done :: outer).length + level ≤
        limits.depth := by
    rw [List.length_cons]
    omega
  induction items generalizing stage done offset with
  | nil => exact absurd rfl hSome
  | cons v others ih =>
      have hValue := hItems v (by simp)
      cases others with
      | nil =>
          rcases hValue stage (.array done :: outer) offset
              (']' :: rest) hStage hInside
              (Or.inr ⟨']', rest, rfl, by simp⟩) with
            ⟨behind, hRun⟩
          have hClose :
              step limits.depth
                  ⟨.rest v, .array done :: outer⟩
                  ⟨.closeArray, behind⟩ =
                .continue
                  ⟨.rest (.array (done.reverse ++ [v])),
                    outer⟩ := by
            simp [step, afterValue]
          rw [writeItems, hRun,
            tokensFrom_mark .closeArray (by decide) rfl rfl,
            run_of_continue hClose]
          exact ⟨_, rfl⟩
      | cons w more =>
          rcases hValue stage (.array done :: outer) offset
              (style.comma ++
                (writeItems style (w :: more) ++
                  ']' :: rest))
              hStage hInside (hStyle.ends_comma _) with
            ⟨behind, hRun⟩
          rcases hStyle.tokensFrom_comma behind
              (writeItems style (w :: more) ++ ']' :: rest)
            with ⟨next, hComma⟩
          have hStep :
              step limits.depth
                  ⟨.rest v, .array done :: outer⟩
                  ⟨.comma, behind⟩ =
                .continue
                  ⟨.value, .array (v :: done) :: outer⟩ :=
            rfl
          rcases ih
              (fun x hMem => hItems x (by simp [hMem]))
              (by simp) (Or.inl rfl) (v :: done) next
              hInside with
            ⟨last, hRest⟩
          refine ⟨last, ?_⟩
          simp only [writeItems, List.append_assoc] at hRun ⊢
          rw [hRun, hComma, run_of_continue hStep, hRest]
          simp

/- The stages in which a field may begin. -/
def Stage.AwaitsField
    (done : List (String × Value))
    (stage : Stage) : Prop :=
  stage = .name done ∨ stage = .firstName ∧ done = []

/- A field is read up to the end of its value. -/
theorem run_writeField
    (hStyle : style.IsPlain)
    {level : Nat}
    {v : Value}
    (hValue : ReadsBack limits style level v)
    (name : String)
    {done : List (String × Value)}
    {stage : Stage}
    (hStage : stage.AwaitsField done)
    {outer : List Frame}
    (hRoom : outer.length + (level + 1) ≤ limits.depth)
    (offset : Nat)
    {rest : List Char}
    (hEnds : Ends rest) :
    ∃ behind,
      run limits.depth ⟨stage, outer⟩
          (tokensFrom limits offset
            (writeText style name ++
              (style.colon ++ (write style v ++ rest)))) =
        run limits.depth
          ⟨.rest v, .object done name :: outer⟩
          (tokensFrom limits behind rest) := by
  have hInside :
      (Frame.object done name :: outer).length + level ≤
        limits.depth := by
    rw [List.length_cons]
    omega
  have hName :
      step limits.depth ⟨stage, outer⟩
          ⟨.text name, offset⟩ =
        .continue ⟨.colon done name, outer⟩ := by
    rcases hStage with rfl | ⟨rfl, rfl⟩ <;> rfl
  have hText :=
    tokensFrom_text
      (spells_writeChars style name.toList) limits offset
      (style.colon ++ (write style v ++ rest))
  rw [String.ofList_toList] at hText
  rcases hStyle.tokensFrom_colon
      (offset +
        ((name.toList.flatMap (writeChar style)).length + 2))
      (write style v ++ rest) with
    ⟨next, hColon⟩
  rcases hValue .value (.object done name :: outer) next
      rest (Or.inl rfl) hInside hEnds with
    ⟨behind, hRun⟩
  refine ⟨behind, ?_⟩
  simp only [writeText, List.cons_append, List.append_assoc,
    List.nil_append]
  rw [hText, run_of_continue hName, hColon,
    run_of_continue rfl, hRun]

/- A field of a new name is set behind the others. -/
theorem Fields.set_of_notMem
    {name : String}
    {done : List (String × Value)}
    (hNew : name ∉ done.map Prod.fst)
    (v : Value) :
    Fields.set name v done = done ++ [(name, v)] := by
  induction done with
  | nil => rfl
  | cons f rest ih =>
      simp only [List.map_cons, List.mem_cons, not_or] at hNew
      rw [Fields.set, if_neg (Ne.symm hNew.1), ih hNew.2]
      rfl

/-
  The fields of an object are read one after the other, up
  to the closing mark, as those of an array.
-/
theorem run_writeFields
    (hStyle : style.IsPlain)
    {level : Nat}
    {fields : List (String × Value)}
    (hFields :
      ∀ f ∈ fields, ReadsBack limits style level f.2)
    (hSome : fields ≠ [])
    {done : List (String × Value)}
    (hNames : ((done ++ fields).map Prod.fst).Nodup)
    {stage : Stage}
    (hStage : stage.AwaitsField done)
    {outer : List Frame}
    (hRoom : outer.length + (level + 1) ≤ limits.depth)
    (offset : Nat)
    (rest : List Char) :
    ∃ behind,
      run limits.depth ⟨stage, outer⟩
          (tokensFrom limits offset
            (writeFields style fields ++ '\x7d' :: rest)) =
        run limits.depth
          ⟨.rest (.object (done ++ fields)), outer⟩
          (tokensFrom limits behind rest) := by
  induction fields generalizing stage done offset with
  | nil => exact absurd rfl hSome
  | cons f others ih =>
      rcases f with ⟨name, v⟩
      have hValue : ReadsBack limits style level v :=
        hFields (name, v) (by simp)
      have hNew : name ∉ done.map Prod.fst := by
        intro hMem
        rw [List.map_append, List.nodup_append] at hNames
        exact hNames.2.2 name hMem name (by simp) rfl
      have hSet := Fields.set_of_notMem hNew v
      cases others with
      | nil =>
          rcases run_writeField hStyle hValue name hStage
              hRoom offset
              (Or.inr ⟨'\x7d', rest, rfl, by simp⟩) with
            ⟨behind, hRun⟩
          have hClose :
              step limits.depth
                  ⟨.rest v, .object done name :: outer⟩
                  ⟨.closeObject, behind⟩ =
                .continue
                  ⟨.rest (.object (done ++ [(name, v)])),
                    outer⟩ := by
            simp [step, afterValue, hSet]
          simp only [writeFields, List.append_assoc]
          rw [hRun,
            tokensFrom_mark .closeObject (by decide) rfl rfl,
            run_of_continue hClose]
          exact ⟨_, rfl⟩
      | cons g more =>
          rcases run_writeField hStyle hValue name hStage
              hRoom offset
              (hStyle.ends_comma
                (writeFields style (g :: more) ++
                  '\x7d' :: rest)) with
            ⟨behind, hRun⟩
          rcases hStyle.tokensFrom_comma behind
              (writeFields style (g :: more) ++
                '\x7d' :: rest) with
            ⟨next, hComma⟩
          have hStep :
              step limits.depth
                  ⟨.rest v, .object done name :: outer⟩
                  ⟨.comma, behind⟩ =
                .continue
                  ⟨.name (done ++ [(name, v)]), outer⟩ := by
            simp [step, afterValue, hSet]
          have hNext :
              ((done ++ [(name, v)] ++ g :: more).map
                Prod.fst).Nodup := by
            simpa using hNames
          rcases ih
              (fun h hMem => hFields h (by simp [hMem]))
              (by simp) hNext (Or.inl rfl) next with
            ⟨last, hRest⟩
          refine ⟨last, ?_⟩
          simp only [writeFields, List.append_assoc]
          rw [hRun, hComma, run_of_continue hStep, hRest]
          simp

------------------------------------------------------------
-- Reading values
------------------------------------------------------------

/-
  Every value within the limits is read back. The induction
  is on the value: what is within it leaves one level less.
-/
theorem readsBack_of_fits
    (hStyle : style.IsPlain)
    {level : Nat}
    {v : Value}
    (hFits : Fits limits level v) :
    ReadsBack limits style level v := by
  induction hFits with
  | null level =>
      refine readsBack_of_token level (Or.inl rfl) ?_
      intro offset rest _
      exact tokensFrom_word (by simp) offset rest
  | bool level b =>
      refine readsBack_of_token level (Or.inl rfl) ?_
      intro offset rest _
      cases b with
      | true => exact tokensFrom_word (by simp) offset rest
      | false => exact tokensFrom_word (by simp) offset rest
  | integer level n hShort =>
      refine readsBack_of_token level (Or.inl rfl) ?_
      intro offset rest hEnds
      exact tokensFrom_integer hEnds hShort offset
  | text level s => exact readsBack_text level s
  | array level items _ ih =>
      intro stage stack offset rest hStage hRoom hEnds
      have hOpen :
          step limits.depth ⟨stage, stack⟩
              ⟨.openArray, offset⟩ =
            .continue ⟨.firstItem, .array [] :: stack⟩ := by
        have hSpace : ¬ limits.depth ≤ stack.length := by
          omega
        rcases hStage with rfl | rfl <;>
          simp [step, beginValue, hSpace]
      simp only [write, List.cons_append, List.append_assoc,
        List.nil_append]
      rw [tokensFrom_mark .openArray (by decide) rfl rfl,
        run_of_continue hOpen]
      cases items with
      | nil =>
          rw [writeItems, List.nil_append,
            tokensFrom_mark .closeArray (by decide) rfl rfl,
            run_of_continue rfl]
          exact ⟨_, rfl⟩
      | cons v others =>
          exact run_writeItems hStyle ih (by simp)
            (Or.inr rfl) hRoom [] (offset + 1) rest
  | object level fields hNames _ ih =>
      intro stage stack offset rest hStage hRoom hEnds
      have hOpen :
          step limits.depth ⟨stage, stack⟩
              ⟨.openObject, offset⟩ =
            .continue ⟨.firstName, stack⟩ := by
        have hSpace : ¬ limits.depth ≤ stack.length := by
          omega
        rcases hStage with rfl | rfl <;>
          simp [step, beginValue, hSpace]
      simp only [write, List.cons_append, List.append_assoc,
        List.nil_append]
      rw [tokensFrom_mark .openObject (by decide) rfl rfl,
        run_of_continue hOpen]
      cases fields with
      | nil =>
          rw [writeFields, List.nil_append,
            tokensFrom_mark .closeObject (by decide) rfl rfl,
            run_of_continue rfl]
          exact ⟨_, rfl⟩
      | cons f others =>
          exact run_writeFields hStyle ih (by simp)
            (by simpa using hNames)
            (Or.inr ⟨rfl, rfl⟩) hRoom (offset + 1) rest

/- Nothing written starts with a byte order mark. -/
theorem head?_write_ne
    {level : Nat}
    {v : Value}
    (hFits : Fits limits level v) :
    (write style v).head? ≠ some '\uFEFF' := by
  cases hFits with
  | integer level n _ =>
      rcases integerChars_cons n with ⟨c, cs, hCons, hDigit⟩
      have hOther : c ≠ '\uFEFF' := by
        rintro rfl
        exact absurd hDigit (by decide)
      simpa [write, hCons] using hOther
  | bool level b => cases b <;> simp [write]
  | null => simp [write]
  | text level s => simp [write, writeText]
  | array level items _ => simp [write]
  | object level fields _ _ => simp [write]

/- A document is read as the value that it was written for. -/
theorem readWithin_write
    (hStyle : style.IsPlain)
    {v : Value}
    (hFits : Fits limits limits.depth v) :
    readWithin limits (write style v) = .ok v := by
  rcases readsBack_of_fits hStyle hFits .value [] 0 []
      (Or.inl rfl) (by simp) (Or.inl rfl) with
    ⟨behind, hRun⟩
  rw [List.append_nil] at hRun
  rw [readWithin, if_neg (head?_write_ne hFits), tokens, hRun,
    tokensFrom]
  rfl

end ContainerBuild.Json
