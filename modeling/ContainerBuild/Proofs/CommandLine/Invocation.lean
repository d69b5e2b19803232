import ContainerBuild.CommandLine.Invocation
import Mathlib.Control.Monad.Basic

/-
  This file says which texts ask for which invocation.
  Options, each with its value if it has one, stand before
  or after the operand of a command and in any order; of
  several values for one option the last one counts.

  Key definitions include:
    * `CommandLine.IsWord`
    * `CommandLine.Grammar.Knows`
    * `CommandLine.optionTexts`
    * `CommandLine.lastGiven?`

  Main statements:
    * `CommandLine.Grammar.read_options`
    * `CommandLine.Invocation.ofTexts_command`
    * `CommandLine.Invocation.ofTexts_parse`
    * `CommandLine.Invocation.ofTexts_build`
-/

namespace ContainerBuild.CommandLine

variable {rules : List OptionRule}
variable {g : Grammar}
variable {r : Reading}
variable {text : String}
variable {texts : List String}
variable {as : List Argument}

------------------------------------------------------------
-- Words
------------------------------------------------------------

/- A text that does not look like an option. -/
def IsWord (text : String) : Prop :=
  text.toList.head? ≠ some '-'

instance (text : String) : Decidable (IsWord text) :=
  inferInstanceAs (Decidable (_ ≠ _))

theorem IsWord.ne_separator
    (hWord : IsWord text) :
    text ≠ "--" := by
  rintro rfl
  exact hWord rfl

/- It is taken for a word whatever the options are. -/
theorem IsWord.ofText
    (hWord : IsWord text)
    (rules : List OptionRule) :
    Token.ofText rules text = .ok .word := by
  unfold Token.ofText
  exact if_pos hWord

------------------------------------------------------------
-- Arguments
------------------------------------------------------------

namespace Argument

theorem ofTexts_cons
    {t : Token}
    (hText : text ≠ "--")
    (hToken : Token.ofText rules text = .ok t)
    (hRest : ofTexts rules texts = .ok as) :
    ofTexts rules (text :: texts) =
      .ok (⟨text, t⟩ :: as) := by
  simp only [ofTexts, if_neg hText, hToken, hRest]

theorem ofTexts_word
    (hWord : IsWord text)
    (hRest : ofTexts rules texts = .ok as) :
    ofTexts rules (text :: texts) =
      .ok (.plain text :: as) :=
  ofTexts_cons hWord.ne_separator (hWord.ofText rules) hRest

/- What is taken for something keeps its text. -/
theorem textsOf_of_ofTexts
    (hTexts : ofTexts rules texts = .ok as) :
    Reading.textsOf as = texts := by
  induction texts generalizing as with
  | nil =>
      cases hTexts
      rfl
  | cons text rest ih =>
      unfold ofTexts at hTexts
      split at hTexts
      · cases hTexts
        simp [Reading.textsOf, plain, Function.comp_def]
      · split at hTexts
        · exact absurd hTexts (by simp)
        · split at hTexts
          · exact absurd hTexts (by simp)
          · rename_i as' hRest
            cases hTexts
            exact congrArg (text :: ·) (ih hRest)

/- Texts that are clear one by one are clear together. -/
theorem exists_ofTexts
    (hClear : ∀ x ∈ texts, (Token.ofText rules x).isOk) :
    ∃ as, ofTexts rules texts = .ok as := by
  induction texts with
  | nil => exact ⟨[], rfl⟩
  | cons text rest ih =>
      rcases ih (fun x hMem =>
          hClear x (List.mem_cons_of_mem _ hMem)) with
        ⟨as, hRest⟩
      by_cases hText : text = "--"
      · subst hText
        exact ⟨_, if_pos rfl⟩
      · cases hToken : Token.ofText rules text with
        | error s =>
            have hFirst := hClear text List.mem_cons_self
            rw [hToken] at hFirst
            exact absurd hFirst (by simp [Except.isOk,
              Except.toBool])
        | ok t => exact ⟨_, ofTexts_cons hText hToken hRest⟩

end Argument

------------------------------------------------------------
-- Options
------------------------------------------------------------

/- The rule for an option that is given like this. -/
def OptionRule.ofGiven
    (o : String × Option String) : OptionRule :=
  match o.2 with
  | none => .flag none o.1
  | some _ => .valued o.1

@[simp] theorem OptionRule.name_ofGiven
    (o : String × Option String) :
    (ofGiven o).name = o.1 := by
  rcases o with ⟨name, _ | value⟩ <;> rfl

/- All names of a grammar are taken for what they are. -/
def Grammar.IsClear (g : Grammar) : Prop :=
  ∀ rule ∈ g.rules,
    rule.name ≠ "--" ∧
      Token.ofText g.rules rule.name = .ok (.named rule none)

/- An option of a grammar, with a word for its value. -/
structure Grammar.Knows
    (g : Grammar)
    (o : String × Option String) : Prop where
  rule : OptionRule.ofGiven o ∈ g.rules
  word : ∀ value ∈ o.2, IsWord value

/- How options are written. -/
def optionTexts
    (given : List (String × Option String)) : List String :=
  given.flatMap (fun o => o.1 :: o.2.toList)

/- What they are taken for. -/
def optionArguments
    (given : List (String × Option String)) :
    List Argument :=
  given.flatMap
    (fun o =>
      ⟨o.1, .named (.ofGiven o) none⟩
        :: o.2.toList.map Argument.plain)

/- What an option is given last, if it is given at all. -/
def lastGiven?
    (name : String)
    (given : List (String × Option String)) :
    Option (Option String) :=
  given.reverse.lookup name

theorem Argument.ofTexts_options
    {given : List (String × Option String)}
    (hClear : g.IsClear)
    (hKnown : ∀ o ∈ given, g.Knows o)
    (hRest : ofTexts g.rules texts = .ok as) :
    ofTexts g.rules (optionTexts given ++ texts) =
      .ok (optionArguments given ++ as) := by
  induction given with
  | nil => exact hRest
  | cons o more ih =>
      have hMore := ih (fun x hMem =>
        hKnown x (List.mem_cons_of_mem _ hMem))
      have hFirst := hKnown o List.mem_cons_self
      have hRule := hClear _ hFirst.rule
      rw [OptionRule.name_ofGiven] at hRule
      rcases o with ⟨name, _ | value⟩
      · exact ofTexts_cons hRule.1 hRule.2 hMore
      · exact ofTexts_cons hRule.1 hRule.2
          (ofTexts_word (hFirst.word value rfl) hMore)

namespace Reading

/- Note options, one after the other. -/
def noteGiven
    (given : List (String × Option String))
    (r : Reading) : Reading :=
  { r with settings := given.reverse ++ r.settings }

theorem noteGiven_cons
    (name : String)
    (value : Option String)
    (given : List (String × Option String)) :
    r.noteGiven ((name, value) :: given) =
      (r.note name value).noteGiven given := by
  simp [noteGiven, note]

/- Options are noted, and the reading goes on behind them. -/
theorem take_options
    (given : List (String × Option String))
    (as : List Argument) :
    r.take g (optionArguments given ++ as) =
      (r.noteGiven given).take g as := by
  induction given generalizing r with
  | nil => rfl
  | cons o more ih =>
      rcases o with ⟨name, _ | value⟩
      · rw [noteGiven_cons, ← ih]
        rfl
      · rw [noteGiven_cons, ← ih]
        rfl

/- A word is the operand where a single one is missing. -/
theorem take_word
    (hWants : r.wantsWord g = true)
    (given : List (String × Option String)) :
    r.take g (.plain text :: optionArguments given) =
      .ok ((r.withOperand [text]).noteGiven given) := by
  have hEnd :=
    take_options (g := g) (r := r.withOperand [text]) given []
  rw [List.append_nil] at hEnd
  refine Eq.trans ?_ hEnd
  cases given <;>
    simp [optionArguments, Argument.plain, take, hWants]

/- An operand that takes the rest takes all of it. -/
theorem take_rest
    (hRest : g.takesRest = true)
    (hNone : r.operand = [])
    (as : List Argument) :
    r.take g (.plain text :: as) =
      .ok (r.withOperand (text :: textsOf as)) := by
  have hWants : r.wantsWord g = false := by
    simp [wantsWord, hRest]
  rcases as with _ | ⟨⟨next, token⟩, rest⟩
  · simp [Argument.plain, take, hWants, hNone, absorb]
  · cases token <;>
      simp [Argument.plain, take, hWants, hNone, absorb,
        textsOf]

end Reading

/- The operand stands between options. -/
theorem Grammar.read_options
    {before after : List (String × Option String)}
    (hClear : g.IsClear)
    (hSingle : g.takesRest = false)
    (hWord : IsWord text)
    (hKnown : ∀ o ∈ before ++ after, g.Knows o) :
    g.read (optionTexts before ++ text :: optionTexts after) =
      .ok ⟨[text], (before ++ after).reverse, []⟩ := by
  have hAfter :
      Argument.ofTexts g.rules (optionTexts after) =
        .ok (optionArguments after) := by
    have hAll :
        Argument.ofTexts g.rules (optionTexts after ++ []) =
          .ok (optionArguments after ++ []) :=
      Argument.ofTexts_options hClear
        (fun o hMem =>
          hKnown o (List.mem_append_right _ hMem)) rfl
    simpa using hAll
  have hTexts :=
    Argument.ofTexts_options hClear
      (fun o hMem => hKnown o (List.mem_append_left _ hMem))
      (Argument.ofTexts_word hWord hAfter)
  have hWants :
      (Reading.nothing.noteGiven before).wantsWord g =
        true := by
    simp [Reading.wantsWord, Reading.noteGiven,
      Reading.nothing, hSingle]
  unfold Grammar.read
  rw [hTexts]
  simp only [Reading.take_options, Reading.take_word hWants]
  simp [Reading.noteGiven, Reading.withOperand,
    Reading.nothing]

------------------------------------------------------------
-- Commands
------------------------------------------------------------

theorem building_isClear : building.IsClear := by
  unfold Grammar.IsClear
  decide

theorem parsing_isClear : parsing.IsClear := by
  unfold Grammar.IsClear
  decide

/- The command leaves the options of what it runs alone. -/
theorem isOk_of_rule
    {rule : OptionRule}
    (hRule : rule ∈ building.rules ++ parsing.rules) :
    (Token.ofText commands.rules rule.name).isOk := by
  revert rule
  decide

/- How it is written that details are to be told. -/
def verboseTexts (verbose : Bool) : List String :=
  if verbose then ["--verbose"] else []

/- A command takes all texts after it along. -/
theorem read_commands
    (hWord : IsWord text)
    (hClear : ∀ x ∈ texts,
      (Token.ofText commands.rules x).isOk)
    (verbose : Bool) :
    ∃ r, commands.read
          (verboseTexts verbose ++ text :: texts) = .ok r ∧
      r.operand = text :: texts ∧ r.surplus = [] ∧
      r.has "--verbose" = verbose := by
  rcases Argument.exists_ofTexts hClear with ⟨as, hTexts⟩
  have hCommand := Argument.ofTexts_word hWord hTexts
  have hOperand := Argument.textsOf_of_ofTexts hTexts
  cases verbose with
  | false =>
      have hTake :
          Reading.nothing.take commands (.plain text :: as) =
            .ok ⟨text :: Reading.textsOf as, [], []⟩ :=
        Reading.take_rest rfl rfl as
      refine ⟨⟨text :: texts, [], []⟩, ?_, rfl, rfl, rfl⟩
      simp only [verboseTexts, Bool.false_eq_true, if_false,
        List.nil_append, Grammar.read, hCommand]
      rw [← hOperand]
      exact hTake
  | true =>
      have hTake :
          (Reading.nothing.note "--verbose" none).take commands
              (.plain text :: as) =
            .ok ⟨text :: Reading.textsOf as,
              [("--verbose", none)], []⟩ :=
        Reading.take_rest rfl rfl as
      have hVerbose :
          Token.ofText commands.rules "--verbose" =
            .ok (.named (.flag (some 'v') "--verbose")
              none) :=
        rfl
      refine ⟨⟨text :: texts, [("--verbose", none)], []⟩, ?_,
        rfl, rfl, rfl⟩
      simp only [verboseTexts, if_true, List.singleton_append,
        Grammar.read,
        Argument.ofTexts_cons (by decide) hVerbose hCommand]
      rw [← hOperand]
      exact hTake

/- The texts of a task are clear to the command. -/
theorem isOk_of_mem
    {before after : List (String × Option String)}
    {x : String}
    (hWord : IsWord text)
    (hRules : g.rules ⊆ building.rules ++ parsing.rules)
    (hKnown : ∀ o ∈ before ++ after, g.Knows o)
    (hMem : x ∈
      optionTexts before ++ text :: optionTexts after) :
    (Token.ofText commands.rules x).isOk := by
  have hOk : ∀ y, IsWord y →
      (Token.ofText commands.rules y).isOk := by
    intro y hY
    rw [hY.ofText]
    rfl
  have hOption : ∀ o ∈ before ++ after,
      x ∈ o.1 :: o.2.toList →
        (Token.ofText commands.rules x).isOk := by
    intro o hO hX
    rcases List.mem_cons.mp hX with rfl | hValue
    · rw [← OptionRule.name_ofGiven o]
      exact isOk_of_rule (hRules (hKnown o hO).rule)
    · exact hOk x ((hKnown o hO).word x
        (Option.mem_toList.mp hValue))
  rcases List.mem_append.mp hMem with hBefore | hRest
  · rcases List.mem_flatMap.mp hBefore with ⟨o, hO, hX⟩
    exact hOption o (List.mem_append_left _ hO) hX
  · rcases List.mem_cons.mp hRest with rfl | hAfter
    · exact hOk x hWord
    · rcases List.mem_flatMap.mp hAfter with ⟨o, hO, hX⟩
      exact hOption o (List.mem_append_right _ hO) hX

namespace Invocation

/- What the command makes of them is what is asked for. -/
theorem ofTexts_command
    {task : Task}
    (hWord : IsWord text)
    (hClear : ∀ x ∈ texts,
      (Token.ofText commands.rules x).isOk)
    (hTask : Task.ofCommand text texts = .ok task)
    (verbose : Bool) :
    ofTexts (verboseTexts verbose ++ text :: texts) =
      .ok ⟨verbose, task⟩ := by
  rcases read_commands hWord hClear verbose with
    ⟨r, hRead, hOperand, hSurplus, hVerbose⟩
  simp only [ofTexts, hRead, ofReading, hOperand, hTask,
    Reading.settle, hSurplus, hVerbose]

/-
  A transcript is parsed as one of records if the flag for
  them stands before or after it.
-/
theorem ofTexts_parse
    {before after : List (String × Option String)}
    (hWord : IsWord text)
    (hKnown : ∀ o ∈ before ++ after, parsing.Knows o)
    (verbose : Bool) :
    ofTexts (verboseTexts verbose ++ "parse" ::
        (optionTexts before ++ text :: optionTexts after)) =
      .ok ⟨verbose,
        .parse (Path.ofText text)
          (lastGiven? "--json-stream"
            (before ++ after)).isSome⟩ := by
  have hRead :=
    Grammar.read_options parsing_isClear rfl hWord hKnown
  apply ofTexts_command (by decide)
  · exact fun x hMem =>
      isOk_of_mem hWord (List.subset_append_right _ _) hKnown
        hMem
  · simp [Task.ofCommand, hRead, Reading.settle,
      Reading.parseTask?, Reading.single?, Reading.has,
      Reading.value?, lastGiven?]

example :
    ofTexts ["-v", "parse", "--json-stream", "log"] =
      .ok ⟨true, .parse (Path.ofText "log") true⟩ := by
  decide

/- The Dockerfile of a build stands between options. -/
theorem ofTexts_build
    {space repository image : String}
    {before after : List (String × Option String)}
    (hWord : IsWord text)
    (hKnown : ∀ o ∈ before ++ after, building.Knows o)
    (hSpace :
      lastGiven? "--namespace" (before ++ after) =
        some (some space))
    (hRepository :
      lastGiven? "--repository" (before ++ after) =
        some (some repository))
    (hImage :
      lastGiven? "--image" (before ++ after) =
        some (some image))
    (verbose : Bool) :
    ofTexts (verboseTexts verbose ++ "build" ::
        (optionTexts before ++ text :: optionTexts after)) =
      .ok ⟨verbose, .build
        ⟨Path.ofText text,
          (lastGiven? "--name" (before ++ after)).getD
            (some usualFileName),
          space, repository, some image,
          (lastGiven? "--config" (before ++ after)).bind
            (fun value => value.map Path.ofText)⟩⟩ := by
  have hRead :=
    Grammar.read_options building_isClear rfl hWord hKnown
  unfold lastGiven? at hSpace hRepository hImage
  apply ofTexts_command (by decide)
  · exact fun x hMem =>
      isOk_of_mem hWord (List.subset_append_left _ _) hKnown
        hMem
  · simp only [Task.ofCommand, if_true, hRead,
      Reading.settle, Reading.buildTask?, Reading.single?,
      Reading.value?, hSpace, hRepository, hImage,
      Option.map_some, shown, Option.getD_some, lastGiven?]

end Invocation

end ContainerBuild.CommandLine
