import ContainerBuild.Shell.Startup
import ContainerBuild.Shell.Tools

/-
  This file defines what scripts do on a machine. Every step
  takes fuel; a script that has used up all of it is taken
  to run forever. What changes the flow of a script stops
  the commands after it, up to the place where the flow is
  taken up again.

  Key definitions include:
    * `run`
    * `runSimple`
    * `runText`
    * `runShell`
    * `runProgram`
    * `finishShell`
-/

namespace ContainerBuild.Shell

open Text

namespace Machine

------------------------------------------------------------
-- Flow
------------------------------------------------------------

/- Leave after a failure that nothing has tested. -/
def checkExit
    (tested : Bool)
    (m : Machine) : Machine :=
  if m.isGoing && !tested && m.status != 0
      && m.options.contains 'e' then
    m.withFlow .leaving
  else
    m

/- Take up the flow after a round of a loop. -/
def afterRound (m : Machine) : Machine × Bool :=
  match m.flow with
  | .going => (m, true)
  | .breaking (n + 2) => (m.withFlow (.breaking (n + 1)), false)
  | .breaking _ => (m.withFlow .going, false)
  | .continuing (n + 2) =>
      (m.withFlow (.continuing (n + 1)), false)
  | .continuing _ => (m.withFlow .going, true)
  | _ => (m, false)

/- Take up the flow after a function or a script. -/
def afterReturn (m : Machine) : Machine :=
  if m.flow = .returning then m.withFlow .going else m

/- Turn a status around. -/
def negateStatus (m : Machine) : Machine :=
  if m.isGoing then
    m.withStatus (if m.status = 0 then 1 else 0)
  else
    m

/- The most functions that can be at work at a time. -/
def maxDepth : Nat :=
  1000

------------------------------------------------------------
-- Traces
------------------------------------------------------------

/- Write a command as it runs, if asked to. -/
def trace
    (before : Machine)
    (texts : List (List Char))
    (m : Machine) : Machine :=
  if m.options.contains 'x' then
    let start := (m.value? "PS4".toList).getD []
    let line := start ++ joinWith [' '] texts ++ ['\n']
    match before.channels.lookup 2 with
    | some s => m.writeTo s line
    | none => m
  else
    m

------------------------------------------------------------
-- Names of commands
------------------------------------------------------------

/- The path of directories in which programs are found. -/
def programPath (m : Machine) : String :=
  gather ((m.value? "PATH".toList).getD [])

/- The program with a name. -/
def locate
    (name : List Char)
    (m : Machine) : Except Int Programs.Found :=
  Programs.locate m.disk m.programPath (gather name)

/- What a name stands for, in words. -/
def describe
    (name : List Char)
    (m : Machine) : Option (List Char) :=
  if keywords.any (fun k => k.toList = name) then
    some (name ++ " is a shell keyword".toList)
  else if (m.functions.lookup name).isSome then
    some (name ++ " is a shell function".toList)
  else if isSpecial name then
    some (name ++ " is a special shell builtin".toList)
  else if isBuiltin name then
    some (name ++ " is a shell builtin".toList)
  else
    match m.locate name with
    | .ok found =>
        some (name ++ " is ".toList ++ spread found.path)
    | .error _ => none

/- What a name stands for, as a command. -/
def commandText
    (name : List Char)
    (m : Machine) : Option (List Char) :=
  if keywords.any (fun k => k.toList = name)
      || (m.functions.lookup name).isSome
      || isBuiltin name then
    some name
  else
    match m.locate name with
    | .ok found => some (spread found.path)
    | .error _ => none

end Machine

namespace Call

/- Tell what names stand for. -/
def type (c : Call) : Machine :=
  let one (m : Machine) (name : List Char) : Machine :=
    match m.describe name with
    | some text => m.write 1 (text ++ ['\n'])
    | none =>
        (m.write 1 (name ++ ": not found\n".toList)).withStatus
          127
  c.args.foldl one (c.done 0)

/- Tell what a name stands for, in the short way. -/
def commandPath (c : Call) : Machine :=
  match c.args with
  | [] => c.done 0
  | name :: _ =>
      match c.machine.commandText name with
      | some text => c.reply (text ++ ['\n'])
      | none => c.done 127

end Call

------------------------------------------------------------
-- Words of commands
------------------------------------------------------------

/- The utilities whose arguments may assign. -/
def declarers : List (List Char) :=
  ["export".toList, "readonly".toList, "local".toList]

namespace Machine

/- The fields of the arguments of a command. -/
def argumentFields
    (sub : Substitute)
    (fuel : Nat)
    (declares : Bool)
    (ws : List Word)
    (m : Machine) : List (List Char) × Machine :=
  match ws with
  | [] => ([], m)
  | w :: rest =>
      let first : List (List Char) × Machine :=
        if declares && (Word.assignment? w).isSome then
          let t := m.text sub true fuel w
          ([t.1], t.2)
        else
          m.fields sub fuel w
      if first.2.isGoing then
        let more :=
          first.2.argumentFields sub fuel declares rest
        (first.1 ++ more.1, more.2)
      else
        first

/- The fields of a command; the first one is its name. -/
def commandFields
    (sub : Substitute)
    (fuel : Nat)
    (ws : List Word)
    (m : Machine) : List (List Char) × Machine :=
  match ws with
  | [] => ([], m)
  | w :: rest =>
      let first := m.fields sub fuel w
      if !first.2.isGoing then
        first
      else
        match first.1 with
        | [] => first.2.commandFields sub fuel rest
        | name :: _ =>
            let more := first.2.argumentFields sub fuel
              (declarers.contains name) rest
            (first.1 ++ more.1, more.2)

/- The values that assignments give. -/
def assignmentTexts
    (sub : Substitute)
    (fuel : Nat)
    (as : List (List Char × Word))
    (m : Machine) :
    List (List Char × List Char) × Machine :=
  match as with
  | [] => ([], m)
  | a :: rest =>
      let t := m.text sub true fuel a.2
      if t.2.isGoing then
        let set := t.2.assign a.1 t.1
        let more := set.assignmentTexts sub fuel rest
        ((a.1, t.1) :: more.1, more.2)
      else
        ([], t.2)

/- Assignments as a trace shows them. -/
def shownAssignments
    (as : List (List Char × List Char)) :
    List (List Char) :=
  as.map (fun a => a.1 ++ '=' :: a.2)

/- The variables that assignments hide, latest first. -/
def hiddenBy
    (names : List (List Char))
    (m : Machine) : List Hidden :=
  names.reverse.map (fun n => (n, m.binding? n))

/- Put the variables back that were hidden. -/
def unhide
    (hs : List Hidden)
    (m : Machine) : Machine :=
  hs.foldl restore m

end Machine

------------------------------------------------------------
-- Substitutions
------------------------------------------------------------

/- Characters without the ends of lines behind them. -/
def dropNewlines (cs : List Char) : List Char :=
  (cs.reverse.dropWhile (fun c => c = '\n')).reverse

/- What a substitution makes of what was written. -/
def substitutedText (cs : List Char) : List Char :=
  dropNewlines (cs.filter (fun c => c != '\x00'))

/- An environment that was changed, and the command for it. -/
structure EnvironmentChange where
  given : List (List Char × List Char)
  command : List (List Char)

/- Put a variable where it is, or behind all others. -/
def putVariable
    (v : List Char × List Char)
    (env : List (List Char × List Char)) :
    List (List Char × List Char) :=
  match env with
  | [] => [v]
  | w :: rest =>
      if w.1 = v.1 then v :: rest else w :: putVariable v rest

/- Read how an environment is changed before a command. -/
def changeEnvironment
    (env : List (List Char × List Char))
    (args : List (List Char)) : EnvironmentChange :=
  match args with
  | [] => ⟨env, []⟩
  | ['-', 'i'] :: rest => changeEnvironment [] rest
  | ['-'] :: rest => changeEnvironment [] rest
  | ['-', '-'] :: rest => ⟨env, rest⟩
  | ['-', 'u'] :: name :: rest =>
      changeEnvironment (env.filter (fun v => v.1 != name)) rest
  | a :: rest =>
      match splitFirst? '=' a with
      | some v => changeEnvironment (putVariable v env) rest
      | none => ⟨env, a :: rest⟩

/- The words of a system about an error with a number. -/
def errorText (n : Int) : List Char :=
  if n = 2 || n = 20 then
    "not found".toList
  else if n = 36 then
    "File name too long".toList
  else
    "Permission denied".toList

mutual

------------------------------------------------------------
-- Commands
------------------------------------------------------------

/-
  Run a command. What is tested may fail without ending a
  shell that leaves after failures.
-/
def run
    (fuel : Nat)
    (tested : Bool)
    (c : Command)
    (m : Machine) : Machine :=
  match fuel with
  | 0 => m.withFlow .endless
  | n + 1 =>
      if !m.isGoing || m.options.contains 'n' then
        m
      else
        match c with
        | .nothing => m
        | .simple s =>
            (runPending n (runSimple n tested s m)).checkExit
              tested
        | .redirected c rs =>
            let r := m.redirect (substitute n) n rs
            if !r.2.isGoing then
              r.2.restoreChannels m
            else if r.1 then
              (run n tested c r.2).restoreChannels m
            else
              r.2.restoreChannels m
        | .subshell c =>
            (runPending n (runApart n tested c m)).checkExit
              tested
        | .background c => runBackground n c m
        | .piped a b =>
            (runPending n (runPipe n tested a b m)).checkExit
              tested
        | .negated c => (run n true c m).negateStatus
        | .both a b =>
            let left := run n true a m
            if left.status = 0 then
              run n tested b left
            else
              left
        | .either a b =>
            let left := run n true a m
            if left.status = 0 then
              left
            else
              run n tested b left
        | .sequence a b => run n tested b (run n tested a m)
        | .choice test yes no =>
            let t := run n true test m
            if !t.isGoing then
              t
            else if t.status = 0 then
              run n tested yes t
            else if no = .nothing then
              t.withStatus 0
            else
              run n tested no t
        | .loop until? test body =>
            let after := runLoop n tested until? test body 0
              { m with loops := m.loops + 1 }
            { after with loops := m.loops }
        | .each line name words body =>
            let items :=
              match words with
              | none => (m.args, m)
              | some ws =>
                  { m with line := line }.allFields
                    (substitute n) n ws
            if items.2.isGoing then
              let after := runEach n tested name body items.1
                { items.2 with
                  loops := m.loops + 1, status := 0 }
              { after with loops := m.loops }
            else
              items.2
        | .select line subject branches =>
            let t := { m with line := line }.text
              (substitute n) false n subject
            if t.2.isGoing then
              runBranches n tested t.1 branches t.2
            else
              t.2
        | .branch _ _ _ => m
        | .define name body =>
            { m with
              functions :=
                (name, body)
                  :: m.functions.filter (fun f => f.1 != name)
              status := 0 }

/- Run the rounds of a loop. -/
def runLoop
    (fuel : Nat)
    (tested until? : Bool)
    (test body : Command)
    (last : Nat)
    (m : Machine) : Machine :=
  match fuel with
  | 0 => m.withFlow .endless
  | n + 1 =>
      let t := run n true test m
      match t.flow with
      | .going =>
          if (t.status = 0) = until? then
            t.withStatus last
          else
            match (run n tested body t).afterRound with
            | (after, true) =>
                runLoop n tested until? test body after.status
                  after
            | (after, false) => after
      | _ =>
          match t.afterRound with
          | (after, true) =>
              runLoop n tested until? test body last after
          | (after, false) =>
              if after.isGoing then
                after.withStatus last
              else
                after

/- Run a loop through items. -/
def runEach
    (fuel : Nat)
    (tested : Bool)
    (name : List Char)
    (body : Command)
    (items : List (List Char))
    (m : Machine) : Machine :=
  match fuel with
  | 0 => m.withFlow .endless
  | n + 1 =>
      match items with
      | [] => m
      | item :: rest =>
          let set := m.assign name item
          if !set.isGoing then
            set
          else
            match (run n tested body set).afterRound with
            | (after, true) =>
                runEach n tested name body rest after
            | (after, false) => after

/- Run the first branch with a pattern that fits. -/
def runBranches
    (fuel : Nat)
    (tested : Bool)
    (subject : List Char)
    (branches : Command)
    (m : Machine) : Machine :=
  match fuel with
  | 0 => m.withFlow .endless
  | n + 1 =>
      match branches with
      | .branch patterns body rest =>
          let f := fitsOne n subject patterns m
          if !f.2.isGoing then
            f.2
          else if f.1 then
            run n tested body (f.2.withStatus 0)
          else
            runBranches n tested subject rest f.2
      | _ => m.withStatus 0

/- Whether text fits one of some patterns. -/
def fitsOne
    (fuel : Nat)
    (subject : List Char)
    (patterns : List Word)
    (m : Machine) : Bool × Machine :=
  match fuel with
  | 0 => (false, m.withFlow .endless)
  | n + 1 =>
      match patterns with
      | [] => (false, m)
      | w :: rest =>
          let p := m.pattern (substitute n) n w
          if !p.2.isGoing then
            (false, p.2)
          else if p.1.fits subject then
            (true, p.2)
          else
            fitsOne n subject rest p.2

------------------------------------------------------------
-- Subshells
------------------------------------------------------------

/- Run a command in a subshell. -/
def runApart
    (fuel : Nat)
    (tested : Bool)
    (c : Command)
    (m : Machine) : Machine :=
  match fuel with
  | 0 => m.withFlow .endless
  | n + 1 =>
      m.rejoin (finishShell n (run n tested c m.forSubshell))

/- Run a command beside the script. -/
def runBackground
    (fuel : Nat)
    (c : Command)
    (m : Machine) : Machine :=
  match fuel with
  | 0 => m.withFlow .endless
  | n + 1 =>
      let inner := finishShell n
        (run n false c (m.forSubshell.lead 0 .nowhere))
      let after := m.rejoin inner
      let pid := Machine.processNumber + 1 + m.jobs.length
      { after with
        clock := m.clock
        jobs := m.jobs ++ [⟨pid, inner.clock, inner.status⟩]
        status := 0
        flow := .going }

/-
  Run two commands, what the left one writes being read by
  the right one. Both start at the same time.
-/
def runPipe
    (fuel : Nat)
    (tested : Bool)
    (a b : Command)
    (m : Machine) : Machine :=
  match fuel with
  | 0 => m.withFlow .endless
  | n + 1 =>
      let s := m.addStream []
      let left := finishShell n
        (run n tested a
          (s.2.forSubshell.lead 1 (.stream s.1)))
      let between := s.2.rejoin left
      let right := finishShell n
        (run n tested b
          ({ between with clock := m.clock }.forSubshell.lead 0
            (.stream s.1)))
      let after := between.rejoin right
      if left.flow = .endless then
        after
      else
        { after with clock := max left.clock right.clock }

/- What the commands of a substitution write. -/
def substitute
    (fuel : Nat)
    (line : Nat)
    (text : List Char)
    (m : Machine) : List Char × Machine :=
  match fuel with
  | 0 => ([], m.withFlow .endless)
  | n + 1 =>
      match Script.ofSubstitution line text with
      | .error e =>
          ([], { m with line := e.line }.abort
            e.fault.message.toList)
      | .ok c =>
          let s := m.addStream []
          let inner := finishShell n
            (run n false c
              (s.2.forSubshell.lead 1 (.stream s.1)))
          let after := s.2.rejoin inner
          (substitutedText (inner.stream s.1),
            { after with
              status := m.status
              substituted := after.status })

/- Do what is to be done when a shell ends. -/
def finishShell
    (fuel : Nat)
    (m : Machine) : Machine :=
  match fuel with
  | 0 => m.withFlow .endless
  | n + 1 =>
      match m.traps.lookup 0, m.flow with
      | _, .killed _ => m
      | _, .endless => m
      | none, _ => m
      | some text, _ =>
          let last := runText n text
            { Call.putTrap none 0 m with
              flow := .going, speaker := none }
          if last.flow = .leaving || last.flow = .failed then
            last
          else
            last.withStatus m.status

/- Do what the signals that have come bring about. -/
def runPending
    (fuel : Nat)
    (m : Machine) : Machine :=
  match fuel with
  | 0 => m.withFlow .endless
  | n + 1 =>
      if m.isSubshell || !m.isGoing then
        m
      else
        match m.pending with
        | [] => m
        | signal :: rest =>
            let left := { m with pending := rest }
            match m.traps.lookup signal with
            | none => left.withFlow (.killed signal)
            | some text =>
                let after := runText n text left
                runPending n
                  (if after.isGoing then
                    after.withStatus m.status
                  else
                    after)

------------------------------------------------------------
-- Simple commands
------------------------------------------------------------

/- Run a simple command. -/
def runSimple
    (fuel : Nat)
    (tested : Bool)
    (s : Simple)
    (m : Machine) : Machine :=
  match fuel with
  | 0 => m.withFlow .endless
  | n + 1 =>
      let sub := substitute n
      let begun := { m with line := s.line, substituted := 0 }
      let f := begun.commandFields sub n s.words
      if !f.2.isGoing then
        f.2
      else
        let r := f.2.redirect sub n s.redirections
        let name := f.1.headD []
        if !r.2.isGoing then
          r.2.restoreChannels m
        else if !r.1 then
          let after := r.2.restoreChannels m
          if f.1 ≠ [] && isSpecial name then
            after.withFlow .leaving
          else
            after
        else
          let as := r.2.assignmentTexts sub n s.assignments
          let shown :=
            m.trace (Machine.shownAssignments as.1 ++ f.1)
              as.2
          if !as.2.isGoing then
            as.2.restoreChannels m
          else if f.1 = [] then
            (shown.withStatus shown.substituted).restoreChannels
              m
          else if isSpecial name then
            let after := runNamed n tested name (f.1.drop 1)
              shown
            if name = "exec".toList && f.1.length = 1 then
              after
            else
              after.restoreChannels m
          else
            let names := s.assignments.map Prod.fst
            let hidden := r.2.hiddenBy names
            let exported := names.foldl
              (fun m x => m.mark true false x) shown
            ((runNamed n tested name (f.1.drop 1)
              exported).unhide hidden).restoreChannels m

/- Run the command with a name. -/
def runNamed
    (fuel : Nat)
    (tested : Bool)
    (name : List Char)
    (args : List (List Char))
    (m : Machine) : Machine :=
  match fuel with
  | 0 => m.withFlow .endless
  | n + 1 =>
      match m.functions.lookup name with
      | some body => runFunction n tested body args m
      | none =>
          if isBuiltin name then
            let after := runBuiltin n tested name args
              { m with speaker := some name }
            let caught :=
              if isSpecial name then after else after.afterFailure
            { caught with speaker := m.speaker }
          else
            runLocated n name args m

/- Run a function. -/
def runFunction
    (fuel : Nat)
    (tested : Bool)
    (body : Command)
    (args : List (List Char))
    (m : Machine) : Machine :=
  match fuel with
  | 0 => m.withFlow .endless
  | n + 1 =>
      if Machine.maxDepth ≤ m.depth then
        m.withFlow (.killed 11)
      else
        let after := run n tested body
          { m with
            args := args
            loops := 0
            hidden := []
            optionIndex := 1
            optionPlace := 0
            depth := m.depth + 1 }
        { after.unhide after.hidden with
          args := m.args
          loops := m.loops
          hidden := m.hidden
          optionIndex := m.optionIndex
          optionPlace := m.optionPlace
          depth := m.depth }.afterReturn

/- Run a utility of the shell. -/
def runBuiltin
    (fuel : Nat)
    (tested : Bool)
    (name : List Char)
    (args : List (List Char))
    (m : Machine) : Machine :=
  match fuel with
  | 0 => m.withFlow .endless
  | n + 1 =>
      let call : Call := ⟨m, m.environment, name, args, true⟩
      match builtin? name with
      | some u => u call
      | none =>
          match String.ofList name with
          | "eval" =>
              runText n (joinWith [' '] args) (m.withStatus 0)
          | "." => runFile n args m
          | "exec" => runInstead n args m
          | "command" => runCommand n tested args m
          | "type" => call.type
          | _ => m

/- Run a command without looking for a function. -/
def runCommand
    (fuel : Nat)
    (tested : Bool)
    (args : List (List Char))
    (m : Machine) : Machine :=
  match fuel with
  | 0 => m.withFlow .endless
  | n + 1 =>
      let call (args : List (List Char)) : Call :=
        ⟨m, m.environment, "command".toList, args, true⟩
      match args with
      | [] => m.withStatus 0
      | ['-', 'v'] :: rest => (call rest).commandPath
      | ['-', 'V'] :: rest => (call rest).type
      | ['-', 'p'] :: rest => runCommand n tested rest m
      | ['-', '-'] :: rest => runCommand n tested rest m
      | name :: rest =>
          if isBuiltin name then
            runBuiltin n tested name rest
              { m with speaker := some name }
          else
            runLocated n name rest { m with speaker := none }

/- Run a file as a part of the script. -/
def runFile
    (fuel : Nat)
    (args : List (List Char))
    (m : Machine) : Machine :=
  match fuel with
  | 0 => m.withFlow .endless
  | n + 1 =>
      match args with
      | [] => m.withStatus 0
      | path :: _ =>
          if !path.contains '/' then
            m.abort (path ++ ": not found".toList)
          else
            match m.scriptAt path with
            | .error reason => m.abort reason
            | .ok cs =>
                (runText n cs (m.withStatus 0)).afterReturn

/- Run a program in place of the shell. -/
def runInstead
    (fuel : Nat)
    (args : List (List Char))
    (m : Machine) : Machine :=
  match fuel with
  | 0 => m.withFlow .endless
  | n + 1 =>
      match args with
      | [] => m.withStatus 0
      | ['-', '-'] :: rest => runInstead n rest m
      | name :: rest =>
          match m.locate name with
          | .ok found =>
              let after := runProgram n m.environment
                found.program name rest m
              { (if after.isGoing then
                  after.withFlow .leaving
                else
                  after) with traps := [] }
          | .error e =>
              (m.complain
                (name ++ ": ".toList ++ errorText e)).leave
                (if Programs.isAbsence e then 127 else 126)

/- Run the program with a name, if there is one. -/
def runLocated
    (fuel : Nat)
    (name : List Char)
    (args : List (List Char))
    (m : Machine) : Machine :=
  match fuel with
  | 0 => m.withFlow .endless
  | n + 1 =>
      if name = [] then
        (m.complain ": Permission denied".toList).withStatus 127
      else
        match m.locate name with
        | .ok found =>
            let after := runProgram n m.environment
              found.program name args m
            match after.flow with
            | .killed signal =>
                let text :=
                  (Call.signalTexts.lookup signal).getD ""
                ((after.withFlow .going).write 2
                  (text.toList ++ ['\n'])).withStatus
                    (128 + signal)
            | _ => after
        | .error e =>
            (m.complain
              (name ++ ": ".toList ++ errorText e)).withStatus
              (if name.contains '/' && !Programs.isAbsence e then
                126
              else
                127)

------------------------------------------------------------
-- Texts
------------------------------------------------------------

/- Run the text of a script. -/
def runText
    (fuel : Nat)
    (text : List Char)
    (m : Machine) : Machine :=
  match fuel with
  | 0 => m.withFlow .endless
  | n + 1 => runLines n (Script.ofText 1 text) m

/- Run the lines of a script one after the other. -/
def runLines
    (fuel : Nat)
    (ts : List Lexeme)
    (m : Machine) : Machine :=
  match fuel with
  | 0 => m.withFlow .endless
  | n + 1 =>
      if !m.isGoing then
        m
      else
        match readLine ts with
        | .error e =>
            { m with line := e.line }.abort
              e.fault.message.toList
        | .ok (c, rest) =>
            let after := run n false c m
            if rest.length ≤ 1 then
              after
            else
              runLines n rest after

------------------------------------------------------------
-- Programs
------------------------------------------------------------

/- Run a shell with its arguments. -/
def runShell
    (fuel : Nat)
    (env : List (List Char × List Char))
    (name : List Char)
    (args : List (List Char))
    (m : Machine) : Machine :=
  match fuel with
  | 0 => m.withFlow .endless
  | n + 1 =>
      let start := Startup.ofArguments args
        (m.forShell name env)
      if start.machine.isGoing then
        runSource n start.source start.machine
      else
        start.machine

/- Run what a shell reads. -/
def runSource
    (fuel : Nat)
    (source : Source)
    (m : Machine) : Machine :=
  match fuel with
  | 0 => m.withFlow .endless
  | n + 1 =>
      match source with
      | .text cs =>
          finishShell n (runText n cs { m with line := 1 })
      | .input =>
          let input := m.takeInput 0
          finishShell n
            (runText n input.1 { input.2 with line := 1 })
      | .file path =>
          match m.scriptAt path with
          | .error reason => m.abort reason
          | .ok cs =>
              finishShell n
                (runText n cs
                  { m with line := 1, name := path })

/- Run a program with its environment and arguments. -/
def runProgram
    (fuel : Nat)
    (env : List (List Char × List Char))
    (program : String)
    (name : List Char)
    (args : List (List Char))
    (m : Machine) : Machine :=
  match fuel with
  | 0 => m.withFlow .endless
  | n + 1 =>
      if Programs.shells.contains program then
        let inner := runShell n env name args m
        let after := m.rejoin inner
        { after with
          busyUntil :=
            (inner.jobs.map Job.ends).foldl max
              inner.busyUntil
          pending := m.pending }
      else if program = "env" then
        runChanged n (changeEnvironment env args) m
      else
        match tools.lookup program with
        | some u => u ⟨m, env, name, args, false⟩
        | none => m

/- Run a command in an environment, or show that. -/
def runChanged
    (fuel : Nat)
    (e : EnvironmentChange)
    (m : Machine) : Machine :=
  match fuel with
  | 0 => m.withFlow .endless
  | n + 1 =>
      match e.command with
      | [] =>
          (m.write 1
            (Call.asLines (e.given.map
              (fun v => v.1 ++ '=' :: v.2)))).withStatus 0
      | name :: args =>
          let path :=
            gather ((e.given.lookup "PATH".toList).getD
              Programs.usualPath.toList)
          match Programs.locate m.disk path (gather name) with
          | .ok found =>
              runProgram n e.given found.program name args m
          | .error k =>
              let reason :=
                if Programs.isAbsence k then
                  "No such file or directory"
                else
                  "Permission denied"
              (m.write 2
                ("env: '".toList ++ name ++ "': ".toList
                  ++ reason.toList ++ ['\n'])).withStatus
                (if Programs.isAbsence k then 127 else 126)

end

end ContainerBuild.Shell
