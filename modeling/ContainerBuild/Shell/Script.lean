import ContainerBuild.Shell.Command

/-
  This file defines how tokens read as commands. A script is
  read a line at a time, so that the lines before a mistake
  run; what is between parentheses or behind the head of a
  compound command is read as a whole.

  Key definitions include:
    * `Mistake`
    * `Keyword`
    * `readList`
    * `readLine`
    * `readSubstitution`
    * `Script.ofText`
-/

namespace ContainerBuild.Shell

open Text

------------------------------------------------------------
-- Mistakes
------------------------------------------------------------

/- A fault and the line on which it was found. -/
structure Mistake where
  fault : Fault
  line : Nat
deriving DecidableEq, Repr

/- What was read, and the tokens after it. -/
abbrev Parsed (α : Type) :=
  α × List Lexeme

/- The words that make compound commands. -/
def keywords : List String :=
  ["!", "case", "do", "done", "elif", "else", "esac", "fi",
    "for", "if", "in", "then", "until", "while", "\x7b",
    "\x7d"]

/- The keyword that a word is, if it is one. -/
def keyword? (t : Lexeme) : Option String :=
  match t.token with
  | .word w =>
      match Word.plain? w with
      | some cs =>
          keywords.find? (fun k => k.toList = cs)
      | none => none
  | _ => none

/- A text between the marks that complaints use. -/
def inMarks (s : String) : String :=
  "\"" ++ s ++ "\""

/-
  The name of a token in complaints; keywords have one where
  they are looked for.
-/
def tokenName
    (withKeywords : Bool)
    (t : Lexeme) : String :=
  match t.token with
  | .word _ =>
      match withKeywords, keyword? t with
      | true, some k => inMarks k
      | _, _ => "word"
  | .sign s => inMarks s.text
  | .newline _ => "newline"
  | .arrow _ _ => "redirection"
  | .document _ _ => "redirection"
  | .ending => "end of file"
  | .broken _ => ""

/- The mistake of a token that is out of place. -/
def mistake
    (withKeywords : Bool)
    (expected : Option String)
    (ts : List Lexeme) : Mistake :=
  match ts with
  | [] => ⟨.unexpected "end of file" expected, 1⟩
  | t :: _ =>
      match t.token with
      | .broken f => ⟨f, t.line⟩
      | _ =>
          ⟨.unexpected (tokenName withKeywords t) expected,
            t.line⟩

------------------------------------------------------------
-- Small parts
------------------------------------------------------------

/- Tokens without the ends of lines before them. -/
def skipNewlines (ts : List Lexeme) : List Lexeme :=
  ts.dropWhile
    (fun t =>
      match t.token with
      | .newline _ => true
      | _ => false)

/- Whether the next token is a keyword. -/
def startsKeyword
    (k : String)
    (ts : List Lexeme) : Bool :=
  (ts.head?.bind keyword?) = some k

/- Whether the next token is a sign. -/
def startsSign
    (s : Sign)
    (ts : List Lexeme) : Bool :=
  ts.head?.map Lexeme.token = some (.sign s)

/- The tokens after a keyword that has to stand there. -/
def expectKeyword
    (k : String)
    (ts : List Lexeme) : Except Mistake (List Lexeme) :=
  if startsKeyword k ts then
    .ok (ts.drop 1)
  else
    .error (mistake true (some (inMarks k)) ts)

/- The tokens after a sign that has to stand there. -/
def expectSign
    (withKeywords : Bool)
    (s : Sign)
    (ts : List Lexeme) : Except Mistake (List Lexeme) :=
  if startsSign s ts then
    .ok (ts.drop 1)
  else
    .error (mistake withKeywords (some (inMarks s.text)) ts)

/- Whether a token ends a list of commands. -/
def endsList (t : Lexeme) : Bool :=
  match t.token with
  | .ending => true
  | .sign .rightParen => true
  | .sign .doubleSemicolon => true
  | _ =>
      match keyword? t with
      | some k =>
          ["do", "done", "elif", "else", "esac", "fi", "then",
            "\x7d"].contains k
      | none => false

/- The redirection of an arrow and the word after it. -/
def Arrow.toward
    (a : Arrow)
    (channel : Nat)
    (w : Word) : Redirection :=
  match a with
  | .read => .file channel .reading w
  | .write => .file channel .writing w
  | .append => .file channel .appending w
  | .update => .file channel .updating w
  | .copy => .copy channel w
  | .document _ => .document channel w

/- A redirection, if the next token asks for one. -/
def readRedirection?
    (ts : List Lexeme) : Except Mistake (Parsed (Option Redirection)) :=
  match ts with
  | ⟨.document channel body, _⟩ :: rest =>
      .ok (some (.document channel body), rest)
  | ⟨.arrow channel a, _⟩ :: ⟨.word w, _⟩ :: rest =>
      .ok (some (a.toward channel w), rest)
  | ⟨.arrow _ _, _⟩ :: rest =>
      .error (mistake false none rest)
  | _ => .ok (none, ts)

/- The redirections after a compound command. -/
def readRedirections
    (fuel : Nat)
    (ts : List Lexeme) : Except Mistake (Parsed (List Redirection)) :=
  match fuel with
  | 0 => .ok ([], ts)
  | n + 1 => do
      match ← readRedirection? ts with
      | (none, rest) => pure ([], rest)
      | (some r, rest) =>
          let (rs, rest') ← readRedirections n rest
          pure (r :: rs, rest')

/- The words at the start of tokens. -/
def readWords
    (ts : List Lexeme) : List Word × List Lexeme :=
  match ts with
  | ⟨.word w, _⟩ :: rest =>
      let more := readWords rest
      (w :: more.1, more.2)
  | _ => ([], ts)

------------------------------------------------------------
-- Simple commands
------------------------------------------------------------

namespace Simple

/- A command without any parts. -/
def empty (line : Nat) : Simple :=
  ⟨line, [], [], []⟩

/- Add a word; assignments stand before all other words. -/
def addWord
    (s : Simple)
    (w : Word) : Simple :=
  match s.words, Word.assignment? w with
  | [], some a =>
      { s with assignments := s.assignments ++ [a] }
  | _, _ => { s with words := s.words ++ [w] }

/- Add a redirection. -/
def redirect
    (s : Simple)
    (r : Redirection) : Simple :=
  { s with redirections := s.redirections ++ [r] }

/- The words and redirections at the start of tokens. -/
def read
    (fuel : Nat)
    (s : Simple)
    (ts : List Lexeme) : Except Mistake (Parsed Simple) :=
  match fuel, ts with
  | 0, _ => .ok (s, ts)
  | n + 1, ⟨.word w, _⟩ :: rest => (s.addWord w).read n rest
  | n + 1, _ => do
      match ← readRedirection? ts with
      | (none, rest) => pure (s, rest)
      | (some r, rest) => (s.redirect r).read n rest

end Simple

/- The names that functions must not have. -/
def reservedNames : List String :=
  [".", ":", "break", "continue", "eval", "exec", "exit",
    "export", "readonly", "return", "set", "shift", "times",
    "trap", "unset", "local"]

/- The name of a function that a word can define. -/
def functionName? (w : Word) : Option (List Char) :=
  match Word.plain? w with
  | some cs =>
      if isName cs
          && !reservedNames.contains (String.ofList cs) then
        some cs
      else
        none
  | none => none

/-
  The word before the parentheses of a definition, and the
  tokens after the left one.
-/
def definition?
    (ts : List Lexeme) : Option (Word × List Lexeme) :=
  match ts with
  | ⟨.word w, _⟩ :: ⟨.sign .leftParen, _⟩ :: rest =>
      if (Word.assignment? w).isNone then
        some (w, rest)
      else
        none
  | _ => none

/- The name of a loop and the tokens after it. -/
def readLoopName (ts : List Lexeme) : Except Mistake (Parsed (List Char)) :=
  match ts with
  | [] => .error ⟨.badLoopName, 1⟩
  | t :: rest =>
      match t.token with
      | .broken f => .error ⟨f, t.line⟩
      | .word w =>
          match Word.plain? w with
          | some cs =>
              if isName cs then
                .ok (cs, rest)
              else
                .error ⟨.badLoopName, t.line⟩
          | none => .error ⟨.badLoopName, t.line⟩
      | _ => .error ⟨.badLoopName, t.line⟩

/- The words that a loop goes through, if it names them. -/
def readLoopWords
    (ts : List Lexeme) : Except Mistake (Parsed (Option (List Word))) :=
  let here := skipNewlines ts
  if startsKeyword "in" here then
    match readWords (here.drop 1) with
    | (ws, ⟨.newline _, _⟩ :: rest) => .ok (some ws, rest)
    | (ws, ⟨.sign .semicolon, _⟩ :: rest) =>
        .ok (some ws, rest)
    | (_, rest) => .error (mistake false none rest)
  else if startsSign .semicolon here then
    .ok (none, here.drop 1)
  else
    .ok (none, here)

/- The patterns of a branch, up to the parenthesis. -/
def readPatterns
    (fuel : Nat)
    (ts : List Lexeme) : Except Mistake (Parsed (List Word)) :=
  match fuel, ts with
  | n + 1, ⟨.word w, _⟩ :: rest =>
      if startsSign .bar rest then do
        let (ws, rest') ← readPatterns n (rest.drop 1)
        pure (w :: ws, rest')
      else do
        let rest' ← expectSign false .rightParen rest
        pure ([w], rest')
  | _, _ => .error (mistake true (some "\")\"") ts)

/- The subject of a choice by patterns. -/
def readSubject (ts : List Lexeme) : Except Mistake (Parsed Word) :=
  match ts with
  | ⟨.word w, _⟩ :: rest => .ok (w, rest)
  | _ => .error (mistake false (some "word") ts)

/- The line of the next token. -/
def lineOf (ts : List Lexeme) : Nat :=
  match ts with
  | [] => 1
  | t :: _ => t.line

------------------------------------------------------------
-- Lists
------------------------------------------------------------

mutual

/-
  Commands up to a token that ends a list; on a line of its
  own, up to the end of the line. A list that has begun may
  be empty.
-/
def readList
    (fuel : Nat)
    (isLine begun : Bool)
    (before : Command)
    (all : List Lexeme) : Except Mistake (Parsed Command) :=
  match fuel with
  | 0 => .error (mistake true none all)
  | n + 1 => do
      let ts := if isLine then all else skipNewlines all
      match ts with
      | [] => pure (before, ts)
      | ⟨.newline _, _⟩ :: rest => pure (before, rest)
      | ⟨.ending, _⟩ :: _ => pure (before, ts)
      | t :: _ =>
          if !isLine && begun && endsList t then
            pure (before, ts)
          else
            let (c, rest) ← readAndOr n ts
            match rest with
            | ⟨.sign .ampersand, _⟩ :: more =>
                readList n isLine true
                  (before.followedBy (.background c)) more
            | ⟨.sign .semicolon, _⟩ :: more =>
                readList n isLine true
                  (before.followedBy c) more
            | ⟨.newline _, _⟩ :: _ =>
                readList n isLine true
                  (before.followedBy c) rest
            | ⟨.ending, _⟩ :: _ =>
                pure (before.followedBy c, rest)
            | _ =>
                if isLine then
                  .error (mistake true none rest)
                else
                  pure (before.followedBy c, rest)

/- Pipelines that depend on the success of each other. -/
def readAndOr
    (fuel : Nat)
    (ts : List Lexeme) : Except Mistake (Parsed Command) :=
  match fuel with
  | 0 => .error (mistake true none ts)
  | n + 1 => do
      let (c, rest) ← readPipeline n ts
      readLinks n c rest

/- The pipelines after one. -/
def readLinks
    (fuel : Nat)
    (left : Command)
    (ts : List Lexeme) : Except Mistake (Parsed Command) :=
  match fuel with
  | 0 => .error (mistake true none ts)
  | n + 1 =>
      match ts with
      | ⟨.sign .andIf, _⟩ :: rest => do
          let (c, more) ← readPipeline n (skipNewlines rest)
          readLinks n (.both left c) more
      | ⟨.sign .orIf, _⟩ :: rest => do
          let (c, more) ← readPipeline n (skipNewlines rest)
          readLinks n (.either left c) more
      | _ => .ok (left, ts)

/- A pipeline, which may be negated. -/
def readPipeline
    (fuel : Nat)
    (ts : List Lexeme) : Except Mistake (Parsed Command) :=
  match fuel with
  | 0 => .error (mistake true none ts)
  | n + 1 =>
      if startsKeyword "!" ts then do
        let (c, rest) ← readPipes n (ts.drop 1)
        pure (.negated c, rest)
      else
        readPipes n ts

/- Commands with bars between them. -/
def readPipes
    (fuel : Nat)
    (ts : List Lexeme) : Except Mistake (Parsed Command) :=
  match fuel with
  | 0 => .error (mistake true none ts)
  | n + 1 => do
      let (c, rest) ← readCommand n ts
      if startsSign .bar rest then
        let (d, more) ←
          readPipes n (skipNewlines (rest.drop 1))
        pure (.piped c d, more)
      else
        pure (c, rest)

/- A command, whatever its kind. -/
def readCommand
    (fuel : Nat)
    (ts : List Lexeme) : Except Mistake (Parsed Command) :=
  match fuel with
  | 0 => .error (mistake true none ts)
  | n + 1 =>
      let line := lineOf ts
      let inside := ts.drop 1
      if startsSign .leftParen ts then do
        let (c, rest) ← readList n false false .nothing inside
        let rest' ← expectSign true .rightParen rest
        readArrows n (.subshell c) rest'
      else
        match ts.head?.bind keyword? with
        | some "\x7b" => do
            let (c, rest) ←
              readList n false false .nothing inside
            let rest' ← expectKeyword "\x7d" rest
            readArrows n c rest'
        | some "if" => do
            let (c, rest) ← readChoice n inside
            let rest' ← expectKeyword "fi" rest
            readArrows n c rest'
        | some "while" => readLoop n false inside
        | some "until" => readLoop n true inside
        | some "for" => do
            let (name, rest) ← readLoopName inside
            let (ws, rest') ← readLoopWords rest
            let (body, more) ← readBody n (skipNewlines rest')
            readArrows n (.each line name ws body) more
        | some "case" => do
            let (w, rest) ← readSubject inside
            let rest' ← expectKeyword "in" (skipNewlines rest)
            let (bs, more) ← readBranches n rest'
            readArrows n (.select line w bs) more
        | some _ => .error (mistake true none ts)
        | none => readPlain n ts

/- The redirections after a compound command. -/
def readArrows
    (fuel : Nat)
    (c : Command)
    (ts : List Lexeme) : Except Mistake (Parsed Command) :=
  match fuel with
  | 0 => .error (mistake true none ts)
  | n + 1 => do
      let (rs, rest) ← readRedirections n ts
      pure (c.withRedirections rs, rest)

/- A simple command or the definition of a function. -/
def readPlain
    (fuel : Nat)
    (ts : List Lexeme) : Except Mistake (Parsed Command) :=
  match fuel with
  | 0 => .error (mistake true none ts)
  | n + 1 =>
      match definition? ts with
      | some (w, rest) => do
          let rest' ← expectSign false .rightParen rest
          match functionName? w with
          | none => .error ⟨.badFunctionName, lineOf rest⟩
          | some name =>
              let (c, more) ← readCommand n (skipNewlines rest')
              pure (.define name c, more)
      | none => do
          let empty := Simple.empty (lineOf ts)
          let (s, rest) ← empty.read n ts
          if s = empty then
            .error (mistake true none rest)
          else
            pure (.simple s, rest)

/- A choice from behind its keyword. -/
def readChoice
    (fuel : Nat)
    (ts : List Lexeme) : Except Mistake (Parsed Command) :=
  match fuel with
  | 0 => .error (mistake true none ts)
  | n + 1 => do
      let (test, rest) ← readList n false false .nothing ts
      let rest ← expectKeyword "then" rest
      let (yes, rest) ← readList n false false .nothing rest
      if startsKeyword "elif" rest then
        let (no, rest) ← readChoice n (rest.drop 1)
        pure (.choice test yes no, rest)
      else if startsKeyword "else" rest then
        let (no, rest) ←
          readList n false false .nothing (rest.drop 1)
        pure (.choice test yes no, rest)
      else
        pure (.choice test yes .nothing, rest)

/- A loop from behind its keyword. -/
def readLoop
    (fuel : Nat)
    (until? : Bool)
    (ts : List Lexeme) : Except Mistake (Parsed Command) :=
  match fuel with
  | 0 => .error (mistake true none ts)
  | n + 1 => do
      let (test, rest) ← readList n false false .nothing ts
      let (body, rest) ← readBody n rest
      readArrows n (.loop until? test body) rest

/- The body of a loop with its keywords. -/
def readBody
    (fuel : Nat)
    (ts : List Lexeme) : Except Mistake (Parsed Command) :=
  match fuel with
  | 0 => .error (mistake true none ts)
  | n + 1 => do
      let rest ← expectKeyword "do" ts
      let (c, rest) ← readList n false false .nothing rest
      let rest ← expectKeyword "done" rest
      pure (c, rest)

/- The branches of a choice by patterns. -/
def readBranches
    (fuel : Nat)
    (all : List Lexeme) : Except Mistake (Parsed Command) :=
  match fuel with
  | 0 => .error (mistake true none all)
  | n + 1 =>
      let ts := skipNewlines all
      if startsKeyword "esac" ts then
        .ok (.nothing, ts.drop 1)
      else do
        let inner :=
          if startsSign .leftParen ts then ts.drop 1 else ts
        let (ps, rest) ← readPatterns n inner
        let (body, rest) ← readList n false true .nothing rest
        let rest := skipNewlines rest
        if startsKeyword "esac" rest then
          pure (.branch ps body .nothing, rest.drop 1)
        else
          let rest ← expectSign true .doubleSemicolon rest
          let (more, rest) ← readBranches n rest
          pure (.branch ps body more, rest)

end

------------------------------------------------------------
-- Scripts
------------------------------------------------------------

/- More steps than the reading of tokens takes. -/
def readingSteps (ts : List Lexeme) : Nat :=
  10 * ts.length + 20

/- The command on the first line, and the tokens after it. -/
def readLine (ts : List Lexeme) : Except Mistake (Parsed Command) :=
  readList (readingSteps ts) true false .nothing ts

/- All of the commands that stand between parentheses. -/
def readSubstitution
    (ts : List Lexeme) : Except Mistake Command := do
  let (c, rest) ←
    readList (readingSteps ts) false true .nothing ts
  match rest with
  | [_] => pure c
  | _ => .error (mistake true (some "\")\"") rest)

namespace Script

/- The token that ends the commands of a substitution. -/
def closing : Token :=
  .sign .rightParen

/-
  The tokens of commands. What stands in a substitution has
  to be right before the command around it runs; `depth`
  bounds how deep such a check goes.
-/
def checked
    (depth line : Nat)
    (last : Token)
    (cs : List Char) : List Lexeme :=
  match depth with
  | 0 => lexemes line last cs
  | n + 1 =>
      let fault? (p : Piece) : Option Mistake :=
        match p with
        | .command _ line text =>
            match readSubstitution
                (checked n line closing text) with
            | .error e => some e
            | .ok _ => none
        | _ => none
      (lexemes line last cs).map
        (fun t =>
          match t.token with
          | .word w =>
              match w.findSome? fault? with
              | some e => ⟨.broken e.fault, e.line⟩
              | none => t
          | _ => t)

/- The tokens of a text. -/
def ofText
    (line : Nat)
    (cs : List Char) : List Lexeme :=
  checked cs.length line .ending cs

/- The commands of a substitution. -/
def ofSubstitution
    (line : Nat)
    (cs : List Char) : Except Mistake Command :=
  readSubstitution (checked cs.length line closing cs)

end Script

end ContainerBuild.Shell
