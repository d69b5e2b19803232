import ContainerBuild.Shell.Extent

/-
  This file defines how characters read as the pieces of a
  word, depending on the quotes around them. What stands
  within braces or parentheses is kept as it is written,
  and is read when the word is expanded.

  Key definitions include:
    * `Quoting`
    * `parameterHead`
    * `readDollar`
    * `readPieces`
    * `readWord`
    * `readText`
-/

namespace ContainerBuild.Shell

open Text

------------------------------------------------------------
-- Quoting
------------------------------------------------------------

/-
  What is around characters: nothing, double quotes, the
  braces of a parameter between such quotes, or the bounds
  of a document.
-/
inductive Quoting
  | bare
  | double
  | argument
  | document
deriving DecidableEq, Repr

namespace Quoting

/- Whether characters stand for themselves. -/
def isQuoted (q : Quoting) : Bool :=
  q != bare

/- The characters that a backslash takes their meaning. -/
def escapes
    (q : Quoting)
    (c : Char) : Bool :=
  c = '$' || c = '\x60' || c = '\\'
    || (c = '"' && q != document)
    || (c = '\x7d' && q = argument)

end Quoting

/- What was read after a sign, and the count of characters. -/
structure Scanned (α : Type) where
  value : α
  used : Nat
deriving Repr

------------------------------------------------------------
-- Parameters
------------------------------------------------------------

/- The operator after the name of a parameter. -/
def operator (cs : List Char) : Scanned Expansion :=
  match cs with
  | '\x7d' :: _ => ⟨.value, 0⟩
  | ':' :: '-' :: _ => ⟨.fallback true, 2⟩
  | ':' :: '=' :: _ => ⟨.assignment true, 2⟩
  | ':' :: '?' :: _ => ⟨.demand true, 2⟩
  | ':' :: '+' :: _ => ⟨.substitute true, 2⟩
  | '-' :: _ => ⟨.fallback false, 1⟩
  | '=' :: _ => ⟨.assignment false, 1⟩
  | '?' :: _ => ⟨.demand false, 1⟩
  | '+' :: _ => ⟨.substitute false, 1⟩
  | '%' :: '%' :: _ => ⟨.trim true true, 2⟩
  | '%' :: _ => ⟨.trim true false, 1⟩
  | '#' :: '#' :: _ => ⟨.trim false true, 2⟩
  | '#' :: _ => ⟨.trim false false, 1⟩
  | _ => ⟨.malformed, 0⟩

/- The name at the start of characters, if there is one. -/
def leadingName (cs : List Char) : List Char :=
  match cs with
  | [] => []
  | c :: _ =>
      if startsName c then
        cs.takeWhile isNameChar
      else if isAsciiDigit c then
        cs.takeWhile isAsciiDigit
      else if isSpecialName c then
        [c]
      else
        []

/- A name with the operator after it. -/
def namedHead
    (cs : List Char) : Scanned (List Char × Expansion) :=
  let name := leadingName cs
  if name = [] then
    ⟨([], .malformed), 0⟩
  else
    let op := operator (cs.drop name.length)
    ⟨(name, op.value), name.length + op.used⟩

/- A name whose length is asked for. -/
def lengthHead
    (cs : List Char) : Scanned (List Char × Expansion) :=
  let name := leadingName cs
  if (cs.drop name.length).head? = some '\x7d' then
    ⟨(name, .length), name.length + 1⟩
  else
    ⟨(name, .malformed), name.length + 1⟩

/-
  What stands in braces before an argument. A sign for the
  length is a parameter itself unless a name follows.
-/
def parameterHead
    (cs : List Char) : Scanned (List Char × Expansion) :=
  match cs with
  | '#' :: c :: rest =>
      if isNameChar c then
        lengthHead (c :: rest)
      else if c = '\x7d' || rest.head? != some '\x7d' then
        namedHead cs
      else
        lengthHead (c :: rest)
  | _ => namedHead cs

/- A parameter in braces, from behind the left one. -/
def readBraced
    (quoted : Bool)
    (cs : List Char) : Except Fault (Scanned Piece) :=
  let head := parameterHead cs
  let rest := cs.drop head.used
  match extent (.brace (quoted && !trims cs)) rest with
  | .error e => .error e
  | .ok n =>
      .ok ⟨.parameter quoted head.value.1 head.value.2
          (rest.take (n - 1)),
        head.used + n⟩

------------------------------------------------------------
-- Signs
------------------------------------------------------------

/- What follows a dollar sign, or the sign itself. -/
def readDollar
    (quoted : Bool)
    (line : Nat)
    (cs : List Char) : Except Fault (Scanned Piece) :=
  match cs with
  | '(' :: '(' :: rest =>
      match extent (.sum 0) rest with
      | .error e => .error e
      | .ok n =>
          .ok ⟨.arithmetic quoted (rest.take (n - 2)), n + 2⟩
  | '(' :: rest =>
      match extent (.substitution 0) rest with
      | .error e => .error e
      | .ok n =>
          .ok ⟨.command quoted line (rest.take (n - 1)),
            n + 1⟩
  | '\x7b' :: rest =>
      match readBraced quoted rest with
      | .error e => .error e
      | .ok p => .ok ⟨p.value, p.used + 1⟩
  | c :: _ =>
      if startsName c then
        let name := cs.takeWhile isNameChar
        .ok ⟨.parameter quoted name .value [], name.length⟩
      else if isSpecialName c then
        .ok ⟨.parameter quoted [c] .value [], 1⟩
      else
        .ok ⟨.literal quoted ['$'], 0⟩
  | [] => .ok ⟨.literal quoted ['$'], 0⟩

/- Commands between backquotes without their escapes. -/
def dropEscapes
    (quoted : Bool)
    (cs : List Char) : List Char :=
  match cs with
  | [] => []
  | '\\' :: c :: rest =>
      if c = '\x60' || c = '\\' || c = '$'
          || (quoted && c = '"') then
        c :: dropEscapes quoted rest
      else
        '\\' :: c :: dropEscapes quoted rest
  | c :: rest => c :: dropEscapes quoted rest

/- Commands from behind the left backquote. -/
def readBackquoted
    (quoted : Bool)
    (line : Nat)
    (cs : List Char) : Except Fault (Scanned Piece) :=
  match extent .backquote cs with
  | .error e => .error e
  | .ok n =>
      .ok ⟨.command quoted line
        (dropEscapes quoted (cs.take (n - 1))), n⟩

/- The character after a backslash. -/
def readEscaped
    (q : Quoting)
    (cs : List Char) : Scanned Word :=
  match cs with
  | [] => ⟨[.literal q.isQuoted ['\\']], 0⟩
  | c :: _ =>
      if c = '\n' then
        ⟨[], 1⟩
      else if q = .bare || q.escapes c then
        ⟨[.literal true [c]], 1⟩
      else
        ⟨[.literal true ['\\']], 0⟩

/- A single piece as a word. -/
def single
    (p : Except Fault (Scanned Piece)) :
    Except Fault (Scanned Word) :=
  match p with
  | .error e => .error e
  | .ok s => .ok ⟨[s.value], s.used⟩

/- The pieces that a character begins, but for quotes. -/
def readSign
    (q : Quoting)
    (line : Nat)
    (c : Char)
    (rest : List Char) : Except Fault (Scanned Word) :=
  if c = '\\' then
    .ok (readEscaped q rest)
  else if c = '$' then
    single (readDollar q.isQuoted line rest)
  else if c = '\x60' then
    single (readBackquoted q.isQuoted line rest)
  else
    .ok ⟨[.literal q.isQuoted [c]], 0⟩

/- Characters from behind the left single quote. -/
def readSingle
    (cs : List Char) : Except Fault (Scanned Word) :=
  match extent .single cs with
  | .error e => .error e
  | .ok n => .ok ⟨[.literal true (cs.take (n - 1))], n⟩

------------------------------------------------------------
-- Words
------------------------------------------------------------

/- All parameters, which may be no field at all. -/
def allParameters : Piece :=
  .parameter true ['@'] .value []

/- The pieces between quotes, which are a field if empty. -/
def markQuoted (w : Word) : Word :=
  if w = [allParameters] then
    w
  else
    Word.cons (.literal true []) w

/-
  The pieces that characters write, up to the end of a word
  or up to the end of the text.
-/
def readPieces
    (stops : Bool)
    (q : Quoting)
    (line : Nat)
    (cs : List Char) : Except Fault (Scanned Word) :=
  match cs with
  | [] => .ok ⟨[], 0⟩
  | c :: rest =>
      if stops && endsWord c then
        .ok ⟨[], 0⟩
      else
        let first : Except Fault (Scanned Word) :=
          if c = '"' && q = .bare then
            match extent .double rest with
            | .error e => .error e
            | .ok n =>
                match readPieces false .double line
                    (rest.take (n - 1)) with
                | .error e => .error e
                | .ok w => .ok ⟨markQuoted w.value, n⟩
          else if c = '"' && q != .document then
            .ok ⟨[], 0⟩
          else if c = '\'' && q = .bare then
            readSingle rest
          else
            readSign q line c rest
        match first with
        | .error e => .error e
        | .ok p =>
            let ended := countLines (c :: rest.take p.used)
            match readPieces stops q (line + ended)
                (rest.drop p.used) with
            | .error e => .error e
            | .ok w =>
                .ok ⟨Word.append p.value w.value,
                  p.used + w.used + 1⟩
termination_by cs.length
decreasing_by
  · simp only [List.length_take, List.length_cons]
    omega
  · simp only [List.length_drop, List.length_cons]
    omega

/- A word and the count of its characters. -/
def readWord
    (line : Nat)
    (cs : List Char) : Except Fault (Scanned Word) :=
  readPieces true .bare line cs

/- All of a text as a word. -/
def readText
    (q : Quoting)
    (line : Nat)
    (cs : List Char) : Except Fault Word :=
  match readPieces false q line cs with
  | .error e => .error e
  | .ok w => .ok w.value

end ContainerBuild.Shell
