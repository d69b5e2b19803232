import ContainerBuild.Yaml.Text
import ContainerBuild.Number.Literal
import ContainerBuild.Text.Utf8

/-
  This file defines the tokens of YAML text. Indentation is
  turned into marks for the start and end of block
  collections. What may be the key of a mapping is only
  known when a colon follows; its mark is then put in front
  of it, provided that it is on one line and not too long.
  A fault of the text stands behind the tokens that are
  settled before it is met.

  Key definitions include:
    * `Token`
    * `SimpleKey`
    * `Lexer`
    * `Lexer.settled`
    * `tokens`
-/

namespace ContainerBuild.Yaml

open Text

------------------------------------------------------------
-- Tokens
------------------------------------------------------------

/- A line of instructions before a document. -/
inductive Directive
  | version (major : Nat)
  | tagHandle (handle start : List Char)
  | other
deriving DecidableEq, Repr

/- A token; a fault is what cannot be read any further. -/
inductive Token
  | directive (d : Directive)
  | documentStart
  | documentEnd
  | streamEnd
  | blockSequenceStart
  | blockMappingStart
  | blockEnd
  | flowSequenceStart
  | flowMappingStart
  | flowSequenceEnd
  | flowMappingEnd
  | blockEntry
  | flowEntry
  | key
  | value
  | alias (name : List Char)
  | anchor (name : List Char)
  | tag (handle : Option (List Char)) (rest : List Char)
  | scalar (plain : Bool) (text : List Char)
  | broken (f : Fault)
deriving DecidableEq, Repr

------------------------------------------------------------
-- State
------------------------------------------------------------

/-
  A place where a key may have begun: the number of tokens
  before it and its position. A required one must turn out
  to be a key.
-/
structure SimpleKey where
  tokenNumber : Nat
  required : Bool
  index : Nat
  line : Nat
  column : Nat

/-
  The tokens so far, last one first; the indentations of the
  open block collections, innermost first; whether a key may
  begin here; and the possible key of each flow level, the
  current level first, so that the last one belongs to block
  context.
-/
structure Lexer where
  cursor : Cursor
  found : List Token
  indents : List Int
  keyAllowed : Bool
  levels : List (Option SimpleKey)

namespace Lexer

/- The start of a text. -/
def start (cs : List Char) : Lexer :=
  ⟨Cursor.start cs, [], [], true, [none]⟩

/- The current indentation, -1 outside collections. -/
def indent (x : Lexer) : Int :=
  x.indents.headD (-1)

/- Whether a flow collection is open. -/
def inFlow (x : Lexer) : Bool :=
  1 < x.levels.length

/- Move the cursor. -/
def moveTo
    (x : Lexer)
    (c : Cursor) : Lexer :=
  ⟨c, x.found, x.indents, x.keyAllowed, x.levels⟩

/- Append a token. -/
def add
    (x : Lexer)
    (t : Token) : Lexer :=
  ⟨x.cursor, t :: x.found, x.indents, x.keyAllowed,
    x.levels⟩

/- Say whether a key may begin. -/
def allow
    (x : Lexer)
    (b : Bool) : Lexer :=
  ⟨x.cursor, x.found, x.indents, b, x.levels⟩

/- Replace the possible keys. -/
def withLevels
    (x : Lexer)
    (ls : List (Option SimpleKey)) : Lexer :=
  ⟨x.cursor, x.found, x.indents, x.keyAllowed, ls⟩

/- Read some characters as a token. -/
def take
    (x : Lexer)
    (n : Nat)
    (t : Token) : Lexer :=
  (x.moveTo (x.cursor.forward n)).add t

/- The possible key of the current level. -/
def possibleKey (x : Lexer) : Option SimpleKey :=
  x.levels.headD none

------------------------------------------------------------
-- Simple keys
------------------------------------------------------------

/- A key must not be longer than this. -/
def maxKey : Nat :=
  1024

/- Whether a possible key is too far back. -/
def isStale
    (c : Cursor)
    (k : SimpleKey) : Bool :=
  k.line != c.line || maxKey < c.index - k.index

/- Give up a possible key, which must not be required. -/
def dropKey (x : Lexer) : Except Fault Lexer :=
  match x.levels with
  | [] => .ok x
  | none :: _ => .ok x
  | some k :: rest =>
      if k.required then
        .error .malformed
      else
        .ok (x.withLevels (none :: rest))

/- Give up the possible keys that are too far back. -/
def dropStale (x : Lexer) : Except Fault Lexer :=
  let stale (o : Option SimpleKey) : Bool :=
    (o.map (isStale x.cursor)).getD false
  let lost (o : Option SimpleKey) : Bool :=
    stale o && (o.map SimpleKey.required).getD false
  if x.levels.any lost then
    .error .malformed
  else
    .ok (x.withLevels
      (x.levels.map (fun o => if stale o then none else o)))

/- Note that a key may begin here. -/
def saveKey (x : Lexer) : Except Fault Lexer :=
  if !x.keyAllowed then
    .ok x
  else
    match x.dropKey with
    | .error e => .error e
    | .ok x =>
        let c := x.cursor
        let k : SimpleKey :=
          ⟨x.found.length,
            !x.inFlow && x.indent = (c.column : Int),
            c.index, c.line, c.column⟩
        .ok (x.withLevels (some k :: x.levels.drop 1))

/- Put a token behind the first `n` ones. -/
def insertAt
    (x : Lexer)
    (n : Nat)
    (t : Token) : Lexer :=
  let later := x.found.length - n
  ⟨x.cursor, x.found.take later ++ t :: x.found.drop later,
    x.indents, x.keyAllowed, x.levels⟩

------------------------------------------------------------
-- Indentation
------------------------------------------------------------

/- Close block collections that are indented deeper. -/
def unwindTo
    (column : Int)
    (is : List Int)
    (found : List Token) : List Int × List Token :=
  match is with
  | [] => ([], found)
  | i :: rest =>
      if column < i then
        unwindTo column rest (.blockEnd :: found)
      else
        (is, found)

/- Close block collections, outside flow collections. -/
def unwind
    (x : Lexer)
    (column : Int) : Lexer :=
  if x.inFlow then
    x
  else
    match unwindTo column x.indents x.found with
    | (is, found) =>
        ⟨x.cursor, found, is, x.keyAllowed, x.levels⟩

/- Open a collection if a column is indented deeper. -/
def addIndent
    (x : Lexer)
    (column : Nat) : Bool × Lexer :=
  if x.indent < (column : Int) then
    (true,
      ⟨x.cursor, x.found, (column : Int) :: x.indents,
        x.keyAllowed, x.levels⟩)
  else
    (false, x)

/-
  Open a block collection here if it is indented deeper. In
  block context it must be allowed to begin.
-/
def openBlock
    (x : Lexer)
    (t : Token) : Except Fault Lexer :=
  if x.inFlow then
    .ok x
  else if !x.keyAllowed then
    .error .malformed
  else
    match x.addIndent x.cursor.column with
    | (true, x) => .ok (x.add t)
    | (false, x) => .ok x

------------------------------------------------------------
-- Gaps
------------------------------------------------------------

/- Read spaces, comments and line ends. -/
def skipGap
    (fuel : Nat)
    (x : Lexer) : Lexer :=
  match fuel with
  | 0 => x
  | n + 1 =>
      let c := x.cursor.skipSpaces.skipComment
      match c.takeBreak with
      | ([], _) => x.moveTo c
      | (_, c') =>
          let x := x.moveTo c'
          skipGap n (if x.inFlow then x else x.allow true)

/- A mark at the very start of a text is not read. -/
def skipMark (x : Lexer) : Lexer :=
  if x.cursor.index = 0 && x.cursor.here = some '\uFEFF' then
    x.moveTo x.cursor.step
  else
    x

------------------------------------------------------------
-- Tags, anchors and directives
------------------------------------------------------------

/- The characters of a tag after its handle. -/
def isTagChar (c : Char) : Bool :=
  isWordChar c || ";/?:@&=+$,.!~*'()[]%".toList.contains c

/- Read octets written as escapes. -/
def scanOctets
    (fuel : Nat)
    (c : Cursor) : Scan (List UInt8) :=
  match fuel with
  | 0 => .error .malformed
  | n + 1 =>
      if c.here = some '%' then
        let ds := c.step.rest.take 2
        match ofHexDigits? ds with
        | none => .error .malformed
        | some b =>
            if ds.length < 2 then
              .error .malformed
            else
              match scanOctets n (c.forward 3) with
              | .error e => .error e
              | .ok (bs, c') => .ok (UInt8.ofNat b :: bs, c')
      else
        .ok ([], c)

/- Read the rest of a tag, escapes resolved. -/
def scanTagRest
    (fuel : Nat)
    (c : Cursor) : Scan (List Char) :=
  match fuel with
  | 0 => .error .malformed
  | n + 1 =>
      if c.here = some '%' then
        match scanOctets c.fuel c with
        | .error e => .error e
        | .ok (bs, c') =>
            match decode? bs with
            | none => .error .malformed
            | some cs =>
                match scanTagRest n c' with
                | .error e => .error e
                | .ok (more, c'') => .ok (cs ++ more, c'')
      else
        match c.here with
        | none => .ok ([], c)
        | some ch =>
            if isTagChar ch then
              match scanTagRest n c.step with
              | .error e => .error e
              | .ok (more, c') => .ok (ch :: more, c')
            else
              .ok ([], c)

/- Read the rest of a tag, which must not be empty. -/
def scanTagText (c : Cursor) : Scan (List Char) :=
  match scanTagRest c.fuel c with
  | .error e => .error e
  | .ok ([], _) => .error .malformed
  | .ok found => .ok found

/- Read a handle: an exclamation mark, or a word in two. -/
def scanHandle (c : Cursor) : Scan (List Char) :=
  if c.here != some '!' then
    .error .malformed
  else if c.peek 1 = some ' ' then
    .ok (['!'], c.step)
  else
    let word := c.step.run isWordChar
    if c.peek (word.length + 1) = some '!' then
      .ok ('!' :: word ++ ['!'], c.forward (word.length + 2))
    else
      .error .malformed

/- Whether a tag has a handle of more than one character. -/
def hasHandle (c : Cursor) : Bool :=
  let word :=
    c.step.rest.takeWhile
      (fun ch => !isSpaceOrEnd (some ch))
  word.contains '!'

/- Read a tag. -/
def scanTag (c : Cursor) : Scan Token :=
  let next := c.peek 1
  let found : Scan Token :=
    if next = some '<' then
      match scanTagText (c.forward 2) with
      | .error e => .error e
      | .ok (cs, c') =>
          if c'.here = some '>' then
            .ok (.tag none cs, c'.step)
          else
            .error .malformed
    else if isGap next then
      .ok (.tag none ['!'], c.step)
    else
      let handle : Scan (List Char) :=
        if hasHandle c then
          scanHandle c
        else
          .ok (['!'], c.step)
      match handle with
      | .error e => .error e
      | .ok (h, c') =>
          match scanTagText c' with
          | .error e => .error e
          | .ok (cs, c'') => .ok (.tag (some h) cs, c'')
  match found with
  | .error e => .error e
  | .ok (t, c') =>
      if isSpaceOrEnd c'.here then
        .ok (t, c')
      else
        .error .malformed

/- What may follow an anchor or an alias. -/
def endsAnchor (o : Option Char) : Bool :=
  isGap o
    || (o.map "?:,]\x7d%@\x60".toList.contains).getD false

/- Read the name of an anchor or an alias. -/
def scanAnchor (c : Cursor) : Scan (List Char) :=
  let c := c.step
  let word := c.run isWordChar
  let c := c.forward word.length
  if word = [] || !endsAnchor c.here then
    .error .malformed
  else
    .ok (word, c)

/- Read a number of a version. -/
def scanVersionNumber (c : Cursor) : Scan Nat :=
  let ds := c.run isAsciiDigit
  if ds = [] then
    .error .malformed
  else if maxDigits < ds.length then
    .error (.badValue (tooManyDigits ds.length))
  else
    .ok (ofDigits ds, c.forward ds.length)

/- Read a version. -/
def scanVersion (c : Cursor) : Scan Directive :=
  match scanVersionNumber c.skipSpaces with
  | .error e => .error e
  | .ok (major, c) =>
      if c.here != some '.' then
        .error .malformed
      else
        match scanVersionNumber c.step with
        | .error e => .error e
        | .ok (_, c) =>
            if isSpaceOrEnd c.here then
              .ok (.version major, c)
            else
              .error .malformed

/- Read a handle and what it stands for. -/
def scanHandleRule (c : Cursor) : Scan Directive :=
  match scanHandle c.skipSpaces with
  | .error e => .error e
  | .ok (h, c) =>
      if c.here != some ' ' then
        .error .malformed
      else
        match scanTagText c.skipSpaces with
        | .error e => .error e
        | .ok (cs, c) =>
            if isSpaceOrEnd c.here then
              .ok (.tagHandle h cs, c)
            else
              .error .malformed

/- Read a directive. -/
def scanDirective (c : Cursor) : Scan Directive :=
  let c := c.step
  let name := c.run isWordChar
  let c := c.forward name.length
  if name = [] || !isSpaceOrEnd c.here then
    .error .malformed
  else
    let found : Scan Directive :=
      if name = "YAML".toList then
        scanVersion c
      else if name = "TAG".toList then
        scanHandleRule c
      else
        .ok (.other, c.skip (fun ch => !isBreak ch))
    match found with
    | .error e => .error e
    | .ok (d, c) =>
        match endLine c with
        | .error e => .error e
        | .ok c => .ok (d, c)

------------------------------------------------------------
-- Fetching
------------------------------------------------------------

/- Read a mark between documents. -/
def fetchDocument
    (x : Lexer)
    (t : Token) : Except Fault Lexer :=
  match (x.unwind (-1)).dropKey with
  | .error e => .error e
  | .ok x => .ok ((x.allow false).take 3 t)

/- Read a directive. -/
def fetchDirective (x : Lexer) : Except Fault Lexer :=
  match (x.unwind (-1)).dropKey with
  | .error e => .error e
  | .ok x =>
      match scanDirective x.cursor with
      | .error e => .error e
      | .ok (d, c) =>
          .ok (((x.allow false).moveTo c).add (.directive d))

/- Read the start of a flow collection. -/
def fetchOpen
    (x : Lexer)
    (t : Token) : Except Fault Lexer :=
  match x.saveKey with
  | .error e => .error e
  | .ok x =>
      .ok (((x.withLevels (none :: x.levels)).allow true).take
        1 t)

/- Read the end of a flow collection, which must be open. -/
def fetchClose
    (x : Lexer)
    (t : Token) : Except Fault Lexer :=
  match x.dropKey with
  | .error e => .error e
  | .ok x =>
      if x.inFlow then
        .ok (((x.withLevels (x.levels.drop 1)).allow
          false).take 1 t)
      else
        .error .malformed

/- Read a comma. -/
def fetchComma (x : Lexer) : Except Fault Lexer :=
  match (x.allow true).dropKey with
  | .error e => .error e
  | .ok x => .ok (x.take 1 .flowEntry)

/- Read the sign of a block entry. -/
def fetchEntry (x : Lexer) : Except Fault Lexer :=
  match x.openBlock .blockSequenceStart with
  | .error e => .error e
  | .ok x =>
      match (x.allow true).dropKey with
      | .error e => .error e
      | .ok x => .ok (x.take 1 .blockEntry)

/- Read the sign of a key. -/
def fetchKey (x : Lexer) : Except Fault Lexer :=
  match x.openBlock .blockMappingStart with
  | .error e => .error e
  | .ok x =>
      match (x.allow (!x.inFlow)).dropKey with
      | .error e => .error e
      | .ok x => .ok (x.take 1 .key)

/- Read the sign of a value; what is before may be its key. -/
def fetchValue (x : Lexer) : Except Fault Lexer :=
  match x.possibleKey with
  | some k =>
      let x := x.withLevels (none :: x.levels.drop 1)
      let x := x.insertAt k.tokenNumber .key
      let x :=
        if x.inFlow then
          x
        else
          match x.addIndent k.column with
          | (true, x) =>
              x.insertAt k.tokenNumber .blockMappingStart
          | (false, x) => x
      .ok ((x.allow false).take 1 .value)
  | none =>
      match x.openBlock .blockMappingStart with
      | .error e => .error e
      | .ok x =>
          match (x.allow (!x.inFlow)).dropKey with
          | .error e => .error e
          | .ok x => .ok (x.take 1 .value)

/- Read something that may be a key. -/
def fetchNode
    (x : Lexer)
    (scan : Cursor → Scan Token) : Except Fault Lexer :=
  match x.saveKey with
  | .error e => .error e
  | .ok x =>
      match scan x.cursor with
      | .error e => .error e
      | .ok (t, c) => .ok (((x.allow false).moveTo c).add t)

/- Read a block scalar. -/
def fetchBlock
    (x : Lexer)
    (folded : Bool) : Except Fault Lexer :=
  match (x.allow true).dropKey with
  | .error e => .error e
  | .ok x =>
      match scanBlock folded x.indent x.cursor with
      | .error e => .error e
      | .ok (cs, c) => .ok ((x.moveTo c).add (.scalar false cs))

/- Read a plain scalar. -/
def fetchPlain (x : Lexer) : Except Fault Lexer :=
  match x.saveKey with
  | .error e => .error e
  | .ok x =>
      match scanPlain x.inFlow (x.indent + 1) x.cursor with
      | (p, c) =>
          .ok (((x.allow p.newLine).moveTo c).add
            (.scalar true p.text))

/- Read a quoted scalar as a token. -/
def quotedToken
    (isDouble : Bool)
    (c : Cursor) : Scan Token :=
  match scanQuoted isDouble c with
  | .error e => .error e
  | .ok (cs, c) => .ok (.scalar false cs, c)

/- Read an anchor or an alias as a token. -/
def anchorToken
    (make : List Char → Token)
    (c : Cursor) : Scan Token :=
  match scanAnchor c with
  | .error e => .error e
  | .ok (name, c) => .ok (make name, c)

/- The marks that no plain scalar starts with. -/
def indicators : List Char :=
  "-?:,[]\x7b\x7d#&*!|>'\"%@\x60".toList

/- Whether a plain scalar starts here. -/
def startsPlain
    (x : Lexer)
    (ch : Char) : Bool :=
  (!isGap (some ch) && !indicators.contains ch)
    || (!isGap (x.cursor.peek 1)
      && (ch = '-'
        || (!x.inFlow && (ch = '?' || ch = ':'))))

/- Read the next token, which starts with a character. -/
def fetchFrom
    (x : Lexer)
    (ch : Char) : Except Fault Lexer :=
  let c := x.cursor
  let alone := isGap (c.peek 1)
  if ch = '%' && c.column = 0 then
    x.fetchDirective
  else if c.column = 0 && c.hasMark ['-', '-', '-'] then
    x.fetchDocument .documentStart
  else if c.column = 0 && c.hasMark ['.', '.', '.'] then
    x.fetchDocument .documentEnd
  else if ch = '[' then
    x.fetchOpen .flowSequenceStart
  else if ch = '\x7b' then
    x.fetchOpen .flowMappingStart
  else if ch = ']' then
    x.fetchClose .flowSequenceEnd
  else if ch = '\x7d' then
    x.fetchClose .flowMappingEnd
  else if ch = ',' then
    x.fetchComma
  else if ch = '-' && alone then
    x.fetchEntry
  else if ch = '?' && (x.inFlow || alone) then
    x.fetchKey
  else if ch = ':' && (x.inFlow || alone) then
    x.fetchValue
  else if ch = '*' then
    x.fetchNode (anchorToken .alias)
  else if ch = '&' then
    x.fetchNode (anchorToken .anchor)
  else if ch = '!' then
    x.fetchNode scanTag
  else if ch = '|' && !x.inFlow then
    x.fetchBlock false
  else if ch = '>' && !x.inFlow then
    x.fetchBlock true
  else if ch = '\'' then
    x.fetchNode (quotedToken false)
  else if ch = '"' then
    x.fetchNode (quotedToken true)
  else if x.startsPlain ch then
    x.fetchPlain
  else
    .error .malformed

------------------------------------------------------------
-- Texts
------------------------------------------------------------

/-
  The count of the tokens that no later colon can change:
  those before the first possible key.
-/
def settled (x : Lexer) : Nat :=
  x.levels.foldl
    (fun n o =>
      match o with
      | none => n
      | some k => min n k.tokenNumber)
    x.found.length

/- The settled tokens, and the fault behind them. -/
def stop
    (x : Lexer)
    (f : Fault) : List Token :=
  (x.found.drop (x.found.length - x.settled)).reverse
    ++ [.broken f]

/- Read up to the next token that does not stand in a gap. -/
def fetchNext (x : Lexer) : Except Fault Lexer :=
  let x := x.skipMark
  match (x.skipGap x.cursor.fuel).dropStale with
  | .error e => .error e
  | .ok x =>
      let x := x.unwind x.cursor.column
      match x.cursor.here with
      | none =>
          match (x.unwind (-1)).dropKey with
          | .error e => .error e
          | .ok x => .ok (x.add .streamEnd)
      | some ch =>
          match x.fetchFrom ch with
          | .error e => .error e
          | .ok x => x.dropStale

/- Whether the end of the text was read. -/
def isDone (x : Lexer) : Bool :=
  x.found.head? = some .streamEnd

/- Read the rest of a text; all that is open must be closed. -/
def fetchAll
    (fuel : Nat)
    (x : Lexer) : List Token :=
  match fuel with
  | 0 => x.stop .malformed
  | n + 1 =>
      match x.fetchNext with
      | .error e => x.stop e
      | .ok y =>
          if y.isDone then
            y.found.reverse
          else
            fetchAll n y

end Lexer

/- The tokens of a text. -/
def tokens (cs : List Char) : List Token :=
  if cs.all isAllowed then
    Lexer.fetchAll (cs.length + 2) (Lexer.start cs)
  else
    [.broken .malformed]

end ContainerBuild.Yaml
