import ContainerBuild.Yaml.Cursor
import ContainerBuild.Text.Digit

/-
  This file defines the reading of YAML scalars in their
  four layouts: plain, in single or double quotes, and as a
  block whose line ends are kept or folded.

  Key definitions include:
    * `scanPlain`
    * `scanQuoted`
    * `scanBlock`
-/

namespace ContainerBuild.Yaml

open Text

------------------------------------------------------------
-- Plain scalars
------------------------------------------------------------

/- The marks of flow collections. -/
def flowMarks : List Char :=
  [',', '[', ']', '\x7b', '\x7d']

/- Whether a colon before this character ends a scalar. -/
def endsAfterColon
    (inFlow : Bool)
    (next : Option Char) : Bool :=
  isGap next
    || (inFlow && (next.map flowMarks.contains).getD false)

/- The characters of a plain scalar up to a gap or a mark. -/
def plainRun
    (inFlow : Bool)
    (cs : List Char) : List Char :=
  match cs with
  | [] => []
  | c :: rest =>
      if isGap (some c)
          || (c = ':' && endsAfterColon inFlow rest.head?)
          || (inFlow && (c = '?' || flowMarks.contains c))
      then
        []
      else
        c :: plainRun inFlow rest

/-
  Line ends and spaces within a plain scalar: the line ends,
  or nothing if a document mark follows one of them.
-/
def plainBreaks
    (fuel : Nat)
    (c : Cursor) : Option (List Char) × Cursor :=
  match fuel with
  | 0 => (some [], c)
  | n + 1 =>
      if c.here = some ' ' then
        plainBreaks n c.step
      else
        match c.takeBreak with
        | ([], _) => (some [], c)
        | (b, c') =>
            if c'.atDocumentMark then
              (none, c')
            else
              let more := plainBreaks n c'
              (more.1.map (fun bs => b ++ bs), more.2)

/- What line ends are folded to. -/
def foldBreaks
    (first breaks : List Char) : List Char :=
  if first != ['\n'] then
    first ++ breaks
  else if breaks = [] then
    [' ']
  else
    breaks

/- What stands between two parts of a plain scalar. -/
structure PlainGap where
  filling : List Char
  newLine : Bool

/- Read what stands between two parts of a plain scalar. -/
def plainGap (c : Cursor) : PlainGap × Cursor :=
  let spaces := c.run (fun ch => ch = ' ')
  let c := c.skipSpaces
  match c.takeBreak with
  | ([], _) => (⟨spaces, false⟩, c)
  | (first, c') =>
      if c'.atDocumentMark then
        (⟨[], true⟩, c')
      else
        match plainBreaks c'.fuel c' with
        | (none, c'') => (⟨[], true⟩, c'')
        | (some bs, c'') => (⟨foldBreaks first bs, true⟩, c'')

/- A plain scalar, and whether a new line was begun after it. -/
structure PlainText where
  text : List Char
  newLine : Bool

/- Read the parts of a plain scalar. -/
def plainParts
    (inFlow : Bool)
    (indent : Int)
    (fuel : Nat)
    (c : Cursor)
    (newLine : Bool) : PlainText × Cursor :=
  match fuel with
  | 0 => (⟨[], newLine⟩, c)
  | n + 1 =>
      let part :=
        if c.here = some '#' then
          []
        else
          plainRun inFlow c.rest
      if part = [] then
        (⟨[], newLine⟩, c)
      else
        match plainGap (c.forward part.length) with
        | (gap, c') =>
            if gap.filling = [] || c'.here = some '#'
                || (!inFlow && (c'.column : Int) < indent) then
              (⟨part, gap.newLine⟩, c')
            else
              match plainParts inFlow indent n c'
                  gap.newLine with
              | (more, c'') =>
                  if more.text = [] then
                    (⟨part, more.newLine⟩, c'')
                  else
                    (⟨part ++ gap.filling ++ more.text,
                      more.newLine⟩, c'')

/- Read a plain scalar that must be indented so far. -/
def scanPlain
    (inFlow : Bool)
    (indent : Int)
    (c : Cursor) : PlainText × Cursor :=
  plainParts inFlow indent c.fuel c false

------------------------------------------------------------
-- Quoted scalars
------------------------------------------------------------

/- The character of a one-letter escape. -/
def escape? (c : Char) : Option Char :=
  if c = '0' then some '\x00'
  else if c = 'a' then some '\x07'
  else if c = 'b' then some '\x08'
  else if c = 't' || c = '\t' then some '\t'
  else if c = 'n' then some '\n'
  else if c = 'v' then some '\x0B'
  else if c = 'f' then some '\x0C'
  else if c = 'r' then some '\r'
  else if c = 'e' then some '\x1B'
  else if c = 'N' then some '\x85'
  else if c = '_' then some '\xA0'
  else if c = 'L' then some '\u2028'
  else if c = 'P' then some '\u2029'
  else if c = ' ' || c = '"' || c = '\\' || c = '/' then
    some c
  else none

/- The number of digits of a numeric escape. -/
def escapeWidth? (c : Char) : Option Nat :=
  if c = 'x' then
    some 2
  else if c = 'u' then
    some 4
  else if c = 'U' then
    some 8
  else
    none

/-
  The character with a code. Half of a surrogate pair is
  none, and another character stands in its place.
-/
def charOfCode (n : Nat) : Except Fault Char :=
  if 0x7FFFFFFF < n then
    .error .oversized
  else if 0x10FFFF < n then
    .error (.badValue "chr() arg not in range(0x110000)")
  else if 0xD800 ≤ n && n < 0xE000 then
    .ok '\uFFFD'
  else
    .ok (Char.ofNat n)

/- Line ends within a quoted scalar, blanks around them read. -/
def quotedBreaks
    (fuel : Nat)
    (c : Cursor) : Scan (List Char) :=
  match fuel with
  | 0 => .error .malformed
  | n + 1 =>
      if c.atDocumentMark then
        .error .malformed
      else
        let c := c.skip isInline
        match c.takeBreak with
        | ([], _) => .ok ([], c)
        | (b, c') =>
            match quotedBreaks n c' with
            | .error e => .error e
            | .ok (bs, c'') => .ok (b ++ bs, c'')

/- Blanks and line ends within a quoted scalar. -/
def quotedGap (c : Cursor) : Scan (List Char) :=
  let blanks := c.run isInline
  let c := c.skip isInline
  match c.here with
  | none => .error .malformed
  | some _ =>
      match c.takeBreak with
      | ([], _) => .ok (blanks, c)
      | (first, c') =>
          match quotedBreaks c'.fuel c' with
          | .error e => .error e
          | .ok (bs, c'') => .ok (foldBreaks first bs, c'')

/- Read an escape after its backslash. -/
def scanEscape (c : Cursor) : Scan (List Char) :=
  match c.here with
  | none => .error .malformed
  | some ch =>
      match escape? ch, escapeWidth? ch with
      | some d, _ => .ok ([d], c.step)
      | none, some width =>
          let c := c.step
          let ds := c.rest.take width
          match ofHexDigits? ds with
          | none => .error .malformed
          | some n =>
              if ds.length < width then
                .error .malformed
              else
                match charOfCode n with
                | .error e => .error e
                | .ok d => .ok ([d], c.forward width)
      | none, none =>
          match c.takeBreak with
          | ([], _) => .error .malformed
          | (_, c') => quotedBreaks c'.fuel c'

/- The characters that need no attention within quotes. -/
def isPlainInQuotes (c : Char) : Bool :=
  c != '\'' && c != '"' && c != '\\' && !isInline c
    && !isBreak c

/- Read a quoted scalar after its opening quote. -/
def quotedParts
    (isDouble : Bool)
    (fuel : Nat)
    (c : Cursor) : Scan (List Char) :=
  match fuel with
  | 0 => .error .malformed
  | n + 1 =>
      let go (front : List Char) (r : Scan (List Char)) :
          Scan (List Char) :=
        match r with
        | .error e => .error e
        | .ok (back, c') => .ok (front ++ back, c')
      match c.here with
      | none => .error .malformed
      | some ch =>
          if isPlainInQuotes ch then
            let part := c.run isPlainInQuotes
            go part
              (quotedParts isDouble n
                (c.forward part.length))
          else if isInline ch || isBreak ch then
            match quotedGap c with
            | .error e => .error e
            | .ok (gap, c') =>
                go gap (quotedParts isDouble n c')
          else if isDouble then
            if ch = '"' then
              .ok ([], c.step)
            else if ch = '\\' then
              match scanEscape c.step with
              | .error e => .error e
              | .ok (d, c') =>
                  go d (quotedParts isDouble n c')
            else
              go [ch] (quotedParts isDouble n c.step)
          else if ch = '\'' then
            if c.peek 1 = some '\'' then
              go [ch] (quotedParts isDouble n (c.forward 2))
            else
              .ok ([], c.step)
          else
            go [ch] (quotedParts isDouble n c.step)

/- Read a quoted scalar. -/
def scanQuoted
    (isDouble : Bool)
    (c : Cursor) : Scan (List Char) :=
  quotedParts isDouble c.fuel c.step

------------------------------------------------------------
-- Block scalars
------------------------------------------------------------

/- What to do with the line ends after a block. -/
inductive Chomping
  | clip
  | strip
  | keep
deriving DecidableEq

/- The marks after the sign of a block. -/
structure BlockHeader where
  chomping : Chomping
  increment : Option Nat

/- The chomping that a sign asks for. -/
def chomping? (o : Option Char) : Option Chomping :=
  if o = some '+' then
    some .keep
  else if o = some '-' then
    some .strip
  else
    none

/- The indentation that a digit asks for. -/
def increment? (o : Option Char) : Option Nat :=
  o.bind (fun c =>
    if isAsciiDigit c then digitValue? c else none)

/- Read the marks after the sign of a block. -/
def scanHeader (c : Cursor) : Scan BlockHeader :=
  let found : BlockHeader × Cursor :=
    match chomping? c.here with
    | some ch =>
        match increment? c.step.here with
        | some n => (⟨ch, some n⟩, c.forward 2)
        | none => (⟨ch, none⟩, c.step)
    | none =>
        match increment? c.here with
        | some n =>
            match chomping? c.step.here with
            | some ch => (⟨ch, some n⟩, c.forward 2)
            | none => (⟨.clip, some n⟩, c.step)
        | none => (⟨.clip, none⟩, c)
  if found.1.increment = some 0
      || !isSpaceOrEnd found.2.here then
    .error .malformed
  else
    .ok found

/- Read the rest of a line that may hold only a comment. -/
def endLine (c : Cursor) : Except Fault Cursor :=
  let c := c.skipSpaces.skipComment
  if isLineEnd c.here then
    .ok c.takeBreak.2
  else
    .error .malformed

/- Read empty lines and find the deepest indentation. -/
def blockIndentation
    (fuel : Nat)
    (deepest : Nat)
    (c : Cursor) : List Char × Nat × Cursor :=
  match fuel with
  | 0 => ([], deepest, c)
  | n + 1 =>
      if c.here = some ' ' then
        let c := c.step
        blockIndentation n (max deepest c.column) c
      else
        match c.takeBreak with
        | ([], _) => ([], deepest, c)
        | (b, c') =>
            match blockIndentation n deepest c' with
            | (bs, d, c'') => (b ++ bs, d, c'')

/- Read spaces up to an indentation. -/
def indentTo
    (indent : Nat)
    (c : Cursor) : Cursor :=
  let spaces := (c.run (fun ch => ch = ' ')).length
  c.forward (min spaces (indent - c.column))

/- Read empty lines and the indentation of the next line. -/
def blockBreaks
    (indent : Nat)
    (fuel : Nat)
    (c : Cursor) : List Char × Cursor :=
  let c := indentTo indent c
  match fuel with
  | 0 => ([], c)
  | n + 1 =>
      match c.takeBreak with
      | ([], _) => ([], c)
      | (b, c') =>
          match blockBreaks indent n c' with
          | (bs, c'') => (b ++ bs, c'')

/- Whether a block goes on with a line here. -/
def blockGoesOn
    (indent : Nat)
    (c : Cursor) : Bool :=
  c.column = indent && c.here.isSome

/- Whether a line does not start with a blank. -/
def startsText (c : Cursor) : Bool :=
  !((c.here.map isInline).getD false)

/- The tail of a block, after its last line. -/
def blockTail
    (chomping : Chomping)
    (lineEnd breaks : List Char) : List Char :=
  match chomping with
  | .strip => []
  | .clip => lineEnd
  | .keep => lineEnd ++ breaks

/- What stands between two lines of a block. -/
def blockJoint
    (folded bothText : Bool)
    (lineEnd breaks : List Char) : List Char :=
  if folded && lineEnd = ['\n'] && bothText then
    if breaks = [] then
      [' ']
    else
      breaks
  else
    lineEnd ++ breaks

/- Read the lines of a block, the empty ones before it read. -/
def blockLines
    (folded : Bool)
    (chomping : Chomping)
    (indent : Nat)
    (fuel : Nat)
    (c : Cursor) : List Char × Cursor :=
  match fuel with
  | 0 => ([], c)
  | n + 1 =>
      let textHere := startsText c
      let line := c.run (fun ch => !isBreak ch)
      match (c.forward line.length).takeBreak with
      | (lineEnd, c') =>
          match blockBreaks indent c'.fuel c' with
          | (breaks, c'') =>
              if blockGoesOn indent c'' then
                match blockLines folded chomping indent n c''
                with
                | (more, c3) =>
                    (line
                      ++ blockJoint folded
                        (textHere && startsText c'')
                        lineEnd breaks
                      ++ more, c3)
              else
                (line ++ blockTail chomping lineEnd breaks,
                  c'')

/-
  Read a block scalar. A block without lines keeps its empty
  lines only if all line ends are kept.
-/
def scanBlock
    (folded : Bool)
    (indent : Int)
    (c : Cursor) : Scan (List Char) :=
  match scanHeader c.step with
  | .error e => .error e
  | .ok (header, c) =>
      match endLine c with
      | .error e => .error e
      | .ok c =>
          let least := max (indent + 1) 1
          let found : List Char × Nat × Cursor :=
            match header.increment with
            | none =>
                match blockIndentation c.fuel 0 c with
                | (bs, deepest, c') =>
                    (bs, max least.toNat deepest, c')
            | some n =>
                let i := least.toNat + n - 1
                match blockBreaks i c.fuel c with
                | (bs, c') => (bs, i, c')
          let breaks := found.1
          let i := found.2.1
          let c := found.2.2
          if blockGoesOn i c then
            match blockLines folded header.chomping i
                c.fuel c with
            | (text, c') => .ok (breaks ++ text, c')
          else
            .ok (blockTail header.chomping [] breaks, c)

end ContainerBuild.Yaml
