import ContainerBuild.Text.Split

/-
  This file defines the reading position in a YAML text and
  the classes of characters that structure it. Past the end
  there is no character, which the classes below that speak
  of ends include.

  Key definitions include:
    * `Fault`
    * `Cursor`
    * `Cursor.peek`
    * `Cursor.forward`
    * `Cursor.takeBreak`
    * `Scan`
-/

namespace ContainerBuild.Yaml

open Text

------------------------------------------------------------
-- Faults
------------------------------------------------------------

/-
  Why a text is not a YAML document: its syntax or structure
  is wrong, a scalar does not have the value its tag
  promises, or it nests too deep. A scalar may fail by an
  unknown word, by being empty, by not having the form at
  all, by being no scalar, or by a number that is too large.
-/
inductive Fault
  | malformed
  | badValue (message : String)
  | unknownWord (word : String)
  | emptyNumber
  | noMoment
  | noScalar
  | oversized
  | tooDeep
deriving DecidableEq, Repr

------------------------------------------------------------
-- Characters
------------------------------------------------------------

/- The characters that a document may hold. -/
def isAllowed (c : Char) : Bool :=
  let n := c.toNat
  n = 0x09 || n = 0x0A || n = 0x0D
    || (0x20 ≤ n && n ≤ 0x7E) || n = 0x85
    || (0xA0 ≤ n && n ≤ 0xFFFD) || 0x10000 ≤ n

/- The characters that end a line. -/
def isBreak (c : Char) : Bool :=
  c = '\n' || c = '\r' || c = '\x85'
    || c = '\u2028' || c = '\u2029'

/- A line end or the end of the text. -/
def isLineEnd (o : Option Char) : Bool :=
  match o with
  | none => true
  | some c => isBreak c

/- A space, a line end or the end of the text. -/
def isSpaceOrEnd (o : Option Char) : Bool :=
  o = some ' ' || isLineEnd o

/- A space, a tab, a line end or the end of the text. -/
def isGap (o : Option Char) : Bool :=
  o = some '\t' || isSpaceOrEnd o

/- A space or a tab. -/
def isInline (c : Char) : Bool :=
  c = ' ' || c = '\t'

/- The characters of anchors and of directive names. -/
def isWordChar (c : Char) : Bool :=
  ('0' ≤ c && c ≤ '9') || ('A' ≤ c && c ≤ 'Z')
    || ('a' ≤ c && c ≤ 'z') || c = '-' || c = '_'

------------------------------------------------------------
-- Cursors
------------------------------------------------------------

/- What is left to read, and where it starts. -/
structure Cursor where
  rest : List Char
  index : Nat
  line : Nat
  column : Nat

namespace Cursor

/- The start of a text. -/
def start (cs : List Char) : Cursor :=
  ⟨cs, 0, 0, 0⟩

/- The character at a distance. -/
def peek
    (c : Cursor)
    (k : Nat) : Option Char :=
  c.rest[k]?

/- The character to be read next. -/
def here (c : Cursor) : Option Char :=
  c.rest.head?

/- Read one character. -/
def step (c : Cursor) : Cursor :=
  match c.rest with
  | [] => c
  | ch :: rest =>
      if isBreak ch
          && !(ch = '\r' && rest.head? = some '\n') then
        ⟨rest, c.index + 1, c.line + 1, 0⟩
      else if ch = '\uFEFF' then
        ⟨rest, c.index + 1, c.line, c.column⟩
      else
        ⟨rest, c.index + 1, c.line, c.column + 1⟩

/- Read some characters. -/
def forward
    (c : Cursor)
    (n : Nat) : Cursor :=
  match n with
  | 0 => c
  | k + 1 => c.step.forward k

/- The characters up to the first one that does not fit. -/
def run
    (c : Cursor)
    (p : Char → Bool) : List Char :=
  c.rest.takeWhile p

/- Read the characters that fit. -/
def skip
    (c : Cursor)
    (p : Char → Bool) : Cursor :=
  c.forward (c.run p).length

/- Read spaces. -/
def skipSpaces (c : Cursor) : Cursor :=
  c.skip (fun ch => ch = ' ')

/- Read the rest of the line, if it is a comment. -/
def skipComment (c : Cursor) : Cursor :=
  if c.here = some '#' then
    c.skip (fun ch => !isBreak ch)
  else
    c

/-
  Read a line end and give what it stands for: nothing if
  there is none, a line feed for all but the separators.
-/
def takeBreak (c : Cursor) : List Char × Cursor :=
  match c.rest with
  | '\r' :: '\n' :: _ => (['\n'], c.forward 2)
  | ch :: _ =>
      if ch = '\u2028' || ch = '\u2029' then
        ([ch], c.step)
      else if isBreak ch then
        (['\n'], c.step)
      else
        ([], c)
  | [] => ([], c)

/- Whether a mark of three equal signs stands alone here. -/
def hasMark
    (c : Cursor)
    (mark : List Char) : Bool :=
  startsWith mark c.rest && isGap (c.peek 3)

/- Whether a document starts or ends here. -/
def atDocumentMark (c : Cursor) : Bool :=
  c.hasMark ['-', '-', '-'] || c.hasMark ['.', '.', '.']

/- A bound on how many characters can still be read. -/
def fuel (c : Cursor) : Nat :=
  c.rest.length + 1

end Cursor

/- A value read at a position, and the position after it. -/
abbrev Scan (α : Type) :=
  Except Fault (α × Cursor)

end ContainerBuild.Yaml
