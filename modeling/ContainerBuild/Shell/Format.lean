import ContainerBuild.Number.Literal
import ContainerBuild.Number.Printed
import ContainerBuild.Shell.Arithmetic

/-
  This file defines how texts are written by a format: the
  escapes after a backslash, and the directives after a
  percent sign, each of which takes arguments. A format is
  used again while arguments are left. Arguments that are
  not the numbers they should be are complained about.

  Key definitions include:
    * `readEscape`
    * `unescape`
    * `Directive`
    * `Directive.ofFormat`
    * `Printing`
    * `format`
-/

namespace ContainerBuild.Shell

open Text

------------------------------------------------------------
-- Escapes
------------------------------------------------------------

/- What was written, and the count of characters for it. -/
structure Escape where
  text : List Char
  used : Nat
deriving Repr

/- The octal digits. -/
def isOctalDigit (c : Char) : Bool :=
  '0' ≤ c && c ≤ '7'

/- The octet that octal digits write. -/
def octalChar (cs : List Char) : Char :=
  Char.ofNat (spelled 8 cs % 256)

/- The letters of escapes and what they write. -/
def escapeLetters : List (Char × Char) :=
  [('a', '\x07'), ('b', '\x08'), ('e', '\x1b'),
    ('f', '\x0c'), ('n', '\n'), ('r', '\r'), ('t', '\t'),
    ('v', '\x0b'), ('\\', '\\')]

/- What an escape writes, from behind its backslash. -/
def readEscape (cs : List Char) : Escape :=
  let digits := (cs.take 3).takeWhile isOctalDigit
  match cs with
  | [] => ⟨['\\'], 0⟩
  | c :: _ =>
      if digits ≠ [] then
        ⟨[octalChar digits], digits.length⟩
      else
        match escapeLetters.lookup c with
        | some d => ⟨[d], 1⟩
        | none => ⟨['\\'], 0⟩

/-
  What a text with escapes writes, and whether nothing must
  follow it. An octal number may have a zero before its
  three digits.
-/
def unescape (cs : List Char) : List Char × Bool :=
  match cs with
  | [] => ([], false)
  | c :: rest =>
      if c = '\\' then
        if rest.head? = some 'c' then
          ([], true)
        else
          let zero := rest.head? = some '0'
          let digits :=
            ((rest.drop 1).take 3).takeWhile isOctalDigit
          let e : Escape :=
            if zero then
              ⟨[octalChar digits], 1 + digits.length⟩
            else
              readEscape rest
          let more := unescape (rest.drop e.used)
          (e.text ++ more.1, more.2)
      else
        let more := unescape rest
        (c :: more.1, more.2)
termination_by cs.length
decreasing_by
  all_goals simp only [List.length_drop, List.length_cons]
  all_goals omega

------------------------------------------------------------
-- Directives
------------------------------------------------------------

/- A count in a format: written there, or an argument. -/
inductive Count
  | given (n : Nat)
  | taken
deriving DecidableEq, Repr

/- A part of a format. -/
inductive Directive
  | text (cs : List Char)
  | convert
      (flags : List Char)
      (width : Count)
      (precision : Option Count)
      (letter : Char)
  | invalid (cs : List Char)
  | unfinished
deriving DecidableEq, Repr

namespace Directive

/- A count at the start of characters, and its length. -/
def readCount (cs : List Char) : Count × Nat :=
  match cs with
  | '*' :: _ => (.taken, 1)
  | _ =>
      let ds := cs.takeWhile isAsciiDigit
      (.given (ofDigits ds), ds.length)

/- The letters after which text is converted. -/
def letters : List Char :=
  "bcdiouxXseEfFgG".toList

/- A directive from behind its percent sign. -/
def readDirective (cs : List Char) : Directive × Nat :=
  let flags :=
    cs.takeWhile (fun c => "#-+ 0".toList.contains c)
  let afterFlags := cs.drop flags.length
  let width := readCount afterFlags
  let afterWidth := afterFlags.drop width.2
  let precision : Option Count × Nat :=
    match afterWidth with
    | '.' :: rest =>
        let p := readCount rest
        (some p.1, p.2 + 1)
    | _ => (none, 0)
  let used := flags.length + width.2 + precision.2
  match cs.drop used with
  | [] => (unfinished, used)
  | c :: _ =>
      if c = '%' && used = 0 then
        (text ['%'], 1)
      else if letters.contains c then
        (convert flags width.1 precision.1 c, used + 1)
      else
        (invalid ('%' :: cs.take (used + 1)), used + 1)

/- The first part of a format, and its characters. -/
def scan
    (c : Char)
    (rest : List Char) : Directive × Nat :=
  if c = '\\' then
    let e := readEscape rest
    (text e.text, e.used)
  else if c = '%' then
    readDirective rest
  else
    (text [c], 0)

/- The parts of a format. -/
def ofFormat (cs : List Char) : List Directive :=
  match cs with
  | [] => []
  | c :: rest =>
      let first := scan c rest
      first.1 :: ofFormat (rest.drop first.2)
termination_by cs.length
decreasing_by
  simp only [List.length_drop, List.length_cons]
  omega

/- Whether a part takes an argument. -/
def takes (d : Directive) : Bool :=
  match d with
  | convert _ _ _ _ => true
  | _ => false

end Directive

------------------------------------------------------------
-- Arguments
------------------------------------------------------------

/- A number, and what is wrong with the argument for it. -/
abbrev Judged (α : Type) :=
  α × Option String

/- What is wrong with an argument, given what is left. -/
def judgement
    (cs rest : List Char)
    (inRange : Bool) : Option String :=
  if cs = [] then
    none
  else if rest = cs then
    some "expected numeric value"
  else if rest ≠ [] then
    some "not completely converted"
  else if inRange then
    none
  else
    some "Numerical result out of range"

/- The octet behind a quote, if an argument starts so. -/
def quotedOctet? (cs : List Char) : Option Nat :=
  match cs with
  | c :: rest =>
      if c = '"' || c = '\'' then
        some ((rest.headD '\x00').toNat)
      else
        none
  | [] => none

/- The signed number that an argument is. -/
def integerArgument (cs : List Char) : Judged Int :=
  match quotedOctet? cs with
  | some n => (n, none)
  | none =>
      let r := readSigned false cs
      (max least (min greatest r.1),
        judgement cs r.2 (isWord r.1))

/- The number without a sign that an argument is. -/
def naturalArgument (cs : List Char) : Judged Nat :=
  match quotedOctet? cs with
  | some n => (n, none)
  | none =>
      let r := readSigned false cs
      let inRange : Bool := (r.1.natAbs : Int) < wordCount
      (if inRange then bits r.1 else bits (-1),
        judgement cs r.2 inRange)

/- The longest start of characters that is a real number. -/
def realStart?
    (fuel : Nat)
    (cs : List Char) : Option (Binary64 × Nat) :=
  match realOf? (cs.take fuel) with
  | some x => some (x, fuel)
  | none =>
      match fuel with
      | 0 => none
      | n + 1 => realStart? n cs

/- Whether a number was too great or too small to be read. -/
def isOutOfRange
    (cs : List Char)
    (x : Binary64) : Bool :=
  match x with
  | .infinite _ => cs.any isAsciiDigit
  | .finite _ 0 _ =>
      (cs.takeWhile (fun c => c != 'e' && c != 'E')).any
        (fun c => isAsciiDigit c && c != '0')
  | _ => false

/- The real number that an argument is. -/
def realArgument (cs : List Char) : Judged Binary64 :=
  match quotedOctet? cs with
  | some n => (.ofRatio false n 1, none)
  | none =>
      let inner := cs.dropWhile isNumberGap
      let whole := readSigned false cs
      let found := realStart? inner.length inner
      let length := (found.map Prod.snd).getD 0
      let based := cs.length - whole.2.length
        - (cs.length - inner.length)
      if length < based && whole.2 ≠ cs then
        (.ofRatio (whole.1 < 0) whole.1.natAbs 1,
          judgement cs whole.2 true)
      else
        match found with
        | some (x, n) =>
            (x, judgement cs (inner.drop n)
              (!isOutOfRange (inner.take n) x))
        | none => (.zero, judgement cs cs true)

------------------------------------------------------------
-- Printing
------------------------------------------------------------

/-
  A format that is being written: the arguments left, what
  was written, and the complaints.
-/
structure Printing where
  args : List (List Char)
  text : List Char
  complaints : List (List Char)
  stopped : Bool
  failed : Bool
deriving Repr

namespace Printing

/- The next argument, or nothing. -/
def next (p : Printing) : List Char × Printing :=
  (p.args.headD [], { p with args := p.args.drop 1 })

/- Write text. -/
def write
    (p : Printing)
    (cs : List Char) : Printing :=
  { p with text := p.text ++ cs }

/- Complain about an argument, if something is wrong. -/
def judge
    (p : Printing)
    (arg : List Char)
    (wrong : Option String) : Printing :=
  match wrong with
  | none => p
  | some w =>
      { p with
        complaints :=
          p.complaints ++ [arg ++ ": ".toList ++ w.toList] }

/- Complain and write nothing more. -/
def fail
    (p : Printing)
    (message : List Char) : Printing :=
  { p with
    complaints := p.complaints ++ [message]
    stopped := true
    failed := true }

/- The number of a count, of which an argument may tell. -/
def count
    (p : Printing)
    (c : Count) : Int × Printing :=
  match c with
  | .given n => (n, p)
  | .taken =>
      let a := p.next
      let n := integerArgument a.1
      (n.1, a.2.judge a.1 n.2)

/- The slot of a directive. -/
def slot
    (flags : List Char)
    (width : Int)
    (precision : Option Int) : Printed.Slot :=
  ⟨flags.contains '-' || width < 0, flags.contains '0',
    flags.contains '+', flags.contains ' ',
    flags.contains '#', width.natAbs,
    match precision with
    | none => none
    | some n => if n < 0 then none else some n.toNat⟩

/- The upper case of letters. -/
def upper (cs : List Char) : List Char :=
  cs.map Char.toUpper

/- The way of a letter to write real numbers. -/
def realStyle (letter : Char) : Printed.RealStyle :=
  if letter = 'f' || letter = 'F' then
    .fixed
  else if letter = 'e' || letter = 'E' then
    .exponential
  else
    .general

/- Write an argument as its letter says. -/
def convert
    (p : Printing)
    (s : Printed.Slot)
    (letter : Char) : Printing :=
  let a := p.next
  if letter = 's' then
    a.2.write (s.text a.1)
  else if letter = 'b' then
    let e := unescape a.1
    { a.2.write (s.text e.1) with stopped := e.2 }
  else if letter = 'c' then
    a.2.write
      (s.pad false [] [a.1.headD '\x00'])
  else if letter = 'd' || letter = 'i' then
    let n := integerArgument a.1
    (a.2.judge a.1 n.2).write (s.integer n.1)
  else if letter = 'u' then
    let n := naturalArgument a.1
    (a.2.judge a.1 n.2).write (s.natural 10 n.1)
  else if letter = 'o' then
    let n := naturalArgument a.1
    (a.2.judge a.1 n.2).write (s.natural 8 n.1)
  else if letter = 'x' || letter = 'X' then
    let n := naturalArgument a.1
    let cs := s.natural 16 n.1
    (a.2.judge a.1 n.2).write
      (if letter = 'X' then upper cs else cs)
  else
    let x := realArgument a.1
    let cs := s.real (realStyle letter) x.1
    (a.2.judge a.1 x.2).write
      (if letter.isUpper then upper cs else cs)

/- Write a part of a format. -/
def step
    (p : Printing)
    (d : Directive) : Printing :=
  if p.stopped then
    p
  else
    match d with
    | .text cs => p.write cs
    | .invalid cs =>
        p.fail (cs ++ ": invalid directive".toList)
    | .unfinished => p.fail "missing format character".toList
    | .convert flags width precision letter =>
        let w := p.count width
        match precision with
        | none => w.2.convert (slot flags w.1 none) letter
        | some c =>
            let n := w.2.count c
            n.2.convert (slot flags w.1 (some n.1)) letter

/- Write a format until no arguments are left. -/
def run
    (fuel : Nat)
    (ds : List Directive)
    (p : Printing) : Printing :=
  match fuel with
  | 0 => p
  | n + 1 =>
      let once := ds.foldl step p
      if once.args = [] || once.stopped
          || !ds.any Directive.takes then
        once
      else
        once.run n ds

end Printing

/- Write arguments by a format. -/
def format
    (form : List Char)
    (args : List (List Char)) : Printing :=
  Printing.run (args.length + 1) (Directive.ofFormat form)
    ⟨args, [], [], false, false⟩

end ContainerBuild.Shell
