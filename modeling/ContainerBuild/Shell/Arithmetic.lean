import ContainerBuild.Number.Decimal
import ContainerBuild.Shell.Word

/-
  This file defines the arithmetic of the shell: whole
  numbers of 64 bits, and names whose values are read as
  numbers. A mistake is a part of what was read, so that it
  shows only when the evaluation comes to it; what is not
  evaluated has to be free of mistakes too.

  Key definitions include:
    * `wrap`
    * `Operator`
    * `Mark`
    * `Formula`
    * `Formula.ofMarks`
    * `Formula.eval`
    * `readNumber?`
-/

namespace ContainerBuild.Shell

open Text

------------------------------------------------------------
-- Numbers
------------------------------------------------------------

/- How many numbers 64 bits hold. -/
def wordCount : Int :=
  18446744073709551616

/- The number of 64 bits that a whole number wraps to. -/
def wrap (n : Int) : Int :=
  Int.bmod n 18446744073709551616

/- The greatest number of 64 bits. -/
def greatest : Int :=
  9223372036854775807

/- The least number of 64 bits. -/
def least : Int :=
  -9223372036854775808

/- A wrapped number lies between the least and the greatest. -/
theorem wrap_bounds (n : Int) :
    least ≤ wrap n ∧ wrap n ≤ greatest := by
  have h1 := @Int.le_bmod n 18446744073709551616 (by decide)
  have h2 := @Int.bmod_lt n 18446744073709551616 (by decide)
  simp only [wrap, least, greatest]
  omega

/- The bits of a number as a natural number. -/
def bits (n : Int) : Nat :=
  (n % wordCount).toNat

/- The base that the start of a numeral names, and the rest. -/
def baseOf (cs : List Char) : Nat × List Char :=
  match cs with
  | '0' :: x :: d :: rest =>
      let digits := d :: rest
      if (x = 'x' || x = 'X') && (hexValue? d).isSome then
        (16, digits)
      else if (x = 'b' || x = 'B') && (d = '0' || d = '1') then
        (2, digits)
      else
        (8, cs)
  | '0' :: _ => (8, cs)
  | _ => (10, cs)

/- Whether a character is a digit in a base. -/
def isDigitOf
    (base : Nat)
    (c : Char) : Bool :=
  match hexValue? c with
  | some d => d < base
  | none => false

/- The number that digits in a base spell. -/
def spelled
    (base : Nat)
    (ds : List Char) : Nat :=
  ds.foldl (fun n d => n * base + (hexValue? d).getD 0) 0

/- A numeral without a sign, and what follows it. -/
def readNumeral (cs : List Char) : Nat × List Char :=
  let b := baseOf cs
  let ds := b.2.takeWhile (isDigitOf b.1)
  (spelled b.1 ds, b.2.drop ds.length)

/- The white space around numbers. -/
def isNumberGap (c : Char) : Bool :=
  c = ' ' || ('\t' ≤ c && c ≤ '\r')

/-
  A number with its sign at the start of characters, and
  what follows it; without digits nothing is used up.
-/
def readSigned
    (decimalOnly : Bool)
    (cs : List Char) : Int × List Char :=
  let inner := cs.dropWhile isNumberGap
  let negative := inner.head? = some '-'
  let body :=
    if negative || inner.head? = some '+' then
      inner.drop 1
    else
      inner
  if (body.head?.map isAsciiDigit) = some true then
    let n :=
      if decimalOnly then
        let ds := body.takeWhile isAsciiDigit
        (spelled 10 ds, body.drop ds.length)
      else
        readNumeral body
    (if negative then -(n.1 : Int) else (n.1 : Int), n.2)
  else
    (0, cs)

/- Whether a number has 64 bits. -/
def isWord (n : Int) : Bool :=
  least ≤ n && n ≤ greatest

/- The number that a value of a name is; nothing is zero. -/
def readNumber? (cs : List Char) : Option Int :=
  let r := readSigned false cs
  if r.2.all isNumberGap && isWord r.1 then
    some r.1
  else
    none

------------------------------------------------------------
-- Operators
------------------------------------------------------------

/- The operators between two numbers. -/
inductive Operator
  | times
  | quotient
  | remainder
  | plus
  | minus
  | shiftLeft
  | shiftRight
  | less
  | atMost
  | greater
  | atLeast
  | equal
  | unequal
  | bitAnd
  | bitXor
  | bitOr
deriving DecidableEq, Repr

/- The level of an operator; the lowest binds tightest. -/
def Operator.level : Operator → Nat
  | times => 0
  | quotient => 0
  | remainder => 0
  | plus => 1
  | minus => 1
  | shiftLeft => 2
  | shiftRight => 2
  | less => 3
  | atMost => 3
  | greater => 3
  | atLeast => 3
  | equal => 4
  | unequal => 4
  | bitAnd => 5
  | bitXor => 6
  | bitOr => 7

/- One for what holds, and zero. -/
def truth (b : Bool) : Int :=
  if b then 1 else 0

/- What is wrong with a formula. -/
inductive FormulaFault
  | divisionByZero
  | noPrimary
  | noColon
  | noParenthesis
  | noEnd
  | illegal (value : List Char)
  | locked (name : List Char)
deriving DecidableEq, Repr

/- The message about a fault in a text. -/
def FormulaFault.message
    (source : List Char)
    (f : FormulaFault) : List Char :=
  let about (s : String) : List Char :=
    ("arithmetic expression: " ++ s ++ ": \"").toList
      ++ source ++ ['"']
  match f with
  | divisionByZero => about "division by zero"
  | noPrimary => about "expecting primary"
  | noColon => about "expecting ':'"
  | noParenthesis => about "expecting ')'"
  | noEnd => about "expecting EOF"
  | illegal v => "Illegal number: ".toList ++ v
  | locked x => x ++ ": is read only".toList

/- The number that an operator makes of two. -/
def Operator.apply
    (op : Operator)
    (a b : Int) : Except FormulaFault Int :=
  match op with
  | times => .ok (wrap (a * b))
  | quotient =>
      if b = 0 then
        .error .divisionByZero
      else
        .ok (wrap (a.tdiv b))
  | remainder =>
      if b = 0 then
        .error .divisionByZero
      else
        .ok (wrap (a.tmod b))
  | plus => .ok (wrap (a + b))
  | minus => .ok (wrap (a - b))
  | shiftLeft =>
      .ok (wrap (a * (Nat.pow 2 (b % 64).toNat : Nat)))
  | shiftRight =>
      .ok (a.fdiv (Nat.pow 2 (b % 64).toNat : Nat))
  | less => .ok (truth (a < b))
  | atMost => .ok (truth (a ≤ b))
  | greater => .ok (truth (b < a))
  | atLeast => .ok (truth (b ≤ a))
  | equal => .ok (truth (a = b))
  | unequal => .ok (truth (a != b))
  | bitAnd => .ok (wrap (Nat.land (bits a) (bits b) : Nat))
  | bitXor => .ok (wrap (Nat.xor (bits a) (bits b) : Nat))
  | bitOr => .ok (wrap (Nat.lor (bits a) (bits b) : Nat))

------------------------------------------------------------
-- Marks
------------------------------------------------------------

/- A token of a formula. -/
inductive Mark
  | number (n : Int)
  | name (x : List Char)
  | operator (op : Operator)
  | assign (op : Option Operator)
  | andThen
  | orElse
  | question
  | colon
  | bang
  | tilde
  | left
  | right
  | unknown
deriving DecidableEq, Repr

/- The signs of formulas, longer ones first. -/
def signMarks : List (String × Mark) :=
  [("<<=", .assign (some .shiftLeft)),
    (">>=", .assign (some .shiftRight)),
    ("<<", .operator .shiftLeft),
    (">>", .operator .shiftRight),
    ("<=", .operator .atMost),
    (">=", .operator .atLeast),
    ("==", .operator .equal),
    ("!=", .operator .unequal),
    ("&&", .andThen),
    ("||", .orElse),
    ("*=", .assign (some .times)),
    ("/=", .assign (some .quotient)),
    ("%=", .assign (some .remainder)),
    ("+=", .assign (some .plus)),
    ("-=", .assign (some .minus)),
    ("&=", .assign (some .bitAnd)),
    ("^=", .assign (some .bitXor)),
    ("|=", .assign (some .bitOr)),
    ("*", .operator .times),
    ("/", .operator .quotient),
    ("%", .operator .remainder),
    ("+", .operator .plus),
    ("-", .operator .minus),
    ("<", .operator .less),
    (">", .operator .greater),
    ("&", .operator .bitAnd),
    ("^", .operator .bitXor),
    ("|", .operator .bitOr),
    ("=", .assign none),
    ("?", .question),
    (":", .colon),
    ("!", .bang),
    ("~", .tilde),
    ("(", .left),
    (")", .right)]

/- The mark at the start of characters, and its length. -/
def readMark
    (c : Char)
    (rest : List Char) : Mark × Nat :=
  let cs := c :: rest
  if isAsciiDigit c then
    let n := readNumeral cs
    (.number (min (n.1 : Int) greatest),
      cs.length - n.2.length)
  else if startsName c then
    let x := cs.takeWhile isNameChar
    (.name x, x.length)
  else
    match signMarks.find?
        (fun s => s.1.toList = cs.take s.1.length) with
    | some s => (s.2, s.1.length)
    | none => (.unknown, 1)

/- The marks of a text. -/
def readMarks (cs : List Char) : List Mark :=
  match cs with
  | [] => []
  | c :: rest =>
      if isNumberGap c then
        readMarks rest
      else
        let m := readMark c rest
        m.1 :: readMarks (rest.drop (m.2 - 1))
termination_by cs.length
decreasing_by
  all_goals simp only [List.length_drop, List.length_cons]
  all_goals omega

------------------------------------------------------------
-- Formulas
------------------------------------------------------------

/- A formula, with the mistakes that were made in it. -/
inductive Formula
  | number (n : Int)
  | name (x : List Char)
  | negate (e : Formula)
  | complement (e : Formula)
  | opposite (e : Formula)
  | binary (op : Operator) (a b : Formula)
  | both (a b : Formula)
  | either (a b : Formula)
  | choose (test yes no : Formula)
  | assign (op : Option Operator) (x : List Char) (e : Formula)
  | broken (f : FormulaFault)
  | cutShort (e : Formula) (f : FormulaFault)
deriving DecidableEq, Repr

namespace Formula

/- A formula and the marks after it. -/
abbrev Taken :=
  Formula × List Mark

mutual

/- A formula that may assign. -/
def readAssignment
    (fuel : Nat)
    (ms : List Mark) : Taken :=
  match fuel with
  | 0 => (.broken .noPrimary, ms)
  | n + 1 =>
      match ms with
      | .name x :: .assign op :: rest =>
          let e := readAssignment n rest
          (.assign op x e.1, e.2)
      | _ => readChoice n ms

/- A formula that may choose between two. -/
def readChoice
    (fuel : Nat)
    (ms : List Mark) : Taken :=
  match fuel with
  | 0 => (.broken .noPrimary, ms)
  | n + 1 =>
      let test := readEither n ms
      match test.2 with
      | .question :: rest =>
          let yes := readAssignment n rest
          match yes.2 with
          | .colon :: more =>
              let no := readChoice n more
              (.choose test.1 yes.1 no.1, no.2)
          | _ =>
              (.choose test.1 (.cutShort yes.1 .noColon)
                (.broken .noColon), yes.2)
      | _ => test

/- A formula of alternatives. -/
def readEither
    (fuel : Nat)
    (ms : List Mark) : Taken :=
  match fuel with
  | 0 => (.broken .noPrimary, ms)
  | n + 1 =>
      let a := readBoth n ms
      match a.2 with
      | .orElse :: rest =>
          let b := readEither n rest
          (.either a.1 b.1, b.2)
      | _ => a

/- A formula of conditions. -/
def readBoth
    (fuel : Nat)
    (ms : List Mark) : Taken :=
  match fuel with
  | 0 => (.broken .noPrimary, ms)
  | n + 1 =>
      let first := readPrimary n ms
      let a := readOperators n 8 first.1 first.2
      match a.2 with
      | .andThen :: rest =>
          let b := readBoth n rest
          (.both a.1 b.1, b.2)
      | _ => a

/- The operators after a formula, of levels below a limit. -/
def readOperators
    (fuel limit : Nat)
    (a : Formula)
    (ms : List Mark) : Taken :=
  match fuel with
  | 0 => (a, ms)
  | n + 1 =>
      match ms with
      | .operator op :: rest =>
          if op.level < limit then
            let first := readPrimary n rest
            let b := readOperators n op.level first.1 first.2
            readOperators n limit (.binary op a b.1) b.2
          else
            (a, ms)
      | _ => (a, ms)

/- A number, a name, or a formula in parentheses. -/
def readPrimary
    (fuel : Nat)
    (ms : List Mark) : Taken :=
  match fuel with
  | 0 => (.broken .noPrimary, ms)
  | n + 1 =>
      match ms with
      | .left :: rest =>
          let e := readAssignment n rest
          match e.2 with
          | .right :: more => (e.1, more)
          | _ => (.cutShort e.1 .noParenthesis, e.2)
      | .number k :: rest => (.number k, rest)
      | .name x :: rest => (.name x, rest)
      | .operator .plus :: rest => readPrimary n rest
      | .operator .minus :: rest =>
          let e := readPrimary n rest
          (.negate e.1, e.2)
      | .bang :: rest =>
          let e := readPrimary n rest
          (.opposite e.1, e.2)
      | .tilde :: rest =>
          let e := readPrimary n rest
          (.complement e.1, e.2)
      | _ => (.broken .noPrimary, ms)

end

/- The formula that marks write. -/
def ofMarks (ms : List Mark) : Formula :=
  let e := readAssignment (8 * ms.length + 8) ms
  if e.2 = [] then
    e.1
  else
    .cutShort e.1 .noEnd

/- The formula that a text writes. -/
def ofText (cs : List Char) : Formula :=
  ofMarks (readMarks cs)

------------------------------------------------------------
-- Evaluation
------------------------------------------------------------

/- The first mistake that was made in a formula. -/
def fault? : Formula → Option FormulaFault
  | number _ => none
  | name _ => none
  | negate e => fault? e
  | complement e => fault? e
  | opposite e => fault? e
  | binary _ a b => (fault? a).or (fault? b)
  | both a b => (fault? a).or (fault? b)
  | either a b => (fault? a).or (fault? b)
  | choose t a b =>
      ((fault? t).or (fault? a)).or (fault? b)
  | assign _ _ e => fault? e
  | broken f => some f
  | cutShort e f => (fault? e).or (some f)

/- What names mean, and which of them must not change. -/
structure Names where
  value : List Char → List Char
  isLocked : List Char → Bool

/- The numbers that names were assigned, latest first. -/
abbrev Assigned :=
  List (List Char × Int)

/- The number that a name stands for. -/
def valueOf
    (names : Names)
    (s : Assigned)
    (x : List Char) : Except FormulaFault Int :=
  match s.lookup x with
  | some n => .ok n
  | none =>
      match readNumber? (names.value x) with
      | some n => .ok n
      | none => .error (.illegal (names.value x))

/- Refuse the mistakes of what is not evaluated. -/
def skipping
    (skipped : Formula)
    (n : Int)
    (s : Assigned) : Except FormulaFault (Int × Assigned) :=
  match skipped.fault? with
  | some f => .error f
  | none => .ok (n, s)

/- The number of a formula, and what it assigned. -/
def eval
    (names : Names)
    (s : Assigned)
    (e : Formula) : Except FormulaFault (Int × Assigned) :=
  match e with
  | number n => .ok (n, s)
  | name x => do
      let n ← valueOf names s x
      pure (n, s)
  | negate e => do
      let (n, s) ← eval names s e
      pure (wrap (-n), s)
  | complement e => do
      let (n, s) ← eval names s e
      pure (-n - 1, s)
  | opposite e => do
      let (n, s) ← eval names s e
      pure (truth (n = 0), s)
  | binary op a b => do
      let (m, s) ← eval names s a
      let (n, s) ← eval names s b
      let r ← op.apply m n
      pure (r, s)
  | both a b => do
      let (m, s) ← eval names s a
      if m = 0 then
        skipping b 0 s
      else
        let (n, s) ← eval names s b
        pure (truth (n != 0), s)
  | either a b => do
      let (m, s) ← eval names s a
      if m != 0 then
        skipping b 1 s
      else
        let (n, s) ← eval names s b
        pure (truth (n != 0), s)
  | choose t a b => do
      let (m, s) ← eval names s t
      if m != 0 then
        let (n, s) ← eval names s a
        skipping b n s
      else
        match a.fault? with
        | some f => .error f
        | none => eval names s b
  | assign op x e => do
      let (n, s) ← eval names s e
      let r ←
        match op with
        | none => pure n
        | some op => do
            let m ← valueOf names s x
            op.apply m n
      if names.isLocked x then
        .error (.locked x)
      else
        pure (r, (x, r) :: s)
  | broken f => .error f
  | cutShort e f => do
      let _ ← eval names s e
      .error f

end Formula

end ContainerBuild.Shell
