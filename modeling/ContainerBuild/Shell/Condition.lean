import ContainerBuild.Process.Lookup
import ContainerBuild.Shell.Arithmetic
import ContainerBuild.Text.Octets

/-
  This file defines the conditions that scripts test: texts
  and numbers are compared, files are looked at, and the
  results are joined by connectives. A word is an operator
  only where it can be one.

  Key definitions include:
    * `Condition.Kind`
    * `Condition.kindAt`
    * `Condition.readOr`
    * `Condition.holds`
-/

namespace ContainerBuild.Shell.Condition

open Text

/- The words of a condition. -/
abbrev Words :=
  List (List Char)

/- The kinds of operators. -/
inductive Kind
  | unary
  | binary
  | negation
  | conjunction
  | disjunction
  | leftParen
  | rightParen
deriving DecidableEq, Repr

/- What is wrong with a condition. -/
inductive Fault
  | unexpected (word : List Char)
  | noArgument (operator : List Char)
  | notClosed
  | illegal (number : List Char)
deriving DecidableEq, Repr

/- The message about a fault. -/
def Fault.message : Fault → List Char
  | unexpected w => w ++ ": unexpected operator".toList
  | noArgument w => w ++ ": argument expected".toList
  | notClosed => "closing paren expected".toList
  | illegal w => "Illegal number: ".toList ++ w

/- A truth value, and the words after what it was made of. -/
abbrev Judgement :=
  Except Fault (Bool × Words)

------------------------------------------------------------
-- Operators
------------------------------------------------------------

/- The letters of operators on one word. -/
def unaryLetters : List Char :=
  "rwxefdcbpugkstznhOGLS".toList

/- The operators between two words. -/
def binaryOperators : List String :=
  ["=", "!=", "<", ">", "-eq", "-ne", "-ge", "-gt", "-le",
    "-lt", "-nt", "-ot", "-ef"]

/- The kind of operator that a word can be. -/
def kind? (w : List Char) : Option Kind :=
  match w with
  | ['!'] => some .negation
  | ['('] => some .leftParen
  | [')'] => some .rightParen
  | ['-', 'a'] => some .conjunction
  | ['-', 'o'] => some .disjunction
  | ['-', c] =>
      if unaryLetters.contains c then some .unary else none
  | _ =>
      if binaryOperators.contains (String.ofList w) then
        some .binary
      else
        none

/- Whether a word that is followed so is no operator. -/
def isOperand (rest : Words) : Bool :=
  match rest with
  | [] => true
  | [_] => false
  | w :: _ => kind? w = some .binary

/- The kind of operator that the first word is here. -/
def kindAt (ws : Words) : Option Kind :=
  match ws with
  | [] => none
  | w :: rest =>
      match kind? w with
      | some .unary =>
          if isOperand rest then none else some .unary
      | some .leftParen =>
          if rest = [] then none else some .leftParen
      | k => k

------------------------------------------------------------
-- Comparisons
------------------------------------------------------------

/- The number that a word writes. -/
def numberOf (w : List Char) : Except Fault Int :=
  let r := readSigned true w
  if r.2 = w || !r.2.all isNumberGap || !isWord r.1 then
    .error (.illegal w)
  else
    .ok r.1

/- Compare two numbers. -/
def compareNumbers
    (test : Int → Int → Bool)
    (a b : List Char) : Except Fault Bool := do
  let m ← numberOf a
  let n ← numberOf b
  pure (test m n)

/- Whether one text stands before another. -/
def precedes
    (a b : List Char) : Bool :=
  match a, b with
  | [], [] => false
  | [], _ :: _ => true
  | _ :: _, [] => false
  | c :: cs, d :: ds =>
      if c = d then
        precedes cs ds
      else
        c < d

/- Whether two paths lead to the same place. -/
def sameFile
    (d : Disk)
    (a b : List Char) : Bool :=
  match d.find? (gather a), d.find? (gather b) with
  | some x, some y => x.1 = y.1
  | _, _ => false

/- Whether a comparison holds. -/
def compares
    (d : Disk)
    (a op b : List Char) : Except Fault Bool :=
  match String.ofList op with
  | "=" => .ok (a = b)
  | "!=" => .ok (a != b)
  | "<" => .ok (precedes a b)
  | ">" => .ok (precedes b a)
  | "-eq" => compareNumbers (fun m n => m = n) a b
  | "-ne" => compareNumbers (fun m n => m != n) a b
  | "-ge" => compareNumbers (fun m n => n ≤ m) a b
  | "-gt" => compareNumbers (fun m n => n < m) a b
  | "-le" => compareNumbers (fun m n => m ≤ n) a b
  | "-lt" => compareNumbers (fun m n => m < n) a b
  | "-ef" => .ok (sameFile d a b)
  | _ => .ok false

/- The device that takes and gives nothing. -/
def nullPath : String :=
  "/dev/null"

/- What is said about the entry at a path. -/
def describes
    (d : Disk)
    (letter : Char)
    (path : String) : Bool :=
  match d.find? path with
  | none => false
  | some (_, .directory) => "edrwxs".toList.contains letter
  | some (l, .file c) =>
      if letter = 'x' then
        Programs.isProgram l
      else if letter = 's' then
        c.bytes != []
      else if letter = 'c' then
        path = nullPath
      else if letter = 'f' then
        path != nullPath
      else
        "erwOG".toList.contains letter

/- Whether an operator on one word holds. -/
def unaryHolds
    (d : Disk)
    (op w : List Char) : Except Fault Bool :=
  match op with
  | ['-', 'z'] => .ok (w = [])
  | ['-', 'n'] => .ok (w != [])
  | ['-', 't'] => do
      let _ ← numberOf w
      pure false
  | ['-', c] => .ok (describes d c (gather w))
  | _ => .ok false

------------------------------------------------------------
-- Connectives
------------------------------------------------------------

/- A comparison, a word, or an operator on one. -/
def readSimple
    (d : Disk)
    (ws : Words) : Judgement :=
  match ws with
  | [] => .ok (false, [])
  | w :: rest =>
      if kindAt ws = some .unary then do
        match rest with
        | [] => .error (.noArgument w)
        | x :: more =>
            let b ← unaryHolds d w x
            pure (b, more)
      else if kindAt rest = some .binary then do
        match rest with
        | op :: x :: more =>
            let b ← compares d w op x
            pure (b, more)
        | op :: [] => .error (.noArgument op)
        | [] => .ok (false, [])
      else
        .ok (w != [], rest)

mutual

/- Alternatives; the words are those of all of them. -/
def readOr
    (d : Disk)
    (fuel : Nat)
    (ws : Words) : Judgement :=
  match fuel with
  | 0 => .ok (false, ws)
  | n + 1 => do
      let (a, rest) ← readAnd d n ws
      if kindAt rest = some .disjunction then
        let (b, more) ← readOr d n (rest.drop 1)
        pure (a || b, more)
      else
        pure (a, rest)

/- Conditions that all have to hold. -/
def readAnd
    (d : Disk)
    (fuel : Nat)
    (ws : Words) : Judgement :=
  match fuel with
  | 0 => .ok (false, ws)
  | n + 1 => do
      let (a, rest) ← readNot d n ws
      if kindAt rest = some .conjunction then
        let (b, more) ← readAnd d n (rest.drop 1)
        pure (a && b, more)
      else
        pure (a, rest)

/- A condition that may be negated. -/
def readNot
    (d : Disk)
    (fuel : Nat)
    (ws : Words) : Judgement :=
  match fuel with
  | 0 => .ok (false, ws)
  | n + 1 =>
      if kindAt ws = some .negation then do
        let (a, rest) ← readNot d n (ws.drop 1)
        pure (!a, rest)
      else
        readPrimary d n ws

/- A condition in parentheses, or a simple one. -/
def readPrimary
    (d : Disk)
    (fuel : Nat)
    (ws : Words) : Judgement :=
  match fuel with
  | 0 => .ok (false, ws)
  | n + 1 =>
      if kindAt ws = some .leftParen then
        let inner := ws.drop 1
        if kindAt inner = some .rightParen then
          .ok (false, inner.drop 1)
        else do
          let (a, rest) ← readOr d n inner
          if kindAt rest = some .rightParen then
            pure (a, rest.drop 1)
          else
            .error .notClosed
      else
        readSimple d ws

end

------------------------------------------------------------
-- Conditions
------------------------------------------------------------

/- The word that stands before the words left over. -/
def lastUsed
    (ws rest : Words) : List Char :=
  ((ws.take (ws.length - rest.length)).getLast?).getD []

/- A condition of which all words have to be used. -/
def readAll
    (d : Disk)
    (ws : Words) : Except Fault Bool := do
  let (a, rest) ← readOr d (6 * ws.length + 6) ws
  if rest = [] then
    pure a
  else
    .error (.unexpected (lastUsed ws rest))

/-
  Whether a condition holds. With three words a comparison
  goes before all else, and with three or four words
  parentheses around all, or a negation of all.
-/
def holds
    (d : Disk)
    (ws : Words) : Except Fault Bool :=
  match ws with
  | [] => .ok false
  | [a, op, b] =>
      if kind? op = some .binary then
        compares d a op b
      else if a = ['('] && b = [')'] then
        readAll d [op]
      else if a = ['!'] then do
        let r ← readAll d [op, b]
        pure (!r)
      else
        readAll d ws
  | [a, x, y, b] =>
      if a = ['('] && b = [')'] then
        readAll d [x, y]
      else if a = ['!'] then do
        let r ← holds d [x, y, b]
        pure (!r)
      else
        readAll d ws
  | _ => readAll d ws
termination_by ws.length

end ContainerBuild.Shell.Condition
