import ContainerBuild.Json.Value
import ContainerBuild.Number.Literal

/-
  This file defines the tokens of JSON text. A token knows
  where it starts. What cannot be a token is one as well, an
  unreadable one, so that a reader decides whether it gets
  that far.

  Key definitions include:
    * `Position`
    * `Fault`
    * `Symbol`
    * `Limits`
    * `Token`
    * `scanText`
    * `scanNumber`
    * `tokens`
-/

namespace ContainerBuild.Json

open Text

------------------------------------------------------------
-- Faults
------------------------------------------------------------

/- Why a text is not JSON. -/
inductive Problem
  | expectedValue
  | expectedName
  | expectedColon
  | expectedComma
  | unterminatedText
  | controlCharacter
  | unknownEscape
  | malformedUnicodeEscape
  | byteOrderMark
  | extraData
deriving DecidableEq, Repr

/-
  A syntax fault at an offset, an integer of too many
  digits, or nesting beyond the limit.
-/
inductive Fault
  | syntaxAt (problem : Problem) (offset : Nat)
  | integerTooLong (digits : Nat)
  | tooDeep
deriving DecidableEq, Repr

/- The wording of a syntax problem. -/
def Problem.wording : Problem → String
  | .expectedValue => "Expecting value"
  | .expectedName =>
      "Expecting property name enclosed in double quotes"
  | .expectedColon => "Expecting ':' delimiter"
  | .expectedComma => "Expecting ',' delimiter"
  | .unterminatedText => "Unterminated string starting at"
  | .controlCharacter => "Invalid control character at"
  | .unknownEscape => "Invalid \\escape"
  | .malformedUnicodeEscape => "Invalid \\uXXXX escape"
  | .byteOrderMark =>
      "Unexpected UTF-8 BOM (decode using utf-8-sig)"
  | .extraData => "Extra data"

/- The line and column of an offset, both from one. -/
def lineColumn
    (cs : List Char)
    (offset : Nat) : Nat × Nat :=
  (cs.take offset).foldl
    (fun p c =>
      if c = '\n' then
        (p.1 + 1, 1)
      else
        (p.1, p.2 + 1))
    (1, 1)

/- The message of a fault found in a given text. -/
def Fault.message
    (cs : List Char) : Fault → String
  | .syntaxAt problem offset =>
      let p := lineColumn cs offset
      problem.wording ++ ": line " ++ numeral p.1
        ++ " column " ++ numeral p.2
        ++ " (char " ++ numeral offset ++ ")"
  | .integerTooLong digits => tooManyDigits digits
  | .tooDeep => "maximum nesting depth exceeded"

------------------------------------------------------------
-- Tokens
------------------------------------------------------------

/-
  How deep a document may nest and how many digits one of
  its integers may have.
-/
structure Limits where
  depth : Nat
  digits : Nat

/- The limits of ordinary documents. -/
def Limits.standard : Limits :=
  ⟨990, maxDigits⟩

/- What a token stands for. -/
inductive Symbol
  | openArray
  | closeArray
  | openObject
  | closeObject
  | comma
  | colon
  | text (s : String)
  | scalar (v : Value)
  | unreadable (fault : Fault)
  | finish

/- A symbol and the offset where it starts. -/
structure Token where
  symbol : Symbol
  offset : Nat

/- The blanks between tokens. -/
def isGap (c : Char) : Bool :=
  c = ' ' || c = '\t' || c = '\n' || c = '\r'

------------------------------------------------------------
-- Texts
------------------------------------------------------------

/- The character that a one-letter escape stands for. -/
def plainEscape? (c : Char) : Option Char :=
  if c = '"' || c = '\\' || c = '/' then
    some c
  else if c = 'b' then
    some '\x08'
  else if c = 'f' then
    some '\x0c'
  else if c = 'n' then
    some '\n'
  else if c = 'r' then
    some '\r'
  else if c = 't' then
    some '\t'
  else
    none

/-
  The unit after a Unicode escape: four digits with at least
  one more character behind them.
-/
def unicodeUnit? (cs : List Char) : Option Nat :=
  match cs with
  | a :: b :: c :: d :: _ :: _ => ofHexDigits? [a, b, c, d]
  | _ => none

/- The unit of an escape that follows directly. -/
def nextUnit? (cs : List Char) : Option Nat :=
  match cs with
  | '\\' :: 'u' :: rest => unicodeUnit? rest
  | _ => none

/- The first unit of a surrogate pair. -/
def isHighUnit (n : Nat) : Bool :=
  0xD800 ≤ n && n < 0xDC00

/- The second unit of a surrogate pair. -/
def isLowUnit (n : Nat) : Bool :=
  0xDC00 ≤ n && n < 0xE000

/-
  The character of a unit. Half of a surrogate pair is none,
  and another character stands in its place.
-/
def unitChar (n : Nat) : Char :=
  if 0xD800 ≤ n && n < 0xE000 then
    '\uFFFD'
  else
    Char.ofNat n

/- The character of a surrogate pair. -/
def pairChar (high low : Nat) : Char :=
  Char.ofNat
    (0x10000 + (high - 0xD800) * 0x400 + (low - 0xDC00))

/-
  Read one character of a text after its opening mark: the
  character and how many were consumed. `start` is where the
  text opens and `offset` where the character is.
-/
def scanChar
    (start offset : Nat)
    (c : Char)
    (rest : List Char) : Except Fault (Char × Nat) :=
  if c = '\\' then
    match rest with
    | [] => .error (.syntaxAt .unterminatedText start)
    | e :: more =>
        if e = 'u' then
          match unicodeUnit? more with
          | none =>
              .error
                (.syntaxAt .malformedUnicodeEscape (offset + 1))
          | some n =>
              let follow :=
                if isHighUnit n then
                  nextUnit? (more.drop 4)
                else
                  none
              match follow with
              | some m =>
                  if isLowUnit m then
                    .ok (pairChar n m, 12)
                  else
                    .ok (unitChar n, 6)
              | none => .ok (unitChar n, 6)
        else
          match plainEscape? e with
          | some d => .ok (d, 2)
          | none => .error (.syntaxAt .unknownEscape offset)
  else if c.toNat < 0x20 then
    .error (.syntaxAt .controlCharacter offset)
  else
    .ok (c, 1)

/-
  Read a text after its opening mark: its characters and how
  many were consumed, the closing mark included.
-/
def scanText
    (start offset : Nat)
    (cs : List Char) : Except Fault (List Char × Nat) :=
  match cs with
  | [] => .error (.syntaxAt .unterminatedText start)
  | c :: rest =>
      if c = '"' then
        .ok ([], 1)
      else
        match scanChar start offset c rest with
        | .error e => .error e
        | .ok (d, used) =>
            match scanText start (offset + used)
                (rest.drop (used - 1)) with
            | .error e => .error e
            | .ok (ds, n) => .ok (d :: ds, n + used)
termination_by cs.length
decreasing_by
  simp only [List.length_drop, List.length_cons]
  omega

------------------------------------------------------------
-- Numbers
------------------------------------------------------------

/- The fraction digits after a point, if there are some. -/
def fractionDigits (cs : List Char) : List Char :=
  match cs with
  | '.' :: rest => rest.takeWhile isAsciiDigit
  | _ => []

/- The sign and digits of a power of ten, if complete. -/
def powerOf?
    (cs : List Char) : Option (Int × Nat) :=
  match cs with
  | c :: rest =>
      if c = 'e' || c = 'E' then
        let s := takeSign rest
        let ds := s.2.takeWhile isAsciiDigit
        if ds = [] then
          none
        else
          some
            (Binary64.signed s.1 (ofDigits ds),
              1 + (rest.length - s.2.length) + ds.length)
      else
        none
  | [] => none

/- The integral digits: one zero, or a run without one first. -/
def wholeDigits (cs : List Char) : List Char :=
  match cs with
  | '0' :: _ => ['0']
  | _ => cs.takeWhile isAsciiDigit

/-
  Read a magnitude: its symbol and how many characters were
  consumed, none if there is no number.
-/
def scanNumber
    (limits : Limits)
    (negative : Bool)
    (cs : List Char) : Symbol × Nat :=
  let whole := wholeDigits cs
  let rest := cs.drop whole.length
  let fraction := fractionDigits rest
  let fractionSize :=
    if fraction = [] then 0 else fraction.length + 1
  let power := powerOf? (rest.drop fractionSize)
  let isReal := fraction != [] || power.isSome
  let used :=
    whole.length + fractionSize
      + (power.map Prod.snd).getD 0
  if isReal then
    let shift := (power.map Prod.fst).getD 0
    (.scalar (.real (Binary64.ofDecimal negative
      (ofDigits (whole ++ fraction))
      (shift - (fraction.length : Int)))), used)
  else if limits.digits < whole.length then
    (.unreadable (.integerTooLong whole.length), used)
  else
    (.scalar (.integer
      (Binary64.signed negative (ofDigits whole))), used)

------------------------------------------------------------
-- Scanning
------------------------------------------------------------

/- The words and their values. -/
def words : List (List Char × Value) :=
  [("null".toList, .null),
    ("true".toList, .bool true),
    ("false".toList, .bool false),
    ("NaN".toList, .real .nan),
    ("Infinity".toList, .real (.infinite false)),
    ("-Infinity".toList, .real (.infinite true))]

/- The marks and their symbols. -/
def mark? (c : Char) : Option Symbol :=
  if c = '[' then
    some .openArray
  else if c = ']' then
    some .closeArray
  else if c = '\x7b' then
    some .openObject
  else if c = '\x7d' then
    some .closeObject
  else if c = ',' then
    some .comma
  else if c = ':' then
    some .colon
  else
    none

/- Read a word or a number. -/
def scanScalar
    (limits : Limits)
    (offset : Nat)
    (cs : List Char) : Symbol × Nat :=
  match words.find? (fun w => startsWith w.1 cs) with
  | some w => (.scalar w.2, w.1.length)
  | none =>
      let negative := startsWith ['-'] cs
      let size := if negative then 1 else 0
      let body := cs.drop size
      if (body.head?.map isAsciiDigit).getD false then
        let found := scanNumber limits negative body
        (found.1, found.2 + size)
      else
        (.unreadable (.syntaxAt .expectedValue offset), 0)

/- Read one symbol and how many characters it has. -/
def scanSymbol
    (limits : Limits)
    (offset : Nat)
    (c : Char)
    (rest : List Char) : Symbol × Nat :=
  match mark? c with
  | some s => (s, 1)
  | none =>
      if c = '"' then
        match scanText offset (offset + 1) rest with
        | .error fault => (.unreadable fault, 0)
        | .ok (cs, used) =>
            (.text (String.ofList cs), used + 1)
      else
        scanScalar limits offset (c :: rest)

/- Whether scanning goes on after a symbol. -/
def Symbol.isReadable : Symbol → Bool
  | .unreadable _ => false
  | _ => true

/-
  The tokens of a text that starts at an offset, up to an
  unreadable one or the end.
-/
def tokensFrom
    (limits : Limits)
    (offset : Nat)
    (cs : List Char) : List Token :=
  match cs with
  | [] => [⟨.finish, offset⟩]
  | c :: rest =>
      if isGap c then
        tokensFrom limits (offset + 1) rest
      else
        let found := scanSymbol limits offset c rest
        let token : Token := ⟨found.1, offset⟩
        if found.1.isReadable then
          token ::
            tokensFrom limits (offset + found.2)
              (rest.drop (found.2 - 1))
        else
          [token]
termination_by cs.length
decreasing_by
  · simp only [List.length_cons]
    omega
  · simp only [List.length_drop, List.length_cons]
    omega

/- The tokens of a text. -/
def tokens
    (limits : Limits)
    (cs : List Char) : List Token :=
  tokensFrom limits 0 cs

end ContainerBuild.Json
