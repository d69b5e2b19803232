import ContainerBuild.Json.Value
import ContainerBuild.Text.Digit

/-
  This file defines the writing of JSON values on one line.
  A style says which characters are escaped and what stands
  between items; control characters, the quotation mark and
  the backslash are escaped in every style.

  Key definitions include:
    * `Style`
    * `Style.compact`
    * `Style.ascii`
    * `write`
-/

namespace ContainerBuild.Json

open Text

------------------------------------------------------------
-- Styles
------------------------------------------------------------

/- How values are written. -/
structure Style where
  asciiOnly : Bool
  comma : List Char
  colon : List Char

/- No blanks, characters as they are. -/
def Style.compact : Style :=
  ⟨false, [','], [':']⟩

/- A blank after each mark, and ASCII characters only. -/
def Style.ascii : Style :=
  ⟨true, [',', ' '], [':', ' ']⟩

------------------------------------------------------------
-- Texts
------------------------------------------------------------

/- The escape of a unit. -/
def unitEscape (n : Nat) : List Char :=
  '\\' :: 'u' :: hexDigits 4 n

/- The escape of a character, as a pair if it needs one. -/
def charEscape (c : Char) : List Char :=
  let n := c.toNat
  if n < 0x10000 then
    unitEscape n
  else
    unitEscape (0xD800 + (n - 0x10000) / 0x400)
      ++ unitEscape (0xDC00 + (n - 0x10000) % 0x400)

/- One character of a text. -/
def writeChar
    (style : Style)
    (c : Char) : List Char :=
  if c = '"' then
    ['\\', '"']
  else if c = '\\' then
    ['\\', '\\']
  else if c = '\n' then
    ['\\', 'n']
  else if c = '\r' then
    ['\\', 'r']
  else if c = '\t' then
    ['\\', 't']
  else if c = '\x08' then
    ['\\', 'b']
  else if c = '\x0c' then
    ['\\', 'f']
  else if c.toNat < 0x20 then
    charEscape c
  else if style.asciiOnly && 0x7F ≤ c.toNat then
    charEscape c
  else
    [c]

/- A text between its marks. -/
def writeText
    (style : Style)
    (s : String) : List Char :=
  '"' :: s.toList.flatMap (writeChar style) ++ ['"']

------------------------------------------------------------
-- Values
------------------------------------------------------------

/- A real number, infinities and not-a-number as words. -/
def writeReal (x : Binary64) : List Char :=
  match x with
  | .nan => "NaN".toList
  | .infinite true => "-Infinity".toList
  | .infinite false => "Infinity".toList
  | finite => (realText finite).toList

mutual

/- A value on one line. -/
def write
    (style : Style) : Value → List Char
  | .null => "null".toList
  | .bool true => "true".toList
  | .bool false => "false".toList
  | .integer n => integerChars n
  | .real x => writeReal x
  | .text s => writeText style s
  | .array items => '[' :: writeItems style items ++ [']']
  | .object fields =>
      '\x7b' :: writeFields style fields ++ ['\x7d']

/- The items of an array. -/
def writeItems
    (style : Style) : List Value → List Char
  | [] => []
  | [v] => write style v
  | v :: w :: rest =>
      write style v ++ style.comma
        ++ writeItems style (w :: rest)

/- The fields of an object. -/
def writeFields
    (style : Style) :
    List (String × Value) → List Char
  | [] => []
  | [(name, v)] =>
      writeText style name ++ style.colon ++ write style v
  | (name, v) :: f :: rest =>
      writeText style name ++ style.colon ++ write style v
        ++ style.comma ++ writeFields style (f :: rest)

end

/- A value on one line, as a text. -/
def writeString
    (style : Style)
    (v : Value) : String :=
  String.ofList (write style v)

end ContainerBuild.Json
