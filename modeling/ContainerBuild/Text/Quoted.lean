import ContainerBuild.Text.Digit
import ContainerBuild.Text.Printable

/-
  This file defines quoted text, the form in which messages
  show names and paths. Single quotes are used unless the
  text holds some and no double ones; characters that are
  not printable are shown as escapes.

  Key definitions include:
    * `quoteMark`
    * `quoted`
-/

namespace ContainerBuild.Text

/- The mark that stands around a quoted text. -/
def quoteMark (cs : List Char) : Char :=
  if cs.contains '\'' && !cs.contains '"' then
    '"'
  else
    '\''

/- A numeric escape: kind and the number of digits. -/
def numericEscape
    (kind : Char)
    (width : Nat)
    (c : Char) : List Char :=
  '\\' :: kind :: hexDigits width c.toNat

/- One character within the given marks. -/
def quotedChar
    (mark : Char)
    (c : Char) : List Char :=
  if c = mark || c = '\\' then
    ['\\', c]
  else if c = '\n' then
    ['\\', 'n']
  else if c = '\r' then
    ['\\', 'r']
  else if c = '\t' then
    ['\\', 't']
  else if isPrintable c then
    [c]
  else if c.toNat < 0x100 then
    numericEscape 'x' 2 c
  else if c.toNat < 0x10000 then
    numericEscape 'u' 4 c
  else
    numericEscape 'U' 8 c

/- A list of characters in quotes. -/
def quotedChars (cs : List Char) : List Char :=
  let mark := quoteMark cs
  mark :: cs.flatMap (quotedChar mark) ++ [mark]

/- A text in quotes. -/
def quoted (s : String) : String :=
  String.ofList (quotedChars s.toList)

end ContainerBuild.Text
