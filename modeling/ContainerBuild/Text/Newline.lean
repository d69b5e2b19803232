/-
  This file defines the line ends of text files: a carriage
  return, alone or before a line feed, reads as a line feed,
  and a last line feed need not count.

  Key definitions include:
    * `unifyNewlines`
    * `dropFinalNewline`
-/

namespace ContainerBuild.Text

/- Read every kind of line end as a line feed. -/
def unifyNewlines : List Char → List Char
  | [] => []
  | '\r' :: '\n' :: rest => '\n' :: unifyNewlines rest
  | '\r' :: rest => '\n' :: unifyNewlines rest
  | c :: rest => c :: unifyNewlines rest

/- A text without the line feed at its end. -/
def dropFinalNewline : List Char → List Char
  | [] => []
  | ['\n'] => []
  | c :: rest => c :: dropFinalNewline rest

end ContainerBuild.Text
