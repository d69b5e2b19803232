/-
  This file defines the two classes of blank characters
  the library trims and searches for, and trimming itself.

  A character is blank if it is white space or one of the
  four information separators U+001C to U+001F. Numbers
  given as text are trimmed of white space only.

  Key definitions include:
    * `isWhiteSpace`
    * `isBlank`
    * `dropBlankStart`
    * `dropBlankEnd`
    * `trimBlank`
-/

namespace ContainerBuild.Text

------------------------------------------------------------
-- Classes
------------------------------------------------------------

/- The characters with the Unicode property White_Space. -/
def isWhiteSpace (c : Char) : Bool :=
  let n := c.toNat
  (0x09 ≤ n && n ≤ 0x0D) || n == 0x20 || n == 0x85
    || n == 0xA0 || n == 0x1680
    || (0x2000 ≤ n && n ≤ 0x200A)
    || n == 0x2028 || n == 0x2029
    || n == 0x202F || n == 0x205F || n == 0x3000

/- White space and the information separators. -/
def isBlank (c : Char) : Bool :=
  (0x1C ≤ c.toNat && c.toNat ≤ 0x1F) || isWhiteSpace c

/- Core's white space is blank. -/
theorem isBlank_of_isWhitespace
    (c : Char)
    (h : c.isWhitespace = true) :
    isBlank c = true := by
  simp only [Char.isWhitespace, Bool.or_eq_true,
    decide_eq_true_eq] at h
  rcases h with ((h | h) | h) | h <;> subst h <;> decide

------------------------------------------------------------
-- Trimming
------------------------------------------------------------

/- The longest suffix that does not start with `p`. -/
def dropStart
    (p : Char → Bool)
    (cs : List Char) : List Char :=
  cs.dropWhile p

/- The longest prefix that does not end with `p`. -/
def dropEnd
    (p : Char → Bool)
    (cs : List Char) : List Char :=
  (cs.reverse.dropWhile p).reverse

/- Remove blanks at the start. -/
def dropBlankStart (cs : List Char) : List Char :=
  dropStart isBlank cs

/- Remove blanks at the end. -/
def dropBlankEnd (cs : List Char) : List Char :=
  dropEnd isBlank cs

/- Remove blanks at both ends. -/
def trimBlank (cs : List Char) : List Char :=
  dropBlankEnd (dropBlankStart cs)

end ContainerBuild.Text
