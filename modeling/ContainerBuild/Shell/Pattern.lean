import ContainerBuild.Text.Digit

/-
  This file defines patterns of characters: a star stands
  for any characters, a question mark for one, and brackets
  for one of those that they list. What is quoted stands for
  itself.

  Key definitions include:
    * `Member`
    * `Part`
    * `Pattern.ofSigns`
    * `Pattern.fits`
    * `Pattern.cut`
-/

namespace ContainerBuild.Shell

open Text

------------------------------------------------------------
-- Patterns
------------------------------------------------------------

/- What brackets list. -/
inductive Member
  | exact (c : Char)
  | range (low high : Char)
  | kind (name : List Char)
deriving DecidableEq, Repr

/- A part of a pattern. -/
inductive Part
  | exact (c : Char)
  | one
  | many
  | oneOf (negated : Bool) (members : List Member)
deriving DecidableEq, Repr

/- The parts of a pattern, in order. -/
abbrev Pattern :=
  List Part

/- A character of a pattern, and whether it is quoted. -/
structure PatternSign where
  quoted : Bool
  char : Char
deriving DecidableEq, Repr

------------------------------------------------------------
-- Kinds of characters
------------------------------------------------------------

/- The characters that show something. -/
def isGraph (c : Char) : Bool :=
  '!' ≤ c && c ≤ '~'

/- The characters of a kind with a name. -/
def isOfKind
    (name : List Char)
    (c : Char) : Bool :=
  match String.ofList name with
  | "alpha" => c.isAlpha
  | "digit" => isAsciiDigit c
  | "alnum" => c.isAlphanum
  | "upper" => c.isUpper
  | "lower" => c.isLower
  | "space" => c = ' ' || ('\t' ≤ c && c ≤ '\r')
  | "blank" => c = ' ' || c = '\t'
  | "punct" => isGraph c && !c.isAlphanum
  | "graph" => isGraph c
  | "print" => isGraph c || c = ' '
  | "cntrl" => c < ' ' || c = '\x7f'
  | "xdigit" => (hexValue? c).isSome
  | _ => false

/- Whether a character is among those listed. -/
def Member.has
    (m : Member)
    (c : Char) : Bool :=
  match m with
  | .exact d => c = d
  | .range low high => low ≤ c && c ≤ high
  | .kind name => isOfKind name c

------------------------------------------------------------
-- Reading
------------------------------------------------------------

namespace Pattern

/- The names of kinds of characters. -/
def kinds : List String :=
  ["alpha", "digit", "alnum", "upper", "lower", "space",
    "blank", "punct", "graph", "print", "cntrl", "xdigit"]

/- Whether a sign is a character that is not quoted. -/
def isBare
    (c : Char)
    (s : PatternSign) : Bool :=
  !s.quoted && s.char = c

/- The kind whose name stands behind a left bracket. -/
def kind? (ss : List PatternSign) : Option (List Char) :=
  match ss with
  | colon :: rest =>
      let name :=
        (rest.takeWhile (fun s => s.char.isLower)).map
          PatternSign.char
      let ended :=
        (rest.drop name.length).take 2 |>.map PatternSign.char
      if colon.char = ':' && ended = [':', ']']
          && kinds.contains (String.ofList name) then
        some name
      else
        none
  | [] => none

/- What a sign lists, and how many signs after it count. -/
def member
    (s : PatternSign)
    (rest : List PatternSign) : Member × Nat :=
  match if isBare '[' s then kind? rest else none with
  | some name => (.kind name, name.length + 3)
  | none =>
      match rest with
      | dash :: high :: _ =>
          if isBare '-' dash && !isBare ']' high then
            (.range s.char high.char, 2)
          else
            (.exact s.char, 0)
      | _ => (.exact s.char, 0)

/-
  What brackets list, and the signs after the right one. A
  right bracket that stands first is listed itself.
-/
def members?
    (first : Bool)
    (ss : List PatternSign) :
    Option (List Member × List PatternSign) :=
  match ss with
  | [] => none
  | s :: rest =>
      if isBare ']' s && !first then
        some ([], rest)
      else
        let m := member s rest
        (members? false (rest.drop m.2)).map
          (fun r => (m.1 :: r.1, r.2))
termination_by ss.length
decreasing_by
  simp only [List.length_drop, List.length_cons]
  omega

/- What brackets list, from behind the left one. -/
def brackets?
    (ss : List PatternSign) :
    Option (Part × List PatternSign) :=
  match ss with
  | [] => none
  | s :: rest =>
      if isBare '!' s then
        (members? true rest).map
          (fun r => (.oneOf true r.1, r.2))
      else
        (members? true ss).map
          (fun r => (.oneOf false r.1, r.2))

/- The pattern that signs write, in at most `fuel` parts. -/
def ofSignsWithin
    (fuel : Nat)
    (ss : List PatternSign) : Pattern :=
  match fuel, ss with
  | 0, _ => []
  | _, [] => []
  | n + 1, s :: rest =>
      if isBare '*' s then
        .many :: ofSignsWithin n rest
      else if isBare '?' s then
        .one :: ofSignsWithin n rest
      else if isBare '[' s then
        match brackets? rest with
        | some (p, more) => p :: ofSignsWithin n more
        | none => .exact '[' :: ofSignsWithin n rest
      else
        .exact s.char :: ofSignsWithin n rest

/- The pattern that signs write. -/
def ofSigns (ss : List PatternSign) : Pattern :=
  ofSignsWithin ss.length ss

------------------------------------------------------------
-- Fitting
------------------------------------------------------------

/- Whether a part that stands for one character fits it. -/
def fitsOne
    (p : Part)
    (c : Char) : Bool :=
  match p with
  | .exact d => c = d
  | .one => true
  | .many => true
  | .oneOf negated ms => (ms.any (fun m => m.has c)) != negated

/- Whether characters fit a pattern. -/
def fits
    (ps : Pattern)
    (cs : List Char) : Bool :=
  match ps, cs with
  | [], [] => true
  | [], _ :: _ => false
  | .many :: ps, [] => fits ps []
  | .many :: ps, c :: cs =>
      fits ps (c :: cs) || fits (.many :: ps) cs
  | _ :: _, [] => false
  | p :: ps, c :: cs => fitsOne p c && fits ps cs
termination_by ps.length + cs.length

/- Whether a pattern has a part that is no character. -/
def isActive (ps : Pattern) : Bool :=
  ps.any
    (fun p =>
      match p with
      | .exact _ => false
      | _ => true)

/- A star fits all characters. -/
theorem fits_many (cs : List Char) :
    fits [.many] cs = true := by
  induction cs with
  | nil => simp [fits]
  | cons c cs ih => simp [fits, ih]

/- Characters themselves fit nothing else. -/
theorem fits_exact_iff
    (ds cs : List Char) :
    fits (ds.map .exact) cs = true ↔ cs = ds := by
  induction ds generalizing cs with
  | nil => cases cs <;> simp [fits]
  | cons d ds ih =>
      cases cs with
      | nil => simp [fits]
      | cons c cs => simp [fits, fitsOne, ih]

------------------------------------------------------------
-- Cutting
------------------------------------------------------------

/-
  Characters without a part at an end that fits a pattern;
  the part is the longest or the shortest one that does.
-/
def cut
    (ps : Pattern)
    (fromEnd longest : Bool)
    (cs : List Char) : List Char :=
  let counts := List.range (cs.length + 1)
  let order := if longest then counts.reverse else counts
  let fitting (n : Nat) : Bool :=
    if fromEnd then
      fits ps (cs.drop (cs.length - n))
    else
      fits ps (cs.take n)
  match order.find? fitting with
  | none => cs
  | some n =>
      if fromEnd then
        cs.take (cs.length - n)
      else
        cs.drop n

end Pattern

end ContainerBuild.Shell
