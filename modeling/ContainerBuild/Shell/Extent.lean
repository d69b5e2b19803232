import ContainerBuild.Shell.Word

/-
  This file defines where text ends that is enclosed in
  quotes, braces or parentheses. What is open at a place is
  a stack, innermost first; the text ends where the stack
  becomes empty. A list of commands in parentheses is
  followed word by word, because the patterns of a choice
  end with parentheses that nothing opened.

  Key definitions include:
    * `Enclosure`
    * `Spot`
    * `Follow`
    * `follow`
    * `extent`
-/

namespace ContainerBuild.Shell

open Text

------------------------------------------------------------
-- Enclosures
------------------------------------------------------------

/-
  What encloses text. Braces know whether they stand between
  quotes, lists of commands how many choices are open, and
  arithmetic how many parentheses.
-/
inductive Enclosure
  | single
  | double
  | brace (quoted : Bool)
  | backquote
  | sum (parens : Nat)
  | substitution (choices : Nat)
  | group (choices : Nat)
deriving DecidableEq, Repr

namespace Enclosure

/- What is wrong if the text ends within an enclosure. -/
def fault : Enclosure → Fault
  | single => .openQuote
  | double => .openQuote
  | brace true => .openQuote
  | brace false => .openBrace
  | backquote => .openBackquote
  | sum _ => .openSum
  | substitution _ =>
      .unexpected "end of file" (some "\")\"")
  | group _ => .unexpected "end of file" (some "\")\"")

/- Whether what stands within is quoted. -/
def quotes : Enclosure → Bool
  | double => true
  | brace q => q
  | sum _ => true
  | _ => false

end Enclosure

/-
  A place in a list of commands: whether the next word may
  be a command, and what has been read of a word.
-/
structure Spot where
  first : Bool
  word : Option (List Char)
deriving DecidableEq, Repr

namespace Spot

/- The place where a list of commands begins. -/
def start : Spot :=
  ⟨true, none⟩

/- The place after something that is no bare character. -/
def within (s : Spot) : Spot :=
  ⟨s.first, some ['"']⟩

/- The place after a character of a word. -/
def read
    (s : Spot)
    (c : Char) : Spot :=
  ⟨s.first, some (s.word.getD [] ++ [c])⟩

/- The words before which a command may stand again. -/
def leaders : List (List Char) :=
  ["then".toList, "do".toList, "else".toList,
    "elif".toList, "if".toList, "while".toList,
    "until".toList, "!".toList, ['\x7b']]

/- The open choices and the place at the end of a word. -/
def finish
    (choices : Nat)
    (s : Spot) : Nat × Spot :=
  match s.word with
  | none => (choices, s)
  | some w =>
      if s.first && w = "case".toList then
        (choices + 1, ⟨false, none⟩)
      else if s.first && w = "esac".toList then
        (choices - 1, ⟨false, none⟩)
      else if 0 < choices && w = "in".toList then
        (choices, ⟨true, none⟩)
      else
        (choices, ⟨s.first && leaders.contains w, none⟩)

end Spot

/- What is open after a character, and how many more count. -/
structure Follow where
  stack : List Enclosure
  spot : Spot
  extra : Nat
deriving DecidableEq, Repr

------------------------------------------------------------
-- Steps
------------------------------------------------------------

/- Whether an argument after a name is a pattern to trim. -/
def trims (cs : List Char) : Bool :=
  let name := cs.takeWhile isNameChar
  match cs.drop (if name = [] then 1 else name.length) with
  | c :: _ => cs ≠ [] && (c = '%' || c = '#')
  | [] => false

/- What a sign opens between quotes and outside of them. -/
def opening?
    (quoted : Bool)
    (c : Char)
    (rest : List Char) : Option (Enclosure × Nat) :=
  if c = '\x60' then
    some (.backquote, 0)
  else if c = '$' then
    match rest with
    | '(' :: '(' :: _ => some (.sum 0, 2)
    | '(' :: _ => some (.substitution 0, 1)
    | '\x7b' :: more =>
        some (.brace (quoted && !trims more), 1)
    | _ => none
  else
    none

/- What a sign opens where quotes have their meaning. -/
def openingBare?
    (c : Char)
    (rest : List Char) : Option (Enclosure × Nat) :=
  if c = '\'' then
    some (.single, 0)
  else if c = '"' then
    some (.double, 0)
  else
    opening? false c rest

/- Follow a character that may open something. -/
def followOpening
    (stack : List Enclosure)
    (s : Spot)
    (o : Option (Enclosure × Nat)) : Follow :=
  match o with
  | none => ⟨stack, s, 0⟩
  | some (.substitution n, k) =>
      ⟨.substitution n :: stack, .start, k⟩
  | some (e, k) => ⟨e :: stack, s.within, k⟩

/- Follow a character in a list of commands. -/
def followCommand
    (again : Nat → Enclosure)
    (choices : Nat)
    (outer : List Enclosure)
    (after : Spot)
    (s : Spot)
    (c : Char)
    (rest : List Char) : Follow :=
  let ended := s.finish choices
  let stack := again choices :: outer
  if isGap c || c = '<' || c = '>' then
    ⟨again ended.1 :: outer, ended.2, 0⟩
  else if c = '\n' || c = ';' || c = '&' || c = '|' then
    ⟨again ended.1 :: outer, .start, 0⟩
  else if c = '(' then
    ⟨.group 0 :: again ended.1 :: outer, .start, 0⟩
  else if c = ')' then
    if 0 < ended.1 then
      ⟨again ended.1 :: outer, .start, 0⟩
    else
      ⟨outer, after, 0⟩
  else if c = '#' && s.word = none then
    ⟨stack, s,
      (rest.takeWhile (fun d => d != '\n')).length⟩
  else if c = '\\' then
    ⟨stack, s.within, 1⟩
  else
    match openingBare? c rest with
    | none => ⟨stack, s.read c, 0⟩
    | some o => followOpening stack s (some o)

/- Follow a character in arithmetic. -/
def followSum
    (parens : Nat)
    (outer : List Enclosure)
    (s : Spot)
    (c : Char)
    (rest : List Char) : Follow :=
  if c = '(' then
    ⟨.sum (parens + 1) :: outer, s, 0⟩
  else if c = ')' then
    if 0 < parens then
      ⟨.sum (parens - 1) :: outer, s, 0⟩
    else if rest.head? = some ')' then
      ⟨outer, s, 1⟩
    else
      ⟨.sum 0 :: outer, s, 0⟩
  else if c = '\\' then
    ⟨.sum parens :: outer, s, 1⟩
  else
    followOpening (.sum parens :: outer) s
      (opening? true c rest)

/- Follow a character in braces. -/
def followBrace
    (quoted : Bool)
    (outer : List Enclosure)
    (s : Spot)
    (c : Char)
    (rest : List Char) : Follow :=
  let stack := .brace quoted :: outer
  if c = '\x7d' then
    ⟨outer, s, 0⟩
  else if c = '\\' then
    ⟨stack, s, 1⟩
  else if c = '"' then
    ⟨.double :: stack, s, 0⟩
  else if quoted then
    followOpening stack s (opening? true c rest)
  else
    followOpening stack s (openingBare? c rest)

/- Follow a character between double quotes. -/
def followDouble
    (outer : List Enclosure)
    (s : Spot)
    (c : Char)
    (rest : List Char) : Follow :=
  let stack := .double :: outer
  if c = '"' then
    ⟨outer, s, 0⟩
  else if c = '\\' then
    ⟨stack, s, 1⟩
  else
    followOpening stack s (opening? true c rest)

/- Follow a character. -/
def follow
    (stack : List Enclosure)
    (s : Spot)
    (c : Char)
    (rest : List Char) : Follow :=
  match stack with
  | [] => ⟨[], s, 0⟩
  | .single :: outer =>
      if c = '\'' then
        ⟨outer, s, 0⟩
      else
        ⟨stack, s, 0⟩
  | .backquote :: outer =>
      if c = '\x60' then
        ⟨outer, s, 0⟩
      else
        ⟨stack, s, if c = '\\' then 1 else 0⟩
  | .double :: outer => followDouble outer s c rest
  | .brace q :: outer => followBrace q outer s c rest
  | .sum n :: outer => followSum n outer s c rest
  | .substitution n :: outer =>
      followCommand .substitution n outer
        ⟨false, some ['"']⟩ s c rest
  | .group n :: outer =>
      followCommand .group n outer .start s c rest

------------------------------------------------------------
-- Extents
------------------------------------------------------------

/-
  The count of characters up to the end of what is open,
  with those that end it.
-/
def extentFrom
    (stack : List Enclosure)
    (s : Spot)
    (cs : List Char) : Except Fault Nat :=
  match stack, cs with
  | [], _ => .ok 0
  | e :: _, [] => .error e.fault
  | e :: outer, c :: rest =>
      let f := follow (e :: outer) s c rest
      match extentFrom f.stack f.spot (rest.drop f.extra) with
      | .error fault => .error fault
      | .ok n => .ok (n + 1 + min f.extra rest.length)
termination_by cs.length
decreasing_by
  simp only [List.length_drop, List.length_cons]
  omega

/- The extent of an enclosure that has just been opened. -/
def extent
    (e : Enclosure)
    (cs : List Char) : Except Fault Nat :=
  extentFrom [e] .start cs

end ContainerBuild.Shell
