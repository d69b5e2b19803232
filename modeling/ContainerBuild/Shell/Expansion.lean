import ContainerBuild.Shell.Arithmetic
import ContainerBuild.Shell.Pattern
import ContainerBuild.Shell.Script
import ContainerBuild.Shell.Settings

/-
  This file defines the expansion of words. A word becomes
  characters that know whether they are quoted and whether
  they came from a value; values are then cut into fields,
  and a field with a pattern becomes the paths that fit it.

  Key definitions include:
    * `Glyph`
    * `Substitute`
    * `expandPiece`
    * `fieldsOf`
    * `matchingPaths`
    * `Machine.fields`
    * `Machine.text`
    * `Machine.pattern`
-/

namespace ContainerBuild.Shell

open Text

------------------------------------------------------------
-- Glyphs
------------------------------------------------------------

/-
  A part of an expanded word: a character, the border
  between two parameters, or a place that is a field even if
  nothing else is.
-/
inductive Glyph
  | char (quoted loose : Bool) (c : Char)
  | border
  | hold
deriving DecidableEq, Repr

/- What a command on a line writes, and what it does. -/
abbrev Substitute :=
  Nat → List Char → Machine → List Char × Machine

/- Glyphs, and the machine after they were made. -/
abbrev Expanded :=
  List Glyph × Machine

/- The characters of a value. -/
def valueGlyphs
    (quoted : Bool)
    (cs : List Char) : List Glyph :=
  cs.map (.char quoted !quoted)

/- The characters that are written in a word. -/
def literalGlyphs
    (quoted loose : Bool)
    (cs : List Char) : List Glyph :=
  if cs = [] && quoted then
    [.hold]
  else
    cs.map (.char quoted (loose && !quoted))

/- The character of a glyph, if it is one. -/
def Glyph.char? : Glyph → Option Char
  | .char _ _ c => some c
  | _ => none

/- The text of glyphs. -/
def textOf (gs : List Glyph) : List Char :=
  gs.filterMap Glyph.char?

/- The signs of glyphs in a pattern. -/
def signsOf (gs : List Glyph) : List PatternSign :=
  match gs with
  | [] => []
  | .char false _ '\\' :: .char _ _ c :: rest =>
      ⟨true, c⟩ :: signsOf rest
  | .char q _ c :: rest => ⟨q, c⟩ :: signsOf rest
  | _ :: rest => signsOf rest

------------------------------------------------------------
-- Parameters
------------------------------------------------------------

namespace Machine

/- The characters at which values are cut. -/
def gaps (m : Machine) : List Char :=
  (m.value? "IFS".toList).getD usualGaps

/- What stands between parameters that are joined. -/
def joint (m : Machine) : List Char :=
  m.gaps.take 1

/- All parameters in one text. -/
def joinedArgs (m : Machine) : List Char :=
  joinWith m.joint m.args

/- The value of a parameter other than a list of all. -/
def single?
    (name : List Char)
    (m : Machine) : Option (List Char) :=
  match name with
  | ['?'] => some (decimal m.status)
  | ['$'] => some (decimal processNumber)
  | ['#'] => some (decimal m.args.length)
  | ['-'] => some (optionLetters m)
  | ['!'] =>
      m.jobs.getLast?.map (fun j => decimal j.process)
  | _ =>
      if name.all isAsciiDigit then
        match ofDigits name with
        | 0 => some m.name
        | n + 1 => m.args[n]?
      else
        m.value? name

/- Whether a name stands for all parameters. -/
def isList (name : List Char) : Bool :=
  name = ['@'] || name = ['*']

/- The value of a parameter in one text. -/
def parameter?
    (name : List Char)
    (m : Machine) : Option (List Char) :=
  if isList name then
    if m.args = [] then none else some m.joinedArgs
  else
    m.single? name

/- Parameters with borders between them. -/
def separate
    (quoted : Bool)
    (args : List (List Char)) : List Glyph :=
  joinWith [.border]
    (args.map
      (fun a =>
        if quoted then
          .hold :: valueGlyphs true a
        else
          valueGlyphs false a))

/- The glyphs of a parameter. -/
def parameterGlyphs
    (full quoted : Bool)
    (name : List Char)
    (m : Machine) : List Glyph :=
  if full && (name = ['@'] || (name = ['*'] && !quoted)) then
    separate quoted m.args
  else
    valueGlyphs quoted ((m.parameter? name).getD [])

/- Complain that a parameter has no value. -/
def demandFails
    (name : List Char)
    (message : List Char)
    (m : Machine) : Machine :=
  m.abort (name ++ ": ".toList ++ message)

/- What is said of a parameter without a value. -/
def notSet : List Char :=
  "parameter not set".toList

/- Refuse a parameter without a value, if asked to. -/
def refuseUnset
    (name : List Char)
    (m : Machine) : Machine :=
  if m.options.contains 'u' && (m.parameter? name).isNone
      && !isList name then
    m.demandFails name notSet
  else
    m

------------------------------------------------------------
-- Tildes
------------------------------------------------------------

/- The directory of a user, if it is known. -/
def homeOf
    (user : List Char)
    (m : Machine) : Option (List Char) :=
  if user = [] then
    m.value? "HOME".toList
  else if user = "root".toList then
    some "/root".toList
  else
    none

/- A start of a word, with a directory for a tilde. -/
def expandTilde
    (isWhole : Bool)
    (cs : List Char)
    (m : Machine) : Word :=
  match cs with
  | '~' :: rest =>
      let user := rest.takeWhile (fun c => c != '/')
      let after := rest.drop user.length
      match m.homeOf user with
      | some home =>
          if after = [] && !isWhole then
            [.literal false cs]
          else if after = [] then
            [.literal true home]
          else
            [.literal true home, .literal false after]
      | none => [.literal false cs]
  | _ => [.literal false cs]

/- Texts between colons, each with its tilde expanded. -/
def expandTildes
    (isWhole : Bool)
    (parts : List (List Char))
    (m : Machine) : Word :=
  match parts with
  | [] => []
  | [p] => m.expandTilde isWhole p
  | p :: rest =>
      m.expandTilde true p
        ++ .literal false [':'] :: m.expandTildes isWhole rest

/- A word with its tildes expanded. -/
def withTildes
    (assigns : Bool)
    (w : Word)
    (m : Machine) : Word :=
  match w with
  | .literal false cs :: rest =>
      if !cs.contains '~' then
        w
      else if assigns then
        m.expandTildes (rest = []) (splitAll ':' cs) ++ rest
      else
        m.expandTilde (rest = []) cs ++ rest
  | _ => w

------------------------------------------------------------
-- Pieces
------------------------------------------------------------

/- Evaluate arithmetic, and assign what it assigns. -/
def evaluate
    (source : List Char)
    (m : Machine) : List Char × Machine :=
  let names : Formula.Names :=
    ⟨fun x => (m.parameter? x).getD [], m.isLocked⟩
  match (Formula.ofText source).eval names [] with
  | .error f => ([], m.abort (f.message source))
  | .ok (n, assigned) =>
      (integerChars n,
        assigned.reverse.foldl
          (fun m a => m.assign a.1 (integerChars a.2)) m)

/- Expand pieces one after the other. -/
def expandEach
    (one : Machine → Piece → Expanded)
    (w : Word)
    (m : Machine) : Expanded :=
  match w with
  | [] => ([], m)
  | p :: rest =>
      let first := one m p
      if first.2.isGoing then
        let more := expandEach one rest first.2
        (first.1 ++ more.1, more.2)
      else
        first

/- How the argument of a parameter is read. -/
def argumentQuoting
    (quoted : Bool)
    (e : Expansion) : Quoting :=
  match e with
  | .trim _ _ => .bare
  | _ => if quoted then .argument else .bare

/- Whether a parameter has a value that counts. -/
def counts
    (onNull : Bool)
    (name : List Char)
    (m : Machine) : Bool :=
  match m.parameter? name with
  | none => false
  | some v => !onNull || v != []

/- What is said of a parameter that has to have a value. -/
def demandMessage
    (onNull : Bool)
    (argument text : List Char) : List Char :=
  if argument ≠ [] then
    text
  else if onNull then
    notSet ++ " or null".toList
  else
    notSet

end Machine

open Machine in
/-
  Expand a piece of a word. With `full` the parameters of a
  list stay apart, with `loose` what is written counts as a
  value.
-/
def expandPiece
    (sub : Substitute)
    (full : Bool)
    (fuel : Nat)
    (loose : Bool)
    (m : Machine)
    (p : Piece) : Expanded :=
  match fuel with
  | 0 => ([], m.withFlow .endless)
  | n + 1 =>
      match p with
      | .literal q cs => (literalGlyphs q loose cs, m)
      | .command q line text =>
          let r := sub line text m
          (valueGlyphs q r.1, r.2)
      | .arithmetic q text =>
          match readText .document 1 text with
          | .error f => ([], m.abort f.message.toList)
          | .ok w =>
              let inner := expandEach
                (expandPiece sub false n false) w m
              if inner.2.isGoing then
                let r := inner.2.evaluate (textOf inner.1)
                (valueGlyphs q r.1, r.2)
              else
                ([], inner.2)
      | .parameter q name e argument =>
          let value (m : Machine) : Expanded :=
            (m.parameterGlyphs full q name, m)
          let expanded (full loose : Bool) : Expanded :=
            match readText (argumentQuoting q e) 1 argument with
            | .error f => ([], m.abort f.message.toList)
            | .ok w =>
                expandEach (expandPiece sub full n loose)
                  (m.withTildes false w) m
          match e with
          | .malformed => ([], m.abort "Bad substitution".toList)
          | .value =>
              let m := m.refuseUnset name
              if m.isGoing then value m else ([], m)
          | .length =>
              let m := m.refuseUnset name
              (valueGlyphs q
                (decimal ((m.parameter? name).getD []).length),
                m)
          | .fallback onNull =>
              if m.counts onNull name then
                value m
              else
                expanded full (!q)
          | .substitute onNull =>
              if m.counts onNull name then
                expanded full (!q)
              else
                ([], m)
          | .assignment onNull =>
              if m.counts onNull name then
                value m
              else
                let r := expanded false false
                if !r.2.isGoing then
                  ([], r.2)
                else if !isName name then
                  ([], r.2.abort
                    (name ++ ": bad variable name".toList))
                else
                  let m := r.2.assign name (textOf r.1)
                  if m.isGoing then value m else ([], m)
          | .demand onNull =>
              if m.counts onNull name then
                value m
              else
                let r := expanded false false
                if r.2.isGoing then
                  ([], r.2.demandFails name
                    (demandMessage onNull argument
                      (textOf r.1)))
                else
                  ([], r.2)
          | .trim fromEnd longest =>
              let before := m.refuseUnset name
              if !before.isGoing then
                ([], before)
              else
                let r := expanded false false
                let pattern := Pattern.ofSigns (signsOf r.1)
                let v := (m.parameter? name).getD []
                (valueGlyphs q
                  (Pattern.cut pattern fromEnd longest v), r.2)

------------------------------------------------------------
-- Fields
------------------------------------------------------------

/-
  Fields that are complete, one that may be open, and
  whether a blank has just ended a field.
-/
structure Fields where
  complete : List (List Glyph)
  unfinished : Option (List Glyph)
  afterBlank : Bool

namespace Fields

/- End the open field. -/
def finish
    (afterBlank : Bool)
    (f : Fields) : Fields :=
  match f.unfinished with
  | none => f
  | some gs => ⟨f.complete ++ [gs.reverse], none, afterBlank⟩

/- Add a glyph to the open field. -/
def add
    (f : Fields)
    (g : Glyph) : Fields :=
  ⟨f.complete, some (g :: f.unfinished.getD []), false⟩

/- Add a mark at which values are cut. -/
def addMark (f : Fields) : Fields :=
  match f.unfinished with
  | some _ => f.finish false
  | none =>
      if f.afterBlank then
        ⟨f.complete, none, false⟩
      else
        ⟨f.complete ++ [[]], none, false⟩

/- Add a glyph, given the characters that cut. -/
def step
    (gaps : List Char)
    (f : Fields)
    (g : Glyph) : Fields :=
  match g with
  | .char _ true c =>
      if !gaps.contains c then
        f.add g
      else if Machine.usualGaps.contains c then
        f.finish true
      else
        f.addMark
  | .border => f.finish false
  | _ => f.add g

end Fields

/- The fields of glyphs. -/
def fieldsOf
    (gaps : List Char)
    (gs : List Glyph) : List (List Glyph) :=
  ((gs.foldl (Fields.step gaps) ⟨[], none, false⟩).finish
    false).complete

------------------------------------------------------------
-- Paths
------------------------------------------------------------

/- The names in the directory at a path, in order. -/
def namesAt
    (d : Disk)
    (path : List Char) : List (List Char) :=
  match d.find? (gather (if path = [] then ['.'] else path)) with
  | some (l, .directory) =>
      (['.'] :: ['.', '.'] :: (d.namesIn l).map spread).mergeSort
        (fun a b => !Condition.precedes b a)
  | _ => []

/- The names that fit signs; a dot has to be written. -/
def fittingNames
    (d : Disk)
    (path : List Char)
    (signs : List PatternSign) : List (List Char) :=
  let dotted := (signs.head?.map PatternSign.char) = some '.'
  let p := Pattern.ofSigns signs
  (namesAt d path).filter
    (fun name =>
      (name.head? != some '.' || dotted) && Pattern.fits p name)

/- The paths that begin with a path and fit parts in turn. -/
def matchingPaths
    (d : Disk)
    (path : List Char)
    (parts : List (List PatternSign)) : List (List Char) :=
  match parts with
  | [] => if d.existsAt (gather path) then [path] else []
  | signs :: rest =>
      let names :=
        if Pattern.isActive (Pattern.ofSigns signs) then
          fittingNames d path signs
        else
          [signs.map PatternSign.char]
      let slash : List Char := if rest = [] then [] else ['/']
      names.flatMap
        (fun name => matchingPaths d (path ++ name ++ slash) rest)

/- Signs cut at slashes. -/
def splitSigns
    (ss : List PatternSign) : List (List PatternSign) :=
  match ss with
  | [] => [[]]
  | s :: rest =>
      if s.char = '/' then
        [] :: splitSigns rest
      else
        match splitSigns rest with
        | [] => [[s]]
        | p :: ps => (s :: p) :: ps

namespace Machine

/- The texts of a field: paths that fit it, or itself. -/
def pathsOf
    (m : Machine)
    (gs : List Glyph) : List (List Char) :=
  let signs := signsOf gs
  if m.options.contains 'f'
      || !Pattern.isActive (Pattern.ofSigns signs) then
    [textOf gs]
  else
    match matchingPaths m.disk [] (splitSigns signs) with
    | [] => [textOf gs]
    | paths => paths

------------------------------------------------------------
-- Words
------------------------------------------------------------

/- The glyphs of a word. -/
def glyphs
    (sub : Substitute)
    (full assigns : Bool)
    (fuel : Nat)
    (w : Word)
    (m : Machine) : Expanded :=
  expandEach (expandPiece sub full fuel false)
    (m.withTildes assigns w) m

/- The fields of a word. -/
def fields
    (sub : Substitute)
    (fuel : Nat)
    (w : Word)
    (m : Machine) : List (List Char) × Machine :=
  let e := m.glyphs sub true false fuel w
  ((fieldsOf e.2.gaps e.1).flatMap e.2.pathsOf, e.2)

/- The text of a word that is not cut into fields. -/
def text
    (sub : Substitute)
    (assigns : Bool)
    (fuel : Nat)
    (w : Word)
    (m : Machine) : List Char × Machine :=
  let e := m.glyphs sub false assigns fuel w
  (textOf e.1, e.2)

/- The pattern that a word is. -/
def pattern
    (sub : Substitute)
    (fuel : Nat)
    (w : Word)
    (m : Machine) : Pattern × Machine :=
  let e := m.glyphs sub false false fuel w
  (Pattern.ofSigns (signsOf e.1), e.2)

/- The fields of words, one after the other. -/
def allFields
    (sub : Substitute)
    (fuel : Nat)
    (ws : List Word)
    (m : Machine) : List (List Char) × Machine :=
  match ws with
  | [] => ([], m)
  | w :: rest =>
      let first := m.fields sub fuel w
      if first.2.isGoing then
        let more := first.2.allFields sub fuel rest
        (first.1 ++ more.1, more.2)
      else
        first

end Machine

end ContainerBuild.Shell
