import ContainerBuild.Text.Split

/-
  This file defines paths as they are written: a root and
  the parts below it. Empty parts and single dots do not
  count; two dots do, as they may cross a link.

  Key definitions include:
    * `Path`
    * `Path.ofText`
    * `Path.toText`
    * `Path.join`
    * `Path.name`
    * `Path.suffix`
-/

namespace ContainerBuild

open Text

/-
  The root is empty for relative paths. Two slashes at the
  start are a root of their own, three or more are one.
-/
structure Path where
  root : String
  parts : List String
deriving DecidableEq, Repr

namespace Path

/- The parts that count. -/
def isPart (s : String) : Bool :=
  s != "" && s != "."

/- The root that a text starts with. -/
def rootOf (cs : List Char) : String :=
  match cs with
  | '/' :: '/' :: '/' :: _ => "/"
  | '/' :: '/' :: _ => "//"
  | '/' :: _ => "/"
  | _ => ""

/- The texts between slashes. -/
def pieces (text : String) : List String :=
  (splitAll '/' text.toList).map String.ofList

/- The path that a text writes. -/
def ofText (text : String) : Path :=
  ⟨rootOf text.toList, (pieces text).filter isPart⟩

/- The text of a path; the empty path is a dot. -/
def toText (p : Path) : String :=
  if p.root = "" && p.parts = [] then
    "."
  else
    p.root ++ joinTexts "/" p.parts

/- A path seen from another one. -/
def join (p q : Path) : Path :=
  if q.root = "" then
    ⟨p.root, p.parts ++ q.parts⟩
  else
    q

/- The last part, or nothing. -/
def name (p : Path) : String :=
  p.parts.getLastD ""

/- The path without its last part. -/
def parent (p : Path) : Path :=
  ⟨p.root, p.parts.dropLast⟩

/-
  The last part from its last dot on, if the dot stands
  neither first nor last.
-/
def suffix (p : Path) : String :=
  let cs := p.name.toList
  let tail := cs.reverse.takeWhile (fun c => c != '.')
  let stem := cs.take (cs.length - tail.length - 1)
  if tail.length = cs.length || tail = [] || stem = [] then
    ""
  else
    String.ofList ('.' :: tail.reverse)

end Path

end ContainerBuild
