import ContainerBuild.Environment
import ContainerBuild.Files.Disk

/-
  This file defines where a system has its programs, and how
  one is found: a name without slashes is looked for in the
  directories of the path.

  Key definitions include:
    * `Programs.install`
    * `Programs.candidates`
    * `Programs.programAt`
    * `Programs.locate`
-/

namespace ContainerBuild.Programs

open Text

------------------------------------------------------------
-- Installation
------------------------------------------------------------

/- The directories of programs. -/
def programDirectories : List Location :=
  [["usr", "bin"], ["bin"]]

/- The other directories that every system has. -/
def systemDirectories : List Location :=
  [["usr"], ["tmp"], ["etc"], ["dev"], ["home"], ["root"],
    ["var"]]

/- Files that every system has, none of them a program. -/
def systemFiles : List Location :=
  [["etc", "passwd"], ["etc", "group"], ["etc", "hosts"],
    ["dev", "null"]]

/- The names of shells. -/
def shells : List String :=
  ["sh", "dash"]

/- The names of the programs that are no shells. -/
def utilities : List String :=
  ["true", "false", "echo", "printf", "cat", "pwd", "env",
    "printenv", "sleep", "kill", "test", "[", "head", "tail",
    "wc", "tr", "sort", "uniq", "cut", "seq", "basename",
    "dirname", "mkdir", "rmdir", "rm", "touch", "ls", "cp",
    "mv", "tee", "grep", "expr", "tac", "rev"]

/- The names of all programs. -/
def names : List String :=
  shells ++ utilities

/- Put an entry where there is none. -/
def putNew
    (e : Entry)
    (d : Disk)
    (l : Location) : Disk :=
  if (d.entry? l).isSome then
    d
  else
    d.put l e

/- Install the programs in a directory. -/
def installIn
    (d : Disk)
    (l : Location) : Disk :=
  names.foldl
    (fun d name =>
      putNew (.file (.octets [])) d (l ++ [name])) d

/- A disk with what every system has. -/
def install (d : Disk) : Disk :=
  let directories :=
    (systemDirectories ++ programDirectories).foldl
      (putNew .directory) d
  let files :=
    systemFiles.foldl (putNew (.file (.octets [])))
      directories
  programDirectories.foldl installIn files

------------------------------------------------------------
-- Looking programs up
------------------------------------------------------------

/- The directories to look in when there is no path. -/
def usualPath : String :=
  "/bin:/usr/bin"

/- The paths at which a program is looked for. -/
def candidates
    (path name : String) : List String :=
  if name.toList.contains '/' then
    [name]
  else
    (splitAll ':' path.toList).map
      (fun dir =>
        if dir = [] || dir.getLast? = some '/' then
          String.ofList dir ++ name
        else
          String.ofList dir ++ "/" ++ name)

/- Whether the entry at a location is a program. -/
def isProgram (l : Location) : Bool :=
  programDirectories.contains l.dropLast
    && names.contains (l.getLastD "")

/- The program at a path, or the number of an error. -/
def programAt
    (d : Disk)
    (path : String) : Except Int String :=
  match d.resolve path with
  | .error r => .error r.number
  | .ok l =>
      match d.entry? l with
      | none => .error Disk.Refusal.notFound.number
      | some _ =>
          if isProgram l then
            .ok (l.getLastD "")
          else
            .error 13

/- Whether an error only says that nothing is there. -/
def isAbsence (n : Int) : Bool :=
  n = Disk.Refusal.notFound.number
    || n = Disk.Refusal.notDirectory.number

/- A program that was found, and the path to it. -/
structure Found where
  program : String
  path : String
deriving DecidableEq, Repr

/-
  The first program among paths. The first error that is
  more than an absence counts, otherwise the last one.
-/
def firstProgram
    (d : Disk)
    (fault : Int)
    (paths : List String) : Except Int Found :=
  match paths with
  | [] => .error fault
  | path :: rest =>
      match programAt d path with
      | .ok name => .ok ⟨name, path⟩
      | .error n =>
          let fault' := if isAbsence fault then n else fault
          firstProgram d fault' rest

/- The program with a name, or the number of an error. -/
def locate
    (d : Disk)
    (path name : String) : Except Int Found :=
  firstProgram d Disk.Refusal.notFound.number
    (candidates path name)

/- What was found is a program of the system. -/
theorem programAt_mem_names
    (d : Disk)
    (path name : String)
    (h : programAt d path = .ok name) :
    name ∈ names := by
  simp only [programAt] at h
  split at h
  · simp at h
  · split at h
    · simp at h
    · split at h
      · rename_i hp
        simp only [isProgram, Bool.and_eq_true] at hp
        have he := Except.ok.inj h
        rw [← he]
        simpa using hp.2
      · simp at h

end ContainerBuild.Programs
