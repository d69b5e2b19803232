import ContainerBuild.CommandLine.Session

/-
  This file defines the command line program. It hands the
  files and variables that an invocation speaks of to the
  library and shows the reply. It works on a copy of these
  files and opens no connections: of the programs there are
  only those that the library knows, and every service
  counts as out of reach.

  Key definitions include:
    * `fetchFile`
    * `runInvocation`
    * `main`
-/

namespace ContainerBuild.CommandLine

------------------------------------------------------------
-- Files
------------------------------------------------------------

/- The location that the parts of a path lead to. -/
def locationOf (p : Path) : Location :=
  p.parts.foldl
    (fun l part =>
      if part = ".." then l.dropLast else l ++ [part])
    []

/- Put an entry on a disk, and directories above it. -/
def placeEntry
    (d : Disk)
    (l : Location)
    (e : Entry) : Disk :=
  let above := (List.range l.length).map (fun n => l.take n)
  (above.foldl (fun d a => d.put a .directory) d).put l e

/- The paths that an invocation speaks of. -/
def Invocation.paths (i : Invocation) : List Path :=
  match i.task with
  | .build t => t.dockerfile :: t.config.toList
  | .parse transcript _ => [transcript]

/- A disk that has nothing but what every system has. -/
def bareDisk : Disk :=
  Programs.install ⟨[], [], Path.ofText "/tmp", 0⟩

/- Put what a path leads to on a disk, if it can be read. -/
def fetchFile
    (d : Disk)
    (p : Path) : IO Disk := do
  try
    let bytes ← IO.FS.readBinFile p.toText
    return placeEntry d (locationOf p)
      (.file (.octets bytes.toList))
  catch e =>
    match e with
    | .noFileOrDirectory .. => return d
    | _ => return placeEntry d (locationOf p) .directory

------------------------------------------------------------
-- Variables
------------------------------------------------------------

/- The names after dollar signs in a text. -/
def mentionedNames (cs : List Char) : List String :=
  (Text.splitAll '$' cs).map
    (fun name => String.ofList
      (name.takeWhile (fun c => c.isAlphanum || c = '_')))

/- The names that the files of a disk mention. -/
def namesOn (d : Disk) : List String :=
  d.entries.flatMap
    (fun e =>
      match e.2 with
      | .file c => mentionedNames (Text.decode c.bytes)
      | .directory => [])

/- The variables with these names that are set. -/
def fetchVariables (names : List String) : IO Environment := do
  let mut env : Environment := []
  for name in names do
    if let some value ← IO.getEnv name then
      env := env.set name value
  return env

------------------------------------------------------------
-- The program
------------------------------------------------------------

/- The text for a failure that no reply stands for. -/
def describe (f : Failure) : String :=
  match f with
  | .value m => m
  | .general m => m
  | .brokenBody m => m
  | .missingKey k => "missing key " ++ Text.quoted k
  | .engine e => e.message
  | _ => "the values given are unsuitable"

/- Show what is told besides the output. -/
def showNotice (n : Notice) : IO Unit :=
  IO.eprintln (n.level.label ++ " - " ++ n.text)

/- Run an invocation and show the reply. -/
def runInvocation (i : Invocation) : IO UInt32 := do
  let disk ← i.paths.foldlM fetchFile bareDisk
  let env ← fetchVariables
    (Setting.all.map Setting.key ++ namesOn disk)
  match (i.run (.offline env) disk).1 with
  | .ok reply =>
      reply.notices.forM showNotice
      IO.print reply.output
      return UInt32.ofNat reply.code
  | .error f =>
      IO.eprintln (describe f)
      return 1

/- Run the invocation that arguments ask for. -/
def runTexts (texts : List String) : IO UInt32 := do
  match Invocation.ofTexts texts with
  | .ok i => runInvocation i
  | .error stop =>
      IO.eprintln usage
      return UInt32.ofNat stop.code

end ContainerBuild.CommandLine

/- The command line program. -/
def main (args : List String) : IO UInt32 :=
  ContainerBuild.CommandLine.runTexts args
