import ContainerBuild.Action
import ContainerBuild.Files.Path
import ContainerBuild.Text.Utf8

/-
  This file defines the disk: directories and files at
  locations, the working directory, and the directory for
  temporary files. Locations are lists of names from the
  root; the texts of paths are resolved to them one part at
  a time.

  Key definitions include:
    * `Content`
    * `Entry`
    * `Disk`
    * `Disk.entry?`
    * `Disk.put`
    * `Disk.removeBelow`
    * `Disk.resolve`
    * `Disk.fetch`
    * `Disk.store`
    * `Disk.makeNew`
    * `Disk.makeDirectories`
    * `Disk.makeFresh`
    * `Disk.filesBelow`
-/

namespace ContainerBuild

open Text

------------------------------------------------------------
-- Entries
------------------------------------------------------------

/- Names from the root. -/
abbrev Location :=
  List String

/- A member of an archive: its name and its octets. -/
abbrev Member :=
  String × List UInt8

/- What a file holds: octets, or an archive of members. -/
inductive Content
  | octets (bs : List UInt8)
  | archive (members : List Member)
deriving DecidableEq, Repr

/- The octets of a file; an archive is not looked into. -/
def Content.bytes : Content → List UInt8
  | .octets bs => bs
  | .archive _ => []

/- What is at a location. -/
inductive Entry
  | directory
  | file (content : Content)
deriving DecidableEq, Repr

/-
  A disk. The serial number makes the names of temporary
  files and directories differ from all earlier ones.
-/
structure Disk where
  entries : List (Location × Entry)
  working : Location
  temporary : Path
  serial : Nat
deriving DecidableEq, Repr

namespace Disk

/- What is at a location; the root is a directory. -/
def entry?
    (d : Disk)
    (l : Location) : Option Entry :=
  if l = [] then
    some .directory
  else
    (d.entries.find? (fun e => e.1 = l)).map Prod.snd

/- Replace the entries. -/
def withEntries
    (d : Disk)
    (es : List (Location × Entry)) : Disk :=
  ⟨es, d.working, d.temporary, d.serial⟩

/- Put an entry at a location. -/
def put
    (l : Location)
    (e : Entry)
    (d : Disk) : Disk :=
  d.withEntries
    ((l, e) :: d.entries.filter (fun x => x.1 != l))

/- Remove the entry at a location. -/
def remove
    (l : Location)
    (d : Disk) : Disk :=
  d.withEntries (d.entries.filter (fun x => x.1 != l))

/- Whether a location is another one or below it. -/
def isBelow
    (top l : Location) : Bool :=
  startsWith top l

/- Remove everything at a location and below it. -/
def removeBelow
    (top : Location)
    (d : Disk) : Disk :=
  d.withEntries
    (d.entries.filter (fun x => !isBelow top x.1))

------------------------------------------------------------
-- System errors
------------------------------------------------------------

/- Why the system refuses an access. -/
inductive Refusal
  | notFound
  | alreadyThere
  | notDirectory
  | isDirectory
  | nameTooLong
deriving DecidableEq, Repr

/- The system's number for a refusal. -/
def Refusal.number : Refusal → Int
  | .notFound => 2
  | .alreadyThere => 17
  | .notDirectory => 20
  | .isDirectory => 21
  | .nameTooLong => 36

/- The system's text for a refusal. -/
def Refusal.text : Refusal → String
  | .notFound => "No such file or directory"
  | .alreadyThere => "File exists"
  | .notDirectory => "Not a directory"
  | .isDirectory => "Is a directory"
  | .nameTooLong => "File name too long"

/- The failure of an access to a path. -/
def Refusal.failure
    (path : String)
    (r : Refusal) : Failure :=
  .system (.numbered r.number r.text path)

------------------------------------------------------------
-- Resolution
------------------------------------------------------------

/- The longest name, in octets. -/
def maxName : Nat :=
  255

/- The longest path with its end mark, in octets. -/
def maxPath : Nat :=
  4096

/-
  Follow names from a location. All but the last must lead
  to directories; the last may lead to nothing.
-/
def walk
    (d : Disk)
    (here : Location)
    (names : List String) : Except Refusal Location :=
  match names with
  | [] => .ok here
  | name :: rest =>
      match d.entry? here with
      | none => .error .notFound
      | some (.file _) => .error .notDirectory
      | some .directory =>
          if !Path.isPart name then
            walk d here rest
          else if name = ".." then
            walk d here.dropLast rest
          else if maxName < (utf8 name).length then
            .error .nameTooLong
          else
            walk d (here ++ [name]) rest

/- The location that the text of a path leads to. -/
def resolve
    (d : Disk)
    (path : String) : Except Refusal Location :=
  if path = "" then
    .error .notFound
  else if maxPath ≤ (utf8 path).length then
    .error .nameTooLong
  else if Path.rootOf path.toList = "" then
    walk d d.working (Path.pieces path)
  else
    walk d [] (Path.pieces path)

/- What a path leads to, if anything. -/
def find?
    (d : Disk)
    (path : String) : Option (Location × Entry) :=
  match d.resolve path with
  | .error _ => none
  | .ok l => (d.entry? l).map (fun e => (l, e))

/- Whether a path leads to something. -/
def existsAt
    (d : Disk)
    (path : String) : Bool :=
  (d.find? path).isSome

/- A path must not contain a null character. -/
def checkText
    (path : String) : Except Failure Unit :=
  if path.toList.contains '\x00' then
    .error (.value "embedded null byte")
  else
    .ok ()

/- Resolve a path or fail as an access to it does. -/
def locate
    (d : Disk)
    (path : String) : Except Failure Location :=
  match checkText path with
  | .error f => .error f
  | .ok () =>
      match d.resolve path with
      | .error r => .error (r.failure path)
      | .ok l => .ok l

------------------------------------------------------------
-- Reading and writing
------------------------------------------------------------

/- The content of the file that a path leads to. -/
def fetch
    (d : Disk)
    (path : String) : Except Failure Content :=
  match d.locate path with
  | .error f => .error f
  | .ok l =>
      match d.entry? l with
      | none => .error (Refusal.notFound.failure path)
      | some .directory =>
          .error (Refusal.isDirectory.failure path)
      | some (.file c) => .ok c

/- Write a file, in place of the one that is there. -/
def store
    (path : String)
    (c : Content) : Action Disk Unit :=
  fun d =>
    match d.locate path with
    | .error f => (.error f, d)
    | .ok l =>
        match d.entry? l with
        | some .directory =>
            (.error (Refusal.isDirectory.failure path), d)
        | _ => (.ok (), d.put l (.file c))

/- Remove a file. -/
def discard
    (path : String) : Action Disk Unit :=
  fun d =>
    match d.locate path with
    | .error f => (.error f, d)
    | .ok l =>
        match d.entry? l with
        | none =>
            (.error (Refusal.notFound.failure path), d)
        | some .directory =>
            (.error (Refusal.isDirectory.failure path), d)
        | some (.file _) => (.ok (), d.remove l)

/-
  Copy a file. Source and target must not be the same, and
  the source is opened first.
-/
def copyFile
    (source target : String) : Action Disk Unit :=
  fun d =>
    match checkText source, checkText target with
    | .error f, _ => (.error f, d)
    | .ok (), .error f => (.error f, d)
    | .ok (), .ok () =>
        let same : Bool :=
          match d.find? source, d.find? target with
          | some a, some b => a.1 = b.1
          | _, _ => false
        if same then
          (.error (.system (.plain
            (quoted source ++ " and " ++ quoted target
              ++ " are the same file"))), d)
        else
          match d.fetch source with
          | .error f => (.error f, d)
          | .ok c => store target c d

------------------------------------------------------------
-- Directories
------------------------------------------------------------

/- Make something where there is nothing yet. -/
def makeNew
    (e : Entry)
    (path : String) : Action Disk Unit :=
  fun d =>
    match d.locate path with
    | .error f => (.error f, d)
    | .ok l =>
        match d.entry? l with
        | some _ =>
            (.error (Refusal.alreadyThere.failure path), d)
        | none => (.ok (), d.put l e)

/- Make a directory where there is nothing yet. -/
def makeDirectory
    (path : String) : Action Disk Unit :=
  makeNew .directory path

/- Whether a path leads to a directory. -/
def isDirectory
    (d : Disk)
    (path : String) : Bool :=
  match d.find? path with
  | some (_, .directory) => true
  | _ => false

/- Whether a failure says that something is missing. -/
def isNotFound (f : Failure) : Bool :=
  match f with
  | .system (.numbered n _ _) => n = 2
  | _ => false

/-
  Make a directory unless it is there. A failure counts only
  if no directory is at the path.
-/
def ensureDirectory
    (path : String) : Action Disk Unit :=
  fun d =>
    match makeDirectory path d with
    | (.ok (), d') => (.ok (), d')
    | (.error f, d') =>
        match f.systemMessage? with
        | none => (.error f, d')
        | some _ =>
            if !isNotFound f && d'.isDirectory path then
              (.ok (), d')
            else
              (.error f, d')

/-
  Make a directory and those above it, of which there are at
  most `fuel`, as far as they are missing.
-/
def ensureAbove
    (fuel : Nat)
    (p : Path) : Action Disk Unit :=
  fun d =>
    match ensureDirectory p.toText d with
    | (.ok (), d') => (.ok (), d')
    | (.error f, d') =>
        match fuel with
        | 0 => (.error f, d')
        | n + 1 =>
            if isNotFound f then
              match ensureAbove n p.parent d' with
              | (.ok (), d'') => ensureDirectory p.toText d''
              | (.error g, d'') => (.error g, d'')
            else
              (.error f, d')

theorem ensureAbove_zero (p : Path) :
    ensureAbove 0 p = ensureDirectory p.toText := by
  funext d
  rw [ensureAbove]
  rcases ensureDirectory p.toText d with ⟨_ | _, d'⟩ <;>
    rfl

theorem ensureAbove_of_ok
    {n : Nat}
    {p : Path}
    {d d' : Disk}
    (hHere : ensureDirectory p.toText d = (.ok (), d')) :
    ensureAbove (n + 1) p d = (.ok (), d') := by
  rw [ensureAbove, hHere]

/- What is above is made, and this then tried once more. -/
theorem ensureAbove_of_error
    {n : Nat}
    {p : Path}
    {d d' : Disk}
    {f : Failure}
    (hHere : ensureDirectory p.toText d = (.error f, d')) :
    ensureAbove (n + 1) p d =
      if isNotFound f then
        (ensureAbove n p.parent).next
          (fun _ => ensureDirectory p.toText) d'
      else
        (.error f, d') := by
  rw [ensureAbove, hHere]
  simp only [Action.next]
  split
  · rcases ensureAbove n p.parent d' with ⟨_ | _, d''⟩ <;>
      rfl
  · rfl

/- Make a directory and those above it. -/
def makeDirectories (p : Path) : Action Disk Unit :=
  ensureAbove p.parts.length p

------------------------------------------------------------
-- Temporary files and directories
------------------------------------------------------------

/- The digits of temporary names. -/
def nameSigns : List Char :=
  "abcdefghijklmnopqrstuvwxyz0123456789_".toList

/- The sign for a value below 37. -/
def nameSign (n : Nat) : Char :=
  nameSigns.getD (n % 37) '_'

/- A number in eight signs, its lowest ones. -/
def nameDigits
    (width n : Nat) : List Char :=
  match width with
  | 0 => []
  | w + 1 => nameDigits w (n / 37) ++ [nameSign n]

/- The name with a serial number. -/
def temporaryName
    (ending : String)
    (n : Nat) : String :=
  "imagebuild-" ++ String.ofList (nameDigits 8 n) ++ ending

/-
  The first serial number from `n` on whose name is free in
  a directory, searched among `fuel` numbers.
-/
def freeSerial
    (d : Disk)
    (dir : Path)
    (ending : String)
    (fuel n : Nat) : Nat :=
  match fuel with
  | 0 => n
  | f + 1 =>
      let p := dir.join (Path.ofText (temporaryName ending n))
      if d.existsAt p.toText then
        freeSerial d dir ending f (n + 1)
      else
        n

/- Use up serial numbers. -/
def withSerial
    (n : Nat)
    (d : Disk) : Disk :=
  ⟨d.entries, d.working, d.temporary, n⟩

/- A new path in a directory. -/
def freshPath
    (dir : Path)
    (ending : String)
    (d : Disk) : Path × Disk :=
  let n :=
    freeSerial d dir ending (d.entries.length + 1) d.serial
  (dir.join (Path.ofText (temporaryName ending n)),
    d.withSerial (n + 1))

/- Make something at a new path in a directory. -/
def makeFresh
    (e : Entry)
    (dir : Path)
    (ending : String) : Action Disk Path :=
  fun d =>
    match freshPath dir ending d with
    | (p, d') =>
        match makeNew e p.toText d' with
        | (.ok (), d'') => (.ok p, d'')
        | (.error f, d'') => (.error f, d'')

/- Make a new directory within another one. -/
def makeTemporary
    (dir : Path) : Action Disk Path :=
  makeFresh .directory dir ""

/- Make a new empty file among the temporary ones. -/
def makeTemporaryFile
    (ending : String) : Action Disk Path :=
  fun d =>
    makeFresh (.file (.octets [])) d.temporary ending d

------------------------------------------------------------
-- Trees
------------------------------------------------------------

/- Names in order, compared part by part. -/
def precedes : Location → Location → Bool
  | [], _ => true
  | _ :: _, [] => false
  | a :: as, b :: bs =>
      if a = b then
        precedes as bs
      else
        a.toList < b.toList

/- The names below a location, from it on, and the content. -/
def fileBelow?
    (top : Location)
    (x : Location × Entry) : Option (Location × Content) :=
  match after? top x.1, x.2 with
  | some (n :: ns), .file c => some (n :: ns, c)
  | _, _ => none

/- The files below a location, in order. -/
def filesBelow
    (d : Disk)
    (top : Location) : List (Location × Content) :=
  (d.entries.filterMap (fileBelow? top)).mergeSort
    (fun a b => precedes a.1 b.1)

/- The names in a directory. -/
def namesIn
    (d : Disk)
    (l : Location) : List String :=
  d.entries.filterMap
    (fun x =>
      match after? l x.1 with
      | some [name] => some name
      | _ => none)

/- Remove the directory that a path leads to, if any. -/
def removeTree
    (path : String)
    (d : Disk) : Disk :=
  match d.find? path with
  | some (l, .directory) => d.removeBelow l
  | _ => d

end Disk

end ContainerBuild
