import ContainerBuild.Config
import ContainerBuild.Files.Disk
import ContainerBuild.Json.Reader
import ContainerBuild.Wire
import ContainerBuild.Yaml.Document
import ContainerBuild.Text.Newline

/-
  This file defines configuration files, JSON or YAML by the
  ending of their names. An entry counts if its key, in
  upper case, is that of a setting; of several entries for
  one setting the last one counts. A text that starts with a
  dollar sign names a variable to take the value from.

  Key definitions include:
    * `upperText`
    * `substitute`
    * `ConfigFile.entries`
    * `ConfigFile.given`
    * `ConfigFile.load`
-/

namespace ContainerBuild

open Text ContainerBuild.Field

------------------------------------------------------------
-- Keys
------------------------------------------------------------

/-
  The upper case of a character as far as it leads to ASCII
  letters; those of the settings' keys are reached also from
  two lone letters and from seven ligatures.
-/
def upperChars (c : Char) : List Char :=
  if 'a' ≤ c && c ≤ 'z' then
    [Char.ofNat (c.toNat - 0x20)]
  else if c = '\u0131' then
    ['I']
  else if c = '\u017F' then
    ['S']
  else if c = '\u00DF' then
    ['S', 'S']
  else if c = '\uFB00' then
    ['F', 'F']
  else if c = '\uFB01' then
    ['F', 'I']
  else if c = '\uFB02' then
    ['F', 'L']
  else if c = '\uFB03' then
    ['F', 'F', 'I']
  else if c = '\uFB04' then
    ['F', 'F', 'L']
  else if c = '\uFB05' || c = '\uFB06' then
    ['S', 'T']
  else
    [c]

/- The upper case of a key. -/
def upperText (s : String) : String :=
  String.ofList (s.toList.flatMap upperChars)

------------------------------------------------------------
-- Substitution
------------------------------------------------------------

/- A text, or the variable it names after a dollar sign. -/
def substituteText
    (env : Environment)
    (s : String) : Except ConfigFault String :=
  match s.toList with
  | '$' :: name =>
      match env.get? (String.ofList name) with
      | some value => .ok value
      | none => .error (.unsetVariable (String.ofList name))
  | _ => .ok s

/- A value, or the variable it names. -/
def substitute
    (env : Environment)
    (v : Scalar) : Except ConfigFault Scalar :=
  match v with
  | .text s =>
      match substituteText env s with
      | .ok s' => .ok (.text s')
      | .error e => .error e
  | v => .ok v

namespace ConfigFile

------------------------------------------------------------
-- Entries
------------------------------------------------------------

/- A key: a text, or an integer too large to be written. -/
inductive Key
  | text (s : String)
  | unwritable
deriving DecidableEq, Repr

/- An entry: its key and its value. -/
abbrev Entry :=
  Key × Scalar

/- What a file holds. -/
inductive Holding
  | entries (es : List Entry)
  | noMapping

/- The entries of a JSON document. -/
def ofJson (v : Json.Value) : Holding :=
  match v with
  | .object fields =>
      .entries
        (fields.map (fun f => (.text f.1, f.2.scalar)))
  | _ => .noMapping

/- Whether a scalar counts as absent. -/
def isAbsent : Scalar → Bool
  | .null => true
  | .flag b => !b
  | .integer n => n = 0
  | .real x => x.isZero
  | .text s => s = ""
  | .octets bs => bs = []
  | .other => false

/- The key that a scalar is, if it can be one. -/
def Key.ofScalar? : Scalar → Option Key
  | .text s => some (.text s)
  | .integer n =>
      if isUnwritable n then some .unwritable else none
  | _ => none

/- Set the value of a key, which keeps its place. -/
def setEntry
    (k : Key)
    (v : Scalar) : List Entry → List Entry
  | [] => [(k, v)]
  | e :: rest =>
      if e.1 = k then
        (k, v) :: rest
      else
        e :: setEntry k v rest

/- The entries with keys; of a repeated key the last. -/
def keyedEntries
    (done : List Entry) : List (Scalar × Scalar) → List Entry
  | [] => done
  | (k, v) :: rest =>
      match Key.ofScalar? k with
      | some key => keyedEntries (setEntry key v done) rest
      | none => keyedEntries done rest

/- The entries of a YAML document; an absent one has none. -/
def ofYaml (d : Yaml.Document) : Holding :=
  match d with
  | .scalar s => if isAbsent s then .entries [] else .noMapping
  | .list isEmpty =>
      if isEmpty then .entries [] else .noMapping
  | .fields es => .entries (keyedEntries [] es)

/- The failure that a fault in a YAML file is. -/
def yamlFailure
    (path : String)
    (fault : Yaml.Fault) : Failure :=
  match fault with
  | .malformed => .build (.config (.malformed path none))
  | .badValue m => .build (.config (.malformed path (some m)))
  | .unknownWord w => .missingKey w
  | .emptyNumber => .outOfRange
  | .noMoment => .missingPart
  | .noScalar => .wrongKind
  | .oversized => .overflow
  | .tooDeep => .tooDeep

/- The failure that a fault in a JSON file is. -/
def jsonFailure
    (path : String)
    (cs : List Char)
    (fault : Json.Fault) : Failure :=
  match fault with
  | .tooDeep => .tooDeep
  | other =>
      .build (.config
        (.malformed path (some (other.message cs))))

/- Whether the ending of a name is one of YAML files. -/
def isYamlName (p : Path) : Bool :=
  let ending :=
    String.ofList (p.suffix.toList.map lowerAscii)
  ending = ".yaml" || ending = ".yml"

/- What the text of a file holds. -/
def holding
    (p : Path)
    (cs : List Char) : Except Failure Holding :=
  if isYamlName p then
    match Yaml.Document.ofText cs with
    | .ok d => .ok (ofYaml d)
    | .error fault => .error (yamlFailure p.toText fault)
  else
    match Json.read cs with
    | .ok v => .ok (ofJson v)
    | .error fault => .error (jsonFailure p.toText cs fault)

/- The entries that the text of a file holds. -/
def entries
    (p : Path)
    (cs : List Char) : Except Failure (List Entry) :=
  match holding p cs with
  | .error f => .error f
  | .ok .noMapping =>
      .error (.build (.config (.notMapping p.toText)))
  | .ok (.entries es) => .ok es

------------------------------------------------------------
-- Loading
------------------------------------------------------------

/- The setting of a key, if it is one. -/
def settingOf
    (k : Key) : Except Failure (Option Setting) :=
  match k with
  | .text s => .ok (Setting.ofKey? (upperText s))
  | .unwritable => .error (.value unwritable)

/- The values that entries give to settings. -/
def given
    (env : Environment)
    (g : Given)
    (es : List Entry) : Except Failure Given :=
  match es with
  | [] => .ok g
  | (k, v) :: rest =>
      match settingOf k with
      | .error f => .error f
      | .ok none => given env g rest
      | .ok (some s) =>
          match substitute env v with
          | .error e => .error (.build (.config e))
          | .ok v' => given env (g.set s v') rest

/- Issues of a file's values are a fault of the file. -/
def inFile
    (p : Path)
    (f : Failure) : Failure :=
  match f with
  | .invalid defects =>
      .build (.config (.invalid p.toText defects))
  | other => other

/- The text of a file, which must be UTF-8. -/
def readText
    (disk : Disk)
    (p : Path) : Except Failure (List Char) :=
  match disk.fetch p.toText with
  | .error f =>
      match f.systemMessage? with
      | some m =>
          .error (.build (.config (.unreadable p.toText m)))
      | none => .error f
  | .ok content =>
      match decode? content.bytes with
      | none => .error .undecodable
      | some cs => .ok (unifyNewlines cs)

/- The configuration that a text gives. -/
def parse
    (env : Environment)
    (p : Path)
    (cs : List Char) : Except Failure Config :=
  match entries p cs with
  | .error f => .error f
  | .ok es =>
      match given env Given.nothing es with
      | .error f => .error f
      | .ok g =>
          match Config.make env g with
          | .ok c => .ok c
          | .error f => .error (inFile p f)

/- The configuration in a file. -/
def load
    (env : Environment)
    (disk : Disk)
    (p : Path) : Except Failure Config :=
  match readText disk p with
  | .error f => .error f
  | .ok cs => parse env p cs

end ConfigFile

end ContainerBuild
