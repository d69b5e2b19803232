import ContainerBuild.Text.Split
import ContainerBuild.Text.Blank

/-
  This file defines the names that users give to images,
  `name` or `name:tag`, the two rules that a name has to
  satisfy, and the references made from accepted names.

  The local rule allows ASCII letters, digits, hyphens and
  underscores. The registry rule concerns one component at a
  time: it strips the characters that may lead and then the
  ones that may trail, and blames what is left.

  Key definitions include:
    * `NameFault`
    * `InvalidName`
    * `ImageName.checkLocal`
    * `ImageName.checkRegistry`
    * `ImageName.check`
    * `Reference`
    * `Reference.ofUserInput`
    * `Reference.fullName`
    * `TagLookup`
-/

namespace ContainerBuild

open Text

------------------------------------------------------------
-- Faults
------------------------------------------------------------

/- Why a name is not valid. -/
inductive NameFault
  | missing
  | emptyComponent
  | tooManyComponents
  | forbiddenCharacter
  | offending (fragment : String)
deriving DecidableEq, Repr

/- The wording of a fault. -/
def NameFault.reason : NameFault → String
  | .missing => "no image name was given"
  | .emptyComponent => "name and tag must not be empty"
  | .tooManyComponents =>
      "must be of format <name>[:<tag>]"
  | .forbiddenCharacter =>
      "must be of format <name>[:<tag>] using only "
        ++ "letters, digits, '_' and '-'"
  | .offending fragment =>
      "does not conform to docker name rules: "
        ++ "[a-z0-9]+(?:[._-][a-z0-9]+)*  "
        ++ "Offending fragment: '" ++ fragment ++ "'"

/- A name, or a component of one, and what is wrong. -/
structure InvalidName where
  name : String
  fault : NameFault
deriving DecidableEq, Repr

/- The message about an invalid name. -/
def InvalidName.message (e : InvalidName) : String :=
  "Image name '" ++ e.name ++ "' is not valid: "
    ++ e.fault.reason

------------------------------------------------------------
-- Rules
------------------------------------------------------------

namespace ImageName

/- The characters of the local rule. -/
def isLocalChar (c : Char) : Bool :=
  ('A' ≤ c && c ≤ 'Z') || ('a' ≤ c && c ≤ 'z')
    || ('0' ≤ c && c ≤ '9') || c = '_' || c = '-'

/- The characters that may lead a component. -/
def isLeadingChar (c : Char) : Bool :=
  ('a' ≤ c && c ≤ 'z') || ('0' ≤ c && c ≤ '9')

/- The characters that may trail a component. -/
def isTrailingChar (c : Char) : Bool :=
  isLeadingChar c || c = '.' || c = '_' || c = '-'

/- A line feed at the very end is not looked at. -/
def withoutFinalNewline
    (cs : List Char) : List Char :=
  match cs.getLast? with
  | some '\n' => cs.dropLast
  | _ => cs

/- The local rule for one component. -/
def isLocalComponent (cs : List Char) : Bool :=
  (withoutFinalNewline cs).all isLocalChar

/- The components of a name. -/
def components (name : String) : List (List Char) :=
  splitAll ':' name.toList

/- The local rule: at most two components, both local. -/
def checkLocal
    (name : String) : Except InvalidName Unit :=
  if 2 < (components name).length then
    .error ⟨name, .tooManyComponents⟩
  else if (components name).all isLocalComponent then
    .ok ()
  else
    .error ⟨name, .forbiddenCharacter⟩

/- What the registry rule finds fault with, if not empty. -/
def offendingFragment (cs : List Char) : List Char :=
  dropEnd isTrailingChar (dropStart isLeadingChar cs)

/- The registry rule for one component. -/
def checkRegistry
    (component : String) : Except InvalidName Unit :=
  if component = "" then
    .error ⟨component, .emptyComponent⟩
  else
    match offendingFragment component.toList with
    | [] => .ok ()
    | fragment =>
        .error
          ⟨component, .offending (String.ofList fragment)⟩

/- The registry rule for each component in turn. -/
def checkComponents
    (name : String) :
    List (List Char) → Except InvalidName Unit
  | [] => .ok ()
  | c :: rest =>
      if c = [] then
        .error ⟨name, .emptyComponent⟩
      else
        match checkRegistry (String.ofList c) with
        | .error e => .error e
        | .ok () => checkComponents name rest

/- Both rules. -/
def check
    (name : String) : Except InvalidName Unit :=
  if name = "" then
    .error ⟨name, .missing⟩
  else
    match checkLocal name with
    | .error e => .error e
    | .ok () => checkComponents name (components name)

/- Whether a name satisfies both rules. -/
def isValid (name : String) : Bool :=
  match check name with
  | .ok () => true
  | .error _ => false

end ImageName

------------------------------------------------------------
-- References
------------------------------------------------------------

/-
  The coordinates of an image: a repository within a
  namespace, and the name and tag that the user gave.
-/
structure Reference where
  namespaceName : String
  repository : String
  name : String
  tag : Option String
deriving DecidableEq, Repr

/- Cut a text at its first colon. -/
def cutAtColon?
    (s : String) : Option (String × String) :=
  match splitFirst? ':' s.toList with
  | none => none
  | some (a, b) => some (String.ofList a, String.ofList b)

namespace Reference

/- Cut the user's text into name and tag. -/
def ofUserInput
    (namespaceName repository userText : String) :
    Reference :=
  match cutAtColon? userText with
  | some (name, tag) =>
      ⟨namespaceName, repository, name, some tag⟩
  | none => ⟨namespaceName, repository, userText, none⟩

/- The tag, unless it is empty. -/
def tag? (r : Reference) : Option String :=
  match r.tag with
  | some t => if t = "" then none else some t
  | none => none

/- The repository within its namespace. -/
def repositoryPath (r : Reference) : String :=
  r.namespaceName ++ "/" ++ r.repository

/- The name with its tag, as the user gave it. -/
def imageName (r : Reference) : String :=
  match r.tag? with
  | some t => r.name ++ ":" ++ t
  | none => r.name

/-
  The reference that is built. A name without a tag is a
  tag of the repository; a tagged one is a repository of its
  own below it.
-/
def fullName (r : Reference) : String :=
  match r.tag? with
  | some t => r.repositoryPath ++ "/" ++ r.name ++ ":" ++ t
  | none => r.repositoryPath ++ ":" ++ r.name

end Reference

/- The repository and the tag that are asked for. -/
structure TagLookup where
  repository : String
  tag : String
deriving DecidableEq, Repr

/- A name with a tag is looked up below the repository. -/
def TagLookup.ofName
    (repositoryPath name : String) : TagLookup :=
  match cutAtColon? name with
  | some (image, tag) =>
      ⟨repositoryPath ++ "/" ++ image, tag⟩
  | none => ⟨repositoryPath, name⟩

end ContainerBuild
