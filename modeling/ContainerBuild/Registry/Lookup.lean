import ContainerBuild.ImageName
import ContainerBuild.Registry.Client

/-
  This file defines how a registry is asked for an image:
  its name is looked up among the tags of a repository.

  Key definitions include:
    * `Tags.contains`
    * `RegistryClient.tagsRequest`
    * `RegistryClient.lookupAnswer`
    * `RegistryClient.hasImage`
-/

namespace ContainerBuild

------------------------------------------------------------
-- Tags
------------------------------------------------------------

namespace Tags

/- Whether a value is the text of a tag. -/
def isTag
    (tag : String)
    (v : Json.Value) : Bool :=
  match v with
  | .text s => s == tag
  | _ => false

/-
  Whether a tag is among tags: an item of an array, a field
  of an object, a part of a text. No other value has tags,
  unless it counts as absent.
-/
def contains
    (tag : String)
    (tags : Option Json.Value) : Except Failure Bool :=
  match tags with
  | none => .ok false
  | some v =>
      if !v.isTruthy then
        .ok false
      else
        match v with
        | .array items => .ok (items.any (isTag tag))
        | .object fields => .ok (Json.Fields.has tag fields)
        | .text s => .ok (Text.occursIn tag.toList s.toList)
        | _ => .error .wrongKind

end Tags

------------------------------------------------------------
-- Lookup
------------------------------------------------------------

namespace RegistryClient

/- The request for the tags of a repository. -/
def tagsRequest
    (c : RegistryClient)
    (repository : String) : Request :=
  c.request .get (repository ++ "/tags/list")

/- What the answer to a request for tags says. -/
def lookupAnswer
    (l : TagLookup)
    (r : Response) : Except Failure Bool :=
  if r.status = 404 then
    .ok false
  else if r.status = 200 then
    match objectOf ("tag list of " ++ l.repository) r with
    | .error f => .error f
    | .ok fields =>
        Tags.contains l.tag (Json.Fields.get? "tags" fields)
  else
    .error (unexpectedStatus r.status
      ("listing tags of " ++ l.repository))

/- Whether a registry has an image. -/
def hasImage
    {σ : Type}
    (c : RegistryClient)
    (transport : Transport σ)
    (repositoryPath name : String) : Action σ Bool :=
  let l := TagLookup.ofName repositoryPath name
  (send transport (c.tagsRequest l.repository)).next
    (fun r => Action.ofExcept (lookupAnswer l r))

end RegistryClient

end ContainerBuild
