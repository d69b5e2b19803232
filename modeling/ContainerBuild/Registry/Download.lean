import ContainerBuild.Files.Disk
import ContainerBuild.Number.Literal
import ContainerBuild.Registry.Client

/-
  This file defines how an image is downloaded from a
  registry: its manifest, and then every blob that the
  manifest lists, the configuration first. They become the
  members of an archive.

  Key definitions include:
    * `Manifest.descriptors`
    * `Descriptor.digest`
    * `Descriptor.size`
    * `Descriptor.memberName`
    * `cutBlob`
    * `RegistryClient.blob`
    * `RegistryClient.download`
-/

namespace ContainerBuild

------------------------------------------------------------
-- Manifests
------------------------------------------------------------

namespace Manifest

/-
  The layers that a value lists: the items of an array, the
  names of an object's fields, the signs of a text.
-/
def layers
    (v : Option Json.Value) :
    Except Failure (List Json.Value) :=
  match v with
  | none => .ok []
  | some (.array items) => .ok items
  | some (.object fields) =>
      .ok (fields.map (fun f => .text f.1))
  | some (.text s) =>
      .ok (s.toList.map (fun c => .text (String.singleton c)))
  | some _ => .error .wrongKind

/-
  The descriptors of a manifest, the configuration first. A
  manifest without a configuration has none.
-/
def descriptors
    (fields : JsonFields) :
    Except Failure (List Json.Value) :=
  match Json.Fields.get? "config" fields with
  | none => .ok []
  | some config =>
      match layers (Json.Fields.get? "layers" fields) with
      | .error f => .error f
      | .ok ls => .ok (config :: ls)

end Manifest

------------------------------------------------------------
-- Descriptors
------------------------------------------------------------

namespace Descriptor

/- A field that a descriptor must have. -/
def field
    (name : String)
    (descriptor : Json.Value) :
    Except Failure Json.Value :=
  match descriptor with
  | .object fields =>
      match Json.Fields.get? name fields with
      | some v => .ok v
      | none => .error (.missingKey name)
  | _ => .error .wrongKind

/- The digest of a descriptor, of any kind. -/
def digest
    (descriptor : Json.Value) :
    Except Failure Json.Value :=
  field "digest" descriptor

/- A real number as a size: its integer part. -/
def sizeOfReal (x : Binary64) : Except Failure Int :=
  match x with
  | .nan =>
      .error (.value "cannot convert float NaN to integer")
  | .infinite _ => .error .overflow
  | .finite _ _ _ => .ok (x.truncated?.getD 0)

/- A value as a size. -/
def sizeOf (v : Json.Value) : Except Failure Int :=
  match v with
  | .integer n => .ok n
  | .bool b => .ok (if b then 1 else 0)
  | .real x => sizeOfReal x
  | .text s =>
      match readInteger s.toList with
      | .ok n => .ok n
      | .error fault => .error (.value fault.message)
  | _ => .error .wrongKind

/- The size of a descriptor. -/
def size (descriptor : Json.Value) : Except Failure Int :=
  match field "size" descriptor with
  | .error f => .error f
  | .ok v => sizeOf v

/- A colon becomes a line in the name of a member. -/
def plainSign (c : Char) : Char :=
  if c = ':' then '_' else c

/-
  The name of the member for a digest, which must be a text
  here.
-/
def memberName
    (digest : Json.Value) : Except Failure String :=
  match digest with
  | .text s => .ok (String.ofList (s.toList.map plainSign))
  | _ => .error .missingPart

end Descriptor

------------------------------------------------------------
-- Blobs
------------------------------------------------------------

/- The octets that are copied at a time. -/
def copyUnit : Int :=
  16384

/-
  How many octets are read for a size. A negative size stands
  for what it leaves of the unit of copying.
-/
def readLength (size : Int) : Nat :=
  if size < 0 then
    (size % copyUnit).toNat
  else
    size.toNat

/- The failure of a blob that ends too early. -/
def shortBlob : Failure :=
  .system (.plain "unexpected end of data")

/-
  The octets of a blob, as many as its size says. If there
  are fewer, they end there, or the body breaks off.
-/
def cutBlob
    (size : Int)
    (r : Response) : Except Failure (List UInt8) :=
  if r.body.length < readLength size then
    .error (r.failure.getD shortBlob)
  else
    .ok (r.body.take (readLength size))

/-
  The member for a descriptor and the answer to the request
  for its blob.
-/
def blobMember
    (descriptor digest : Json.Value)
    (r : Response) : Except Failure Member :=
  match Descriptor.memberName digest with
  | .error f => .error f
  | .ok name =>
      match Descriptor.size descriptor with
      | .error f => .error f
      | .ok n =>
          match cutBlob n r with
          | .error f => .error f
          | .ok bs => .ok (name, bs)

------------------------------------------------------------
-- Download
------------------------------------------------------------

namespace RegistryClient

variable {σ : Type}

/- The name of the member for the manifest. -/
def manifestName : String :=
  "manifest.json"

/- Download the blob of a descriptor. -/
def blob
    (c : RegistryClient)
    (transport : Transport σ)
    (fullName : String)
    (descriptor : Json.Value) : Action σ Member :=
  match Descriptor.digest descriptor with
  | .error f => Action.fail f
  | .ok digest =>
      (send transport
        (c.blobRequest fullName digest.display)).next
        (fun r =>
          if r.status = 200 then
            Action.ofExcept
              (blobMember descriptor digest r)
          else
            Action.fail (unexpectedStatus r.status
              ("for blob " ++ digest.display)))

/- Download the blobs of descriptors, one after the other. -/
def blobs
    (c : RegistryClient)
    (transport : Transport σ)
    (fullName : String) :
    List Json.Value → Action σ (List Member)
  | [] => Action.give []
  | d :: rest =>
      (c.blob transport fullName d).next
        (fun m =>
          (c.blobs transport fullName rest).next
            (fun ms => Action.give (m :: ms)))

/- The descriptors that the answer with a manifest lists. -/
def manifestAnswer
    (fullName tag : String)
    (r : Response) : Except Failure (List Json.Value) :=
  let what := "manifest " ++ fullName ++ ":" ++ tag
  if r.status = 200 then
    match objectOf what r with
    | .error f => .error f
    | .ok fields => Manifest.descriptors fields
  else
    .error (unexpectedStatus r.status ("for " ++ what))

/- Download an image as the members of an archive. -/
def download
    (c : RegistryClient)
    (transport : Transport σ)
    (fullName tag : String) : Action σ (List Member) :=
  (send transport
    (c.manifestRequest .get fullName tag)).next
    (fun r =>
      match manifestAnswer fullName tag r with
      | .error f => Action.fail f
      | .ok ds =>
          (c.blobs transport fullName ds).next
            (fun ms =>
              Action.give ((manifestName, r.body) :: ms)))

end RegistryClient

end ContainerBuild
