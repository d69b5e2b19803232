import ContainerBuild.Failure
import ContainerBuild.Text.Split
import ContainerBuild.Text.Utf8

/-
  This file defines the body of an answer as it arrives: in
  chunks that cut lines anywhere, possibly with a failure
  after the last chunk. Octets are collected until a line is
  complete; what is left when the body ends without failure
  is a last line.

  Key definitions include:
    * `Chunk`
    * `Body`
    * `Body.ofFile`
    * `feed`
    * `Delivery`
    * `Body.delivery`
-/

namespace ContainerBuild

open Text

------------------------------------------------------------
-- Bodies
------------------------------------------------------------

/- A piece of a body. -/
inductive Chunk
  | text (s : String)
  | octets (bs : List UInt8)
deriving DecidableEq, Repr

/- The octets of a chunk. -/
def Chunk.bytes : Chunk → List UInt8
  | text s => utf8 s
  | octets bs => bs

/-
  A body that is there as a whole, one whose chunks have to
  be asked for until they end or fail, or one whose octets
  have to be asked for and come as numbers.
-/
inductive Body
  | whole (c : Chunk)
  | chunks (cs : List Chunk) (failure : Option Failure)
  | numbers (bs : List UInt8)
deriving DecidableEq, Repr

/- The chunks of a body in order. -/
def Body.chunkList : Body → List Chunk
  | whole c => [c]
  | chunks cs _ => cs
  | numbers _ => []

/- The failure after the last chunk; a number is no chunk. -/
def Body.failure? : Body → Option Failure
  | whole _ => none
  | chunks _ f => f
  | numbers bs => if bs = [] then none else some .wrongKind

------------------------------------------------------------
-- Lines
------------------------------------------------------------

/- The octet that ends a line. -/
def lineFeed : UInt8 :=
  0x0A

/- The lines of a file, each with the octet that ends it. -/
def fileLines : List UInt8 → List (List UInt8)
  | [] => []
  | b :: bs =>
      if b = lineFeed then
        [b] :: fileLines bs
      else
        match fileLines bs with
        | [] => [[b]]
        | l :: ls => (b :: l) :: ls

/- The body that a file is, read line by line. -/
def Body.ofFile (bs : List UInt8) : Body :=
  .chunks ((fileLines bs).map .octets) none

/-
  The lines that a chunk completes and the octets that are
  left over for the next one.
-/
def feed
    (buffer chunk : List UInt8) :
    List (List UInt8) × List UInt8 :=
  let parts := splitAll lineFeed (buffer ++ chunk)
  (parts.dropLast, parts.getLastD [])

/- The lines that chunks complete, and what is left over. -/
def feedAll
    (buffer : List UInt8)
    (cs : List Chunk) : List (List UInt8) × List UInt8 :=
  match cs with
  | [] => ([], buffer)
  | c :: rest =>
      let now := feed buffer c.bytes
      let later := feedAll now.2 rest
      (now.1 ++ later.1, later.2)

/- The text of a line. -/
def lineText (bs : List UInt8) : String :=
  String.ofList (decode bs)

/- The lines that arrive, and the failure after them. -/
structure Delivery where
  lines : List String
  failure : Option Failure

/- The lines of a body as they arrive. -/
def Body.delivery (b : Body) : Delivery :=
  let fed := feedAll [] b.chunkList
  match b.failure? with
  | some f => ⟨fed.1.map lineText, some f⟩
  | none =>
      let all :=
        if fed.2 = [] then fed.1 else fed.1 ++ [fed.2]
      ⟨all.map lineText, none⟩

end ContainerBuild
