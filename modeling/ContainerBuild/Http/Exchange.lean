import ContainerBuild.Action
import ContainerBuild.Http.Headers
import ContainerBuild.Json.Reader
import ContainerBuild.Text.Utf8

/-
  This file defines requests, the answers to them, and the
  way to send them. How octets become a JSON document depends
  on the client that sends the requests: it looks at the
  headers and guesses. So an answer brings along what its
  client reads its body as.

  Key definitions include:
    * `Request`
    * `PayloadFault`
    * `Response`
    * `Response.ofBody`
    * `Transport`
-/

namespace ContainerBuild

/- The verbs of requests. -/
inductive Method
  | get
  | head
  | delete
deriving DecidableEq, Repr

/- The name of a verb. -/
def Method.name : Method → String
  | .get => "GET"
  | .head => "HEAD"
  | .delete => "DELETE"

/-
  A request, and who makes it. A streamed one leaves the body
  of the answer to be read later.
-/
structure Request where
  method : Method
  url : String
  headers : Option Headers
  streamed : Bool
  timeout : Int
  credentials : Option (String × String)
deriving DecidableEq, Repr

------------------------------------------------------------
-- Answers
------------------------------------------------------------

/-
  Why a client could not read a body as JSON: it is no JSON
  document, or one that nests too deeply.
-/
inductive PayloadFault
  | malformed (message : String)
  | tooDeep
deriving DecidableEq, Repr

/-
  An answer. If there is a failure, the body breaks off with
  it behind the octets that are there; only a streamed body
  can, because any other one is read before it is handed
  over. The payload is what the client reads the body as; its
  texts consist of Unicode scalar values.
-/
structure Response where
  status : Int
  headers : Headers
  body : List UInt8
  failure : Option Failure
  payload : Except PayloadFault Json.Value

/- The fault of a payload that a reader found. -/
def PayloadFault.ofFault
    (cs : List Char)
    (fault : Json.Fault) : PayloadFault :=
  match fault with
  | .tooDeep => .tooDeep
  | other => .malformed (other.message cs)

/- A whole answer whose payload is written in UTF-8. -/
def Response.ofBody
    (status : Int)
    (headers : Headers)
    (body : List UInt8) : Response :=
  let cs := Text.decode body
  ⟨status, headers, body, none,
    (Json.read cs).mapError (PayloadFault.ofFault cs)⟩

------------------------------------------------------------
-- Sending
------------------------------------------------------------

/- The way to send requests in a world of states `σ`. -/
abbrev Transport
    (σ : Type) : Type :=
  Request → Action σ Response

end ContainerBuild
