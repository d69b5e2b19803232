import ContainerBuild.Http.Exchange

/-
  This file defines clients of a registry: its address, the
  requests to it, and the objects that it answers with.

  Key definitions include:
    * `RegistryClient`
    * `RegistryClient.baseUrl`
    * `RegistryClient.request`
    * `RegistryClient.send`
    * `objectOf`
-/

namespace ContainerBuild

------------------------------------------------------------
-- Clients
------------------------------------------------------------

/- Where a registry listens, and who asks. -/
structure RegistryClient where
  host : String
  port : Int
  user : String
  password : String
  useSsl : Bool
  timeout : Int
deriving DecidableEq, Repr

namespace RegistryClient

/- The seconds to wait for an answer. -/
def usualTimeout : Int :=
  30

/- The address below which everything is found. -/
def baseUrl (c : RegistryClient) : String :=
  (if c.useSsl then "https" else "http") ++ "://" ++ c.host
    ++ ":" ++ integerText c.port ++ "/v2"

/- The credentials, if there is a user. -/
def credentials
    (c : RegistryClient) : Option (String × String) :=
  if c.user = "" then
    none
  else
    some (c.user, c.password)

/- The address of a resource. -/
def urlOf
    (c : RegistryClient)
    (path : String) : String :=
  c.baseUrl ++ "/" ++ path

/- A request for a resource. -/
def request
    (c : RegistryClient)
    (method : Method)
    (path : String) : Request :=
  ⟨method, c.urlOf path, none, false, c.timeout,
    c.credentials⟩

/- The kind of manifest that is asked for. -/
def manifestType : String :=
  "application/vnd.docker.distribution.manifest.v2+json"

/- A request for a manifest. -/
def manifestRequest
    (c : RegistryClient)
    (method : Method)
    (name reference : String) : Request :=
  ⟨method, c.urlOf (name ++ "/manifests/" ++ reference),
    some [("Accept", manifestType)], false, c.timeout,
    c.credentials⟩

/- A request for a blob. -/
def blobRequest
    (c : RegistryClient)
    (name digest : String) : Request :=
  ⟨.get, c.urlOf (name ++ "/blobs/" ++ digest), none, true,
    c.timeout, c.credentials⟩

------------------------------------------------------------
-- Sending
------------------------------------------------------------

/- A failed transport is an error of the registry. -/
def requestFailure
    (r : Request)
    (f : Failure) : Failure :=
  match f with
  | .engine e =>
      if e.isTransport then
        .build (.registry
          ("Registry request " ++ r.method.name ++ " " ++ r.url
            ++ " failed: " ++ e.message))
      else
        f
  | other => other

/- Send a request. -/
def send
    {σ : Type}
    (transport : Transport σ)
    (r : Request) : Action σ Response :=
  (transport r).mapFailure (requestFailure r)

end RegistryClient

------------------------------------------------------------
-- Answers
------------------------------------------------------------

/- The fields of a JSON object. -/
abbrev JsonFields :=
  List (String × Json.Value)

/- The error about an answer that makes no sense. -/
def malformedAnswer
    (what reason : String) : Failure :=
  .build (.registry
    ("Registry returned a malformed " ++ what ++ ": "
      ++ reason))

/-
  The object that an answer holds. Too deep nesting is no
  fault of the registry.
-/
def objectOf
    (what : String)
    (r : Response) : Except Failure JsonFields :=
  match r.payload with
  | .ok (.object fields) => .ok fields
  | .ok _ =>
      .error (malformedAnswer what "expected a JSON object")
  | .error (.malformed message) =>
      .error (malformedAnswer what message)
  | .error .tooDeep => .error .tooDeep

/- The error about an unexpected status. -/
def unexpectedStatus
    (status : Int)
    (purpose : String) : Failure :=
  .build (.registry
    ("Registry returned status " ++ integerText status ++ " "
      ++ purpose))

end ContainerBuild
