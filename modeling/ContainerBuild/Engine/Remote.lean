import ContainerBuild.Backend
import ContainerBuild.Engine.Connection
import ContainerBuild.Json.Value

/-
  This file defines the engine behind a network interface.
  A build sends the files of its context and answers with
  the stream of records. What the engine refuses is a failed
  build; any other trouble means that it is out of reach.

  Key definitions include:
    * `BuildCall`
    * `EngineClient`
    * `RemoteEngine.connect`
    * `RemoteEngine.archive`
    * `RemoteEngine.send`
    * `RemoteEngine.relay`
    * `RemoteEngine.backend`
-/

namespace ContainerBuild

------------------------------------------------------------
-- Clients
------------------------------------------------------------

/- What a client sends to have an image built. -/
structure BuildCall where
  imageName : String
  dockerfile : String
  timeout : Option Binary64
  members : List Member
deriving DecidableEq, Repr

/- A client of the engine in a world of states `σ`. -/
structure EngineClient (σ : Type) where
  create : Connection → Action σ Unit
  ping : Action σ Unit
  images : Action σ (List Json.Value)
  build : BuildCall → Action σ Body

------------------------------------------------------------
-- Failures
------------------------------------------------------------

namespace RemoteEngine

/- The error of an engine that is out of reach. -/
def unreachable (message : String) : Failure :=
  .build (.unreachable message "")

/- The error of a build that the engine refused. -/
def refused
    (imageName : String)
    (e : EngineError) : Failure :=
  .build (.buildFailed
    ("Engine rejected build of " ++ imageName ++ ": "
      ++ e.reason) "" false)

/-
  A failure to make a client. A lost connection is not
  expected here.
-/
def creationFailure
    (c : Connection)
    (f : Failure) : Failure :=
  let found (e : EngineError) :=
    unreachable ("Could not connect to docker engine at "
      ++ c.url ++ ": " ++ e.message)
  match f with
  | .engine (.api t x) => found (.api t x)
  | .engine (.client t) => found (.client t)
  | other => other

/- A failure of a ping. -/
def pingFailure
    (c : Connection)
    (f : Failure) : Failure :=
  match f with
  | .engine e =>
      unreachable ("Ping of docker engine at " ++ c.url
        ++ " failed: " ++ e.message)
  | other => other

/- A failure to list images. -/
def listingFailure (f : Failure) : Failure :=
  match f with
  | .engine e =>
      unreachable ("Listing images failed: " ++ e.message)
  | other => other

/- A failure to send a build. -/
def sendFailure
    (c : Connection)
    (imageName : String)
    (f : Failure) : Failure :=
  match f with
  | .engine (.api t x) => refused imageName (.api t x)
  | .engine e =>
      unreachable ("Build request to " ++ c.url ++ " failed: "
        ++ e.message)
  | other => other

/-
  A failure in the middle of a reply. A fault of the client
  is not expected here.
-/
def streamFailure
    (c : Connection)
    (imageName : String)
    (f : Failure) : Failure :=
  let lost (e : EngineError) :=
    unreachable ("Connection to " ++ c.url
      ++ " lost during build: " ++ e.message)
  match f with
  | .engine (.api t x) => refused imageName (.api t x)
  | .engine (.connection t) => lost (.connection t)
  | .engine (.timeout t) => lost (.timeout t)
  | other => other

------------------------------------------------------------
-- Replies
------------------------------------------------------------

/- The signs of a text, each of them a chunk. -/
def signs (s : String) : List Chunk :=
  s.toList.map (fun c => .text (String.singleton c))

/-
  The reply as it is handed on, its failure explained. A
  text comes sign by sign, octets come as numbers.
-/
def relay
    (c : Connection)
    (imageName : String)
    (b : Body) : Body :=
  match b with
  | .chunks cs failure =>
      .chunks cs (failure.map (streamFailure c imageName))
  | .whole (.text s) => .chunks (signs s) none
  | .whole (.octets bs) => .numbers bs
  | .numbers bs => .numbers bs

------------------------------------------------------------
-- Operations
------------------------------------------------------------

variable {σ : Type}

/- See whether the engine answers. -/
def ping
    (client : EngineClient σ)
    (c : Connection) : Action σ Unit :=
  client.ping.mapFailure (pingFailure c)

/- Make a client and see whether the engine answers. -/
def connect
    (client : EngineClient σ)
    (c : Connection) : Action σ Unit :=
  ((client.create c).mapFailure (creationFailure c)).next
    (fun _ => ping client c)

/- All images that the engine holds. -/
def images
    (client : EngineClient σ) :
    Action σ (List Json.Value) :=
  client.images.mapFailure listingFailure

/- A member of the archive for a file of a context. -/
def archiveMember
    (f : Location × Content) : Member :=
  (Text.joinTexts "/" f.1, f.2.bytes)

/-
  The members of the archive of a directory: one a file, in
  the order of their paths.
-/
def archive
    (d : Disk)
    (directory : Path) : List Member :=
  match d.resolve directory.toText with
  | .error _ => []
  | .ok l => (d.filesBelow l).map archiveMember

/- The call that builds an image from a disk. -/
def buildCall
    (d : Disk)
    (b : BuildRequest) : BuildCall :=
  ⟨b.imageName, b.context.dockerfile, b.timeout,
    archive d b.context.directory⟩

/- Send a build. -/
def send
    (disk : σ → Disk)
    (client : EngineClient σ)
    (c : Connection)
    (b : BuildRequest) : Action σ Body :=
  fun s =>
    (client.build (buildCall (disk s) b)).mapFailure
      (sendFailure c b.imageName) s

/- The engine as a backend. -/
def backend
    (disk : σ → Disk)
    (client : EngineClient σ)
    (c : Connection) : Backend σ :=
  ⟨.records, fun b =>
    (send disk client c b).next
      (fun body =>
        Action.give
          (Action.give (relay c b.imageName body)))⟩

end RemoteEngine

end ContainerBuild
