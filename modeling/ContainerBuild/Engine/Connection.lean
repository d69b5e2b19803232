import ContainerBuild.Http.Headers

/-
  This file defines where an engine listens and what every
  request to it carries: credentials, and a token of the
  session if there is a way to add one.

  Key definitions include:
    * `Connection`
    * `Connection.url`
    * `Connection.headers`
-/

namespace ContainerBuild

/- The way to add the token of a session to a request. -/
abbrev TokenInjector :=
  String → Headers → Headers

/- Where an engine listens, and who asks. -/
structure Connection where
  useSsl : Bool
  host : String
  port : Int
  user : String
  password : String
  injector : Option TokenInjector
  token : String
  apiVersion : String
  timeout : Int

namespace Connection

/- The version of the interface that is asked for. -/
def usualVersion : String :=
  "1.45"

/- The seconds to wait for an answer. -/
def usualTimeout : Int :=
  60

/- The port of an engine. -/
def usualPort : Int :=
  2375

/- The engine on this machine. -/
def onThisMachine : Connection :=
  ⟨false, "", usualPort, "", "", none, "", usualVersion,
    usualTimeout⟩

/- The socket of the engine on this machine. -/
def socketUrl : String :=
  "unix:///var/run/docker.sock"

/- The address of the engine. -/
def url (c : Connection) : String :=
  if c.host = "" then
    socketUrl
  else
    "tcp://" ++ c.host ++ ":" ++ integerText c.port

/- Add the token of the session. -/
def inject
    (c : Connection)
    (hs : Headers) : Headers :=
  match c.injector with
  | none => hs
  | some f => if c.token = "" then hs else f c.token hs

/- The headers of a request after all is added. -/
def headers
    (c : Connection)
    (hs : Headers) : Except Failure Headers :=
  match hs.authorize c.user c.password with
  | .ok hs' => .ok (c.inject hs')
  | .error f => .error f

end Connection

end ContainerBuild
