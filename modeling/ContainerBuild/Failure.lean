import ContainerBuild.ImageName
import ContainerBuild.Field.Defect
import ContainerBuild.Number.Decimal
import ContainerBuild.Text.Quoted

/-
  This file defines everything that can go wrong. Errors of
  building are the ones a build report speaks about and have
  a code; besides them there are errors of the engine client
  and the operating system, invalid structured data, and the
  failures of operations that met unsuitable values.

  Key definitions include:
    * `ErrorCode`
    * `BuildError`
    * `BuildError.code`
    * `BuildError.message`
    * `EngineError`
    * `SystemError`
    * `Failure`
-/

namespace ContainerBuild

------------------------------------------------------------
-- Configuration
------------------------------------------------------------

/- Why a configuration could not be loaded. -/
inductive ConfigFault
  | unreadable (path : String) (reason : String)
  | malformed (path : String) (detail : Option String)
  | notMapping (path : String)
  | unsetVariable (name : String)
  | invalid (path : String) (defects : List Field.Defect)
deriving DecidableEq, Repr

/- The message about a configuration. -/
def ConfigFault.message : ConfigFault → String
  | .unreadable path reason =>
      "Could not read configuration file " ++ path ++ ": "
        ++ reason
  | .malformed path none =>
      "Could not parse configuration file " ++ path
  | .malformed path (some detail) =>
      "Could not parse configuration file " ++ path ++ ": "
        ++ detail
  | .notMapping path =>
      "Configuration file " ++ path
        ++ " must contain a mapping."
  | .unsetVariable name =>
      "Did not find environment variable " ++ name
  | .invalid path _ => "Invalid configuration in " ++ path

------------------------------------------------------------
-- Building
------------------------------------------------------------

/- The code that an error record of the engine may have. -/
inductive ErrorCode
  | number (n : Int)
  | flag (b : Bool)
deriving DecidableEq, Repr

/- The errors of building. -/
inductive BuildError
  | invalidName (e : InvalidName)
  | alreadyExists (fullName : String)
  | stagingFailed (message : String)
  | unreachable (message : String) (partialOutput : String)
  | buildFailed
      (message : String)
      (rawOutput : String)
      (timedOut : Bool)
  | malformedRecord
      (message : String)
      (partialOutput : String)
      (lineNumber : Int)
  | streamError (message : String) (code : Option ErrorCode)
  | incompleteOutput
  | errorReported (message : String)
  | registry (message : String)
  | config (fault : ConfigFault)
deriving DecidableEq, Repr

namespace BuildError

/- The code of an error. -/
def code : BuildError → String
  | invalidName _ => "INVALID_IMAGE_NAME"
  | alreadyExists _ => "IMAGE_ALREADY_EXISTS"
  | stagingFailed _ => "STAGING_FAILED"
  | unreachable _ _ => "BACKEND_UNREACHABLE"
  | buildFailed _ _ _ => "BUILD_FAILED"
  | malformedRecord _ _ _ => "MALFORMED_STREAM_RECORD"
  | streamError _ _ => "BUILD_STREAM_ERROR"
  | incompleteOutput => "BUILD_OUTPUT_INCOMPLETE"
  | errorReported _ => "BUILD_ERROR_REPORTED"
  | registry _ => "REGISTRY_ERROR"
  | config _ => "CONFIG_ERROR"

/- The message of an error. -/
def message : BuildError → String
  | invalidName e => e.message
  | alreadyExists fullName =>
      "Image with name " ++ fullName ++ " already exists."
  | stagingFailed m => m
  | unreachable m _ => m
  | buildFailed m _ _ => m
  | malformedRecord m _ _ => m
  | streamError m _ => m
  | incompleteOutput => "Incomplete"
  | errorReported m => m
  | registry m => m
  | config fault => fault.message

end BuildError

------------------------------------------------------------
-- Engine and operating system
------------------------------------------------------------

/-
  The errors of an HTTP client: an answer of the engine that
  reports one, a fault of the client, a lost connection, or
  no answer in time.
-/
inductive EngineError
  | api (text : String) (explanation : Option String)
  | client (text : String)
  | connection (text : String)
  | timeout (text : String)
deriving DecidableEq, Repr

namespace EngineError

/- The explanation of an answer, unless it is empty. -/
def explanation? : EngineError → Option String
  | api _ (some e) => if e = "" then none else some e
  | _ => none

/- The message, with the engine's explanation after it. -/
def message (e : EngineError) : String :=
  match e with
  | api text _ =>
      match e.explanation? with
      | some x => text ++ " (\"" ++ x ++ "\")"
      | none => text
  | client text => text
  | connection text => text
  | timeout text => text

/- The engine's own words if there are some. -/
def reason (e : EngineError) : String :=
  match e.explanation? with
  | some x => x
  | none => e.message

/- Whether the transport of a request failed. -/
def isTransport : EngineError → Bool
  | client _ => false
  | _ => true

end EngineError

/- An error of the operating system. -/
inductive SystemError
  | plain (text : String)
  | numbered
      (number : Int)
      (text : String)
      (subject : String)
deriving DecidableEq, Repr

/- The message: number and text, and what it concerns. -/
def SystemError.message : SystemError → String
  | .plain text => text
  | .numbered number text subject =>
      "[Errno " ++ integerText number ++ "] " ++ text ++ ": "
        ++ Text.quoted subject

------------------------------------------------------------
-- Failures
------------------------------------------------------------

/-
  What an operation may fail with. A body that breaks off
  while it is read is neither an error of the engine nor one
  of the system. The last six have no message of their own:
  a value of the wrong kind, a part that such a value lacks,
  a position outside a list, octets that are no text, a text
  outside an encoding, too deep nesting.
-/
inductive Failure
  | build (e : BuildError)
  | engine (e : EngineError)
  | system (e : SystemError)
  | invalid (defects : List Field.Defect)
  | value (message : String)
  | overflow
  | missingKey (key : String)
  | general (message : String)
  | brokenBody (message : String)
  | wrongKind
  | missingPart
  | outOfRange
  | undecodable
  | unencodable
  | tooDeep
deriving DecidableEq, Repr

namespace Failure

/-
  The message of a failure that counts as an error of the
  operating system; transport errors are among them.
-/
def systemMessage? : Failure → Option String
  | system e => some e.message
  | engine e => if e.isTransport then some e.message else none
  | _ => none

end Failure

end ContainerBuild
