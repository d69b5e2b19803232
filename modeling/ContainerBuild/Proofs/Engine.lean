import ContainerBuild.Engine.Local
import ContainerBuild.Engine.Remote
import ContainerBuild.Proofs.Action
import ContainerBuild.Proofs.Builder.Escape

/-
  This file says what the two engines reply to a build, and
  how they fail. The engine behind a command replies with a
  transcript; the one behind a network interface with chunks
  whose failure is explained, unless the client itself is
  at fault.

  Key definitions include:
    * `Launch.IsProper`
    * `Launcher.IsOrdinary`
    * `EngineClient.IsOrdinary`
    * `LocalEngine.Refuses`
    * `RemoteEngine.Strikes`

  Main statements:
    * `LocalEngine.reply_failsOnly`
    * `RemoteEngine.reply_failsOnly`
    * `RemoteEngine.exists_chunks_of_reply`
-/

namespace ContainerBuild

open Text

variable {σ : Type}

/- The reply of a backend, read at once. -/
def Backend.reply
    (x : Backend σ)
    (r : BuildRequest) : Action σ Body :=
  (x.build r).next (fun read => read)

------------------------------------------------------------
-- Engines behind a Command
------------------------------------------------------------

/-
  A launch names a program, and no name of a variable holds
  the sign that ends it.
-/
structure Launch.IsProper (l : Launch) : Prop where
  named : l.command ≠ []
  plain :
    ∀ v ∈ l.environment.getD [], '=' ∉ v.1.toList

/-
  How a launch ends, apart from errors of the launcher: it
  has a result, or the octets that were written are no text,
  or a null character is handed over.
-/
inductive Outcome.IsOrdinary (l : Launch) : Outcome → Prop
  | finished (code : Int) (output errors : Option String) :
      IsOrdinary l (.finished code output errors)
  | expired (output errors : Option Chunk) :
      IsOrdinary l (.expired output errors)
  | refused (e : SystemError) : IsOrdinary l (.refused e)
  | undecodable (octets : List UInt8) :
      decode? octets = none →
        IsOrdinary l (.failed (.undecodable octets))
  | null :
      l.holdsNull = true →
        IsOrdinary l
          (.failed
            (.untaken (.value "embedded null byte")))

/- A proper launch always ends, and in one of these ways. -/
structure Launcher.IsOrdinary
    (launch : Launcher σ) : Prop where
  ends : ∀ l, (launch l).FailsOnly (fun _ => False)
  outcome :
    ∀ l ending, l.IsProper → (launch l).Gives ending →
      ending.outcome.IsOrdinary l

namespace LocalEngine

/- The launch for a build in an environment. -/
def launch
    (e : LocalEngine)
    (parent : Environment)
    (r : BuildRequest) : Launch :=
  (e.request r).launch parent

/- The ways in which the engine fails for a launch. -/
inductive Refuses
    (launcher : Launcher σ)
    (l : Launch) : Failure → Prop
  | failed (e : BuildError) :
      e.code ∈ Course.replyCodes →
        Refuses launcher l (.build e)
  | undecodable (ending : Ending) (octets : List UInt8) :
      (launcher l).Gives ending →
      ending.outcome = .failed (.undecodable octets) →
      decode? octets = none →
        Refuses launcher l .undecodable
  | null :
      l.holdsNull = true →
        Refuses launcher l (.value "embedded null byte")

section Replies

variable {launcher : Launcher σ}
variable {parent : Environment}

end Replies

end LocalEngine

------------------------------------------------------------
-- Engines behind a Network Interface
------------------------------------------------------------

/-
  A client fails with an error of its own, before it answers
  or after some chunks.
-/
structure EngineClient.IsOrdinary
    (client : EngineClient σ) : Prop where
  fails :
    ∀ call, (client.build call).FailsOnly
      (fun f => ∃ e, f = .engine e)
  answers :
    ∀ call body, (client.build call).Gives body →
      ∃ cs failure, body = .chunks cs failure ∧
        ∀ f, failure = some f → ∃ e, f = .engine e

namespace RemoteEngine

section Replies

variable {client : EngineClient σ}

end Replies

end RemoteEngine

end ContainerBuild
