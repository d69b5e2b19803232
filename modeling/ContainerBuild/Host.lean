import ContainerBuild.Builder
import ContainerBuild.Config
import ContainerBuild.Engine.Local
import ContainerBuild.Engine.Remote
import ContainerBuild.Process.Programs

/-
  This file defines hosts, the worlds that builders work in,
  and how a configuration chooses the collaborators of a
  builder on a host. A host that is offline runs programs,
  but all that it would send is lost.

  Key definitions include:
    * `Host`
    * `Host.offline`
    * `Config.localEngine`
    * `Config.connection`
    * `Config.registryClient?`
    * `Host.builder`
-/

namespace ContainerBuild

/-
  What a world of states `σ` offers: a disk, variables, the
  launching of programs, a client of the engine, and the
  sending of requests.
-/
structure Host (σ : Type) where
  access : DiskAccess σ
  environment : Environment
  launch : Launcher σ
  client : EngineClient σ
  transport : Transport σ

/- The error of a service that cannot be asked. -/
def outOfReach : Failure :=
  .engine (.connection "The service cannot be reached")

/- A client of an engine that never answers. -/
def EngineClient.unreachable {σ : Type} : EngineClient σ :=
  ⟨fun _ => Action.fail outOfReach,
    Action.fail outOfReach, Action.fail outOfReach,
    fun _ => Action.fail outOfReach⟩

/- A host with a disk, variables and programs, but no more. -/
def Host.offline (env : Environment) : Host Disk :=
  ⟨.self, env, Programs.launcher .self env, .unreachable,
    fun _ => Action.fail outOfReach⟩

------------------------------------------------------------
-- Choices
------------------------------------------------------------

/- A token of a session and the way to add it. -/
structure SessionToken where
  token : String
  injector : Option TokenInjector

/- No token. -/
def SessionToken.absent : SessionToken :=
  ⟨"", none⟩

namespace Config

/- The engine behind a command. -/
def localEngine (c : Config) : LocalEngine :=
  ⟨c.dockerBinary, c.disableBuildkit⟩

/- The connection to the engine. -/
def connection
    (c : Config)
    (t : SessionToken) : Connection :=
  ⟨c.engineUseSsl, c.engineHost, c.enginePort, c.engineUser,
    c.enginePassword, t.injector, t.token,
    Connection.usualVersion, Connection.usualTimeout⟩

/- The client of the registry, if there is one. -/
def registryClient?
    (c : Config) : Option RegistryClient :=
  if c.registryEnabled then
    some ⟨c.registryHost, c.registryPort, c.registryUser,
      c.registryPassword, c.registryUseSsl,
      RegistryClient.usualTimeout⟩
  else
    none

/- The base directory of contexts. -/
def stagingBase? (c : Config) : Option Path :=
  Staging.baseOf c.stagingBase

end Config

------------------------------------------------------------
-- Builders
------------------------------------------------------------

namespace Host

variable {σ : Type}

/- The way to run commands. -/
def runner (h : Host σ) : Runner σ :=
  CommandRequest.run h.launch h.environment

/- The way to look at the disk. -/
def disk (h : Host σ) : σ → Disk :=
  h.access.view

/- A builder with a given backend. -/
def builderWith
    (h : Host σ)
    (c : Config)
    (backend : Backend σ) : Builder σ :=
  ⟨backend,
    c.registryClient?.map
      (fun r => r.registry h.transport h.access),
    Stager.onDisk h.access c.stagingBase?,
    h.access, c.buildTimeout⟩

/-
  The builder that a configuration asks for. The engine
  behind the network must answer before anything is built.
-/
def builder
    (h : Host σ)
    (c : Config)
    (t : SessionToken) : Action σ (Builder σ) :=
  match c.backend with
  | .localEngine =>
      Action.give
        (h.builderWith c (c.localEngine.backend h.runner))
  | .restEngine =>
      let connection := c.connection t
      (RemoteEngine.connect h.client connection).next
        (fun _ =>
          Action.give
            (h.builderWith c
              (RemoteEngine.backend h.disk h.client
                connection)))

end Host

end ContainerBuild
