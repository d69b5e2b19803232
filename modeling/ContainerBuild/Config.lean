import ContainerBuild.Environment
import ContainerBuild.Failure
import ContainerBuild.Field.Scalar
import ContainerBuild.Text.Blank

/-
  This file defines the configuration of builds. Each
  setting has a key, which is also the name of the
  environment variable it is taken from unless it is given
  otherwise. All settings are checked, and all defects are
  listed; but a number in the environment that cannot be
  read is a failure of its own.

  Key definitions include:
    * `Setting`
    * `Setting.key`
    * `Setting.field`
    * `Given`
    * `Config`
    * `Config.default`
    * `Config.source`
    * `Config.make`
-/

namespace ContainerBuild

open Text ContainerBuild.Field

------------------------------------------------------------
-- Settings
------------------------------------------------------------

/- What can be configured. -/
inductive Setting
  | backend
  | dockerBinary
  | buildTimeout
  | disableBuildkit
  | stagingBase
  | engineUseSsl
  | engineHost
  | enginePort
  | engineUser
  | enginePassword
  | noRegistry
  | registryHost
  | registryPort
  | registryUser
  | registryPassword
  | registryUseSsl
deriving DecidableEq, Repr

namespace Setting

/- All settings, in the order in which they are checked. -/
def all : List Setting :=
  [backend, dockerBinary, buildTimeout, disableBuildkit,
    stagingBase, engineUseSsl, engineHost, enginePort,
    engineUser, enginePassword, noRegistry, registryHost,
    registryPort, registryUser, registryPassword,
    registryUseSsl]

/- The key of a setting and the name of its variable. -/
def key : Setting → String
  | backend => "IMAGEBUILD_BACKEND"
  | dockerBinary => "DOCKER_BINARY"
  | buildTimeout => "BUILD_TIMEOUT"
  | disableBuildkit => "DOCKER_BUILDKIT_DISABLED"
  | stagingBase => "STAGING_DIR_BASE"
  | engineUseSsl => "ENGINE_USE_SSL"
  | engineHost => "ENGINE_HOST"
  | enginePort => "ENGINE_PORT"
  | engineUser => "ENGINE_USERID"
  | enginePassword => "ENGINE_PASSWORD"
  | noRegistry => "NO_REGISTRY"
  | registryHost => "REGISTRY_HOST"
  | registryPort => "REGISTRY_PORT"
  | registryUser => "REGISTRY_USERID"
  | registryPassword => "REGISTRY_PASSWORD"
  | registryUseSsl => "REGISTRY_USE_SSL"

/- The name by which defects speak of a setting. -/
def field : Setting → String
  | backend => "backend"
  | dockerBinary => "docker_binary"
  | buildTimeout => "build_timeout"
  | disableBuildkit => "disable_buildkit"
  | stagingBase => "staging_dir_base"
  | engineUseSsl => "engine_use_ssl"
  | engineHost => "engine_host"
  | enginePort => "engine_port"
  | engineUser => "engine_user_id"
  | enginePassword => "engine_password"
  | noRegistry => "no_registry"
  | registryHost => "registry_host"
  | registryPort => "registry_port"
  | registryUser => "registry_user_id"
  | registryPassword => "registry_password"
  | registryUseSsl => "registry_use_ssl"

/- The setting with a key. -/
def ofKey? (k : String) : Option Setting :=
  all.find? (fun s => s.key = k)

/- The setting with a field name. -/
def ofField? (f : String) : Option Setting :=
  all.find? (fun s => s.field = f)

end Setting

------------------------------------------------------------
-- Given values
------------------------------------------------------------

/- The values that are given for settings. -/
abbrev Given :=
  Setting → Option Scalar

namespace Given

/- Nothing is given. -/
def nothing : Given :=
  fun _ => none

/- Give a value, in place of the one given before. -/
def set
    (g : Given)
    (s : Setting)
    (v : Scalar) : Given :=
  fun t => if t = s then some v else g t

end Given

------------------------------------------------------------
-- Configurations
------------------------------------------------------------

/- Where images are built. -/
inductive BackendKind
  | localEngine
  | restEngine
deriving DecidableEq, Repr

/- The name of a kind. -/
def BackendKind.label : BackendKind → String
  | localEngine => "local"
  | restEngine => "rest"

/- A configuration. -/
structure Config where
  backend : BackendKind
  dockerBinary : String
  buildTimeout : Option Binary64
  disableBuildkit : Bool
  stagingBase : Option String
  engineUseSsl : Bool
  engineHost : String
  enginePort : Int
  engineUser : String
  enginePassword : String
  noRegistry : Bool
  registryHost : String
  registryPort : Int
  registryUser : String
  registryPassword : String
  registryUseSsl : Bool
deriving DecidableEq, Repr

namespace Config

/- A registry is asked if there is one and it is wanted. -/
def registryEnabled (c : Config) : Bool :=
  !c.noRegistry && c.registryHost != ""

------------------------------------------------------------
-- Defaults
------------------------------------------------------------

/- The words that switch a variable on. -/
def onWords : List String :=
  ["1", "true", "yes", "on"]

/- Whether the text of a variable switches it on. -/
def isOn (value : String) : Bool :=
  onWords.contains
    (String.ofList ((trimBlank value.toList).map lowerAscii))

/- A variable as a text. -/
def textDefault
    (env : Environment)
    (s : Setting)
    (usual : String) : Scalar :=
  .text ((env.get? s.key).getD usual)

/- A variable as a flag. -/
def flagDefault
    (env : Environment)
    (s : Setting)
    (usual : Bool) : Scalar :=
  match env.get? s.key with
  | none => .flag usual
  | some value => .flag (isOn value)

/- A variable as an integer; an empty one does not count. -/
def integerDefault
    (env : Environment)
    (s : Setting)
    (usual : Int) : Except Failure Scalar :=
  match env.get? s.key with
  | none => .ok (.integer usual)
  | some value =>
      if value = "" then
        .ok (.integer usual)
      else
        match readInteger value.toList with
        | .ok n => .ok (.integer n)
        | .error fault => .error (.value fault.message)

/- A variable as a real number, absent if empty. -/
def realDefault
    (env : Environment)
    (s : Setting) : Except Failure Scalar :=
  match env.get? s.key with
  | none => .ok .null
  | some value =>
      if value = "" then
        .ok .null
      else
        match readReal value.toList with
        | .ok x => .ok (.real x)
        | .error fault => .error (.value fault.message)

/- A variable as a text, absent if empty. -/
def optionalDefault
    (env : Environment)
    (s : Setting) : Scalar :=
  match env.get? s.key with
  | none => .null
  | some value =>
      if value = "" then
        .null
      else
        .text value

/- The value of a setting that is not given. -/
def default
    (env : Environment)
    (s : Setting) : Except Failure Scalar :=
  match s with
  | .backend => .ok (textDefault env s "local")
  | .dockerBinary => .ok (textDefault env s "docker")
  | .buildTimeout => realDefault env s
  | .disableBuildkit => .ok (flagDefault env s true)
  | .stagingBase => .ok (optionalDefault env s)
  | .engineUseSsl => .ok (flagDefault env s false)
  | .engineHost => .ok (textDefault env s "")
  | .enginePort => integerDefault env s 2375
  | .engineUser => .ok (textDefault env s "")
  | .enginePassword => .ok (textDefault env s "")
  | .noRegistry => .ok (flagDefault env s false)
  | .registryHost => .ok (textDefault env s "")
  | .registryPort => integerDefault env s 5000
  | .registryUser => .ok (textDefault env s "")
  | .registryPassword => .ok (textDefault env s "")
  | .registryUseSsl => .ok (flagDefault env s false)

/- The value of a setting, given or not. -/
def source
    (env : Environment)
    (given : Given)
    (s : Setting) : Except Failure Scalar :=
  match given s with
  | some v => .ok v
  | none => default env s

------------------------------------------------------------
-- Checks
------------------------------------------------------------

/- The kind of backend that a scalar names. -/
def toBackend
    (v : Scalar) : Except Mismatch BackendKind :=
  if v = .text "local" then
    .ok .localEngine
  else if v = .text "rest" then
    .ok .restEngine
  else
    .error (.notChoice "'local' or 'rest'")

/- A port is positive and below 65536. -/
def toPort (v : Scalar) : Except Mismatch Int :=
  match v.toInteger with
  | .error m => .error m
  | .ok n =>
      if 0 < n && n < 65536 then
        .ok n
      else if isUnwritable n then
        .error (.rejected unwritable)
      else
        .error (.rejected
          ("Port " ++ integerText n ++ " is out of range."))

/- A timeout may be absent and is not at most zero. -/
def toTimeout
    (v : Scalar) : Except Mismatch (Option Binary64) :=
  if v = .null then
    .ok none
  else
    match v.toReal with
    | .error m => .error m
    | .ok x =>
        if x.isAtMostZero then
          .error (.rejected "Build timeout must be positive.")
        else
          .ok (some x)

/- A text that may be absent. -/
def toOptionalText
    (v : Scalar) : Except Mismatch (Option String) :=
  if v = .null then
    .ok none
  else
    match v.toText with
    | .error m => .error m
    | .ok s => .ok (some s)

/- The defect of a setting, if its value does not fit. -/
def defectsOf
    {α : Type}
    (s : Setting)
    (r : Except Mismatch α) : List Field.Defect :=
  match r with
  | .ok _ => []
  | .error m => [⟨[.name s.field], m⟩]

/- Check the values of all settings. -/
def check
    (value : Setting → Scalar) :
    Except (List Field.Defect) Config :=
  let text (s : Setting) := (value s).toText
  let flag (s : Setting) := (value s).toFlag
  let backend := toBackend (value .backend)
  let timeout := toTimeout (value .buildTimeout)
  let base := toOptionalText (value .stagingBase)
  let enginePort := toPort (value .enginePort)
  let registryPort := toPort (value .registryPort)
  match backend, text .dockerBinary, timeout,
      flag .disableBuildkit, base, flag .engineUseSsl,
      text .engineHost, enginePort, text .engineUser,
      text .enginePassword, flag .noRegistry,
      text .registryHost, registryPort, text .registryUser,
      text .registryPassword, flag .registryUseSsl with
  | .ok b, .ok d, .ok t, .ok k, .ok s, .ok es, .ok eh,
      .ok ep, .ok eu, .ok ew, .ok n, .ok rh, .ok rp,
      .ok ru, .ok rw, .ok rs =>
      .ok ⟨b, d, t, k, s, es, eh, ep, eu, ew, n, rh, rp,
        ru, rw, rs⟩
  | _, _, _, _, _, _, _, _, _, _, _, _, _, _, _, _ =>
      .error
        (defectsOf .backend backend
          ++ defectsOf .dockerBinary (text .dockerBinary)
          ++ defectsOf .buildTimeout timeout
          ++ defectsOf .disableBuildkit (flag .disableBuildkit)
          ++ defectsOf .stagingBase base
          ++ defectsOf .engineUseSsl (flag .engineUseSsl)
          ++ defectsOf .engineHost (text .engineHost)
          ++ defectsOf .enginePort enginePort
          ++ defectsOf .engineUser (text .engineUser)
          ++ defectsOf .enginePassword (text .enginePassword)
          ++ defectsOf .noRegistry (flag .noRegistry)
          ++ defectsOf .registryHost (text .registryHost)
          ++ defectsOf .registryPort registryPort
          ++ defectsOf .registryUser (text .registryUser)
          ++ defectsOf .registryPassword (text .registryPassword)
          ++ defectsOf .registryUseSsl (flag .registryUseSsl))

------------------------------------------------------------
-- Construction
------------------------------------------------------------

/- The first failure among the values of settings. -/
def firstFailure
    (env : Environment)
    (given : Given) : List Setting → Option Failure
  | [] => none
  | s :: rest =>
      match source env given s with
      | .error f => some f
      | .ok _ => firstFailure env given rest

/- The value of a setting where there is no failure. -/
def valueOf
    (env : Environment)
    (given : Given)
    (s : Setting) : Scalar :=
  match source env given s with
  | .ok v => v
  | .error _ => .null

/-
  The configuration with given values, the others taken from
  the environment.
-/
def make
    (env : Environment)
    (given : Given) : Except Failure Config :=
  match firstFailure env given Setting.all with
  | some f => .error f
  | none =>
      match check (valueOf env given) with
      | .ok c => .ok c
      | .error defects => .error (.invalid defects)

end Config

end ContainerBuild
