import ContainerBuild.Config

/-
  This file says what configurations are made of. Each
  setting has a shape, the shape says what the setting holds
  and how a scalar is read for it, and a configuration is
  made if and only if every setting comes to something.

  Key definitions include:
    * `Setting.Shape`
    * `Setting.Shape.Value`
    * `Setting.Shape.read`
    * `Setting.Shape.comesTo`
    * `Setting.shape`
    * `Config.get`
    * `Config.comesTo`
    * `Config.SameOutcome`

  Main statements:
    * `Config.check_eq_ok_iff`
    * `Config.make_eq_ok_iff`
    * `Config.make_eq_error`
    * `Config.sameOutcome_make_iff_forall`
    * `Config.sameOutcome_make_iff`
-/

namespace ContainerBuild

open ContainerBuild.Field

------------------------------------------------------------
-- Shapes
------------------------------------------------------------

namespace Setting

theorem mem_all (s : Setting) : s ∈ all := by
  cases s <;> decide

theorem ofKey?_key (s : Setting) :
    ofKey? s.key = some s := by
  cases s <;> decide

/- A variable belongs to one setting only. -/
theorem key_injective
    {s t : Setting}
    (hSame : s.key = t.key) :
    s = t := by
  have hFound := ofKey?_key s
  rw [hSame, ofKey?_key t] at hFound
  exact (Option.some.inj hFound).symm

/- The shapes of what settings hold. -/
inductive Shape
  | backend
  | text
  | optionalText
  | flag
  | port
  | timeout
deriving DecidableEq, Repr

/- What a setting with a shape holds. -/
abbrev Shape.Value : Shape → Type
  | backend => BackendKind
  | text => String
  | optionalText => Option String
  | flag => Bool
  | port => Int
  | timeout => Option Binary64

/- What a scalar stands for in a setting with a shape. -/
def Shape.read :
    (k : Shape) → Scalar → Except Mismatch k.Value
  | backend => Config.toBackend
  | text => Scalar.toText
  | optionalText => Config.toOptionalText
  | flag => Scalar.toFlag
  | port => Config.toPort
  | timeout => Config.toTimeout

/- What a value for such a setting comes to, if it fits. -/
def Shape.comesTo
    (k : Shape)
    (r : Except Failure Scalar) : Option k.Value :=
  match r with
  | .error _ => none
  | .ok v => (k.read v).toOption

theorem Shape.comesTo_eq_some_iff
    {k : Shape}
    {r : Except Failure Scalar}
    {x : k.Value} :
    k.comesTo r = some x ↔
      ∃ v, r = .ok v ∧ k.read v = .ok x := by
  unfold comesTo
  cases r with
  | error _ => simp
  | ok v =>
      cases hRead : k.read v with
      | error _ => simp [hRead, Except.toOption]
      | ok y => simp [hRead, Except.toOption]

/- The shape of a setting. -/
def shape : Setting → Shape
  | backend => .backend
  | dockerBinary => .text
  | buildTimeout => .timeout
  | disableBuildkit => .flag
  | stagingBase => .optionalText
  | engineUseSsl => .flag
  | engineHost => .text
  | enginePort => .port
  | engineUser => .text
  | enginePassword => .text
  | noRegistry => .flag
  | registryHost => .text
  | registryPort => .port
  | registryUser => .text
  | registryPassword => .text
  | registryUseSsl => .flag

end Setting

namespace Config

/- What a setting holds in a configuration. -/
def get
    (c : Config) : (s : Setting) → s.shape.Value
  | .backend => c.backend
  | .dockerBinary => c.dockerBinary
  | .buildTimeout => c.buildTimeout
  | .disableBuildkit => c.disableBuildkit
  | .stagingBase => c.stagingBase
  | .engineUseSsl => c.engineUseSsl
  | .engineHost => c.engineHost
  | .enginePort => c.enginePort
  | .engineUser => c.engineUser
  | .enginePassword => c.enginePassword
  | .noRegistry => c.noRegistry
  | .registryHost => c.registryHost
  | .registryPort => c.registryPort
  | .registryUser => c.registryUser
  | .registryPassword => c.registryPassword
  | .registryUseSsl => c.registryUseSsl

/- The configuration in which settings hold these values. -/
def ofValues
    (f : (s : Setting) → s.shape.Value) : Config :=
  ⟨f .backend, f .dockerBinary, f .buildTimeout,
    f .disableBuildkit, f .stagingBase, f .engineUseSsl,
    f .engineHost, f .enginePort, f .engineUser,
    f .enginePassword, f .noRegistry, f .registryHost,
    f .registryPort, f .registryUser, f .registryPassword,
    f .registryUseSsl⟩

theorem get_ofValues
    (f : (s : Setting) → s.shape.Value)
    (s : Setting) :
    (ofValues f).get s = f s := by
  cases s <;> rfl

theorem eq_of_get
    {c c' : Config}
    (hSame : ∀ s, c.get s = c'.get s) :
    c = c' := by
  have hOf : ∀ x : Config, x = ofValues x.get :=
    fun _ => rfl
  rw [hOf c, hOf c', funext hSame]

------------------------------------------------------------
-- Checks
------------------------------------------------------------

variable {v : Scalar}

theorem toPort_eq_ok_iff {n : Int} :
    toPort v = .ok n ↔
      v.toInteger = .ok n ∧ 1 ≤ n ∧ n ≤ 65535 := by
  unfold toPort
  cases v.toInteger with
  | error m => simp
  | ok k =>
      by_cases hRange : 0 < k ∧ k < 65536
      · simp only [hRange, decide_true, Bool.and_self,
          if_true, Except.ok.injEq]
        constructor
        · rintro rfl
          omega
        · exact fun hBoth => hBoth.1
      · have hOut : (0 < k && k < 65536) = false := by
          simpa using hRange
        simp only [hOut, Bool.false_eq_true, if_false]
        refine iff_of_false (by split <;> simp) ?_
        rintro ⟨hSame, hLow, hHigh⟩
        cases hSame
        omega

theorem toTimeout_eq_ok_iff {t : Option Binary64} :
    toTimeout v = .ok t ↔
      v = .null ∧ t = none ∨
        v ≠ .null ∧ ∃ x, v.toReal = .ok x ∧
          x.isAtMostZero = false ∧ t = some x := by
  unfold toTimeout
  by_cases hNull : v = .null
  · simp only [hNull, if_true, Except.ok.injEq, true_and,
      ne_eq, not_true, false_and, or_false]
    exact eq_comm
  · simp only [hNull, if_false, false_and, false_or, ne_eq,
      not_false_eq_true, true_and]
    cases v.toReal with
    | error m => simp
    | ok x =>
        by_cases hZero : x.isAtMostZero = true
        · simp only [hZero, if_true]
          refine iff_of_false (by simp) ?_
          rintro ⟨y, hSame, hAbove, _⟩
          cases hSame
          rw [hZero] at hAbove
          exact absurd hAbove (by simp)
        · have hAbove : x.isAtMostZero = false := by
            simpa using hZero
          simp only [hAbove, Bool.false_eq_true, if_false,
            Except.ok.injEq]
          constructor
          · rintro rfl
            exact ⟨x, rfl, hAbove, rfl⟩
          · rintro ⟨y, rfl, _, rfl⟩
            rfl

/-
  A check succeeds if each value is read for its setting.
  What is read is then what the configuration holds.
-/
theorem check_eq_ok_iff
    {value : Setting → Scalar}
    {c : Config} :
    check value = .ok c ↔
      ∀ s : Setting,
        s.shape.read (value s) = .ok (c.get s) := by
  constructor
  · intro hCheck s
    simp only [check] at hCheck
    split at hCheck
    · cases hCheck
      cases s <;> assumption
    · exact absurd hCheck (by simp)
  · intro hRead
    have hBackend := hRead .backend
    have hBinary := hRead .dockerBinary
    have hTimeout := hRead .buildTimeout
    have hBuildkit := hRead .disableBuildkit
    have hBase := hRead .stagingBase
    have hEngineSsl := hRead .engineUseSsl
    have hEngineHost := hRead .engineHost
    have hEnginePort := hRead .enginePort
    have hEngineUser := hRead .engineUser
    have hEnginePassword := hRead .enginePassword
    have hNoRegistry := hRead .noRegistry
    have hRegistryHost := hRead .registryHost
    have hRegistryPort := hRead .registryPort
    have hRegistryUser := hRead .registryUser
    have hRegistryPassword := hRead .registryPassword
    have hRegistrySsl := hRead .registryUseSsl
    simp only [Setting.shape, Setting.Shape.read, get]
      at hBackend hBinary hTimeout hBuildkit hBase
        hEngineSsl hEngineHost hEnginePort hEngineUser
        hEnginePassword hNoRegistry hRegistryHost
        hRegistryPort hRegistryUser hRegistryPassword
        hRegistrySsl
    simp only [check, hBackend, hBinary, hTimeout,
      hBuildkit, hBase, hEngineSsl, hEngineHost,
      hEnginePort, hEngineUser, hEnginePassword,
      hNoRegistry, hRegistryHost, hRegistryPort,
      hRegistryUser, hRegistryPassword, hRegistrySsl]

------------------------------------------------------------
-- Construction
------------------------------------------------------------

variable {env env' : Environment}
variable {g g' : Given}
variable {c : Config}
variable {f : Failure}

/- A default depends on the variable of its setting only. -/
theorem default_congr
    {s : Setting}
    (hSame : env.get? s.key = env'.get? s.key) :
    default env s = default env' s := by
  cases s <;>
    simp only [default, textDefault, flagDefault,
      integerDefault, realDefault, optionalDefault, hSame]

/- What a setting comes to, unless its value is unfit. -/
def comesTo
    (env : Environment)
    (g : Given)
    (s : Setting) : Option s.shape.Value :=
  s.shape.comesTo (source env g s)

theorem comesTo_eq_some_iff
    {s : Setting}
    {x : s.shape.Value} :
    comesTo env g s = some x ↔
      ∃ v, source env g s = .ok v ∧
        s.shape.read v = .ok x :=
  s.shape.comesTo_eq_some_iff

theorem comesTo_congr
    {s : Setting}
    (hSource : source env g s = source env' g' s) :
    comesTo env g s = comesTo env' g' s := by
  unfold comesTo
  rw [hSource]

/- There is no failure exactly if every value is there. -/
theorem firstFailure_eq_none_iff
    (l : List Setting) :
    firstFailure env g l = none ↔
      ∀ s ∈ l, ∃ v, source env g s = .ok v := by
  induction l with
  | nil => simp [firstFailure]
  | cons s rest ih =>
      cases hSource : source env g s with
      | error f => simp [firstFailure, hSource]
      | ok v => simp [firstFailure, hSource, ih]

/- The failure is that of the first setting that fails. -/
theorem firstFailure_eq_some_iff
    (l : List Setting) :
    firstFailure env g l = some f ↔
      ∃ before s after, l = before ++ s :: after ∧
        (∀ t ∈ before, ∃ v, source env g t = .ok v) ∧
        source env g s = .error f := by
  induction l with
  | nil => simp [firstFailure]
  | cons s rest ih =>
      cases hSource : source env g s with
      | error e =>
          simp only [firstFailure, hSource,
            Option.some.injEq]
          constructor
          · rintro rfl
            exact ⟨[], s, rest, rfl, by simp, hSource⟩
          · rintro ⟨_ | ⟨t, before⟩, t', after, hList,
              hBefore, hFails⟩
            · cases hList
              rw [hSource] at hFails
              exact Except.error.inj hFails
            · cases hList
              rcases hBefore s List.mem_cons_self with
                ⟨v, hValue⟩
              rw [hSource] at hValue
              exact absurd hValue (by simp)
      | ok v =>
          simp only [firstFailure, hSource, ih]
          constructor
          · rintro ⟨before, t, after, rfl, hBefore, hFails⟩
            refine ⟨s :: before, t, after, rfl, ?_, hFails⟩
            intro t' hMem
            rcases List.mem_cons.mp hMem with rfl | hMem
            · exact ⟨v, hSource⟩
            · exact hBefore t' hMem
          · rintro ⟨_ | ⟨t, before⟩, t', after, hList,
              hBefore, hFails⟩
            · cases hList
              rw [hSource] at hFails
              exact absurd hFails (by simp)
            · cases hList
              exact ⟨before, t', after, rfl,
                fun x hMem =>
                  hBefore x (List.mem_cons_of_mem _ hMem),
                hFails⟩

theorem valueOf_of_source
    {s : Setting}
    {v : Scalar}
    (hSource : source env g s = .ok v) :
    valueOf env g s = v := by
  simp [valueOf, hSource]

/- A configuration holds what its settings come to. -/
theorem make_eq_ok_iff :
    make env g = .ok c ↔
      ∀ s, comesTo env g s = some (c.get s) := by
  simp only [comesTo_eq_some_iff]
  unfold make
  cases hFirst : firstFailure env g Setting.all with
  | some f =>
      rcases (firstFailure_eq_some_iff _).mp hFirst with
        ⟨_, s, _, _, _, hFails⟩
      refine iff_of_false (by simp) ?_
      intro hAll
      rcases hAll s with ⟨v, hSource, _⟩
      rw [hFails] at hSource
      exact absurd hSource (by simp)
  | none =>
      have hSources : ∀ s, ∃ v, source env g s = .ok v :=
        fun s =>
          (firstFailure_eq_none_iff _).mp hFirst s s.mem_all
      have hCheck := @check_eq_ok_iff (valueOf env g) c
      refine Iff.trans ?_ (hCheck.trans ?_)
      · cases check (valueOf env g) <;> simp
      · refine forall_congr' fun s => ?_
        rcases hSources s with ⟨v, hSource⟩
        simp [valueOf_of_source hSource, hSource]

/- Otherwise values do not fit, or one is not to be had. -/
theorem make_eq_error
    (hMake : make env g = .error f) :
    (∃ defects, f = .invalid defects) ∨
      firstFailure env g Setting.all = some f := by
  unfold make at hMake
  split at hMake
  · rename_i hFirst
    cases hMake
    exact Or.inr hFirst
  · split at hMake
    · exact absurd hMake (by simp)
    · cases hMake
      exact Or.inl ⟨_, rfl⟩

theorem make_of_firstFailure
    (hFirst : firstFailure env g Setting.all = some f) :
    make env g = .error f := by
  simp [make, hFirst]

/- Only the values of settings count. -/
theorem make_congr
    (hSame : ∀ s, source env g s = source env' g' s) :
    make env g = make env' g' := by
  have hFirst : ∀ l,
      firstFailure env g l = firstFailure env' g' l := by
    intro l
    induction l with
    | nil => rfl
    | cons s rest ih => simp only [firstFailure, hSame, ih]
  have hValue : valueOf env g = valueOf env' g' := by
    funext s
    simp only [valueOf, hSame]
  simp only [make, hFirst, hValue]

------------------------------------------------------------
-- Comparison
------------------------------------------------------------

/- Two attempts give the same configuration, or both fail. -/
def SameOutcome (x y : Except Failure Config) : Prop :=
  ∀ c, x = .ok c ↔ y = .ok c

/- An attempt fails if a setting comes to nothing. -/
theorem make_ne_ok
    {s : Setting}
    (hUnfit : comesTo env g s = none) :
    make env g ≠ .ok c := by
  intro hMake
  have hSome := make_eq_ok_iff.mp hMake s
  rw [hUnfit] at hSome
  exact absurd hSome (by simp)

theorem exists_make
    (hFit : ∀ s, comesTo env g s ≠ none) :
    ∃ c, make env g = .ok c ∧
      ∀ s, comesTo env g s = some (c.get s) := by
  have hSome : ∀ s, (comesTo env g s).isSome :=
    fun s => Option.isSome_iff_ne_none.mpr (hFit s)
  have hGet : ∀ s, comesTo env g s =
      some ((ofValues
        (fun s => (comesTo env g s).get (hSome s))).get s) := by
    intro s
    rw [get_ofValues, Option.some_get]
  exact ⟨_, make_eq_ok_iff.mpr hGet, hGet⟩

theorem fits_or_exists_none
    (env : Environment)
    (g : Given) :
    (∀ s, comesTo env g s ≠ none) ∨
      ∃ s, comesTo env g s = none := by
  by_cases hNone : ∃ s, comesTo env g s = none
  · exact Or.inr hNone
  · exact Or.inl (fun s hUnfit => hNone ⟨s, hUnfit⟩)

/-
  Two attempts give the same if all settings come to the
  same, or if some setting comes to nothing in each.
-/
theorem sameOutcome_make_iff_forall :
    SameOutcome (make env g) (make env' g') ↔
      (∀ s, comesTo env g s = comesTo env' g' s) ∨
        (∃ s, comesTo env g s = none) ∧
          ∃ s, comesTo env' g' s = none := by
  constructor
  · intro hSame
    rcases fits_or_exists_none env g with hFit | hUnfit
    · rcases exists_make hFit with ⟨c, hMake, hComes⟩
      have hOther := make_eq_ok_iff.mp ((hSame c).mp hMake)
      exact Or.inl fun s => (hComes s).trans (hOther s).symm
    · rcases fits_or_exists_none env' g' with
        hFit' | hUnfit'
      · rcases exists_make hFit' with ⟨c, hMake, _⟩
        rcases hUnfit with ⟨s, hNone⟩
        exact absurd ((hSame c).mpr hMake) (make_ne_ok hNone)
      · exact Or.inr ⟨hUnfit, hUnfit'⟩
  · rintro (hAll | ⟨⟨_, hNone⟩, ⟨_, hNone'⟩⟩) c
    · simp only [make_eq_ok_iff, hAll]
    · exact iff_of_false (make_ne_ok hNone)
        (make_ne_ok hNone')

/-
  If they differ in one setting only, they give the same
  unless that setting makes a difference. It cannot make one
  where another setting comes to nothing.
-/
theorem sameOutcome_make_iff
    {s : Setting}
    (hOthers : ∀ t, t ≠ s →
      comesTo env g t = comesTo env' g' t) :
    SameOutcome (make env g) (make env' g') ↔
      comesTo env g s = comesTo env' g' s ∨
        ∃ t, t ≠ s ∧ comesTo env g t = none := by
  rw [sameOutcome_make_iff_forall]
  constructor
  · rintro (hAll | ⟨⟨t, hNone⟩, ⟨t', hNone'⟩⟩)
    · exact Or.inl (hAll s)
    · by_cases hSetting : t = s
      · by_cases hSetting' : t' = s
        · rw [hSetting] at hNone
          rw [hSetting'] at hNone'
          exact Or.inl (hNone.trans hNone'.symm)
        · rw [← hOthers t' hSetting'] at hNone'
          exact Or.inr ⟨t', hSetting', hNone'⟩
      · exact Or.inr ⟨t, hSetting, hNone⟩
  · rintro (hSetting | ⟨t, hOther, hNone⟩)
    · refine Or.inl fun t => ?_
      by_cases hCase : t = s
      · rw [hCase]
        exact hSetting
      · exact hOthers t hCase
    · exact Or.inr
        ⟨⟨t, hNone⟩, t, (hOthers t hOther).symm.trans hNone⟩

/- The configuration of an empty environment. -/
def usual : Config :=
  ⟨.localEngine, "docker", none, true, none, false, "", 2375,
    "", "", false, "", 5000, "", "", false⟩

end Config

end ContainerBuild
