import ContainerBuild.Proofs.ConfigFile
import Mathlib.Algebra.Order.Field.Power
import Mathlib.Algebra.Order.Ring.Rat

/-
  This file says what can be relied on in a configuration
  that was made, whatever the environment and the given
  values are. Its backend is one of two, and its ports are
  in range. Its timeout is a positive number or absent,
  unless the value for it is read as not-a-number.

  Key definitions include:
    * `Binary64.value?`
    * `Binary64.IsPositive`
    * `Config.IsUsable`
    * `Config.HasUnorderedTimeout`
    * `Config.Bounded`

  Main statements:
    * `Binary64.isAtMostZero_eq_false_iff`
    * `Config.bounded_of_make`
    * `made_usable_iff`
-/

namespace ContainerBuild

open ContainerBuild.Field

------------------------------------------------------------
-- Numbers
------------------------------------------------------------

namespace Binary64

/- The rational number that a finite number is. -/
def value? : Binary64 → Option Rat
  | finite s m e =>
      some ((signed s m : Rat) * (2 : Rat) ^ e)
  | _ => none

/- A number above zero, which may be infinite. -/
def IsPositive (x : Binary64) : Prop :=
  x = infinite false ∨ ∃ q, x.value? = some q ∧ 0 < q

theorem isPositive_finite_iff
    (s : Bool)
    (m : Nat)
    (e : Int) :
    (finite s m e).IsPositive ↔ s = false ∧ m ≠ 0 := by
  have hPower : (0 : Rat) < 2 ^ e := zpow_pos (by decide) e
  have hValue :
      (finite s m e).IsPositive ↔ (0 : Rat) < signed s m := by
    constructor
    · rintro (hInfinite | ⟨q, hValue, hAbove⟩)
      · exact absurd hInfinite (by simp)
      · cases hValue
        exact (mul_pos_iff_of_pos_right hPower).mp hAbove
    · intro hAbove
      exact Or.inr ⟨_, rfl, mul_pos hAbove hPower⟩
  rw [hValue]
  cases s with
  | false =>
      simp [signed, Nat.pos_iff_ne_zero]
  | true => simp [signed]

/-
  What is not at most zero is above it or no number at all:
  no comparison with not-a-number holds.
-/
theorem isAtMostZero_eq_false_iff (x : Binary64) :
    x.isAtMostZero = false ↔ x = nan ∨ x.IsPositive := by
  cases x with
  | nan => simp [isAtMostZero]
  | infinite s =>
      cases s <;> simp [isAtMostZero, IsPositive, value?]
  | finite s m e =>
      rw [isPositive_finite_iff]
      simp [isAtMostZero]

theorem not_isPositive_nan : ¬ nan.IsPositive := by
  simp [IsPositive, value?]

end Binary64

namespace Config

variable {env : Environment}
variable {g : Given}
variable {c : Config}
variable {v : Scalar}

------------------------------------------------------------
-- Settings
------------------------------------------------------------

theorem toBackend_eq_ok
    {b : BackendKind}
    (hBackend : toBackend v = .ok b) :
    v = .text b.label := by
  unfold toBackend at hBackend
  split at hBackend
  · cases hBackend
    assumption
  · split at hBackend
    · cases hBackend
      assumption
    · exact absurd hBackend (by simp)

------------------------------------------------------------
-- Usable configurations
------------------------------------------------------------

/- Everything can be used that a configuration holds. -/
structure IsUsable (c : Config) : Prop where
  backend :
    c.backend.label = "local" ∨ c.backend.label = "rest"
  enginePort : 1 ≤ c.enginePort ∧ c.enginePort ≤ 65535
  registryPort : 1 ≤ c.registryPort ∧ c.registryPort ≤ 65535
  buildTimeout : ∀ x, c.buildTimeout = some x → x.IsPositive

/- The value for the timeout is read as not-a-number. -/
def HasUnorderedTimeout
    (env : Environment)
    (g : Given) : Prop :=
  ∃ v, source env g .buildTimeout = .ok v ∧
    v.toReal = .ok .nan

/-
  What is known of a configuration made of values: which
  backend it names, that it can be used if the timeout is a
  number, and that all else in it can be used anyway.
-/
structure Bounded
    (env : Environment)
    (g : Given)
    (c : Config) : Prop where
  named : source env g .backend = .ok (.text c.backend.label)
  usable_iff : c.IsUsable ↔ ¬ HasUnorderedTimeout env g
  unordered_iff :
    c.buildTimeout = some .nan ↔ HasUnorderedTimeout env g
  withoutTimeout : { c with buildTimeout := none }.IsUsable

theorem port_bounds
    {s : Setting}
    {n : Int}
    (hComes :
      ∃ v, source env g s = .ok v ∧ toPort v = .ok n) :
    1 ≤ n ∧ n ≤ 65535 := by
  rcases hComes with ⟨v, _, hPort⟩
  exact (toPort_eq_ok_iff.mp hPort).2

/- The timeout is no number just if its value is none. -/
theorem buildTimeout_eq_nan_iff
    (hMake : make env g = .ok c) :
    c.buildTimeout = some .nan ↔
      HasUnorderedTimeout env g := by
  rcases comesTo_eq_some_iff.mp
      (make_eq_ok_iff.mp hMake .buildTimeout) with
    ⟨v, hSource, hRead⟩
  have hOnly : HasUnorderedTimeout env g ↔
      v.toReal = .ok .nan := by
    simp [HasUnorderedTimeout, hSource]
  rw [hOnly]
  rcases toTimeout_eq_ok_iff.mp hRead with
    ⟨rfl, hNone⟩ | ⟨_, x, hReal, _, hSome⟩
  · have hAbsent : c.buildTimeout = none := hNone
    simp [hAbsent, Scalar.toReal]
  · have hTimeout : c.buildTimeout = some x := hSome
    simp [hTimeout, hReal]

/- Any other timeout is a positive number. -/
theorem isPositive_of_make
    {x : Binary64}
    (hMake : make env g = .ok c)
    (hTimeout : c.buildTimeout = some x)
    (hNumber : x ≠ .nan) :
    x.IsPositive := by
  rcases comesTo_eq_some_iff.mp
      (make_eq_ok_iff.mp hMake .buildTimeout) with
    ⟨v, _, hRead⟩
  rcases toTimeout_eq_ok_iff.mp hRead with
    ⟨_, hNone⟩ | ⟨_, y, _, hAbove, hSome⟩
  · have hAbsent : c.buildTimeout = none := hNone
    rw [hAbsent] at hTimeout
    exact absurd hTimeout (by simp)
  · have hSame : c.buildTimeout = some y := hSome
    rw [hSame] at hTimeout
    cases hTimeout
    exact (x.isAtMostZero_eq_false_iff.mp
      hAbove).resolve_left hNumber

theorem bounded_of_make
    (hMake : make env g = .ok c) :
    Bounded env g c := by
  have hComes : ∀ s, ∃ v, source env g s = .ok v ∧
      s.shape.read v = .ok (c.get s) :=
    fun s => comesTo_eq_some_iff.mp (make_eq_ok_iff.mp hMake s)
  have hBackend :
      c.backend.label = "local" ∨ c.backend.label = "rest" := by
    cases c.backend with
    | localEngine => exact Or.inl rfl
    | restEngine => exact Or.inr rfl
  have hEngine : 1 ≤ c.enginePort ∧ c.enginePort ≤ 65535 :=
    port_bounds (hComes .enginePort)
  have hRegistry :
      1 ≤ c.registryPort ∧ c.registryPort ≤ 65535 :=
    port_bounds (hComes .registryPort)
  have hUnordered := buildTimeout_eq_nan_iff hMake
  refine ⟨?_, ?_, hUnordered, ⟨hBackend, hEngine, hRegistry,
    fun _ hNone => absurd hNone (by simp)⟩⟩
  · rcases hComes .backend with ⟨v, hSource, hRead⟩
    have hText : v = .text c.backend.label :=
      toBackend_eq_ok hRead
    rw [hSource, hText]
  · rw [← hUnordered]
    constructor
    · intro hUsable hNan
      exact Binary64.not_isPositive_nan
        (hUsable.buildTimeout _ hNan)
    · intro hNumber
      refine ⟨hBackend, hEngine, hRegistry, ?_⟩
      intro x hTimeout
      apply isPositive_of_make hMake hTimeout
      rintro rfl
      exact hNumber hTimeout

end Config

/-
  Every configuration that is made, of given values or by
  loading a file, can be used if and only if the value for
  its timeout is not read as not-a-number; all else in it can
  be used in any case.
-/
theorem made_usable_iff (env : Environment) :
    (∀ g c, Config.make env g = .ok c →
      Config.Bounded env g c) ∧
    ∀ disk p c, ConfigFile.load env disk p = .ok c →
      ∃ es, ConfigFile.Holds disk p es ∧
        Config.Bounded env
          (ConfigFile.overlay env .nothing es) c := by
  constructor
  · intro g c hMake
    exact Config.bounded_of_make hMake
  · intro disk p c hLoad
    rcases ConfigFile.exists_holds_of_load hLoad with
      ⟨es, hHolds, hSettle⟩
    exact ⟨es, hHolds, Config.bounded_of_make
      (ConfigFile.settle_eq_ok_iff.mp hSettle).2⟩

/- That configuration with a timeout. -/
def Config.timed (x : Binary64) : Config :=
  { Config.usual with buildTimeout := some x }

/- A configuration of variables, and one from a file. -/
theorem made_usable_iff_sample :
    (Config.make [("BUILD_TIMEOUT", "300")] .nothing =
        .ok (.timed (.ofDecimal false 300 0)) ∧
      (Config.timed (.ofDecimal false 300 0)).IsUsable) ∧
    ConfigFile.load [("T", "1e3"), ("BUILD_TIMEOUT", "nan")]
        (.ofSettings "build_timeout: $T\n") .settings =
      .ok (.timed (.ofDecimal false 1 3)) ∧
    (Config.timed (.ofDecimal false 1 3)).IsUsable := by
  have hMake :
      Config.make [("BUILD_TIMEOUT", "300")] .nothing =
        .ok (.timed (.ofDecimal false 300 0)) := by
    decide +kernel
  have hLoad :
      ConfigFile.load [("T", "1e3"), ("BUILD_TIMEOUT", "nan")]
          (.ofSettings "build_timeout: $T\n") .settings =
        .ok (.timed (.ofDecimal false 1 3)) := by
    decide +kernel
  refine ⟨⟨hMake, ?_⟩, hLoad, ?_⟩
  · have hBounded := (made_usable_iff _).1 _ _ hMake
    rw [hBounded.usable_iff, ← hBounded.unordered_iff]
    decide +kernel
  · rcases (made_usable_iff _).2 _ _ _ hLoad with
      ⟨_, _, hBounded⟩
    rw [hBounded.usable_iff, ← hBounded.unordered_iff]
    decide +kernel

/- A timeout that is no number gets through. -/
theorem not_made_usable :
    Config.make [("BUILD_TIMEOUT", "nan")] .nothing =
        .ok (.timed .nan) ∧
      ¬ (Config.timed .nan).IsUsable := by
  refine ⟨rfl, ?_⟩
  intro hUsable
  exact Binary64.not_isPositive_nan
    (hUsable.buildTimeout _ rfl)

end ContainerBuild
