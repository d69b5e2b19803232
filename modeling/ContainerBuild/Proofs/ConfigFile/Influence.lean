import ContainerBuild.Proofs.ConfigFile

/-
  This file says how a configuration file can influence the
  configuration that is loaded: only through its entries for
  settings. The statements compare two runs, with files or
  environments that differ in what must not count.

  An entry with a key that cannot be written is the one
  exception: it counts although it is for no setting.

  Key definitions include:
    * `ConfigFile.counted`
    * `ConfigFile.IsWritable`
    * `ConfigFile.Governs`

  Main statements:
    * `ConfigFile.settle_counted`
    * `ConfigFile.sameOutcome_settle`
    * `ConfigFile.given_congr`
    * `entries_decide`
-/

namespace ContainerBuild

open Text ContainerBuild.Field

namespace ConfigFile

variable {env env' : Environment}
variable {disk disk' : Disk}
variable {p p' : Path}
variable {e : Entry}
variable {es es' : List Entry}
variable {f : Failure}

/- The entries that are for settings. -/
def counted (es : List Entry) : List Entry :=
  es.filter (fun e => (settingAt? e).isSome)

theorem mem_counted_iff :
    e ∈ counted es ↔
      e ∈ es ∧ ∃ s, settingAt? e = some s := by
  simp [counted, Option.isSome_iff_exists]

/- All keys can be written. -/
def IsWritable (es : List Entry) : Prop :=
  ∀ e ∈ es, e.1 ≠ .unwritable

------------------------------------------------------------
-- Entries that do not count
------------------------------------------------------------

/- An entry for no setting has nothing to stop at. -/
theorem passes_of_settingAt?_eq_none
    (hKey : e.1 ≠ .unwritable)
    (hNone : settingAt? e = none)
    (env : Environment) :
    Passes env e := by
  intro f hStops
  cases hStops with
  | key hUnwritable => exact hKey hUnwritable
  | unset s name hFor _ _ =>
      rw [hNone] at hFor
      exact absurd hFor (by simp)

/- The entries for settings give all that is given. -/
theorem given_counted
    (hWritable : IsWritable es)
    (env : Environment)
    (g : Given) :
    given env g es = given env g (counted es) := by
  induction es generalizing g with
  | nil => rfl
  | cons e rest ih =>
      have hRest : IsWritable rest :=
        fun x hMem => hWritable x (List.mem_cons_of_mem _ hMem)
      cases hFor : settingAt? e with
      | none =>
          have hPasses := passes_of_settingAt?_eq_none
            (hWritable e List.mem_cons_self) hFor env
          have hCounted : counted (e :: rest) = counted rest := by
            simp [counted, hFor]
          rw [hCounted, given_of_passes hPasses,
            overlay_of_none hFor, ih hRest]
      | some s =>
          have hCounted :
              counted (e :: rest) = e :: counted rest := by
            simp [counted, hFor]
          rw [hCounted]
          rcases exists_stops_or_passes env e with
            ⟨f, hStops⟩ | hPasses
          · rw [given_of_stops hStops, given_of_stops hStops]
          · rw [given_of_passes hPasses,
              given_of_passes hPasses, ih hRest]

theorem settle_counted
    (hWritable : IsWritable es)
    (env : Environment)
    (p : Path) :
    settle env p es = settle env p (counted es) := by
  simp only [settle, given_counted hWritable]

------------------------------------------------------------
-- Orders and repetitions
------------------------------------------------------------

/- Only entries for settings can fail to pass. -/
theorem all_pass_iff
    (hWritable : IsWritable es) :
    (∀ e ∈ es, Passes env e) ↔
      ∀ s, ∀ e ∈ entriesFor s es, Passes env e := by
  constructor
  · intro hAll s e hMem
    exact hAll e (mem_entriesFor_iff.mp hMem).1
  · intro hEach e hMem
    cases hFor : settingAt? e with
    | none =>
        exact passes_of_settingAt?_eq_none
          (hWritable e hMem) hFor env
    | some s =>
        exact hEach s e (mem_entriesFor_iff.mpr ⟨hMem, hFor⟩)

/-
  If the entries pass, only the last value for each setting
  makes a difference.
-/
theorem sameOutcome_settle
    (hPasses :
      (∀ e ∈ es, Passes env e) ↔ ∀ e ∈ es', Passes env e)
    (hLast : ∀ s, lastValue? s es = lastValue? s es') :
    Config.SameOutcome
      (settle env p es) (settle env p' es') := by
  have hOverlay :
      overlay env .nothing es = overlay env .nothing es' := by
    funext s
    simp only [overlay, hLast]
  intro c
  rw [settle_eq_ok_iff, settle_eq_ok_iff, hPasses, hOverlay]

------------------------------------------------------------
-- Unset variables
------------------------------------------------------------

/- Where not all entries pass, one is the first to stop. -/
theorem exists_first_stop
    (hSome : ∃ e ∈ es, ¬ Passes env e) :
    ∃ before e after f, es = before ++ e :: after ∧
      (∀ x ∈ before, Passes env x) ∧ Stops env e f := by
  cases hGiven : given env .nothing es with
  | ok g =>
      rcases hSome with ⟨e, hMem, hNot⟩
      exact absurd ((given_eq_ok_iff.mp hGiven).1 e hMem) hNot
  | error f =>
      rcases given_eq_error_iff.mp hGiven with
        ⟨before, e, after, hList, hBefore, hStops⟩
      exact ⟨before, e, after, f, hList, hBefore, hStops⟩

/-
  Behind entries with writable keys, one of which does not
  pass, nothing is read: a variable is not set.
-/
theorem settle_of_not_pass
    (hWritable : IsWritable es)
    (hSome : ∃ e ∈ es, ¬ Passes env e)
    (p : Path)
    (more : List Entry) :
    ∃ name, env.get? name = none ∧
      settle env p (es ++ more) =
        .error (.build (.config (.unsetVariable name))) := by
  rcases exists_first_stop hSome with
    ⟨before, e, after, f, rfl, hBefore, hStops⟩
  have hSettle :
      settle env p (before ++ e :: after ++ more) =
        .error f := by
    rw [List.append_assoc, List.cons_append]
    exact settle_of_stops hBefore hStops
  cases hStops with
  | key hKey => exact absurd hKey (hWritable e (by simp))
  | unset s name _ _ hUnset => exact ⟨name, hUnset, hSettle⟩

------------------------------------------------------------
-- Variables that are not consulted
------------------------------------------------------------

/- Only variables that entries for settings name count. -/
theorem given_congr
    (hSame : ∀ e ∈ counted es,
      substitute env e.2 = substitute env' e.2)
    (g : Given) :
    given env g es = given env' g es := by
  induction es generalizing g with
  | nil => rfl
  | cons e rest ih =>
      rcases e with ⟨k, v⟩
      have hRest : ∀ x ∈ counted rest,
          substitute env x.2 = substitute env' x.2 := by
        intro x hMem
        rcases mem_counted_iff.mp hMem with ⟨hMem, hFor⟩
        exact hSame x (mem_counted_iff.mpr
          ⟨List.mem_cons_of_mem _ hMem, hFor⟩)
      cases k with
      | unwritable => rfl
      | text k =>
          cases hFor : Setting.ofKey? (upperText k) with
          | none =>
              simp only [given, settingOf, hFor, ih hRest]
          | some s =>
              have hValue :
                  substitute env v = substitute env' v :=
                hSame (.text k, v) (mem_counted_iff.mpr
                  ⟨List.mem_cons_self, s, hFor⟩)
              simp only [given, settingOf, hFor, hValue,
                ih hRest]

/- A setting that is given does not need its variable. -/
theorem settle_of_agree_off
    {s : Setting}
    (hGiven : entriesFor s es ≠ [])
    (hAgree : ∀ name, name ≠ s.key →
      env.get? name = env'.get? name)
    (hUnnamed : ∀ e ∈ counted es, e.2 ≠ .text ("$" ++ s.key))
    (p : Path) :
    settle env p es = settle env' p es := by
  have hSubstitute : ∀ e ∈ counted es,
      substitute env e.2 = substitute env' e.2 := by
    intro e hMem
    apply substitute_congr
    intro name hNames
    apply hAgree
    rintro rfl
    exact hUnnamed e hMem hNames
  simp only [settle, given_congr hSubstitute]
  cases hFound : given env' .nothing es with
  | error f => rfl
  | ok g =>
      have hMake : Config.make env g = Config.make env' g := by
        apply Config.make_congr
        intro t
        by_cases hSetting : t = s
        · rcases given_eq_ok_iff.mp hFound with ⟨_, rfl⟩
          rw [hSetting]
          simp only [Config.source, overlay, lastValue?,
            List.getLast?_eq_some_getLast hGiven,
            Option.map_some]
        · have hKey : t.key ≠ s.key :=
            fun hSame => hSetting (Setting.key_injective hSame)
          simp only [Config.source,
            Config.default_congr (hAgree t.key hKey)]
      simp only [hMake]

------------------------------------------------------------
-- Influence
------------------------------------------------------------

/-
  The entries of a file have an influence through those for
  settings only: whatever else a file holds is ignored, in
  any environment; entries for different settings can change
  places; the last entry for a setting decides, the others
  have only to pass; an entry that names a variable that is
  not set, overridden or not, is an error of configurations;
  and the variable of a setting that the file gives is not
  consulted unless it is named. The files it is compared
  with are taken as they are spelled, as it is itself.
-/
structure Governs
    (disk : Disk)
    (p : Path)
    (es : List Entry) : Prop where
  ignored :
    ∀ env disk' es',
      Maps disk' p es' →
      IsWritable es' →
      counted es' = counted es →
        load env disk' p = load env disk p
  rearranged :
    ∀ env disk' p' es',
      Maps disk' p' es' →
      IsWritable es' →
      (∀ s, entriesFor s es' = entriesFor s es) →
        Config.SameOutcome
          (load env disk' p') (load env disk p)
  overridden :
    ∀ env disk' p' es',
      Maps disk' p' es' →
      ((∀ e ∈ es', Passes env e) ↔
        ∀ e ∈ es, Passes env e) →
      (∀ s, lastValue? s es' = lastValue? s es) →
        Config.SameOutcome
          (load env disk' p') (load env disk p)
  unset :
    ∀ env s e name,
      e ∈ entriesFor s es →
      e.2 = .text ("$" ++ name) →
      env.get? name = none →
        ∃ name', env.get? name' = none ∧
          load env disk p =
            .error (.build (.config (.unsetVariable name')))
  unconsulted :
    ∀ env env' s,
      entriesFor s es ≠ [] →
      (∀ name, name ≠ s.key →
        env.get? name = env'.get? name) →
      (∀ e ∈ counted es, e.2 ≠ .text ("$" ++ s.key)) →
        load env disk p = load env' disk p

theorem governs_of_isWritable
    (hHolds : Holds disk p es)
    (hWritable : IsWritable es) :
    Governs disk p es := by
  refine ⟨?_, ?_, ?_, ?_, ?_⟩
  · intro env disk' es' hMaps' hWritable' hCounted
    rw [load_of_holds hHolds, load_of_holds hMaps'.holds,
      settle_counted hWritable, settle_counted hWritable',
      hCounted]
  · intro env disk' p' es' hMaps' hWritable' hEach
    rw [load_of_holds hHolds, load_of_holds hMaps'.holds]
    apply sameOutcome_settle
    · rw [all_pass_iff hWritable, all_pass_iff hWritable']
      simp only [hEach]
    · intro s
      simp only [lastValue?, hEach]
  · intro env disk' p' es' hMaps' hPasses hLast
    rw [load_of_holds hHolds, load_of_holds hMaps'.holds]
    exact sameOutcome_settle hPasses hLast
  · intro env s e name hMem hNames hUnset
    rcases mem_entriesFor_iff.mp hMem with ⟨hMem, hFor⟩
    have hNot : ¬ Passes env e :=
      fun hPasses =>
        hPasses _ (.unset s name hFor hNames hUnset)
    rcases settle_of_not_pass hWritable ⟨e, hMem, hNot⟩ p []
      with ⟨name', hUnset', hSettle⟩
    rw [List.append_nil] at hSettle
    exact ⟨name', hUnset', (load_of_holds hHolds env).trans
      hSettle⟩
  · intro env env' s hGiven hAgree hUnnamed
    rw [load_of_holds hHolds, load_of_holds hHolds]
    exact settle_of_agree_off hGiven hAgree hUnnamed p

/-
  A file is not read beyond a key that cannot be written. It
  is no error of configurations unless an entry before it is
  one.
-/
theorem load_of_unwritable
    {before after : List Entry}
    (hHolds : Holds disk p (before ++ e :: after))
    (hWritable : IsWritable before)
    (hKey : e.1 = .unwritable)
    (env : Environment) :
    ((∀ x ∈ before, Passes env x) ∧
        load env disk p = .error (.value unwritable)) ∨
      (∃ x ∈ before, ¬ Passes env x) ∧
        ∃ name, env.get? name = none ∧
          load env disk p =
            .error (.build (.config (.unsetVariable name))) := by
  rw [load_of_holds hHolds]
  by_cases hPasses : ∀ x ∈ before, Passes env x
  · exact Or.inl
      ⟨hPasses, settle_of_stops hPasses (.key hKey)⟩
  · have hSome : ∃ x ∈ before, ¬ Passes env x := by
      simpa using hPasses
    exact Or.inr
      ⟨hSome, settle_of_not_pass hWritable hSome p _⟩

end ConfigFile

/-
  A file that holds a mapping has an influence through its
  entries for settings only, if all its keys can be written.
  Otherwise the loading fails, and at the first such key if
  the entries before it pass. The file is one that is taken
  as it is spelled: where an escape spells a lone half of a
  surrogate pair, other failures are possible.
-/
theorem entries_decide
    {disk : Disk}
    {p : Path}
    {es : List ConfigFile.Entry}
    (hMaps : ConfigFile.Maps disk p es) :
    (ConfigFile.IsWritable es →
      ConfigFile.Governs disk p es) ∧
    ∀ before e after,
      es = before ++ e :: after →
      ConfigFile.IsWritable before →
      e.1 = .unwritable →
      ∀ env : Environment,
        ((∀ x ∈ before, ConfigFile.Passes env x) ∧
            ConfigFile.load env disk p =
              .error (.value unwritable)) ∨
          (∃ x ∈ before, ¬ ConfigFile.Passes env x) ∧
            ∃ name, env.get? name = none ∧
              ConfigFile.load env disk p =
                .error (.build
                  (.config (.unsetVariable name))) := by
  constructor
  · exact ConfigFile.governs_of_isWritable hMaps.holds
  · rintro before e after rfl hWritable hKey env
    exact ConfigFile.load_of_unwritable hMaps.holds hWritable
      hKey env

/- A file with an entry that is overridden, and others. -/
def Disk.crowded : Disk :=
  .ofSettings
    "registry_host: $OLD\nother: $NO\nREGISTRY_HOST: a\n"

/- What that file holds. -/
def ConfigFile.crowded : List ConfigFile.Entry :=
  [(.text "registry_host", .text "$OLD"),
    (.text "other", .text "$NO"),
    (.text "REGISTRY_HOST", .text "a")]

theorem ConfigFile.maps_crowded :
    Maps .crowded .settings crowded :=
  maps_ofSettings (by decide +kernel) (by decide)

/-
  That file does as well without what is ignored and without
  what is overridden, but not without the variable that is
  named there; the variable for the setting does not matter.
-/
theorem entries_decide_sample :
    ConfigFile.load [("OLD", "b")] .crowded .settings =
        .ok { Config.usual with registryHost := "a" } ∧
      Config.SameOutcome
        (ConfigFile.load [("OLD", "b")]
          (.ofSettings "registry_host: a\n") .settings)
        (ConfigFile.load [("OLD", "b")] .crowded .settings) ∧
      (∃ name, ConfigFile.load [] .crowded .settings =
        .error (.build (.config (.unsetVariable name)))) ∧
      ConfigFile.load [("OLD", "b")] .crowded .settings =
        ConfigFile.load [("REGISTRY_HOST", "c"), ("OLD", "b")]
          .crowded .settings := by
  have hLoad :
      ConfigFile.load [("OLD", "b")] .crowded .settings =
        .ok { Config.usual with registryHost := "a" } := by
    decide +kernel
  have hPlain :
      ConfigFile.load [("OLD", "b")]
          (.ofSettings "registry_host: a\n") .settings =
        .ok { Config.usual with registryHost := "a" } := by
    decide +kernel
  have hWritable :
      ConfigFile.IsWritable ConfigFile.crowded := by
    unfold ConfigFile.IsWritable
    decide
  have hGoverns :=
    (entries_decide ConfigFile.maps_crowded).1 hWritable
  refine ⟨hLoad, ?_, ?_, ?_⟩
  · have hMaps :
        ConfigFile.Maps (.ofSettings "registry_host: a\n")
          .settings [(.text "registry_host", .text "a")] :=
      ConfigFile.maps_ofSettings (by decide +kernel)
        (by decide)
    rw [ConfigFile.load_of_holds hMaps.holds] at hPlain
    rw [ConfigFile.load_of_holds
      ConfigFile.maps_crowded.holds] at hLoad
    apply hGoverns.overridden _ _ _ _ hMaps
    · exact iff_of_true
        (ConfigFile.settle_eq_ok_iff.mp hPlain).1
        (ConfigFile.settle_eq_ok_iff.mp hLoad).1
    · intro s
      cases s <;> decide
  · rcases hGoverns.unset [] .registryHost
        (.text "registry_host", .text "$OLD") "OLD"
        (by decide) rfl rfl with
      ⟨name, _, hUnset⟩
    exact ⟨name, hUnset⟩
  · apply hGoverns.unconsulted _ _ .registryHost
    · decide
    · intro name hOther
      have hKey : "REGISTRY_HOST" ≠ name := Ne.symm hOther
      simp [Environment.get?, hKey]
    · decide

/- A key with too many digits in base ten, and an entry. -/
def Text.overfull : List Char :=
  "? !!int '0x".toList ++ List.replicate 3600 'f'
    ++ "'\nREGISTRY_HOST: $UNSET\n".toList

/- What a file with that text holds. -/
def ConfigFile.overfull : List ConfigFile.Entry :=
  [(.unwritable, .null),
    (.text "REGISTRY_HOST", .text "$UNSET")]

set_option maxRecDepth 1000 in
theorem ConfigFile.entries_overfull :
    entries .settings (unifyNewlines Text.overfull) =
      .ok overfull := by
  decide +kernel

theorem ConfigFile.backslash_notMem_overfull :
    '\\' ∉ unifyNewlines Text.overfull := by
  decide +kernel

/-
  A key that is for no setting has an effect: the variable
  that another entry names is not set, but there is no error
  of configurations.
-/
theorem not_entries_decide :
    ConfigFile.Maps
        (.ofSettings (String.ofList Text.overfull)) .settings
        ConfigFile.overfull ∧
      (.text "REGISTRY_HOST", .text "$UNSET") ∈
        ConfigFile.entriesFor .registryHost
          ConfigFile.overfull ∧
      Environment.get? [] "UNSET" = none ∧
      ConfigFile.load []
          (.ofSettings (String.ofList Text.overfull))
          .settings =
        .error (.value unwritable) := by
  have hMaps :
      ConfigFile.Maps
        (.ofSettings (String.ofList Text.overfull)) .settings
        ConfigFile.overfull := by
    apply ConfigFile.maps_ofSettings
    · rw [String.toList_ofList]
      exact ConfigFile.entries_overfull
    · rw [String.toList_ofList]
      exact ConfigFile.backslash_notMem_overfull
  have hBefore : ∀ x ∈ ([] : List ConfigFile.Entry),
      ConfigFile.Passes [] x := by
    simp
  refine ⟨hMaps, by decide, rfl, ?_⟩
  rw [ConfigFile.load_of_holds hMaps.holds]
  exact ConfigFile.settle_of_stops hBefore (.key rfl)

end ContainerBuild
