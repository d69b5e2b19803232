import ContainerBuild.ConfigFile
import ContainerBuild.Proofs.Config
import ContainerBuild.Proofs.Text.Utf8
import Mathlib.Control.Monad.Basic

/-
  This file says what the entries of a configuration file
  give. An entry may stop the reading of the file; if none
  does, each setting is given by the last entry for it.

  An escape in a file can spell one half of a surrogate pair
  without the other. That is no character, and the readers
  put another one in its place. Files whose values show that
  are told apart, so that statements can leave them out.

  Key definitions include:
    * `ConfigFile.Holds`
    * `ConfigFile.IsWhole`
    * `ConfigFile.Maps`
    * `ConfigFile.settingAt?`
    * `ConfigFile.entriesFor`
    * `ConfigFile.Stops`
    * `ConfigFile.Passes`
    * `ConfigFile.lastValue?`
    * `ConfigFile.overlay`
    * `ConfigFile.settle`

  Main statements:
    * `ConfigFile.given_eq_ok_iff`
    * `ConfigFile.given_eq_error_iff`
    * `ConfigFile.load_of_holds`
    * `ConfigFile.settle_eq_ok_iff`
-/

namespace ContainerBuild

open Text ContainerBuild.Field

namespace ConfigFile

variable {env : Environment}
variable {disk : Disk}
variable {p : Path}
variable {g g' : Given}
variable {e : Entry}
variable {es : List Entry}
variable {f : Failure}
variable {c : Config}

------------------------------------------------------------
-- Values
------------------------------------------------------------

/- A variable that is named stands for its value. -/
theorem substitute_of_named
    {name value : String}
    (hSet : env.get? name = some value) :
    substitute env (.text ("$" ++ name)) =
      .ok (.text value) := by
  simp [substitute, substituteText, hSet]

theorem substitute_of_unset
    {name : String}
    (hUnset : env.get? name = none) :
    substitute env (.text ("$" ++ name)) =
      .error (.unsetVariable name) := by
  simp [substitute, substituteText, hUnset]

/- A value that names no variable stays as it is. -/
theorem substitute_of_plain
    {v : Scalar}
    (hPlain : ∀ name, v ≠ .text ("$" ++ name))
    (env : Environment) :
    substitute env v = .ok v := by
  cases v with
  | text s =>
      have hStart : ∀ name, s.toList ≠ '$' :: name := by
        intro name hList
        apply hPlain (String.ofList name)
        exact congrArg Scalar.text
          (String.toList_inj.mp (by simp [hList]))
      have hText : substituteText env s = .ok s := by
        unfold substituteText
        split
        · rename_i name hList
          exact absurd hList (hStart name)
        · rfl
      simp only [substitute, hText]
  | _ => rfl

/- A value fails to be replaced only at an unset variable. -/
theorem substitute_eq_error
    {v : Scalar}
    {fault : ConfigFault}
    (hFails : substitute env v = .error fault) :
    ∃ name, v = .text ("$" ++ name) ∧
      env.get? name = none ∧ fault = .unsetVariable name := by
  by_cases hNames : ∃ name, v = .text ("$" ++ name)
  · rcases hNames with ⟨name, rfl⟩
    cases hValue : env.get? name with
    | none =>
        rw [substitute_of_unset hValue] at hFails
        exact ⟨name, rfl, hValue, (Except.error.inj hFails).symm⟩
    | some value =>
        rw [substitute_of_named hValue] at hFails
        exact absurd hFails (by simp)
  · rw [substitute_of_plain (by simpa using hNames)] at hFails
    exact absurd hFails (by simp)

/- The value of an entry, a named variable replaced. -/
def resolve
    (env : Environment)
    (v : Scalar) : Scalar :=
  match substitute env v with
  | .ok v' => v'
  | .error _ => v

/- Only the variable that a value names counts. -/
theorem substitute_congr
    {env' : Environment}
    {v : Scalar}
    (hSame : ∀ name, v = .text ("$" ++ name) →
      env.get? name = env'.get? name) :
    substitute env v = substitute env' v := by
  by_cases hNames : ∃ name, v = .text ("$" ++ name)
  · rcases hNames with ⟨name, rfl⟩
    have hValue := hSame name rfl
    cases hSet : env.get? name with
    | none =>
        rw [substitute_of_unset hSet,
          substitute_of_unset (hValue.symm.trans hSet)]
    | some value =>
        rw [substitute_of_named hSet,
          substitute_of_named (hValue.symm.trans hSet)]
  · have hPlain : ∀ name, v ≠ .text ("$" ++ name) := by
      simpa using hNames
    rw [substitute_of_plain hPlain,
      substitute_of_plain hPlain]

------------------------------------------------------------
-- Entries
------------------------------------------------------------

/- The setting that an entry is for, if its key is one. -/
def settingAt? (e : Entry) : Option Setting :=
  match e.1 with
  | .text k => Setting.ofKey? (upperText k)
  | .unwritable => none

/- The entries for a setting. -/
def entriesFor
    (s : Setting)
    (es : List Entry) : List Entry :=
  es.filter (fun e => settingAt? e = some s)

theorem mem_entriesFor_iff {s : Setting} :
    e ∈ entriesFor s es ↔
      e ∈ es ∧ settingAt? e = some s := by
  simp [entriesFor]

/-
  An entry stops the reading of a file if its key cannot be
  written, or if it is for a setting and names a variable
  that is not set.
-/
inductive Stops
    (env : Environment)
    (e : Entry) : Failure → Prop
  | key :
      e.1 = .unwritable →
        Stops env e (.value unwritable)
  | unset (s : Setting) (name : String) :
      settingAt? e = some s →
      e.2 = .text ("$" ++ name) →
      env.get? name = none →
        Stops env e
          (.build (.config (.unsetVariable name)))

/- An entry lets the reading go on. -/
def Passes
    (env : Environment)
    (e : Entry) : Prop :=
  ∀ f, ¬ Stops env e f

/- The value that the last entry for a setting has. -/
def lastValue?
    (s : Setting)
    (es : List Entry) : Option Scalar :=
  (entriesFor s es).getLast?.map Prod.snd

theorem lastValue?_nil (s : Setting) :
    lastValue? s [] = none := rfl

theorem lastValue?_cons_of_eq
    {s : Setting}
    (hFor : settingAt? e = some s)
    (es : List Entry) :
    lastValue? s (e :: es) =
      some ((lastValue? s es).getD e.2) := by
  have hEntries :
      entriesFor s (e :: es) = e :: entriesFor s es := by
    simp [entriesFor, hFor]
  simp only [lastValue?, hEntries, List.getLast?_cons]
  cases (entriesFor s es).getLast? <;> rfl

theorem lastValue?_cons_of_ne
    {s : Setting}
    (hOther : settingAt? e ≠ some s)
    (es : List Entry) :
    lastValue? s (e :: es) = lastValue? s es := by
  simp [lastValue?, entriesFor, hOther]

/-
  The values that entries give in addition: the last entry
  for a setting counts.
-/
def overlay
    (env : Environment)
    (g : Given)
    (es : List Entry) : Given :=
  fun s =>
    match lastValue? s es with
    | none => g s
    | some v => some (resolve env v)

theorem overlay_nil (env : Environment) (g : Given) :
    overlay env g [] = g := rfl

/- Entries one after the other add what all of them add. -/
theorem overlay_cons :
    overlay env (overlay env g [e]) es =
      overlay env g (e :: es) := by
  funext s
  by_cases hFor : settingAt? e = some s
  · simp only [overlay, lastValue?_cons_of_eq hFor,
      lastValue?_nil, Option.getD_none]
    cases lastValue? s es <;> rfl
  · simp only [overlay, lastValue?_cons_of_ne hFor,
      lastValue?_nil]

/- A single entry gives a value to its setting, if any. -/
theorem overlay_of_some
    {s : Setting}
    (hFor : settingAt? e = some s)
    (env : Environment)
    (g : Given) :
    overlay env g [e] = g.set s (resolve env e.2) := by
  funext t
  by_cases hSame : t = s
  · rw [hSame]
    simp [overlay, lastValue?_cons_of_eq hFor,
      lastValue?_nil, Given.set]
  · have hOther : settingAt? e ≠ some t := by
      rw [hFor]
      exact fun hEq => hSame (Option.some.inj hEq).symm
    simp [overlay, lastValue?_cons_of_ne hOther,
      lastValue?_nil, Given.set, hSame]

theorem overlay_of_none
    (hNone : settingAt? e = none)
    (env : Environment)
    (g : Given) :
    overlay env g [e] = g := by
  funext s
  have hOther : settingAt? e ≠ some s := by
    simp [hNone]
  simp only [overlay, lastValue?_cons_of_ne hOther,
    lastValue?_nil]

/- After a stop nothing is read. -/
theorem given_of_stops
    (hStops : Stops env e f)
    (g : Given)
    (es : List Entry) :
    given env g (e :: es) = .error f := by
  rcases e with ⟨k, v⟩
  cases hStops with
  | key hKey =>
      cases hKey
      rfl
  | unset s name hFor hNames hUnset =>
      cases k with
      | text k =>
          cases hNames
          have hSetting : settingOf (.text k) = .ok (some s) :=
            congrArg Except.ok hFor
          simp only [given, hSetting,
            substitute_of_unset hUnset]
      | unwritable => exact absurd hFor (by simp [settingAt?])

/- An entry that passes adds what it gives. -/
theorem given_of_passes
    (hPasses : Passes env e)
    (g : Given)
    (es : List Entry) :
    given env g (e :: es) =
      given env (overlay env g [e]) es := by
  rcases e with ⟨k, v⟩
  cases k with
  | unwritable => exact absurd (.key rfl) (hPasses _)
  | text k =>
      cases hFor : settingAt? (.text k, v) with
      | none =>
          have hSetting : settingOf (.text k) = .ok none :=
            congrArg Except.ok hFor
          simp only [given, hSetting, overlay_of_none hFor]
      | some s =>
          have hSetting : settingOf (.text k) = .ok (some s) :=
            congrArg Except.ok hFor
          cases hValue : substitute env v with
          | error fault =>
              rcases substitute_eq_error hValue with
                ⟨name, rfl, hUnset, rfl⟩
              exact absurd (.unset s name hFor rfl hUnset)
                (hPasses _)
          | ok v' =>
              have hResolve : resolve env v = v' := by
                simp only [resolve, hValue]
              simp only [given, hSetting, hValue,
                overlay_of_some hFor, hResolve]

/- Every entry stops the reading or lets it go on. -/
theorem exists_stops_or_passes
    (env : Environment)
    (e : Entry) :
    (∃ f, Stops env e f) ∨ Passes env e := by
  by_cases hStops : ∃ f, Stops env e f
  · exact Or.inl hStops
  · exact Or.inr (fun f hF => hStops ⟨f, hF⟩)

/- The entries give values exactly if none stops. -/
theorem given_eq_ok_iff :
    given env g es = .ok g' ↔
      (∀ e ∈ es, Passes env e) ∧
        g' = overlay env g es := by
  induction es generalizing g with
  | nil => simp [given, overlay_nil, eq_comm]
  | cons e rest ih =>
      rcases exists_stops_or_passes env e with
        ⟨f, hStops⟩ | hPasses
      · rw [given_of_stops hStops]
        refine iff_of_false (by simp) ?_
        rintro ⟨hAll, _⟩
        exact hAll e List.mem_cons_self f hStops
      · rw [given_of_passes hPasses, ih, overlay_cons]
        simp [hPasses]

/- They fail as the first one that stops does. -/
theorem given_eq_error_iff :
    given env g es = .error f ↔
      ∃ before e after, es = before ++ e :: after ∧
        (∀ x ∈ before, Passes env x) ∧ Stops env e f := by
  induction es generalizing g with
  | nil => simp [given]
  | cons e rest ih =>
      simp only [List.cons_eq_append_iff]
      rcases exists_stops_or_passes env e with
        ⟨f', hStops⟩ | hPasses
      · rw [given_of_stops hStops]
        constructor
        · rintro ⟨⟩
          exact ⟨[], e, rest, Or.inl ⟨rfl, rfl⟩, by simp,
            hStops⟩
        · rintro ⟨before, x, after,
            ⟨rfl, hSame⟩ | ⟨tail, rfl, _⟩, hBefore, hOther⟩
          · cases hSame
            have hBoth :=
              (given_of_stops hStops g rest).symm.trans
                (given_of_stops hOther g rest)
            exact hBoth
          · exact absurd hStops
              (hBefore e List.mem_cons_self f')
      · rw [given_of_passes hPasses, ih]
        constructor
        · rintro ⟨before, x, after, rfl, hBefore, hStops⟩
          refine ⟨e :: before, x, after,
            Or.inr ⟨before, rfl, rfl⟩, ?_, hStops⟩
          intro y hMem
          rcases List.mem_cons.mp hMem with rfl | hMem
          · exact hPasses
          · exact hBefore y hMem
        · rintro ⟨before, x, after,
            ⟨rfl, hSame⟩ | ⟨tail, rfl, rfl⟩, hBefore, hStops⟩
          · cases hSame
            exact absurd hStops (hPasses f)
          · exact ⟨tail, x, after, rfl,
              fun y hMem =>
                hBefore y (List.mem_cons_of_mem _ hMem),
              hStops⟩

------------------------------------------------------------
-- Files
------------------------------------------------------------

/- A file is there, and its text is a mapping. -/
def Holds
    (disk : Disk)
    (p : Path)
    (es : List Entry) : Prop :=
  ∃ cs, readText disk p = .ok cs ∧ entries p cs = .ok es

/- The configuration that entries of a file give. -/
def settle
    (env : Environment)
    (p : Path)
    (es : List Entry) : Except Failure Config :=
  match given env Given.nothing es with
  | .error f => .error f
  | .ok g =>
      match Config.make env g with
      | .ok c => .ok c
      | .error f => .error (inFile p f)

theorem load_of_readText
    {cs : List Char}
    (hText : readText disk p = .ok cs)
    (env : Environment) :
    load env disk p = parse env p cs := by
  unfold load
  rw [hText]

theorem parse_of_entries
    {cs : List Char}
    (hEntries : entries p cs = .ok es)
    (env : Environment) :
    parse env p cs = settle env p es := by
  unfold parse
  rw [hEntries]
  rfl

theorem load_of_holds
    (hHolds : Holds disk p es)
    (env : Environment) :
    load env disk p = settle env p es := by
  rcases hHolds with ⟨cs, hText, hEntries⟩
  rw [load_of_readText hText, parse_of_entries hEntries]

theorem settle_of_passes
    (hPasses : ∀ e ∈ es, Passes env e) :
    settle env p es =
      match Config.make env (overlay env .nothing es) with
      | .ok c => .ok c
      | .error f => .error (inFile p f) := by
  have hGiven :=
    (@given_eq_ok_iff env .nothing _ es).mpr ⟨hPasses, rfl⟩
  simp only [settle, hGiven]

theorem settle_of_stops
    {before after : List Entry}
    (hBefore : ∀ x ∈ before, Passes env x)
    (hStops : Stops env e f) :
    settle env p (before ++ e :: after) = .error f := by
  have hGiven :=
    (@given_eq_error_iff env .nothing _ f).mpr
      ⟨before, e, after, rfl, hBefore, hStops⟩
  simp only [settle, hGiven]

theorem settle_eq_ok_iff :
    settle env p es = .ok c ↔
      (∀ e ∈ es, Passes env e) ∧
        Config.make env (overlay env .nothing es) =
          .ok c := by
  by_cases hPasses : ∀ e ∈ es, Passes env e
  · rw [settle_of_passes hPasses]
    cases Config.make env (overlay env .nothing es) with
    | ok c' => simpa using fun _ => hPasses
    | error f => simp
  · refine iff_of_false ?_ (fun hBoth => hPasses hBoth.1)
    intro hSettle
    unfold settle at hSettle
    split at hSettle
    · exact absurd hSettle (by simp)
    · rename_i hGiven
      exact hPasses (given_eq_ok_iff.mp hGiven).1

/- A file that is loaded holds entries. -/
theorem exists_holds_of_load
    (hLoad : load env disk p = .ok c) :
    ∃ es, Holds disk p es ∧ settle env p es = .ok c := by
  cases hText : readText disk p with
  | error f =>
      unfold load at hLoad
      rw [hText] at hLoad
      exact absurd hLoad (by simp)
  | ok cs =>
      rw [load_of_readText hText] at hLoad
      cases hEntries : entries p cs with
      | error f =>
          unfold parse at hLoad
          rw [hEntries] at hLoad
          exact absurd hLoad (by simp)
      | ok es =>
          rw [parse_of_entries hEntries] at hLoad
          exact ⟨es, ⟨cs, hText, hEntries⟩, hLoad⟩

------------------------------------------------------------
-- Halves of Pairs
------------------------------------------------------------

/-
  A value without the character that the readers put for a
  lone half of a surrogate pair.
-/
def IsUnbroken (v : Scalar) : Prop :=
  ∀ s, v = .text s → '\uFFFD' ∉ s.toList

/-
  A file whose values for settings are taken as they are
  spelled: it has no escapes, or none of these values holds
  the character that stands for a lone half. In any other
  file a value may be a text with such a half. It is a text
  that no variable and no setting can have, and none that is
  spoken of here.
-/
def IsWhole
    (disk : Disk)
    (p : Path) : Prop :=
  ∀ cs es,
    readText disk p = .ok cs →
    entries p cs = .ok es →
    '\\' ∈ cs →
      ∀ e ∈ es, settingAt? e ≠ none → IsUnbroken e.2

/- A file that is taken as it is spelled holds entries. -/
structure Maps
    (disk : Disk)
    (p : Path)
    (es : List Entry) : Prop where
  holds : Holds disk p es
  whole : IsWhole disk p

/- A file that is no text has nothing to be taken. -/
theorem isWhole_of_readText_error
    (hText : readText disk p = .error f) :
    IsWhole disk p := by
  intro cs es hRead
  rw [hText] at hRead
  exact absurd hRead (by simp)

/- A text without escapes is taken as it is spelled. -/
theorem isWhole_of_notMem
    {cs : List Char}
    (hText : readText disk p = .ok cs)
    (hEscapes : '\\' ∉ cs) :
    IsWhole disk p := by
  intro cs' es hRead _ hMem
  rw [hText] at hRead
  cases hRead
  exact absurd hMem hEscapes

end ConfigFile

------------------------------------------------------------
-- Written files
------------------------------------------------------------

/- The path of a YAML file. -/
def Path.settings : Path :=
  ⟨"", ["c.yaml"]⟩

/- A disk with that file, which contains a text. -/
def Disk.ofSettings (text : String) : Disk :=
  ⟨[(["c.yaml"], .file (.octets (utf8 text)))], [],
    ⟨"/", ["tmp"]⟩, 0⟩

namespace ConfigFile

theorem readText_ofSettings (text : String) :
    readText (.ofSettings text) .settings =
      .ok (unifyNewlines text.toList) := by
  have hFetch :
      (Disk.ofSettings text).fetch Path.settings.toText =
        .ok (.octets (utf8 text)) := by
    rfl
  unfold readText
  rw [hFetch]
  simp only [Content.bytes, utf8, decode?_encode]

/- What is written to the file is what it holds. -/
theorem holds_ofSettings
    {text : String}
    {es : List Entry}
    (hEntries :
      entries .settings (unifyNewlines text.toList) =
        .ok es) :
    Holds (.ofSettings text) .settings es :=
  ⟨_, readText_ofSettings text, hEntries⟩

theorem maps_ofSettings
    {text : String}
    {es : List Entry}
    (hEntries :
      entries .settings (unifyNewlines text.toList) =
        .ok es)
    (hEscapes : '\\' ∉ unifyNewlines text.toList) :
    Maps (.ofSettings text) .settings es :=
  ⟨holds_ofSettings hEntries,
    isWhole_of_notMem (readText_ofSettings text) hEscapes⟩

end ConfigFile

end ContainerBuild
