import ContainerBuild.Proofs.ConfigFile
import ContainerBuild.Proofs.Number.Literal

/-
  This file compares the two routes by which a variable comes
  to a setting: as the default of a setting that is not
  given, and as the value of an entry that names it. The
  first reads the variable by rules of its own, the second
  as fields read texts.

  Key definitions include:
    * `lowerWord`
    * `Setting.Shape.ofVariable`
    * `Setting.Shape.ReadsAlike`
    * `Setting.Shape.PartsSilently`

  Main statements:
    * `Config.default_of_set`
    * `Setting.Shape.compares`
    * `Config.sameOutcome_routes_iff`
    * `Config.parts_of_make`
    * `routes_agree_iff`
-/

namespace ContainerBuild

open Text ContainerBuild.Field

variable {env : Environment}
variable {v : String}

------------------------------------------------------------
-- Words
------------------------------------------------------------

/- The word that a text is, in lower case. -/
def lowerWord (v : String) : String :=
  String.ofList (v.toList.map lowerAscii)

theorem IsVisible.not_isBlank
    {c : Char}
    (hVisible : IsVisible c) :
    isBlank c = false := by
  have hLow := hVisible.1
  simp only [isBlank, hVisible.not_isWhiteSpace,
    Bool.or_false, Bool.and_eq_false_iff,
    decide_eq_false_iff_not]
  omega

/- A word that means something has no blanks around it. -/
theorem isOn_eq_contains
    (hWord : lowerWord v ∈ falseWords ++ trueWords) :
    Config.isOn v = Config.onWords.contains (lowerWord v) := by
  have hLetters : ∀ word ∈ falseWords ++ trueWords,
      word.toList.all (fun c => decide (IsVisible c)) =
        true := by
    decide
  have hVisible : ∀ c ∈ v.toList, IsVisible c := by
    intro c hMem
    have hWhole := hLetters _ hWord
    simp only [lowerWord, String.toList_ofList,
      List.all_eq_true, decide_eq_true_eq] at hWhole
    exact isVisible_of_lowerAscii
      (hWhole _ (List.mem_map_of_mem hMem))
  have hTrim : trimBlank v.toList = v.toList :=
    trim_of_forall
      fun c hMem => (hVisible c hMem).not_isBlank
  simp only [Config.isOn, hTrim, lowerWord]

/- The flag that a text in a file stands for. -/
theorem flagOfText_eq (v : String) :
    flagOfText v =
      if lowerWord v ∈ falseWords then
        .ok false
      else if lowerWord v ∈ trueWords then
        .ok true
      else
        .error .unreadableFlag := by
  simp only [flagOfText, List.contains_iff_mem]
  rfl

------------------------------------------------------------
-- Numbers
------------------------------------------------------------

/- A reading that comes to a port. -/
def SpellsPort
    {ε : Type}
    (r : Except ε Int) : Prop :=
  ∃ n, r = .ok n ∧ 1 ≤ n ∧ n ≤ 65535

/- A reading that comes to a timeout. -/
def SpellsTimeout
    {ε : Type}
    (r : Except ε Binary64) : Prop :=
  ∃ x, r = .ok x ∧ x.isAtMostZero = false

theorem exists_timeout_iff
    {ε : Type}
    {r : Except ε Binary64} :
    (∃ t : Option Binary64, ∃ x, r = .ok x ∧
        x.isAtMostZero = false ∧ t = some x) ↔
      SpellsTimeout r := by
  constructor
  · rintro ⟨_, x, hRead, hAbove, _⟩
    exact ⟨x, hRead, hAbove⟩
  · rintro ⟨x, hRead, hAbove⟩
    exact ⟨some x, x, hRead, hAbove, rfl⟩

------------------------------------------------------------
-- Variables
------------------------------------------------------------

namespace Setting.Shape

/-
  What a variable stands for as a default. An empty one does
  not count where a number or an absent text could be meant;
  ports have a usual value.
-/
def ofVariable
    (usual : Int)
    (v : String) : Shape → Except Failure Scalar
  | backend => .ok (.text v)
  | text => .ok (.text v)
  | optionalText => .ok (if v = "" then .null else .text v)
  | flag => .ok (.flag (Config.isOn v))
  | port =>
      if v = "" then
        .ok (.integer usual)
      else
        match readInteger v.toList with
        | .ok n => .ok (.integer n)
        | .error fault => .error (.value fault.message)
  | timeout =>
      if v = "" then
        .ok .null
      else
        match readReal v.toList with
        | .ok x => .ok (.real x)
        | .error fault => .error (.value fault.message)

/-
  When a text comes to the same as a default and in a file.
  Flags in a file are words without blanks; numbers have to
  be accepted by both readings, or by neither.
-/
def ReadsAlike (v : String) : Shape → Prop
  | backend => True
  | text => True
  | optionalText => v ≠ ""
  | flag =>
      lowerWord v ∈ falseWords ∨
        lowerWord v ∈ Config.onWords
  | port =>
      v ≠ "" ∧
        (SpellsPort (readInteger v.toList) ↔
          SpellsPort (integerOfText v.toList))
  | timeout =>
      v ≠ "" ∧
        (SpellsTimeout (readReal v.toList) ↔
          SpellsTimeout (realOfText v.toList))

/-
  How a text can come to something else in a file, and to
  something all the same: two words are flags there only, and
  an empty text is not absent there.
-/
def PartsSilently
    (v : String) : (k : Shape) → k.Value → k.Value → Prop
  | backend, _, _ => False
  | text, _, _ => False
  | optionalText, x, y => v = "" ∧ x = some "" ∧ y = none
  | flag, x, y =>
      lowerWord v ∈ ["t", "y"] ∧ x = true ∧ y = false
  | port, _, _ => False
  | timeout, _, _ => False

end Setting.Shape

/- The default of a setting whose variable is set. -/
theorem Config.default_of_set
    {s : Setting}
    (hSet : env.get? s.key = some v) :
    ∃ usual : Int, 1 ≤ usual ∧ usual ≤ 65535 ∧
      Config.default env s = s.shape.ofVariable usual v := by
  have hText : ∀ usual, textDefault env s usual = .text v := by
    simp [textDefault, hSet]
  have hFlag : ∀ usual,
      flagDefault env s usual = .flag (isOn v) := by
    simp [flagDefault, hSet]
  have hInteger : ∀ usual, integerDefault env s usual =
      Setting.Shape.port.ofVariable usual v := by
    intro usual
    simp only [integerDefault, hSet]
    rfl
  have hReal : ∀ usual, realDefault env s =
      Setting.Shape.timeout.ofVariable usual v := by
    intro usual
    simp only [realDefault, hSet]
    rfl
  have hOptional : optionalDefault env s =
      if v = "" then .null else .text v := by
    simp only [optionalDefault, hSet]
  cases s with
  | enginePort =>
      exact ⟨2375, by decide, by decide, hInteger 2375⟩
  | registryPort =>
      exact ⟨5000, by decide, by decide, hInteger 5000⟩
  | buildTimeout => exact ⟨1, by decide, by decide, hReal 1⟩
  | stagingBase =>
      exact ⟨1, by decide, by decide,
        congrArg Except.ok hOptional⟩
  | disableBuildkit | engineUseSsl | noRegistry
  | registryUseSsl =>
      exact ⟨1, by decide, by decide,
        congrArg Except.ok (hFlag _)⟩
  | backend | dockerBinary | engineHost | engineUser
  | enginePassword | registryHost | registryUser
  | registryPassword =>
      exact ⟨1, by decide, by decide,
        congrArg Except.ok (hText _)⟩

namespace Setting.Shape

/-
  How the two routes compare for a setting with a shape: when
  a text comes to the same on both, and what it can come to
  if it comes to something on both.
-/
structure Compares
    (k : Shape)
    (usual : Int)
    (v : String) : Prop where
  alike_iff :
    k.comesTo (.ok (.text v)) =
        k.comesTo (k.ofVariable usual v) ↔
      k.ReadsAlike v
  parts :
    ∀ x y,
      k.comesTo (.ok (.text v)) = some x →
      k.comesTo (k.ofVariable usual v) = some y →
        x = y ∨ k.PartsSilently v x y

variable {k : Shape}
variable {usual : Int}

/- The two routes lead to known values. -/
theorem compares_of_some
    {x y : k.Value}
    (hFile : k.comesTo (.ok (.text v)) = some x)
    (hDefault : k.comesTo (k.ofVariable usual v) = some y)
    (hAlike : x = y ↔ k.ReadsAlike v)
    (hParts : x = y ∨ k.PartsSilently v x y) :
    k.Compares usual v := by
  refine ⟨?_, ?_⟩
  · rw [hFile, hDefault, Option.some.injEq]
    exact hAlike
  · rw [hFile, hDefault]
    rintro _ _ ⟨⟩ ⟨⟩
    exact hParts

/- The text is refused in a file only. -/
theorem compares_of_none
    {y : k.Value}
    (hFile : k.comesTo (.ok (.text v)) = none)
    (hDefault : k.comesTo (k.ofVariable usual v) = some y)
    (hApart : ¬ k.ReadsAlike v) :
    k.Compares usual v := by
  refine ⟨?_, ?_⟩
  · rw [hFile, hDefault]
    exact iff_of_false (by simp) hApart
  · rw [hFile]
    intro x _ hNone
    exact absurd hNone (by simp)

/- Both routes may refuse a text, but do not disagree. -/
theorem compares_of_unique
    {p q : k.Value → Prop}
    (hFile :
      ∀ x, k.comesTo (.ok (.text v)) = some x ↔ p x)
    (hDefault :
      ∀ y, k.comesTo (k.ofVariable usual v) = some y ↔ q y)
    (hUnique : ∀ x y, p x → q y → x = y)
    (hAlike :
      ((∃ y, q y) ↔ ∃ x, p x) ↔ k.ReadsAlike v) :
    k.Compares usual v := by
  have hNever : ∀ x y,
      k.comesTo (.ok (.text v)) = some x →
      k.comesTo (k.ofVariable usual v) = some y →
        x = y :=
    fun x y hX hY =>
      hUnique x y ((hFile x).mp hX) ((hDefault y).mp hY)
  refine ⟨?_, fun x y hX hY => Or.inl (hNever x y hX hY)⟩
  rw [← hAlike]
  simp only [← hFile, ← hDefault]
  generalize k.comesTo (.ok (.text v)) = left at hNever ⊢
  generalize k.comesTo (k.ofVariable usual v) = right
    at hNever ⊢
  cases left with
  | none => cases right <;> simp
  | some x =>
      cases right with
      | none => simp
      | some y => simpa using hNever x y rfl rfl

theorem compares_optionalText :
    optionalText.Compares usual v := by
  have hFile : optionalText.comesTo (.ok (.text v)) =
      some (some v) := rfl
  by_cases hEmpty : v = ""
  · have hDefault :
        optionalText.comesTo
            (optionalText.ofVariable usual v) =
          some none := by
      simp only [ofVariable, if_pos hEmpty]
      rfl
    apply compares_of_some hFile hDefault
    · exact iff_of_false (by simp) (fun hSome => hSome hEmpty)
    · exact Or.inr ⟨hEmpty, congrArg some hEmpty, rfl⟩
  · have hDefault :
        optionalText.comesTo
            (optionalText.ofVariable usual v) =
          some (some v) := by
      simp only [ofVariable, if_neg hEmpty]
      rfl
    apply compares_of_some hFile hDefault
    · exact iff_of_true rfl hEmpty
    · exact Or.inl rfl

theorem compares_flag : flag.Compares usual v := by
  have hDefault : flag.comesTo (flag.ofVariable usual v) =
      some (Config.isOn v) := rfl
  have hFile : flag.comesTo (.ok (.text v)) =
      (flagOfText v).toOption := rfl
  rw [flagOfText_eq] at hFile
  have hOff : ∀ word ∈ falseWords,
      Config.onWords.contains word = false := by
    decide
  have hRest : ∀ word ∈ trueWords,
      word ∉ Config.onWords → word ∈ ["t", "y"] := by
    decide
  have hOnly : ∀ word ∈ Config.onWords, word ∈ trueWords := by
    decide
  by_cases hFalse : lowerWord v ∈ falseWords
  · rw [isOn_eq_contains (List.mem_append_left _ hFalse),
      hOff _ hFalse] at hDefault
    rw [if_pos hFalse] at hFile
    apply compares_of_some hFile hDefault
    · exact iff_of_true rfl (Or.inl hFalse)
    · exact Or.inl rfl
  · rw [if_neg hFalse] at hFile
    by_cases hTrue : lowerWord v ∈ trueWords
    · rw [isOn_eq_contains (List.mem_append_right _ hTrue)]
        at hDefault
      rw [if_pos hTrue] at hFile
      apply compares_of_some hFile hDefault
      · rw [eq_comm, List.contains_iff_mem]
        exact ⟨Or.inr, fun hEither => hEither.resolve_left hFalse⟩
      · by_cases hOn : lowerWord v ∈ Config.onWords
        · exact Or.inl (List.contains_iff_mem.mpr hOn).symm
        · refine Or.inr ⟨hRest _ hTrue hOn, rfl, ?_⟩
          simpa using hOn
    · rw [if_neg hTrue] at hFile
      apply compares_of_none hFile hDefault
      rintro (hMem | hMem)
      · exact hFalse hMem
      · exact hTrue (hOnly _ hMem)

/- A value comes to a port if it is an integer in range. -/
theorem comesTo_port_iff
    {r : Except Failure Scalar}
    {n : Int} :
    port.comesTo r = some n ↔
      ∃ w, r = .ok w ∧ w.toInteger = .ok n ∧
        1 ≤ n ∧ n ≤ 65535 :=
  comesTo_eq_some_iff.trans
    (exists_congr fun _ =>
      and_congr_right fun _ => Config.toPort_eq_ok_iff)

theorem compares_port
    (hLow : 1 ≤ usual)
    (hHigh : usual ≤ 65535) :
    port.Compares usual v := by
  by_cases hEmpty : v = ""
  · have hFile : port.comesTo (.ok (.text v)) = none := by
      rw [hEmpty]
      rfl
    have hDefault :
        port.comesTo (port.ofVariable usual v) =
          some usual := by
      simp only [ofVariable, if_pos hEmpty]
      exact comesTo_port_iff.mpr ⟨_, rfl, rfl, hLow, hHigh⟩
    exact compares_of_none hFile hDefault
      fun hAlike => hAlike.1 hEmpty
  · have hDefault : ∀ n,
        port.comesTo (port.ofVariable usual v) = some n ↔
          readInteger v.toList = .ok n ∧
            1 ≤ n ∧ n ≤ 65535 := by
      intro n
      refine comesTo_port_iff.trans ?_
      simp only [ofVariable, if_neg hEmpty]
      cases readInteger v.toList <;> simp [Scalar.toInteger]
    have hFile : ∀ n,
        port.comesTo (.ok (.text v)) = some n ↔
          integerOfText v.toList = .ok n ∧
            1 ≤ n ∧ n ≤ 65535 := by
      intro n
      refine comesTo_port_iff.trans ?_
      simp [Scalar.toInteger]
    apply compares_of_unique hFile hDefault
    · rintro n m ⟨hLoose, _⟩ ⟨hPlain, _⟩
      exact (readInteger_unique hPlain hLoose).symm
    · exact ⟨fun hBoth => ⟨hEmpty, hBoth⟩,
        fun hAlike => hAlike.2⟩

/- A value comes to a timeout if it is absent or is one. -/
theorem comesTo_timeout_iff
    {r : Except Failure Scalar}
    {t : Option Binary64} :
    timeout.comesTo r = some t ↔
      ∃ w, r = .ok w ∧
        (w = .null ∧ t = none ∨
          w ≠ .null ∧ ∃ x, w.toReal = .ok x ∧
            x.isAtMostZero = false ∧ t = some x) :=
  comesTo_eq_some_iff.trans
    (exists_congr fun _ =>
      and_congr_right fun _ => Config.toTimeout_eq_ok_iff)

theorem compares_timeout : timeout.Compares usual v := by
  by_cases hEmpty : v = ""
  · have hFile : timeout.comesTo (.ok (.text v)) = none := by
      rw [hEmpty]
      rfl
    have hDefault :
        timeout.comesTo (timeout.ofVariable usual v) =
          some none := by
      simp only [ofVariable, if_pos hEmpty]
      rfl
    exact compares_of_none hFile hDefault
      fun hAlike => hAlike.1 hEmpty
  · have hDefault : ∀ t,
        timeout.comesTo (timeout.ofVariable usual v) =
            some t ↔
          ∃ x, readReal v.toList = .ok x ∧
            x.isAtMostZero = false ∧ t = some x := by
      intro t
      refine comesTo_timeout_iff.trans ?_
      simp only [ofVariable, if_neg hEmpty]
      cases readReal v.toList <;> simp [Scalar.toReal]
    have hFile : ∀ t,
        timeout.comesTo (.ok (.text v)) = some t ↔
          ∃ x, realOfText v.toList = .ok x ∧
            x.isAtMostZero = false ∧ t = some x := by
      intro t
      refine comesTo_timeout_iff.trans ?_
      simp [Scalar.toReal]
    apply compares_of_unique hFile hDefault
    · rintro t u ⟨x, hLoose, _, rfl⟩ ⟨y, hPlain, _, rfl⟩
      rw [readReal_unique hPlain hLoose]
    · simp only [exists_timeout_iff]
      exact ⟨fun hBoth => ⟨hEmpty, hBoth⟩,
        fun hAlike => hAlike.2⟩

/- The routes compare in this way for every shape. -/
theorem compares
    (k : Shape)
    (v : String)
    (hLow : 1 ≤ usual)
    (hHigh : usual ≤ 65535) :
    k.Compares usual v := by
  cases k with
  | backend =>
      exact ⟨iff_of_true rfl trivial,
        fun x y hX hY =>
          Or.inl (Option.some.inj (hX.symm.trans hY))⟩
  | text =>
      exact ⟨iff_of_true rfl trivial,
        fun x y hX hY =>
          Or.inl (Option.some.inj (hX.symm.trans hY))⟩
  | optionalText => exact compares_optionalText
  | flag => exact compares_flag
  | port => exact compares_port hLow hHigh
  | timeout => exact compares_timeout

end Setting.Shape

------------------------------------------------------------
-- Routes
------------------------------------------------------------

namespace ConfigFile

variable {disk disk' : Disk}
variable {p p' : Path}
variable {s : Setting}
variable {k : String}

/- An entry for a setting that names its variable. -/
def named (k : String) (s : Setting) : List Entry :=
  [(.text k, .text ("$" ++ s.key))]

theorem passes_named
    (hSet : env.get? s.key = some v) :
    ∀ e ∈ named k s, Passes env e := by
  intro e hMem f hStops
  rcases List.mem_singleton.mp hMem with rfl
  cases hStops with
  | key hKey => exact absurd hKey (by simp)
  | unset _ name _ hNames hUnset =>
      have hSame : Scalar.text ("$" ++ s.key) =
          .text ("$" ++ name) := hNames
      have hValue := substitute_of_named hSet
      rw [hSame, substitute_of_unset hUnset] at hValue
      exact absurd hValue (by simp)

/- Such an entry gives the setting the variable's text. -/
theorem settle_named
    (hKey : Setting.ofKey? (upperText k) = some s)
    (hSet : env.get? s.key = some v)
    {c : Config} :
    settle env p (named k s) = .ok c ↔
      Config.make env (Given.nothing.set s (.text v)) =
        .ok c := by
  have hFor :
      settingAt? (.text k, .text ("$" ++ s.key)) = some s :=
    hKey
  have hOverlay : overlay env .nothing (named k s) =
      Given.nothing.set s (.text v) := by
    rw [named, overlay_of_some hFor, resolve,
      substitute_of_named hSet]
  rw [settle_eq_ok_iff, hOverlay]
  exact and_iff_right (passes_named hSet)

theorem settle_nil {c : Config} :
    settle env p [] = .ok c ↔
      Config.make env .nothing = .ok c := by
  rw [settle_eq_ok_iff, overlay_nil]
  exact and_iff_right (by simp)

end ConfigFile

namespace Config

variable {s : Setting}

/- On both routes the other settings come to the same. -/
theorem comesTo_set_of_ne
    {t : Setting}
    (hOther : t ≠ s)
    (v : Scalar) :
    comesTo env (Given.nothing.set s v) t =
      comesTo env .nothing t := by
  apply comesTo_congr
  simp only [source, Given.set, if_neg hOther]

theorem comesTo_set_self (v : Scalar) :
    comesTo env (Given.nothing.set s v) s =
      s.shape.comesTo (.ok v) := by
  simp only [comesTo, source, Given.set, if_true]

theorem comesTo_nothing :
    comesTo env .nothing s =
      s.shape.comesTo (default env s) := rfl

/- The setting itself comes to the same if read alike. -/
theorem exists_compares
    (hSet : env.get? s.key = some v) :
    ∃ usual, s.shape.Compares usual v ∧
      comesTo env .nothing s =
        s.shape.comesTo (s.shape.ofVariable usual v) := by
  rcases default_of_set hSet with
    ⟨usual, hLow, hHigh, hDefault⟩
  refine ⟨usual, s.shape.compares v hLow hHigh, ?_⟩
  rw [comesTo_nothing, hDefault]

theorem sameOutcome_routes_iff
    (hSet : env.get? s.key = some v) :
    SameOutcome
        (make env (Given.nothing.set s (.text v)))
        (make env .nothing) ↔
      s.shape.ReadsAlike v ∨
        ∃ t, t ≠ s ∧ comesTo env .nothing t = none := by
  rcases exists_compares hSet with
    ⟨usual, hCompares, hDefault⟩
  have hOthers : ∀ t, t ≠ s →
      comesTo env (Given.nothing.set s (.text v)) t =
        comesTo env .nothing t :=
    fun t hOther => comesTo_set_of_ne hOther _
  refine (sameOutcome_make_iff hOthers).trans ?_
  apply or_congr
  · rw [comesTo_set_self, hDefault]
    exact hCompares.alike_iff
  · refine exists_congr fun t => and_congr_right ?_
    intro hOther
    rw [hOthers t hOther]

/- Configurations made on both routes differ in one setting. -/
theorem parts_of_make
    {c c' : Config}
    (hSet : env.get? s.key = some v)
    (hFile :
      make env (Given.nothing.set s (.text v)) = .ok c)
    (hPlain : make env .nothing = .ok c') :
    (∀ t, t ≠ s → c.get t = c'.get t) ∧
      (c = c' ∨
        s.shape.PartsSilently v (c.get s) (c'.get s)) := by
  rcases exists_compares hSet with
    ⟨usual, hCompares, hDefault⟩
  have hSame : ∀ t, t ≠ s → c.get t = c'.get t := by
    intro t hOther
    have hBoth := make_eq_ok_iff.mp hFile t
    rw [comesTo_set_of_ne hOther,
      make_eq_ok_iff.mp hPlain t] at hBoth
    exact (Option.some.inj hBoth).symm
  have hX := make_eq_ok_iff.mp hFile s
  have hY := make_eq_ok_iff.mp hPlain s
  rw [comesTo_set_self] at hX
  rw [hDefault] at hY
  refine ⟨hSame, ?_⟩
  rcases hCompares.parts _ _ hX hY with hEq | hParts
  · refine Or.inl (eq_of_get ?_)
    intro t
    by_cases hSetting : t = s
    · rw [hSetting]
      exact hEq
    · exact hSame t hSetting
  · exact Or.inr hParts

end Config

/-
  Let a file name the variable of a setting as the value of
  that setting, and another file be empty. Both give the same
  configuration, or none, if and only if the variable is read
  alike on both routes, or another setting comes to nothing.
  Where both give one, only that setting can differ, and only
  in the ways that are listed.
-/
theorem routes_agree_iff
    {env : Environment}
    {disk disk' : Disk}
    {p p' : Path}
    {k v : String}
    {s : Setting}
    (hKey : Setting.ofKey? (upperText k) = some s)
    (hSet : env.get? s.key = some v)
    (hNamed :
      ConfigFile.Holds disk p (ConfigFile.named k s))
    (hEmpty : ConfigFile.Holds disk' p' []) :
    (Config.SameOutcome
        (ConfigFile.load env disk p)
        (ConfigFile.load env disk' p') ↔
      s.shape.ReadsAlike v ∨
        ∃ t, t ≠ s ∧
          Config.comesTo env .nothing t = none) ∧
    ∀ c c',
      ConfigFile.load env disk p = .ok c →
      ConfigFile.load env disk' p' = .ok c' →
        (∀ t, t ≠ s → c.get t = c'.get t) ∧
        (c = c' ∨
          s.shape.PartsSilently v (c.get s) (c'.get s)) := by
  rw [ConfigFile.load_of_holds hNamed,
    ConfigFile.load_of_holds hEmpty]
  constructor
  · simp only [Config.SameOutcome,
      ConfigFile.settle_named hKey hSet,
      ConfigFile.settle_nil]
    exact Config.sameOutcome_routes_iff hSet
  · intro c c' hFile hPlain
    exact Config.parts_of_make hSet
      ((ConfigFile.settle_named hKey hSet).mp hFile)
      (ConfigFile.settle_nil.mp hPlain)

/- A port with white space and an underscore is read alike. -/
theorem routes_agree_iff_sample :
    ConfigFile.load [("ENGINE_PORT", " 8_080")]
        (.ofSettings "engine_port: $ENGINE_PORT\n")
        .settings =
      .ok { Config.usual with enginePort := 8080 } ∧
    Config.SameOutcome
      (ConfigFile.load [("ENGINE_PORT", " 8_080")]
        (.ofSettings "engine_port: $ENGINE_PORT\n")
        .settings)
      (ConfigFile.load [("ENGINE_PORT", " 8_080")]
        (.ofSettings "{}\n") .settings) := by
  have hNamed :
      ConfigFile.Holds
        (.ofSettings "engine_port: $ENGINE_PORT\n") .settings
        (ConfigFile.named "engine_port" .enginePort) :=
    ConfigFile.holds_ofSettings (by decide +kernel)
  have hEmpty :
      ConfigFile.Holds (.ofSettings "{}\n") .settings [] :=
    ConfigFile.holds_ofSettings (by decide +kernel)
  have hPlain : SpellsPort (readInteger " 8_080".toList) :=
    ⟨8080, by decide +kernel, by decide, by decide⟩
  have hLoose : SpellsPort (integerOfText " 8_080".toList) :=
    ⟨8080, by decide +kernel, by decide, by decide⟩
  refine ⟨by decide +kernel, ?_⟩
  apply (routes_agree_iff (s := .enginePort) (v := " 8_080")
    (by decide) rfl hNamed hEmpty).1.mpr
  exact Or.inl ⟨by decide, iff_of_true hPlain hLoose⟩

/- A flag that only a file takes for one is read unlike. -/
theorem not_routes_agree :
    ConfigFile.load [("NO_REGISTRY", "t")]
        (.ofSettings "NO_REGISTRY: $NO_REGISTRY\n")
        .settings =
      .ok { Config.usual with noRegistry := true } ∧
    ConfigFile.load [("NO_REGISTRY", "t")]
        (.ofSettings "{}\n") .settings =
      .ok Config.usual ∧
    ¬ Config.SameOutcome
      (ConfigFile.load [("NO_REGISTRY", "t")]
        (.ofSettings "NO_REGISTRY: $NO_REGISTRY\n")
        .settings)
      (ConfigFile.load [("NO_REGISTRY", "t")]
        (.ofSettings "{}\n") .settings) := by
  have hFile :
      ConfigFile.load [("NO_REGISTRY", "t")]
          (.ofSettings "NO_REGISTRY: $NO_REGISTRY\n")
          .settings =
        .ok { Config.usual with noRegistry := true } := by
    decide +kernel
  have hDefault :
      ConfigFile.load [("NO_REGISTRY", "t")]
          (.ofSettings "{}\n") .settings =
        .ok Config.usual := by
    decide +kernel
  refine ⟨hFile, hDefault, ?_⟩
  intro hSame
  have hBoth := (hSame _).mp hFile
  rw [hDefault] at hBoth
  exact absurd hBoth (by decide)

end ContainerBuild
