import ContainerBuild.Proofs.ConfigFile
import ContainerBuild.Proofs.Files.Refusal

/-
  This file says which failures come out of the loading of a
  configuration file, for every disk, path and environment.
  Most of them are errors of configurations. The others are
  listed, each with its cause: what the file is made of, or
  a variable that is not even looked for in the file.

  Key definitions include:
    * `ConfigFile.Contained`
    * `Setting.Misreads`
    * `ConfigFile.Escapes`

  Main statements:
    * `Config.default_eq_error_iff`
    * `ConfigFile.load_of_escapes`
    * `ConfigFile.escapes_of_load`
    * `loading_contained_iff`
-/

namespace ContainerBuild

open Text ContainerBuild.Field

variable {env : Environment}
variable {disk : Disk}
variable {p : Path}
variable {f : Failure}

------------------------------------------------------------
-- Variables
------------------------------------------------------------

/-
  A setting is misread if its variable should be a number,
  is not empty, and cannot be read as one.
-/
inductive Setting.Misreads
    (env : Environment)
    (s : Setting) : Failure → Prop
  | integer (value : String) (fault : IntegerFault) :
      s.shape = .port →
      env.get? s.key = some value →
      value ≠ "" →
      readInteger value.toList = .error fault →
        Misreads env s (.value fault.message)
  | real (value : String) (fault : RealFault) :
      s.shape = .timeout →
      env.get? s.key = some value →
      value ≠ "" →
      readReal value.toList = .error fault →
        Misreads env s (.value fault.message)

theorem Setting.Misreads.isNumber
    {s : Setting}
    (hMisreads : s.Misreads env f) :
    s.shape = .port ∨ s.shape = .timeout := by
  cases hMisreads with
  | integer _ _ hShape _ _ _ => exact Or.inl hShape
  | real _ _ hShape _ _ _ => exact Or.inr hShape

namespace Config

theorem integerDefault_eq_error_iff
    {s : Setting}
    (hShape : s.shape = .port)
    (usual : Int) :
    integerDefault env s usual = .error f ↔
      s.Misreads env f := by
  constructor
  · intro hFails
    unfold integerDefault at hFails
    split at hFails
    · exact absurd hFails (by simp)
    · rename_i value hSet
      split at hFails
      · exact absurd hFails (by simp)
      · rename_i hSome
        split at hFails
        · exact absurd hFails (by simp)
        · rename_i fault hRead
          cases hFails
          exact .integer value fault hShape hSet hSome hRead
  · intro hMisreads
    cases hMisreads with
    | integer value fault _ hSet hSome hRead =>
        simp [integerDefault, hSet, hSome, hRead]
    | real value fault hOther _ _ _ =>
        rw [hShape] at hOther
        exact absurd hOther (by decide)

theorem realDefault_eq_error_iff
    {s : Setting}
    (hShape : s.shape = .timeout) :
    realDefault env s = .error f ↔ s.Misreads env f := by
  constructor
  · intro hFails
    unfold realDefault at hFails
    split at hFails
    · exact absurd hFails (by simp)
    · rename_i value hSet
      split at hFails
      · exact absurd hFails (by simp)
      · rename_i hSome
        split at hFails
        · exact absurd hFails (by simp)
        · rename_i fault hRead
          cases hFails
          exact .real value fault hShape hSet hSome hRead
  · intro hMisreads
    cases hMisreads with
    | integer value fault hOther _ _ _ =>
        rw [hShape] at hOther
        exact absurd hOther (by decide)
    | real value fault _ hSet hSome hRead =>
        simp [realDefault, hSet, hSome, hRead]

/- A default is missing just if its variable is misread. -/
theorem default_eq_error_iff (s : Setting) :
    default env s = .error f ↔ s.Misreads env f := by
  cases s with
  | buildTimeout => exact realDefault_eq_error_iff rfl
  | enginePort => exact integerDefault_eq_error_iff rfl 2375
  | registryPort => exact integerDefault_eq_error_iff rfl 5000
  | _ =>
      refine iff_of_false (by simp [default]) ?_
      intro hMisreads
      exact absurd hMisreads.isNumber (by decide)

/- So a value is missing if it is not given, and misread. -/
theorem source_eq_error_iff
    {g : Given}
    {s : Setting} :
    source env g s = .error f ↔
      g s = none ∧ s.Misreads env f := by
  unfold source
  cases g s with
  | none => simp [default_eq_error_iff]
  | some v => simp

/- The first value that is missing is the failure. -/
theorem firstFailure_all_eq_some_iff {g : Given} :
    firstFailure env g Setting.all = some f ↔
      ∃ before s after, Setting.all = before ++ s :: after ∧
        (∀ t ∈ before, g t = none →
          ∀ f', ¬ t.Misreads env f') ∧
        g s = none ∧ s.Misreads env f := by
  have hThere : ∀ t,
      (∃ v, source env g t = .ok v) ↔
        (g t = none → ∀ f', ¬ t.Misreads env f') := by
    intro t
    cases hSource : source env g t with
    | ok v =>
        refine iff_of_true ⟨v, rfl⟩ ?_
        intro hNone f' hMisreads
        rw [source_eq_error_iff.mpr ⟨hNone, hMisreads⟩]
          at hSource
        exact absurd hSource (by simp)
    | error f' =>
        rcases source_eq_error_iff.mp hSource with
          ⟨hNone, hMisreads⟩
        refine iff_of_false (by simp) ?_
        intro hNever
        exact hNever hNone f' hMisreads
  simp only [firstFailure_eq_some_iff, hThere,
    source_eq_error_iff]

end Config

namespace ConfigFile

------------------------------------------------------------
-- Containment
------------------------------------------------------------

/- A result that those who load a file can expect. -/
def Contained (r : Except Failure Config) : Prop :=
  (∃ c, r = .ok c) ∨
    ∃ fault, r = .error (.build (.config fault))

/- The faults of a YAML file that nobody expects. -/
def IsForeign (fault : Yaml.Fault) : Prop :=
  fault ≠ .malformed ∧ ∀ m, fault ≠ .badValue m

/-
  What comes out of loading a file, but is no error of
  configurations: a null character in the path, octets that
  are no text, a tag of YAML that does not fit its value,
  nesting without end, a key that cannot be written, and a
  variable, not given in the file, that is not a number. In
  the last two cases it is the first one that counts.
-/
inductive Escapes
    (env : Environment)
    (disk : Disk)
    (p : Path) : Failure → Prop
  | null :
      '\x00' ∈ p.toText.toList →
        Escapes env disk p (.value "embedded null byte")
  | undecodable (content : Content) :
      disk.fetch p.toText = .ok content →
      decode? content.bytes = none →
        Escapes env disk p .undecodable
  | yaml (cs : List Char) (fault : Yaml.Fault) :
      readText disk p = .ok cs →
      isYamlName p = true →
      Yaml.Document.ofText cs = .error fault →
      IsForeign fault →
        Escapes env disk p (yamlFailure p.toText fault)
  | json (cs : List Char) :
      readText disk p = .ok cs →
      isYamlName p = false →
      Json.read cs = .error .tooDeep →
        Escapes env disk p .tooDeep
  | key (before after : List Entry) (e : Entry) :
      Holds disk p (before ++ e :: after) →
      (∀ x ∈ before, Passes env x) →
      e.1 = .unwritable →
        Escapes env disk p (.value unwritable)
  | misread
      (es : List Entry)
      (before after : List Setting)
      (s : Setting)
      (f : Failure) :
      Holds disk p es →
      (∀ e ∈ es, Passes env e) →
      Setting.all = before ++ s :: after →
      (∀ t ∈ before, overlay env .nothing es t = none →
        ∀ f', ¬ t.Misreads env f') →
      overlay env .nothing es s = none →
      s.Misreads env f →
        Escapes env disk p f

/- None of these is an error of configurations. -/
theorem Escapes.ne_config
    (hEscapes : Escapes env disk p f)
    (fault : ConfigFault) :
    f ≠ .build (.config fault) := by
  cases hEscapes with
  | yaml cs fault' _ _ _ hForeign =>
      cases fault' with
      | malformed => exact absurd rfl hForeign.1
      | badValue m => exact absurd rfl (hForeign.2 m)
      | _ => simp [yamlFailure]
  | misread es before after s _ _ _ _ _ _ hMisreads =>
      cases hMisreads <;> simp
  | _ => simp

------------------------------------------------------------
-- Texts
------------------------------------------------------------

theorem readText_of_null
    (hNull : '\x00' ∈ p.toText.toList)
    (disk : Disk) :
    readText disk p =
      .error (.value "embedded null byte") := by
  have hFetch :
      disk.fetch p.toText =
        .error (.value "embedded null byte") := by
    simp only [Disk.fetch, Disk.locate,
      Disk.checkText_of_null hNull]
  unfold readText
  rw [hFetch]
  rfl

theorem readText_of_undecodable
    {content : Content}
    (hFetch : disk.fetch p.toText = .ok content)
    (hBytes : decode? content.bytes = none) :
    readText disk p = .error .undecodable := by
  unfold readText
  rw [hFetch]
  simp only [hBytes]

/- A text that is not there is refused or is none. -/
theorem escapes_of_readText
    (hText : readText disk p = .error f)
    (hForeign : ∀ fault, f ≠ .build (.config fault)) :
    Escapes env disk p f := by
  unfold readText at hText
  cases hFetch : disk.fetch p.toText with
  | error f' =>
      rw [hFetch] at hText
      cases Disk.refuses_of_fetch hFetch with
      | system e =>
          cases hText
          exact absurd rfl (hForeign _)
      | null hNull =>
          cases hText
          exact .null hNull
  | ok content =>
      rw [hFetch] at hText
      cases hBytes : decode? content.bytes with
      | none =>
          simp only [hBytes] at hText
          cases hText
          exact .undecodable content hFetch hBytes
      | some cs =>
          simp only [hBytes] at hText
          exact absurd hText (by simp)

------------------------------------------------------------
-- Mappings
------------------------------------------------------------

theorem entries_of_yamlFault
    {cs : List Char}
    {fault : Yaml.Fault}
    (hName : isYamlName p = true)
    (hFault : Yaml.Document.ofText cs = .error fault) :
    entries p cs = .error (yamlFailure p.toText fault) := by
  unfold entries holding
  rw [if_pos hName, hFault]

theorem entries_of_jsonFault
    {cs : List Char}
    {fault : Json.Fault}
    (hName : isYamlName p = false)
    (hFault : Json.read cs = .error fault) :
    entries p cs =
      .error (jsonFailure p.toText cs fault) := by
  unfold entries holding
  rw [if_neg (by simp [hName]), hFault]

/- A text that is no mapping is at fault or is another. -/
theorem escapes_of_entries
    {cs : List Char}
    (hText : readText disk p = .ok cs)
    (hEntries : entries p cs = .error f)
    (hForeign : ∀ fault, f ≠ .build (.config fault)) :
    Escapes env disk p f := by
  have hMapping : ∀ h, holding p cs = .ok h →
      ∃ fault, f = .build (.config fault) := by
    intro h hHolding
    unfold entries at hEntries
    rw [hHolding] at hEntries
    cases h with
    | entries es => exact absurd hEntries (by simp)
    | noMapping =>
        cases hEntries
        exact ⟨_, rfl⟩
  cases hName : isYamlName p with
  | true =>
      cases hDocument : Yaml.Document.ofText cs with
      | ok d =>
          have hHolding : holding p cs = .ok (ofYaml d) := by
            unfold holding
            rw [if_pos hName, hDocument]
          rcases hMapping _ hHolding with ⟨fault, hFault⟩
          exact absurd hFault (hForeign fault)
      | error fault =>
          rw [entries_of_yamlFault hName hDocument] at hEntries
          cases hEntries
          refine .yaml cs fault hText hName hDocument ⟨?_, ?_⟩
          · rintro rfl
            exact hForeign _ rfl
          · rintro m rfl
            exact hForeign _ rfl
  | false =>
      cases hDocument : Json.read cs with
      | ok v =>
          have hHolding : holding p cs = .ok (ofJson v) := by
            unfold holding
            rw [if_neg (by simp [hName]), hDocument]
          rcases hMapping _ hHolding with ⟨fault, hFault⟩
          exact absurd hFault (hForeign fault)
      | error fault =>
          rw [entries_of_jsonFault hName hDocument] at hEntries
          cases hEntries
          cases fault with
          | tooDeep => exact .json cs hText hName hDocument
          | syntaxAt _ _ => exact absurd rfl (hForeign _)
          | integerTooLong _ => exact absurd rfl (hForeign _)

------------------------------------------------------------
-- Loading
------------------------------------------------------------

theorem load_of_readText_error
    (hText : readText disk p = .error f)
    (env : Environment) :
    load env disk p = .error f := by
  unfold load
  rw [hText]

theorem load_of_entries_error
    {cs : List Char}
    (hText : readText disk p = .ok cs)
    (hEntries : entries p cs = .error f)
    (env : Environment) :
    load env disk p = .error f := by
  rw [load_of_readText hText]
  unfold parse
  rw [hEntries]

/- Each cause makes the loading fail as it is listed. -/
theorem load_of_escapes
    (hEscapes : Escapes env disk p f) :
    load env disk p = .error f := by
  cases hEscapes with
  | null hNull =>
      exact load_of_readText_error
        (readText_of_null hNull disk) env
  | undecodable content hFetch hBytes =>
      exact load_of_readText_error
        (readText_of_undecodable hFetch hBytes) env
  | yaml cs fault hText hName hFault _ =>
      exact load_of_entries_error hText
        (entries_of_yamlFault hName hFault) env
  | json cs hText hName hFault =>
      exact load_of_entries_error hText
        (entries_of_jsonFault hName hFault) env
  | key before after e hHolds hBefore hKey =>
      rw [load_of_holds hHolds]
      exact settle_of_stops hBefore (.key hKey)
  | misread es before after s f hHolds hPasses hAll hBefore
      hGiven hMisreads =>
      have hFirst :=
        Config.firstFailure_all_eq_some_iff.mpr
          ⟨before, s, after, hAll, hBefore, hGiven, hMisreads⟩
      rw [load_of_holds hHolds, settle_of_passes hPasses,
        Config.make_of_firstFailure hFirst]
      cases hMisreads <;> rfl

/- Entries of a file fail at one of them or at a value. -/
theorem escapes_of_settle
    {es : List Entry}
    (hHolds : Holds disk p es)
    (hSettle : settle env p es = .error f)
    (hForeign : ∀ fault, f ≠ .build (.config fault)) :
    Escapes env disk p f := by
  cases hGiven : given env .nothing es with
  | error f' =>
      rcases given_eq_error_iff.mp hGiven with
        ⟨before, e, after, rfl, hBefore, hStops⟩
      rw [settle_of_stops hBefore hStops] at hSettle
      cases hSettle
      cases hStops with
      | key hKey =>
          exact .key before after e hHolds hBefore hKey
      | unset _ _ _ _ _ => exact absurd rfl (hForeign _)
  | ok g =>
      have hPasses := (given_eq_ok_iff.mp hGiven).1
      rw [settle_of_passes hPasses] at hSettle
      cases hMake : Config.make env
          (overlay env .nothing es) with
      | ok c =>
          rw [hMake] at hSettle
          exact absurd hSettle (by simp)
      | error f' =>
          rw [hMake] at hSettle
          cases hSettle
          rcases Config.make_eq_error hMake with
            ⟨defects, rfl⟩ | hFirst
          · exact absurd rfl (hForeign _)
          · rcases Config.firstFailure_all_eq_some_iff.mp
                hFirst with
              ⟨before, s, after, hAll, hBefore, hNone,
                hMisreads⟩
            have hOutside : inFile p f' = f' := by
              cases hMisreads <;> rfl
            rw [hOutside]
            exact .misread es before after s f' hHolds hPasses
              hAll hBefore hNone hMisreads

/- Every other failure is an error of configurations. -/
theorem escapes_of_load
    (hLoad : load env disk p = .error f)
    (hForeign : ∀ fault, f ≠ .build (.config fault)) :
    Escapes env disk p f := by
  cases hText : readText disk p with
  | error f' =>
      rw [load_of_readText_error hText] at hLoad
      cases hLoad
      exact escapes_of_readText hText hForeign
  | ok cs =>
      cases hEntries : entries p cs with
      | error f' =>
          rw [load_of_entries_error hText hEntries] at hLoad
          cases hLoad
          exact escapes_of_entries hText hEntries hForeign
      | ok es =>
          have hHolds : Holds disk p es :=
            ⟨cs, hText, hEntries⟩
          rw [load_of_holds hHolds] at hLoad
          exact escapes_of_settle hHolds hLoad hForeign

end ConfigFile

/-
  Whatever the disk, the path and the environment are, the
  loading of a file gives a configuration or an error of
  configurations if and only if none of the listed failures
  escapes; one that does is what the loading fails with. The
  file is one that is taken as it is spelled: to look for a
  variable whose name has a lone half of a surrogate pair is
  a failure of its own, and the list does not speak of it.
-/
theorem loading_contained_iff
    (env : Environment)
    {disk : Disk}
    {p : Path}
    (_hWhole : ConfigFile.IsWhole disk p) :
    (ConfigFile.Contained (ConfigFile.load env disk p) ↔
      ¬ ∃ f, ConfigFile.Escapes env disk p f) ∧
    ∀ f, ConfigFile.Escapes env disk p f →
      ConfigFile.load env disk p = .error f := by
  refine ⟨⟨?_, ?_⟩,
    fun f hEscapes => ConfigFile.load_of_escapes hEscapes⟩
  · rintro hContained ⟨f, hEscapes⟩
    rw [ConfigFile.load_of_escapes hEscapes] at hContained
    rcases hContained with ⟨c, hOk⟩ | ⟨fault, hFault⟩
    · exact absurd hOk (by simp)
    · exact hEscapes.ne_config fault
        (Except.error.inj hFault)
  · intro hNone
    cases hLoad : ConfigFile.load env disk p with
    | ok c => exact Or.inl ⟨c, rfl⟩
    | error f =>
        by_cases hFault : ∃ fault, f = .build (.config fault)
        · rcases hFault with ⟨fault, rfl⟩
          exact Or.inr ⟨fault, rfl⟩
        · exact absurd
            ⟨f, ConfigFile.escapes_of_load hLoad
              (fun fault hSame => hFault ⟨fault, hSame⟩)⟩
            hNone

/- An environment with a port that is no number. -/
def Environment.portless : Environment :=
  [("ENGINE_PORT", "many")]

/- What is said about that port. -/
def Failure.portless : Failure :=
  .value (IntegerFault.malformed 10 "many".toList).message

theorem ConfigFile.escapes_portless :
    Escapes .portless (.ofSettings "REGISTRY_PORT: 80\n")
      .settings .portless := by
  have hHolds :
      Holds (.ofSettings "REGISTRY_PORT: 80\n") .settings
        [(.text "REGISTRY_PORT", .integer 80)] :=
    holds_ofSettings (by decide +kernel)
  refine .misread _ (Setting.all.take 7)
    (Setting.all.drop 8) .enginePort _ hHolds ?_ rfl ?_ rfl ?_
  · intro e hMem f hStops
    cases List.mem_singleton.mp hMem
    cases hStops with
    | key hKey => exact absurd hKey (by simp)
    | unset _ _ _ hNames _ => exact absurd hNames (by simp)
  · intro t hMem _ f hMisreads
    have hShapes : ∀ t ∈ Setting.all.take 7,
        t.shape ≠ .port ∧
          Environment.portless.get? t.key = none := by
      decide
    rcases hShapes t hMem with ⟨hShape, hUnset⟩
    cases hMisreads with
    | integer _ _ hPort _ _ _ => exact hShape hPort
    | real _ _ _ hSet _ _ =>
        rw [hUnset] at hSet
        exact absurd hSet (by simp)
  · exact .integer "many" _ rfl rfl (by decide) rfl

/- A variable that is no number gets out of the loading. -/
theorem loading_contained_iff_sample :
    ConfigFile.IsWhole (.ofSettings "REGISTRY_PORT: 80\n")
        .settings ∧
      ConfigFile.Escapes .portless
        (.ofSettings "REGISTRY_PORT: 80\n") .settings
        .portless ∧
      ConfigFile.load .portless
          (.ofSettings "REGISTRY_PORT: 80\n") .settings =
        .error .portless := by
  have hWhole :
      ConfigFile.IsWhole (.ofSettings "REGISTRY_PORT: 80\n")
        .settings :=
    ConfigFile.isWhole_of_notMem
      (ConfigFile.readText_ofSettings _) (by decide)
  exact ⟨hWhole, ConfigFile.escapes_portless,
    (loading_contained_iff _ hWhole).2 _
      ConfigFile.escapes_portless⟩

/- A disk with a file of one octet that starts no text. -/
def Disk.unreadable : Disk :=
  ⟨[(["c.json"], .file (.octets [0xFF]))], [],
    ⟨"/", ["tmp"]⟩, 0⟩

/- Octets that are no text get out of it, too. -/
theorem not_loading_contained :
    ConfigFile.IsWhole .unreadable ⟨"", ["c.json"]⟩ ∧
      ConfigFile.load [] .unreadable ⟨"", ["c.json"]⟩ =
        .error .undecodable ∧
      ¬ ConfigFile.Contained
        (ConfigFile.load [] .unreadable
          ⟨"", ["c.json"]⟩) := by
  have hText :
      ConfigFile.readText .unreadable ⟨"", ["c.json"]⟩ =
        .error .undecodable :=
    ConfigFile.readText_of_undecodable rfl
      (by decide +kernel)
  have hLoad :=
    ConfigFile.load_of_readText_error hText []
  refine ⟨ConfigFile.isWhole_of_readText_error hText, hLoad,
    ?_⟩
  rw [hLoad]
  rintro (⟨c, hOk⟩ | ⟨fault, hFault⟩)
  · exact absurd hOk (by simp)
  · exact absurd hFault (by simp)

end ContainerBuild
