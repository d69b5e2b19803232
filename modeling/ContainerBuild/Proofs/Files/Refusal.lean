import ContainerBuild.Proofs.Action
import ContainerBuild.Proofs.Files.Change
import ContainerBuild.Staging

/-
  This file says how the actions of a disk fail: with an
  error of the system, or, if and only if a path contains
  one, at a null character. So does making a directory for a
  context.

  Key definitions include:
    * `Disk.Refuses`

  Main statements:
    * `Disk.makeDirectories_failsOnly`
    * `Disk.copyFile_failsOnly`
    * `Disk.makeDirectories_of_null`
    * `Disk.copyFile_of_null`
    * `Staging.refuses_of_newDirectory`
-/

namespace ContainerBuild

namespace Disk

/-
  The ways in which an access fails: the system refuses it,
  or its path contains a null character, if it may do so.
-/
inductive Refuses (mayHold : Prop) : Failure → Prop
  | system (e : SystemError) : Refuses mayHold (.system e)
  | null :
      mayHold → Refuses mayHold (.value "embedded null byte")

variable {d : Disk}
variable {path : String}
variable {f : Failure}

theorem Refuses.mono
    {mayHold mayHold' : Prop}
    (hRefuses : Refuses mayHold f)
    (hWithin : mayHold → mayHold') :
    Refuses mayHold' f := by
  cases hRefuses with
  | system e => exact .system e
  | null hHolds => exact .null (hWithin hHolds)

/- Without a null character the system tells the reason. -/
theorem Refuses.exists_system
    {mayHold : Prop}
    (hRefuses : Refuses mayHold f)
    (hFree : ¬ mayHold) :
    ∃ e, f = .system e := by
  cases hRefuses with
  | system e => exact ⟨e, rfl⟩
  | null hHolds => exact absurd hHolds hFree

------------------------------------------------------------
-- Looking
------------------------------------------------------------

theorem refuses_of_checkText
    (hCheck : checkText path = .error f) :
    Refuses ('\x00' ∈ path.toList) f := by
  unfold checkText at hCheck
  split at hCheck
  · rename_i hNull
    cases hCheck
    exact .null (by simpa using hNull)
  · exact absurd hCheck (by simp)

theorem refuses_of_locate
    (hLocate : d.locate path = .error f) :
    Refuses ('\x00' ∈ path.toList) f := by
  unfold locate at hLocate
  split at hLocate
  · rename_i hCheck
    cases hLocate
    exact refuses_of_checkText hCheck
  · split at hLocate
    · cases hLocate
      exact .system _
    · exact absurd hLocate (by simp)

theorem refuses_of_fetch
    (hFetch : d.fetch path = .error f) :
    Refuses ('\x00' ∈ path.toList) f := by
  unfold fetch at hFetch
  split at hFetch
  · rename_i hLocate
    cases hFetch
    exact refuses_of_locate hLocate
  · split at hFetch
    · cases hFetch
      exact .system _
    · cases hFetch
      exact .system _
    · exact absurd hFetch (by simp)

theorem exists_message_of_fetch
    (hText : '\x00' ∉ path.toList)
    (hFetch : d.fetch path = .error f) :
    ∃ m, f.systemMessage? = some m := by
  rcases (refuses_of_fetch hFetch).exists_system hText with
    ⟨e, rfl⟩
  exact ⟨_, rfl⟩

------------------------------------------------------------
-- Changing
------------------------------------------------------------

theorem store_failsOnly
    (path : String)
    (c : Content) :
    (store path c).FailsOnly
      (Refuses ('\x00' ∈ path.toList)) := by
  intro d f hError
  unfold store at hError
  split at hError
  · rename_i hLocate
    cases hError
    exact refuses_of_locate hLocate
  · split at hError
    · cases hError
      exact .system _
    · exact absurd hError (by simp)

theorem copyFile_failsOnly
    (source target : String) :
    (copyFile source target).FailsOnly
      (Refuses
        ('\x00' ∈ source.toList ∨
          '\x00' ∈ target.toList)) := by
  intro d f hError
  unfold copyFile at hError
  split at hError
  · rename_i hCheck
    cases hError
    exact (refuses_of_checkText hCheck).mono Or.inl
  · rename_i hCheck
    cases hError
    exact (refuses_of_checkText hCheck).mono Or.inr
  · extract_lets same at hError
    split at hError
    · cases hError
      exact .system _
    · split at hError
      · rename_i hFetch
        cases hError
        exact (refuses_of_fetch hFetch).mono Or.inl
      · exact (store_failsOnly _ _ _ _ hError).mono Or.inr

theorem makeNew_failsOnly
    (e : Entry)
    (path : String) :
    (makeNew e path).FailsOnly
      (Refuses ('\x00' ∈ path.toList)) := by
  intro d f hError
  unfold makeNew at hError
  split at hError
  · rename_i hLocate
    cases hError
    exact refuses_of_locate hLocate
  · split at hError
    · cases hError
      exact .system _
    · exact absurd hError (by simp)

theorem ensureDirectory_failsOnly (path : String) :
    (ensureDirectory path).FailsOnly
      (Refuses ('\x00' ∈ path.toList)) := by
  intro d f hError
  have hMake :
      ∀ g, (makeDirectory path d).1 = .error g →
        Refuses ('\x00' ∈ path.toList) g :=
    makeNew_failsOnly .directory path d
  unfold ensureDirectory at hError
  cases hRun : makeDirectory path d with
  | mk r d' =>
      rw [hRun] at hError hMake
      cases r with
      | ok _ => exact absurd hError (by simp)
      | error g =>
          have hSame : g = f := by
            cases hMessage : g.systemMessage? with
            | none =>
                simp only [hMessage] at hError
                exact Except.error.inj hError
            | some m =>
                simp only [hMessage] at hError
                split at hError
                · exact absurd hError (by simp)
                · exact Except.error.inj hError
          exact hSame ▸ hMake g rfl

theorem ensureAbove_failsOnly
    (fuel : Nat)
    (p : Path) :
    (ensureAbove fuel p).FailsOnly
      (Refuses ('\x00' ∈ p.toText.toList)) := by
  induction fuel generalizing p with
  | zero =>
      rw [ensureAbove_zero]
      exact ensureDirectory_failsOnly _
  | succ n ih =>
      intro d f hError
      rcases hHere : ensureDirectory p.toText d with
        ⟨r, d'⟩
      cases r with
      | ok _ =>
          rw [ensureAbove_of_ok hHere] at hError
          exact absurd hError (by simp)
      | error g =>
          rw [ensureAbove_of_error hHere] at hError
          split at hError
          · have hAbove := (ih p.parent).mono
              (fun _ hRefuses =>
                hRefuses.mono Path.null_mem_of_parent)
            exact hAbove.next
              (fun _ _ => ensureDirectory_failsOnly _)
              d' f hError
          · cases hError
            exact ensureDirectory_failsOnly _ d _
              (by rw [hHere])

theorem makeDirectories_failsOnly (p : Path) :
    (makeDirectories p).FailsOnly
      (Refuses ('\x00' ∈ p.toText.toList)) :=
  ensureAbove_failsOnly p.parts.length p

/- A fresh path adds no null character. -/
theorem null_mem_freshPath_iff
    (dir : Path)
    (d : Disk) :
    '\x00' ∈ (freshPath dir "" d).1.toText.toList ↔
      '\x00' ∈ dir.toText.toList := by
  rcases hSerial :
      freeSerial d dir "" (d.entries.length + 1)
        d.serial with n
  have hName := (isPlainName_temporaryName
    (by simp : '/' ∉ "".toList) n).1
  have hFree : '\x00' ∉ (temporaryName "" n).toList :=
    not_mem_temporaryName (by decide) (by decide)
      (by simp) n
  simp only [freshPath, hSerial,
    Path.ofText_of_isPlainName hName, Path.null_mem_join_iff,
    hFree, or_false]

theorem makeTemporary_failsOnly (dir : Path) :
    (makeTemporary dir).FailsOnly
      (Refuses ('\x00' ∈ dir.toText.toList)) := by
  intro d f hError
  unfold makeTemporary makeFresh at hError
  simp only at hError
  split at hError
  · exact absurd hError (by simp)
  · rename_i hMake
    cases hError
    exact (makeNew_failsOnly _ _ _ _
      (by rw [hMake])).mono
        (null_mem_freshPath_iff dir d).mp

------------------------------------------------------------
-- Null Characters
------------------------------------------------------------

section Null

variable {p dir : Path}
variable {source target : String}

theorem checkText_of_null
    (hNull : '\x00' ∈ path.toList) :
    checkText path =
      .error (.value "embedded null byte") :=
  if_pos (by simpa using hNull)

theorem checkText_of_free
    (hFree : '\x00' ∉ path.toList) :
    checkText path = .ok () :=
  if_neg (by simpa using hFree)

theorem makeNew_of_null
    (hNull : '\x00' ∈ path.toList)
    (e : Entry)
    (d : Disk) :
    makeNew e path d =
      (.error (.value "embedded null byte"), d) := by
  simp only [makeNew, locate, checkText_of_null hNull]

/- Nothing above such a directory is made. -/
theorem makeDirectories_of_null
    (hNull : '\x00' ∈ p.toText.toList)
    (d : Disk) :
    makeDirectories p d =
      (.error (.value "embedded null byte"), d) := by
  have hHere :
      ensureDirectory p.toText d =
        (.error (.value "embedded null byte"), d) := by
    simp only [ensureDirectory, makeDirectory,
      makeNew_of_null hNull, Failure.systemMessage?]
  unfold makeDirectories
  cases p.parts.length with
  | zero => rw [ensureAbove_zero, hHere]
  | succ n =>
      rw [ensureAbove_of_error hHere]
      rfl

theorem makeTemporary_of_null
    (hNull : '\x00' ∈ dir.toText.toList)
    (d : Disk) :
    (makeTemporary dir d).1 =
      .error (.value "embedded null byte") := by
  have hFresh := (null_mem_freshPath_iff dir d).mpr hNull
  rcases hPath : freshPath dir "" d with ⟨p, d'⟩
  rw [hPath] at hFresh
  unfold makeTemporary makeFresh
  rw [hPath]
  simp only [makeNew_of_null hFresh]

theorem free_of_makeTemporary
    {d' : Disk}
    (hMake : makeTemporary dir d = (.ok p, d')) :
    '\x00' ∉ p.toText.toList := by
  rcases hPath : freshPath dir "" d with ⟨q, e⟩
  unfold makeTemporary makeFresh at hMake
  rw [hPath] at hMake
  simp only at hMake
  intro hNull
  split at hMake
  · rename_i hMade
    cases hMake
    rw [makeNew_of_null hNull] at hMade
    exact absurd hMade (by simp)
  · exact absurd hMake (by simp)

/- The paths of a copy are looked at first. -/
theorem copyFile_of_null
    (hNull :
      '\x00' ∈ source.toList ∨ '\x00' ∈ target.toList)
    (d : Disk) :
    copyFile source target d =
      (.error (.value "embedded null byte"), d) := by
  by_cases hSource : '\x00' ∈ source.toList
  · simp only [copyFile, checkText_of_null hSource]
  · simp only [copyFile, checkText_of_free hSource,
      checkText_of_null (hNull.resolve_left hSource)]

end Null

end Disk

------------------------------------------------------------
-- Staging
------------------------------------------------------------

namespace Staging

/- Whose text counts is known from the state. -/
theorem refuses_of_newDirectory
    {base : Option Path}
    {d : Disk}
    {f : Failure}
    (hError : (newDirectory base d).1 = .error f) :
    Disk.Refuses
      ('\x00' ∈ (base.getD d.temporary).toText.toList) f := by
  cases base with
  | none =>
      exact Disk.makeTemporary_failsOnly d.temporary d f
        hError
  | some dir =>
      exact (Disk.makeDirectories_failsOnly dir).next
        (fun _ _ => Disk.makeTemporary_failsOnly dir) d f
        hError

end Staging

end ContainerBuild
