import ContainerBuild.Proofs.Files.Change

/-
  This file says what becomes of a new file: it is made where
  there was nothing, and writing or discarding it later
  changes nothing else.

  Key definitions include:
    * `Disk.HasNewFile`

  Main statements:
    * `Disk.exists_newFile`
    * `Disk.HasNewFile.store`
    * `Disk.HasNewFile.discard`
-/

namespace ContainerBuild

namespace Disk

variable {d d' : Disk}
variable {p : Path}
variable {l : Location}
variable {ending : String}

theorem entry?_remove
    (hBelow : l ≠ [])
    (d : Disk)
    (m : Location) :
    Disk.entry? (d.remove l) m =
      if m = l then none else d.entry? m := by
  unfold entry? remove withEntries
  by_cases hRoot : m = []
  · simp [hRoot, Ne.symm hBelow]
  · simp only [if_neg hRoot,
      find?_filter_location (fun x => x != l)]
    by_cases hHere : m = l
    · simp [hHere]
    · have hOther : (m != l) = true := by simpa using hHere
      simp [hHere, hOther]

/-
  A path leads to a file that was not there before, and that
  is all that changed.
-/
structure HasNewFile
    (p : Path)
    (l : Location)
    (content : Content)
    (d d' : Disk) : Prop where
  fresh : d.entry? l = none
  located : d'.locate p.toText = .ok l
  made : d'.entry? l = some (.file content)
  other : ∀ m, m ≠ l → d'.entry? m = d.entry? m

theorem HasNewFile.ne_nil
    {content : Content}
    (hFile : HasNewFile p l content d d') :
    l ≠ [] := by
  rintro rfl
  exact absurd hFile.fresh (by simp)

/- A temporary file is made as a new one, if it is made. -/
theorem exists_newFile
    (hEnding : '/' ∉ ending.toList)
    (hMake : makeTemporaryFile ending d = (.ok p, d')) :
    ∃ l, HasNewFile p l (.octets []) d d' := by
  rcases makeFresh_eq_ok hEnding hMake with
    ⟨name, n, l, _, _, rfl, hLocate, hNone, rfl⟩
  have hBelow : l ≠ [] := by
    rintro rfl
    exact absurd hNone (by simp)
  refine ⟨l, hNone, ?_, ?_, ?_⟩
  · have hSame :
        Disk.entry? (d.withSerial n) l = d.entry? l :=
      rfl
    exact (keepsDirectories_put (by simp [hSame, hNone])
      _).locate hLocate
  · rw [entry?_put hBelow, if_pos rfl]
  · intro m hOther
    rw [entry?_put hBelow, if_neg hOther]
    rfl

/- Otherwise everything is as before. -/
theorem entry?_of_makeTemporaryFile
    {f : Failure}
    (hMake : makeTemporaryFile ending d = (.error f, d'))
    (m : Location) :
    d'.entry? m = d.entry? m := by
  rcases makeFresh_eq_error hMake with ⟨n, rfl⟩
  rfl

/- A new file can be written, whatever is written. -/
theorem HasNewFile.store
    {content : Content}
    (hFile : HasNewFile p l content d d')
    (c : Content) :
    ∃ d'',
      Disk.store p.toText c d' = (.ok (), d'') ∧
        HasNewFile p l c d d'' := by
  refine ⟨d'.put l (.file c), ?_, hFile.fresh, ?_, ?_, ?_⟩
  · simp only [Disk.store, hFile.located, hFile.made]
  · exact (keepsDirectories_put (by simp [hFile.made])
      _).locate hFile.located
  · rw [entry?_put hFile.ne_nil, if_pos rfl]
  · intro m hOther
    rw [entry?_put hFile.ne_nil, if_neg hOther,
      hFile.other m hOther]

/- Discarding it brings back what was there before. -/
theorem HasNewFile.discard
    {content : Content}
    (hFile : HasNewFile p l content d d') :
    ∃ d'',
      Disk.discard p.toText d' = (.ok (), d'') ∧
        ∀ m, d''.entry? m = d.entry? m := by
  refine ⟨d'.remove l, ?_, ?_⟩
  · simp only [Disk.discard, hFile.located, hFile.made]
  · intro m
    rw [entry?_remove hFile.ne_nil]
    by_cases hHere : m = l
    · rw [if_pos hHere, hHere, hFile.fresh]
    · rw [if_neg hHere, hFile.other m hHere]

end Disk

end ContainerBuild
