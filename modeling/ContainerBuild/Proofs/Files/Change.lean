import ContainerBuild.Proofs.Files.Tree

/-
  This file says how the actions of a disk change it. Making
  directories only adds them, at the places that the paths
  name; a temporary directory is made where there was
  nothing before; a file is written at one place.

  Key definitions include:
    * `Disk.Grows`
    * `Disk.OnWay`
    * `Disk.HasTemporary`

  Main statements:
    * `Disk.grows_makeDirectories`
    * `Disk.makeFresh_eq_ok`
    * `Disk.hasTemporary_of_makeTemporary`
    * `Disk.store_eq_ok`
    * `Disk.fetch_of_store`
    * `Disk.copyFile_eq_ok`
-/

namespace ContainerBuild

open Text

namespace Disk

variable {d d' d'' : Disk}

------------------------------------------------------------
-- Growth
------------------------------------------------------------

/-
  A disk that came of another one by making directories at
  some places, where there was nothing.
-/
structure Grows
    (d d' : Disk)
    (places : Location → Prop) : Prop where
  working : d'.working = d.working
  temporary : d'.temporary = d.temporary
  tree : d.IsTree → d'.IsTree
  entry :
    ∀ l, d'.entry? l = d.entry? l ∨
      (places l ∧ d.entry? l = none ∧
        d'.entry? l = some .directory)

namespace Grows

variable {places places' : Location → Prop}

theorem refl
    (d : Disk)
    (places : Location → Prop) :
    d.Grows d places :=
  ⟨rfl, rfl, id, fun _ => Or.inl rfl⟩

theorem trans
    (hFirst : d.Grows d' places)
    (hSecond : d'.Grows d'' places) :
    d.Grows d'' places where
  working := hSecond.working.trans hFirst.working
  temporary := hSecond.temporary.trans hFirst.temporary
  tree := hSecond.tree ∘ hFirst.tree
  entry := by
    intro l
    rcases hFirst.entry l with hSame | ⟨hAt, hNone, hDir⟩
    · rw [← hSame]
      exact hSecond.entry l
    · rcases hSecond.entry l with hSame | ⟨_, hNone', _⟩
      · exact Or.inr ⟨hAt, hNone, hSame.trans hDir⟩
      · rw [hDir] at hNone'
        exact absurd hNone' (by simp)

theorem mono
    (hGrows : d.Grows d' places)
    (hWithin : ∀ l, places l → places' l) :
    d.Grows d' places' where
  working := hGrows.working
  temporary := hGrows.temporary
  tree := hGrows.tree
  entry := fun l =>
    (hGrows.entry l).imp_right
      (And.imp_left (hWithin l))

theorem keepsDirectories
    (hGrows : d.Grows d' places) :
    d.KeepsDirectories d' where
  working := hGrows.working
  directory := by
    intro l hDir
    rcases hGrows.entry l with hSame | ⟨_, _, hMade⟩
    · rw [hSame, hDir]
    · exact hMade

/- A directory is made where a path leads to nothing. -/
theorem put
    {path : String}
    {l : Location}
    (hResolve : d.resolve path = .ok l)
    (hNone : d.entry? l = none) :
    d.Grows (d.put l .directory) (fun m => m = l) where
  working := rfl
  temporary := rfl
  tree := fun hTree =>
    hTree.put hResolve (by simp [hNone]) .directory
  entry := by
    have hBelow : l ≠ [] := by
      rintro rfl
      exact absurd hNone (by simp)
    intro m
    rw [entry?_put hBelow]
    by_cases hHere : m = l
    · subst hHere
      exact Or.inr ⟨rfl, hNone, if_pos rfl⟩
    · exact Or.inl (if_neg hHere)

end Grows

------------------------------------------------------------
-- Making Directories
------------------------------------------------------------

theorem makeNew_eq_ok
    {e : Entry}
    {path : String}
    (hMake : makeNew e path d = (.ok (), d')) :
    ∃ l, d.locate path = .ok l ∧ d.entry? l = none ∧
      d' = d.put l e := by
  unfold makeNew at hMake
  split at hMake
  · exact absurd hMake (by simp)
  · rename_i l hLocate
    split at hMake
    · exact absurd hMake (by simp)
    · rename_i hNone
      cases hMake
      exact ⟨l, hLocate, hNone, rfl⟩

theorem makeNew_eq_error
    {e : Entry}
    {path : String}
    {f : Failure}
    (hMake : makeNew e path d = (.error f, d')) :
    d' = d := by
  unfold makeNew at hMake
  split at hMake
  · cases hMake
    rfl
  · split at hMake
    · cases hMake
      rfl
    · exact absurd hMake (by simp)

theorem grows_makeDirectory
    {p : Path}
    (hPlain : p.IsPlain)
    (d : Disk) :
    d.Grows (makeDirectory p.toText d).2
      (fun l => l = d.place p) := by
  rcases hMake : makeDirectory p.toText d with ⟨r, d'⟩
  cases r with
  | error f =>
      rw [makeNew_eq_error hMake]
      exact Grows.refl d _
  | ok _ =>
      rcases makeNew_eq_ok hMake with
        ⟨l, hLocate, hNone, rfl⟩
      have hResolve := resolve_of_locate hLocate
      rw [← eq_place_of_resolve hPlain hResolve]
      exact Grows.put hResolve hNone

theorem ensureDirectory_snd
    (path : String)
    (d : Disk) :
    (ensureDirectory path d).2 =
      (makeDirectory path d).2 := by
  unfold ensureDirectory
  rcases makeDirectory path d with ⟨r, d'⟩
  cases r with
  | ok _ => rfl
  | error f =>
      cases hMessage : f.systemMessage? with
      | none => simp [hMessage]
      | some m => simp only [hMessage]; split <;> rfl

/- The places on the way to a path. -/
def OnWay
    (d : Disk)
    (p : Path)
    (l : Location) : Prop :=
  ∃ q, q.LeadsTo p ∧ l = d.place q

theorem OnWay.congr
    {p : Path}
    {l : Location}
    (hWorking : d'.working = d.working)
    (hWay : d'.OnWay p l) :
    d.OnWay p l := by
  rcases hWay with ⟨q, hLeads, hPlace⟩
  exact ⟨q, hLeads,
    hPlace.trans (place_congr hWorking q)⟩

theorem grows_ensureDirectory
    {p q : Path}
    (hPlain : p.IsPlain)
    (hLeads : q.LeadsTo p)
    (d : Disk) :
    d.Grows (ensureDirectory q.toText d).2
      (d.OnWay p) := by
  rw [ensureDirectory_snd]
  exact (grows_makeDirectory (hLeads.isPlain hPlain) d).mono
    (fun l hPlace => ⟨q, hLeads, hPlace⟩)

/- What grows on the way from a grown disk is on the way. -/
theorem Grows.trans_onWay
    {p : Path}
    (hFirst : d.Grows d' (d.OnWay p))
    (hSecond : d'.Grows d'' (d'.OnWay p)) :
    d.Grows d'' (d.OnWay p) :=
  hFirst.trans
    (hSecond.mono fun _ hWay =>
      hWay.congr hFirst.working)

theorem grows_ensureAbove
    {p q : Path}
    (hPlain : p.IsPlain)
    (hLeads : q.LeadsTo p)
    (fuel : Nat)
    (d : Disk) :
    d.Grows (ensureAbove fuel q d).2 (d.OnWay p) := by
  induction fuel generalizing q d with
  | zero =>
      rw [ensureAbove_zero]
      exact grows_ensureDirectory hPlain hLeads d
  | succ n ih =>
      have hGrows := grows_ensureDirectory hPlain hLeads d
      rcases hHere : ensureDirectory q.toText d with
        ⟨r, d'⟩
      rw [hHere] at hGrows
      cases r with
      | ok _ =>
          rw [ensureAbove_of_ok hHere]
          exact hGrows
      | error f =>
          rw [ensureAbove_of_error hHere]
          split
          · have hAbove := ih hLeads.parent d'
            rcases hParent : ensureAbove n q.parent d' with
              ⟨r', d''⟩
            rw [hParent] at hAbove
            have hBoth := hGrows.trans_onWay hAbove
            cases r' with
            | error g =>
                rw [Action.next_of_error hParent]
                exact hBoth
            | ok _ =>
                rw [Action.next_of_ok hParent]
                exact hBoth.trans_onWay
                  (grows_ensureDirectory hPlain hLeads d'')
          · exact hGrows

/- Directories are made on the way to a path only. -/
theorem grows_makeDirectories
    {p : Path}
    (hPlain : p.IsPlain)
    (d : Disk) :
    d.Grows (makeDirectories p d).2 (d.OnWay p) :=
  grows_ensureAbove hPlain (.refl p) p.parts.length d

------------------------------------------------------------
-- Temporary Directories
------------------------------------------------------------

theorem nameSign_mem (n : Nat) :
    nameSign n ∈ nameSigns := by
  have hAll : ∀ i : Fin 37,
      nameSigns.getD i.val '_' ∈ nameSigns := by
    decide
  exact hAll ⟨n % 37, Nat.mod_lt n (by decide)⟩

theorem mem_nameSigns_of_mem_nameDigits
    {width n : Nat}
    {c : Char}
    (hMem : c ∈ nameDigits width n) :
    c ∈ nameSigns := by
  induction width generalizing n with
  | zero => exact absurd hMem (by simp [nameDigits])
  | succ w ih =>
      rcases List.mem_append.mp hMem with hMem | hMem
      · exact ih hMem
      · exact List.mem_singleton.mp hMem ▸ nameSign_mem n

theorem toList_temporaryName
    (ending : String)
    (n : Nat) :
    (temporaryName ending n).toList =
      "imagebuild-".toList
        ++ (nameDigits 8 n ++ ending.toList) := by
  simp [temporaryName]

/- Other characters are in temporary names by their ending. -/
theorem not_mem_temporaryName
    {ending : String}
    {c : Char}
    (hStart : c ∉ "imagebuild-".toList)
    (hSigns : c ∉ nameSigns)
    (hEnding : c ∉ ending.toList)
    (n : Nat) :
    c ∉ (temporaryName ending n).toList := by
  rw [toList_temporaryName]
  simp only [List.mem_append, not_or]
  exact ⟨hStart,
    fun hMem => hSigns (mem_nameSigns_of_mem_nameDigits hMem),
    hEnding⟩

/- Temporary names stand between slashes and do not lead up. -/
theorem isPlainName_temporaryName
    {ending : String}
    (hEnding : '/' ∉ ending.toList)
    (n : Nat) :
    Path.IsPlainName (temporaryName ending n) ∧
      temporaryName ending n ≠ ".." := by
  have hText := toList_temporaryName ending n
  have hOther :
      ∀ s : String, s.toList.head? ≠ some 'i' →
        temporaryName ending n ≠ s := by
    rintro s hHead rfl
    exact hHead (by rw [hText]; rfl)
  refine ⟨⟨?_, ?_⟩, hOther ".." (by decide)⟩
  · simp [Path.isPart, hOther "" (by decide),
      hOther "." (by decide)]
  · exact not_mem_temporaryName (by decide) (by decide)
      hEnding n

/- A fresh path has one more name, and a serial is used up. -/
theorem exists_freshPath
    {ending : String}
    (hEnding : '/' ∉ ending.toList)
    (dir : Path)
    (d : Disk) :
    ∃ name n,
      Path.IsPlainName name ∧ name ≠ ".." ∧
        freshPath dir ending d =
          (dir.join ⟨"", [name]⟩, d.withSerial n) := by
  rcases hSerial :
      freeSerial d dir ending (d.entries.length + 1)
        d.serial with n
  rcases isPlainName_temporaryName hEnding n with
    ⟨hName, hUp⟩
  refine ⟨temporaryName ending n, n + 1, hName, hUp, ?_⟩
  rw [← Path.ofText_of_isPlainName hName]
  simp only [freshPath, hSerial]

/-
  A directory that was made within another one, where there
  was nothing before.
-/
structure HasTemporary
    (dir p : Path)
    (d d' : Disk) : Prop where
  path :
    ∃ name, Path.IsPlainName name ∧ name ≠ ".." ∧
      p = dir.join ⟨"", [name]⟩
  way :
    ∀ q, q.LeadsTo dir →
      d.entry? (d.place q) = some .directory
  fresh : d.entry? (d.place p) = none
  found : d'.resolve p.toText = .ok (d.place p)
  made : d'.entry? (d.place p) = some .directory
  grows : d.Grows d' (fun l => l = d.place p)

theorem grows_withSerial
    (n : Nat)
    (d : Disk)
    (places : Location → Prop) :
    d.Grows (d.withSerial n) places :=
  ⟨rfl, rfl, id, fun _ => Or.inl rfl⟩

theorem place_withSerial
    (n : Nat)
    (d : Disk)
    (p : Path) :
    (d.withSerial n).place p = d.place p :=
  place_congr rfl p

/- What is made at a new path is put where nothing was. -/
theorem makeFresh_eq_ok
    {e : Entry}
    {dir p : Path}
    {ending : String}
    (hEnding : '/' ∉ ending.toList)
    (hMake : makeFresh e dir ending d = (.ok p, d')) :
    ∃ name n l,
      Path.IsPlainName name ∧ name ≠ ".." ∧
        p = dir.join ⟨"", [name]⟩ ∧
        (d.withSerial n).locate p.toText = .ok l ∧
        d.entry? l = none ∧
        d' = (d.withSerial n).put l e := by
  rcases exists_freshPath hEnding dir d with
    ⟨name, n, hName, hUp, hFresh⟩
  unfold makeFresh at hMake
  rw [hFresh] at hMake
  simp only at hMake
  split at hMake
  · rename_i hMade
    cases hMake
    rcases makeNew_eq_ok hMade with
      ⟨l, hLocate, hNone, hPut⟩
    exact ⟨name, n, l, hName, hUp, rfl, hLocate, hNone,
      hPut⟩
  · exact absurd hMake (by simp)

theorem makeFresh_eq_error
    {e : Entry}
    {dir : Path}
    {ending : String}
    {f : Failure}
    (hMake : makeFresh e dir ending d = (.error f, d')) :
    ∃ n, d' = d.withSerial n := by
  unfold makeFresh at hMake
  simp only at hMake
  split at hMake
  · exact absurd hMake (by simp)
  · rename_i hMade
    cases hMake
    exact ⟨_, makeNew_eq_error hMade⟩

theorem hasTemporary_of_makeTemporary
    {dir p : Path}
    (hPlain : dir.IsPlain)
    (hMake : makeTemporary dir d = (.ok p, d')) :
    HasTemporary dir p d d' := by
  rcases makeFresh_eq_ok (by simp) hMake with
    ⟨name, n, l, hName, hUp, rfl, hLocate, hNone, rfl⟩
  have hResolve := resolve_of_locate hLocate
  have hPlainPath :
      (dir.join ⟨"", [name]⟩).IsPlain :=
    hPlain.join ⟨Or.inl rfl, by simpa using hName⟩
  have hPlace : l = d.place (dir.join ⟨"", [name]⟩) :=
    (eq_place_of_resolve hPlainPath hResolve).trans
      (place_withSerial n d _)
  have hGrows := Grows.put hResolve hNone
  have hBelow : l ≠ [] := by
    rintro rfl
    exact absurd hNone (by simp)
  subst hPlace
  exact {
    path := ⟨name, hName, hUp, rfl⟩
    way := by
      intro q hLeads
      rcases hLeads.join name with ⟨hLeads, hShort⟩
      have hDir := directory_of_resolve hPlainPath
        hResolve hLeads hShort
      rw [place_withSerial] at hDir
      exact hDir
    fresh := hNone
    found := hGrows.keepsDirectories.resolve hResolve
    made := by rw [entry?_put hBelow, if_pos rfl]
    grows := (grows_withSerial n d _).trans hGrows }

------------------------------------------------------------
-- Writing Files
------------------------------------------------------------

theorem store_eq_ok
    {path : String}
    {c : Content}
    (hStore : store path c d = (.ok (), d')) :
    ∃ l, d.locate path = .ok l ∧
      d.entry? l ≠ some .directory ∧
      d' = d.put l (.file c) := by
  unfold store at hStore
  split at hStore
  · exact absurd hStore (by simp)
  · rename_i l hLocate
    split at hStore
    · exact absurd hStore (by simp)
    · rename_i hFree
      cases hStore
      exact ⟨l, hLocate, hFree, rfl⟩

theorem copyFile_eq_ok
    {source target : String}
    (hCopy : copyFile source target d = (.ok (), d')) :
    ∃ c, d.fetch source = .ok c ∧
      store target c d = (.ok (), d') := by
  unfold copyFile at hCopy
  split at hCopy
  · exact absurd hCopy (by simp)
  · exact absurd hCopy (by simp)
  · extract_lets same at hCopy
    rcases ite_eq_iff.mp hCopy with
      ⟨_, hFail⟩ | ⟨_, hCopy⟩
    · exact absurd hFail (by simp)
    · split at hCopy
      · exact absurd hCopy (by simp)
      · rename_i c hFetch
        exact ⟨c, hFetch, hCopy⟩

theorem fetch_eq_ok_iff
    {path : String}
    {c : Content} :
    d.fetch path = .ok c ↔
      ∃ l, d.locate path = .ok l ∧
        d.entry? l = some (.file c) := by
  unfold fetch
  split
  · rename_i hLocate
    simp [hLocate]
  · rename_i l hLocate
    split <;> simp_all

theorem KeepsDirectories.locate
    (hKeeps : d.KeepsDirectories d')
    {path : String}
    {l : Location}
    (hLocate : d.locate path = .ok l) :
    d'.locate path = .ok l := by
  have hResolve :=
    hKeeps.resolve (resolve_of_locate hLocate)
  unfold Disk.locate at hLocate ⊢
  split at hLocate
  · exact absurd hLocate (by simp)
  · rename_i hText
    simp only [hResolve]

/- A file that is written takes the place of no directory. -/
theorem keepsDirectories_put
    {l : Location}
    (hFree : d.entry? l ≠ some .directory)
    (e : Entry) :
    d.KeepsDirectories (d.put l e) where
  working := rfl
  directory := by
    have hBelow : l ≠ [] := by
      rintro rfl
      exact hFree (entry?_root d)
    intro m hDir
    have hOther : m ≠ l := by
      rintro rfl
      exact hFree hDir
    rw [entry?_put hBelow, if_neg hOther, hDir]

/- What was written is read again. -/
theorem fetch_of_store
    {path : String}
    {c : Content}
    (hStore : store path c d = (.ok (), d')) :
    d'.fetch path = .ok c := by
  rcases store_eq_ok hStore with ⟨l, hLocate, hFree, rfl⟩
  have hBelow : l ≠ [] := by
    rintro rfl
    exact hFree (entry?_root d)
  refine fetch_eq_ok_iff.mpr ⟨l, ?_, ?_⟩
  · exact (keepsDirectories_put hFree _).locate hLocate
  · rw [entry?_put hBelow, if_pos rfl]

/- Other files can be read as before. -/
theorem fetch_put
    {l : Location}
    (hNone : d.entry? l = none)
    (e : Entry)
    {path : String}
    {c : Content}
    (hFetch : d.fetch path = .ok c) :
    (d.put l e).fetch path = .ok c := by
  have hBelow : l ≠ [] := by
    rintro rfl
    exact absurd hNone (by simp)
  rcases fetch_eq_ok_iff.mp hFetch with
    ⟨m, hLocate, hFile⟩
  have hOther : m ≠ l := by
    rintro rfl
    rw [hNone] at hFile
    exact absurd hFile (by simp)
  refine fetch_eq_ok_iff.mpr ⟨m, ?_, ?_⟩
  · exact (keepsDirectories_put (by simp [hNone]) e).locate
      hLocate
  · rw [entry?_put hBelow, if_neg hOther, hFile]

end Disk

end ContainerBuild
