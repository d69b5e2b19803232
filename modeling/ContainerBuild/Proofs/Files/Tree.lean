import ContainerBuild.Proofs.Files.Place
import Mathlib.Data.List.Induction

/-
  This file says what is on a disk after something was put
  or removed. A disk is a tree, in which everything stands
  in a directory, and stays one.

  Key definitions include:
    * `Disk.IsTree`
    * `Disk.IsSound`

  Main statements:
    * `Disk.entry?_put`
    * `Disk.entry?_removeBelow`
    * `Disk.IsTree.none_below`
    * `Disk.IsTree.put`
    * `Disk.IsTree.removeBelow`
    * `Disk.isTree_of_entries`
-/

namespace ContainerBuild

open Text

namespace Disk

variable {d : Disk}

------------------------------------------------------------
-- Entries
------------------------------------------------------------

@[simp] theorem entry?_root (d : Disk) :
    d.entry? [] = some .directory := by
  unfold entry?
  exact if_pos rfl

/- Looking up a location among those that were kept. -/
theorem find?_filter_location
    (keep : Location → Bool)
    (es : List (Location × Entry))
    (m : Location) :
    (es.filter (fun x => keep x.1)).find?
        (fun e => e.1 = m) =
      if keep m then es.find? (fun e => e.1 = m)
      else none := by
  induction es with
  | nil => simp
  | cons e es ih =>
      cases hKeep : keep e.1 <;> by_cases hHere : e.1 = m
      · simp [hKeep, hHere ▸ hKeep, ih]
      · simp [hKeep, hHere, ih]
      · simp [hHere ▸ hKeep, hHere]
      · simp [hKeep, hHere, ih]

theorem entry?_put
    {l : Location}
    (hBelow : l ≠ [])
    (e : Entry)
    (d : Disk)
    (m : Location) :
    Disk.entry? (d.put l e) m =
      if m = l then some e else d.entry? m := by
  unfold entry? put withEntries
  by_cases hRoot : m = []
  · simp [hRoot, Ne.symm hBelow]
  · by_cases hHere : m = l
    · simp [hHere, hBelow]
    · have hOther : (m != l) = true := by simpa using hHere
      simp [hRoot, hHere, Ne.symm hHere,
        find?_filter_location (fun x => x != l), hOther]

theorem isBelow_iff
    {top l : Location} :
    isBelow top l = true ↔ top <+: l :=
  startsWith_iff

theorem entry?_removeBelow
    {top : Location}
    (hBelow : top ≠ [])
    (d : Disk)
    (m : Location) :
    Disk.entry? (d.removeBelow top) m =
      if top <+: m then none else d.entry? m := by
  unfold entry? removeBelow withEntries
  by_cases hRoot : m = []
  · simp [hRoot, hBelow]
  · simp only [if_neg hRoot,
      find?_filter_location (fun x => !isBelow top x)]
    by_cases hUnder : top <+: m
    · simp [isBelow_iff.mpr hUnder, hUnder]
    · have hApart : isBelow top m = false := by
        rw [Bool.eq_false_iff]
        exact fun hBelow => hUnder (isBelow_iff.mp hBelow)
      simp [hApart, hUnder]

------------------------------------------------------------
-- Trees
------------------------------------------------------------

/- Everything stands in a directory. -/
def IsTree (d : Disk) : Prop :=
  ∀ l name, d.entry? (l ++ [name]) ≠ none →
    d.entry? l = some .directory

namespace IsTree

theorem directory_above
    (hTree : d.IsTree)
    {top l : Location}
    (hAbove : top <+: l)
    (hProper : top ≠ l)
    (hSome : d.entry? l ≠ none) :
    d.entry? top = some .directory := by
  rcases hAbove with ⟨rest, rfl⟩
  induction rest using List.reverseRecOn with
  | nil => exact absurd (by simp) hProper
  | append_singleton rest name ih =>
      rw [← List.append_assoc] at hSome
      have hDir := hTree _ _ hSome
      by_cases hRest : rest = []
      · simpa [hRest] using hDir
      · exact ih (by simpa using hRest) (by simp [hDir])

/- Where there is nothing, there is nothing below. -/
theorem none_below
    (hTree : d.IsTree)
    {top l : Location}
    (hNone : d.entry? top = none)
    (hBelow : top <+: l) :
    d.entry? l = none := by
  by_contra hSome
  by_cases hSame : top = l
  · exact hSome (hSame ▸ hNone)
  · have hDir := hTree.directory_above hBelow hSame hSome
    rw [hNone] at hDir
    exact absurd hDir (by simp)

theorem directory_dropLast
    (hTree : d.IsTree)
    {l : Location}
    (hDir : d.entry? l = some .directory) :
    d.entry? l.dropLast = some .directory := by
  rcases List.eq_nil_or_concat l with rfl | ⟨m, name, rfl⟩
  · exact entry?_root d
  · rw [List.concat_eq_append] at hDir ⊢
    rw [List.dropLast_concat]
    exact hTree m name (by simp [hDir])

/- What a walk leads to stands in a directory. -/
theorem of_walk
    (hTree : d.IsTree)
    {here l : Location}
    {names : List String}
    (hWalk : d.walk here names = .ok l)
    (hSome : names ≠ []) :
    d.entry? l = some .directory ∨
      ∃ m name, l = m ++ [name] ∧
        d.entry? m = some .directory := by
  induction names generalizing here with
  | nil => exact absurd rfl hSome
  | cons name rest ih =>
      rcases walk_cons_iff.mp hWalk with ⟨hDir, _, hRest⟩
      by_cases hEnd : rest = []
      · subst hEnd
        have hPlace : l = further here name :=
          eq_follow_of_walk hRest
        unfold further at hPlace
        split at hPlace
        · exact Or.inl (hPlace ▸ hDir)
        · split at hPlace
          · exact Or.inl
              (hPlace ▸ hTree.directory_dropLast hDir)
          · exact Or.inr ⟨here, name, hPlace, hDir⟩
      · exact ih hRest hEnd

theorem of_resolve
    (hTree : d.IsTree)
    {path : String}
    {l : Location}
    (hResolve : d.resolve path = .ok l) :
    d.entry? l = some .directory ∨
      ∃ m name, l = m ++ [name] ∧
        d.entry? m = some .directory := by
  refine hTree.of_walk
    (resolve_eq_ok_iff.mp hResolve).2.2 ?_
  simpa [Path.pieces] using splitAll_ne_nil '/' path.toList

/- What is put where a path leads stands in a directory. -/
theorem put
    (hTree : d.IsTree)
    {path : String}
    {l : Location}
    (hResolve : d.resolve path = .ok l)
    (hFree : d.entry? l ≠ some .directory)
    (e : Entry) :
    (d.put l e).IsTree := by
  have hBelow : l ≠ [] := by
    rintro rfl
    exact hFree (entry?_root d)
  intro m name hSome
  rw [entry?_put hBelow] at hSome ⊢
  have hParent : d.entry? m = some .directory := by
    by_cases hHere : m ++ [name] = l
    · rcases hTree.of_resolve hResolve with
        hDir | ⟨m', name', hSame, hDir⟩
      · exact absurd hDir hFree
      · have hEq : m ++ [name] = m' ++ [name'] :=
          hHere.trans hSame
        rw [(List.append_inj' hEq rfl).1]
        exact hDir
    · rw [if_neg hHere] at hSome
      exact hTree m name hSome
  have hOther : m ≠ l := by
    rintro rfl
    exact hFree hParent
  rw [if_neg hOther]
  exact hParent

theorem removeBelow
    (hTree : d.IsTree)
    {top : Location}
    (hBelow : top ≠ []) :
    (d.removeBelow top).IsTree := by
  intro m name hSome
  rw [entry?_removeBelow hBelow] at hSome ⊢
  split at hSome
  · exact absurd rfl hSome
  · rename_i hOutside
    have hAbove : ¬ top <+: m := fun hPrefix =>
      hOutside (hPrefix.trans (List.prefix_append _ _))
    rw [if_neg hAbove]
    exact hTree m name hSome

end IsTree

theorem exists_of_entry?_ne_none
    {l : Location}
    (hBelow : l ≠ [])
    (hSome : d.entry? l ≠ none) :
    ∃ x ∈ d.entries, x.1 = l := by
  unfold entry? at hSome
  rw [if_neg hBelow] at hSome
  cases hFind : d.entries.find? (fun x => x.1 = l) with
  | none => exact absurd (by rw [hFind]; rfl) hSome
  | some x =>
      refine ⟨x, List.mem_of_find?_eq_some hFind, ?_⟩
      simpa using List.find?_some hFind

/- Only what was put on the disk has to be looked at. -/
theorem isTree_of_entries
    (hEntries :
      ∀ x ∈ d.entries,
        d.entry? x.1.dropLast = some .directory) :
    d.IsTree := by
  intro l name hSome
  rcases exists_of_entry?_ne_none (by simp) hSome with
    ⟨x, hMem, hHere⟩
  have hParent := hEntries x hMem
  rwa [hHere, List.dropLast_concat] at hParent

theorem none_below_of_entries
    {top l : Location}
    (hBelow : top ≠ [])
    (hEntries : ∀ x ∈ d.entries, isBelow top x.1 = false)
    (hUnder : top <+: l) :
    d.entry? l = none := by
  have hRoot : l ≠ [] := by
    rintro rfl
    exact hBelow (List.prefix_nil.mp hUnder)
  by_contra hSome
  rcases exists_of_entry?_ne_none hRoot hSome with
    ⟨x, hMem, rfl⟩
  have hApart := hEntries x hMem
  rw [isBelow_iff.mpr hUnder] at hApart
  exact absurd hApart (by simp)

/-
  A disk that is a tree, with a directory for temporary files
  that is named as paths are.
-/
structure IsSound (d : Disk) : Prop where
  tree : d.IsTree
  temporary : d.temporary.IsPlain

end Disk

end ContainerBuild
