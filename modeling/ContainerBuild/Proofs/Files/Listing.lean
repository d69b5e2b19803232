import ContainerBuild.Proofs.Action
import ContainerBuild.Proofs.Files.Change

/-
  This file says what is listed below a place: each file
  there, once, with its content, in the order of the names
  on the way to it. This takes a disk on which no place has
  two entries, as all actions leave it.

  Key definitions include:
    * `Disk.IsKeyed`
    * `Disk.Lists`

  Main statements:
    * `Disk.mem_entries_iff`
    * `Disk.precedes_iff`
    * `Disk.lists_of_perm`
    * `Disk.lists_filesBelow`
    * `Disk.Lists.unique`
    * `Disk.keyed_makeDirectories`
    * `Disk.keyed_copyFile`
-/

namespace ContainerBuild

open Text

namespace Disk

variable {d : Disk}

------------------------------------------------------------
-- Keyed Disks
------------------------------------------------------------

/- No place has two entries. -/
def IsKeyed (d : Disk) : Prop :=
  (d.entries.map Prod.fst).Nodup

instance (d : Disk) : Decidable d.IsKeyed := by
  unfold IsKeyed
  infer_instance

theorem find?_eq_some_iff_mem
    {es : List (Location × Entry)}
    (hKeyed : (es.map Prod.fst).Nodup)
    (l : Location)
    (e : Entry) :
    es.find? (fun x => x.1 = l) = some (l, e) ↔
      (l, e) ∈ es := by
  induction es with
  | nil => simp
  | cons x es ih =>
      rw [List.map_cons, List.nodup_cons] at hKeyed
      by_cases hHere : x.1 = l
      · have hLater : (l, e) ∉ es := fun hMem =>
          hKeyed.1 (hHere ▸ List.mem_map_of_mem hMem)
        simp [hHere, hLater, eq_comm]
      · have hOther : (l, e) ≠ x := by
          rintro rfl
          exact hHere rfl
        simp [hHere, hOther, ih hKeyed.2]

/- What was put on the disk is what is there. -/
theorem mem_entries_iff
    (hKeyed : d.IsKeyed)
    {l : Location}
    (hBelow : l ≠ [])
    (e : Entry) :
    (l, e) ∈ d.entries ↔ d.entry? l = some e := by
  rw [← find?_eq_some_iff_mem hKeyed, entry?,
    if_neg hBelow, Option.map_eq_some_iff]
  constructor
  · intro hFind
    exact ⟨(l, e), hFind, rfl⟩
  · rintro ⟨⟨m, e'⟩, hFind, rfl⟩
    have hSame : m = l := by
      simpa using List.find?_some hFind
    rw [hFind, hSame]

namespace IsKeyed

theorem filter
    (hKeyed : d.IsKeyed)
    (keep : Location × Entry → Bool) :
    (d.withEntries (d.entries.filter keep)).IsKeyed :=
  hKeyed.sublist (List.filter_sublist.map Prod.fst)

theorem put
    (hKeyed : d.IsKeyed)
    (l : Location)
    (e : Entry) :
    (d.put l e).IsKeyed := by
  have hRest := hKeyed.filter (fun x => x.1 != l)
  refine List.nodup_cons.mpr ⟨?_, hRest⟩
  intro hMem
  rcases List.mem_map.mp hMem with ⟨x, hKept, hSame⟩
  simp [hSame] at hKept

theorem removeTree
    (hKeyed : d.IsKeyed)
    (path : String) :
    (d.removeTree path).IsKeyed := by
  unfold Disk.removeTree
  split
  · exact hKeyed.filter _
  · exact hKeyed

end IsKeyed

------------------------------------------------------------
-- Actions
------------------------------------------------------------

theorem keyed_store
    (path : String)
    (c : Content) :
    (store path c).Keeps IsKeyed := by
  intro d hKeyed
  unfold store
  split
  · exact hKeyed
  · split
    · exact hKeyed
    · exact hKeyed.put _ _

theorem keyed_copyFile (source target : String) :
    (copyFile source target).Keeps IsKeyed := by
  intro d hKeyed
  unfold copyFile
  split
  · exact hKeyed
  · exact hKeyed
  · extract_lets same
    split
    · exact hKeyed
    · split
      · exact hKeyed
      · exact keyed_store target _ d hKeyed

theorem keyed_makeDirectory (path : String) :
    (makeDirectory path).Keeps IsKeyed := by
  intro d hKeyed
  unfold makeDirectory makeNew
  split
  · exact hKeyed
  · split
    · exact hKeyed
    · exact hKeyed.put _ _

theorem keyed_ensureDirectory (path : String) :
    (ensureDirectory path).Keeps IsKeyed := by
  intro d hKeyed
  rw [ensureDirectory_snd]
  exact keyed_makeDirectory path d hKeyed

theorem keyed_ensureAbove
    (fuel : Nat)
    (p : Path) :
    (ensureAbove fuel p).Keeps IsKeyed := by
  induction fuel generalizing p with
  | zero =>
      rw [ensureAbove_zero]
      exact keyed_ensureDirectory p.toText
  | succ n ih =>
      intro d hKeyed
      have hFirst := keyed_ensureDirectory p.toText d hKeyed
      rcases hHere : ensureDirectory p.toText d with
        ⟨r, d'⟩
      rw [hHere] at hFirst
      cases r with
      | ok _ =>
          rw [ensureAbove_of_ok hHere]
          exact hFirst
      | error f =>
          rw [ensureAbove_of_error hHere]
          split
          · exact (ih p.parent).next
              (fun _ => keyed_ensureDirectory p.toText) d'
              hFirst
          · exact hFirst

theorem keyed_makeDirectories (p : Path) :
    (makeDirectories p).Keeps IsKeyed :=
  keyed_ensureAbove p.parts.length p

theorem keyed_makeTemporary (dir : Path) :
    (makeTemporary dir).Keeps IsKeyed := by
  intro d hKeyed
  unfold makeTemporary makeFresh freshPath
  simp only
  have hMade := fun path n =>
    keyed_makeDirectory path (d.withSerial n) hKeyed
  split
  · rename_i hMake
    exact congrArg Prod.snd hMake ▸ hMade _ _
  · rename_i hMake
    exact congrArg Prod.snd hMake ▸ hMade _ _

------------------------------------------------------------
-- Order
------------------------------------------------------------

/- Names are compared as the library compares lists. -/
theorem precedes_iff
    {l m : Location} :
    precedes l m = true ↔ ¬ m < l := by
  induction l generalizing m with
  | nil => simp [precedes]
  | cons a as ih =>
      cases m with
      | nil => simp [precedes]
      | cons b bs =>
          rw [List.cons_lt_cons_iff, precedes]
          by_cases hSame : a = b
          · simp [hSame, ih]
          · have hLess : a < b ↔ ¬ b < a := by
              rw [String.not_lt, Std.le_iff_lt_or_eq]
              simp [hSame]
            simp [hSame, Ne.symm hSame, hLess,
              ← String.lt_iff]

theorem precedes_total (l m : Location) :
    (precedes l m || precedes m l) = true := by
  rw [Bool.or_eq_true, precedes_iff, precedes_iff]
  exact List.le_total l m

theorem precedes_trans
    (l m n : Location)
    (hFirst : precedes l m = true)
    (hSecond : precedes m n = true) :
    precedes l n = true := by
  rw [precedes_iff] at hFirst hSecond ⊢
  exact List.le_trans hFirst hSecond

theorem lt_of_precedes
    {l m : Location}
    (hPrecedes : precedes l m = true)
    (hOther : l ≠ m) :
    l < m := by
  by_contra hNot
  exact hOther
    (List.le_antisymm (precedes_iff.mp hPrecedes) hNot)

------------------------------------------------------------
-- Listings
------------------------------------------------------------

/-
  A list of what is below a place: exactly the files there,
  by their names from it on, in strictly growing order.
-/
structure Lists
    (d : Disk)
    (top : Location)
    (files : List (Location × Content)) : Prop where
  mem :
    ∀ l c, (l, c) ∈ files ↔
      l ≠ [] ∧ d.entry? (top ++ l) = some (.file c)
  sorted : files.Pairwise (fun a b => a.1 < b.1)

theorem fileBelow?_eq_some_iff
    {top : Location}
    {x : Location × Entry}
    {l : Location}
    {c : Content} :
    fileBelow? top x = some (l, c) ↔
      l ≠ [] ∧ x = (top ++ l, .file c) := by
  rcases x with ⟨m, e⟩
  unfold fileBelow?
  simp only [Prod.mk.injEq, ← after?_eq_some_iff]
  split
  · rename_i hAfter
    simp only [hAfter, Option.some.injEq, Prod.mk.injEq,
      Entry.file.injEq]
    constructor
    · rintro ⟨rfl, rfl⟩
      exact ⟨by simp, rfl, rfl⟩
    · rintro ⟨_, hSame, hContent⟩
      exact ⟨hSame, hContent⟩
  · rename_i hNot
    simp only [reduceCtorEq, false_iff]
    rintro ⟨hSome, hAfter, hFile⟩
    rcases List.exists_cons_of_ne_nil hSome with
      ⟨n, ns, rfl⟩
    exact hNot n ns c hAfter hFile

/- Whatever has the files below a place in order lists it. -/
theorem lists_of_perm
    (hKeyed : d.IsKeyed)
    {top : Location}
    {files : List (Location × Content)}
    (hPerm :
      files.Perm (d.entries.filterMap (fileBelow? top)))
    (hSorted : files.Pairwise (fun a b => a.1 < b.1)) :
    d.Lists top files := by
  refine ⟨fun l c => ?_, hSorted⟩
  rw [hPerm.mem_iff, List.mem_filterMap]
  constructor
  · rintro ⟨x, hMem, hFile⟩
    rcases fileBelow?_eq_some_iff.mp hFile with
      ⟨hSome, rfl⟩
    exact ⟨hSome,
      (mem_entries_iff hKeyed (by simp [hSome]) _).mp hMem⟩
  · rintro ⟨hSome, hEntry⟩
    exact ⟨(top ++ l, .file c),
      (mem_entries_iff hKeyed (by simp [hSome]) _).mpr
        hEntry,
      fileBelow?_eq_some_iff.mpr ⟨hSome, rfl⟩⟩

/- The files below a place are listed. -/
theorem lists_filesBelow
    (hKeyed : d.IsKeyed)
    (top : Location) :
    d.Lists top (d.filesBelow top) := by
  have hPerm :
      (d.filesBelow top).Perm
        (d.entries.filterMap (fileBelow? top)) :=
    List.mergeSort_perm _ _
  have hOrder :=
    List.pairwise_mergeSort
      (fun a b c => precedes_trans a.1 b.1 c.1)
      (fun a b => precedes_total a.1 b.1)
      (d.entries.filterMap (fileBelow? top))
  -- Different places are different from the top on.
  have hApart :
      (d.entries.filterMap (fileBelow? top)).Pairwise
        (fun a b => a.1 ≠ b.1) := by
    refine List.Pairwise.filterMap _ ?_
      (List.pairwise_map.mp hKeyed)
    rintro x y hOther ⟨l, c⟩ hX ⟨m, c'⟩ hY rfl
    rcases fileBelow?_eq_some_iff.mp hX with ⟨_, rfl⟩
    rcases fileBelow?_eq_some_iff.mp hY with ⟨_, rfl⟩
    exact hOther rfl
  have hDistinct :
      (d.filesBelow top).Pairwise
        (fun a b => a.1 ≠ b.1) :=
    hApart.perm hPerm.symm Ne.symm
  refine lists_of_perm hKeyed hPerm ?_
  exact (hOrder.and hDistinct).imp
    (fun hBoth => lt_of_precedes hBoth.1 hBoth.2)

namespace Lists

variable {top : Location}
variable {files files' : List (Location × Content)}

theorem nodup
    (hLists : d.Lists top files) :
    files.Nodup := by
  refine hLists.sorted.imp ?_
  rintro a b hLess rfl
  exact List.lt_irrefl _ hLess

/- There is no other list of what is below a place. -/
theorem unique
    (hLists : d.Lists top files)
    (hLists' : d.Lists top files') :
    files = files' := by
  have hPerm : files.Perm files' := by
    refine (List.perm_ext_iff_of_nodup
      hLists.nodup hLists'.nodup).mpr ?_
    rintro ⟨l, c⟩
    rw [hLists.mem, hLists'.mem]
  refine hPerm.eq_of_pairwise ?_ hLists.sorted
    hLists'.sorted
  intro a b _ _ hLess hMore
  exact absurd hMore (List.lt_asymm hLess)

end Lists

end Disk

end ContainerBuild
