import ContainerBuild.Proofs.Files.Change

/-
  This file says how far a change of the disk goes. Most
  actions change what is at some places, and elsewhere only
  make directories on the way there. What is apart from both
  stays as it is, and paths that lead there still do.

  Key definitions include:
    * `Disk.Confined`

  Main statements:
    * `Disk.find?_of_way`
    * `Disk.confined_removeTree`
    * `Disk.confined_store`
    * `Disk.Confined.find?`
-/

namespace ContainerBuild

open Text

namespace Disk

variable {d d' d'' : Disk}

------------------------------------------------------------
-- Finding
------------------------------------------------------------

/- A walk needs the directories that it meets, no others. -/
theorem walk_of_way
    {here l : Location}
    {names : List String}
    (hWalk : d.walk here names = .ok l)
    (hWay :
      ∀ front, front <+: names →
        d'.entry? (follow here front) = some .directory) :
    d'.walk here names = .ok l := by
  induction names generalizing here with
  | nil => exact hWalk
  | cons name rest ih =>
      rcases walk_cons_iff.mp hWalk with ⟨_, hName, hRest⟩
      refine walk_cons_iff.mpr
        ⟨hWay [] (List.nil_prefix), hName, ih hRest ?_⟩
      intro front hFront
      exact hWay (name :: front)
        ((List.prefix_cons_inj name).mpr hFront)

/- Names that do not count lead nowhere else. -/
theorem follow_filter
    (here : Location)
    (names : List String) :
    follow here (names.filter Path.isPart) =
      follow here names := by
  induction names generalizing here with
  | nil => rfl
  | cons name rest ih =>
      cases hPart : Path.isPart name with
      | false =>
          have hStay : further here name = here := by
            simp [further, hPart]
          simpa [hPart, follow, hStay] using ih here
      | true =>
          simpa [hPart, follow] using ih (further here name)

/-
  A path leads to its place as long as there are directories
  on the whole way to it.
-/
theorem find?_of_way
    {p : Path}
    (hPlain : p.IsPlain)
    {l : Location}
    (hResolve : d.resolve p.toText = .ok l)
    (hWorking : d'.working = d.working)
    (hWay :
      ∀ q, q.LeadsTo p →
        d'.entry? (d.place q) = some .directory) :
    d'.find? p.toText =
      some (d.place p, .directory) := by
  have hPlace := eq_place_of_resolve hPlain hResolve
  subst hPlace
  refine find?_eq_some_iff.mpr ⟨?_, hWay p (.refl p)⟩
  rcases resolve_eq_ok_iff.mp hResolve with
    ⟨hSome, hShort, hWalk⟩
  refine resolve_eq_ok_iff.mpr ⟨hSome, hShort, ?_⟩
  have hText := Path.ofText_toText hPlain
  rw [start_congr hWorking]
  refine walk_of_way hWalk ?_
  intro front hFront
  have hLeads :
      (Path.mk p.root (front.filter Path.isPart)).LeadsTo
        p := by
    refine ⟨rfl, ?_⟩
    have hParts := congrArg Path.parts hText
    rw [← hParts]
    exact hFront.filter _
  have hDir := hWay _ hLeads
  rw [place, follow_filter] at hDir
  rwa [hText]

------------------------------------------------------------
-- Confined Changes
------------------------------------------------------------

/-
  A change at the places inside, besides new directories at
  the places on the way, where there was nothing.
-/
structure Confined
    (d d' : Disk)
    (inside way : Location → Prop) : Prop where
  working : d'.working = d.working
  temporary : d'.temporary = d.temporary
  tree : d.IsTree → d'.IsTree
  outside :
    ∀ l, ¬ inside l →
      d'.entry? l = d.entry? l ∨
        (way l ∧ d.entry? l = none ∧
          d'.entry? l = some .directory)

variable {inside way places : Location → Prop}

/- Making directories is such a change. -/
theorem Grows.confined
    (hGrows : d.Grows d' places)
    (hPlaces : ∀ l, places l → inside l ∨ way l) :
    d.Confined d' inside way where
  working := hGrows.working
  temporary := hGrows.temporary
  tree := hGrows.tree
  outside := by
    intro l hOutside
    rcases hGrows.entry l with hSame | ⟨hAt, hNew⟩
    · exact Or.inl hSame
    · rcases hPlaces l hAt with hInside | hWay
      · exact absurd hInside hOutside
      · exact Or.inr ⟨hWay, hNew⟩

namespace Confined

theorem refl
    (d : Disk)
    (inside way : Location → Prop) :
    d.Confined d inside way :=
  ⟨rfl, rfl, id, fun _ _ => Or.inl rfl⟩

theorem trans
    (hFirst : d.Confined d' inside way)
    (hSecond : d'.Confined d'' inside way) :
    d.Confined d'' inside way where
  working := hSecond.working.trans hFirst.working
  temporary := hSecond.temporary.trans hFirst.temporary
  tree := hSecond.tree ∘ hFirst.tree
  outside := by
    intro l hOutside
    rcases hFirst.outside l hOutside with
      hSame | ⟨hWay, hNone, hDir⟩
    · rw [← hSame]
      exact hSecond.outside l hOutside
    · rcases hSecond.outside l hOutside with
        hSame | ⟨_, hNone', _⟩
      · exact Or.inr ⟨hWay, hNone, hSame.trans hDir⟩
      · rw [hDir] at hNone'
        exact absurd hNone' (by simp)

/- What is apart stays as it is. -/
theorem entry
    (hConfined : d.Confined d' inside way)
    {l : Location}
    (hOutside : ¬ inside l)
    (hApart : ¬ way l) :
    d'.entry? l = d.entry? l := by
  rcases hConfined.outside l hOutside with
    hSame | ⟨hWay, _⟩
  · exact hSame
  · exact absurd hWay hApart

theorem directory
    (hConfined : d.Confined d' inside way)
    {l : Location}
    (hOutside : ¬ inside l)
    (hDir : d.entry? l = some .directory) :
    d'.entry? l = some .directory := by
  rcases hConfined.outside l hOutside with
    hSame | ⟨_, _, hMade⟩
  · rw [hSame, hDir]
  · exact hMade

/- Paths lead where they led if the way there is apart. -/
theorem find?
    (hConfined : d.Confined d' inside way)
    {p : Path}
    (hPlain : p.IsPlain)
    (hFound :
      d.find? p.toText = some (d.place p, .directory))
    (hOutside :
      ∀ q, q.LeadsTo p → q.parts ≠ p.parts →
        ¬ inside (d.place q))
    (hThere : d'.entry? (d.place p) = some .directory) :
    d'.find? p.toText =
      some (d.place p, .directory) := by
  rcases find?_eq_some_iff.mp hFound with ⟨hResolve, _⟩
  refine find?_of_way hPlain hResolve hConfined.working ?_
  intro q hLeads
  by_cases hSame : q.parts = p.parts
  · have hPath : q = p := by
      rcases q with ⟨root, parts⟩
      cases hSame
      cases hLeads.root
      rfl
    rw [hPath]
    exact hThere
  · exact hConfined.directory (hOutside q hLeads hSame)
      (directory_of_resolve hPlain hResolve hLeads hSame)

end Confined

------------------------------------------------------------
-- Confined Actions
------------------------------------------------------------

variable {p : Path}

/- Removing a tree changes what is at its path and below. -/
theorem confined_removeTree
    (hPlain : p.IsPlain)
    (hBelow : d.place p ≠ [])
    (hInside : ∀ l, d.place p <+: l → inside l) :
    d.Confined (d.removeTree p.toText) inside way := by
  unfold removeTree
  split
  · rename_i l hFound
    have hPlace := eq_place_of_resolve hPlain
      (find?_eq_some_iff.mp hFound).1
    subst hPlace
    exact {
      working := rfl
      temporary := rfl
      tree := fun hTree => hTree.removeBelow hBelow
      outside := by
        intro l hOutside
        rw [entry?_removeBelow hBelow, if_neg]
        · exact Or.inl rfl
        · exact fun hUnder => hOutside (hInside l hUnder) }
  · exact .refl d inside way

theorem store_eq_error
    {path : String}
    {c : Content}
    {f : Failure}
    (hStore : store path c d = (.error f, d')) :
    d' = d := by
  unfold store at hStore
  split at hStore
  · cases hStore
    rfl
  · split at hStore
    · cases hStore
      rfl
    · exact absurd hStore (by simp)

theorem keepsDirectories_store
    (path : String)
    (c : Content)
    (d : Disk) :
    d.KeepsDirectories (store path c d).2 := by
  rcases hStore : store path c d with ⟨r, d'⟩
  cases r with
  | error f =>
      rw [store_eq_error hStore]
      exact .refl d
  | ok _ =>
      rcases store_eq_ok hStore with ⟨l, _, hFree, rfl⟩
      exact keepsDirectories_put hFree _

/- Writing a file changes what is at its path. -/
theorem confined_store
    (hPlain : p.IsPlain)
    (hInside : inside (d.place p))
    (c : Content) :
    d.Confined (store p.toText c d).2 inside way := by
  rcases hStore : store p.toText c d with ⟨r, d'⟩
  cases r with
  | error f =>
      rw [store_eq_error hStore]
      exact .refl d inside way
  | ok _ =>
      rcases store_eq_ok hStore with
        ⟨l, hLocate, hFree, rfl⟩
      have hResolve := resolve_of_locate hLocate
      have hBelow : l ≠ [] := by
        rintro rfl
        exact hFree (entry?_root d)
      have hPlace := eq_place_of_resolve hPlain hResolve
      exact {
        working := rfl
        temporary := rfl
        tree := fun hTree => hTree.put hResolve hFree _
        outside := by
          intro m hOutside
          rw [entry?_put hBelow, if_neg]
          · exact Or.inl rfl
          · rintro rfl
            exact hOutside (hPlace ▸ hInside) }

end Disk

end ContainerBuild
