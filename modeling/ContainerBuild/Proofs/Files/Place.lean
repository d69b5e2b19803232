import ContainerBuild.Files.Disk
import ContainerBuild.Proofs.Files.Path

/-
  This file says where a path leads. The place is known from
  the parts of the path alone; what is on the disk decides
  only whether one gets there, which takes a directory at
  every place on the way.

  Key definitions include:
    * `Disk.further`
    * `Disk.follow`
    * `Disk.place`
    * `Disk.KeepsDirectories`

  Main statements:
    * `Disk.walk_append_iff`
    * `Disk.eq_place_of_resolve`
    * `Disk.directory_of_resolve`
    * `Disk.KeepsDirectories.resolve`
-/

namespace ContainerBuild

open Text

namespace Disk

variable {d d' d'' : Disk}

------------------------------------------------------------
-- Places
------------------------------------------------------------

/- One name further, whatever is there. -/
def further
    (here : Location)
    (name : String) : Location :=
  if !Path.isPart name then
    here
  else if name = ".." then
    here.dropLast
  else
    here ++ [name]

/- Follow names, whatever is on the way. -/
def follow
    (here : Location)
    (names : List String) : Location :=
  names.foldl further here

/- Where a path starts. -/
def start
    (d : Disk)
    (p : Path) : Location :=
  if p.root = "" then d.working else []

/- The place that a path names. -/
def place
    (d : Disk)
    (p : Path) : Location :=
  follow (d.start p) p.parts

theorem start_congr
    (hWorking : d'.working = d.working)
    (p : Path) :
    d'.start p = d.start p := by
  simp only [start, hWorking]

theorem place_congr
    (hWorking : d'.working = d.working)
    (p : Path) :
    d'.place p = d.place p := by
  simp only [place, start_congr hWorking]

theorem follow_concat
    (here : Location)
    (names : List String)
    (name : String) :
    follow here (names ++ [name]) =
      further (follow here names) name := by
  simp [follow]

/- A part below a path. -/
theorem place_join
    (d : Disk)
    (p : Path)
    (name : String) :
    d.place (p.join ⟨"", [name]⟩) =
      further (d.place p) name :=
  follow_concat (d.start p) p.parts name

theorem further_of_isPart
    {name : String}
    (hPart : Path.isPart name = true)
    (hUp : name ≠ "..")
    (here : Location) :
    further here name = here ++ [name] := by
  simp [further, hPart, hUp]

------------------------------------------------------------
-- Walks
------------------------------------------------------------

/- One step: from a directory, under a name that fits. -/
theorem walk_cons_iff
    {here l : Location}
    {name : String}
    {rest : List String} :
    d.walk here (name :: rest) = .ok l ↔
      d.entry? here = some .directory ∧
        (utf8 name).length ≤ maxName ∧
        d.walk (further here name) rest = .ok l := by
  have hShort :
      (Path.isPart name = false ∨ name = "..") →
        (utf8 name).length ≤ maxName := by
    rintro (hPart | rfl)
    · have hName : name = "" ∨ name = "." := by
        simpa [Path.isPart, Decidable.or_iff_not_imp_left]
          using hPart
      rcases hName with rfl | rfl <;> decide
    · decide
  rw [walk]
  cases hEntry : d.entry? here with
  | none => simp
  | some e =>
      cases e with
      | file c => simp
      | directory =>
          cases hPart : Path.isPart name with
          | false =>
              simp [further, hPart,
                hShort (Or.inl hPart)]
          | true =>
              by_cases hUp : name = ".."
              · have hFits := hShort (Or.inr hUp)
                subst hUp
                simp [further, hPart, hFits]
              · by_cases hLong :
                    maxName < (utf8 name).length
                · simp [hUp, hLong, Nat.not_le.mpr hLong]
                · simp [further, hPart, hUp, hLong,
                    Nat.not_lt.mp hLong]

/- A walk leads to the place that its names give. -/
theorem eq_follow_of_walk
    {here l : Location}
    {names : List String}
    (hWalk : d.walk here names = .ok l) :
    l = follow here names := by
  induction names generalizing here with
  | nil => exact (Except.ok.inj hWalk).symm
  | cons name rest ih =>
      exact ih (walk_cons_iff.mp hWalk).2.2

theorem walk_append_iff
    {here l : Location}
    {xs ys : List String} :
    d.walk here (xs ++ ys) = .ok l ↔
      ∃ m, d.walk here xs = .ok m ∧
        d.walk m ys = .ok l := by
  induction xs generalizing here with
  | nil => simp [walk]
  | cons name rest ih =>
      simp only [List.cons_append, walk_cons_iff, ih]
      constructor
      · rintro ⟨hDir, hName, m, hFront, hBack⟩
        exact ⟨m, ⟨hDir, hName, hFront⟩, hBack⟩
      · rintro ⟨m, ⟨hDir, hName, hFront⟩, hBack⟩
        exact ⟨hDir, hName, m, hFront, hBack⟩

/- Before its end a walk meets directories. -/
theorem directory_of_walk
    {here l : Location}
    {front rest : List String}
    (hWalk : d.walk here (front ++ rest) = .ok l)
    (hRest : rest ≠ []) :
    d.entry? (follow here front) = some .directory := by
  rcases walk_append_iff.mp hWalk with ⟨m, hFront, hBack⟩
  rcases List.exists_cons_of_ne_nil hRest with
    ⟨name, names, rfl⟩
  rw [← eq_follow_of_walk hFront]
  exact (walk_cons_iff.mp hBack).1

/- Names that do not count can be left out. -/
theorem walk_filter
    {here l : Location}
    {names : List String}
    (hWalk : d.walk here names = .ok l) :
    d.walk here (names.filter Path.isPart) = .ok l := by
  induction names generalizing here with
  | nil => exact hWalk
  | cons name rest ih =>
      rcases walk_cons_iff.mp hWalk with
        ⟨hDir, hName, hRest⟩
      cases hPart : Path.isPart name with
      | false =>
          have hStay : further here name = here := by
            simp [further, hPart]
          rw [hStay] at hRest
          simpa [List.filter_cons, hPart] using ih hRest
      | true =>
          simp only [List.filter_cons, hPart, if_true]
          exact walk_cons_iff.mpr ⟨hDir, hName, ih hRest⟩

------------------------------------------------------------
-- Resolution
------------------------------------------------------------

theorem resolve_eq_ok_iff
    {path : String}
    {l : Location} :
    d.resolve path = .ok l ↔
      path ≠ "" ∧ (utf8 path).length < maxPath ∧
        d.walk (d.start (Path.ofText path))
          (Path.pieces path) = .ok l := by
  unfold resolve start Path.ofText
  by_cases hEmpty : path = ""
  · simp [hEmpty]
  · by_cases hLong : maxPath ≤ (utf8 path).length
    · simp [hEmpty, hLong, Nat.not_lt.mpr hLong]
    · by_cases hRoot : Path.rootOf path.toList = "" <;>
        simp [hEmpty, hLong, hRoot, Nat.not_le.mp hLong]

theorem resolve_of_locate
    {path : String}
    {l : Location}
    (hLocate : d.locate path = .ok l) :
    d.resolve path = .ok l := by
  unfold locate at hLocate
  split at hLocate
  · exact absurd hLocate (by simp)
  · split at hLocate
    · exact absurd hLocate (by simp)
    · rename_i hResolve
      rw [hResolve]
      exact congrArg Except.ok (Except.ok.inj hLocate)

theorem find?_eq_some_iff
    {path : String}
    {l : Location}
    {e : Entry} :
    d.find? path = some (l, e) ↔
      d.resolve path = .ok l ∧ d.entry? l = some e := by
  unfold find?
  cases d.resolve path with
  | error r => simp
  | ok m =>
      simp only [Option.map_eq_some_iff, Prod.mk.injEq,
        Except.ok.injEq]
      constructor
      · rintro ⟨f, hEntry, rfl, rfl⟩
        exact ⟨rfl, hEntry⟩
      · rintro ⟨rfl, hEntry⟩
        exact ⟨e, hEntry, rfl, rfl⟩

section Plain

variable {p : Path} {l : Location}

/- The parts of a plain path are walked. -/
theorem walk_of_resolve
    (hPlain : p.IsPlain)
    (hResolve : d.resolve p.toText = .ok l) :
    d.walk (d.start p) p.parts = .ok l := by
  have hWalk :=
    walk_filter (resolve_eq_ok_iff.mp hResolve).2.2
  have hText := Path.ofText_toText hPlain
  have hParts :
      (Path.pieces p.toText).filter Path.isPart =
        p.parts :=
    congrArg Path.parts hText
  rwa [hText, hParts] at hWalk

/- A path leads to its place, if anywhere. -/
theorem eq_place_of_resolve
    (hPlain : p.IsPlain)
    (hResolve : d.resolve p.toText = .ok l) :
    l = d.place p :=
  eq_follow_of_walk (walk_of_resolve hPlain hResolve)

/- What leads to a path, short of it, is a directory. -/
theorem directory_of_resolve
    {q : Path}
    (hPlain : p.IsPlain)
    (hResolve : d.resolve p.toText = .ok l)
    (hLeads : q.LeadsTo p)
    (hShort : q.parts ≠ p.parts) :
    d.entry? (d.place q) = some .directory := by
  rcases hLeads.parts with ⟨rest, hParts⟩
  have hWalk := walk_of_resolve hPlain hResolve
  rw [← hParts] at hWalk
  have hRest : rest ≠ [] := by
    rintro rfl
    exact hShort (by simpa using hParts)
  have hStart : d.start q = d.start p := by
    simp only [start, hLeads.root]
  simp only [place, hStart]
  exact directory_of_walk hWalk hRest

end Plain

------------------------------------------------------------
-- Kept Directories
------------------------------------------------------------

/- Every directory is still there, and so is the work in one. -/
structure KeepsDirectories (d d' : Disk) : Prop where
  working : d'.working = d.working
  directory :
    ∀ l, d.entry? l = some .directory →
      d'.entry? l = some .directory

namespace KeepsDirectories

theorem refl (d : Disk) : d.KeepsDirectories d :=
  ⟨rfl, fun _ hDir => hDir⟩

theorem trans
    (hFirst : d.KeepsDirectories d')
    (hSecond : d'.KeepsDirectories d'') :
    d.KeepsDirectories d'' :=
  ⟨hSecond.working.trans hFirst.working,
    fun l hDir => hSecond.directory l
      (hFirst.directory l hDir)⟩

theorem walk
    (hKeeps : d.KeepsDirectories d')
    {here l : Location}
    {names : List String}
    (hWalk : d.walk here names = .ok l) :
    d'.walk here names = .ok l := by
  induction names generalizing here with
  | nil => exact hWalk
  | cons name rest ih =>
      rcases walk_cons_iff.mp hWalk with
        ⟨hDir, hName, hRest⟩
      exact walk_cons_iff.mpr
        ⟨hKeeps.directory here hDir, hName, ih hRest⟩

/- Paths lead where they led. -/
theorem resolve
    (hKeeps : d.KeepsDirectories d')
    {path : String}
    {l : Location}
    (hResolve : d.resolve path = .ok l) :
    d'.resolve path = .ok l := by
  rcases resolve_eq_ok_iff.mp hResolve with
    ⟨hSome, hShort, hWalk⟩
  refine resolve_eq_ok_iff.mpr ⟨hSome, hShort, ?_⟩
  rw [start_congr hKeeps.working]
  exact hKeeps.walk hWalk

end KeepsDirectories

end Disk

end ContainerBuild
