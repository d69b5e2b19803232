import ContainerBuild.Files.Path
import ContainerBuild.Proofs.Text.Ending

/-
  This file says when the text of a path writes that very
  path: when its root is one of the three and no part is
  empty, a single dot, or contains a slash. Paths that were
  read from a text, and those made of them, are of this
  kind.

  Key definitions include:
    * `Path.IsPlainName`
    * `Path.IsPlain`
    * `Path.LeadsTo`

  Main statements:
    * `Path.isPlain_ofText`
    * `Path.ofText_toText`
    * `Path.ofText_of_isPlainName`
    * `Path.null_mem_toText_iff`
-/

namespace ContainerBuild

open Text

namespace Path

------------------------------------------------------------
-- Roots
------------------------------------------------------------

theorem rootOf_of_head?_ne
    {cs : List Char}
    (hHead : cs.head? ≠ some '/') :
    rootOf cs = "" := by
  cases cs with
  | nil => rfl
  | cons c cs =>
      have hSlash : c ≠ '/' := by simpa using hHead
      simp [rootOf, hSlash]

theorem rootOf_slash
    {cs : List Char}
    (hHead : cs.head? ≠ some '/') :
    rootOf ('/' :: cs) = "/" := by
  cases cs with
  | nil => rfl
  | cons c cs =>
      have hSlash : c ≠ '/' := by simpa using hHead
      simp [rootOf, hSlash]

theorem rootOf_slashes
    {cs : List Char}
    (hHead : cs.head? ≠ some '/') :
    rootOf ('/' :: '/' :: cs) = "//" := by
  cases cs with
  | nil => rfl
  | cons c cs =>
      have hSlash : c ≠ '/' := by simpa using hHead
      simp [rootOf, hSlash]

theorem rootOf_cases (cs : List Char) :
    rootOf cs = "" ∨ rootOf cs = "/" ∨
      rootOf cs = "//" := by
  unfold rootOf
  split <;> simp

------------------------------------------------------------
-- Plain Paths
------------------------------------------------------------

/- A part that can stand between slashes. -/
structure IsPlainName (name : String) : Prop where
  part : isPart name = true
  whole : '/' ∉ name.toList

instance (name : String) : Decidable (IsPlainName name) :=
  decidable_of_iff
    (isPart name = true ∧ '/' ∉ name.toList)
    ⟨fun hBoth => ⟨hBoth.1, hBoth.2⟩,
      fun hName => ⟨hName.part, hName.whole⟩⟩

/- A path that its text writes. -/
structure IsPlain (p : Path) : Prop where
  root : p.root = "" ∨ p.root = "/" ∨ p.root = "//"
  parts : ∀ part ∈ p.parts, IsPlainName part

/- Every text writes a plain path. -/
theorem isPlain_ofText (text : String) :
    (ofText text).IsPlain where
  root := rootOf_cases text.toList
  parts := by
    intro part hMem
    rcases List.mem_filter.mp hMem with ⟨hPiece, hPart⟩
    rcases List.mem_map.mp hPiece with ⟨cs, hCut, rfl⟩
    refine ⟨hPart, ?_⟩
    rw [String.toList_ofList]
    exact not_mem_of_mem_splitAll hCut

theorem IsPlain.join
    {p q : Path}
    (hP : p.IsPlain)
    (hQ : q.IsPlain) :
    (p.join q).IsPlain := by
  unfold Path.join
  split
  · refine ⟨hP.root, fun part hMem => ?_⟩
    rcases List.mem_append.mp hMem with hMem | hMem
    · exact hP.parts part hMem
    · exact hQ.parts part hMem
  · exact hQ

------------------------------------------------------------
-- Leading Paths
------------------------------------------------------------

/- A path on the way to another one, or that one itself. -/
structure LeadsTo (p q : Path) : Prop where
  root : p.root = q.root
  parts : p.parts <+: q.parts

theorem LeadsTo.refl (p : Path) : p.LeadsTo p :=
  ⟨rfl, List.prefix_refl _⟩

/- The way to a path goes through the one above it. -/
theorem LeadsTo.parent
    {p q : Path}
    (hLeads : p.LeadsTo q) :
    p.parent.LeadsTo q :=
  ⟨hLeads.root, (List.dropLast_prefix _).trans hLeads.parts⟩

/- The way to a path is the way to what is in it, and short. -/
theorem LeadsTo.join
    {p q : Path}
    (hLeads : p.LeadsTo q)
    (name : String) :
    p.LeadsTo (q.join ⟨"", [name]⟩) ∧
      p.parts ≠ (q.join ⟨"", [name]⟩).parts := by
  have hJoin :
      q.join ⟨"", [name]⟩ =
        ⟨q.root, q.parts ++ [name]⟩ := rfl
  rw [hJoin]
  refine ⟨⟨hLeads.root,
    hLeads.parts.trans (List.prefix_append _ _)⟩, ?_⟩
  intro hSame
  have hLong := hLeads.parts.length_le
  rw [hSame, List.length_append, List.length_singleton]
    at hLong
  exact Nat.not_succ_le_self _ hLong

theorem LeadsTo.isPlain
    {p q : Path}
    (hLeads : p.LeadsTo q)
    (hPlain : q.IsPlain) :
    p.IsPlain where
  root := hLeads.root ▸ hPlain.root
  parts := fun part hMem =>
    hPlain.parts part (hLeads.parts.subset hMem)

------------------------------------------------------------
-- Texts
------------------------------------------------------------

section Texts

variable {parts : List String}

/- The parts, joined, do not start with a slash. -/
theorem head?_joinWith_ne
    (hParts : ∀ part ∈ parts, IsPlainName part) :
    (joinWith ['/'] (parts.map String.toList)).head? ≠
      some '/' := by
  cases parts with
  | nil => simp [joinWith]
  | cons part rest =>
      have hName : IsPlainName part :=
        hParts part (by simp)
      have hSome : part.toList ≠ [] := by
        intro hNil
        have hEmpty : part = "" :=
          String.toList_eq_nil_iff.mp hNil
        exact absurd hName.part (by simp [isPart, hEmpty])
      rcases List.exists_cons_of_ne_nil hSome with
        ⟨c, cs, hCons⟩
      have hHead : c ≠ '/' := by
        intro hSlash
        exact hName.whole (by simp [hCons, hSlash])
      cases rest <;> simp [joinWith, hCons, hHead]

/- Cutting the joined parts gives them back. -/
theorem filter_map_splitAll_joinWith
    (hParts : ∀ part ∈ parts, IsPlainName part) :
    ((splitAll '/'
        (joinWith ['/'] (parts.map String.toList))).map
          String.ofList).filter isPart =
      parts := by
  by_cases hNil : parts = []
  · subst hNil
    decide
  · have hSome : parts.map String.toList ≠ [] := by
      simpa using hNil
    have hOpen :
        ∀ cs ∈ parts.map String.toList, '/' ∉ cs := by
      intro cs hMem
      rcases List.mem_map.mp hMem with ⟨name, hName, rfl⟩
      exact (hParts name hName).whole
    have hBack :
        (parts.map String.toList).map String.ofList =
          parts := by
      simp
    rw [splitAll_joinWith hSome hOpen, hBack]
    exact List.filter_eq_self.mpr
      (fun name hMem => (hParts name hMem).part)

end Texts

theorem toList_toText
    {p : Path}
    (hSome : ¬ (p.root = "" ∧ p.parts = [])) :
    p.toText.toList =
      p.root.toList
        ++ joinWith ['/'] (p.parts.map String.toList) := by
  have hCase :
      (p.root = "" && p.parts = []) = false := by
    simpa using hSome
  simp [toText, hCase, joinTexts]

/- A slash at the start adds no part. -/
theorem filter_map_splitAll_slash (cs : List Char) :
    ((splitAll '/' ('/' :: cs)).map
        String.ofList).filter isPart =
      ((splitAll '/' cs).map String.ofList).filter
        isPart := by
  have hEmpty : isPart (String.ofList []) = false := by
    decide
  simp only [splitAll, if_true, List.map_cons,
    List.filter_cons, hEmpty, Bool.false_eq_true,
    if_false]

/- The text of a plain path writes it. -/
theorem ofText_toText
    {p : Path}
    (hPlain : p.IsPlain) :
    ofText p.toText = p := by
  rcases p with ⟨root, parts⟩
  by_cases hDot : root = "" ∧ parts = []
  · rcases hDot with ⟨rfl, rfl⟩
    decide
  · have hText :
        (Path.mk root parts).toText.toList =
          root.toList
            ++ joinWith ['/']
              (parts.map String.toList) :=
      toList_toText hDot
    have hHead := head?_joinWith_ne hPlain.parts
    have hParts := filter_map_splitAll_joinWith hPlain.parts
    simp only [ofText, pieces, hText, Path.mk.injEq]
    rcases hPlain.root with hRoot | hRoot | hRoot <;>
      (simp only at hRoot; subst hRoot)
    · exact ⟨rootOf_of_head?_ne hHead, hParts⟩
    · exact ⟨rootOf_slash hHead,
        (filter_map_splitAll_slash _).trans hParts⟩
    · exact ⟨rootOf_slashes hHead,
        (filter_map_splitAll_slash _).trans
          ((filter_map_splitAll_slash _).trans hParts)⟩

/- A plain name writes itself. -/
theorem ofText_of_isPlainName
    {name : String}
    (hName : IsPlainName name) :
    ofText name = ⟨"", [name]⟩ := by
  have hPlain : (Path.mk "" [name]).IsPlain :=
    ⟨Or.inl rfl, by simpa using hName⟩
  have hText : (Path.mk "" [name]).toText = name := by
    simp [toText, joinTexts, joinWith]
  simpa only [hText] using ofText_toText hPlain

------------------------------------------------------------
-- Null Characters
------------------------------------------------------------

section Null

variable {p : Path}

/- A null character is in the root or in one of the parts. -/
theorem null_mem_toText_iff :
    '\x00' ∈ p.toText.toList ↔
      '\x00' ∈ p.root.toList ∨
        ∃ part ∈ p.parts, '\x00' ∈ part.toList := by
  have hSlash : '\x00' ∉ ['/'] := by decide
  by_cases hDot : p.root = "" ∧ p.parts = []
  · have hText : p.toText = "." := by
      simp [toText, hDot]
    rw [hText, hDot.1, hDot.2]
    decide
  · rw [toList_toText hDot, List.mem_append,
      mem_joinWith_iff hSlash]
    refine or_congr Iff.rfl ⟨?_, ?_⟩
    · rintro ⟨_, hMem, hNull⟩
      rcases List.mem_map.mp hMem with ⟨part, hPart, rfl⟩
      exact ⟨part, hPart, hNull⟩
    · rintro ⟨part, hPart, hNull⟩
      exact ⟨_, List.mem_map_of_mem hPart, hNull⟩

/- The path above contains no other characters. -/
theorem null_mem_of_parent
    (hNull : '\x00' ∈ p.parent.toText.toList) :
    '\x00' ∈ p.toText.toList := by
  rcases null_mem_toText_iff.mp hNull with
    hRoot | ⟨part, hMem, hPart⟩
  · exact null_mem_toText_iff.mpr (Or.inl hRoot)
  · exact null_mem_toText_iff.mpr
      (Or.inr ⟨part, List.dropLast_subset _ hMem, hPart⟩)

/- Within a directory the name is all that is added. -/
theorem null_mem_join_iff
    (name : String) :
    '\x00' ∈ (p.join ⟨"", [name]⟩).toText.toList ↔
      '\x00' ∈ p.toText.toList ∨ '\x00' ∈ name.toList := by
  have hJoin :
      p.join ⟨"", [name]⟩ = ⟨p.root, p.parts ++ [name]⟩ :=
    rfl
  rw [hJoin, null_mem_toText_iff, null_mem_toText_iff]
  simp only [List.mem_append, List.mem_singleton, or_and_right,
    exists_or, exists_eq_left, or_assoc]

end Null

end Path

end ContainerBuild
