import ContainerBuild.Proofs.Text.Ending
import ContainerBuild.Proofs.Text.Utf8
import ContainerBuild.Stream.Body

/-
  This file shows that chunks do not matter: what a body
  delivers depends on its octets and its failure only. The
  octets are cut at line feeds, wherever the chunks cut
  them.

  Key definitions include:
    * `Body.octets`
    * `deliveredLines`
    * `Delivery.ofOctets`
    * `HoldsLines`
    * `Body.ofLines`

  Main statements:
    * `feedAll_eq_feed`
    * `Body.delivery_eq`
    * `HoldsLines.delivery`
-/

namespace ContainerBuild

open Text

------------------------------------------------------------
-- Feeding
------------------------------------------------------------

/- The octets of a body, one chunk after the other. -/
def Body.octets (b : Body) : List UInt8 :=
  b.chunkList.flatMap Chunk.bytes

/- The lines of a file make up the file. -/
theorem flatten_fileLines (bs : List UInt8) :
    (fileLines bs).flatten = bs := by
  induction bs with
  | nil => rfl
  | cons b bs ih =>
      rw [fileLines]
      split
      · rw [List.flatten_cons, ih, List.singleton_append]
      · cases hLines : fileLines bs with
        | nil =>
            rw [hLines, List.flatten_nil] at ih
            rw [← ih]
            rfl
        | cons l ls =>
            rw [hLines] at ih
            rw [List.flatten_cons, List.cons_append,
              ← List.flatten_cons, ih]

theorem Body.octets_ofFile (bs : List UInt8) :
    (Body.ofFile bs).octets = bs := by
  have hChunks :
      ∀ ls : List (List UInt8),
        (ls.map Chunk.octets).flatMap Chunk.bytes =
          ls.flatten := by
    intro ls
    rw [List.flatMap_map, ← List.flatMap_id]
    rfl
  exact (hChunks (fileLines bs)).trans
    (flatten_fileLines bs)

/- Feeding gives the ended lines and keeps the open one. -/
theorem feed_of_endEach
    {buffer chunk tail : List UInt8}
    {ls : List (List UInt8)}
    (hEnded : ∀ l ∈ ls, lineFeed ∉ l)
    (hOpen : lineFeed ∉ tail)
    (hOctets :
      buffer ++ chunk = endEach lineFeed ls ++ tail) :
    feed buffer chunk = (ls, tail) := by
  simp only [feed, hOctets]
  rw [splitAll_endEach_append hEnded hOpen]
  simp

/- What is left over has no line feed. -/
theorem lineFeed_not_mem_feed
    (buffer chunk : List UInt8) :
    lineFeed ∉ (feed buffer chunk).2 := by
  rcases exists_endEach lineFeed (buffer ++ chunk) with
    ⟨ls, tail, hEnded, hOpen, hOctets⟩
  rw [feed_of_endEach hEnded hOpen hOctets]
  exact hOpen

/- Octets can be fed in two parts. -/
theorem feed_append
    (buffer xs ys : List UInt8) :
    feed buffer (xs ++ ys) =
      ((feed buffer xs).1 ++
          (feed (feed buffer xs).2 ys).1,
        (feed (feed buffer xs).2 ys).2) := by
  rcases exists_endEach lineFeed (buffer ++ xs) with
    ⟨ls, left, hEnded, hOpen, hOctets⟩
  rw [feed_of_endEach hEnded hOpen hOctets]
  rcases exists_endEach lineFeed (left ++ ys) with
    ⟨more, tail, hMoreEnded, hTailOpen, hMore⟩
  simp only [feed_of_endEach hMoreEnded hTailOpen hMore]
  apply feed_of_endEach
  · intro l hMem
    rcases List.mem_append.mp hMem with hMem | hMem
    · exact hEnded l hMem
    · exact hMoreEnded l hMem
  · exact hTailOpen
  · rw [← List.append_assoc, hOctets, List.append_assoc,
      hMore, endEach_append, List.append_assoc]

/- Feeding chunks is feeding their octets at once. -/
theorem feedAll_eq_feed
    {buffer : List UInt8}
    (hOpen : lineFeed ∉ buffer)
    (cs : List Chunk) :
    feedAll buffer cs =
      feed buffer (cs.flatMap Chunk.bytes) := by
  induction cs generalizing buffer with
  | nil =>
      have hNone :
          ∀ l ∈ ([] : List (List UInt8)), lineFeed ∉ l := by
        simp
      symm
      exact feed_of_endEach hNone hOpen (by simp)
  | cons c cs ih =>
      simp only [feedAll, List.flatMap_cons, feed_append]
      rw [ih (lineFeed_not_mem_feed buffer c.bytes)]

------------------------------------------------------------
-- Delivery
------------------------------------------------------------

/-
  The octets of each line that is delivered: the pieces
  between line feeds, without the last one if it is empty or
  the body failed.
-/
def deliveredLines
    (bs : List UInt8)
    (failed : Bool) : List (List UInt8) :=
  let parts := splitAll lineFeed bs
  if failed || parts.getLastD [] = [] then
    parts.dropLast
  else
    parts

/- What octets deliver, and the failure after them. -/
def Delivery.ofOctets
    (bs : List UInt8)
    (failure : Option Failure) : Delivery :=
  ⟨(deliveredLines bs failure.isSome).map lineText, failure⟩

/- The ended lines are delivered in any case. -/
theorem deliveredLines_endEach
    {ls : List (List UInt8)}
    {tail : List UInt8}
    (hEnded : ∀ l ∈ ls, lineFeed ∉ l)
    (hOpen : lineFeed ∉ tail)
    (failed : Bool) :
    deliveredLines (endEach lineFeed ls ++ tail) failed =
      if failed || tail = [] then ls else ls ++ [tail] := by
  simp only [deliveredLines]
  rw [splitAll_endEach_append hEnded hOpen]
  simp

/- If nothing follows them, they are all. -/
theorem deliveredLines_ended
    {ls : List (List UInt8)}
    (hEnded : ∀ l ∈ ls, lineFeed ∉ l)
    (failed : Bool) :
    deliveredLines (endEach lineFeed ls) failed = ls := by
  have hNone : lineFeed ∉ ([] : List UInt8) := by simp
  have hCut := deliveredLines_endEach hEnded hNone failed
  rw [List.append_nil] at hCut
  simpa using hCut

/- A body delivers its octets, whatever its chunks are. -/
theorem Body.delivery_eq (b : Body) :
    b.delivery =
      Delivery.ofOctets b.octets b.failure? := by
  rcases exists_endEach lineFeed b.octets with
    ⟨ls, tail, hEnded, hOpen, hOctets⟩
  have hFed : feedAll [] b.chunkList = (ls, tail) :=
    (feedAll_eq_feed (by simp) b.chunkList).trans
      (feed_of_endEach hEnded hOpen hOctets)
  simp only [Body.delivery, Delivery.ofOctets, hFed,
    hOctets, deliveredLines_endEach hEnded hOpen]
  cases b.failure? with
  | none => simp
  | some f => simp

------------------------------------------------------------
-- Written Lines
------------------------------------------------------------

/-
  Octets that hold lines of text: each line ends in a line
  feed, which a last line may lack if it is not empty.
-/
inductive HoldsLines : List UInt8 → List String → Prop
  | ended (ls : List String) :
      HoldsLines (endEach lineFeed (ls.map utf8)) ls
  | unended (ls : List String) (last : String) :
      last ≠ "" →
        HoldsLines
          (endEach lineFeed (ls.map utf8) ++ utf8 last)
          (ls ++ [last])

/- The body that holds lines, each of them ended. -/
def Body.ofLines (ls : List String) : Body :=
  .whole (.octets (endEach lineFeed (ls.map utf8)))

theorem Body.failure?_ofLines (ls : List String) :
    (Body.ofLines ls).failure? = none :=
  rfl

theorem Body.octets_ofLines (ls : List String) :
    (Body.ofLines ls).octets =
      endEach lineFeed (ls.map utf8) := by
  simp [Body.ofLines, Body.octets, Body.chunkList,
    Chunk.bytes]

theorem Body.holdsLines_ofLines (ls : List String) :
    HoldsLines (Body.ofLines ls).octets ls := by
  rw [Body.octets_ofLines]
  exact .ended ls

/- The text of a line is what was encoded. -/
@[simp] theorem lineText_utf8 (s : String) :
    lineText (utf8 s) = s := by
  simp [lineText, utf8, decode_encode]

/- A text without a line feed has none among its octets. -/
theorem lineFeed_not_mem_utf8
    {s : String}
    (hLine : '\n' ∉ s.toList) :
    lineFeed ∉ utf8 s := by
  intro hMem
  exact hLine ((lineFeed_mem_encode_iff s.toList).mp hMem)

theorem utf8_eq_nil_iff (s : String) :
    utf8 s = [] ↔ s = "" := by
  constructor
  · intro hNil
    have hText := lineText_utf8 s
    rw [hNil] at hText
    simpa [lineText, decode, pieces] using hText.symm
  · rintro rfl
    simp [utf8, encode]

/- Lines that octets hold are delivered. -/
theorem HoldsLines.delivery
    {bs : List UInt8}
    {ls : List String}
    (hHolds : HoldsLines bs ls)
    (hLines : ∀ l ∈ ls, '\n' ∉ l.toList) :
    Delivery.ofOctets bs none = ⟨ls, none⟩ := by
  have hEnded :
      ∀ part : List String,
        (∀ l ∈ part, '\n' ∉ l.toList) →
          ∀ l ∈ part.map utf8, lineFeed ∉ l := by
    intro part hPart l hMem
    rcases List.mem_map.mp hMem with ⟨s, hIn, rfl⟩
    exact lineFeed_not_mem_utf8 (hPart s hIn)
  cases hHolds with
  | ended =>
      simp only [Delivery.ofOctets, Option.isSome_none,
        deliveredLines_ended (hEnded ls hLines)]
      simp [Function.comp_def]
  | unended ls last hLast =>
      have hFront : ∀ l ∈ ls, '\n' ∉ l.toList := by
        intro l hMem
        exact hLines l (by simp [hMem])
      have hOpen : lineFeed ∉ utf8 last :=
        lineFeed_not_mem_utf8 (hLines last (by simp))
      have hCut :=
        deliveredLines_endEach (hEnded ls hFront) hOpen
          false
      simp only [Delivery.ofOctets, Option.isSome_none,
        hCut, utf8_eq_nil_iff, hLast]
      simp [Function.comp_def]

theorem Body.delivery_ofLines
    {ls : List String}
    (hLines : ∀ l ∈ ls, '\n' ∉ l.toList) :
    (Body.ofLines ls).delivery = ⟨ls, none⟩ := by
  rw [Body.delivery_eq]
  exact (Body.holdsLines_ofLines ls).delivery hLines

end ContainerBuild
