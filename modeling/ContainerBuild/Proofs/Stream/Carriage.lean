import ContainerBuild.Proofs.Json.Written
import ContainerBuild.Proofs.Stream.Demux
import ContainerBuild.Stream.Parsed

/-
  This file shows that a stream carries a transcript: lines
  that spell the fragments of a text, with idle lines among
  them, are demuxed to that text, wherever it was cut.

  Key definitions include:
    * `Carries`
    * `fragmentLine`

  Main statements:
    * `carries_fragmentLines`
    * `readLine_fragment`
    * `demuxLines_of_carries`
    * `demux_of_carries`
    * `parseBody_of_carries`
-/

namespace ContainerBuild

open Text

------------------------------------------------------------
-- Carrying Lines
------------------------------------------------------------

/- Fields that say nothing about a build. -/
structure IsIdle
    (fields : List (String × Json.Value)) : Prop where
  noError : Json.Fields.get? "error" fields = none
  noDetail : Json.Fields.get? "errorDetail" fields = none
  noFragment :
    ∀ s, Json.Fields.get? "stream" fields ≠ some (.text s)

/-
  Lines that carry fragments: each fragment is the `stream`
  field of an object of its own. Blank lines and objects
  that say nothing may stand anywhere.
-/
inductive Carries : List String → List String → Prop
  | done : Carries [] []
  | fragment
      {line fragment : String}
      {ls fragments : List String} :
      Json.SpellsField "stream" fragment line.toList →
        Carries ls fragments →
          Carries (line :: ls) (fragment :: fragments)
  | blank {line : String} {ls fragments : List String} :
      line.toList.all isBlank = true →
        Carries ls fragments →
          Carries (line :: ls) fragments
  | idle
      {line : String}
      {ls fragments : List String}
      {fields : List (String × Json.Value)} :
      Json.read line.toList = .ok (.object fields) →
        IsIdle fields →
          Carries ls fragments →
            Carries (line :: ls) fragments

/- The line that is written for a field. -/
def fieldLine (name value : String) : String :=
  Json.writeString .compact
    (.object [(name, .text value)])

theorem spellsField_fieldLine (name value : String) :
    Json.SpellsField name value
      (fieldLine name value).toList := by
  have hSpells :=
    Json.spellsField_write .compact rfl
      (by simp [Json.IsGap]) name value
  simpa [fieldLine, Json.writeString] using hSpells

/- The line that is written for a fragment. -/
def fragmentLine (fragment : String) : String :=
  fieldLine "stream" fragment

/- The lines written for fragments carry them. -/
theorem carries_fragmentLines (fragments : List String) :
    Carries (fragments.map fragmentLine) fragments := by
  induction fragments with
  | nil => exact .done
  | cons fragment rest ih =>
      exact .fragment (spellsField_fieldLine "stream" fragment) ih

------------------------------------------------------------
-- Reading Lines
------------------------------------------------------------

/- The text of a fragment is not blank: it has marks. -/
theorem spellsField_not_blank
    {name value : String}
    {cs : List Char}
    (hSpells : Json.SpellsField name value cs) :
    cs.all isBlank = false := by
  have hMark : isBlank '\x7b' = false := by decide
  cases hSpells with
  | mk => simp [List.all_append, hMark]

/- A line that spells a field is the record of it. -/
theorem readLine_of_spellsField
    {name value line : String}
    (hSpells : Json.SpellsField name value line.toList) :
    readLine line =
      .record (Record.ofFields [(name, .text value)]) :=
  readLine_of_fields (spellsField_not_blank hSpells)
    (Json.read_of_spellsField hSpells)

/- A line that spells a fragment is read as one. -/
theorem readLine_fragment
    {line fragment : String}
    (hSpells :
      Json.SpellsField "stream" fragment line.toList) :
    readLine line = .record (.fragment fragment) := by
  rw [readLine_of_spellsField hSpells]
  simp [Record.ofFields, Json.Fields.has, Json.Fields.get?]

/- A line that is a list is no record. -/
theorem readLine_noItems :
    readLine "[]" =
      .malformed
        (fun n => lineOfStream n ++ "a JSON object") := by
  have hRead :
      Json.read "[]".toList = .ok (.array []) :=
    Json.read_noItems
  simp only [readLine, hRead]
  rfl

/- Fields that say nothing make no fragment and no error. -/
theorem ofFields_of_isIdle
    {fields : List (String × Json.Value)}
    (hIdle : IsIdle fields) :
    Record.ofFields fields = .other := by
  simp only [Record.ofFields, Json.Fields.has,
    hIdle.noError, hIdle.noDetail]
  cases hStream : Json.Fields.get? "stream" fields with
  | none => rfl
  | some v =>
      cases v with
      | text s => exact absurd hStream (hIdle.noFragment s)
      | null => rfl
      | bool b => rfl
      | integer n => rfl
      | real x => rfl
      | array items => rfl
      | object inner => rfl

/- An object that says nothing is a record of its own. -/
theorem readLine_of_isIdle
    {line : String}
    {fields : List (String × Json.Value)}
    (hBlank : line.toList.all isBlank = false)
    (hRead : Json.read line.toList = .ok (.object fields))
    (hIdle : IsIdle fields) :
    readLine line = .record .other := by
  rw [readLine_of_fields hBlank hRead,
    ofFields_of_isIdle hIdle]

------------------------------------------------------------
-- Demuxing
------------------------------------------------------------

/- Carried fragments are put behind the text so far. -/
theorem demuxLines_of_carries
    {ls fragments : List String}
    (hCarries : Carries ls fragments)
    (number : Nat)
    (text : String)
    (records : Nat) :
    ∃ count,
      demuxLines number text records none ls =
        .ok ⟨text ++ String.join fragments, none,
          count⟩ := by
  induction hCarries generalizing number text records with
  | done => exact ⟨records, by simp [demuxLines]⟩
  | @fragment line s ls fragments hSpells _ ih =>
      rcases ih (number + 1) (text ++ s) (records + 1) with
        ⟨count, hRest⟩
      refine ⟨count, ?_⟩
      simp only [demuxLines, readLine_fragment hSpells,
        hRest, String.join_cons, String.append_assoc]
  | @blank line ls fragments hBlank _ ih =>
      rcases ih (number + 1) text records with
        ⟨count, hRest⟩
      refine ⟨count, ?_⟩
      simp only [demuxLines, readLine_blank hBlank, hRest]
  | @idle line ls fragments fields hRead hIdle _ ih =>
      cases hBlank : line.toList.all isBlank with
      | true =>
          rcases ih (number + 1) text records with
            ⟨count, hRest⟩
          refine ⟨count, ?_⟩
          simp only [demuxLines, readLine_blank hBlank,
            hRest]
      | false =>
          rcases ih (number + 1) text (records + 1) with
            ⟨count, hRest⟩
          refine ⟨count, ?_⟩
          simp only [demuxLines,
            readLine_of_isIdle hBlank hRead hIdle, hRest]

/- A body of carrying lines carries the joined text. -/
theorem demux_of_carries
    {b : Body}
    {ls fragments : List String}
    (hCarries : Carries ls fragments)
    (hHolds : HoldsLines b.octets ls)
    (hLines : ∀ l ∈ ls, '\n' ∉ l.toList)
    (hWhole : b.failure? = none) :
    ∃ count,
      b.demux =
        .ok ⟨String.join fragments, none, count⟩ := by
  rcases demuxLines_of_carries hCarries 1 "" 0 with
    ⟨count, hDemux⟩
  refine ⟨count, ?_⟩
  rw [Body.demux_eq, hWhole, demuxOctets,
    hHolds.delivery hLines, hDemux, String.empty_append]

/- Its report is the report of the joined text. -/
theorem parseBody_of_carries
    {b : Body}
    {ls fragments : List String}
    (hCarries : Carries ls fragments)
    (hHolds : HoldsLines b.octets ls)
    (hLines : ∀ l ∈ ls, '\n' ∉ l.toList)
    (hWhole : b.failure? = none) :
    parseBody b = parseText (String.join fragments) := by
  rcases demux_of_carries hCarries hHolds hLines hWhole with
    ⟨count, hDemux⟩
  simp only [parseBody, hDemux, Demuxed.parse]
  cases parseText (String.join fragments) with
  | ok p => rfl
  | error f => rfl

/- Lines of a stream with an error after the final image. -/
def lateErrorLines : List String :=
  [fragmentLine "Successfully built 4a5b\n",
    fieldLine "error" "disk full"]

theorem demux_lateErrorLines :
    (Body.ofLines lateErrorLines).demux =
      .ok
        ⟨"Successfully built 4a5b\n",
          some (.streamError "disk full" none), 2⟩ := by
  have hFirst :=
    readLine_fragment
      (spellsField_fieldLine "stream"
        "Successfully built 4a5b\n")
  have hSecond :
      readLine (fieldLine "error" "disk full") =
        .record (.error "disk full" none) :=
    readLine_of_spellsField
      (spellsField_fieldLine "error" "disk full")
  unfold Body.demux
  rw [Body.delivery_ofLines (by decide)]
  simp only [lateErrorLines, fragmentLine, demuxLines,
    hFirst, hSecond]
  rfl

end ContainerBuild
