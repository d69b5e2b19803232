import ContainerBuild.Proofs.Json.Readback
import ContainerBuild.Proofs.Registry.Lookup
import ContainerBuild.Proofs.Text.Utf8

/-
  This file says when a registry is taken to have an image.
  If the answer lists the tags of the repository in an array,
  or has none, the look-up says whether the tag is an item,
  and any answer without tags is an error of the registry.
  But tags that are no array are not turned down: a part of a
  text or a name of a field counts as a tag, and some values
  fail the look-up in other ways.

  Key definitions include:
    * `Tags.list?`
    * `Response.Holds`
    * `TagLookup.IsListed`
    * `TagLookup.IsUnlisted`
    * `TagLookup.IsExact`
    * `TagLookup.Misreads`

  Main statements:
    * `TagLookup.isExact_or_misreads`
    * `TagLookup.Misreads.not_isExact`
    * `lookup_exact_iff`
-/

namespace ContainerBuild

open Text

------------------------------------------------------------
-- Tags
------------------------------------------------------------

namespace Tags

/-
  The tags that are listed: the items of an array, or none if
  there is no value. No other value is a list of tags.
-/
def list? : Option Json.Value → Option (List Json.Value)
  | none => some []
  | some .null => some []
  | some (.array items) => some items
  | some _ => none

theorem any_isTag_iff
    {tag : String}
    {items : List Json.Value} :
    items.any (isTag tag) = true ↔ .text tag ∈ items := by
  rw [List.any_eq_true]
  constructor
  · rintro ⟨v, hMem, hTag⟩
    cases v with
    | text s =>
        have hSame : s = tag := by simpa [isTag] using hTag
        exact hSame ▸ hMem
    | _ => exact absurd hTag (by simp [isTag])
  · intro hMem
    exact ⟨.text tag, hMem, by simp [isTag]⟩

/-
  What is made of a value that is no list of tags. A part of
  a text and the name of a field count as tags. Zeros and
  `false` count as no tags, and other numbers and `true`
  cannot be looked through.
-/
inductive MisreadAs
    (tag : String) :
    Json.Value → Except Failure Bool → Prop
  | bool (b : Bool) :
      MisreadAs tag (.bool b)
        (if b then .error .wrongKind else .ok false)
  | integer (n : Int) :
      MisreadAs tag (.integer n)
        (if n = 0 then .ok false else .error .wrongKind)
  | real (x : Binary64) :
      MisreadAs tag (.real x)
        (if x.isZero then .ok false else .error .wrongKind)
  | text (s : String) :
      MisreadAs tag (.text s)
        (.ok (s != "" && occursIn tag.toList s.toList))
  | object (named : JsonFields) :
      MisreadAs tag (.object named)
        (.ok (Json.Fields.has tag named))

/- Among listed tags the items are looked through. -/
theorem contains_of_list?
    {tags : Option Json.Value}
    {items : List Json.Value}
    (hList : list? tags = some items)
    (tag : String) :
    contains tag tags = .ok (items.any (isTag tag)) := by
  cases tags with
  | none =>
      cases hList
      rfl
  | some v =>
      cases v with
      | null =>
          cases hList
          rfl
      | array some =>
          cases hList
          cases items <;>
            simp [contains, Json.Value.isTruthy]
      | _ => exact absurd hList (by simp [list?])

/- Among other tags it depends on the kind of value. -/
theorem MisreadAs.contains_eq
    {tag : String}
    {v : Json.Value}
    {x : Except Failure Bool}
    (hMisread : MisreadAs tag v x) :
    contains tag (some v) = x := by
  cases hMisread with
  | bool b => cases b <;> rfl
  | integer n =>
      by_cases hZero : n = 0 <;>
        simp [contains, Json.Value.isTruthy, hZero]
  | real x =>
      cases hZero : x.isZero <;>
        simp [contains, Json.Value.isTruthy, hZero]
  | text s =>
      by_cases hEmpty : s = "" <;>
        simp [contains, Json.Value.isTruthy, hEmpty]
  | object named =>
      cases named <;>
        simp [contains, Json.Value.isTruthy, Json.Fields.has,
          Json.Fields.get?]

theorem MisreadAs.list?_eq
    {tag : String}
    {v : Json.Value}
    {x : Except Failure Bool}
    (hMisread : MisreadAs tag v x) :
    list? (some v) = none := by
  cases hMisread <;> rfl

theorem exists_misreadAs
    {v : Json.Value}
    (hList : list? (some v) = none)
    (tag : String) :
    ∃ x, MisreadAs tag v x := by
  cases v with
  | null => exact absurd hList (by simp [list?])
  | array items => exact absurd hList (by simp [list?])
  | bool b => exact ⟨_, .bool b⟩
  | integer n => exact ⟨_, .integer n⟩
  | real x => exact ⟨_, .real x⟩
  | text s => exact ⟨_, .text s⟩
  | object named => exact ⟨_, .object named⟩

/- No misreading is an error of the registry. -/
theorem MisreadAs.ne_registry
    {tag : String}
    {v : Json.Value}
    {x : Except Failure Bool}
    (hMisread : MisreadAs tag v x)
    (m : String) :
    x ≠ .error (.build (.registry m)) := by
  cases hMisread with
  | bool b => cases b <;> simp
  | integer n => split <;> simp
  | real x => split <;> simp
  | text s => simp
  | object named => simp

end Tags

------------------------------------------------------------
-- Answers
------------------------------------------------------------

/- An answer that is given holds the fields of an object. -/
structure Response.Holds
    (r : Response)
    (fields : JsonFields) : Prop where
  given : r.status = 200
  object : r.payload = .ok (.object fields)

theorem Response.Holds.unique
    {r : Response}
    {fields fields' : JsonFields}
    (hHolds : r.Holds fields)
    (hOther : r.Holds fields') :
    fields = fields' := by
  have hSame := hHolds.object.symm.trans hOther.object
  simpa using hSame

/- A body that was written for an object holds its fields. -/
theorem Response.holds_of_write
    {body : String}
    {fields : JsonFields}
    (hBody :
      body.toList = Json.write .compact (.object fields))
    (hFits :
      Json.Fits .standard Json.Limits.standard.depth
        (.object fields)) :
    (Response.ofBody 200 [] (utf8 body)).Holds fields where
  given := rfl
  object := by
    have hRead :
        Json.read (decode (utf8 body)) =
          .ok (.object fields) := by
      rw [utf8, decode_encode, hBody]
      exact Json.readWithin_write Json.Style.isPlain_compact
        hFits
    unfold ofBody
    simp only [hRead]
    rfl

namespace TagLookup

variable {l : TagLookup}
variable {r : Response}
variable {fields : JsonFields}
variable {items : List Json.Value}

/- The answer lists the tag in an array. -/
def IsListed
    (l : TagLookup)
    (answer : Except Failure Response) : Prop :=
  ∃ r fields items,
    answer = .ok r ∧ r.Holds fields ∧
      Json.Fields.get? "tags" fields =
        some (.array items) ∧
      .text l.tag ∈ items

/-
  The answer says that the tag is not there: the repository
  is unknown, or its tags are listed without it.
-/
inductive IsUnlisted
    (l : TagLookup) : Except Failure Response → Prop
  | unknown (r : Response) :
      r.status = 404 → IsUnlisted l (.ok r)
  | listed
      (r : Response)
      (fields : JsonFields)
      (items : List Json.Value) :
      r.Holds fields →
      Tags.list? (Json.Fields.get? "tags" fields) =
        some items →
      .text l.tag ∉ items →
        IsUnlisted l (.ok r)

/-
  The result says exactly what the answer says, and if that
  says nothing, it is an error of the registry.
-/
structure IsExact
    (l : TagLookup)
    (answer : Except Failure Response)
    (result : Except Failure Bool) : Prop where
  found : result = .ok true ↔ l.IsListed answer
  missing : result = .ok false ↔ l.IsUnlisted answer
  unclear :
    ¬ l.IsListed answer → ¬ l.IsUnlisted answer →
      ∃ m, result = .error (.build (.registry m))

/-
  The answers that are misread, and what is made of them:
  those that nest too deeply, and objects whose tags are no
  list.
-/
inductive Misreads
    (l : TagLookup) :
    Except Failure Response → Except Failure Bool → Prop
  | nested (r : Response) :
      r.status = 200 →
      r.payload = .error .tooDeep →
        Misreads l (.ok r) (.error .tooDeep)
  | unlisted
      (r : Response)
      (fields : JsonFields)
      (v : Json.Value)
      (x : Except Failure Bool) :
      r.Holds fields →
      Json.Fields.get? "tags" fields = some v →
      Tags.MisreadAs l.tag v x →
        Misreads l (.ok r) x

------------------------------------------------------------
-- Silent answers
------------------------------------------------------------

/- Without an answer there is nothing to say. -/
theorem silent_of_error
    (f : Failure)
    (l : TagLookup) :
    ¬ l.IsListed (.error f) ∧ ¬ l.IsUnlisted (.error f) := by
  constructor
  · rintro ⟨r, fields, items, hSame, _⟩
    exact absurd hSame (by simp)
  · rintro ⟨⟩

/- Nor is there if a known repository gives no object. -/
theorem silent_of_refused
    (hKnown : r.status ≠ 404)
    (hNone : ∀ fields, ¬ r.Holds fields)
    (l : TagLookup) :
    ¬ l.IsListed (.ok r) ∧ ¬ l.IsUnlisted (.ok r) := by
  constructor
  · rintro ⟨r', fields, items, hSame, hHolds, _⟩
    cases hSame
    exact hNone fields hHolds
  · rintro (⟨_, hUnknown⟩ | ⟨_, fields, items, hHolds, _⟩)
    · exact hKnown hUnknown
    · exact hNone fields hHolds

/- Nor is there if the object has no list of tags. -/
theorem silent_of_list?
    (hHolds : r.Holds fields)
    (hList :
      Tags.list? (Json.Fields.get? "tags" fields) = none)
    (l : TagLookup) :
    ¬ l.IsListed (.ok r) ∧ ¬ l.IsUnlisted (.ok r) := by
  constructor
  · rintro ⟨r', fields', items, hSame, hOther, hTags, _⟩
    cases hSame
    cases hHolds.unique hOther
    rw [hTags] at hList
    exact absurd hList (by simp [Tags.list?])
  · rintro (⟨_, hUnknown⟩ |
      ⟨_, fields', items, hOther, hItems, _⟩)
    · rw [hHolds.given] at hUnknown
      exact absurd hUnknown (by decide)
    · cases hHolds.unique hOther
      rw [hList] at hItems
      exact absurd hItems (by simp)

/- For such an answer an error of the registry is exact. -/
theorem isExact_of_silent
    {answer : Except Failure Response}
    (hSilent :
      ¬ l.IsListed answer ∧ ¬ l.IsUnlisted answer)
    (m : String) :
    l.IsExact answer (.error (.build (.registry m))) := by
  refine ⟨?_, ?_, fun _ _ => ⟨m, rfl⟩⟩
  · simp [hSilent.1]
  · simp [hSilent.2]

theorem Misreads.silent
    {answer : Except Failure Response}
    {x : Except Failure Bool}
    (hMisreads : l.Misreads answer x) :
    ¬ l.IsListed answer ∧ ¬ l.IsUnlisted answer := by
  cases hMisreads with
  | nested r hStatus hDeep =>
      refine silent_of_refused ?_ ?_ l
      · rw [hStatus]
        decide
      · intro fields hHolds
        rw [hHolds.object] at hDeep
        exact absurd hDeep (by simp)
  | unlisted r fields v x hHolds hTags hMisread =>
      refine silent_of_list? hHolds ?_ l
      rw [hTags]
      exact hMisread.list?_eq

/- So what is made of a misread answer is never exact. -/
theorem Misreads.not_isExact
    {answer : Except Failure Response}
    {x : Except Failure Bool}
    (hMisreads : l.Misreads answer x) :
    ¬ l.IsExact answer x := by
  intro hExact
  rcases hExact.unclear hMisreads.silent.1
      hMisreads.silent.2 with ⟨m, hError⟩
  cases hMisreads with
  | nested => exact absurd hError (by simp)
  | unlisted _ _ _ _ _ _ hMisread =>
      exact hMisread.ne_registry m hError

------------------------------------------------------------
-- Results
------------------------------------------------------------

theorem lookupAnswer_of_holds
    (hHolds : r.Holds fields)
    (l : TagLookup) :
    RegistryClient.lookupAnswer l r =
      Tags.contains l.tag
        (Json.Fields.get? "tags" fields) := by
  simp [RegistryClient.lookupAnswer, hHolds.given, objectOf,
    hHolds.object]

theorem Misreads.lookupAnswer_eq
    {x : Except Failure Bool}
    (hMisreads : l.Misreads (.ok r) x) :
    RegistryClient.lookupAnswer l r = x := by
  cases hMisreads with
  | nested _ hStatus hDeep =>
      simp [RegistryClient.lookupAnswer, hStatus, objectOf,
        hDeep]
  | unlisted _ fields v _ hHolds hTags hMisread =>
      rw [lookupAnswer_of_holds hHolds, hTags,
        hMisread.contains_eq]

theorem isExact_of_unknown
    (hStatus : r.status = 404)
    (l : TagLookup) :
    l.IsExact (.ok r) (.ok false) := by
  have hListed : ¬ l.IsListed (.ok r) := by
    rintro ⟨r', fields, items, hSame, hHolds, _⟩
    cases hSame
    rw [hHolds.given] at hStatus
    exact absurd hStatus (by decide)
  have hUnlisted : l.IsUnlisted (.ok r) :=
    .unknown r hStatus
  refine ⟨?_, ?_, fun _ hOther => absurd hUnlisted hOther⟩
  · simp [hListed]
  · simp [hUnlisted]

theorem isListed_iff
    (hHolds : r.Holds fields)
    (hList :
      Tags.list? (Json.Fields.get? "tags" fields) =
        some items) :
    l.IsListed (.ok r) ↔ .text l.tag ∈ items := by
  constructor
  · rintro ⟨r', fields', items', hSame, hOther, hTags, hMem⟩
    cases hSame
    cases hHolds.unique hOther
    rw [hTags] at hList
    cases hList
    exact hMem
  · intro hMem
    refine ⟨r, fields, items, rfl, hHolds, ?_, hMem⟩
    unfold Tags.list? at hList
    split at hList
    · cases hList
      exact absurd hMem List.not_mem_nil
    · cases hList
      exact absurd hMem List.not_mem_nil
    · rename_i hTags
      cases hList
      exact hTags
    · exact absurd hList (by simp)

theorem isUnlisted_iff
    (hHolds : r.Holds fields)
    (hList :
      Tags.list? (Json.Fields.get? "tags" fields) =
        some items) :
    l.IsUnlisted (.ok r) ↔ .text l.tag ∉ items := by
  constructor
  · rintro (⟨_, hUnknown⟩ |
      ⟨_, fields', items', hOther, hItems, hFree⟩)
    · rw [hHolds.given] at hUnknown
      exact absurd hUnknown (by decide)
    · cases hHolds.unique hOther
      rw [hList] at hItems
      cases hItems
      exact hFree
  · exact .listed r fields items hHolds hList

/- In a list the tag is an item, or it is not. -/
theorem isExact_of_list?
    (hHolds : r.Holds fields)
    (hList :
      Tags.list? (Json.Fields.get? "tags" fields) =
        some items)
    (l : TagLookup) :
    l.IsExact (.ok r)
      (.ok (items.any (Tags.isTag l.tag))) := by
  have hListed := isListed_iff (l := l) hHolds hList
  have hUnlisted := isUnlisted_iff (l := l) hHolds hList
  refine ⟨?_, ?_, ?_⟩
  · rw [hListed, ← Tags.any_isTag_iff, Except.ok.injEq]
  · rw [hUnlisted, ← Tags.any_isTag_iff, Except.ok.injEq,
      Bool.not_eq_true]
  · rw [hListed, hUnlisted]
    exact fun hFree hMem => absurd hFree hMem

/- An object either has a list of tags or is misread. -/
theorem isExact_or_misreads_of_holds
    (hHolds : r.Holds fields)
    (l : TagLookup) :
    l.IsExact (.ok r) (RegistryClient.lookupAnswer l r) ∨
      ∃ x, l.Misreads (.ok r) x := by
  cases hList :
      Tags.list? (Json.Fields.get? "tags" fields) with
  | some items =>
      rw [lookupAnswer_of_holds hHolds,
        Tags.contains_of_list? hList]
      exact Or.inl (isExact_of_list? hHolds hList l)
  | none =>
      cases hTags : Json.Fields.get? "tags" fields with
      | none =>
          rw [hTags] at hList
          exact absurd hList (by simp [Tags.list?])
      | some v =>
          rw [hTags] at hList
          rcases Tags.exists_misreadAs hList l.tag with
            ⟨x, hMisread⟩
          exact Or.inr
            ⟨x, .unlisted r fields v x hHolds hTags hMisread⟩

/-
  Every answer is taken for what it says or misread. The
  cases are its status, its body, and the tags in it.
-/
theorem isExact_or_misreads
    (l : TagLookup)
    (r : Response) :
    l.IsExact (.ok r) (RegistryClient.lookupAnswer l r) ∨
      ∃ x, l.Misreads (.ok r) x := by
  by_cases hUnknown : r.status = 404
  · have hAnswer :
        RegistryClient.lookupAnswer l r = .ok false := by
      simp [RegistryClient.lookupAnswer, hUnknown]
    rw [hAnswer]
    exact Or.inl (isExact_of_unknown hUnknown l)
  by_cases hGiven : r.status = 200
  · cases hObject :
        objectOf ("tag list of " ++ l.repository) r with
    | ok fields =>
        exact isExact_or_misreads_of_holds
          ⟨hGiven, RegistryClient.objectOf_eq_ok hObject⟩ l
    | error f =>
        rcases RegistryClient.objectOf_eq_error hObject with
          ⟨m, rfl⟩ | ⟨rfl, hDeep⟩
        · have hAnswer :
              RegistryClient.lookupAnswer l r =
                .error (.build (.registry m)) := by
            simp [RegistryClient.lookupAnswer, hGiven,
              hObject]
          rw [hAnswer]
          refine Or.inl (isExact_of_silent
            (silent_of_refused hUnknown ?_ l) m)
          intro fields hHolds
          simp [objectOf, hHolds.object] at hObject
        · exact Or.inr ⟨_, .nested r hGiven hDeep⟩
  · have hAnswer :
        RegistryClient.lookupAnswer l r =
          .error (unexpectedStatus r.status
            ("listing tags of " ++ l.repository)) := by
      simp [RegistryClient.lookupAnswer, hUnknown, hGiven]
    rw [hAnswer]
    refine Or.inl (isExact_of_silent
      (silent_of_refused hUnknown ?_ l) _)
    intro fields hHolds
    exact hGiven hHolds.given

end TagLookup

------------------------------------------------------------
-- Look-ups
------------------------------------------------------------

section LookUps

variable {σ : Type}
variable {transport : Transport σ}
variable {c : RegistryClient}
variable {path name : String}
variable {l : TagLookup}
variable {s : σ}

/- The answer to the request of a look-up is looked at. -/
theorem RegistryClient.hasImage_of_ok
    {r : Response}
    (hLookup : l = TagLookup.ofName path name)
    (hAnswer :
      (transport (c.tagsRequest l.repository) s).1 = .ok r) :
    (c.hasImage transport path name s).1 =
      lookupAnswer l r := by
  subst hLookup
  rcases hRun : transport (c.tagsRequest
      (TagLookup.ofName path name).repository) s with
    ⟨answer, t⟩
  rw [hRun] at hAnswer
  cases hAnswer
  have hSend :
      send transport
          (c.tagsRequest
            (TagLookup.ofName path name).repository) s =
        (.ok r, t) :=
    Action.mapFailure_eq_ok_iff.mpr hRun
  exact congrArg Prod.fst (Action.next_of_ok hSend _)

/- Without an answer it is an error of the registry. -/
theorem RegistryClient.hasImage_of_error
    {f : Failure}
    (hTransport :
      ∀ r, (transport r).FailsOnly Failure.IsTransport)
    (hLookup : l = TagLookup.ofName path name)
    (hAnswer :
      (transport (c.tagsRequest l.repository) s).1 =
        .error f) :
    ∃ m, (c.hasImage transport path name s).1 =
      .error (.build (.registry m)) := by
  subst hLookup
  rcases requestFailure_of_isTransport
      (hTransport _ s f hAnswer) with
    ⟨m, hFailure⟩
  refine ⟨m, ?_⟩
  rw [← hFailure]
  exact Action.fst_next_of_error
    (Action.fst_mapFailure_of_error hAnswer _) _

end LookUps

/-
  A look-up over a transport says exactly what the answer of
  the registry says, or gives an error of the registry if
  that says nothing, if and only if the answer is not one of
  those that are misread. What is made of those is told by
  the kind of the answer.
-/
theorem lookup_exact_iff
    {σ : Type}
    {transport : Transport σ}
    (hTransport :
      ∀ r, (transport r).FailsOnly Failure.IsTransport)
    (c : RegistryClient)
    (path name : String)
    (s : σ)
    {l : TagLookup}
    (hLookup : l = TagLookup.ofName path name)
    {answer : Except Failure Response}
    (hAnswer :
      (transport (c.tagsRequest l.repository) s).1 =
        answer) :
    (l.IsExact answer (c.hasImage transport path name s).1 ↔
      ¬ ∃ x, l.Misreads answer x) ∧
    ∀ x, l.Misreads answer x →
      (c.hasImage transport path name s).1 = x := by
  cases answer with
  | error f =>
      rcases RegistryClient.hasImage_of_error hTransport
          hLookup hAnswer with
        ⟨m, hResult⟩
      have hRead : ∀ x, ¬ l.Misreads (.error f) x := by
        rintro x ⟨⟩
      rw [hResult]
      refine ⟨iff_of_true ?_ ?_, ?_⟩
      · exact TagLookup.isExact_of_silent
          (TagLookup.silent_of_error f l) m
      · rintro ⟨x, hMisreads⟩
        exact hRead x hMisreads
      · intro x hMisreads
        exact absurd hMisreads (hRead x)
  | ok r =>
      rw [RegistryClient.hasImage_of_ok hLookup hAnswer]
      refine ⟨⟨?_, ?_⟩, ?_⟩
      · rintro hExact ⟨x, hMisreads⟩
        rw [hMisreads.lookupAnswer_eq] at hExact
        exact hMisreads.not_isExact hExact
      · exact (l.isExact_or_misreads r).resolve_right
      · exact fun x hMisreads => hMisreads.lookupAnswer_eq

/- A registry that gives one body for every request. -/
def Transport.giving (body : String) : Transport Unit :=
  fun _ => Action.give (.ofBody 200 [] (utf8 body))

/- A client of that registry. -/
def RegistryClient.asking : RegistryClient :=
  ⟨"hub", 5000, "", "", false, usualTimeout⟩

/- Tags in an array. -/
def Tags.listed : String :=
  "\x7b\"tags\":[\"1\",\"web\"]\x7d"

/- A text instead of tags. -/
def Tags.unlisted : String :=
  "\x7b\"tags\":\"web-old\"\x7d"

/- The tag is an item, and the look-up says so. -/
theorem lookup_exact_iff_sample :
    (TagLookup.mk "tools/demo" "web").IsExact
        (.ok (.ofBody 200 [] (utf8 Tags.listed)))
        (RegistryClient.asking.hasImage (.giving Tags.listed)
          "tools/demo" "web" ()).1 ∧
      (RegistryClient.asking.hasImage (.giving Tags.listed)
        "tools/demo" "web" ()).1 = .ok true := by
  have hHolds :
      (Response.ofBody 200 [] (utf8 Tags.listed)).Holds
        [("tags", .array [.text "1", .text "web"])] := by
    refine Response.holds_of_write (by decide) ?_
    refine .object 989 _ (by simp) ?_
    simp only [List.forall_mem_singleton]
    refine .array 988 _ ?_
    simp [Json.Fits.text]
  have hRead :
      ¬ ∃ x,
        (TagLookup.mk "tools/demo" "web").Misreads
          (.ok (.ofBody 200 [] (utf8 Tags.listed))) x := by
    rintro ⟨x, ⟨_, _, hDeep⟩ |
      ⟨_, fields, v, _, hOther, hTags, hMisread⟩⟩
    · rw [hHolds.object] at hDeep
      exact absurd hDeep (by simp)
    · cases hHolds.unique hOther
      have hNone := hMisread.list?_eq
      rw [← hTags] at hNone
      exact absurd hNone
        (by simp [Tags.list?, Json.Fields.get?])
  have hExact :=
    (@lookup_exact_iff Unit (.giving Tags.listed)
      (fun _ => .give _) .asking "tools/demo" "web" ()
      ⟨"tools/demo", "web"⟩ rfl _ rfl).1.mpr hRead
  exact ⟨hExact, hExact.found.mpr
    ⟨_, _, _, rfl, hHolds, rfl, by simp⟩⟩

/- A tag is taken to be there if it is a part of a text. -/
theorem not_lookup_exact :
    (RegistryClient.asking.hasImage (.giving Tags.unlisted)
        "tools/demo" "web" ()).1 = .ok true ∧
      ¬ (TagLookup.mk "tools/demo" "web").IsExact
        (.ok (.ofBody 200 [] (utf8 Tags.unlisted)))
        (RegistryClient.asking.hasImage
          (.giving Tags.unlisted) "tools/demo" "web" ()).1 := by
  have hHolds :
      (Response.ofBody 200 [] (utf8 Tags.unlisted)).Holds
        [("tags", .text "web-old")] := by
    refine Response.holds_of_write (by decide) ?_
    refine .object 989 _ (by simp) ?_
    simp [Json.Fits.text]
  have hMisreads :
      (TagLookup.mk "tools/demo" "web").Misreads
        (.ok (.ofBody 200 [] (utf8 Tags.unlisted)))
        (.ok ("web-old" != "" &&
          occursIn "web".toList "web-old".toList)) :=
    .unlisted _ _ _ _ hHolds rfl (.text "web-old")
  have hFound :
      ("web-old" != "" &&
        occursIn "web".toList "web-old".toList) = true := by
    decide
  have hResult :
      (RegistryClient.asking.hasImage
        (.giving Tags.unlisted) "tools/demo" "web" ()).1 =
          .ok true :=
    (RegistryClient.hasImage_of_ok rfl rfl).trans
      (hFound ▸ hMisreads.lookupAnswer_eq)
  rw [hResult]
  exact ⟨rfl, hFound ▸ hMisreads.not_isExact⟩

end ContainerBuild
