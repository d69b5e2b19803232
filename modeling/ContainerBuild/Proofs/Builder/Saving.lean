import ContainerBuild.Proofs.Files.TemporaryFile
import ContainerBuild.Proofs.Registry.Archive

/-
  This file says what saving an image leaves on the disk. The
  new file holds the archive, or it is gone after errors of
  the registry and of the system. It stays if the manifest
  nests too deeply, or lists something that is no layer, or
  describes a blob in a way that cannot be used, and if a
  blob breaks off with another failure while it is read.

  Key definitions include:
    * `Descriptor.IsUnusable`
    * `RegistryClient.Spoils`
    * `Builder.SpoilsSave`
    * `Builder.SaveEnds`

  Main statements:
    * `RegistryClient.Spoils.not_discards`
    * `RegistryClient.discards_or_spoils`
    * `Builder.saveEnds_save`
    * `failed_save_leaves_iff`
-/

namespace ContainerBuild

------------------------------------------------------------
-- Spoiled Downloads
------------------------------------------------------------

variable {f : Failure}

theorem Manifest.not_discards_of_descriptors
    {fields : JsonFields}
    (hDescriptors : descriptors fields = .error f) :
    Builder.discardsAfter f = false := by
  unfold descriptors at hDescriptors
  split at hDescriptors
  · exact absurd hDescriptors (by simp)
  · split at hDescriptors
    · rename_i hLayers
      cases hDescriptors
      unfold layers at hLayers
      split at hLayers
      all_goals cases hLayers
      rfl
    · exact absurd hDescriptors (by simp)

namespace Descriptor

variable {d digest : Json.Value}

theorem not_discards_of_field
    {name : String}
    (hField : field name d = .error f) :
    Builder.discardsAfter f = false := by
  unfold field at hField
  split at hField
  · split at hField
    · exact absurd hField (by simp)
    · cases hField
      rfl
  · cases hField
    rfl

theorem not_discards_of_sizeOf
    {v : Json.Value}
    (hSize : sizeOf v = .error f) :
    Builder.discardsAfter f = false := by
  unfold sizeOf sizeOfReal at hSize
  split at hSize
  · exact absurd hSize (by simp)
  · exact absurd hSize (by simp)
  · split at hSize
    all_goals cases hSize
    all_goals rfl
  · split at hSize
    all_goals cases hSize
    rfl
  · cases hSize
    rfl

theorem not_discards_of_size
    (hSize : size d = .error f) :
    Builder.discardsAfter f = false := by
  unfold size at hSize
  split at hSize
  · rename_i hField
    cases hSize
    exact not_discards_of_field hField
  · exact not_discards_of_sizeOf hSize

/-
  A descriptor is of no use for the blob that was served: its
  digest is no text, or its size is none.
-/
inductive IsUnusable
    (d : Json.Value) : Json.Value → Failure → Prop
  | unnamed (digest : Json.Value) (f : Failure) :
      memberName digest = .error f →
        IsUnusable d digest f
  | unsized (text : String) (f : Failure) :
      size d = .error f →
        IsUnusable d (.text text) f

theorem IsUnusable.not_discards
    (hUnusable : IsUnusable d digest f) :
    Builder.discardsAfter f = false := by
  cases hUnusable with
  | unnamed _ _ hName =>
      unfold memberName at hName
      split at hName
      all_goals cases hName
      rfl
  | unsized text _ hSize => exact not_discards_of_size hSize

/- No member is made for that reason, or for want of octets. -/
theorem isUnusable_or_cutBlob
    {r : Response}
    (hMember : blobMember d digest r = .error f) :
    IsUnusable d digest f ∨
      ∃ text n,
        digest = .text text ∧ size d = .ok n ∧
          cutBlob n r = .error f := by
  rcases blobMember_eq_error hMember with
    hName | ⟨text, rfl, hSize | ⟨n, hSize, hCut⟩⟩
  · exact Or.inl (.unnamed digest f hName)
  · exact Or.inl (.unsized text f hSize)
  · exact Or.inr ⟨text, n, rfl, hSize, hCut⟩

end Descriptor

namespace RegistryClient

variable {σ : Type}
variable {c : RegistryClient}
variable {transport : Transport σ}
variable {fullName tag : String}
variable {made : List Exchange}
variable {s : σ}

/-
  What is exchanged before a failure that nobody takes for
  one of the registry or of the system, and that failure.
-/
inductive Spoils
    (c : RegistryClient)
    (fullName tag : String) :
    List Exchange → Failure → Prop
  | nested (manifest : Response) :
      manifest.status = 200 →
      manifest.payload = .error .tooDeep →
        Spoils c fullName tag
          [⟨c.manifestRequest .get fullName tag,
            .ok manifest⟩]
          .tooDeep
  | unlisted
      (manifest : Response)
      (fields : JsonFields)
      (f : Failure) :
      manifest.status = 200 →
      manifest.payload = .ok (.object fields) →
      Manifest.descriptors fields = .error f →
        Spoils c fullName tag
          [⟨c.manifestRequest .get fullName tag,
            .ok manifest⟩]
          f
  | undescribed
      (manifest : Response)
      (fields : JsonFields)
      (bs : List FetchedBlob)
      (d : Json.Value)
      (rest : List Json.Value)
      (f : Failure) :
      Lists manifest fields
        (bs.map FetchedBlob.descriptor ++ d :: rest) →
      Descriptor.digest d = .error f →
        Spoils c fullName tag
          (⟨c.manifestRequest .get fullName tag,
              .ok manifest⟩ ::
            bs.map (FetchedBlob.exchange c fullName))
          f
  | unusable
      (manifest : Response)
      (fields : JsonFields)
      (bs : List FetchedBlob)
      (d digest : Json.Value)
      (rest : List Json.Value)
      (answer : Response)
      (f : Failure) :
      Lists manifest fields
        (bs.map FetchedBlob.descriptor ++ d :: rest) →
      Descriptor.digest d = .ok digest →
      answer.status = 200 →
      Descriptor.IsUnusable d digest f →
        Spoils c fullName tag
          (⟨c.manifestRequest .get fullName tag,
              .ok manifest⟩ ::
            (bs.map (FetchedBlob.exchange c fullName)
              ++ [⟨c.blobRequest fullName digest.display,
                .ok answer⟩]))
          f
  | interrupted
      (manifest : Response)
      (fields : JsonFields)
      (bs : List FetchedBlob)
      (d : Json.Value)
      (digest : String)
      (size : Int)
      (rest : List Json.Value)
      (answer : Response)
      (f : Failure) :
      Lists manifest fields
        (bs.map FetchedBlob.descriptor ++ d :: rest) →
      Descriptor.digest d = .ok (.text digest) →
      Descriptor.size d = .ok size →
      answer.status = 200 →
      answer.BreaksOff (readLength size) f →
      Builder.discardsAfter f = false →
        Spoils c fullName tag
          (⟨c.manifestRequest .get fullName tag,
              .ok manifest⟩ ::
            (bs.map (FetchedBlob.exchange c fullName)
              ++ [⟨c.blobRequest fullName digest,
                .ok answer⟩]))
          f

theorem Spoils.not_discards
    (hSpoils : c.Spoils fullName tag made f) :
    Builder.discardsAfter f = false := by
  cases hSpoils with
  | nested => rfl
  | unlisted manifest fields f _ _ hDescriptors =>
      exact Manifest.not_discards_of_descriptors hDescriptors
  | undescribed manifest fields bs d rest f _ hDigest =>
      exact Descriptor.not_discards_of_field hDigest
  | unusable manifest fields bs d digest rest answer f _ _
      _ hUnusable =>
      exact hUnusable.not_discards
  | interrupted manifest fields bs d digest size rest answer
      f _ _ _ _ _ hKept => exact hKept

theorem discards_of_isTransport
    {r : Request}
    (hTransport : f.IsTransport) :
    Builder.discardsAfter (requestFailure r f) = true := by
  rcases requestFailure_of_isTransport (r := r) hTransport
    with ⟨m, hSame⟩
  rw [hSame]
  rfl

/- An answer that lists nothing ends the download. -/
theorem discards_or_spoils_of_manifest
    {manifest : Response}
    (hAnswer :
      manifestAnswer fullName tag manifest = .error f) :
    Builder.discardsAfter f = true ∨
      c.Spoils fullName tag
        [⟨c.manifestRequest .get fullName tag,
          .ok manifest⟩] f := by
  unfold manifestAnswer at hAnswer
  simp only at hAnswer
  by_cases hStatus : manifest.status = 200
  · rw [if_pos hStatus] at hAnswer
    split at hAnswer
    · rename_i hObject
      cases hAnswer
      rcases objectOf_eq_error hObject with
        ⟨m, rfl⟩ | ⟨rfl, hDeep⟩
      · exact Or.inl rfl
      · exact Or.inr (.nested manifest hStatus hDeep)
    · rename_i fields hObject
      exact Or.inr
        (.unlisted manifest fields f hStatus
          (objectOf_eq_ok hObject) hAnswer)
  · rw [if_neg hStatus] at hAnswer
    cases hAnswer
    exact Or.inl rfl

/-
  A blob that makes no member ends the download. One that is
  too short is an error of the system; one that breaks off
  may fail with anything.
-/
theorem discards_or_spoils_of_blob
    {manifest answer : Response}
    {fields : JsonFields}
    {bs : List FetchedBlob}
    {d digest : Json.Value}
    {rest : List Json.Value}
    (hLists :
      Lists manifest fields
        (bs.map FetchedBlob.descriptor ++ d :: rest))
    (hDigest : Descriptor.digest d = .ok digest)
    (hStatus : answer.status = 200)
    (hMember : blobMember d digest answer = .error f) :
    Builder.discardsAfter f = true ∨
      c.Spoils fullName tag
        (⟨c.manifestRequest .get fullName tag,
            .ok manifest⟩ ::
          (bs.map (FetchedBlob.exchange c fullName)
            ++ [⟨c.blobRequest fullName digest.display,
              .ok answer⟩]))
        f := by
  rcases Descriptor.isUnusable_or_cutBlob hMember with
    hUnusable | ⟨text, n, rfl, hSize, hCut⟩
  · exact Or.inr (.unusable manifest fields bs d digest rest
      answer f hLists hDigest hStatus hUnusable)
  · rcases cutBlob_eq_error hCut with ⟨rfl, _⟩ | hBreaks
    · exact Or.inl rfl
    · cases hKept : Builder.discardsAfter f with
      | true => exact Or.inl rfl
      | false =>
          exact Or.inr (.interrupted manifest fields bs d
            text n rest answer f hLists hDigest hSize hStatus
            hBreaks hKept)

/-
  A failed download: by an error of the registry or the
  system, or spoiled. What the transport answered itself is
  known of each exchange.
-/
theorem Downloads.discards_or_spoils
    (hDownloads : c.Downloads fullName tag made (.error f))
    (hAnswers :
      ∀ r g, ⟨r, .error g⟩ ∈ made → g.IsTransport) :
    Builder.discardsAfter f = true ∨
      c.Spoils fullName tag made f := by
  generalize hResult : Except.error f = result
    at hDownloads
  cases hDownloads with
  | lost g =>
      cases hResult
      exact Or.inl (discards_of_isTransport
        (hAnswers _ g (List.mem_singleton_self _)))
  | unlisted manifest g hAnswer =>
      cases hResult
      exact discards_or_spoils_of_manifest hAnswer
  | listed manifest ds more result hAnswer hFetches =>
      rcases exists_lists_of_manifestAnswer hAnswer with
        ⟨fields, hLists⟩
      cases hFetches with
      | all => exact absurd hResult (by simp [Except.map])
      | undescribed bs d rest g hSplit hDigest =>
          cases hResult
          exact Or.inr (.undescribed manifest fields bs d
            rest f (hSplit ▸ hLists) hDigest)
      | stopped bs d digest rest answer g hSplit hDigest
          hStops =>
          cases hResult
          cases hStops with
          | lost g =>
              exact Or.inl (discards_of_isTransport
                (hAnswers
                  (c.blobRequest fullName digest.display) g
                  (by simp)))
          | refused answer hStatus => exact Or.inl rfl
          | unusable answer g hStatus hMember =>
              exact discards_or_spoils_of_blob
                (hSplit ▸ hLists) hDigest hStatus hMember

theorem discards_or_spoils
    (hTransport :
      ∀ r, (transport r).FailsOnly Failure.IsTransport)
    (hDownload :
      (c.download transport fullName tag s).1 = .error f) :
    Builder.discardsAfter f = true ∨
      c.Spoils fullName tag
        (c.exchanges transport fullName tag s) f := by
  have hDownloads := c.downloads transport fullName tag s
  rw [hDownload] at hDownloads
  apply hDownloads.discards_or_spoils
  intro r g hMem
  exact isTransport_of_mem_exchanges hTransport hMem rfl

end RegistryClient

------------------------------------------------------------
-- Saving
------------------------------------------------------------

/- A transport leaves the disk alone. -/
def Transport.IsQuiet
    {σ : Type}
    (transport : Transport σ)
    (access : DiskAccess σ) : Prop :=
  ∀ r s, access.view (transport r s).2 = access.view s

namespace Builder

variable {σ : Type}
variable {b : Builder σ}
variable {c : RegistryClient}
variable {transport : Transport σ}
variable {namespaceName name tag fullName : String}
variable {p : Path}
variable {l : Location}
variable {d : Disk}
variable {s t u : σ}

/- The world in which a download for a new file starts. -/
def opened
    (b : Builder σ)
    (s : σ) : σ :=
  (b.access.lift (Disk.makeTemporaryFile ".tar") s).2

/-
  The download for a new file is spoiled, and fails like
  that.
-/
structure SpoilsSave
    (b : Builder σ)
    (c : RegistryClient)
    (transport : Transport σ)
    (fullName tag : String)
    (s : σ)
    (f : Failure) : Prop where
  made :
    ∃ p, (Disk.makeTemporaryFile ".tar"
      (b.access.view s)).1 = .ok p
  spoils :
    c.Spoils fullName tag
      (c.exchanges transport fullName tag (b.opened s)) f

theorem view_download
    {access : DiskAccess σ}
    (hQuiet : transport.IsQuiet access)
    {r : Except Failure (List Member)}
    (hDownload :
      c.download transport fullName tag t = (r, u)) :
    access.view u = access.view t := by
  have hKeeps :=
    RegistryClient.download_keeps
      (P := fun w => access.view w = access.view t)
      (fun r w hSame => (hQuiet r w).trans hSame) c fullName
      tag t rfl
  rwa [hDownload] at hKeeps

/- After a download the archive takes the file's place. -/
theorem saveInto_of_ok
    {access : DiskAccess σ}
    {members : List Member}
    (hAccess : access.IsFaithful)
    (hQuiet : transport.IsQuiet access)
    (hFile :
      Disk.HasNewFile p l (.octets []) d (access.view t))
    (hDownload :
      c.download transport fullName tag t =
        (.ok members, u)) :
    ∃ w,
      saveInto access (c.save transport access fullName tag)
          p t = (.ok p, w) ∧
        Disk.HasNewFile p l (.archive members) d
          (access.view w) := by
  rw [← view_download hQuiet hDownload] at hFile
  rcases hFile.store (.archive members) with
    ⟨d', hStore, hStored⟩
  refine ⟨access.update d' u, ?_, ?_⟩
  · have hSave :
        c.save transport access fullName tag p t =
          (.ok (), access.update d' u) := by
      rw [RegistryClient.save_of_ok hDownload,
        DiskAccess.lift_eq hStore]
    simp only [saveInto, hSave]
  · rw [hAccess d' u]
    exact hStored

/- After some failures the file is discarded. -/
theorem saveInto_of_discards
    {access : DiskAccess σ}
    (hAccess : access.IsFaithful)
    (hQuiet : transport.IsQuiet access)
    (hFile :
      Disk.HasNewFile p l (.octets []) d (access.view t))
    (hDownload :
      c.download transport fullName tag t = (.error f, u))
    (hDiscards : discardsAfter f = true) :
    ∃ w,
      saveInto access (c.save transport access fullName tag)
          p t = (.error f, w) ∧
        ∀ m, Disk.entry? (access.view w) m = d.entry? m := by
  rw [← view_download hQuiet hDownload] at hFile
  rcases hFile.discard with ⟨d', hDiscard, hSame⟩
  refine ⟨access.update d' u, ?_, ?_⟩
  · simp only [saveInto,
      RegistryClient.save_of_error hDownload, hDiscards,
      if_true, DiskAccess.lift_eq hDiscard]
  · rw [hAccess d' u]
    exact hSame

/- After all others it is still there. -/
theorem saveInto_of_not_discards
    {access : DiskAccess σ}
    (hQuiet : transport.IsQuiet access)
    (hFile :
      Disk.HasNewFile p l (.octets []) d (access.view t))
    (hDownload :
      c.download transport fullName tag t = (.error f, u))
    (hDiscards : discardsAfter f = false) :
    saveInto access (c.save transport access fullName tag)
        p t = (.error f, u) ∧
      Disk.HasNewFile p l (.octets []) d
        (access.view u) := by
  rw [← view_download hQuiet hDownload] at hFile
  refine ⟨?_, hFile⟩
  simp only [saveInto, RegistryClient.save_of_error hDownload,
    hDiscards, Bool.false_eq_true, if_false]

/-
  How saving an image ends: the new file holds what was
  downloaded; or the download was spoiled and the new file is
  left; or it failed otherwise and nothing is left.
-/
inductive SaveEnds
    (b : Builder σ)
    (c : RegistryClient)
    (transport : Transport σ)
    (fullName tag : String)
    (s : σ) : Except Failure Path × σ → Prop
  | saved
      (p : Path)
      (l : Location)
      (manifest : Response)
      (fields : JsonFields)
      (bs : List FetchedBlob)
      (w : σ) :
      c.Serves fullName tag
        (c.exchanges transport fullName tag (b.opened s))
        manifest fields bs →
      Disk.HasNewFile p l
        (.archive (RegistryClient.membersOf manifest bs))
        (b.access.view s) (b.access.view w) →
        SaveEnds b c transport fullName tag s (.ok p, w)
  | spoiled (f : Failure) (p : Path) (l : Location) (w : σ) :
      b.SpoilsSave c transport fullName tag s f →
      Disk.HasNewFile p l (.octets []) (b.access.view s)
        (b.access.view w) →
        SaveEnds b c transport fullName tag s (.error f, w)
  | clean (f : Failure) (w : σ) :
      ¬ b.SpoilsSave c transport fullName tag s f →
      (∀ m, Disk.entry? (b.access.view w) m =
        Disk.entry? (b.access.view s) m) →
        SaveEnds b c transport fullName tag s (.error f, w)

/- Once there is a new file, the download decides. -/
theorem saveEnds_of_newFile
    (hAccess : b.access.IsFaithful)
    (hTransport :
      ∀ r, (transport r).FailsOnly Failure.IsTransport)
    (hQuiet : transport.IsQuiet b.access)
    (hMade :
      (Disk.makeTemporaryFile ".tar" (b.access.view s)).1 =
        .ok p)
    (hFile :
      Disk.HasNewFile p l (.octets []) (b.access.view s)
        (b.access.view (b.opened s)))
    (fullName tag : String) :
    b.SaveEnds c transport fullName tag s
      (saveInto b.access
        (c.save transport b.access fullName tag) p
        (b.opened s)) := by
  rcases hDownload : c.download transport fullName tag
      (b.opened s) with ⟨result, u⟩
  cases result with
  | ok members =>
      have hDownloads :=
        c.downloads transport fullName tag (b.opened s)
      rw [hDownload] at hDownloads
      rcases hDownloads.exists_serves with
        ⟨manifest, fields, bs, hServes, rfl⟩
      rcases saveInto_of_ok hAccess hQuiet hFile hDownload
        with ⟨w, hRun, hStored⟩
      rw [hRun]
      exact .saved p l manifest fields bs w hServes hStored
  | error f =>
      cases hDiscards : discardsAfter f with
      | true =>
          rcases saveInto_of_discards hAccess hQuiet hFile
              hDownload hDiscards with
            ⟨w, hRun, hSame⟩
          rw [hRun]
          refine .clean f w ?_ hSame
          intro hSpoils
          rw [hSpoils.spoils.not_discards] at hDiscards
          exact absurd hDiscards (by simp)
      | false =>
          rcases saveInto_of_not_discards hQuiet hFile
              hDownload hDiscards with
            ⟨hRun, hLeft⟩
          rw [hRun]
          have hSpoils :=
            (RegistryClient.discards_or_spoils hTransport
              (congrArg Prod.fst hDownload)).resolve_left
                (by simp [hDiscards])
          exact .spoiled f p l u ⟨⟨p, hMade⟩, hSpoils⟩ hLeft

theorem save_eq
    (hRegistry :
      b.registry = some (c.registry transport b.access))
    (namespaceName name tag : String) :
    b.save namespaceName name tag =
      (b.access.lift (Disk.makeTemporaryFile ".tar")).next
        (saveInto b.access
          (c.save transport b.access
            (qualifiedName namespaceName name) tag)) := by
  unfold save
  rw [hRegistry]
  rfl

theorem saveEnds_save
    (hRegistry :
      b.registry = some (c.registry transport b.access))
    (hAccess : b.access.IsFaithful)
    (hTransport :
      ∀ r, (transport r).FailsOnly Failure.IsTransport)
    (hQuiet : transport.IsQuiet b.access)
    (namespaceName name tag : String)
    (s : σ) :
    b.SaveEnds c transport
      (qualifiedName namespaceName name) tag s
      (b.save namespaceName name tag s) := by
  rw [save_eq hRegistry]
  rcases hMake : Disk.makeTemporaryFile ".tar"
      (b.access.view s) with ⟨r, d⟩
  have hLift :
      b.access.lift (Disk.makeTemporaryFile ".tar") s =
        (r, b.access.update d s) :=
    DiskAccess.lift_eq hMake
  cases r with
  | error f =>
      rw [Action.next_of_error hLift]
      refine .clean f _ ?_ ?_
      · rintro ⟨⟨p, hMade⟩, _⟩
        rw [hMake] at hMade
        exact absurd hMade (by simp)
      · rw [hAccess d s]
        exact Disk.entry?_of_makeTemporaryFile hMake
  | ok p =>
      have hOpened : b.opened s = b.access.update d s := by
        rw [opened, hLift]
      rw [Action.next_of_ok hLift, ← hOpened]
      rcases Disk.exists_newFile (by decide) hMake with
        ⟨l, hFile⟩
      rw [← hAccess d s, ← hOpened] at hFile
      exact saveEnds_of_newFile hAccess hTransport hQuiet
        (by rw [hMake]) hFile _ tag

end Builder

/-
  If saving an image returns a path, a new file is there, and
  it holds what was downloaded, which is the image if nothing
  is cut or left out. If saving fails, nothing is left unless
  the download was spoiled, and then the new file is.
-/
theorem failed_save_leaves_iff
    {σ : Type}
    {b : Builder σ}
    {c : RegistryClient}
    {transport : Transport σ}
    (hRegistry :
      b.registry = some (c.registry transport b.access))
    (hAccess : b.access.IsFaithful)
    (hTransport :
      ∀ r, (transport r).FailsOnly Failure.IsTransport)
    (hQuiet : transport.IsQuiet b.access)
    (namespaceName name tag : String)
    (s : σ) :
    (∀ p w,
      b.save namespaceName name tag s = (.ok p, w) →
        ∃ l manifest fields bs,
          Disk.HasNewFile p l
              (.archive
                (RegistryClient.membersOf manifest bs))
              (b.access.view s) (b.access.view w) ∧
            c.Serves
              (Builder.qualifiedName namespaceName name) tag
              (c.exchanges transport
                (Builder.qualifiedName namespaceName name)
                tag (b.opened s))
              manifest fields bs ∧
            (RegistryClient.IsImage manifest fields bs
                (RegistryClient.membersOf manifest bs) ↔
              ((Json.Fields.get? "config" fields).isSome =
                    true ∨
                  Manifest.listedLayers fields = []) ∧
                ∀ x ∈ bs,
                  (x.answer.body.length : Int) ≤
                    x.size)) ∧
    ∀ f w,
      b.save namespaceName name tag s = (.error f, w) →
        ((∀ l, Disk.entry? (b.access.view w) l =
            Disk.entry? (b.access.view s) l) ↔
          ¬ b.SpoilsSave c transport
            (Builder.qualifiedName namespaceName name) tag s
            f) ∧
        (b.SpoilsSave c transport
            (Builder.qualifiedName namespaceName name) tag s
            f →
          ∃ p l content,
            Disk.HasNewFile p l content (b.access.view s)
              (b.access.view w)) := by
  have hEnds := Builder.saveEnds_save hRegistry hAccess
    hTransport hQuiet namespaceName name tag s
  constructor
  · intro p w hSave
    rw [hSave] at hEnds
    cases hEnds with
    | saved _ l manifest fields bs _ hServes hFile =>
        exact ⟨l, manifest, fields, bs, hFile, hServes,
          RegistryClient.isImage_iff hServes.lists.listed⟩
  · intro f w hSave
    rw [hSave] at hEnds
    cases hEnds with
    | spoiled _ p l _ hSpoils hFile =>
        refine ⟨⟨?_, fun hClean => absurd hSpoils hClean⟩,
          fun _ => ⟨p, l, _, hFile⟩⟩
        intro hSame
        have hNone := (hSame l).trans hFile.fresh
        rw [hFile.made] at hNone
        exact absurd hNone (by simp)
    | clean _ _ hClean hSame =>
        exact ⟨⟨fun _ => hClean, fun _ => hSame⟩,
          fun hSpoils => absurd hSpoils hClean⟩

/- A builder over such a registry, on the disk itself. -/
def Builder.saving
    (manifest : String)
    (blob : List UInt8) : Builder Disk :=
  ⟨.giving .records (.numbers []),
    some (RegistryClient.sample.registry
      (.serving manifest blob) .self),
    .onDisk .self none, .self, none⟩

/- A disk with a directory for temporary files. -/
def Disk.withTemporary : Disk :=
  ⟨[(["tmp"], .directory)], [], ⟨"/", ["tmp"]⟩, 0⟩

/- A configuration that describes nothing. -/
def Manifest.undescribed : String :=
  "\x7b\"config\":\x7b\x7d\x7d"

/- One image is saved; another one fails, and leaves a file. -/
theorem failed_save_leaves_iff_sample :
    (∃ p l manifest bs,
      ((Builder.saving Manifest.sample [1, 2]).save "tools"
          "demo" "1" .withTemporary).1 = .ok p ∧
        Disk.HasNewFile p l
          (.archive (RegistryClient.membersOf manifest bs))
          .withTemporary
          ((Builder.saving Manifest.sample [1, 2]).save
            "tools" "demo" "1" .withTemporary).2) ∧
    ((Builder.saving Manifest.undescribed []).save "tools"
        "demo" "1" .withTemporary).1 =
      .error (.missingKey "digest") ∧
    (Builder.saving Manifest.undescribed []).SpoilsSave
        .sample (.serving Manifest.undescribed [])
        "tools/demo" "1" .withTemporary
        (.missingKey "digest") ∧
    ∃ p l content,
      Disk.HasNewFile p l content .withTemporary
        ((Builder.saving Manifest.undescribed []).save
          "tools" "demo" "1" .withTemporary).2 := by
  have hEnds := fun manifest blob =>
    @failed_save_leaves_iff Disk (.saving manifest blob)
      .sample (.serving manifest blob) rfl (fun _ _ => rfl)
      (fun _ => Action.FailsOnly.give _) (fun _ _ => rfl)
      "tools" "demo" "1" .withTemporary
  have hSaved :
      ((Builder.saving Manifest.sample [1, 2]).save "tools"
          "demo" "1" .withTemporary).1 =
        .ok ⟨"/", ["tmp", "imagebuild-aaaaaaaa.tar"]⟩ := by
    decide +kernel
  have hFailed :
      ((Builder.saving Manifest.undescribed []).save "tools"
          "demo" "1" .withTemporary).1 =
        .error (.missingKey "digest") := by
    decide +kernel
  have hChanged :
      Disk.entry?
          ((Builder.saving Manifest.undescribed []).save
            "tools" "demo" "1" .withTemporary).2
          ["tmp", "imagebuild-aaaaaaaa.tar"] ≠
        Disk.withTemporary.entry?
          ["tmp", "imagebuild-aaaaaaaa.tar"] := by
    decide +kernel
  rcases (hEnds Manifest.sample [1, 2]).1 _ _
      (Prod.ext hSaved rfl) with
    ⟨l, manifest, _, bs, hFile, _⟩
  rcases (hEnds Manifest.undescribed []).2 _ _
      (Prod.ext hFailed rfl) with
    ⟨hClean, hLeft⟩
  have hSpoils := not_not.mp
    (fun hFree => hChanged (hClean.mpr hFree _))
  exact ⟨⟨_, l, manifest, bs, hSaved, hFile⟩, hFailed,
    hSpoils, hLeft hSpoils⟩

/- The file that was made is still there after a failure. -/
theorem not_failed_save_leaves_nothing :
    ((Builder.saving Manifest.undescribed []).save "tools"
        "demo" "1" .withTemporary).1 =
      .error (.missingKey "digest") ∧
    Disk.withTemporary.entry?
        ["tmp", "imagebuild-aaaaaaaa.tar"] = none ∧
    Disk.entry?
        ((Builder.saving Manifest.undescribed []).save
          "tools" "demo" "1" .withTemporary).2
        ["tmp", "imagebuild-aaaaaaaa.tar"] ≠ none := by
  refine ⟨?_, ?_, ?_⟩ <;> decide +kernel

end ContainerBuild
