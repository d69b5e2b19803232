import ContainerBuild.Proofs.Builder.Cleanup
import ContainerBuild.Proofs.Files.Change
import ContainerBuild.Proofs.Registry.Download

/-
  This file says when a saved archive is the image that the
  registry served. Blobs that are too short end the download,
  but longer ones are cut, and the layers of a manifest
  without a configuration are left out.

  Key definitions include:
    * `Manifest.listed`
    * `RegistryClient.IsImage`

  Main statements:
    * `Manifest.descriptors_eq_listed_iff`
    * `RegistryClient.isImage_iff`
    * `archive_faithful_iff`
-/

namespace ContainerBuild

open Text

------------------------------------------------------------
-- Manifests
------------------------------------------------------------

namespace Manifest

variable {fields : JsonFields}
variable {ds : List Json.Value}

/- The layers that a manifest lists, if it lists some. -/
def listedLayers (fields : JsonFields) : List Json.Value :=
  match layers (Json.Fields.get? "layers" fields) with
  | .ok ls => ls
  | .error _ => []

/- All that a manifest lists, the configuration first. -/
def listed (fields : JsonFields) : List Json.Value :=
  (Json.Fields.get? "config" fields).toList
    ++ listedLayers fields

/- With a configuration, what is fetched is what is listed. -/
theorem descriptors_of_config
    {config : Json.Value}
    (hConfig : Json.Fields.get? "config" fields = some config)
    (hDescriptors : descriptors fields = .ok ds) :
    ds = listed fields := by
  unfold descriptors at hDescriptors
  simp only [hConfig] at hDescriptors
  cases hLayers :
      layers (Json.Fields.get? "layers" fields) with
  | error f =>
      rw [hLayers] at hDescriptors
      exact absurd hDescriptors (by simp)
  | ok ls =>
      rw [hLayers] at hDescriptors
      cases hDescriptors
      simp [listed, listedLayers, hConfig, hLayers]

theorem descriptors_eq_listed_iff
    (hDescriptors : descriptors fields = .ok ds) :
    ds = listed fields ↔
      (Json.Fields.get? "config" fields).isSome = true ∨
        listedLayers fields = [] := by
  cases hConfig : Json.Fields.get? "config" fields with
  | some config =>
      simp only [Option.isSome_some, true_or, iff_true]
      exact descriptors_of_config hConfig hDescriptors
  | none =>
      have hNothing : ds = [] := by
        simp only [descriptors, hConfig] at hDescriptors
        exact (Except.ok.inj hDescriptors).symm
      simp only [hNothing, listed, hConfig,
        Option.toList_none, List.nil_append,
        Option.isSome_none, Bool.false_eq_true, false_or]
      exact eq_comm

end Manifest

------------------------------------------------------------
-- Archives
------------------------------------------------------------

/- The member that a blob ought to become. -/
def FetchedBlob.served (b : FetchedBlob) : Member :=
  (Descriptor.plainName b.digest, b.answer.body)

namespace FetchedBlob

variable {b : FetchedBlob}

/- With a size that is one, the blob is not too short. -/
theorem size_le
    (hSize : 0 ≤ b.size) :
    b.size ≤ b.answer.body.length := by
  have hEnough := b.isEnough
  simp only [readLength, if_neg (Int.not_lt.mpr hSize)]
    at hEnough
  omega

/- A blob that is not longer than its size is kept whole. -/
theorem member_eq_served
    (hFits : (b.answer.body.length : Int) ≤ b.size) :
    b.member = b.served := by
  have hSize : ¬ b.size < 0 := by omega
  have hWhole :
      b.answer.body.length ≤ readLength b.size := by
    simp only [readLength, if_neg hSize]
    omega
  simp only [member, served, List.take_of_length_le hWhole]

end FetchedBlob

namespace RegistryClient

variable {σ : Type}
variable {c : RegistryClient}
variable {transport : Transport σ}
variable {access : DiskAccess σ}
variable {fullName tag : String}
variable {target : Path}
variable {manifest : Response}
variable {fields : JsonFields}
variable {bs : List FetchedBlob}
variable {members : List Member}
variable {s s' : σ}

/-
  The members are the image that was served: the manifest,
  and for all that it lists, in order, the octets that were
  served for it, as many as are declared.
-/
structure IsImage
    (manifest : Response)
    (fields : JsonFields)
    (bs : List FetchedBlob)
    (members : List Member) : Prop where
  complete :
    bs.map FetchedBlob.descriptor = Manifest.listed fields
  faithful :
    members =
      (manifestName, manifest.body) ::
        bs.map FetchedBlob.served
  sized :
    ∀ b ∈ bs, (b.answer.body.length : Int) = b.size

/- After a download its members are stored. -/
theorem save_of_ok
    {t : σ}
    (hDownload :
      c.download transport fullName tag s =
        (.ok members, t)) :
    c.save transport access fullName tag target s =
      access.lift
        (Disk.store target.toText (.archive members)) t :=
  Action.next_of_ok hDownload _

theorem save_of_error
    {f : Failure}
    {t : σ}
    (hDownload :
      c.download transport fullName tag s = (.error f, t)) :
    c.save transport access fullName tag target s =
      (.error f, t) :=
  Action.next_of_error hDownload _

/- A saved image was served, and its members are stored. -/
theorem exists_serves_of_save
    (hAccess : access.IsFaithful)
    (hSave :
      c.save transport access fullName tag target s =
        (.ok (), s')) :
    ∃ manifest fields, ∃ bs : List FetchedBlob,
      c.Serves fullName tag
          (c.exchanges transport fullName tag s)
          manifest fields bs ∧
        (access.view s').fetch target.toText =
          .ok (.archive (membersOf manifest bs)) := by
  rcases Action.next_eq_ok_iff.mp hSave with
    ⟨members, t, hDownload, hStore⟩
  have hDownloads := c.downloads transport fullName tag s
  rw [hDownload] at hDownloads
  rcases hDownloads.exists_serves with
    ⟨manifest, fields, bs, hServes, rfl⟩
  refine ⟨manifest, fields, bs, hServes, ?_⟩
  rcases hRun : Disk.store target.toText
      (.archive (membersOf manifest bs)) (access.view t) with
    ⟨r, d⟩
  rw [DiskAccess.lift_eq hRun] at hStore
  cases hStore
  rw [hAccess d t]
  exact Disk.fetch_of_store hRun

/- What is saved is the image if nothing is cut or left out. -/
theorem isImage_iff
    (hDescriptors :
      Manifest.descriptors fields =
        .ok (bs.map FetchedBlob.descriptor)) :
    IsImage manifest fields bs (membersOf manifest bs) ↔
      ((Json.Fields.get? "config" fields).isSome = true ∨
          Manifest.listedLayers fields = []) ∧
        ∀ b ∈ bs,
          (b.answer.body.length : Int) ≤ b.size := by
  rw [← Manifest.descriptors_eq_listed_iff hDescriptors]
  constructor
  · rintro ⟨hComplete, _, hSized⟩
    refine ⟨hComplete, ?_⟩
    intro b hMem
    exact Int.le_of_eq (hSized b hMem)
  · rintro ⟨hComplete, hFits⟩
    refine ⟨hComplete, ?_, ?_⟩
    · apply congrArg ((manifestName, manifest.body) :: ·)
      apply List.map_congr_left
      intro b hMem
      exact FetchedBlob.member_eq_served (hFits b hMem)
    · intro b hMem
      have hAtMost := hFits b hMem
      have hAtLeast : b.size ≤ b.answer.body.length :=
        FetchedBlob.size_le (by omega)
      omega

end RegistryClient

/-
  Whenever saving an image returns, no blob was shorter than
  its size, and the file holds the manifest and a member for
  each blob that was fetched. It is the image that was served
  exactly if no blob was longer than its size and no layers
  were listed without a configuration.
-/
theorem archive_faithful_iff
    {σ : Type}
    {c : RegistryClient}
    {transport : Transport σ}
    {access : DiskAccess σ}
    {fullName tag : String}
    {target : Path}
    {s s' : σ}
    (hAccess : access.IsFaithful)
    (hSave :
      c.save transport access fullName tag target s =
        (.ok (), s')) :
    ∃ manifest fields bs,
      c.Serves fullName tag
          (c.exchanges transport fullName tag s)
          manifest fields bs ∧
        (access.view s').fetch target.toText =
          .ok (.archive
            (RegistryClient.membersOf manifest bs)) ∧
        (∀ b ∈ bs, 0 ≤ b.size →
          b.size ≤ b.answer.body.length) ∧
        (RegistryClient.IsImage manifest fields bs
            (RegistryClient.membersOf manifest bs) ↔
          ((Json.Fields.get? "config" fields).isSome = true ∨
              Manifest.listedLayers fields = []) ∧
            ∀ b ∈ bs,
              (b.answer.body.length : Int) ≤ b.size) := by
  rcases RegistryClient.exists_serves_of_save hAccess hSave
    with ⟨manifest, fields, bs, hServes, hStored⟩
  refine ⟨manifest, fields, bs, hServes, hStored, ?_,
    RegistryClient.isImage_iff hServes.lists.listed⟩
  intro b _ hSize
  exact FetchedBlob.size_le hSize

/- A registry that answers with a manifest and one blob. -/
def Transport.serving
    (manifest : String)
    (blob : List UInt8) : Transport Disk :=
  fun r =>
    Action.give
      (.ofBody 200 []
        (if r.streamed then blob else utf8 manifest))

/- A client of a registry. -/
def RegistryClient.sample : RegistryClient :=
  ⟨"hub", 5000, "", "", false, usualTimeout⟩

/- Save an image from such a registry to a blank disk. -/
def RegistryClient.sampleSave
    (manifest : String)
    (blob : List UInt8) : Except Failure Unit × Disk :=
  sample.save (.serving manifest blob) .self "tools/demo" "1"
    ⟨"/", ["image.tar"]⟩ .blank

/- A configuration of two octets. -/
def Manifest.sample : String :=
  "\x7b\"config\":\x7b\"digest\":\"sha256:aa\",\"size\":2\x7d\x7d"

/- A layer of two octets, and no configuration. -/
def Manifest.unconfigured : String :=
  "\x7b\"layers\":[\x7b\"digest\":\"sha256:aa\",\"size\":2\x7d]\x7d"

/- The configuration is served whole, and so is the image. -/
theorem archive_faithful_iff_sample :
    (RegistryClient.sampleSave Manifest.sample
        [1, 2]).1 = .ok () ∧
    ∃ manifest fields bs,
      RegistryClient.sample.Serves "tools/demo" "1"
          (RegistryClient.sample.exchanges
            (.serving Manifest.sample [1, 2]) "tools/demo" "1"
            .blank)
          manifest fields bs ∧
        (RegistryClient.sampleSave Manifest.sample
            [1, 2]).2.fetch "/image.tar" =
          .ok (.archive
            (RegistryClient.membersOf manifest bs)) ∧
        RegistryClient.IsImage manifest fields bs
          (RegistryClient.membersOf manifest bs) := by
  have hReturns :
      (RegistryClient.sampleSave Manifest.sample
        [1, 2]).1 = .ok () := by
    decide +kernel
  have hSave :
      RegistryClient.sample.save
          (.serving Manifest.sample [1, 2]) .self
          "tools/demo" "1" ⟨"/", ["image.tar"]⟩ .blank =
        (.ok (),
          (RegistryClient.sampleSave Manifest.sample
            [1, 2]).2) :=
    Prod.ext hReturns rfl
  have hListed :
      (objectOf "manifest"
          (.ofBody 200 [] (utf8 Manifest.sample))).map
          (fun fields =>
            ((Json.Fields.get? "config" fields).isSome,
              (Manifest.descriptors fields).map
                (List.map Descriptor.size))) =
        .ok (true, .ok [.ok 2]) := by
    decide +kernel
  rcases archive_faithful_iff (fun _ _ => rfl) hSave with
    ⟨manifest, fields, bs, hServes, hStored, _, hImage⟩
  have hHead :=
    RegistryClient.sample.head_exchanges
      (.serving Manifest.sample [1, 2]) "tools/demo" "1"
      .blank
  rw [hServes.exchanges] at hHead
  have hManifest :
      manifest = .ofBody 200 [] (utf8 Manifest.sample) := by
    cases hHead
    rfl
  have hBodies : ∀ b ∈ bs, b.answer.body = [1, 2] := by
    intro b hMem
    have hMade :
        b.exchange .sample "tools/demo" ∈
          RegistryClient.sample.exchanges
            (.serving Manifest.sample [1, 2]) "tools/demo" "1"
            .blank := by
      rw [hServes.exchanges]
      exact List.mem_cons_of_mem _
        (List.mem_map_of_mem hMem)
    rcases RegistryClient.exists_answered hMade with
      ⟨_, hAnswer⟩
    exact congrArg Response.body
      (Except.ok.inj hAnswer).symm
  rw [← hManifest] at hListed
  simp only [objectOf, hServes.lists.object, Except.map,
    hServes.lists.listed, Except.ok.injEq, Prod.mk.injEq,
    List.map_map] at hListed
  refine ⟨hReturns, manifest, fields, bs, hServes, hStored,
    hImage.mpr ⟨Or.inl hListed.1, ?_⟩⟩
  intro b hMem
  have hSize :
      Descriptor.size b.descriptor ∈
        bs.map (Descriptor.size ∘ FetchedBlob.descriptor) :=
    List.mem_map_of_mem hMem
  rw [hListed.2, b.hasSize, List.mem_singleton,
    Except.ok.injEq] at hSize
  rw [hBodies b hMem, hSize]
  decide

/-
  A blob of three octets is cut to the two that are declared,
  and without a configuration a layer is left out.
-/
theorem not_archive_faithful :
    ((RegistryClient.sampleSave Manifest.sample
          [1, 2, 3]).1 = .ok () ∧
      (RegistryClient.sampleSave Manifest.sample
          [1, 2, 3]).2.fetch "/image.tar" =
        .ok (.archive
          [("manifest.json", utf8 Manifest.sample),
            ("sha256_aa", [1, 2])])) ∧
    (RegistryClient.sampleSave Manifest.unconfigured
          [1, 2]).1 = .ok () ∧
      (RegistryClient.sampleSave Manifest.unconfigured
          [1, 2]).2.fetch "/image.tar" =
        .ok (.archive
          [("manifest.json",
            utf8 Manifest.unconfigured)]) := by
  refine ⟨⟨?_, ?_⟩, ?_, ?_⟩ <;> decide +kernel

end ContainerBuild
