import ContainerBuild.Files.Archive
import ContainerBuild.Proofs.Builder.Saving
import ContainerBuild.Proofs.Registry.Membership
import Mathlib.Data.List.DropRight
import Mathlib.Data.List.Forall2

/-
  This file says how saving an image goes about its requests.
  The manifest is asked for, then the configuration and the
  layers that it lists, in this order. The first demand that
  is not met ends it, with an error that tells how it failed.
  If all are met, the archive has a member for each, named
  after the digest. When it is listed, a name that does not
  fit its field lacks the slashes at its end.

  Key definitions include:
    * `ListedBlob`
    * `Manifest.Describes`
    * `Demand.IsMet`
    * `Demand.FailsWith`
    * `Follows`
    * `RegistryClient.Obeys`
    * `RegistryClient.demands`
    * `Disk.IsWritable`
    * `Member.IsListedAs`

  Main statements:
    * `Follows.forall₂`
    * `RegistryClient.obeys_of_fetches`
    * `RegistryClient.obeys_of_downloads`
    * `save_follows_manifest`
-/

namespace ContainerBuild

open Text

------------------------------------------------------------
-- Manifests
------------------------------------------------------------

/-
  A blob that a manifest lists: its descriptor has a text as
  the digest, and a size that is not negative.
-/
structure ListedBlob where
  descriptor : Json.Value
  digest : String
  size : Nat
  hasDigest : Descriptor.digest descriptor = .ok (.text digest)
  hasSize : Descriptor.size descriptor = .ok (size : Int)

/-
  The fields of a manifest describe a configuration and some
  layers. Without layers the field may be missing.
-/
structure Manifest.Describes
    (fields : JsonFields)
    (config : ListedBlob)
    (layers : List ListedBlob) : Prop where
  config :
    Json.Fields.get? "config" fields = some config.descriptor
  layers :
    Json.Fields.get? "layers" fields =
        some (.array (layers.map ListedBlob.descriptor)) ∨
      Json.Fields.get? "layers" fields = none ∧ layers = []

theorem Manifest.Describes.descriptors_eq
    {fields : JsonFields}
    {config : ListedBlob}
    {layers : List ListedBlob}
    (hDescribes : Describes fields config layers) :
    descriptors fields =
      .ok ((config :: layers).map ListedBlob.descriptor) := by
  unfold descriptors
  rw [hDescribes.config]
  rcases hDescribes.layers with hLayers | ⟨hLayers, rfl⟩
  all_goals
    rw [hLayers]
    rfl

------------------------------------------------------------
-- Demands
------------------------------------------------------------

/- A request, and the least length of what it should bring. -/
structure Demand where
  request : Request
  size : Nat

namespace Demand

/- The request is made, and brings enough. -/
def IsMet
    (x : Demand)
    (y : Exchange) : Prop :=
  y.request = x.request ∧
    ∃ r, y.answer = .ok r ∧ r.status = 200 ∧
      x.size ≤ r.body.length

/-
  The request is made, but the transport fails, or the answer
  is another one, or its body ends or breaks off too early.
  The first two are errors of the registry, the third one is
  an error of the system.
-/
inductive FailsWith
    (x : Demand) : Exchange → Failure → Prop
  | lost (f : Failure) (m : String) :
      f.IsTransport →
        FailsWith x ⟨x.request, .error f⟩
          (.build (.registry m))
  | refused (r : Response) (m : String) :
      r.status ≠ 200 →
        FailsWith x ⟨x.request, .ok r⟩ (.build (.registry m))
  | short (r : Response) :
      r.status = 200 →
      r.Ends x.size →
        FailsWith x ⟨x.request, .ok r⟩ shortBlob
  | broken (r : Response) (f : Failure) :
      r.status = 200 →
      r.BreaksOff x.size f →
        FailsWith x ⟨x.request, .ok r⟩ f

/- A lost request is an error of the registry. -/
theorem failsWith_lost
    {f : Failure}
    (hTransport : f.IsTransport)
    (x : Demand) :
    x.FailsWith ⟨x.request, .error f⟩
      (RegistryClient.requestFailure x.request f) := by
  rcases RegistryClient.requestFailure_of_isTransport
      hTransport with
    ⟨m, hFailure⟩
  rw [hFailure]
  exact .lost f m hTransport

end Demand

/-
  How exchanges follow demands, and what comes of it: after
  one that is met the others are gone through, and after one
  that fails nothing more is asked for.
-/
inductive Follows :
    List Demand → List Exchange → Except Failure Unit → Prop
  | nil : Follows [] [] (.ok ())
  | met
      {x : Demand}
      {y : Exchange}
      {xs : List Demand}
      {made : List Exchange}
      {result : Except Failure Unit} :
      x.IsMet y →
      Follows xs made result →
        Follows (x :: xs) (y :: made) result
  | failed
      {x : Demand}
      {y : Exchange}
      {xs : List Demand}
      {f : Failure} :
      x.FailsWith y f →
        Follows (x :: xs) [y] (.error f)

namespace Follows

variable {xs before : List Demand}
variable {made served : List Exchange}
variable {result : Except Failure Unit}

/- What is met beforehand does not change what comes. -/
theorem append
    (hServed : List.Forall₂ Demand.IsMet before served)
    (hFollows : Follows xs made result) :
    Follows (before ++ xs) (served ++ made) result := by
  induction hServed with
  | nil => exact hFollows
  | cons hMet _ ih => exact .met hMet ih

/- It comes to a good end only if all demands are met. -/
theorem forall₂
    (hFollows : Follows xs made (.ok ())) :
    List.Forall₂ Demand.IsMet xs made := by
  generalize hResult : Except.ok () = result at hFollows
  induction hFollows with
  | nil => exact .nil
  | met hMet _ ih => exact .cons hMet (ih hResult)
  | failed _ => exact absurd hResult (by simp)

end Follows

------------------------------------------------------------
-- Blobs
------------------------------------------------------------

namespace ListedBlob

/- What is demanded for a blob. -/
def demand
    (c : RegistryClient)
    (fullName : String)
    (b : ListedBlob) : Demand :=
  ⟨c.blobRequest fullName b.digest, b.size⟩

/- The name of the member that a blob becomes. -/
def memberName (b : ListedBlob) : String :=
  Descriptor.plainName b.digest

variable {b : ListedBlob}
variable {x : FetchedBlob}

theorem digest_eq
    (hSame : b.descriptor = x.descriptor) :
    b.digest = x.digest := by
  have hDigest := x.hasDigest
  rw [← hSame, b.hasDigest] at hDigest
  simpa using hDigest

theorem size_eq
    (hSame : b.descriptor = x.descriptor) :
    (b.size : Int) = x.size := by
  have hSize := x.hasSize
  rw [← hSame, b.hasSize] at hSize
  simpa using hSize

/- What is fetched for a blob is what is demanded for it. -/
theorem isMet_exchange
    (hSame : b.descriptor = x.descriptor)
    (c : RegistryClient)
    (fullName : String) :
    (b.demand c fullName).IsMet (x.exchange c fullName) := by
  refine ⟨?_, x.answer, rfl, x.isGiven, ?_⟩
  · simp only [FetchedBlob.exchange, demand, digest_eq hSame]
  · have hEnough := x.size_le
      (by rw [← size_eq hSame]; omega)
    rw [← size_eq hSame] at hEnough
    simpa [demand] using hEnough

theorem memberName_eq
    (hSame : b.descriptor = x.descriptor) :
    b.memberName = x.member.1 := by
  simp only [memberName, FetchedBlob.member, digest_eq hSame]

/- Only a blob of too few octets makes no member. -/
theorem short_of_blobMember
    {r : Response}
    {f : Failure}
    (hMember :
      blobMember b.descriptor (.text b.digest) r =
        .error f) :
    (f = shortBlob ∧ r.Ends b.size) ∨
      r.BreaksOff b.size f := by
  have hLength : readLength (b.size : Int) = b.size := by
    simp only [readLength, Int.toNat_natCast,
      if_neg (Int.not_lt.mpr (Int.natCast_nonneg b.size))]
  rcases blobMember_eq_error hMember with
    hName | ⟨_, _, hSize | ⟨n, hSize, hCut⟩⟩
  · exact absurd hName (by simp [Descriptor.memberName])
  · rw [b.hasSize] at hSize
    exact absurd hSize (by simp)
  · rw [b.hasSize] at hSize
    cases hSize
    rw [← hLength]
    exact cutBlob_eq_error hCut

end ListedBlob

namespace RegistryClient

variable {σ : Type}
variable {c : RegistryClient}
variable {transport : Transport σ}
variable {fullName tag : String}
variable {config : ListedBlob}
variable {layers bs : List ListedBlob}
variable {made : List Exchange}
variable {result : Except Failure (List Member)}
variable {s : σ}

/- What stops at a blob fails what is demanded for it. -/
theorem failsWith_of_stopsAt
    {b : ListedBlob}
    {answer : Except Failure Response}
    {f : Failure}
    (hLost : ∀ g, answer = .error g → g.IsTransport)
    (hStops :
      StopsAt b.descriptor (.text b.digest)
        (c.blobRequest fullName b.digest) answer f) :
    (b.demand c fullName).FailsWith
      ⟨c.blobRequest fullName b.digest, answer⟩ f := by
  cases hStops with
  | lost g => exact Demand.failsWith_lost (hLost g rfl) _
  | refused r hStatus => exact .refused r _ hStatus
  | unusable r _ hStatus hMember =>
      rcases ListedBlob.short_of_blobMember hMember with
        ⟨rfl, hEnds⟩ | hBreaks
      · exact .short r hStatus hEnds
      · exact .broken r f hStatus hBreaks

/- Lists with the same descriptors agree blob by blob. -/
theorem forall₂_descriptors
    {xs : List FetchedBlob}
    (hSame :
      bs.map ListedBlob.descriptor =
        xs.map FetchedBlob.descriptor) :
    List.Forall₂
      (fun (b : ListedBlob) (x : FetchedBlob) =>
        b.descriptor = x.descriptor)
      bs xs := by
  rwa [← List.forall₂_eq_eq_eq, List.forall₂_map_left_iff,
    List.forall₂_map_right_iff] at hSame

/- Blobs that are listed like that are fetched as demanded. -/
theorem forall₂_isMet
    {xs : List FetchedBlob}
    (hSame :
      bs.map ListedBlob.descriptor =
        xs.map FetchedBlob.descriptor)
    (c : RegistryClient)
    (fullName : String) :
    List.Forall₂ Demand.IsMet
      (bs.map (ListedBlob.demand c fullName))
      (xs.map (FetchedBlob.exchange c fullName)) := by
  rw [List.forall₂_map_left_iff, List.forall₂_map_right_iff]
  refine (forall₂_descriptors hSame).imp ?_
  intro b x hBlob
  exact ListedBlob.isMet_exchange hBlob c fullName

/- The members have the names of the digests. -/
theorem names_eq
    {xs : List FetchedBlob}
    (hSame :
      bs.map ListedBlob.descriptor =
        xs.map FetchedBlob.descriptor) :
    (xs.map FetchedBlob.member).map Prod.fst =
      bs.map ListedBlob.memberName := by
  rw [List.map_map, eq_comm, ← List.forall₂_eq_eq_eq,
    List.forall₂_map_left_iff, List.forall₂_map_right_iff]
  refine (forall₂_descriptors hSame).imp ?_
  intro b x hBlob
  exact ListedBlob.memberName_eq hBlob

/-
  A download follows demands, and if it succeeds, the members
  have the given names.
-/
structure Obeys
    (xs : List Demand)
    (names : List String)
    (made : List Exchange)
    (result : Except Failure (List Member)) : Prop where
  follows : Follows xs made (result.map (fun _ => ()))
  named :
    ∀ ms, result = .ok ms → ms.map Prod.fst = names

/- A demand that is met adds a member before the others. -/
theorem Obeys.met
    {x : Demand}
    {y : Exchange}
    {xs : List Demand}
    {names : List String}
    (hMet : x.IsMet y)
    (hObeys : Obeys xs names made result)
    (m : Member) :
    Obeys (x :: xs) (m.1 :: names) (y :: made)
      (result.map (m :: ·)) := by
  cases result with
  | error f =>
      refine ⟨.met hMet hObeys.follows, ?_⟩
      simp [Except.map]
  | ok ms =>
      refine ⟨.met hMet hObeys.follows, ?_⟩
      rintro _ ⟨⟩
      rw [List.map_cons, hObeys.named ms rfl]

/- A demand that fails is the last one. -/
theorem Obeys.failed
    {x : Demand}
    {y : Exchange}
    {xs : List Demand}
    {names : List String}
    {f : Failure}
    (hFails : x.FailsWith y f) :
    Obeys (x :: xs) names [y] (.error f) :=
  ⟨.failed hFails, by simp⟩

/-
  Blobs that are listed are fetched as they are demanded. The
  cases are those of the run: all come, or one is reached
  that does not; that one has no digest is ruled out.
-/
theorem obeys_of_fetches
    (hFetches :
      c.Fetches fullName (bs.map ListedBlob.descriptor) made
        result)
    (hLost :
      ∀ y ∈ made, ∀ g, y.answer = .error g → g.IsTransport) :
    Obeys (bs.map (ListedBlob.demand c fullName))
      (bs.map ListedBlob.memberName) made result := by
  cases hFetches with
  | all xs hSame =>
      refine ⟨?_, ?_⟩
      · have hFollows :=
          Follows.nil.append (forall₂_isMet hSame c fullName)
        rw [List.append_nil, List.append_nil] at hFollows
        exact hFollows
      · rintro ms ⟨⟩
        exact names_eq hSame
  | undescribed xs d rest f hSplit hDigest =>
      have hMem : d ∈ bs.map ListedBlob.descriptor := by
        rw [hSplit]
        simp
      rcases List.mem_map.mp hMem with ⟨b, _, rfl⟩
      rw [b.hasDigest] at hDigest
      exact absurd hDigest (by simp)
  | stopped xs d digest rest answer f hSplit hDigest hStops =>
      rcases List.map_eq_append_iff.mp hSplit with
        ⟨before, others, rfl, hBefore, hOthers⟩
      rcases List.map_eq_cons_iff.mp hOthers with
        ⟨b, after, rfl, rfl, _⟩
      rw [b.hasDigest] at hDigest
      cases hDigest
      have hLast : ∀ g, answer = .error g → g.IsTransport :=
        hLost _ (List.mem_append_right _
          (List.mem_singleton_self _))
      refine ⟨?_, by simp⟩
      rw [List.map_append, List.map_cons]
      refine .append (forall₂_isMet hBefore c fullName) ?_
      exact .failed (failsWith_of_stopsAt hLast hStops)

/- What is demanded for a configuration and layers. -/
def demands
    (c : RegistryClient)
    (fullName tag : String)
    (config : ListedBlob)
    (layers : List ListedBlob) : List Demand :=
  ⟨c.manifestRequest .get fullName tag, 0⟩ ::
    (config :: layers).map (ListedBlob.demand c fullName)

/- The names that the members are to have. -/
def memberNames
    (config : ListedBlob)
    (layers : List ListedBlob) : List String :=
  manifestName ::
    (config :: layers).map ListedBlob.memberName

/- A manifest that comes is an object that lists the blobs. -/
def ManifestLists
    (answer : Except Failure Response)
    (config : ListedBlob)
    (layers : List ListedBlob) : Prop :=
  ∀ r, answer = .ok r → r.status = 200 →
    ∃ fields,
      r.Holds fields ∧ Manifest.Describes fields config layers

theorem manifestAnswer_of_describes
    {r : Response}
    {fields : JsonFields}
    (hHolds : r.Holds fields)
    (hDescribes : Manifest.Describes fields config layers) :
    manifestAnswer fullName tag r =
      .ok ((config :: layers).map ListedBlob.descriptor) := by
  simp only [manifestAnswer, if_pos hHolds.given, objectOf,
    hHolds.object, hDescribes.descriptors_eq]

/-
  A download follows the demands of its manifest. Of its
  cases the first two end at the manifest, and the third one
  is that of the blobs.
-/
theorem obeys_of_downloads
    (hDownloads : c.Downloads fullName tag made result)
    (hLost :
      ∀ y ∈ made, ∀ g, y.answer = .error g → g.IsTransport)
    (hManifest :
      ∀ y ∈ made.head?, ManifestLists y.answer config layers) :
    Obeys (c.demands fullName tag config layers)
      (memberNames config layers) made result := by
  cases hDownloads with
  | lost f =>
      have hTransport : f.IsTransport :=
        hLost _ (List.mem_singleton_self _) f rfl
      exact .failed (Demand.failsWith_lost hTransport _)
  | unlisted r f hAnswer =>
      by_cases hStatus : r.status = 200
      · rcases hManifest _ rfl r rfl hStatus with
          ⟨fields, hHolds, hDescribes⟩
        rw [manifestAnswer_of_describes hHolds hDescribes]
          at hAnswer
        exact absurd hAnswer (by simp)
      · simp only [manifestAnswer, if_neg hStatus] at hAnswer
        cases hAnswer
        exact .failed (.refused r _ hStatus)
  | listed r ds made result hAnswer hFetches =>
      have hStatus : r.status = 200 := by
        rcases exists_lists_of_manifestAnswer hAnswer with
          ⟨_, hLists⟩
        exact hLists.given
      rcases hManifest _ rfl r rfl hStatus with
        ⟨fields, hHolds, hDescribes⟩
      rw [manifestAnswer_of_describes hHolds hDescribes]
        at hAnswer
      cases hAnswer
      refine (obeys_of_fetches hFetches ?_).met
        ⟨rfl, r, rfl, hStatus, Nat.zero_le _⟩
        (manifestName, r.body)
      intro y hMem
      exact hLost y (List.mem_cons_of_mem _ hMem)

/- So does the download itself, over any transport. -/
theorem obeys_download
    (hTransport :
      ∀ r, (transport r).FailsOnly Failure.IsTransport)
    (hManifest :
      ManifestLists
        (transport (c.manifestRequest .get fullName tag) s).1
        config layers) :
    Obeys (c.demands fullName tag config layers)
      (memberNames config layers)
      (c.exchanges transport fullName tag s)
      (c.download transport fullName tag s).1 := by
  refine obeys_of_downloads
    (c.downloads transport fullName tag s) ?_ ?_
  · intro y hMem f hLost
    exact isTransport_of_mem_exchanges hTransport hMem hLost
  · rw [head_exchanges]
    rintro _ ⟨⟩
    exact hManifest

end RegistryClient

------------------------------------------------------------
-- Files
------------------------------------------------------------

/- A file can be written where a path leads. -/
def Disk.IsWritable
    (d : Disk)
    (path : String) : Prop :=
  ∃ l, d.locate path = .ok l ∧ d.entry? l ≠ some .directory

theorem Disk.IsWritable.exists_store
    {d : Disk}
    {path : String}
    (hWritable : d.IsWritable path)
    (content : Content) :
    ∃ d', Disk.store path content d = (.ok (), d') := by
  rcases hWritable with ⟨l, hLocate, hFree⟩
  refine ⟨d.put l (.file content), ?_⟩
  simp only [Disk.store, hLocate]

/-
  Saving to a file that can be written ends as the download
  does, and stores what that gives.
-/
theorem RegistryClient.save_of_isWritable
    {σ : Type}
    {transport : Transport σ}
    {access : DiskAccess σ}
    {target : Path}
    {s : σ}
    (hAccess : access.IsFaithful)
    (hQuiet : transport.IsQuiet access)
    (hTarget : (access.view s).IsWritable target.toText)
    (c : RegistryClient)
    (fullName tag : String) :
    (c.save transport access fullName tag target s).1 =
        (c.download transport fullName tag s).1.map
          (fun _ => ()) ∧
      ∀ members,
        (c.download transport fullName tag s).1 =
            .ok members →
          (access.view
              (c.save transport access fullName tag target
                s).2).fetch target.toText =
            .ok (.archive members) := by
  rcases hDownload : c.download transport fullName tag s with
    ⟨result, t⟩
  cases result with
  | error f =>
      rw [save_of_error hDownload]
      exact ⟨rfl, by simp⟩
  | ok members =>
      rw [save_of_ok hDownload]
      rw [← Builder.view_download hQuiet hDownload] at hTarget
      rcases hTarget.exists_store (.archive members) with
        ⟨d, hStore⟩
      rw [DiskAccess.lift_eq hStore]
      refine ⟨rfl, ?_⟩
      rintro _ ⟨⟩
      rw [hAccess d t]
      exact Disk.fetch_of_store hStore

------------------------------------------------------------
-- Names
------------------------------------------------------------

/-
  How a name is listed: as it is if it fits its field, and
  otherwise without the slashes at its end.
-/
structure Member.IsListedAs
    (name listed : String) : Prop where
  fitting : fitsField name.toList = true → listed = name
  stripped :
    fitsField name.toList = false →
      (∃ n, name.toList =
        listed.toList ++ List.replicate n '/') ∧
        listed.toList.getLast? ≠ some '/'

/- What is dropped at an end is one sign again and again. -/
theorem Text.exists_replicate_of_dropEnd
    (x : Char)
    (cs : List Char) :
    ∃ n, cs =
      dropEnd (fun c => c = x) cs ++ List.replicate n x := by
  refine ⟨(cs.rtakeWhile (fun c => c = x)).length, ?_⟩
  have hSame :
      cs.rtakeWhile (fun c => c = x) =
        List.replicate
          (cs.rtakeWhile (fun c => c = x)).length x := by
    refine List.eq_replicate_length.mpr ?_
    intro c hMem
    simpa using List.mem_rtakeWhile_imp hMem
  rw [← hSame]
  exact List.rdropWhile_append_rtakeWhile.symm

/- Without nulls in it, every name is listed like that. -/
theorem Member.isListedAs_listedName
    {name : String}
    (hNull : '\x00' ∉ name.toList) :
    IsListedAs name (listedName name) where
  fitting := by
    intro hFits
    have hWhole :
        name.toList.takeWhile (fun c => c != '\x00') =
          name.toList := by
      rw [List.takeWhile_eq_self_iff]
      intro c hMem
      have hOther : c ≠ '\x00' := fun hSame =>
        hNull (hSame ▸ hMem)
      simpa using hOther
    simp [listedName, hFits, hWhole]
  stripped := by
    intro hLong
    have hListed :
        (listedName name).toList =
          dropEnd (fun c => c = '/') name.toList := by
      simp [listedName, hLong]
    rw [hListed]
    refine ⟨exists_replicate_of_dropEnd '/' _, ?_⟩
    intro hLast
    have hSome :
        dropEnd (fun c => c = '/') name.toList ≠ [] :=
      List.ne_nil_of_mem (List.mem_of_getLast? hLast)
    rw [List.getLast?_eq_some_getLast hSome,
      Option.some.injEq] at hLast
    exact List.rdropWhile_last_not (fun c => c = '/')
      name.toList hSome (decide_eq_true hLast)

/- A digest without nulls gives a name without nulls. -/
theorem ListedBlob.null_notMem_memberName
    {b : ListedBlob}
    (hNull : '\x00' ∉ b.digest.toList) :
    '\x00' ∉ b.memberName.toList := by
  have hSigns :
      b.memberName.toList =
        b.digest.toList.map Descriptor.plainSign := by
    simp [memberName, Descriptor.plainName]
  rw [hSigns]
  intro hMem
  rcases List.mem_map.mp hMem with ⟨c, hDigest, hSign⟩
  have hSame : c = '\x00' := by
    unfold Descriptor.plainSign at hSign
    split at hSign
    · exact absurd hSign (by decide)
    · exact hSign
  exact hNull (hSame ▸ hDigest)

/- So the members are listed with the names of the digests. -/
theorem RegistryClient.forall₂_isListedAs
    {config : ListedBlob}
    {layers : List ListedBlob}
    (hNull :
      ∀ b ∈ config :: layers, '\x00' ∉ b.digest.toList) :
    List.Forall₂ Member.IsListedAs
      (memberNames config layers)
      ((memberNames config layers).map
        Member.listedName) := by
  rw [List.forall₂_map_right_iff, List.forall₂_same]
  intro name hMem
  refine Member.isListedAs_listedName ?_
  rcases List.mem_cons.mp hMem with rfl | hBlob
  · decide
  · rcases List.mem_map.mp hBlob with ⟨b, hListed, rfl⟩
    exact ListedBlob.null_notMem_memberName
      (hNull b hListed)

/-
  Saving an image from a registry whose manifest, if it
  comes, describes a configuration and layers, and to a file
  that can be written: the exchanges follow the demands for
  the manifest, the configuration and the layers, in this
  order, and the first one that fails ends it. If it returns,
  all of them were met, and the members of the archive have
  the names of the digests, in the same order. So they are
  listed, but for slashes at the end of a name that does not
  fit its field.
-/
theorem save_follows_manifest
    {σ : Type}
    {c : RegistryClient}
    {transport : Transport σ}
    {access : DiskAccess σ}
    {fullName tag : String}
    {target : Path}
    {config : ListedBlob}
    {layers : List ListedBlob}
    {s : σ}
    (hAccess : access.IsFaithful)
    (hTransport :
      ∀ r, (transport r).FailsOnly Failure.IsTransport)
    (hQuiet : transport.IsQuiet access)
    (hTarget : (access.view s).IsWritable target.toText)
    (hManifest :
      RegistryClient.ManifestLists
        (transport (c.manifestRequest .get fullName tag) s).1
        config layers) :
    Follows (c.demands fullName tag config layers)
        (c.exchanges transport fullName tag s)
        (c.save transport access fullName tag target s).1 ∧
      ∀ s',
        c.save transport access fullName tag target s =
            (.ok (), s') →
          List.Forall₂ Demand.IsMet
              (c.demands fullName tag config layers)
              (c.exchanges transport fullName tag s) ∧
            ∃ members,
              (access.view s').fetch target.toText =
                  .ok (.archive members) ∧
                members.map Prod.fst =
                  RegistryClient.memberNames config layers ∧
                ((∀ b ∈ config :: layers,
                    '\x00' ∉ b.digest.toList) →
                  List.Forall₂ Member.IsListedAs
                    (RegistryClient.memberNames config
                      layers)
                    ((members.map Member.listed).map
                      Prod.fst)) := by
  have hObeys :=
    RegistryClient.obeys_download hTransport hManifest
  rcases RegistryClient.save_of_isWritable hAccess hQuiet
      hTarget c fullName tag with
    ⟨hResult, hStored⟩
  rw [hResult]
  refine ⟨hObeys.follows, ?_⟩
  intro s' hSave
  rw [hSave] at hResult hStored
  have hFollows := hObeys.follows
  rw [← hResult] at hFollows
  cases hDownload : (c.download transport fullName tag s).1 with
  | error f =>
      rw [hDownload] at hResult
      exact absurd hResult (by simp [Except.map])
  | ok members =>
      have hNames := hObeys.named members hDownload
      refine ⟨hFollows.forall₂, members,
        hStored members hDownload, hNames, ?_⟩
      intro hNull
      have hListed :
          (members.map Member.listed).map Prod.fst =
            (members.map Prod.fst).map Member.listedName := by
        simp [Member.listed]
      rw [hListed, hNames]
      exact RegistryClient.forall₂_isListedAs hNull

/- A serving registry gives its manifest when asked for it. -/
theorem Transport.serving_manifest
    (manifest : String)
    (blob : List UInt8)
    (c : RegistryClient)
    (fullName tag : String)
    (d : Disk) :
    (Transport.serving manifest blob
        (c.manifestRequest .get fullName tag) d).1 =
      .ok (.ofBody 200 [] (utf8 manifest)) :=
  rfl

/- What describes a blob with a digest and a size. -/
def ListedBlob.ofDigest
    (digest : String)
    (size : Nat) : ListedBlob :=
  ⟨.object [("digest", .text digest), ("size", .integer size)],
    digest, size, rfl, rfl⟩

/- Such a descriptor can be written and read again. -/
theorem ListedBlob.fits_ofDigest
    (digest : String)
    {size : Nat}
    (hSize : size < 10)
    (level : Nat) :
    Json.Fits .standard (level + 1)
      (ofDigest digest size).descriptor := by
  have hDigits : (decimal size).length ≤ maxDigits :=
    (length_decimal_le (k := 0) hSize).trans (by decide)
  refine .object level _ (by simp) ?_
  simp only [List.forall_mem_cons, List.not_mem_nil,
    false_imp_iff, implies_true, and_true]
  exact ⟨.text _ _, .integer _ _ hDigits⟩

/- A configuration. -/
def ListedBlob.sample : ListedBlob :=
  ofDigest "sha256:aa" 2

/- One layer, twice. -/
def ListedBlob.samples : List ListedBlob :=
  [ofDigest "sha256:bb" 1, ofDigest "sha256:bb" 1]

/- The fields of a manifest that lists them. -/
def Manifest.sampleFields : JsonFields :=
  [("config", ListedBlob.sample.descriptor),
    ("layers", .array
      (ListedBlob.samples.map ListedBlob.descriptor))]

/- That manifest. -/
def Manifest.layered : String :=
  Json.writeString .compact (.object sampleFields)

theorem Manifest.fits_sampleFields :
    Json.Fits .standard Json.Limits.standard.depth
      (.object sampleFields) := by
  have hBlob : ∀ b ∈ ListedBlob.samples,
      Json.Fits .standard 988 b.descriptor := by
    simp only [ListedBlob.samples, List.forall_mem_cons,
      List.not_mem_nil, false_imp_iff, implies_true, and_true]
    exact ⟨ListedBlob.fits_ofDigest _ (by decide) 987,
      ListedBlob.fits_ofDigest _ (by decide) 987⟩
  refine .object 989 _ (by simp [sampleFields]) ?_
  simp only [sampleFields, List.forall_mem_cons,
    List.not_mem_nil, false_imp_iff, implies_true, and_true]
  refine ⟨ListedBlob.fits_ofDigest _ (by decide) 988, ?_⟩
  refine .array 988 _ ?_
  intro v hMem
  rcases List.mem_map.mp hMem with ⟨b, hListed, rfl⟩
  exact hBlob b hListed

/-
  All that is listed comes, and the layer is there twice. If
  the blobs are too short, it ends at the configuration.
-/
theorem save_follows_manifest_sample :
    (∃ members,
      (RegistryClient.sampleSave Manifest.layered
          [1, 2]).2.fetch "/image.tar" =
          .ok (.archive members) ∧
        members.map Prod.fst =
          ["manifest.json", "sha256_aa", "sha256_bb",
            "sha256_bb"] ∧
        List.Forall₂ Member.IsListedAs
          ["manifest.json", "sha256_aa", "sha256_bb",
            "sha256_bb"]
          ((members.map Member.listed).map Prod.fst)) ∧
      Follows
        (RegistryClient.sample.demands "tools/demo" "1"
          .sample ListedBlob.samples)
        (RegistryClient.sample.exchanges
          (.serving Manifest.layered [1]) "tools/demo" "1"
          .blank)
        (.error shortBlob) := by
  have hManifest : ∀ blob,
      RegistryClient.ManifestLists
        (Transport.serving Manifest.layered blob
          (RegistryClient.sample.manifestRequest .get
            "tools/demo" "1") .blank).1
        .sample ListedBlob.samples := by
    have hHolds :
        (Response.ofBody 200 []
          (utf8 Manifest.layered)).Holds
          Manifest.sampleFields :=
      Response.holds_of_write String.toList_ofList
        Manifest.fits_sampleFields
    intro blob r hAnswer _
    rw [Transport.serving_manifest] at hAnswer
    cases hAnswer
    exact ⟨_, hHolds, rfl, Or.inl rfl⟩
  have hTarget : Disk.blank.IsWritable "/image.tar" :=
    ⟨["image.tar"], by decide +kernel, by decide⟩
  have hRun := fun blob =>
    @save_follows_manifest Disk .sample
      (.serving Manifest.layered blob) .self "tools/demo" "1"
      ⟨"/", ["image.tar"]⟩ .sample ListedBlob.samples .blank
      (fun _ _ => rfl) (fun _ => Action.FailsOnly.give _)
      (fun _ _ => rfl) hTarget (hManifest blob)
  have hReturns :
      (RegistryClient.sampleSave Manifest.layered
        [1, 2]).1 = .ok () := by
    decide +kernel
  have hStops :
      (RegistryClient.sampleSave Manifest.layered [1]).1 =
        .error shortBlob := by
    decide +kernel
  have hExpected :
      RegistryClient.memberNames .sample ListedBlob.samples =
        ["manifest.json", "sha256_aa", "sha256_bb",
          "sha256_bb"] := by
    decide
  rcases (hRun [1, 2]).2 _ (Prod.ext hReturns rfl) with
    ⟨_, members, hStored, hNames, hListed⟩
  have hPlain :
      ∀ b ∈ ListedBlob.sample :: ListedBlob.samples,
        '\x00' ∉ b.digest.toList := by
    simp only [ListedBlob.samples, List.forall_mem_cons,
      List.not_mem_nil, false_imp_iff, implies_true, and_true]
    refine ⟨?_, ?_, ?_⟩ <;> decide
  rw [hExpected] at hNames hListed
  refine ⟨⟨members, hStored, hNames, hListed hPlain⟩, ?_⟩
  rw [← hStops, RegistryClient.sampleSave]
  exact (hRun [1]).1

/- A configuration whose name does not fit its field. -/
def ListedBlob.slashed : ListedBlob :=
  ofDigest "sha256:é/" 2

/- The fields of a manifest that lists it. -/
def Manifest.slashedFields : JsonFields :=
  [("config", ListedBlob.slashed.descriptor)]

/- That manifest. -/
def Manifest.slashed : String :=
  Json.writeString .compact (.object slashedFields)

theorem Manifest.holds_slashed :
    (Response.ofBody 200 [] (utf8 slashed)).Holds
      slashedFields := by
  refine Response.holds_of_write String.toList_ofList ?_
  refine .object 989 _ (by simp [slashedFields]) ?_
  simp only [slashedFields, List.forall_mem_cons,
    List.not_mem_nil, false_imp_iff, implies_true, and_true]
  exact ListedBlob.fits_ofDigest _ (by decide) 988

/-
  All that is listed comes and is stored, but the slash at
  the end of the name is gone when the archive is listed.
-/
theorem not_listed_as_named :
    RegistryClient.ManifestLists
        (Transport.serving Manifest.slashed [1, 2]
          (RegistryClient.sample.manifestRequest .get
            "tools/demo" "1") .blank).1
        .slashed [] ∧
      (RegistryClient.sampleSave Manifest.slashed
        [1, 2]).1 = .ok () ∧
      ∃ members,
        (RegistryClient.sampleSave Manifest.slashed
            [1, 2]).2.fetch "/image.tar" =
            .ok (.archive members) ∧
          (members.map Member.listed).map Prod.fst ≠
            RegistryClient.memberNames .slashed [] := by
  refine ⟨?_, by decide +kernel,
    [("manifest.json", utf8 Manifest.slashed),
      ("sha256_é/", [1, 2])], by decide +kernel,
    by decide +kernel⟩
  intro r hAnswer _
  rw [Transport.serving_manifest] at hAnswer
  cases hAnswer
  exact ⟨_, Manifest.holds_slashed, rfl, Or.inr ⟨rfl, rfl⟩⟩

end ContainerBuild
