import ContainerBuild.Proofs.Registry.Lookup
import ContainerBuild.Registry.Download

/-
  This file says how a download goes. A traced transport
  writes down each request and what came of it, and changes
  nothing else. The blobs are fetched one after the other,
  and the first one that does not come ends the download.

  Key definitions include:
    * `Exchange`
    * `Transport.traced`
    * `FetchedBlob`
    * `Response.Ends`
    * `Response.BreaksOff`
    * `RegistryClient.Fetches`
    * `RegistryClient.Downloads`
    * `RegistryClient.exchanges`
    * `RegistryClient.Serves`
    * `RegistryClient.membersOf`

  Main statements:
    * `RegistryClient.exists_fetches`
    * `RegistryClient.Downloads.credentials`
    * `RegistryClient.traced_download`
    * `RegistryClient.downloads`
    * `RegistryClient.head_exchanges`
    * `RegistryClient.Downloads.exists_serves`
    * `RegistryClient.download_keeps`
-/

namespace ContainerBuild

------------------------------------------------------------
-- Exchanges
------------------------------------------------------------

/- A request and what came of it. -/
structure Exchange where
  request : Request
  answer : Except Failure Response

/- A world and the exchanges that it has seen so far. -/
structure Traced (σ : Type) where
  exchanges : List Exchange
  world : σ

section Tracing

variable {σ α β : Type}
variable {s t : σ}
variable {made more : List Exchange}
variable {m : Action σ α}
variable {m' : Action (Traced σ) α}

/- A transport that writes down what it exchanges. -/
def Transport.traced
    (transport : Transport σ) : Transport (Traced σ) :=
  fun r s =>
    match transport r s.world with
    | (answer, world) =>
        (answer, ⟨s.exchanges ++ [⟨r, answer⟩], world⟩)

/-
  The first action does in a state what the second one does,
  and some exchanges are written down for it.
-/
def Action.Writes
    (m' : Action (Traced σ) α)
    (m : Action σ α)
    (s : σ)
    (made : List Exchange) : Prop :=
  ∀ before,
    m' ⟨before, s⟩ =
      ((m s).1, ⟨before ++ made, (m s).2⟩)

theorem Action.Writes.next_of_error
    {f : α → Action σ β}
    {f' : α → Action (Traced σ) β}
    {e : Failure}
    (hWrites : m'.Writes m s made)
    (hRun : m s = (.error e, t)) :
    (m'.next f').Writes (m.next f) s made := by
  intro before
  have hTraced := hWrites before
  rw [hRun] at hTraced
  rw [Action.next_of_error hTraced,
    Action.next_of_error hRun]

theorem Action.Writes.next_of_ok
    {f : α → Action σ β}
    {f' : α → Action (Traced σ) β}
    {a : α}
    (hWrites : m'.Writes m s made)
    (hRun : m s = (.ok a, t))
    (hNext : (f' a).Writes (f a) t more) :
    (m'.next f').Writes (m.next f) s
      (made ++ more) := by
  intro before
  have hTraced := hWrites before
  rw [hRun] at hTraced
  rw [Action.next_of_ok hTraced, Action.next_of_ok hRun,
    hNext, List.append_assoc]

/- What makes no exchange writes nothing down. -/
theorem Action.writes_ofExcept
    (r : Except Failure α)
    (s : σ) :
    (Action.ofExcept r).Writes (Action.ofExcept r) s [] := by
  intro before
  simp [Action.ofExcept]

/- What is made of a value takes no exchange. -/
theorem Action.Writes.next_ofExcept
    (hWrites : m'.Writes m s made)
    (g : α → Except Failure β) :
    (m'.next (fun a => Action.ofExcept (g a))).Writes
      (m.next (fun a => Action.ofExcept (g a))) s made := by
  rcases hRun : m s with ⟨r, t⟩
  cases r with
  | error e => exact hWrites.next_of_error hRun
  | ok a =>
      rw [← List.append_nil made]
      exact hWrites.next_of_ok hRun
        (Action.writes_ofExcept (g a) t)

namespace RegistryClient

variable {transport : Transport σ}
variable {r : Request}

theorem send_of_ok
    {answer : Response}
    (hSend : transport r s = (.ok answer, t)) :
    send transport r s = (.ok answer, t) :=
  Action.mapFailure_eq_ok_iff.mpr hSend

theorem send_of_error
    {f : Failure}
    (hSend : transport r s = (.error f, t)) :
    send transport r s = (.error (requestFailure r f), t) := by
  simp only [send, Action.mapFailure, hSend]

theorem writes_send
    (transport : Transport σ)
    (r : Request)
    (s : σ) :
    (send transport.traced r).Writes (send transport r) s
      [⟨r, (transport r s).1⟩] := by
  intro before
  simp only [send, Action.mapFailure, Transport.traced]
  rcases transport r s with ⟨answer, t⟩
  cases answer <;> rfl

end RegistryClient

end Tracing

------------------------------------------------------------
-- Blobs
------------------------------------------------------------

/- What a text makes of the name of a member. -/
def Descriptor.plainName (digest : String) : String :=
  String.ofList (digest.toList.map plainSign)

/-
  A blob that was fetched: what was listed about it, and the
  answer with its octets, which are enough of them.
-/
structure FetchedBlob where
  descriptor : Json.Value
  digest : String
  size : Int
  answer : Response
  hasDigest : Descriptor.digest descriptor = .ok (.text digest)
  hasSize : Descriptor.size descriptor = .ok size
  isGiven : answer.status = 200
  isEnough : readLength size ≤ answer.body.length

namespace FetchedBlob

/- The exchange in which the blob was fetched. -/
def exchange
    (c : RegistryClient)
    (fullName : String)
    (b : FetchedBlob) : Exchange :=
  ⟨c.blobRequest fullName b.digest, .ok b.answer⟩

/- The member that the blob becomes. -/
def member (b : FetchedBlob) : Member :=
  (Descriptor.plainName b.digest,
    b.answer.body.take (readLength b.size))

end FetchedBlob

/- The body ends before it has a length. -/
structure Response.Ends
    (r : Response)
    (length : Nat) : Prop where
  isShort : r.body.length < length
  isWhole : r.failure = none

/- The body breaks off before it has a length. -/
structure Response.BreaksOff
    (r : Response)
    (length : Nat)
    (f : Failure) : Prop where
  isShort : r.body.length < length
  breaks : r.failure = some f

/- Too few octets: they end there, or the body breaks off. -/
theorem cutBlob_eq_error
    {size : Int}
    {r : Response}
    {f : Failure}
    (hCut : cutBlob size r = .error f) :
    (f = shortBlob ∧ r.Ends (readLength size)) ∨
      r.BreaksOff (readLength size) f := by
  unfold cutBlob at hCut
  split at hCut
  · rename_i hShort
    cases hFailure : r.failure with
    | none =>
        rw [hFailure] at hCut
        exact Or.inl
          ⟨(Except.error.inj hCut).symm, hShort, hFailure⟩
    | some g =>
        rw [hFailure] at hCut
        cases hCut
        exact Or.inr ⟨hShort, hFailure⟩
  · exact absurd hCut (by simp)

/- No member: for want of a name, of a size, or of octets. -/
theorem blobMember_eq_error
    {descriptor digest : Json.Value}
    {r : Response}
    {f : Failure}
    (hMember : blobMember descriptor digest r = .error f) :
    Descriptor.memberName digest = .error f ∨
      ∃ text, digest = .text text ∧
        (Descriptor.size descriptor = .error f ∨
          ∃ size,
            Descriptor.size descriptor = .ok size ∧
              cutBlob size r = .error f) := by
  unfold blobMember at hMember
  split at hMember
  · rename_i hName
    cases hMember
    exact Or.inl hName
  · rename_i name hName
    cases digest with
    | text text =>
        split at hMember
        · rename_i hSize
          cases hMember
          exact Or.inr ⟨text, rfl, Or.inl hSize⟩
        · rename_i size hSize
          split at hMember
          · rename_i hCut
            cases hMember
            exact Or.inr
              ⟨text, rfl, Or.inr ⟨size, hSize, hCut⟩⟩
          · exact absurd hMember (by simp)
    | _ =>
        exact absurd hName
          (by simp [Descriptor.memberName])

theorem blobMember_eq_ok_iff
    {descriptor digest : Json.Value}
    {r : Response}
    {m : Member} :
    blobMember descriptor digest r = .ok m ↔
      ∃ text size,
        digest = .text text ∧
          Descriptor.size descriptor = .ok size ∧
          readLength size ≤ r.body.length ∧
          m = (Descriptor.plainName text,
            r.body.take (readLength size)) := by
  constructor
  · intro hMember
    unfold blobMember at hMember
    split at hMember
    · exact absurd hMember (by simp)
    · rename_i name hName
      split at hMember
      · exact absurd hMember (by simp)
      · rename_i size hSize
        cases digest with
        | text text =>
            cases hName
            by_cases hShort :
                r.body.length < readLength size
            · simp [cutBlob, hShort] at hMember
            · simp only [cutBlob, if_neg hShort] at hMember
              cases hMember
              exact ⟨text, size, rfl, hSize,
                Nat.not_lt.mp hShort, rfl⟩
        | _ =>
            exact absurd hName
              (by simp [Descriptor.memberName])
  · rintro ⟨text, size, rfl, hSize, hEnough, rfl⟩
    simp [blobMember, Descriptor.memberName, hSize, cutBlob,
      Nat.not_lt.mpr hEnough, Descriptor.plainName]

namespace RegistryClient

variable {σ : Type}
variable {c : RegistryClient}
variable {transport : Transport σ}
variable {fullName tag : String}
variable {ds : List Json.Value}
variable {made : List Exchange}
variable {result : Except Failure (List Member)}
variable {s : σ}

/-
  What comes of a request for a blob that is not fetched: the
  transport fails, or the answer is another one, or no
  member can be made of it.
-/
inductive StopsAt
    (descriptor digest : Json.Value)
    (r : Request) : Except Failure Response → Failure → Prop
  | lost (f : Failure) :
      StopsAt descriptor digest r (.error f)
        (requestFailure r f)
  | refused (answer : Response) :
      answer.status ≠ 200 →
        StopsAt descriptor digest r (.ok answer)
          (unexpectedStatus answer.status
            ("for blob " ++ digest.display))
  | unusable (answer : Response) (f : Failure) :
      answer.status = 200 →
      blobMember descriptor digest answer = .error f →
        StopsAt descriptor digest r (.ok answer) f

/-
  How the blobs of descriptors are fetched: all of them come,
  or those before one that has no digest, or those before one
  whose request ends the download.
-/
inductive Fetches
    (c : RegistryClient)
    (fullName : String)
    (ds : List Json.Value) :
    List Exchange → Except Failure (List Member) → Prop
  | all (bs : List FetchedBlob) :
      ds = bs.map FetchedBlob.descriptor →
        Fetches c fullName ds
          (bs.map (FetchedBlob.exchange c fullName))
          (.ok (bs.map FetchedBlob.member))
  | undescribed
      (bs : List FetchedBlob)
      (d : Json.Value)
      (rest : List Json.Value)
      (f : Failure) :
      ds = bs.map FetchedBlob.descriptor ++ d :: rest →
      Descriptor.digest d = .error f →
        Fetches c fullName ds
          (bs.map (FetchedBlob.exchange c fullName))
          (.error f)
  | stopped
      (bs : List FetchedBlob)
      (d digest : Json.Value)
      (rest : List Json.Value)
      (answer : Except Failure Response)
      (f : Failure) :
      ds = bs.map FetchedBlob.descriptor ++ d :: rest →
      Descriptor.digest d = .ok digest →
      StopsAt d digest (c.blobRequest fullName digest.display)
        answer f →
        Fetches c fullName ds
          (bs.map (FetchedBlob.exchange c fullName)
            ++ [⟨c.blobRequest fullName digest.display,
              answer⟩])
          (.error f)

/- One more blob is fetched before the others. -/
theorem Fetches.cons
    (hFetches : c.Fetches fullName ds made result)
    (b : FetchedBlob) :
    c.Fetches fullName (b.descriptor :: ds)
      (b.exchange c fullName :: made)
      (result.map (b.member :: ·)) := by
  cases hFetches with
  | all bs hAll =>
      exact .all (b :: bs) (by simp [hAll])
  | undescribed bs d rest f hSplit hDigest =>
      exact .undescribed (b :: bs) d rest f
        (by simp [hSplit]) hDigest
  | stopped bs d digest rest answer f hSplit hDigest
      hStops =>
      exact .stopped (b :: bs) d digest rest answer f
        (by simp [hSplit]) hDigest hStops

/- All requests for blobs are made in the client's name. -/
theorem Fetches.credentials
    (hFetches : c.Fetches fullName ds made result) :
    ∀ x ∈ made, x.request.credentials = c.credentials := by
  have hFetched : ∀ bs : List FetchedBlob,
      ∀ x ∈ bs.map (FetchedBlob.exchange c fullName),
        x.request.credentials = c.credentials := by
    intro bs x hMem
    rcases List.mem_map.mp hMem with ⟨b, _, rfl⟩
    rfl
  cases hFetches with
  | all bs _ => exact hFetched bs
  | undescribed bs _ _ _ _ _ => exact hFetched bs
  | stopped bs _ _ _ _ _ _ _ _ =>
      intro x hMem
      rcases List.mem_append.mp hMem with hMem | hMem
      · exact hFetched bs x hMem
      · cases List.mem_singleton.mp hMem
        rfl

/- What the answer to the request for a blob is worth. -/
def blobAnswer
    (descriptor digest : Json.Value)
    (r : Response) : Except Failure Member :=
  if r.status = 200 then
    blobMember descriptor digest r
  else
    .error (unexpectedStatus r.status
      ("for blob " ++ digest.display))

theorem blob_eq
    {d digest : Json.Value}
    (hDigest : Descriptor.digest d = .ok digest) :
    c.blob transport fullName d =
      (send transport
        (c.blobRequest fullName digest.display)).next
        (fun r =>
          Action.ofExcept (blobAnswer d digest r)) := by
  unfold blob blobAnswer
  simp only [hDigest]
  congr 1
  funext r
  by_cases hStatus : r.status = 200
  · simp only [if_pos hStatus]
  · simp only [if_neg hStatus]
    rfl

/- The answer ends the download, or it brings the blob. -/
theorem stopsAt_of_blobAnswer
    {d digest : Json.Value}
    {answer : Response}
    {f : Failure}
    {r : Request}
    (hAnswer : blobAnswer d digest answer = .error f) :
    StopsAt d digest r (.ok answer) f := by
  unfold blobAnswer at hAnswer
  by_cases hStatus : answer.status = 200
  · rw [if_pos hStatus] at hAnswer
    exact .unusable answer f hStatus hAnswer
  · rw [if_neg hStatus] at hAnswer
    cases hAnswer
    exact .refused answer hStatus

theorem exists_fetchedBlob
    {d digest : Json.Value}
    {answer : Response}
    {m : Member}
    (hDigest : Descriptor.digest d = .ok digest)
    (hAnswer : blobAnswer d digest answer = .ok m) :
    ∃ b : FetchedBlob,
      d = b.descriptor ∧ digest = .text b.digest ∧
        answer = b.answer ∧ m = b.member := by
  unfold blobAnswer at hAnswer
  by_cases hStatus : answer.status = 200
  · rw [if_pos hStatus] at hAnswer
    rcases blobMember_eq_ok_iff.mp hAnswer with
      ⟨text, size, rfl, hSize, hEnough, rfl⟩
    exact ⟨⟨d, text, size, answer, hDigest, hSize, hStatus,
      hEnough⟩, rfl, rfl, rfl, rfl⟩
  · rw [if_neg hStatus] at hAnswer
    exact absurd hAnswer (by simp)

/-
  The step for one descriptor with a digest: one exchange,
  which ends the download or brings the blob.
-/
theorem blob_cases
    {d digest : Json.Value}
    (hDigest : Descriptor.digest d = .ok digest)
    (c : RegistryClient)
    (transport : Transport σ)
    (fullName : String)
    (s : σ) :
    ∃ answer t,
      (c.blob transport.traced fullName d).Writes
          (c.blob transport fullName d) s
          [⟨c.blobRequest fullName digest.display,
            answer⟩] ∧
        ((∃ f,
          StopsAt d digest
              (c.blobRequest fullName digest.display)
              answer f ∧
            c.blob transport fullName d s =
              (.error f, t)) ∨
          ∃ b : FetchedBlob,
            d = b.descriptor ∧ digest = .text b.digest ∧
              answer = .ok b.answer ∧
              c.blob transport fullName d s =
                (.ok b.member, t)) := by
  have hWrites :=
    (writes_send transport
      (c.blobRequest fullName digest.display)
      s).next_ofExcept (blobAnswer d digest)
  rcases hSend : transport
      (c.blobRequest fullName digest.display) s with
    ⟨answer, t⟩
  simp only [← blob_eq hDigest, hSend] at hWrites
  refine ⟨answer, t, hWrites, ?_⟩
  rw [blob_eq hDigest]
  cases answer with
  | error f =>
      rw [Action.next_of_error (send_of_error hSend)]
      exact Or.inl ⟨_, .lost f, rfl⟩
  | ok r =>
      rw [Action.next_of_ok (send_of_ok hSend)]
      cases hAnswer : blobAnswer d digest r with
      | error f =>
          exact Or.inl
            ⟨f, stopsAt_of_blobAnswer hAnswer, rfl⟩
      | ok m =>
          rcases exists_fetchedBlob hDigest hAnswer with
            ⟨b, hDescriptor, hText, rfl, rfl⟩
          exact Or.inr
            ⟨b, hDescriptor, hText, rfl, rfl⟩

/-
  By induction on the descriptors: the first one has no
  digest, or its blob does not come, or the others are gone
  through after it.
-/
theorem exists_fetches
    (c : RegistryClient)
    (transport : Transport σ)
    (fullName : String)
    (ds : List Json.Value)
    (s : σ) :
    ∃ made,
      (c.blobs transport.traced fullName ds).Writes
          (c.blobs transport fullName ds) s made ∧
        c.Fetches fullName ds made
          (c.blobs transport fullName ds s).1 := by
  induction ds generalizing s with
  | nil =>
      exact ⟨[], Action.writes_ofExcept (.ok []) s,
        .all [] rfl⟩
  | cons d rest ih =>
      cases hDigest : Descriptor.digest d with
      | error f =>
          have hBlobs : ∀ (τ : Type) (x : Transport τ),
              c.blobs x fullName (d :: rest) =
                Action.ofExcept (.error f) := by
            intro τ x
            funext t
            simp only [blobs, blob, hDigest]
            rfl
          simp only [hBlobs]
          exact ⟨[], Action.writes_ofExcept _ s,
            .undescribed [] d rest f rfl hDigest⟩
      | ok digest =>
          rcases blob_cases hDigest c transport fullName s
            with ⟨answer, t, hWrites, hCases⟩
          simp only [blobs]
          rcases hCases with
            ⟨f, hStops, hRun⟩ |
              ⟨b, rfl, rfl, rfl, hRun⟩
          · refine ⟨_, hWrites.next_of_error hRun, ?_⟩
            rw [Action.next_of_error hRun]
            exact .stopped [] d digest rest answer f rfl
              hDigest hStops
          · rcases ih t with ⟨made, hRest, hFetches⟩
            refine ⟨b.exchange c fullName :: made,
              hWrites.next_of_ok hRun
                (hRest.next_ofExcept
                  (fun ms => .ok (b.member :: ms))), ?_⟩
            rw [Action.next_of_ok hRun]
            have hCons := hFetches.cons b
            rcases hMore : c.blobs transport fullName rest t
              with ⟨r, u⟩
            rw [hMore] at hCons
            cases r with
            | error f =>
                rw [Action.next_of_error hMore]
                exact hCons
            | ok ms =>
                rw [Action.next_of_ok hMore]
                exact hCons

------------------------------------------------------------
-- Downloads
------------------------------------------------------------

/-
  How an image is downloaded: its manifest does not come, or
  lists nothing that can be fetched, or the blobs that it
  lists are fetched.
-/
inductive Downloads
    (c : RegistryClient)
    (fullName tag : String) :
    List Exchange → Except Failure (List Member) → Prop
  | lost (f : Failure) :
      Downloads c fullName tag
        [⟨c.manifestRequest .get fullName tag, .error f⟩]
        (.error (requestFailure
          (c.manifestRequest .get fullName tag) f))
  | unlisted (manifest : Response) (f : Failure) :
      manifestAnswer fullName tag manifest = .error f →
        Downloads c fullName tag
          [⟨c.manifestRequest .get fullName tag,
            .ok manifest⟩]
          (.error f)
  | listed
      (manifest : Response)
      (ds : List Json.Value)
      (made : List Exchange)
      (result : Except Failure (List Member)) :
      manifestAnswer fullName tag manifest = .ok ds →
      c.Fetches fullName ds made result →
        Downloads c fullName tag
          (⟨c.manifestRequest .get fullName tag,
              .ok manifest⟩ :: made)
          (result.map ((manifestName, manifest.body) :: ·))

/- So are all requests of a download. -/
theorem Downloads.credentials
    (hDownloads : c.Downloads fullName tag made result) :
    ∀ x ∈ made, x.request.credentials = c.credentials := by
  cases hDownloads with
  | lost f =>
      intro x hMem
      cases List.mem_singleton.mp hMem
      rfl
  | unlisted manifest f _ =>
      intro x hMem
      cases List.mem_singleton.mp hMem
      rfl
  | listed manifest ds made result _ hFetches =>
      intro x hMem
      rcases List.mem_cons.mp hMem with rfl | hMem
      · rfl
      · exact hFetches.credentials x hMem

/- What is done with the answer to the first request. -/
def downloadListed
    (c : RegistryClient)
    (transport : Transport σ)
    (fullName tag : String)
    (manifest : Response) : Action σ (List Member) :=
  match manifestAnswer fullName tag manifest with
  | .error f => Action.fail f
  | .ok ds =>
      (c.blobs transport fullName ds).next
        (fun ms =>
          Action.give ((manifestName, manifest.body) :: ms))

theorem exists_downloadListed
    (c : RegistryClient)
    (transport : Transport σ)
    (fullName tag : String)
    (manifest : Response)
    (s : σ) :
    ∃ made,
      (c.downloadListed transport.traced fullName tag
          manifest).Writes
        (c.downloadListed transport fullName tag manifest)
        s made ∧
      c.Downloads fullName tag
        (⟨c.manifestRequest .get fullName tag,
          .ok manifest⟩ :: made)
        (c.downloadListed transport fullName tag manifest
          s).1 := by
  unfold downloadListed
  cases hAnswer : manifestAnswer fullName tag manifest with
  | error f =>
      exact ⟨[], Action.writes_ofExcept (.error f) s,
        .unlisted manifest f hAnswer⟩
  | ok ds =>
      rcases exists_fetches c transport fullName ds s with
        ⟨made, hWrites, hFetches⟩
      refine ⟨made, hWrites.next_ofExcept
        (fun ms => .ok ((manifestName, manifest.body) :: ms)),
        ?_⟩
      have hListed :
          c.Downloads fullName tag
            (⟨c.manifestRequest .get fullName tag,
              .ok manifest⟩ :: made)
            ((c.blobs transport fullName ds s).1.map
              ((manifestName, manifest.body) :: ·)) :=
        .listed manifest ds made _ hAnswer hFetches
      simp only
      rcases hMore : c.blobs transport fullName ds s with
        ⟨r, t⟩
      rw [hMore] at hListed
      cases r with
      | error f =>
          rw [Action.next_of_error hMore]
          exact hListed
      | ok ms =>
          rw [Action.next_of_ok hMore]
          exact hListed

theorem exists_downloads
    (c : RegistryClient)
    (transport : Transport σ)
    (fullName tag : String)
    (s : σ) :
    ∃ made,
      (c.download transport.traced fullName tag).Writes
          (c.download transport fullName tag) s made ∧
        c.Downloads fullName tag made
          (c.download transport fullName tag s).1 := by
  have hDownload : ∀ (τ : Type) (x : Transport τ),
      c.download x fullName tag =
        (send x (c.manifestRequest .get fullName tag)).next
          (c.downloadListed x fullName tag) :=
    fun _ _ => rfl
  have hWrites := writes_send transport
    (c.manifestRequest .get fullName tag) s
  rcases hSend : transport
      (c.manifestRequest .get fullName tag) s with
    ⟨answer, t⟩
  simp only [hSend] at hWrites
  simp only [hDownload]
  cases answer with
  | error f =>
      have hRun := send_of_error hSend
      refine ⟨_, hWrites.next_of_error hRun, ?_⟩
      rw [Action.next_of_error hRun]
      exact .lost f
  | ok manifest =>
      have hRun := send_of_ok hSend
      rcases exists_downloadListed c transport fullName tag
          manifest t with
        ⟨made, hListed, hDownloads⟩
      refine ⟨_, hWrites.next_of_ok hRun hListed, ?_⟩
      rw [Action.next_of_ok hRun]
      exact hDownloads

/- The exchanges that a download makes. -/
def exchanges
    (c : RegistryClient)
    (transport : Transport σ)
    (fullName tag : String)
    (s : σ) : List Exchange :=
  (c.download transport.traced fullName tag
    ⟨[], s⟩).2.exchanges

/- Writing down the exchanges changes nothing else. -/
theorem traced_download
    (c : RegistryClient)
    (transport : Transport σ)
    (fullName tag : String)
    (s : σ) :
    c.download transport.traced fullName tag ⟨[], s⟩ =
      ((c.download transport fullName tag s).1,
        ⟨c.exchanges transport fullName tag s,
          (c.download transport fullName tag s).2⟩) := by
  rcases exists_downloads c transport fullName tag s with
    ⟨made, hWrites, _⟩
  unfold exchanges
  rw [hWrites]

theorem downloads
    (c : RegistryClient)
    (transport : Transport σ)
    (fullName tag : String)
    (s : σ) :
    c.Downloads fullName tag
      (c.exchanges transport fullName tag s)
      (c.download transport fullName tag s).1 := by
  rcases exists_downloads c transport fullName tag s with
    ⟨made, hWrites, hDownloads⟩
  unfold exchanges
  rw [hWrites]
  exact hDownloads

/- The first exchange is that of the manifest. -/
theorem head_exchanges
    (c : RegistryClient)
    (transport : Transport σ)
    (fullName tag : String)
    (s : σ) :
    (c.exchanges transport fullName tag s).head? =
      some ⟨c.manifestRequest .get fullName tag,
        (transport
          (c.manifestRequest .get fullName tag) s).1⟩ := by
  have hWrites := writes_send transport
    (c.manifestRequest .get fullName tag) s []
  unfold exchanges
  rcases hSend : transport
      (c.manifestRequest .get fullName tag) s with
    ⟨answer, t⟩
  rw [hSend] at hWrites
  cases answer with
  | error f =>
      rw [send_of_error hSend] at hWrites
      rw [download, Action.next_of_error hWrites]
      rfl
  | ok r =>
      rw [send_of_ok hSend] at hWrites
      rcases exists_downloadListed c transport fullName tag r
          t with
        ⟨made, hListed, _⟩
      have hRun := Action.next_of_ok hWrites
        (c.downloadListed transport.traced fullName tag)
      rw [hListed] at hRun
      exact congrArg (fun u => u.2.exchanges.head?) hRun

------------------------------------------------------------
-- Complete Downloads
------------------------------------------------------------

/- An answer lists descriptors, in the fields of an object. -/
structure Lists
    (manifest : Response)
    (fields : JsonFields)
    (ds : List Json.Value) : Prop where
  given : manifest.status = 200
  object : manifest.payload = .ok (.object fields)
  listed : Manifest.descriptors fields = .ok ds

/-
  What is exchanged when a download is complete: a manifest,
  and a blob for each of its descriptors.
-/
structure Serves
    (c : RegistryClient)
    (fullName tag : String)
    (made : List Exchange)
    (manifest : Response)
    (fields : JsonFields)
    (bs : List FetchedBlob) : Prop where
  exchanges :
    made =
      ⟨c.manifestRequest .get fullName tag, .ok manifest⟩ ::
        bs.map (FetchedBlob.exchange c fullName)
  lists :
    Lists manifest fields (bs.map FetchedBlob.descriptor)

/- The members that a complete download gives. -/
def membersOf
    (manifest : Response)
    (bs : List FetchedBlob) : List Member :=
  (manifestName, manifest.body) :: bs.map FetchedBlob.member

theorem exists_lists_of_manifestAnswer
    {manifest : Response}
    (hAnswer :
      manifestAnswer fullName tag manifest = .ok ds) :
    ∃ fields, Lists manifest fields ds := by
  unfold manifestAnswer at hAnswer
  simp only at hAnswer
  by_cases hStatus : manifest.status = 200
  · rw [if_pos hStatus] at hAnswer
    split at hAnswer
    · exact absurd hAnswer (by simp)
    · rename_i fields hObject
      exact ⟨fields, hStatus, objectOf_eq_ok hObject,
        hAnswer⟩
  · rw [if_neg hStatus] at hAnswer
    exact absurd hAnswer (by simp)

/- A download that gives members was served completely. -/
theorem Downloads.exists_serves
    {members : List Member}
    (hDownloads :
      c.Downloads fullName tag made (.ok members)) :
    ∃ manifest fields, ∃ bs : List FetchedBlob,
      c.Serves fullName tag made manifest fields bs ∧
        members = membersOf manifest bs := by
  generalize hResult : Except.ok members = result
    at hDownloads
  cases hDownloads with
  | lost f => exact absurd hResult (by simp)
  | unlisted manifest f _ => exact absurd hResult (by simp)
  | listed manifest ds made result hAnswer hFetches =>
      rcases exists_lists_of_manifestAnswer hAnswer with
        ⟨fields, hLists⟩
      cases hFetches with
      | undescribed =>
          exact absurd hResult (by simp [Except.map])
      | stopped =>
          exact absurd hResult (by simp [Except.map])
      | all bs hAll =>
          subst hAll
          exact ⟨manifest, fields, bs, ⟨rfl, hLists⟩,
            Except.ok.inj hResult⟩

------------------------------------------------------------
-- What Downloads Keep
------------------------------------------------------------

theorem blobs_keeps
    {P : σ → Prop}
    (hKeeps : ∀ r, (transport r).Keeps P)
    (c : RegistryClient)
    (fullName : String)
    (ds : List Json.Value) :
    (c.blobs transport fullName ds).Keeps P := by
  induction ds with
  | nil => exact fun _ hHolds => hHolds
  | cons d rest ih =>
      have hBlob : (c.blob transport fullName d).Keeps P := by
        cases hDigest : Descriptor.digest d with
        | error f =>
            simp only [blob, hDigest]
            exact fun _ hHolds => hHolds
        | ok digest =>
            rw [blob_eq hDigest]
            exact (hKeeps _).mapFailure.next
              (fun _ _ hHolds => hHolds)
      exact hBlob.next
        (fun _ => ih.next (fun _ _ hHolds => hHolds))

/- A download keeps up what every request keeps up. -/
theorem download_keeps
    {P : σ → Prop}
    (hKeeps : ∀ r, (transport r).Keeps P)
    (c : RegistryClient)
    (fullName tag : String) :
    (c.download transport fullName tag).Keeps P := by
  refine (hKeeps _).mapFailure.next ?_
  intro manifest
  cases hAnswer : manifestAnswer fullName tag manifest with
  | error f =>
      exact fun _ hHolds => hHolds
  | ok ds =>
      exact (blobs_keeps hKeeps c fullName ds).next
        (fun _ _ hHolds => hHolds)

/- What is written down was answered by the transport. -/
theorem exists_answered
    {x : Exchange}
    (hMem : x ∈ c.exchanges transport fullName tag s) :
    ∃ t, (transport x.request t).1 = x.answer := by
  have hTraced : ∀ r,
      (transport.traced r).Keeps (fun u =>
        ∀ x ∈ u.exchanges,
          ∃ t, (transport x.request t).1 = x.answer) := by
    intro r u hEarlier x hMem
    simp only [Transport.traced] at hMem
    rcases List.mem_append.mp hMem with hMem | hMem
    · exact hEarlier x hMem
    · cases List.mem_singleton.mp hMem
      exact ⟨u.world, rfl⟩
  exact download_keeps hTraced c fullName tag ⟨[], s⟩
    (by simp) x hMem

/- Exchanges fail only as the transport does. -/
theorem isTransport_of_mem_exchanges
    (hTransport :
      ∀ r, (transport r).FailsOnly Failure.IsTransport)
    {y : Exchange}
    (hMem : y ∈ c.exchanges transport fullName tag s)
    {f : Failure}
    (hLost : y.answer = .error f) :
    f.IsTransport := by
  rcases exists_answered hMem with ⟨t, hAnswer⟩
  exact hTransport y.request t f (hAnswer.trans hLost)

end RegistryClient

end ContainerBuild
