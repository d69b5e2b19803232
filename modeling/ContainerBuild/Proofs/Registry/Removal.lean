import ContainerBuild.Proofs.Registry.Download
import ContainerBuild.Proofs.Registry.Membership
import ContainerBuild.Registry.Removal

/-
  This file says how removing an image goes about its
  requests. The manifest of the tag is asked for, without its
  contents. Only an answer that resolves the tag to a digest
  has a deletion sent after it, one and of that digest, and
  the image counts as removed only if that one is accepted.

  Key definitions include:
    * `Response.Resolves`
    * `Response.Accepts`
    * `RegistryClient.Settles`
    * `RegistryClient.Removes`
    * `RegistryClient.removalExchanges`

  Main statements:
    * `RegistryClient.removes`
    * `RegistryClient.Removes.deletion_mem_iff`
    * `removal_goes_by_digest`
-/

namespace ContainerBuild

------------------------------------------------------------
-- Answers
------------------------------------------------------------

/-
  An answer resolves a tag to a digest: it is given, and its
  header holds the digest, which is not empty.
-/
structure Response.Resolves
    (r : Response)
    (digest : String) : Prop where
  given : r.status = 200
  header :
    Headers.get? "Docker-Content-Digest" r.headers =
      some digest
  nonempty : digest ≠ ""

/- An answer accepts a deletion, now or for later. -/
def Response.Accepts (r : Response) : Prop :=
  r.status = 200 ∨ r.status = 202

namespace RegistryClient

variable {σ : Type}
variable {c : RegistryClient}
variable {transport : Transport σ}
variable {name tag digest : String}
variable {r : Response}
variable {s t : σ}

theorem digestOf_eq_some_iff :
    digestOf r = some digest ↔ r.Resolves digest := by
  constructor
  · intro hDigest
    unfold digestOf at hDigest
    split at hDigest
    · rename_i hGiven
      split at hDigest
      · exact absurd hDigest (by simp)
      · rename_i held hHeader
        split at hDigest
        · exact absurd hDigest (by simp)
        · rename_i hSome
          cases hDigest
          exact ⟨hGiven, hHeader, hSome⟩
    · exact absurd hDigest (by simp)
  · rintro ⟨hGiven, hHeader, hSome⟩
    simp only [digestOf, if_pos hGiven, digestHeader, hHeader,
      if_neg hSome]

theorem digestOf_eq_none_iff :
    digestOf r = none ↔ ∀ digest, ¬ r.Resolves digest := by
  simp only [← digestOf_eq_some_iff,
    Option.eq_none_iff_forall_ne_some]

------------------------------------------------------------
-- Removals
------------------------------------------------------------

/-
  What comes of a deletion: it is accepted, or turned down,
  or lost; the last two are errors of the registry.
-/
inductive Settles :
    Except Failure Response → Except Failure Unit → Prop
  | accepted (r : Response) :
      r.Accepts → Settles (.ok r) (.ok ())
  | refused (r : Response) (m : String) :
      ¬ r.Accepts →
        Settles (.ok r) (.error (.build (.registry m)))
  | lost (f : Failure) (m : String) :
      f.IsTransport →
        Settles (.error f) (.error (.build (.registry m)))

/-
  How an image is removed: the tag is not resolved, which is
  an error of the registry, or it is, and then a deletion is
  sent in the state that is left, and settles it.
-/
inductive Removes
    (c : RegistryClient)
    (transport : Transport σ)
    (name tag : String)
    (s : σ) :
    List Exchange → Except Failure Unit → Prop
  | unresolved
      (answer : Except Failure Response)
      (m : String)
      (t : σ) :
      transport (c.manifestRequest .head name tag) s =
        (answer, t) →
      (∀ r digest, answer = .ok r → ¬ r.Resolves digest) →
        Removes c transport name tag s
          [⟨c.manifestRequest .head name tag, answer⟩]
          (.error (.build (.registry m)))
  | resolved
      (r : Response)
      (t : σ)
      (digest : String)
      (answer : Except Failure Response)
      (result : Except Failure Unit)
      (u : σ) :
      transport (c.manifestRequest .head name tag) s =
        (.ok r, t) →
      r.Resolves digest →
      transport (c.deletion name digest) t = (answer, u) →
      Settles answer result →
        Removes c transport name tag s
          [⟨c.manifestRequest .head name tag, .ok r⟩,
            ⟨c.deletion name digest, answer⟩]
          result

theorem settles_deletionAnswer
    (name tag : String)
    (r : Response) :
    Settles (.ok r) (deletionAnswer name tag r) := by
  unfold deletionAnswer
  split
  · rename_i hAccepted
    refine .accepted r ?_
    simpa [Response.Accepts] using hAccepted
  · rename_i hRefused
    refine .refused r _ ?_
    simpa [Response.Accepts] using hRefused

/- A deletion does its work exactly if it is accepted. -/
theorem Settles.eq_ok_iff
    {answer : Except Failure Response}
    {result : Except Failure Unit}
    (hSettles : Settles answer result) :
    result = .ok () ↔ ∃ r, answer = .ok r ∧ r.Accepts := by
  cases hSettles with
  | accepted r hAccepts =>
      exact iff_of_true rfl ⟨r, rfl, hAccepts⟩
  | refused r m hRefused =>
      apply iff_of_false
      · simp
      · rintro ⟨_, ⟨⟩, hAccepts⟩
        exact hRefused hAccepts
  | lost f m => simp

/- What is done with the answer to the first request. -/
def removeResolved
    (c : RegistryClient)
    (transport : Transport σ)
    (name tag : String)
    (r : Response) : Action σ Unit :=
  match digestOf r with
  | none => Action.fail (notFound name tag r.status)
  | some digest =>
      (send transport (c.deletion name digest)).next
        (fun answer =>
          Action.ofExcept (deletionAnswer name tag answer))

theorem removeResolved_of_resolves
    (hResolves : r.Resolves digest)
    (c : RegistryClient)
    (transport : Transport σ)
    (name tag : String) :
    c.removeResolved transport name tag r =
      (send transport (c.deletion name digest)).next
        (fun answer =>
          Action.ofExcept
            (deletionAnswer name tag answer)) := by
  simp only [removeResolved,
    digestOf_eq_some_iff.mpr hResolves]

theorem removeResolved_of_unresolved
    (hUnresolved : ∀ digest, ¬ r.Resolves digest)
    (c : RegistryClient)
    (transport : Transport σ)
    (name tag : String) :
    c.removeResolved transport name tag r =
      Action.ofExcept
        (.error (notFound name tag r.status)) := by
  simp only [removeResolved,
    digestOf_eq_none_iff.mpr hUnresolved]
  rfl

/- A deletion takes one exchange, and that settles it. -/
theorem exists_settles
    (hTransport :
      ∀ r, (transport r).FailsOnly Failure.IsTransport)
    (hResolves : r.Resolves digest)
    (c : RegistryClient)
    (name tag : String)
    (s : σ) :
    ∃ answer result u,
      transport (c.deletion name digest) s = (answer, u) ∧
        Settles answer result ∧
        (c.removeResolved transport.traced name tag r).Writes
          (c.removeResolved transport name tag r) s
          [⟨c.deletion name digest, answer⟩] ∧
        c.removeResolved transport name tag r s =
          (result, u) := by
  have hWrites :=
    (writes_send transport (c.deletion name digest)
      s).next_ofExcept (deletionAnswer name tag)
  rcases hSend : transport (c.deletion name digest) s with
    ⟨answer, u⟩
  rw [hSend] at hWrites
  simp only [removeResolved_of_resolves hResolves]
  cases answer with
  | error f =>
      have hLost : f.IsTransport :=
        hTransport _ s f (by rw [hSend])
      rcases requestFailure_of_isTransport hLost with
        ⟨m, hFailure⟩
      refine ⟨_, _, u, rfl, .lost f m hLost, hWrites, ?_⟩
      rw [Action.next_of_error (send_of_error hSend), hFailure]
  | ok r' =>
      refine ⟨_, _, u, rfl, settles_deletionAnswer name tag r',
        hWrites, ?_⟩
      exact Action.next_of_ok (send_of_ok hSend) _

/-
  The cases are those of the first answer: it is lost, or it
  does not resolve the tag, or it does.
-/
theorem exists_removes
    (hTransport :
      ∀ r, (transport r).FailsOnly Failure.IsTransport)
    (c : RegistryClient)
    (name tag : String)
    (s : σ) :
    ∃ made,
      (c.remove transport.traced name tag).Writes
          (c.remove transport name tag) s made ∧
        c.Removes transport name tag s made
          (c.remove transport name tag s).1 := by
  have hRemove : ∀ (τ : Type) (x : Transport τ),
      c.remove x name tag =
        (send x (c.manifestRequest .head name tag)).next
          (c.removeResolved x name tag) :=
    fun _ _ => rfl
  have hWrites := writes_send transport
    (c.manifestRequest .head name tag) s
  rcases hSend : transport
      (c.manifestRequest .head name tag) s with
    ⟨answer, t⟩
  rw [hSend] at hWrites
  simp only [hRemove]
  cases answer with
  | error f =>
      have hLost : f.IsTransport :=
        hTransport _ s f (by rw [hSend])
      rcases requestFailure_of_isTransport hLost with
        ⟨m, hFailure⟩
      have hRun := send_of_error hSend
      refine ⟨_, hWrites.next_of_error hRun, ?_⟩
      rw [Action.next_of_error hRun, hFailure]
      exact .unresolved _ m t hSend (by simp)
  | ok r =>
      have hRun := send_of_ok hSend
      rw [Action.next_of_ok hRun]
      by_cases hSome : ∃ digest, r.Resolves digest
      · rcases hSome with ⟨digest, hResolves⟩
        rcases exists_settles hTransport hResolves c name tag t
          with ⟨answer, result, u, hDelete, hSettles, hMore,
            hResult⟩
        refine ⟨_, hWrites.next_of_ok hRun hMore, ?_⟩
        rw [hResult]
        exact .resolved r t digest answer result u hSend
          hResolves hDelete hSettles
      · have hNone : ∀ digest, ¬ r.Resolves digest :=
          not_exists.mp hSome
        have hMore :
            (c.removeResolved transport.traced name tag
                r).Writes
              (c.removeResolved transport name tag r) t
              [] := by
          simp only [removeResolved_of_unresolved hNone]
          exact Action.writes_ofExcept _ t
        refine ⟨_, hWrites.next_of_ok hRun hMore, ?_⟩
        rw [removeResolved_of_unresolved hNone]
        refine .unresolved _ _ t hSend ?_
        rintro _ digest ⟨⟩
        exact hNone digest

/- The exchanges that a removal makes. -/
def removalExchanges
    (c : RegistryClient)
    (transport : Transport σ)
    (name tag : String)
    (s : σ) : List Exchange :=
  (c.remove transport.traced name tag ⟨[], s⟩).2.exchanges

/- Writing down the exchanges changes nothing else. -/
theorem traced_remove
    (hTransport :
      ∀ r, (transport r).FailsOnly Failure.IsTransport)
    (c : RegistryClient)
    (name tag : String)
    (s : σ) :
    c.remove transport.traced name tag ⟨[], s⟩ =
      ((c.remove transport name tag s).1,
        ⟨c.removalExchanges transport name tag s,
          (c.remove transport name tag s).2⟩) := by
  rcases exists_removes hTransport c name tag s with
    ⟨made, hWrites, _⟩
  unfold removalExchanges
  rw [hWrites]

theorem removes
    (hTransport :
      ∀ r, (transport r).FailsOnly Failure.IsTransport)
    (c : RegistryClient)
    (name tag : String)
    (s : σ) :
    c.Removes transport name tag s
      (c.removalExchanges transport name tag s)
      (c.remove transport name tag s).1 := by
  rcases exists_removes hTransport c name tag s with
    ⟨made, hWrites, hRemoves⟩
  unfold removalExchanges
  rw [hWrites]
  exact hRemoves

------------------------------------------------------------
-- Deletions
------------------------------------------------------------

namespace Removes

variable {made : List Exchange}
variable {result : Except Failure Unit}
variable {y : Exchange}

/-
  A deletion comes last, behind the answer that it goes by,
  and settles the result.
-/
theorem exists_resolves_of_mem
    (hRemoves : c.Removes transport name tag s made result)
    (hMem : y ∈ made)
    (hDeletes : y.request.method = .delete) :
    ∃ r digest,
      (transport (c.manifestRequest .head name tag) s).1 =
          .ok r ∧
        r.Resolves digest ∧
        made =
          [⟨c.manifestRequest .head name tag, .ok r⟩, y] ∧
        y.request = c.deletion name digest ∧
        Settles y.answer result := by
  cases hRemoves with
  | unresolved answer m t hHead hNone =>
      cases List.mem_singleton.mp hMem
      exact absurd hDeletes (by simp [manifestRequest])
  | resolved r t digest answer result u hHead hResolves _
      hSettles =>
      simp only [List.mem_cons, List.not_mem_nil, or_false]
        at hMem
      rcases hMem with rfl | rfl
      · exact absurd hDeletes (by simp [manifestRequest])
      · exact ⟨r, digest, by rw [hHead], hResolves, rfl, rfl,
          hSettles⟩

/- There is one exactly if the tag is resolved. -/
theorem deletion_mem_iff
    (hRemoves : c.Removes transport name tag s made result) :
    (∃ y ∈ made, y.request.method = .delete) ↔
      ∃ r digest,
        (transport (c.manifestRequest .head name tag) s).1 =
            .ok r ∧
          r.Resolves digest := by
  constructor
  · rintro ⟨y, hMem, hDeletes⟩
    rcases hRemoves.exists_resolves_of_mem hMem hDeletes with
      ⟨r, digest, hAnswer, hResolves, _⟩
    exact ⟨r, digest, hAnswer, hResolves⟩
  · rintro ⟨r, digest, hAnswer, hResolves⟩
    cases hRemoves with
    | unresolved answer m t hHead hNone =>
        rw [hHead] at hAnswer
        exact absurd hResolves (hNone r digest hAnswer)
    | resolved =>
        exact ⟨_, List.mem_cons_of_mem _
          (List.mem_singleton_self _), rfl⟩

/- The image is removed exactly if one is accepted. -/
theorem eq_ok_iff
    (hRemoves : c.Removes transport name tag s made result) :
    result = .ok () ↔
      ∃ y ∈ made, y.request.method = .delete ∧
        ∃ r, y.answer = .ok r ∧ r.Accepts := by
  constructor
  · rintro rfl
    cases hRemoves with
    | resolved r t digest answer _ u _ _ _ hSettles =>
        exact ⟨_, List.mem_cons_of_mem _
          (List.mem_singleton_self _), rfl,
          hSettles.eq_ok_iff.mp rfl⟩
  · rintro ⟨y, hMem, hDeletes, hAccepted⟩
    rcases hRemoves.exists_resolves_of_mem hMem hDeletes with
      ⟨_, _, _, _, _, _, hSettles⟩
    exact hSettles.eq_ok_iff.mpr hAccepted

/- Otherwise it is an error of the registry. -/
theorem exists_registry
    (hRemoves : c.Removes transport name tag s made result)
    (hFails : result ≠ .ok ()) :
    ∃ m, result = .error (.build (.registry m)) := by
  cases hRemoves with
  | unresolved answer m => exact ⟨m, rfl⟩
  | resolved r t digest answer _ u _ _ _ hSettles =>
      cases hSettles with
      | accepted => exact absurd rfl hFails
      | refused _ m => exact ⟨m, rfl⟩
      | lost _ m => exact ⟨m, rfl⟩

end Removes

end RegistryClient

/-
  Removing an image over any transport. A deletion is sent
  exactly if the answer to the first request resolves the
  tag to a digest; it comes right after that request, is the
  only one, and names that digest. The image counts as
  removed exactly if a deletion is accepted, and everything
  else is an error of the registry.
-/
theorem removal_goes_by_digest
    {σ : Type}
    {transport : Transport σ}
    (hTransport :
      ∀ r, (transport r).FailsOnly Failure.IsTransport)
    (c : RegistryClient)
    (name tag : String)
    (s : σ) :
    ((∃ y ∈ c.removalExchanges transport name tag s,
        y.request.method = .delete) ↔
      ∃ r digest,
        (transport (c.manifestRequest .head name tag) s).1 =
            .ok r ∧
          r.Resolves digest) ∧
    (∀ y ∈ c.removalExchanges transport name tag s,
      y.request.method = .delete →
        ∃ r digest,
          r.Resolves digest ∧
            c.removalExchanges transport name tag s =
              [⟨c.manifestRequest .head name tag, .ok r⟩,
                y] ∧
            y.request.url =
              c.urlOf (name ++ "/manifests/" ++ digest)) ∧
    ((c.remove transport name tag s).1 = .ok () ↔
      ∃ y ∈ c.removalExchanges transport name tag s,
        y.request.method = .delete ∧
          ∃ r, y.answer = .ok r ∧
            (r.status = 200 ∨ r.status = 202)) ∧
    ((c.remove transport name tag s).1 ≠ .ok () →
      ∃ m, (c.remove transport name tag s).1 =
        .error (.build (.registry m))) := by
  have hRemoves :=
    RegistryClient.removes hTransport c name tag s
  refine ⟨hRemoves.deletion_mem_iff, ?_, hRemoves.eq_ok_iff,
    hRemoves.exists_registry⟩
  intro y hMem hDeletes
  rcases hRemoves.exists_resolves_of_mem hMem hDeletes with
    ⟨r, digest, _, hResolves, hMade, hRequest, _⟩
  exact ⟨r, digest, hResolves, hMade, by rw [hRequest]; rfl⟩

/-
  A registry that knows all tags by one digest, and answers
  deletions with one status.
-/
def Transport.knowing
    (digest : String)
    (status : Int) : Transport Unit :=
  fun r =>
    match r.method with
    | .delete => Action.give (.ofBody status [] [])
    | _ =>
        Action.give
          (.ofBody 200 [("docker-content-digest", digest)]
            [])

theorem Transport.knowing_failsOnly
    (digest : String)
    (status : Int)
    (r : Request) :
    (knowing digest status r).FailsOnly
      Failure.IsTransport := by
  unfold knowing
  split
  · exact .give _
  · exact .give _

/-
  A deletion is accepted; one is turned down; and none is
  sent for want of a digest.
-/
theorem removal_goes_by_digest_sample :
    (∃ y ∈ RegistryClient.asking.removalExchanges
        (.knowing "sha256:ab" 202) "tools/demo" "1" (),
      y.request.method = .delete ∧
        ∃ r, y.answer = .ok r ∧
          (r.status = 200 ∨ r.status = 202)) ∧
    (∃ m,
      (RegistryClient.asking.remove
          (.knowing "sha256:ab" 405) "tools/demo" "1"
          ()).1 = .error (.build (.registry m))) ∧
    ¬ ∃ y ∈ RegistryClient.asking.removalExchanges
        (.knowing "" 202) "tools/demo" "1" (),
      y.request.method = .delete := by
  have hGoes := fun digest status =>
    removal_goes_by_digest
      (Transport.knowing_failsOnly digest status) .asking
      "tools/demo" "1" ()
  refine ⟨?_, ?_, ?_⟩
  · exact (hGoes "sha256:ab" 202).2.2.1.mp rfl
  · apply (hGoes "sha256:ab" 405).2.2.2
    rintro ⟨⟩
  · rw [(hGoes "" 202).1]
    rintro ⟨r, digest, hAnswer, hResolves⟩
    cases hAnswer
    have hEmpty : some "" = some digest := hResolves.header
    exact hResolves.nonempty (Option.some.inj hEmpty).symm

end ContainerBuild
