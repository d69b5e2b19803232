import ContainerBuild.Proofs.Builder.Interruption
import ContainerBuild.Proofs.Engine

/-
  This file says what becomes of the errors that the client
  of an engine raises, wherever it raises them: when it is
  made, pinged, or asked for images, when a build is sent,
  and after any chunks of the reply. Nearly all of them are
  explained, but a connection that is lost while the client
  is made, and a fault of the client in the middle of a
  reply, come out as they are.

  Key definitions include:
    * `EnginePoint`
    * `Handover`
    * `RemoteEngine.handover`
    * `RemoteEngine.Raises`
    * `EnginePoint.Explains`
    * `EnginePoint.Overlooks`

  Main statements:
    * `RemoteEngine.handover_of_raises`
    * `RemoteEngine.explains_surfaced_iff`
    * `errors_explained_iff`
-/

namespace ContainerBuild

------------------------------------------------------------
-- Points
------------------------------------------------------------

/-
  The points at which the client of an engine is used: it is
  made, it is pinged once it is made, or again later, it
  lists images, it sends a build, and it reads the reply.
-/
inductive EnginePoint
  | creation
  | opening
  | ping
  | listing
  | request
  | stream
deriving DecidableEq, Repr

/- What an operation hands on: chunks, and a failure if any. -/
structure Handover where
  chunks : List Chunk
  failure : Option Failure
deriving DecidableEq, Repr

namespace Handover

/- An operation that has no chunks to hand on. -/
def ofOutcome
    {α : Type}
    (r : Except Failure α) : Handover :=
  match r with
  | .ok _ => ⟨[], none⟩
  | .error f => ⟨[], some f⟩

/- A reply, whose failure comes after its chunks. -/
def ofReply (r : Except Failure Body) : Handover :=
  match r with
  | .ok body => ⟨body.chunkList, body.failure?⟩
  | .error f => ⟨[], some f⟩

end Handover

namespace EnginePoint

/- Whether it is a build that the client is used for. -/
def isBuild : EnginePoint → Bool
  | request => true
  | stream => true
  | _ => false

/-
  What an error ought to become: a failed build if the engine
  answers a build with it, and otherwise an engine that is
  out of reach. Its own words are at the end of the message.
-/
inductive Explains
    (p : EnginePoint) : EngineError → Failure → Prop
  | refused
      (before text : String)
      (explanation : Option String) :
      p.isBuild = true →
        Explains p (.api text explanation)
          (.build (.buildFailed
            (before
              ++ (EngineError.api text explanation).reason)
            "" false))
  | unreachable (before : String) (e : EngineError) :
      (∀ text explanation,
        e = .api text explanation → p.isBuild = false) →
        Explains p e
          (.build (.unreachable (before ++ e.message) ""))

/- The errors that nobody expects at a point. -/
inductive Overlooks : EnginePoint → EngineError → Prop
  | connection (text : String) :
      Overlooks creation (.connection text)
  | timeout (text : String) :
      Overlooks creation (.timeout text)
  | client (text : String) :
      Overlooks stream (.client text)

end EnginePoint

------------------------------------------------------------
-- Errors of clients
------------------------------------------------------------

namespace RemoteEngine

variable {σ : Type}
variable {disk : σ → Disk}
variable {client : EngineClient σ}
variable {c : Connection}
variable {r : BuildRequest}
variable {s : σ}
variable {e : EngineError}
variable {p : EnginePoint}
variable {cs : List Chunk}

/- What is handed on by the operation with a point. -/
def handover
    (disk : σ → Disk)
    (client : EngineClient σ)
    (c : Connection)
    (r : BuildRequest)
    (s : σ) : EnginePoint → Handover
  | .creation => .ofOutcome (connect client c s).1
  | .opening => .ofOutcome (connect client c s).1
  | .ping => .ofOutcome (ping client c s).1
  | .listing => .ofOutcome (images client s).1
  | .request =>
      .ofReply ((backend disk client c).reply r s).1
  | .stream =>
      .ofReply ((backend disk client c).reply r s).1

/- The client raises an error at a point, after chunks. -/
inductive Raises
    (disk : σ → Disk)
    (client : EngineClient σ)
    (c : Connection)
    (r : BuildRequest)
    (s : σ)
    (e : EngineError) : EnginePoint → List Chunk → Prop
  | creation :
      (client.create c s).1 = .error (.engine e) →
        Raises disk client c r s e .creation []
  | opening (made : σ) :
      client.create c s = (.ok (), made) →
      (client.ping made).1 = .error (.engine e) →
        Raises disk client c r s e .opening []
  | ping :
      (client.ping s).1 = .error (.engine e) →
        Raises disk client c r s e .ping []
  | listing :
      (client.images s).1 = .error (.engine e) →
        Raises disk client c r s e .listing []
  | request :
      (client.build (buildCall (disk s) r) s).1 =
        .error (.engine e) →
        Raises disk client c r s e .request []
  | stream (cs : List Chunk) :
      client.Delivers (buildCall (disk s) r) s
        (.chunks cs (some (.engine e))) →
        Raises disk client c r s e .stream cs

/- What an error becomes at a point. -/
def surfaced
    (c : Connection)
    (imageName : String)
    (e : EngineError) : EnginePoint → Failure
  | .creation => creationFailure c (.engine e)
  | .opening => pingFailure c (.engine e)
  | .ping => pingFailure c (.engine e)
  | .listing => listingFailure (.engine e)
  | .request => sendFailure c imageName (.engine e)
  | .stream => streamFailure c imageName (.engine e)

/- Each operation hands on what the client raised in it. -/
theorem handover_of_raises
    (hRaises : Raises disk client c r s e p cs) :
    handover disk client c r s p =
      ⟨cs, some (surfaced c r.imageName e p)⟩ := by
  cases hRaises with
  | creation hCreate =>
      have hConnect :=
        Action.fst_next_of_error
          (Action.fst_mapFailure_of_error hCreate
            (creationFailure c))
          (fun _ => ping client c)
      simp only [handover, connect, hConnect,
        Handover.ofOutcome, surfaced]
  | opening made hCreate hPing =>
      have hMade :
          (client.create c).mapFailure (creationFailure c)
            s = (.ok (), made) :=
        Action.mapFailure_eq_ok_iff.mpr hCreate
      have hAfter :=
        Action.fst_mapFailure_of_error hPing (pingFailure c)
      simp only [handover, connect,
        Action.next_of_ok hMade, ping, hAfter,
        Handover.ofOutcome, surfaced]
  | ping hPing =>
      have hAfter :=
        Action.fst_mapFailure_of_error hPing (pingFailure c)
      simp only [handover, ping, hAfter,
        Handover.ofOutcome, surfaced]
  | listing hImages =>
      have hAfter :=
        Action.fst_mapFailure_of_error hImages listingFailure
      simp only [handover, images, hAfter,
        Handover.ofOutcome, surfaced]
  | request hBuild =>
      have hSent :
          (send disk client c r s).1 =
            .error (sendFailure c r.imageName
              (.engine e)) :=
        Action.fst_mapFailure_of_error hBuild _
      have hReply :=
        Action.fst_next_of_error
          (Action.fst_next_of_error hSent
            (fun body =>
              Action.give
                (Action.give (relay c r.imageName body))))
          (fun read => read)
      simp only [handover, Backend.reply, backend, hReply,
        Handover.ofReply, surfaced]
  | stream cs hDelivers =>
      have hReply :
          ((backend disk client c).reply r s).1 =
            .ok (relay c r.imageName
              (.chunks cs (some (.engine e)))) :=
        reply_of_delivers hDelivers
      simp only [handover, hReply, Handover.ofReply]
      rfl

/-
  At each point the errors that are expected there are
  explained. The cases are the points and the errors.
-/
theorem explains_surfaced_iff
    (c : Connection)
    (imageName : String)
    (e : EngineError)
    (p : EnginePoint) :
    p.Explains e (surfaced c imageName e p) ↔
      ¬ p.Overlooks e := by
  constructor
  · rintro hExplains (_ | _ | _) <;> cases hExplains
  · intro hExpected
    cases p with
    | creation =>
        cases e with
        | connection text =>
            exact absurd (.connection text) hExpected
        | timeout text =>
            exact absurd (.timeout text) hExpected
        | _ => exact .unreachable _ _ (fun _ _ _ => rfl)
    | opening => exact .unreachable _ _ (fun _ _ _ => rfl)
    | ping => exact .unreachable _ _ (fun _ _ _ => rfl)
    | listing => exact .unreachable _ _ (fun _ _ _ => rfl)
    | request =>
        cases e with
        | api text explanation =>
            exact .refused _ text explanation rfl
        | _ => exact .unreachable _ _ (by simp)
    | stream =>
        cases e with
        | api text explanation =>
            exact .refused _ text explanation rfl
        | client text =>
            exact absurd (.client text) hExpected
        | _ => exact .unreachable _ _ (by simp)

/- An error that is overlooked is passed on. -/
theorem surfaced_of_overlooks
    (hOverlooks : p.Overlooks e)
    (c : Connection)
    (imageName : String) :
    surfaced c imageName e p = .engine e := by
  cases hOverlooks <;> rfl

end RemoteEngine

/-
  Whatever error the client of an engine raises, and
  wherever, the chunks before it are handed on as they came,
  and then a failure. The error is explained in it exactly if
  it is not one of those that are overlooked there, and else
  it is the failure itself.
-/
theorem errors_explained_iff
    {σ : Type}
    {disk : σ → Disk}
    {client : EngineClient σ}
    {c : Connection}
    {r : BuildRequest}
    {s : σ}
    {e : EngineError}
    {p : EnginePoint}
    {cs : List Chunk}
    (hRaises :
      RemoteEngine.Raises disk client c r s e p cs) :
    ∃ f,
      RemoteEngine.handover disk client c r s p =
          ⟨cs, some f⟩ ∧
        (p.Explains e f ↔ ¬ p.Overlooks e) ∧
        (p.Overlooks e → f = .engine e) := by
  refine ⟨RemoteEngine.surfaced c r.imageName e p,
    RemoteEngine.handover_of_raises hRaises,
    RemoteEngine.explains_surfaced_iff c r.imageName e p,
    ?_⟩
  intro hOverlooks
  exact RemoteEngine.surfaced_of_overlooks hOverlooks c
    r.imageName

/- An error of the engine that comes after two chunks. -/
theorem errors_explained_iff_refused :
    ∃ f,
      RemoteEngine.handover (fun d => d)
          (.answering
            (.chunks [.text "\x7b", .octets [0x7D]]
              (some (.engine (.api "500" (some "full"))))))
          Connection.onThisMachine
          ⟨⟨⟨"/", []⟩, "Dockerfile"⟩, "tools:demo", none⟩
          Disk.blank .stream =
        ⟨[.text "\x7b", .octets [0x7D]], some f⟩ ∧
      EnginePoint.stream.Explains (.api "500" (some "full"))
        f := by
  rcases errors_explained_iff
      (.stream _ (EngineClient.answering_delivers _ _ _)) with
    ⟨f, hHandover, hExplains, _⟩
  refine ⟨f, hHandover, hExplains.mpr ?_⟩
  rintro ⟨⟩

/- A client that cannot be made, for want of a connection. -/
def EngineClient.unconnected : EngineClient Disk :=
  ⟨fun _ => Action.fail (.engine (.connection "refused")),
    Action.give (), Action.give [],
    fun _ => Action.give (.chunks [] none)⟩

/- Two errors that come out as they were raised. -/
theorem not_errors_explained :
    (∃ f,
      RemoteEngine.handover (fun d => d)
          (.answering
            (.chunks [.text "\x7b\x7d\n"]
              (some (.engine (.client "stream broke")))))
          Connection.onThisMachine
          ⟨⟨⟨"/", []⟩, "Dockerfile"⟩, "tools:demo", none⟩
          Disk.blank .stream =
        ⟨[.text "\x7b\x7d\n"], some f⟩ ∧
      f = .engine (.client "stream broke") ∧
      ¬ EnginePoint.stream.Explains (.client "stream broke")
        f) ∧
    ∃ f,
      RemoteEngine.handover (fun d => d) .unconnected
          Connection.onThisMachine
          ⟨⟨⟨"/", []⟩, "Dockerfile"⟩, "tools:demo", none⟩
          Disk.blank .creation =
        ⟨[], some f⟩ ∧
      f = .engine (.connection "refused") ∧
      ¬ EnginePoint.creation.Explains (.connection "refused")
        f := by
  refine ⟨⟨_, rfl, rfl, ?_⟩, _, rfl, rfl, ?_⟩ <;>
    rintro ⟨⟩

end ContainerBuild
