import ContainerBuild.Engine.Remote
import ContainerBuild.Proofs.Builder.Cleanup
import ContainerBuild.Proofs.Builder.Interruption
import ContainerBuild.Proofs.Files.Listing

/-
  This file says what reaches the engine behind a network
  interface. The calls of its client are written down, which
  changes nothing else. A call carries the files of the
  context and nothing more; the call of a builder carries
  the Dockerfile alone, as it was stored.

  Key definitions include:
    * `Posted`
    * `RemoteEngine.Setting`
    * `RemoteEngine.Setting.sends`
    * `RemoteEngine.Setting.posts`
    * `RemoteEngine.Setting.Ships`

  Main statements:
    * `Staging.keyed_stage`
    * `RemoteEngine.exists_archive`
    * `RemoteEngine.Setting.build_posting`
    * `RemoteEngine.Setting.ships`
    * `context_shipped`
-/

namespace ContainerBuild

------------------------------------------------------------
-- Staging
------------------------------------------------------------

namespace Staging

variable {base : Option Path}

theorem keyed_newDirectory (base : Option Path) :
    (newDirectory base).Keeps Disk.IsKeyed := by
  cases base with
  | none =>
      exact fun d hKeyed =>
        Disk.keyed_makeTemporary d.temporary d hKeyed
  | some dir =>
      exact (Disk.keyed_makeDirectories dir).next
        (fun _ => Disk.keyed_makeTemporary dir)

theorem keyed_fill
    (source : String)
    (c : BuildContext) :
    (fill source c).Keeps Disk.IsKeyed := by
  intro d hKeyed
  have hCopied :=
    Disk.keyed_copyFile source c.dockerfilePath.toText d
      hKeyed
  unfold fill
  simp only
  split
  · rename_i hCopy
    rw [hCopy] at hCopied
    exact hCopied
  · rename_i hCopy
    rw [hCopy] at hCopied
    split
    · exact hCopied
    · exact hCopied.removeTree _

/- After staging, too, no place has two entries. -/
theorem keyed_stage
    (base : Option Path)
    (source name : String) :
    (stage base source name).Keeps Disk.IsKeyed := by
  unfold stage
  split
  · exact (keyed_newDirectory base).mapFailure.next
      (fun dir => keyed_fill source ⟨dir, name⟩)
  · exact fun _ hKeyed => hKeyed

namespace HasContext

variable {d d' : Disk}
variable {source : String}
variable {c : BuildContext}

/- What was there is there, as it was. -/
theorem entry
    (hContext : HasContext base source c d d')
    {l : Location}
    {e : Entry}
    (hEntry : d.entry? l = some e) :
    d'.entry? l = some e := by
  by_cases hUnder : d.place c.directory <+: l
  · rw [hContext.fresh l hUnder] at hEntry
    exact absurd hEntry (by simp)
  · rcases hContext.outside l hUnder with
      hSame | ⟨_, hNone, _⟩
    · rw [hSame, hEntry]
    · rw [hNone] at hEntry
      exact absurd hEntry (by simp)

/- So files can be read as before. -/
theorem fetch
    (hContext : HasContext base source c d d')
    {path : String}
    {content : Content}
    (hFetch : d.fetch path = .ok content) :
    d'.fetch path = .ok content := by
  rcases Disk.fetch_eq_ok_iff.mp hFetch with
    ⟨l, hLocate, hFile⟩
  have hKeeps : d.KeepsDirectories d' :=
    ⟨hContext.working, fun _ hDir => hContext.entry hDir⟩
  exact Disk.fetch_eq_ok_iff.mpr
    ⟨l, hKeeps.locate hLocate, hContext.entry hFile⟩

/- The Dockerfile is all that is listed in the context. -/
theorem exists_lists
    (hContext : HasContext base source c d d') :
    ∃ content,
      d'.fetch source = .ok content ∧
        d'.Lists (d.place c.directory)
          [([c.dockerfile], content)] := by
  rcases hContext.inside with ⟨content, hFetch, hInside⟩
  refine ⟨content, hFetch, ?_, List.pairwise_singleton _ _⟩
  intro l x
  rw [hInside _ (List.prefix_append _ _)]
  by_cases hTop : l = []
  · simp [hTop]
  · by_cases hName : l = [c.dockerfile]
    · simp [hName, eq_comm]
    · simp [hTop, hName]

end HasContext

end Staging

------------------------------------------------------------
-- Archives
------------------------------------------------------------

/- All names on the disk can stand between slashes. -/
def Disk.HasPlainNames (d : Disk) : Prop :=
  ∀ x ∈ d.entries, ∀ part ∈ x.1, Path.IsPlainName part

instance (d : Disk) : Decidable d.HasPlainNames := by
  unfold Disk.HasPlainNames
  infer_instance

/- A path below a place, with its name and its octets. -/
def Member.ofFile (f : Location × Content) : Member :=
  ((Path.mk "" f.1).toText, f.2.bytes)

namespace RemoteEngine

variable {d : Disk}
variable {top : Location}
variable {files : List (Location × Content)}

theorem archiveMember_eq
    {f : Location × Content}
    (hSome : f.1 ≠ []) :
    archiveMember f = Member.ofFile f := by
  simp [archiveMember, Member.ofFile, Path.toText, hSome]

/- Different files have different names in the archive. -/
theorem nodup_names
    (hPlain : d.HasPlainNames)
    (hKeyed : d.IsKeyed)
    (hLists : d.Lists top files) :
    ((files.map Member.ofFile).map Prod.fst).Nodup := by
  have hNames : ∀ f ∈ files, (Path.mk "" f.1).IsPlain := by
    rintro ⟨l, c⟩ hMem
    rcases (hLists.mem l c).mp hMem with ⟨hSome, hEntry⟩
    have hThere :=
      (Disk.mem_entries_iff hKeyed (by simp [hSome]) _).mpr
        hEntry
    exact ⟨Or.inl rfl, fun part hPart =>
      hPlain _ hThere part (by simp [hPart])⟩
  rw [List.map_map]
  refine List.pairwise_map.mpr ?_
  refine hLists.nodup.imp_of_mem ?_
  rintro ⟨l, c⟩ ⟨m, c'⟩ hL hM hOther hSame
  have hPath : Path.mk "" l = Path.mk "" m := by
    rw [← Path.ofText_toText (hNames _ hL),
      ← Path.ofText_toText (hNames _ hM)]
    exact congrArg Path.ofText hSame
  cases congrArg Path.parts hPath
  have hFirst := ((hLists.mem _ _).mp hL).2
  rw [((hLists.mem _ _).mp hM).2] at hFirst
  cases hFirst
  exact hOther rfl

/- The archive of a directory has its files as members. -/
theorem archive_eq
    {directory : Path}
    (hFound :
      d.find? directory.toText = some (top, .directory))
    (hKeyed : d.IsKeyed)
    (hLists : d.Lists top files) :
    archive d directory = files.map Member.ofFile := by
  have hResolve := (Disk.find?_eq_some_iff.mp hFound).1
  simp only [archive, hResolve]
  rw [(Disk.lists_filesBelow hKeyed top).unique hLists]
  refine List.map_congr_left ?_
  rintro ⟨l, c⟩ hMem
  exact archiveMember_eq ((hLists.mem l c).mp hMem).1

end RemoteEngine

------------------------------------------------------------
-- Records of calls
------------------------------------------------------------

/- A world and the calls that reached the engine so far. -/
structure Posted (σ : Type) where
  posts : List BuildCall
  world : σ

section Posting

variable {σ α : Type}

/- Put back the world, with some more calls. -/
def Posted.after
    (made : List BuildCall)
    (world : σ)
    (s : Posted σ) : Posted σ :=
  ⟨s.posts ++ made, world⟩

/- An action with the calls that are written down for it. -/
def Action.posting
    (made : List BuildCall)
    (m : Action σ α) : Action (Posted σ) α :=
  m.onPart Posted.world (Posted.after made)

theorem Action.posting_run
    (made : List BuildCall)
    (m : Action σ α)
    (before : List BuildCall)
    (s : σ) :
    m.posting made ⟨before, s⟩ =
      ((m s).1, ⟨before ++ made, (m s).2⟩) :=
  rfl

/- A client whose build calls are written down. -/
def EngineClient.posting
    (client : EngineClient σ) : EngineClient (Posted σ) :=
  ⟨fun c => (client.create c).posting [],
    client.ping.posting [],
    client.images.posting [],
    fun call => (client.build call).posting [call]⟩

def Registry.posting
    (r : Registry σ) : Registry (Posted σ) :=
  ⟨fun path name => (r.hasImage path name).posting [],
    fun name tag target =>
      (r.save name tag target).posting [],
    fun name tag => (r.remove name tag).posting []⟩

def DiskAccess.posting
    (access : DiskAccess σ) : DiskAccess (Posted σ) :=
  ⟨fun s => access.view s.world,
    fun d s => s.after [] (access.update d s.world)⟩

end Posting

------------------------------------------------------------
-- Settings
------------------------------------------------------------

namespace RemoteEngine

/- What a builder over the engine is made of. -/
structure Setting (σ : Type) where
  access : DiskAccess σ
  client : EngineClient σ
  connection : Connection
  registry : Option (Registry σ)
  base : Option String
  timeout : Option Binary64

namespace Setting

variable {σ : Type}
variable {x : Setting σ}
variable {o : BuildOrder}
variable {c : BuildContext}
variable {s staged : σ}

/- The builder over the engine. -/
def builder (x : Setting σ) : Builder σ :=
  ⟨backend x.access.view x.client x.connection, x.registry,
    .onDisk x.access (Staging.baseOf x.base), x.access,
    x.timeout⟩

/- The setting with a client whose calls are written down. -/
def posting (x : Setting σ) : Setting (Posted σ) :=
  ⟨x.access.posting, x.client.posting, x.connection,
    x.registry.map Registry.posting, x.base, x.timeout⟩

/- The calls that reach the engine when it is to build. -/
def sends
    (x : Setting σ)
    (r : BuildRequest)
    (s : σ) : List BuildCall :=
  (x.posting.builder.backend.build r ⟨[], s⟩).2.posts

/- The calls that reach the engine for an order. -/
def posts
    (x : Setting σ)
    (o : BuildOrder)
    (s : σ) : List BuildCall :=
  (x.posting.builder.build o ⟨[], s⟩).2.posts

------------------------------------------------------------
-- Recorded runs
------------------------------------------------------------

theorem send_posting
    (x : Setting σ)
    (r : BuildRequest)
    (before : List BuildCall)
    (s : σ) :
    send x.posting.access.view x.posting.client
        x.posting.connection r ⟨before, s⟩ =
      ((send x.access.view x.client x.connection r s).1,
        ⟨before ++ [buildCall (x.access.view s) r],
          (send x.access.view x.client x.connection
            r s).2⟩) := by
  unfold send Action.mapFailure
  cases hBuild :
      x.client.build (buildCall (x.access.view s) r) s with
  | mk taken s' =>
      have hPosted :
          x.posting.client.build
              (buildCall (x.access.view s) r) ⟨before, s⟩ =
            (taken,
              ⟨before ++ [buildCall (x.access.view s) r],
                s'⟩) := by
        simp only [posting, EngineClient.posting,
          Action.posting_run, hBuild]
      have hView :
          x.posting.access.view ⟨before, s⟩ =
            x.access.view s := rfl
      simp only [hView, hPosted]
      cases taken <;> rfl

theorem reply_posting
    (x : Setting σ)
    (o : BuildOrder)
    (c : BuildContext)
    (before : List BuildCall)
    (s : σ) :
    x.posting.builder.reply o c ⟨before, s⟩ =
      ((x.builder.reply o c s).1,
        ⟨before ++
            [buildCall (x.access.view s)
              (x.builder.job o c)],
          (x.builder.reply o c s).2⟩) := by
  have hSend :=
    x.send_posting (x.builder.job o c) before s
  have hPosting :
      x.posting.builder.reply o c =
        ((send x.posting.access.view x.posting.client
          x.posting.connection (x.builder.job o c)).next
            (fun body => Action.give (Action.give
              (relay x.connection o.reference.fullName
                body)))).next
          (fun read => read) := rfl
  have hReply :
      x.builder.reply o c =
        ((send x.access.view x.client x.connection
          (x.builder.job o c)).next
            (fun body => Action.give (Action.give
              (relay x.connection o.reference.fullName
                body)))).next
          (fun read => read) := rfl
  rw [hPosting, hReply]
  simp only [Action.next, hSend]
  cases send x.access.view x.client x.connection
      (x.builder.job o c) s with
  | mk taken s' => cases taken <;> rfl

theorem checkAbsent_posting
    (x : Setting σ)
    (o : BuildOrder)
    (before : List BuildCall)
    (s : σ) :
    x.posting.builder.checkAbsent o ⟨before, s⟩ =
      ((x.builder.checkAbsent o s).1,
        ⟨before, (x.builder.checkAbsent o s).2⟩) := by
  rcases x with
    ⟨access, client, connection, registry, base, timeout⟩
  cases registry with
  | none => rfl
  | some registry =>
      simp only [Builder.checkAbsent, builder, posting,
        Option.map_some, Action.next, Registry.posting,
        Action.posting_run, List.append_nil]
      cases registry.hasImage o.reference.repositoryPath
          o.reference.imageName s with
      | mk answer s' =>
          cases answer with
          | error f => rfl
          | ok found => cases found <;> rfl

theorem stage_posting
    (x : Setting σ)
    (source name : String)
    (before : List BuildCall)
    (s : σ) :
    x.posting.builder.stager.stage source name
        ⟨before, s⟩ =
      ((x.builder.stager.stage source name s).1,
        ⟨before,
          (x.builder.stager.stage source name s).2⟩) := by
  simp [builder, posting, Stager.onDisk, DiskAccess.lift,
    Action.onPart, DiskAccess.posting, Posted.after]

theorem release_posting
    (x : Setting σ)
    (c : BuildContext)
    (before : List BuildCall)
    (s : σ) :
    x.posting.builder.stager.release c ⟨before, s⟩ =
      ⟨before, x.builder.stager.release c s⟩ := by
  simp [builder, posting, Stager.onDisk,
    DiskAccess.posting, Posted.after]

/- An order that is staged is staged in the recorded run. -/
theorem stages_posting
    (hStages : x.builder.Stages o s c staged)
    (before : List BuildCall) :
    x.posting.builder.Stages o ⟨before, s⟩ c
      ⟨before, staged⟩ := by
  rcases hStages.stage with ⟨checked, hAbsent, hStage⟩
  refine ⟨hStages.name, ⟨before, checked⟩, ?_, ?_⟩
  · rw [checkAbsent_posting, hAbsent]
  · rw [stage_posting, hStage]

/- The recorded run of an order that is staged. -/
theorem build_posting_of_stages
    (hStages : x.builder.Stages o s c staged)
    (before : List BuildCall) :
    x.posting.builder.build o ⟨before, s⟩ =
      ((x.builder.build o s).1,
        ⟨before ++
            [buildCall (x.access.view staged)
              (x.builder.job o c)],
          (x.builder.build o s).2⟩) := by
  rw [(stages_posting hStages before).build_run,
    hStages.build_run, reply_posting, release_posting]
  rfl

/- The recorded run of an order that is not staged. -/
theorem build_posting_of_not_stages
    (hNot : ∀ c staged, ¬ x.builder.Stages o s c staged)
    (before : List BuildCall) :
    x.posting.builder.build o ⟨before, s⟩ =
      ((x.builder.build o s).1,
        ⟨before, (x.builder.build o s).2⟩) := by
  rcases x.builder.build_cases o s with
    ⟨f, hName⟩ | ⟨f, checked, hName, hAbsent⟩ |
      ⟨f, checked, staged, hName, hAbsent, hStage⟩ |
      ⟨c, staged, hStages⟩
  · rw [Builder.build_of_unnamed hName,
      Builder.build_of_unnamed hName]
  · have hPosted := x.checkAbsent_posting o before s
    rw [hAbsent] at hPosted
    rw [Builder.build_of_refused hName hPosted,
      Builder.build_of_refused hName hAbsent]
  · have hPosted := x.checkAbsent_posting o before s
    rw [hAbsent] at hPosted
    have hPostedStage :=
      x.stage_posting o.source o.dockerfile before checked
    rw [hStage] at hPostedStage
    rw [Builder.build_of_unstaged hName hPosted
        hPostedStage,
      Builder.build_of_unstaged hName hAbsent hStage]
  · exact absurd hStages (hNot c staged)

theorem posts_of_stages
    (hStages : x.builder.Stages o s c staged) :
    x.posts o s =
      [buildCall (x.access.view staged)
        (x.builder.job o c)] := by
  simp only [posts, build_posting_of_stages hStages,
    List.nil_append]

theorem posts_of_not_stages
    (hNot : ∀ c staged, ¬ x.builder.Stages o s c staged) :
    x.posts o s = [] := by
  simp only [posts, build_posting_of_not_stages hNot]

/- Writing down the calls changes nothing else. -/
theorem build_posting
    (x : Setting σ)
    (o : BuildOrder)
    (before : List BuildCall)
    (s : σ) :
    x.posting.builder.build o ⟨before, s⟩ =
      ((x.builder.build o s).1,
        ⟨before ++ x.posts o s,
          (x.builder.build o s).2⟩) := by
  by_cases hSome : ∃ c staged, x.builder.Stages o s c staged
  · rcases hSome with ⟨c, staged, hStages⟩
    rw [build_posting_of_stages hStages,
      posts_of_stages hStages]
  · have hNot : ∀ c staged,
        ¬ x.builder.Stages o s c staged :=
      fun c staged hStages => hSome ⟨c, staged, hStages⟩
    rw [build_posting_of_not_stages hNot,
      posts_of_not_stages hNot, List.append_nil]

------------------------------------------------------------
-- Shipments
------------------------------------------------------------

/- The order reaches the engine with this Dockerfile. -/
structure Carries
    (x : Setting σ)
    (o : BuildOrder)
    (s staged : σ)
    (c : BuildContext)
    (content : Content) : Prop where
  stages : x.builder.Stages o s c staged
  stored :
    (x.access.view staged).fetch o.source = .ok content
  before :
    ∀ earlier,
      (x.access.view s).fetch o.source = .ok earlier →
        earlier = content

/-
  What holds of the calls for an order: there is one if the
  order is staged, and no other; it asks for the image and
  the Dockerfile by the names of the order, and its archive
  has one member, the Dockerfile as it was stored.
-/
structure Ships
    (x : Setting σ)
    (o : BuildOrder)
    (s : σ)
    (calls : List BuildCall) : Prop where
  reached :
    calls ≠ [] ↔
      ∃ c staged, x.builder.Stages o s c staged
  shipped :
    ∀ call ∈ calls,
      calls = [call] ∧
        ∃ c staged content,
          x.Carries o s staged c content ∧
            call =
              ⟨o.reference.fullName, o.dockerfile, x.timeout,
                [(o.dockerfile, content.bytes)]⟩

/- A name alone is the text of a path. -/
theorem ofFile_name
    (name : String)
    (content : Content) :
    Member.ofFile ([name], content) =
      (name, content.bytes) := by
  simp [Member.ofFile, Path.toText, Text.joinTexts,
    Text.joinWith]

theorem exists_carries
    (hAccess : x.access.IsFaithful)
    (hLooks : x.builder.LooksOnly x.access)
    (hSound : (x.access.view s).IsSound)
    (hKeyed : (x.access.view s).IsKeyed)
    (hStages : x.builder.Stages o s c staged) :
    ∃ content,
      x.Carries o s staged c content ∧
        buildCall (x.access.view staged)
            (x.builder.job o c) =
          ⟨o.reference.fullName, o.dockerfile, x.timeout,
            [(o.dockerfile, content.bytes)]⟩ := by
  have hStage := hStages.stage_view hAccess rfl hLooks
  rcases Staging.hasContext_of_stage
      (fun _ hSome => Staging.isPlain_of_baseOf hSome)
      hSound.tree hSound.temporary hStage with
    ⟨hName, hContext⟩
  have hKeyedStaged : (x.access.view staged).IsKeyed := by
    have hKept :=
      Staging.keyed_stage (Staging.baseOf x.base) o.source
        o.dockerfile _ hKeyed
    rwa [hStage] at hKept
  rcases hContext.exists_lists with
    ⟨content, hFetch, hLists⟩
  refine ⟨content, ⟨hStages, hFetch, ?_⟩, ?_⟩
  · intro earlier hEarlier
    have hSame := hContext.fetch hEarlier
    rw [hFetch] at hSame
    exact (Except.ok.inj hSame).symm
  · have hArchive :
        archive (x.access.view staged) c.directory =
          [(o.dockerfile, content.bytes)] := by
      rw [archive_eq hContext.found hKeyedStaged hLists,
        hName]
      exact congrArg (fun m => [m]) (ofFile_name _ _)
    simp only [buildCall, Builder.job, hArchive, hName]
    rfl

theorem ships
    (hAccess : x.access.IsFaithful)
    (hLooks : x.builder.LooksOnly x.access)
    (hSound : (x.access.view s).IsSound)
    (hKeyed : (x.access.view s).IsKeyed)
    (o : BuildOrder) :
    x.Ships o s (x.posts o s) := by
  by_cases hSome : ∃ c staged, x.builder.Stages o s c staged
  · rcases hSome with ⟨c, staged, hStages⟩
    rcases exists_carries hAccess hLooks hSound hKeyed
        hStages with ⟨content, hCarries, hCall⟩
    rw [posts_of_stages hStages, hCall]
    refine ⟨by simpa using ⟨c, staged, hStages⟩, ?_⟩
    intro call hMem
    cases List.mem_singleton.mp hMem
    exact ⟨rfl, c, staged, content, hCarries, rfl⟩
  · rw [posts_of_not_stages
      (fun c staged hStages => hSome ⟨c, staged, hStages⟩)]
    exact ⟨by simpa using hSome, by simp⟩

/- The call for a context carries the files in it. -/
theorem sends_eq
    {r : BuildRequest}
    {top : Location}
    {files : List (Location × Content)}
    (hFound :
      (x.access.view s).find? r.context.directory.toText =
        some (top, .directory))
    (hKeyed : (x.access.view s).IsKeyed)
    (hLists : (x.access.view s).Lists top files) :
    x.sends r s =
      [⟨r.imageName, r.context.dockerfile, r.timeout,
        files.map Member.ofFile⟩] := by
  have hSend := x.send_posting r [] s
  have hCall :
      buildCall (x.access.view s) r =
        ⟨r.imageName, r.context.dockerfile, r.timeout,
          files.map Member.ofFile⟩ := by
    rw [buildCall, archive_eq hFound hKeyed hLists]
  have hBuild :
      x.posting.builder.backend.build r =
        (send x.posting.access.view x.posting.client
          x.posting.connection r).next
            (fun body => Action.give (Action.give
              (relay x.connection r.imageName body))) :=
    rfl
  rw [sends, hBuild]
  simp only [Action.next, hSend, hCall, List.nil_append]
  cases send x.access.view x.client x.connection r s with
  | mk taken s' => cases taken <;> rfl

end Setting

end RemoteEngine

/-
  The engine receives the context as it is: the archive of a
  directory has one member for each file below it, with the
  path from the directory as its name, in the order of these
  paths. So an order that reaches the engine reaches it
  once, under the names of the order, with the stored
  Dockerfile alone.
-/
theorem context_shipped
    {σ : Type}
    (x : RemoteEngine.Setting σ) :
    (∀ r s top,
      (x.access.view s).IsKeyed →
      (x.access.view s).find? r.context.directory.toText =
          some (top, .directory) →
        ∃ files,
          (x.access.view s).Lists top files ∧
            x.sends r s =
              [⟨r.imageName, r.context.dockerfile, r.timeout,
                files.map Member.ofFile⟩] ∧
            ((x.access.view s).HasPlainNames →
              ((files.map Member.ofFile).map
                Prod.fst).Nodup)) ∧
    (x.access.IsFaithful →
      x.builder.LooksOnly x.access →
      ∀ o s,
        (x.access.view s).IsSound →
        (x.access.view s).IsKeyed →
          x.Ships o s (x.posts o s) ∧
            ∀ before,
              x.posting.builder.build o ⟨before, s⟩ =
                ((x.builder.build o s).1,
                  ⟨before ++ x.posts o s,
                    (x.builder.build o s).2⟩)) := by
  constructor
  · intro r s top hKeyed hFound
    have hLists := Disk.lists_filesBelow hKeyed top
    exact ⟨_, hLists,
      RemoteEngine.Setting.sends_eq hFound hKeyed hLists,
      fun hPlain =>
        RemoteEngine.nodup_names hPlain hKeyed hLists⟩
  · intro hAccess hLooks o s hSound hKeyed
    exact ⟨RemoteEngine.Setting.ships hAccess hLooks hSound
        hKeyed o,
      fun before => x.build_posting o before s⟩

/- Builds on a disk, by an engine that says nothing. -/
def RemoteEngine.Setting.silent :
    RemoteEngine.Setting Disk :=
  ⟨.self, .answering (.chunks [] none),
    Connection.onThisMachine, some .empty,
    some "/contexts", none⟩

/- A disk with a directory that has another one in it. -/
def Disk.nested : Disk :=
  ⟨[(["c", "b"], .file (.octets [2])),
      (["c", "a-b"], .file (.octets [3])),
      (["c", "a", "z"], .file (.octets [1])),
      (["c", "a"], .directory),
      (["c"], .directory),
      (["x"], .file (.octets [4]))],
    [], Path.ofText "/tmp", 0⟩

/- The request to build from that directory. -/
def BuildRequest.nested : BuildRequest :=
  ⟨⟨⟨"/", ["c"]⟩, "b"⟩, "web", none⟩

theorem Disk.nested_lists :
    Disk.nested.Lists ["c"]
      [(["a", "z"], .octets [1]), (["a-b"], .octets [3]),
        (["b"], .octets [2])] :=
  Disk.lists_of_perm (by decide) (by decide) (by decide)

/- The parts of paths are compared, and not their texts. -/
theorem context_shipped_sample :
    RemoteEngine.Setting.silent.sends .nested .nested =
      [⟨"web", "b", none,
        [("a/z", [1]), ("a-b", [3]), ("b", [2])]⟩] ∧
    ["a/z", "a-b", "b"].Nodup ∧
    RemoteEngine.Setting.silent.posts .sample
        (.afterContexts 0) =
      [⟨"realm/tools:demo", "Dockerfile", none,
        [("Dockerfile", [0x46])]⟩] ∧
    RemoteEngine.Setting.silent.Ships .sample
      (.afterContexts 0)
      (RemoteEngine.Setting.silent.posts .sample
        (.afterContexts 0)) := by
  have hSound : (Disk.afterContexts 0).IsSound :=
    ⟨Disk.isTree_of_entries (by decide +kernel),
      Path.isPlain_ofText "/tmp"⟩
  have hLooks :
      RemoteEngine.Setting.silent.builder.LooksOnly
        .self := by
    rintro registry hSome path name s
    cases hSome
    rfl
  rcases context_shipped RemoteEngine.Setting.silent with
    ⟨hSends, hPosts⟩
  rcases hSends .nested .nested ["c"] (by decide)
      (by decide +kernel) with
    ⟨files, hLists, hCall, hNames⟩
  cases hLists.unique Disk.nested_lists
  refine ⟨hCall, hNames (by decide), by decide +kernel, ?_⟩
  exact (hPosts (fun _ _ => rfl) hLooks .sample
    (.afterContexts 0) hSound (by decide)).1

end ContainerBuild
