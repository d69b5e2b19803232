import ContainerBuild.Files.Archive
import ContainerBuild.Main
import ContainerBuild.Process.Programs
import ContainerBuild.Proofs.Builder.Accounting
import ContainerBuild.Proofs.Builder.Agreement
import ContainerBuild.Proofs.Builder.Interruption
import ContainerBuild.Proofs.ImageName
import ContainerBuild.Proofs.Builder.Calls
import ContainerBuild.Proofs.Files.Path
import ContainerBuild.Proofs.Files.Place
import ContainerBuild.Proofs.Files.Tree
import ContainerBuild.Proofs.Files.Change
import ContainerBuild.Proofs.Staging
import ContainerBuild.Proofs.Builder.Cleanup
import ContainerBuild.Proofs.Action
import ContainerBuild.Proofs.Builder.Escape
import ContainerBuild.Proofs.Files.Refusal
import ContainerBuild.Proofs.Registry.Lookup
import ContainerBuild.Proofs.Engine
import ContainerBuild.Proofs.Host
import ContainerBuild.Proofs.Registry.Reference
import ContainerBuild.Proofs.Builder.Verdict
import ContainerBuild.Proofs.Json.Readback
import ContainerBuild.Proofs.Wire
import ContainerBuild.Proofs.Files.Confined
import ContainerBuild.Proofs.StagingArea.Consistency
import ContainerBuild.Proofs.StagingArea.Isolation
import ContainerBuild.Proofs.Transcript.Visibility
import ContainerBuild.Proofs.Files.Listing
import ContainerBuild.Proofs.Engine.Shipment
import ContainerBuild.Proofs.Transcript.Numbers
import ContainerBuild.Proofs.CommandLine.Reply
import ContainerBuild.Proofs.CommandLine.Invocation
import ContainerBuild.Proofs.Transcript.Rendering
import ContainerBuild.Proofs.Transcript.Truncation
import ContainerBuild.Proofs.Stream.Composition
import ContainerBuild.Proofs.StagingArea.Rollback
import ContainerBuild.Proofs.ImageName.Language
import ContainerBuild.Proofs.ImageName.DockerRule
import ContainerBuild.Proofs.Registry.Download
import ContainerBuild.Proofs.Registry.Archive
import ContainerBuild.Proofs.Files.TemporaryFile
import ContainerBuild.Proofs.Builder.Saving
import ContainerBuild.Proofs.Engine.Classification
import ContainerBuild.Proofs.Engine.Outcome
import ContainerBuild.Proofs.Registry.Membership
import ContainerBuild.Proofs.Registry.Protocol
import ContainerBuild.Proofs.Config.Usability
import ContainerBuild.Proofs.ConfigFile.Containment
import ContainerBuild.Proofs.ConfigFile.Influence
import ContainerBuild.Proofs.ConfigFile.Routes
import ContainerBuild.Proofs.ImageName.LocalRule
import ContainerBuild.Proofs.Registry.Removal
import ContainerBuild.Proofs.Stream.Explanation
