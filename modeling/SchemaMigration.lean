import SchemaMigration.Main
import SchemaMigration.Operation.Writer
import SchemaMigration.Proofs.Operation.Address
import SchemaMigration.Proofs.Plan.History
import SchemaMigration.Proofs.Plan.UnitSteps
import SchemaMigration.Proofs.Migrator.Lifetime
import SchemaMigration.Proofs.Migrator.FailurePolicy
import SchemaMigration.Proofs.Migrator.Sent
import SchemaMigration.Proofs.Migrator.DeferredBootstrap
import SchemaMigration.Proofs.Migrator.Reopening
import SchemaMigration.Proofs.Migrator.Resumption
import SchemaMigration.Proofs.Schema.Undo
import SchemaMigration.Proofs.Plan.Script
import SchemaMigration.Proofs.Migrator.DryRun
import SchemaMigration.Proofs.Operation.RoundTrip
import SchemaMigration.Proofs.Document.Form
import SchemaMigration.Proofs.Operation.Rewording
import SchemaMigration.Proofs.Descriptor.Rewording
import SchemaMigration.Proofs.File.Path
import SchemaMigration.Proofs.File.Tree
import SchemaMigration.Proofs.Descriptor.Directory
import SchemaMigration.Proofs.Operation.CreateTable
import SchemaMigration.Proofs.Operation.Recovery
import SchemaMigration.Proofs.Operation.PassThrough
import SchemaMigration.Proofs.Operation.InferredDown
import SchemaMigration.Proofs.Timestamp
import SchemaMigration.Proofs.File.Growth
import SchemaMigration.Proofs.Descriptor.Scaffold
import SchemaMigration.Proofs.Descriptor.Sorting
import SchemaMigration.Proofs.Operation.Reading
import SchemaMigration.Proofs.Operation.Completeness
import SchemaMigration.Proofs.Descriptor.Loss
import SchemaMigration.Proofs.Database.Calm
import SchemaMigration.Proofs.Migrator.Opening
import SchemaMigration.Proofs.CommandLine.Goto
import SchemaMigration.Proofs.CommandLine.New
import SchemaMigration.Proofs.Plan.Replay
import SchemaMigration.Proofs.VersionTable.Register
import SchemaMigration.Proofs.CommandLine.Listing
import SchemaMigration.Proofs.Descriptor.Numbering
import SchemaMigration.Proofs.CommandLine.DryRun
