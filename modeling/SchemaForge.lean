import SchemaForge.CommandLine.Program
import SchemaForge.CommandLine.Survey
import SchemaForge.Main
import SchemaForge.Schema.File
import SchemaForge.Proofs.Migration.ClassName
import SchemaForge.Proofs.Migration.DropStatement
import SchemaForge.Proofs.Migration.Fit
import SchemaForge.Proofs.Migration.Quoted
import SchemaForge.Proofs.Migration.Recognition
import SchemaForge.Proofs.Migration.Staging
import SchemaForge.Proofs.Migration.Stamp
import SchemaForge.Proofs.Run.Frame
import SchemaForge.Proofs.Run.Ledger
import SchemaForge.Proofs.Run.Order
import SchemaForge.Proofs.Run.Problems
import SchemaForge.Proofs.Run.Repeat
import SchemaForge.Proofs.Run.Seeding
import SchemaForge.Proofs.Run.Succession
import SchemaForge.Proofs.Run.Unique
import SchemaForge.Proofs.Run.Warnings
import SchemaForge.Proofs.Schema.Arguments
import SchemaForge.Proofs.Schema.Saved
import SchemaForge.Proofs.Seeder.RunMethod
import SchemaForge.Proofs.Template.Occurrence
import SchemaForge.Proofs.Seeder.ClassName
