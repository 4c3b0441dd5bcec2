import ClientGen.Api.Writer
import ClientGen.Backend.Writer
import ClientGen.Client.Reader
import ClientGen.Client.SharedGrouping
import ClientGen.Client.Writer
import ClientGen.Document.Writer
import ClientGen.Main
import ClientGen.Proofs.Api.Rereading
import ClientGen.Proofs.Backend.Composition
import ClientGen.Proofs.Backend.Discovery
import ClientGen.Proofs.Backend.Listing
import ClientGen.Proofs.Console.DryRun
import ClientGen.Proofs.Console.FailedRun
import ClientGen.Proofs.Console.Flags
import ClientGen.Proofs.Console.Streams
import ClientGen.Proofs.Console.UnreadableFiles
import ClientGen.Proofs.Console.Verbosity
import ClientGen.Proofs.Document.Rereading
import ClientGen.Proofs.Files.Confinement
import ClientGen.Proofs.Files.Effect
import ClientGen.Proofs.Files.Replacement
import ClientGen.Proofs.Files.Rooted
import ClientGen.Proofs.Files.Writing
import ClientGen.Proofs.Generation.Files
import ClientGen.Proofs.Generation.Isolation
import ClientGen.Proofs.Generation.Paths
import ClientGen.Proofs.Generation.RelativePaths
import ClientGen.Proofs.Generation.SchemaOrder
import ClientGen.Proofs.Grouping.Address
import ClientGen.Proofs.Grouping.FreeNames
import ClientGen.Proofs.Grouping.Names
import ClientGen.Proofs.Grouping.Order
import ClientGen.Proofs.Grouping.Partition
import ClientGen.Proofs.Grouping.Path
import ClientGen.Proofs.Grouping.Run
import ClientGen.Proofs.Grouping.Shared
import ClientGen.Proofs.Hooks.Models
import ClientGen.Proofs.Hooks.Operations
import ClientGen.Proofs.Hooks.Validation
import ClientGen.Proofs.Imports.Groups
import ClientGen.Proofs.Imports.Lines
import ClientGen.Proofs.Imports.Meanings
import ClientGen.Proofs.Imports.Models
import ClientGen.Proofs.Imports.Operations
import ClientGen.Proofs.Imports.Reproduction
import ClientGen.Proofs.Imports.Types
import ClientGen.Proofs.Imports.Written
import ClientGen.Proofs.Json.RoundTrip
import ClientGen.Proofs.Lists
import ClientGen.Proofs.Literals.Decoding
import ClientGen.Proofs.Literals.Lengths
import ClientGen.Proofs.Literals.Patterns
import ClientGen.Proofs.Literals.Reading
import ClientGen.Proofs.Literals.WireTexts
import ClientGen.Proofs.Names.Characters
import ClientGen.Proofs.Names.Collisions
import ClientGen.Proofs.Names.Constants
import ClientGen.Proofs.Names.Derived
import ClientGen.Proofs.Names.Identifiers
import ClientGen.Proofs.Names.Spelling
import ClientGen.Proofs.Names.Variables
import ClientGen.Proofs.Options.Idempotence
import ClientGen.Proofs.Options.Meaning
import ClientGen.Proofs.Options.Modes
import ClientGen.Proofs.Options.Precedence
import ClientGen.Proofs.Options.Resolvable
import ClientGen.Proofs.Options.Values
import ClientGen.Proofs.Render.Addresses
import ClientGen.Proofs.Render.Annotations
import ClientGen.Proofs.Text.Utf8
import ClientGen.Proofs.Types.Enumerations
import ClientGen.Proofs.Types.Registrations
import ClientGen.Proofs.Types.Wrappers
