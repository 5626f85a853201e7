import ClientCompiler.Main
import ClientCompiler.Console.Session
import ClientCompiler.Binding.Session
import ClientCompiler.Proofs.Text.Trimming
import ClientCompiler.Proofs.Types.Splitting
import ClientCompiler.Proofs.Types.Reading
import ClientCompiler.Proofs.Types.Grammar
import ClientCompiler.Proofs.Types.Printing
import ClientCompiler.Proofs.Binding.Discipline
import ClientCompiler.Proofs.Binding.Settling
import ClientCompiler.Proofs.Returning
import ClientCompiler.Proofs.Document.Plan
import ClientCompiler.Proofs.Document.Placement
import ClientCompiler.Proofs.Document.TwoPass
import ClientCompiler.Proofs.Distinct
import ClientCompiler.Proofs.Document.DeclarationOrder
import ClientCompiler.Proofs.Document.Properties
import ClientCompiler.Proofs.Document.SchemaTyping
import ClientCompiler.Proofs.Document.Entries
import ClientCompiler.Proofs.Types.Names
import ClientCompiler.Proofs.Document.Imports
import ClientCompiler.Proofs.Document.Grouping
import ClientCompiler.Proofs.Alike
import ClientCompiler.Proofs.Document.Registries
import ClientCompiler.Proofs.Document.Independence
import ClientCompiler.Proofs.Fields
import ClientCompiler.Proofs.Document.SharedParameters
import ClientCompiler.Proofs.Document.Closed
import ClientCompiler.Proofs.Document.NormalForm
import ClientCompiler.Proofs.Text.Utf8
import ClientCompiler.Proofs.Json.Numbers
import ClientCompiler.Proofs.Json.Strings
import ClientCompiler.Proofs.Json.RoundTrip
import ClientCompiler.Proofs.Files.Path
import ClientCompiler.Proofs.Files.Tree
import ClientCompiler.Proofs.Files.Writing
import ClientCompiler.Proofs.Emission.Contents
import ClientCompiler.Proofs.Emission.Publishing
import ClientCompiler.Proofs.Emission.FreshDirectory
import ClientCompiler.Proofs.Emission.Documents
import ClientCompiler.Proofs.Emission.Reload
import ClientCompiler.Proofs.Emission.Manifest
import ClientCompiler.Proofs.Emission.Reissue
import ClientCompiler.Proofs.Document.Shapes
import ClientCompiler.Proofs.Document.WellShaped
import ClientCompiler.Proofs.Failing
import ClientCompiler.Proofs.Command.Effects
import ClientCompiler.Proofs.Document.Loading
import ClientCompiler.Proofs.Binding.ReadingTime
import ClientCompiler.Proofs.Emission.ModuleNames
import ClientCompiler.Proofs.Files.Repetition
import ClientCompiler.Proofs.Emission.Confinement
import ClientCompiler.Proofs.Emission.ModuleFiles
import ClientCompiler.Proofs.Template.Agreement
import ClientCompiler.Proofs.Template.Writing
import ClientCompiler.Proofs.Render.Programs
import ClientCompiler.Proofs.Render.Printer
import ClientCompiler.Proofs.Render.ModulePrinter
import ClientCompiler.Proofs.Render.Comments
import ClientCompiler.Proofs.Types.Settled
import ClientCompiler.Proofs.Document.Routes
import ClientCompiler.Proofs.Document.Reported
import ClientCompiler.Proofs.Document.StoredTypes
import ClientCompiler.Proofs.Files.Outline
import ClientCompiler.Proofs.Emission.Formatting
import ClientCompiler.Proofs.Files.Ways
import ClientCompiler.Proofs.Files.Interruption
import ClientCompiler.Proofs.Keys
import ClientCompiler.Proofs.Document.Merging
import ClientCompiler.Proofs.Document.Destinations
import ClientCompiler.Proofs.Document.Warnings
import ClientCompiler.Proofs.Render.Listing
import ClientCompiler.Proofs.Types.Renaming
import ClientCompiler.Proofs.Render.Declarations
import ClientCompiler.Proofs.Render.PropertyKeys
import ClientCompiler.Proofs.Json.Syntax
import ClientCompiler.Proofs.Json.Numerals
import ClientCompiler.Proofs.Json.Pieces
import ClientCompiler.Proofs.Json.Acceptance
import ClientCompiler.Proofs.Json.Recognition
import ClientCompiler.Proofs.Json.NormalForm
import ClientCompiler.Proofs.Types.Descent
import ClientCompiler.Proofs.Document.Interpolation
import ClientCompiler.Proofs.Document.OperationNames
import ClientCompiler.Proofs.Settings.Files
import ClientCompiler.Proofs.Settings.Templates
import ClientCompiler.Proofs.Settings.Precedence
import ClientCompiler.Proofs.Text.Words
import ClientCompiler.Proofs.Render.CommentText
import ClientCompiler.Proofs.Types.Arguments
import ClientCompiler.Proofs.Console.Tables
import ClientCompiler.Proofs.Command.Inspection
import ClientCompiler.Proofs.Settings.Faults
