import EnvConfig.CommandLine.Arguments
import EnvConfig.CommandLine.Json
import EnvConfig.CommandLine.Run
import EnvConfig.Entries
import EnvConfig.Environment.Setting
import EnvConfig.Files.Disk
import EnvConfig.Files.Tree
import EnvConfig.Formatter
import EnvConfig.Generation
import EnvConfig.Grammar.Declaration
import EnvConfig.Grammar.Phrase
import EnvConfig.Grammar.Reader
import EnvConfig.Import.Library
import EnvConfig.Import.Loading
import EnvConfig.Lexical.Lexeme
import EnvConfig.Lexical.Scan
import EnvConfig.Lexical.Token
import EnvConfig.Loader.FieldClass
import EnvConfig.Loader.Population
import EnvConfig.Loader.Unit
import EnvConfig.Main
import EnvConfig.Naming.Words
import EnvConfig.Nesting
import EnvConfig.Number.Binary
import EnvConfig.Number.Shortest
import EnvConfig.Number.Written
import EnvConfig.Proofs.CommandLine.Effects
import EnvConfig.Proofs.Emission
import EnvConfig.Proofs.Emission.Exact
import EnvConfig.Proofs.Emission.Loadable
import EnvConfig.Proofs.Emission.Spelling
import EnvConfig.Proofs.Emission.Trimmed
import EnvConfig.Proofs.Files.Beside
import EnvConfig.Proofs.Files.Written
import EnvConfig.Proofs.Grammar.Alike
import EnvConfig.Proofs.Grammar.Anywhere
import EnvConfig.Proofs.Grammar.Blocks
import EnvConfig.Proofs.Grammar.Integers
import EnvConfig.Proofs.Grammar.Joined
import EnvConfig.Proofs.Grammar.Literals
import EnvConfig.Proofs.Grammar.Lookahead
import EnvConfig.Proofs.Grammar.Places
import EnvConfig.Proofs.Grammar.Refused
import EnvConfig.Proofs.Import.BreadthFirst
import EnvConfig.Proofs.Import.Discovery
import EnvConfig.Proofs.Import.FromDisk
import EnvConfig.Proofs.Import.Order
import EnvConfig.Proofs.Lexical.Joined
import EnvConfig.Proofs.Lexical.Longest
import EnvConfig.Proofs.Lexical.Lossless
import EnvConfig.Proofs.Lexical.Numbers
import EnvConfig.Proofs.Lexical.Respacing
import EnvConfig.Proofs.Naming.Fragment
import EnvConfig.Proofs.Naming.GoIdentifiers
import EnvConfig.Proofs.Naming.GoScope
import EnvConfig.Proofs.Naming.Identifiers
import EnvConfig.Proofs.Naming.Modules
import EnvConfig.Proofs.Naming.Statements
import EnvConfig.Proofs.Population.Again
import EnvConfig.Proofs.Population.ByPath
import EnvConfig.Proofs.Population.Dispatch
import EnvConfig.Proofs.Population.Ends
import EnvConfig.Proofs.Population.Filling
import EnvConfig.Proofs.Population.Listing
import EnvConfig.Proofs.Population.Operations
import EnvConfig.Proofs.Population.Step
import EnvConfig.Proofs.Population.Stopped
import EnvConfig.Proofs.Population.Typing
import EnvConfig.Proofs.Population.Variables
import EnvConfig.Proofs.Population.Walk
import EnvConfig.Proofs.Printing.Declarations
import EnvConfig.Proofs.Printing.Phrases
import EnvConfig.Proofs.Printing.Printable
import EnvConfig.Proofs.Printing.Reading
import EnvConfig.Proofs.Printing.RoundTrip
import EnvConfig.Proofs.Printing.Scanning
import EnvConfig.Proofs.Printing.Words
import EnvConfig.Proofs.Render.Balanced
import EnvConfig.Proofs.Render.Brackets
import EnvConfig.Proofs.Render.GoBrackets
import EnvConfig.Proofs.Render.GoFile
import EnvConfig.Proofs.Render.GoImports
import EnvConfig.Proofs.Render.GoReferences
import EnvConfig.Proofs.Render.Lines
import EnvConfig.Proofs.Render.Qualifiers
import EnvConfig.Proofs.Render.RustBrackets
import EnvConfig.Proofs.Resolution
import EnvConfig.Proofs.Service.Matching
import EnvConfig.Proofs.Service.Refinement
import EnvConfig.Proofs.Service.Schema
import EnvConfig.Proofs.Settings
import EnvConfig.Proofs.Traversal
import EnvConfig.Proofs.Verification.Cycles
import EnvConfig.Proofs.Verification.Exact
import EnvConfig.Render.Code
import EnvConfig.Render.GoLoader
import EnvConfig.Render.GoNames
import EnvConfig.Render.Language
import EnvConfig.Render.RustLoader
import EnvConfig.Render.RustNames
import EnvConfig.Schema.Audience
import EnvConfig.Schema.Basic
import EnvConfig.Schema.Kind
import EnvConfig.Schema.MapType
import EnvConfig.Schema.Target
import EnvConfig.SchemaSet
import EnvConfig.Service.Loading
import EnvConfig.Text.Basic
import EnvConfig.Text.Case
import EnvConfig.Text.Segment
import EnvConfig.Text.Table.Alphabetic
import EnvConfig.Text.Table.Case
import EnvConfig.Text.Table.Printing
import EnvConfig.Text.Utf8
import EnvConfig.Value.Basic
import EnvConfig.Value.Printed
import EnvConfig.Verification
