import BuildHost.Build.Basic
import BuildHost.Build.CodeGeneration
import BuildHost.Build.Factories
import BuildHost.Build.Metadata
import BuildHost.Build.Options
import BuildHost.Build.Program
import BuildHost.CommandLine.Arguments
import BuildHost.CommandLine.Outcome
import BuildHost.CommandLine.Surroundings
import BuildHost.FileRole
import BuildHost.FileSystem.Basic
import BuildHost.FileSystem.Disk
import BuildHost.FileSystem.IoError
import BuildHost.FileSystem.Memory
import BuildHost.Glob.Pattern
import BuildHost.Glob.Walk
import BuildHost.HostError
import BuildHost.Json.Cursor
import BuildHost.Json.Fault
import BuildHost.Json.Printer
import BuildHost.Json.Reader
import BuildHost.Json.Value
import BuildHost.Layout
import BuildHost.Log
import BuildHost.Main
import BuildHost.Metadata.Collector
import BuildHost.Metadata.FromText
import BuildHost.Metadata.FromValue
import BuildHost.Metadata.Record
import BuildHost.Number.Binary64
import BuildHost.Number.Shortest
import BuildHost.OrderedMap
import BuildHost.Path.Basic
import BuildHost.Path.Directory
import BuildHost.Path.Lemmas
import BuildHost.Project.Config
import BuildHost.Project.Options
import BuildHost.Project.RootFiles
import BuildHost.Proofs.Path.View
import BuildHost.Resolution.Basic
import BuildHost.Resolution.Echo
import BuildHost.Resolution.Files
import BuildHost.Resolution.Node
import BuildHost.Resolution.PackageManifest
import BuildHost.Resolution.Specifier
import BuildHost.Resource
import BuildHost.Script.Chars
import BuildHost.Script.Classes
import BuildHost.Script.Declarations
import BuildHost.Script.Dialect
import BuildHost.Script.Expressions
import BuildHost.Script.Functions
import BuildHost.Script.Grammar
import BuildHost.Script.Markup
import BuildHost.Script.Modules
import BuildHost.Script.Names
import BuildHost.Script.Number
import BuildHost.Script.Parameters
import BuildHost.Script.Parser
import BuildHost.Script.Rules
import BuildHost.Script.Statements
import BuildHost.Script.Targets
import BuildHost.Script.Text
import BuildHost.Script.Token
import BuildHost.Script.Tree
import BuildHost.Script.Types
import BuildHost.Unicode.Identifier
import BuildHost.Unicode.LowerCase
import BuildHost.Unicode.Quoted
import BuildHost.Unicode.Ranges
import BuildHost.Unicode.Word
import BuildHost.Utf8
import BuildHost.Version
import BuildHost.Proofs.Path.Join
import BuildHost.Proofs.Path.Relative
import BuildHost.Proofs.Path.Containment
import BuildHost.Proofs.Layout.Emission
import BuildHost.Proofs.Layout.Specifier
import BuildHost.Proofs.Layout.RootDirs
import BuildHost.Proofs.Resolution.Node
import BuildHost.Proofs.Resolution.Dotted
import BuildHost.Proofs.Resolution.RoundTrip
import BuildHost.Proofs.Resolution.Among
import BuildHost.Proofs.FileSystem.Contents
import BuildHost.Proofs.Build.Session
import BuildHost.Proofs.OrderedMap
import BuildHost.Proofs.Build.Action
import BuildHost.Proofs.Resolution.Planned
import BuildHost.Proofs.Metadata.Upgrade
import BuildHost.Proofs.Metadata.Reading
import BuildHost.Proofs.Layout.Relocation
import BuildHost.Proofs.Metadata.Cache
import BuildHost.Proofs.Metadata.Sessions
import BuildHost.Proofs.FileSystem.Writing
import BuildHost.Proofs.Generation.Symbols
import BuildHost.Proofs.Generation.Modules
import BuildHost.Proofs.Generation.Distinct
import BuildHost.Proofs.Metadata.Planned
import BuildHost.Proofs.Generation.Extraction
import BuildHost.Proofs.Json.Names
import BuildHost.Proofs.Metadata.Names
import BuildHost.Proofs.Resolution.Itself
import BuildHost.Proofs.Generation.Attribution
import BuildHost.Proofs.Layout.Coordinates
import BuildHost.Proofs.Resolution.Found
import BuildHost.Proofs.Path.Inside
import BuildHost.Proofs.Resolution.Summaries
import BuildHost.Proofs.Resolution.Merged
import BuildHost.Proofs.Path.Ancestors
import BuildHost.Proofs.Resolution.Packages
import BuildHost.Proofs.Layout.Dependencies
import BuildHost.Proofs.CompilationInputs
import BuildHost.Proofs.Json.Answers
import BuildHost.Proofs.Json.Brackets
import BuildHost.Proofs.Json.RoundTrip
import BuildHost.Proofs.Metadata.RoundTrip
import BuildHost.Proofs.FileSystem.Disk
import BuildHost.Proofs.FileSystem.Tree
import BuildHost.Proofs.Glob.Pattern
import BuildHost.Proofs.Glob.Walk
import BuildHost.Proofs.Project.RootFiles
import BuildHost.Proofs.Path.WayUp
import BuildHost.Proofs.Resolution.Bare
import BuildHost.Proofs.Build.Outputs
import BuildHost.Proofs.Path.Spelling
import BuildHost.Proofs.Layout.Reading
import BuildHost.Proofs.Layout.Apart
import BuildHost.Proofs.Layout.Respelling
import BuildHost.Proofs.Glob.Matching
import BuildHost.Proofs.Glob.Tokens
import BuildHost.Proofs.Glob.Components
import BuildHost.Proofs.Glob.Listing
import BuildHost.Proofs.Glob.Expansion
import BuildHost.Proofs.FileSystem.Normal
import BuildHost.Proofs.Project.Exclusion
import BuildHost.Proofs.Path.Ways
import BuildHost.Proofs.Path.Subtrees
import BuildHost.Proofs.Number.Counting
import BuildHost.Proofs.Metadata.Exports
import BuildHost.Proofs.Metadata.Enumeration
import BuildHost.Proofs.Path.Canonical
import BuildHost.Proofs.Path.Within
import BuildHost.Proofs.Project.Directories
import BuildHost.Proofs.Version
import BuildHost.Proofs.Path.LastSegment
import BuildHost.Proofs.FileSystem.Calls
import BuildHost.Proofs.FileSystem.Folders
import BuildHost.Proofs.FileSystem.Kinds
