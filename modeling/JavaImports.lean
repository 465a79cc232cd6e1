import JavaImports.Main
import JavaImports.Proofs.SortedMap
import JavaImports.Proofs.ImportMap
import JavaImports.Proofs.Graph
import JavaImports.Proofs.DottedName
import JavaImports.Proofs.Text.Lines
import JavaImports.Proofs.Text.Split
import JavaImports.Proofs.Text.ByteOrder
import JavaImports.Proofs.Unit
import JavaImports.Proofs.FileSystem.Agreement
import JavaImports.Proofs.FileSystem.Writing
import JavaImports.Proofs.Path
import JavaImports.Proofs.FileSystem.Moving
import JavaImports.Proofs.FileSystem.Tree
import JavaImports.Proofs.FileSystem.Walk
import JavaImports.Proofs.FileSystem.Directories
import JavaImports.Proofs.FileSystem.Contents
import JavaImports.Proofs.FileSystem.Descending
import JavaImports.Proofs.Json.Written
import JavaImports.Proofs.Json.Rendering
import JavaImports.Proofs.Json.Views
import JavaImports.Proofs.Config.Format
import JavaImports.Proofs.Config.Store
import JavaImports.Proofs.Config.Failure
import JavaImports.Proofs.Config.Partial
import JavaImports.Proofs.Glob
import JavaImports.Proofs.Config.Inclusion
import JavaImports.Proofs.Selection
import JavaImports.Proofs.PathBelow
import JavaImports.Proofs.Table
import JavaImports.Proofs.Graphml.Reader
import JavaImports.Proofs.Graphml.Export
import JavaImports.Proofs.Graphml.Misreading
import JavaImports.Proofs.Graphml.Decoding
import JavaImports.Proofs.Graphml.Composition
import JavaImports.Proofs.Graphml.Identifiers
import JavaImports.Proofs.Graphml.Writing
import JavaImports.Proofs.Graphml.Failures
import JavaImports.Proofs.Graphml.Placement
import JavaImports.Proofs.Unicode.Ranges
import JavaImports.Proofs.Java.Names
import JavaImports.Proofs.Java.Gaps
import JavaImports.Proofs.Java.Headers
import JavaImports.Proofs.Java.Syntax
import JavaImports.Proofs.Java.Source
import JavaImports.Proofs.Java.Network
import JavaImports.Proofs.Java.Closure
import JavaImports.Proofs.Java.Chart
import JavaImports.Proofs.Java.Lexing
import JavaImports.Proofs.Java.Extraction
import JavaImports.Proofs.Pattern.Matches
import JavaImports.Proofs.Pattern.Continuation
import JavaImports.Proofs.Pattern.Remainder
import JavaImports.Proofs.Pattern.Failure
import JavaImports.Proofs.Pattern.Group
import JavaImports.Proofs.Pattern.Acceptance
import JavaImports.Proofs.SymbolFilter
import JavaImports.Proofs.Scan
import JavaImports.Proofs.Warnings
import JavaImports.Proofs.CommandLine.Session
import JavaImports.Proofs.Filtering
import JavaImports.Proofs.Builds
import JavaImports.Proofs.Relocation
import JavaImports.Proofs.CommandLine.Separators
import JavaImports.Proofs.CommandLine.Sequence
import JavaImports.Proofs.Rescan
import JavaImports.Proofs.CommandLine.Repetition
