import JavaLint.Check
import JavaLint.CheckSet
import JavaLint.CommandLine
import JavaLint.CommandLine.Arguments
import JavaLint.CommandLine.ConfigFile
import JavaLint.Config.Basic
import JavaLint.Config.Checks
import JavaLint.Config.Error
import JavaLint.Config.Preset
import JavaLint.Config.Section
import JavaLint.Files.Discovery
import JavaLint.Files.FileTree
import JavaLint.Files.Glob
import JavaLint.Files.IgnoreFile
import JavaLint.Files.IgnorePattern
import JavaLint.Files.Path
import JavaLint.Findings.Json
import JavaLint.Frontend
import JavaLint.Java.Cst
import JavaLint.Java.Extraction
import JavaLint.Java.Frontend
import JavaLint.Java.Grammar.Declarations
import JavaLint.Java.Grammar.Expressions
import JavaLint.Java.Grammar.Rule
import JavaLint.Java.Grammar.Statements
import JavaLint.Java.Grammar.Types
import JavaLint.Java.Lexeme
import JavaLint.Java.Peg
import JavaLint.Java.Program
import JavaLint.Json.Basic
import JavaLint.Json.Parser
import JavaLint.Json.Printer
import JavaLint.KeyMap
import JavaLint.Main
import JavaLint.Message
import JavaLint.Naming.ParameterName
import JavaLint.Naming.Pattern
import JavaLint.Naming.Rule
import JavaLint.Number.Binary64
import JavaLint.Number.Shortest
import JavaLint.Override
import JavaLint.Proofs.CheckSet.Independence
import JavaLint.Proofs.CheckSet.Traversal
import JavaLint.Proofs.CommandLine.ConfigFile
import JavaLint.Proofs.Config.CheckerTable
import JavaLint.Proofs.Config.Checks
import JavaLint.Proofs.Config.Faults
import JavaLint.Proofs.Config.Layers
import JavaLint.Proofs.Config.Options
import JavaLint.Proofs.Config.TokenLists
import JavaLint.Proofs.Dispatch
import JavaLint.Proofs.Except
import JavaLint.Proofs.Files.Ancestors
import JavaLint.Proofs.Files.Discovery
import JavaLint.Proofs.Files.Glob
import JavaLint.Proofs.Files.Overwriting
import JavaLint.Proofs.Files.Path
import JavaLint.Proofs.Files.Patterns
import JavaLint.Proofs.Files.Walk
import JavaLint.Proofs.Java.Address
import JavaLint.Proofs.Java.Arrangement
import JavaLint.Proofs.Java.Cst
import JavaLint.Proofs.Java.Extraction
import JavaLint.Proofs.Java.Flaws
import JavaLint.Proofs.Java.Nesting
import JavaLint.Proofs.Java.Outermost
import JavaLint.Proofs.Java.Places
import JavaLint.Proofs.Java.Ranges
import JavaLint.Proofs.Java.Reading
import JavaLint.Proofs.Java.SameTokens
import JavaLint.Proofs.Java.Shape
import JavaLint.Proofs.Java.SourceOrder
import JavaLint.Proofs.Java.Spacing
import JavaLint.Proofs.Java.SyntaxErrors
import JavaLint.Proofs.Java.Unplaced
import JavaLint.Proofs.Java.Walk
import JavaLint.Proofs.Java.Yield
import JavaLint.Proofs.KeyMap
import JavaLint.Proofs.Message
import JavaLint.Proofs.Naming.Inspection
import JavaLint.Proofs.Naming.Pattern
import JavaLint.Proofs.Naming.Places
import JavaLint.Proofs.Naming.Receivers
import JavaLint.Proofs.Naming.Restrictions
import JavaLint.Proofs.Naming.Runs
import JavaLint.Proofs.Naming.Settings
import JavaLint.Proofs.Regex.Alternatives
import JavaLint.Proofs.Regex.Classes
import JavaLint.Proofs.Regex.Escapes
import JavaLint.Proofs.Regex.Groups
import JavaLint.Proofs.Regex.Semantics
import JavaLint.Proofs.Regex.Steps
import JavaLint.Proofs.Regex.Suffix
import JavaLint.Proofs.Regex.Wrapping
import JavaLint.Proofs.Report
import JavaLint.Proofs.Run.Basic
import JavaLint.Proofs.Run.CheckSettings
import JavaLint.Proofs.Run.CheckerTable
import JavaLint.Proofs.Run.Columns
import JavaLint.Proofs.Run.Findings
import JavaLint.Proofs.Run.Patterns
import JavaLint.Proofs.Run.Roots
import JavaLint.Proofs.Run.Spacing
import JavaLint.Proofs.Run.Strictness
import JavaLint.Proofs.Run.TabWidth
import JavaLint.Proofs.Scope.AnonymousClasses
import JavaLint.Proofs.Scope.EnclosingTypes
import JavaLint.Proofs.Scope.Resolution
import JavaLint.Proofs.StableSort
import JavaLint.Proofs.Text.Bytes
import JavaLint.Proofs.Text.Columns
import JavaLint.Proofs.Text.Gaps
import JavaLint.Proofs.Text.LineIndex
import JavaLint.Proofs.Text.LineStarts
import JavaLint.Proofs.Text.Position
import JavaLint.Proofs.Text.Search
import JavaLint.Proofs.Text.Split
import JavaLint.Proofs.Toml.Integers
import JavaLint.Proofs.Tree.Agreement
import JavaLint.Proofs.Tree.Attempts
import JavaLint.Proofs.Tree.Extension
import JavaLint.Proofs.Tree.Growth
import JavaLint.Proofs.Tree.Order
import JavaLint.Proofs.Tree.Preorder
import JavaLint.Proofs.Tree.Push
import JavaLint.Proofs.Tree.Skeleton
import JavaLint.Proofs.Tree.Unplaced
import JavaLint.Regex.Basic
import JavaLint.Regex.CharSet
import JavaLint.Regex.Compile
import JavaLint.Regex.Parser
import JavaLint.Regex.Syntax
import JavaLint.Report
import JavaLint.Report.Snippet
import JavaLint.Report.Wrapping
import JavaLint.Run
import JavaLint.Scope
import JavaLint.Scope.Resolution
import JavaLint.Text.Blank
import JavaLint.Text.Digits
import JavaLint.Text.LineIndex
import JavaLint.Text.Split
import JavaLint.Token
import JavaLint.Toml.Basic
import JavaLint.Toml.Document
import JavaLint.Toml.Quoted
import JavaLint.Toml.Scalar
import JavaLint.Toml.Statement
import JavaLint.Tree
import JavaLint.Unicode.CaseFolding
import JavaLint.Unicode.Category
import JavaLint.Unicode.LineBreak
import JavaLint.Unicode.Property
import JavaLint.Unicode.Ranges
import JavaLint.Unicode.Script
import JavaLint.Unicode.Width
import JavaLint.Violation
