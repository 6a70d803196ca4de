import SourceOutline.Command.Console
import SourceOutline.Command.Display
import SourceOutline.Command.Help
import SourceOutline.Command.Options
import SourceOutline.Command.Run
import SourceOutline.Config.EnvFile
import SourceOutline.Config.Layers
import SourceOutline.Config.Settings
import SourceOutline.Config.Value
import SourceOutline.Error.Failure
import SourceOutline.Error.Report
import SourceOutline.Error.Run
import SourceOutline.Extract.Declaration
import SourceOutline.Extract.Emission
import SourceOutline.Extract.Scope
import SourceOutline.Files.Path
import SourceOutline.Files.Store
import SourceOutline.Handler.Contract
import SourceOutline.Handler.Registry
import SourceOutline.Handler.Tree
import SourceOutline.Java.Grammar
import SourceOutline.Java.Imports
import SourceOutline.Java.Lexicon
import SourceOutline.Java.Members
import SourceOutline.Java.Reference
import SourceOutline.Java.Types
import SourceOutline.Json.Basic
import SourceOutline.Json.Printer
import SourceOutline.Json.Reader
import SourceOutline.Log.Format
import SourceOutline.Log.Record
import SourceOutline.Log.Setup
import SourceOutline.Main
import SourceOutline.Model.Dump
import SourceOutline.Model.Member
import SourceOutline.Model.MemberSet
import SourceOutline.Model.Outline
import SourceOutline.Model.Reading
import SourceOutline.Model.TypeDecl
import SourceOutline.Model.TypeTable
import SourceOutline.Number.Binary64
import SourceOutline.Number.Shortest
import SourceOutline.Python.Grammar
import SourceOutline.Python.Imports
import SourceOutline.Python.Lexicon
import SourceOutline.Python.Members
import SourceOutline.Python.Reference
import SourceOutline.Python.Types
import SourceOutline.Syntax.Cursor
import SourceOutline.Syntax.Grammar
import SourceOutline.Syntax.Node
import SourceOutline.Syntax.Repair
import SourceOutline.Table
import SourceOutline.Text.Blank
import SourceOutline.Text.Case
import SourceOutline.Text.CaseClass
import SourceOutline.Text.CaseMap
import SourceOutline.Text.Dotted
import SourceOutline.Text.Letter
import SourceOutline.Text.Printable
import SourceOutline.Text.Quoted
import SourceOutline.Text.Ranges
import SourceOutline.Text.Utf8
import SourceOutline.Text.Word
import SourceOutline.Validation.Fields
import SourceOutline.Validation.Issue
import SourceOutline.Yaml.Node
import SourceOutline.Yaml.Plain
import SourceOutline.Yaml.Reader
import SourceOutline.Yaml.Scalar
import SourceOutline.Yaml.Spot
import SourceOutline.Yaml.Token
import SourceOutline.Proofs.Json.Strings
import SourceOutline.Proofs.Json.Values
import SourceOutline.Proofs.Outcome
import SourceOutline.Proofs.Model.Consistency
import SourceOutline.Proofs.Model.OutlineText
import SourceOutline.Proofs.Extract.Walk
import SourceOutline.Proofs.Syntax.BadNodes
import SourceOutline.Proofs.Java.Walk
import SourceOutline.Proofs.Extract.Declared
import SourceOutline.Proofs.Python.Walk
import SourceOutline.Proofs.Handler.Answers
import SourceOutline.Proofs.Handler.SyntaxErrors
import SourceOutline.Proofs.Extract.Mentions
import SourceOutline.Proofs.Java.Mentions
import SourceOutline.Proofs.Python.Mentions
import SourceOutline.Proofs.Model.TypeTable
import SourceOutline.Proofs.Java.Reference
import SourceOutline.Proofs.Handler.LocalNames
import SourceOutline.Proofs.Java.Linking
import SourceOutline.Proofs.Model.Registration
import SourceOutline.Proofs.Python.Linking
import SourceOutline.Proofs.Java.Comments
import SourceOutline.Proofs.Handler.Comments
import SourceOutline.Proofs.Java.Failures
import SourceOutline.Proofs.Python.Failures
import SourceOutline.Proofs.Handler.Failures
import SourceOutline.Proofs.Model.Reordering
import SourceOutline.Proofs.Text.Case
import SourceOutline.Proofs.Handler.Registry
import SourceOutline.Proofs.Handler.Consistency
import SourceOutline.Proofs.Command.JsonOutput
import SourceOutline.Proofs.Syntax.Shape
import SourceOutline.Proofs.Model.DetailsText
import SourceOutline.Proofs.Command.Outcome
import SourceOutline.Proofs.Files.Store
import SourceOutline.Proofs.Json.Ascii
import SourceOutline.Proofs.Java.Shape
import SourceOutline.Proofs.Python.Shape
import SourceOutline.Proofs.Command.Failures
import SourceOutline.Proofs.Config.Layers
import SourceOutline.Model.RecordClass
import SourceOutline.Proofs.Json.Objects
import SourceOutline.Proofs.Validation.Respelling
import SourceOutline.Proofs.Model.Respelling
import SourceOutline.Proofs.Model.Records
import SourceOutline.Proofs.Model.RoundTrip
import SourceOutline.Proofs.Model.Layout
import SourceOutline.Proofs.Validation.Reports
import SourceOutline.Proofs.Model.Kinds
import SourceOutline.Proofs.Model.MemberKeys
import SourceOutline.Proofs.Config.Merging
import SourceOutline.Proofs.Config.Precedence
import SourceOutline.Proofs.Handler.PartialPaths
import SourceOutline.Proofs.Java.NestedScope
import SourceOutline.Proofs.Syntax.Positions
import SourceOutline.Proofs.Extract.Nesting
import SourceOutline.Proofs.Java.Dimensions
import SourceOutline.Proofs.Java.DocumentOrder
import SourceOutline.Proofs.Python.DocumentOrder
import SourceOutline.Proofs.Java.TypeVariables
import SourceOutline.Proofs.Python.RelativeImports
import SourceOutline.Proofs.Python.ImportStatements
import SourceOutline.Proofs.Python.ImportedNames
import SourceOutline.Proofs.Syntax.Insertions
import SourceOutline.Proofs.Python.Insertions
import SourceOutline.Proofs.Python.ScopeChange
import SourceOutline.Proofs.Python.LocalImports
import SourceOutline.Proofs.Python.LookupNames
import SourceOutline.Proofs.Python.Subscripts
import SourceOutline.Proofs.Python.AssignmentTargets
import SourceOutline.Proofs.Python.QuotedAnnotations
import SourceOutline.Proofs.Python.BaseLayout
import SourceOutline.Proofs.Handler.StubsOnly
import SourceOutline.Proofs.Java.OtherMembers
import SourceOutline.Proofs.Config.PathLookup
import SourceOutline.Proofs.Config.Unreadable
import SourceOutline.Proofs.Files.Path
import SourceOutline.Proofs.Handler.Extensions
import SourceOutline.Proofs.Command.Selection
import SourceOutline.Proofs.Model.StubNames
import SourceOutline.Proofs.Log.Setup
import SourceOutline.Proofs.Text.Utf8
import SourceOutline.Proofs.Syntax.NodeText
import SourceOutline.Proofs.Java.TypeText
import SourceOutline.Proofs.Handler.DeclaredTable
import SourceOutline.Proofs.Command.Markup
import SourceOutline.Proofs.Command.Console
import SourceOutline.Proofs.Command.Screens
