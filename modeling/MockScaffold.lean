import MockScaffold.Command.Invocation
import MockScaffold.Command.Run
import MockScaffold.Decl.Lombok
import MockScaffold.Decl.Validity
import MockScaffold.Index.Basic
import MockScaffold.Index.Builtin
import MockScaffold.Index.Hierarchy
import MockScaffold.JavaType.Parser
import MockScaffold.JavaType.Spelling
import MockScaffold.Json.Parser
import MockScaffold.Json.Printer
import MockScaffold.Layout.Printer
import MockScaffold.Main
import MockScaffold.Model.Decoding
import MockScaffold.Model.Encoding
import MockScaffold.Model.Loading
import MockScaffold.Name.Behaviour
import MockScaffold.Name.Identifier
import MockScaffold.Name.Qualified
import MockScaffold.Proofs.Command.Invocation
import MockScaffold.Proofs.Command.Reload
import MockScaffold.Proofs.Command.Sinks
import MockScaffold.Proofs.Decl.Expansion
import MockScaffold.Proofs.Decl.Lombok
import MockScaffold.Proofs.Decl.Numbers
import MockScaffold.Proofs.Index.Agreement
import MockScaffold.Proofs.Index.Expansion
import MockScaffold.Proofs.Index.Hierarchy
import MockScaffold.Proofs.Index.History
import MockScaffold.Proofs.Index.Origin
import MockScaffold.Proofs.Index.Written
import MockScaffold.Proofs.JavaType.ClassName
import MockScaffold.Proofs.JavaType.Grammar
import MockScaffold.Proofs.JavaType.Recognition
import MockScaffold.Proofs.JavaType.RoundTrip
import MockScaffold.Proofs.JavaType.WellFormed
import MockScaffold.Proofs.Json.RoundTrip
import MockScaffold.Proofs.Layout.BlankLines
import MockScaffold.Proofs.Layout.Fields
import MockScaffold.Proofs.Layout.Head
import MockScaffold.Proofs.Layout.Listing
import MockScaffold.Proofs.Layout.Newline
import MockScaffold.Proofs.Model.ClassTypes
import MockScaffold.Proofs.Model.Encoding
import MockScaffold.Proofs.Model.Faults
import MockScaffold.Proofs.Model.Loadable
import MockScaffold.Proofs.Model.Restored
import MockScaffold.Proofs.Model.RoundTrip
import MockScaffold.Proofs.Name.Camel
import MockScaffold.Proofs.Name.Cuts
import MockScaffold.Proofs.Name.Dots
import MockScaffold.Proofs.Name.Words
import MockScaffold.Proofs.Scaffold.Additions
import MockScaffold.Proofs.Scaffold.Agreement
import MockScaffold.Proofs.Scaffold.Behaviours
import MockScaffold.Proofs.Scaffold.Completion
import MockScaffold.Proofs.Scaffold.Constants
import MockScaffold.Proofs.Scaffold.FieldNames
import MockScaffold.Proofs.Scaffold.Growth
import MockScaffold.Proofs.Scaffold.ImportScope
import MockScaffold.Proofs.Scaffold.Loadable
import MockScaffold.Proofs.Scaffold.Lombok
import MockScaffold.Proofs.Scaffold.Mocks
import MockScaffold.Proofs.Scaffold.NamedTypes
import MockScaffold.Proofs.Scaffold.Naming
import MockScaffold.Proofs.Scaffold.Numbers
import MockScaffold.Proofs.Scaffold.Plan
import MockScaffold.Proofs.Scaffold.SharedClasses
import MockScaffold.Proofs.Scaffold.Spelling
import MockScaffold.Proofs.Scaffold.Stability
import MockScaffold.Proofs.Scaffold.SubjectField
import MockScaffold.Proofs.Scaffold.Summary
import MockScaffold.Proofs.Scaffold.Synthesis
import MockScaffold.Proofs.Scaffold.Uniqueness
import MockScaffold.Proofs.Scaffold.Values
import MockScaffold.Proofs.SourceFile.Additions
import MockScaffold.Proofs.SourceFile.Growth
import MockScaffold.Proofs.SourceFile.Numbers
import MockScaffold.Scaffold.Report
import MockScaffold.Seeded.WordStream
import MockScaffold.Settings.LogFilter
import MockScaffold.Settings.Schema
import MockScaffold.SourceFile.Basic
import MockScaffold.Text.Case
import MockScaffold.Text.Letter
import MockScaffold.Toml.Parser
import MockScaffold.Workspace.Tree
