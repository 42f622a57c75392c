import WireSchema.CommandLine.Arguments
import WireSchema.CommandLine.Basic
import WireSchema.CommandLine.LogFilter
import WireSchema.Config
import WireSchema.Decimal.Layout
import WireSchema.Decimal.Shortest
import WireSchema.FileTree.Basic
import WireSchema.FileTree.Path
import WireSchema.Generation.Basic
import WireSchema.Generation.Error
import WireSchema.Generation.Placement
import WireSchema.Generation.Program
import WireSchema.Json.Basic
import WireSchema.Json.Decode
import WireSchema.Json.DecodeError
import WireSchema.Json.Literal
import WireSchema.Json.Malformed
import WireSchema.Json.Number
import WireSchema.Json.Reader
import WireSchema.Log
import WireSchema.Main
import WireSchema.Output.Binding
import WireSchema.Output.ClassDecl
import WireSchema.Output.EnumClass
import WireSchema.Output.FieldError
import WireSchema.Output.JavaType
import WireSchema.Output.SourceFile
import WireSchema.Output.StructClass
import WireSchema.Output.WireCall
import WireSchema.Registry
import WireSchema.Schema.Annotation
import WireSchema.Schema.Basic
import WireSchema.Schema.Decode
import WireSchema.Schema.Encode
import WireSchema.Schema.Kind
import WireSchema.Scope
import WireSchema.Text.Blank
import WireSchema.Text.Quoted
import WireSchema.Text.Unprintable
import WireSchema.Text.Uppercase
import WireSchema.Proofs.Bindings
import WireSchema.Proofs.Resolution
import WireSchema.Proofs.Rendering
import WireSchema.Proofs.ClassNames
import WireSchema.Proofs.MapKeys
import WireSchema.Proofs.NameCapture
import WireSchema.Proofs.Execution
import WireSchema.Proofs.WireRoundTrip
import WireSchema.Proofs.Denotation
import WireSchema.Proofs.Lookups
import WireSchema.Proofs.ModuleLists
import WireSchema.Proofs.FilePrograms
import WireSchema.Proofs.Runs
import WireSchema.Proofs.LastWriters
import WireSchema.Proofs.Shadowing
import WireSchema.Proofs.Containment
import WireSchema.Proofs.CallSequences
import WireSchema.Proofs.Presence
import WireSchema.Proofs.Packages
import WireSchema.Proofs.QualifiedNames
import WireSchema.Proofs.Correspondence
import WireSchema.Proofs.FieldEdits
import WireSchema.Proofs.NumericKinds
import WireSchema.Proofs.Loading
import WireSchema.Proofs.Regeneration
import WireSchema.Proofs.Records
import WireSchema.Proofs.CommandLines
import WireSchema.Proofs.Settings
import WireSchema.Proofs.CommandRuns
import WireSchema.Proofs.ModuleTrees
import WireSchema.Proofs.OutputPaths
import WireSchema.Proofs.ParentDirectories
import WireSchema.Proofs.SingleWrites
import WireSchema.Proofs.RecordMembers
import WireSchema.Proofs.DocumentLevels
import WireSchema.Proofs.DocumentEdits
import WireSchema.Proofs.AnnotatedLines
import WireSchema.Proofs.LineBreaks
import WireSchema.Proofs.BindingFailures
import WireSchema.Proofs.FieldChecks
import WireSchema.Proofs.SourceLines
import WireSchema.Proofs.LayoutLines
import WireSchema.Proofs.WireLayouts
import WireSchema.Proofs.ConstantLists
import WireSchema.Proofs.OrdinalLookup
import WireSchema.Proofs.ReferenceKinds
import WireSchema.Proofs.MemberClashes
import WireSchema.Proofs.FallbackWarnings
import WireSchema.Proofs.ScaleLiterals
import WireSchema.Proofs.IndexScan
