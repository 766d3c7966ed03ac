import NativeScript.Config
import NativeScript.Conversion
import NativeScript.Engine.PropertyHint
import NativeScript.Engine.PropertyUsage
import NativeScript.Engine.RpcMode
import NativeScript.Engine.Tag
import NativeScript.Engine.Variant
import NativeScript.Engine.VariantType
import NativeScript.Entry.Class
import NativeScript.Entry.Member
import NativeScript.Entry.Name
import NativeScript.Kind.Basic
import NativeScript.Kind.OfType
import NativeScript.Kind.Reader
import NativeScript.Native.Callback
import NativeScript.Native.Class
import NativeScript.Native.Error
import NativeScript.Native.Instances
import NativeScript.Native.OfEntry
import NativeScript.Native.Property
import NativeScript.Native.Session
import NativeScript.Registry
import NativeScript.Report
import NativeScript.Scan.Basic
import NativeScript.Scan.Declaration
import NativeScript.Scan.Error
import NativeScript.Scan.Event
import NativeScript.Scan.FieldTags
import NativeScript.Scan.Marker
import NativeScript.Scan.Member
import NativeScript.Scan.Package
import NativeScript.Scan.Shape
import NativeScript.Scan.SignalLiteral
import NativeScript.Scan.TagKey
import NativeScript.Source.Cursor
import NativeScript.Source.Grammar.Basic
import NativeScript.Source.Grammar.Expr
import NativeScript.Source.Grammar.Item
import NativeScript.Source.Grammar.Pattern
import NativeScript.Source.Grammar.Statement
import NativeScript.Source.Grammar.Type
import NativeScript.Source.Lexer
import NativeScript.Source.Literal
import NativeScript.Source.Reader
import NativeScript.Source.Token
import NativeScript.Source.Tree
import NativeScript.SourceSet
import NativeScript.Text.Blank
import NativeScript.Text.CodePoints
import NativeScript.Text.Fold
import NativeScript.Text.Identifier
import NativeScript.Text.Lead
import NativeScript.Text.LetterCase
import NativeScript.Text.Printable
import NativeScript.Text.Quoted
import NativeScript.Proofs.Outcome
import NativeScript.Proofs.Marker
import NativeScript.Proofs.FieldTags
import NativeScript.Proofs.Shape
import NativeScript.Proofs.Member
import NativeScript.Proofs.Contents
import NativeScript.Proofs.Property
import NativeScript.Proofs.Discovery
import NativeScript.Proofs.Acceptance
import NativeScript.Proofs.UnitOrder
import NativeScript.Proofs.Layout
import NativeScript.Proofs.Isolation
import NativeScript.Proofs.Kind.Grammar
import NativeScript.Proofs.Kind.Canonical
import NativeScript.Proofs.Kind.OfType
import NativeScript.Proofs.RecordedKinds
import NativeScript.Proofs.Lifecycle
import NativeScript.Proofs.Spelling
import NativeScript.Proofs.Tag
import NativeScript.Proofs.Registration
import NativeScript.Proofs.InOrder
import NativeScript.Proofs.Address
import NativeScript.Proofs.Placement
import NativeScript.Proofs.Warns
import NativeScript.Proofs.Warning
import NativeScript.Proofs.Signal
import NativeScript.Proofs.Exposure
import NativeScript.Proofs.Signature
import NativeScript.Proofs.Registry.Growth
import NativeScript.Proofs.Registry.Index
import NativeScript.Proofs.Registry.Run
import NativeScript.Proofs.MemberTypes
import NativeScript.Proofs.SelfReference
import NativeScript.Proofs.BindingSpace
import NativeScript.Proofs.SignalPath
import NativeScript.Proofs.Fault
import NativeScript.Proofs.MarkerGrammar
import NativeScript.Proofs.LifecycleGrammar
import NativeScript.Proofs.TagFault
import NativeScript.Proofs.TagMerging
import NativeScript.Proofs.TagValues
import NativeScript.Proofs.Diagnosis
import NativeScript.Proofs.EngineName
import NativeScript.Proofs.LetterCase
import NativeScript.Proofs.Bytes
import NativeScript.Proofs.Directory
import NativeScript.Proofs.SnakeCase
import NativeScript.Proofs.HookName
import NativeScript.Proofs.RawName
import NativeScript.Proofs.RespelledMembers
import NativeScript.Proofs.Respelling
import NativeScript.Proofs.ScalarBoxing
import NativeScript.Proofs.DeclaredType
import NativeScript.Proofs.Native.Latest
import NativeScript.Proofs.Native.Enrolment
import NativeScript.Proofs.Native.Instances
import NativeScript.Proofs.Native.Living
import NativeScript.Proofs.Native.Stock
import NativeScript.Proofs.Native.Slots
