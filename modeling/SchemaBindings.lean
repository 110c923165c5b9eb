import SchemaBindings.Command.Fault
import SchemaBindings.Command.Generate
import SchemaBindings.Command.Introspect
import SchemaBindings.Command.Outcome
import SchemaBindings.Command.Program
import SchemaBindings.Command.Scan
import SchemaBindings.Command.Value
import SchemaBindings.Comment
import SchemaBindings.Deflate.Container
import SchemaBindings.Deflate.Fault
import SchemaBindings.Deflate.Inflate
import SchemaBindings.Deflate.PrefixCode
import SchemaBindings.Domain.Direction
import SchemaBindings.Domain.Joining
import SchemaBindings.Domain.Label
import SchemaBindings.Domain.LabelTable
import SchemaBindings.Domain.Name
import SchemaBindings.Event
import SchemaBindings.Fetch.ContentCoding
import SchemaBindings.Fetch.ContentType
import SchemaBindings.Fetch.Header
import SchemaBindings.Fetch.Host
import SchemaBindings.Fetch.Percent
import SchemaBindings.Fetch.Query
import SchemaBindings.Fetch.Request
import SchemaBindings.Fetch.Response
import SchemaBindings.Fetch.Url
import SchemaBindings.Files.Replacement
import SchemaBindings.Files.Tree
import SchemaBindings.Generation
import SchemaBindings.Hook
import SchemaBindings.Input
import SchemaBindings.Introspection.Decode
import SchemaBindings.Introspection.Malformed
import SchemaBindings.Introspection.Shape
import SchemaBindings.Introspection.TextShape
import SchemaBindings.Json.Basic
import SchemaBindings.Json.Fault
import SchemaBindings.Json.Reader
import SchemaBindings.Json.Wide
import SchemaBindings.Json.WideReader
import SchemaBindings.Json.Writer
import SchemaBindings.Main
import SchemaBindings.Naming
import SchemaBindings.Number.Binary64
import SchemaBindings.Order.Dependency
import SchemaBindings.Order.Graph
import SchemaBindings.Order.Queue
import SchemaBindings.Proofs.Command.Generate
import SchemaBindings.Proofs.Command.Introspect
import SchemaBindings.Proofs.Comment
import SchemaBindings.Proofs.Comment.Padding
import SchemaBindings.Proofs.Except
import SchemaBindings.Proofs.Fetch.Reply
import SchemaBindings.Proofs.Fetch.Response
import SchemaBindings.Proofs.Files.Replacement
import SchemaBindings.Proofs.Files.Tree
import SchemaBindings.Proofs.First
import SchemaBindings.Proofs.Hook
import SchemaBindings.Proofs.Input
import SchemaBindings.Proofs.Introspection.Conformance
import SchemaBindings.Proofs.Introspection.Decoded
import SchemaBindings.Proofs.Introspection.EntryPoints
import SchemaBindings.Proofs.Introspection.Location
import SchemaBindings.Proofs.Introspection.LocationText
import SchemaBindings.Proofs.Introspection.Report
import SchemaBindings.Proofs.Introspection.Sound
import SchemaBindings.Proofs.Introspection.Spot
import SchemaBindings.Proofs.Introspection.TextShape
import SchemaBindings.Proofs.Introspection.Violation
import SchemaBindings.Proofs.Introspection.Written
import SchemaBindings.Proofs.Json.Digits
import SchemaBindings.Proofs.Json.Escape
import SchemaBindings.Proofs.Json.Keys
import SchemaBindings.Proofs.Json.Nesting
import SchemaBindings.Proofs.Json.Number
import SchemaBindings.Proofs.Json.Regular
import SchemaBindings.Proofs.Json.RoundTrip
import SchemaBindings.Proofs.Json.Wide
import SchemaBindings.Proofs.Json.WideReader
import SchemaBindings.Proofs.Naming.Boundary
import SchemaBindings.Proofs.Naming.Identifier
import SchemaBindings.Proofs.Naming.Member
import SchemaBindings.Proofs.Naming.Plain
import SchemaBindings.Proofs.Naming.Regular
import SchemaBindings.Proofs.Naming.Substitution
import SchemaBindings.Proofs.Naming.Table
import SchemaBindings.Proofs.Number.Rounding
import SchemaBindings.Proofs.Number.Shortest
import SchemaBindings.Proofs.Order.Arrival
import SchemaBindings.Proofs.Order.Counted
import SchemaBindings.Proofs.Order.Cycle
import SchemaBindings.Proofs.Order.Edges
import SchemaBindings.Proofs.Order.Graph
import SchemaBindings.Proofs.Order.Level
import SchemaBindings.Proofs.Order.Loop
import SchemaBindings.Proofs.Order.Payload
import SchemaBindings.Proofs.Order.Precedence
import SchemaBindings.Proofs.Order.Progress
import SchemaBindings.Proofs.Order.Restriction
import SchemaBindings.Proofs.Order.Skeleton
import SchemaBindings.Proofs.Order.Sorted
import SchemaBindings.Proofs.Order.Wrapping
import SchemaBindings.Proofs.Run
import SchemaBindings.Proofs.Schema.Display
import SchemaBindings.Proofs.Schema.Reference
import SchemaBindings.Proofs.Schema.Sound
import SchemaBindings.Proofs.Schema.Undescribed
import SchemaBindings.Proofs.Sdl.Depth
import SchemaBindings.Proofs.Sdl.Names
import SchemaBindings.Proofs.Sdl.Refusal
import SchemaBindings.Proofs.Sdl.Told
import SchemaBindings.Proofs.Source.Lexeme
import SchemaBindings.Proofs.Source.Lines
import SchemaBindings.Proofs.Source.Place
import SchemaBindings.Proofs.Source.Recognition
import SchemaBindings.Proofs.Source.Spelling
import SchemaBindings.Proofs.Template.Acceptance
import SchemaBindings.Proofs.Template.Binding
import SchemaBindings.Proofs.Template.Description
import SchemaBindings.Proofs.Template.EnumLines
import SchemaBindings.Proofs.Template.EnumTokens
import SchemaBindings.Proofs.Template.ModuleLines
import SchemaBindings.Proofs.Template.ModuleText
import SchemaBindings.Proofs.Template.Outcome
import SchemaBindings.Proofs.Template.Prelude
import SchemaBindings.Proofs.Template.Render
import SchemaBindings.Proofs.Text.Blank
import SchemaBindings.Proofs.Text.Case
import SchemaBindings.Proofs.Text.Indentation
import SchemaBindings.Proofs.Text.Line
import SchemaBindings.Proofs.Text.LineEnd
import SchemaBindings.Proofs.Text.Quoted
import SchemaBindings.Proofs.Text.Utf8
import SchemaBindings.Run
import SchemaBindings.Schema.Basic
import SchemaBindings.Schema.TypeRef
import SchemaBindings.Sdl.Declared
import SchemaBindings.Sdl.DefaultValue
import SchemaBindings.Sdl.Document
import SchemaBindings.Sdl.InputCycle
import SchemaBindings.Sdl.Introspection
import SchemaBindings.Sdl.LiteralText
import SchemaBindings.Sdl.Parser
import SchemaBindings.Sdl.Rules
import SchemaBindings.Sdl.SchemaProblem
import SchemaBindings.Sdl.Standard
import SchemaBindings.Sdl.StandardUse
import SchemaBindings.Sdl.Token
import SchemaBindings.Sdl.Validity
import SchemaBindings.Source.Expression
import SchemaBindings.Source.Interpolation
import SchemaBindings.Source.Pattern
import SchemaBindings.Source.Statement
import SchemaBindings.Source.Token
import SchemaBindings.Template.Basic
import SchemaBindings.Template.Builtin
import SchemaBindings.Template.Directory
import SchemaBindings.Template.Parse
import SchemaBindings.Text.BackslashForm
import SchemaBindings.Text.Base64
import SchemaBindings.Text.Blank
import SchemaBindings.Text.Case
import SchemaBindings.Text.CaseTable
import SchemaBindings.Text.Charset
import SchemaBindings.Text.CodePage
import SchemaBindings.Text.CodePoint
import SchemaBindings.Text.CodeRange
import SchemaBindings.Text.Composition
import SchemaBindings.Text.CompositionTable
import SchemaBindings.Text.EastAsian.Basic
import SchemaBindings.Text.EastAsian.Escaped
import SchemaBindings.Text.EastAsian.Front
import SchemaBindings.Text.EastAsian.HongKongTable
import SchemaBindings.Text.EastAsian.Japanese
import SchemaBindings.Text.EastAsian.JapaneseTable
import SchemaBindings.Text.EastAsian.Korean
import SchemaBindings.Text.EastAsian.KoreanTable
import SchemaBindings.Text.EastAsian.Simplified
import SchemaBindings.Text.EastAsian.SimplifiedTable
import SchemaBindings.Text.EastAsian.Traditional
import SchemaBindings.Text.EastAsian.TraditionalTable
import SchemaBindings.Text.EastAsian.WiderKanji
import SchemaBindings.Text.EastAsian.WiderKanjiTable
import SchemaBindings.Text.Encoding
import SchemaBindings.Text.Excerpt
import SchemaBindings.Text.Identifier
import SchemaBindings.Text.IdentifierTable
import SchemaBindings.Text.Line
import SchemaBindings.Text.MarkTable
import SchemaBindings.Text.Numeral
import SchemaBindings.Text.PrintableTable
import SchemaBindings.Text.Punycode
import SchemaBindings.Text.Quoted
import SchemaBindings.Text.Similarity
import SchemaBindings.Text.Split
import SchemaBindings.Text.Suggestion
import SchemaBindings.Text.Utf7
import SchemaBindings.Text.Utf8
