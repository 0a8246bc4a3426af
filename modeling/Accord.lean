import Accord.Proofs.Json.Grammar
import Accord.Proofs.Text.Characters
import Accord.Text.Quoted
import Accord.Text.CaseMap
import Accord.Double.Format
import Accord.Double.Basic
import Accord.Double.Printer
import Accord.Double.Reader
import Accord.Json.Basic
import Accord.Json.Reader
import Accord.Json.Writer
import Accord.Text.Base64
import Accord.Primitive.SafeLong
import Accord.Primitive.Scalar
import Accord.Primitive.Uuid
import Accord.Primitive.ResourceId
import Accord.Primitive.BearerToken
import Accord.Primitive.Timestamp
import Accord.Size
import Accord.Pattern.Basic
import Accord.Pattern.Reader
import Accord.Text.Percent
import Accord.Path.Template
import Accord.Service.Error
import Accord.Fault
import Accord.Json.Schema
import Accord.Contract.Basic
import Accord.Contract.Reader
import Accord.Wire.Basic
import Accord.Wire.Plain
import Accord.Wire.Receive
import Accord.Wire.Json
import Accord.Wire.Object
import Accord.Wire.Binary
import Accord.Contract.Check
import Accord.Contract.Lookup
import Accord.Graph
import Accord.Path.Clean
import Accord.Source.Identifier
import Accord.Source.Scope
import Accord.Source.Package
import Accord.Source.Syntax
import Accord.Source.Import
import Accord.Source.Printer
import Accord.Emit.Resolver
import Accord.Emit.Basic
import Accord.Emit.Object
import Accord.Emit.Union
import Accord.Emit.Enum
import Accord.Emit.Alias
import Accord.Emit.Error
import Accord.Emit.Service
import Accord.Generate
import Accord.Contract.Load
import Accord.Log
import Accord.Http.Header
import Accord.Http.Cookie
import Accord.Http.Query
import Accord.Http.Form
import Accord.Service.Envelope
import Accord.Service.Payload
import Accord.Service.Request
import Accord.Service.Incoming
import Accord.Service.Serve
import Accord.Service.Mux
import Accord.Service.Logging
import Accord.Service.Recorder
import Accord.Validation
import Accord.Catalog.Genre
import Accord.Catalog.Book
import Accord.Catalog.Media
import Accord.Catalog.BookNotFound
import Accord.Catalog.Service
import Accord.Catalog.Shelf
import Accord.Service.Probe
import Accord.Contract.Outline
import Accord.Output.Sink
import Accord.Output.Memory
import Accord.Output.Staging
import Accord.Output.FileTree
import Accord.SemanticVersion
import Accord.Settings.Basic
import Accord.Settings.Check
import Accord.Yaml.Basic
import Accord.Yaml.Reader
import Accord.Toml.Basic
import Accord.Toml.Syntax
import Accord.Toml.Document
import Accord.Settings.Load
import Accord.Manifest
import Accord.Run
import Accord.Command
import Accord.Arguments
import Accord.Main
import Accord.Proofs.Text.Escapes
import Accord.Proofs.Outcome
import Accord.Proofs.Path.RoundTrip
import Accord.Proofs.Graph.Walk
import Accord.Proofs.Graph.Components
import Accord.Proofs.Emit.Containment
import Accord.Proofs.Emit.FiniteSize
import Accord.Proofs.Emit.AliasChains
import Accord.Proofs.Service.Precedence
import Accord.Proofs.Text.Entries
import Accord.Proofs.Source.Scope
import Accord.Proofs.Text.Decimal
import Accord.Proofs.Emit.Declarations
import Accord.Proofs.Contract.Names
import Accord.Proofs.Generate.Paths
import Accord.Proofs.Generate.Completeness
import Accord.Proofs.Text.Utf8
import Accord.Proofs.Json.Strings
import Accord.Proofs.Json.Values
import Accord.Proofs.Double.Rounding
import Accord.Proofs.Double.Shortest
import Accord.Proofs.Double.Spelling
import Accord.Proofs.Json.Numbers
import Accord.Proofs.Primitive.Uuid
import Accord.Proofs.Service.Calls
import Accord.Proofs.Service.Arguments
import Accord.Proofs.Service.Envelope
import Accord.Proofs.Catalog.Routes
import Accord.Proofs.Catalog.Books
import Accord.Proofs.Catalog.Transparency
import Accord.Proofs.Json.Escapes
import Accord.Proofs.Json.Compact
import Accord.Proofs.Catalog.Records
import Accord.Proofs.Catalog.Variants
import Accord.Proofs.Json.Untyped
import Accord.Proofs.Service.Classification
import Accord.Proofs.Catalog.Delivery
import Accord.Proofs.Text.Order
import Accord.Proofs.Contract.Rules
import Accord.Proofs.Emit.References
import Accord.Proofs.Contract.Reordering
import Accord.Proofs.Emit.Lookups
import Accord.Proofs.Generate.Reordering
import Accord.Proofs.Output.Staging
import Accord.Proofs.Run.Failure
import Accord.Proofs.History
import Accord.Proofs.Path.Canonical
import Accord.Proofs.Service.Registration
import Accord.Proofs.Output.Buffer
import Accord.Proofs.Source.Identifiers
import Accord.Proofs.Source.FileNames
import Accord.Proofs.Output.Usable
import Accord.Proofs.Generate.Files
import Accord.Proofs.Run.Paths
import Accord.Proofs.Generate.ImportCycles
import Accord.Proofs.Output.Targets
import Accord.Proofs.Path.Grammar
import Accord.Proofs.Path.Printing
import Accord.Proofs.Output.Replacing
import Accord.Proofs.Output.HandWritten
import Accord.Proofs.Contract.Encoding
import Accord.Proofs.Contract.Decoding
import Accord.Proofs.Emit.Absence
import Accord.Proofs.Emit.Fields
import Accord.Proofs.Emit.Omission
import Accord.Proofs.Emit.TypeShapes
import Accord.Proofs.Emit.Boxing
import Accord.Proofs.Contract.Reading
import Accord.Proofs.Wire.Reader
import Accord.Proofs.Wire.Writer
import Accord.Proofs.Double.Decimals
import Accord.Proofs.Primitive.SafeLong
import Accord.Proofs.Size
import Accord.Proofs.Primitive.ResourceId
import Accord.Proofs.Text.Base64
import Accord.Proofs.Primitive.Binary
import Accord.Proofs.Primitive.Calendar
import Accord.Proofs.Primitive.Timestamp
import Accord.Proofs.Primitive.Rereading
import Accord.Proofs.Wire.Plain
import Accord.Proofs.Output.Roots
import Accord.Proofs.Service.Credentials
import Accord.Proofs.Wire.Destination
import Accord.Proofs.Service.Refusals
import Accord.Proofs.Service.TieBreak
import Accord.Proofs.Source.Legality
import Accord.Proofs.Source.Packages
