import DataShelf.Calendar.Date
import DataShelf.Calendar.Instant
import DataShelf.Catalog.Basic
import DataShelf.Catalog.Discovery
import DataShelf.Catalog.Error
import DataShelf.Catalog.Manifest
import DataShelf.Catalog.NameMap
import DataShelf.Catalog.Project
import DataShelf.Catalog.Scan
import DataShelf.Catalog.Schema
import DataShelf.Catalog.Table
import DataShelf.Catalog.TableKind
import DataShelf.CommandLine.Error
import DataShelf.CommandLine.Failure
import DataShelf.CommandLine.Grammar
import DataShelf.CommandLine.Grid
import DataShelf.CommandLine.Invocation
import DataShelf.CommandLine.Level
import DataShelf.CommandLine.Run
import DataShelf.CommandLine.Similarity
import DataShelf.CommandLine.Usage
import DataShelf.Engine.Basic
import DataShelf.Engine.Script
import DataShelf.Files.Path
import DataShelf.Files.Tree
import DataShelf.Files.Walk
import DataShelf.Fixture
import DataShelf.Home
import DataShelf.Json.Basic
import DataShelf.Json.Decoder
import DataShelf.Json.Error
import DataShelf.Json.Reader
import DataShelf.Json.Skip
import DataShelf.Json.Writer
import DataShelf.Main
import DataShelf.Number.Double
import DataShelf.Number.Natural
import DataShelf.Number.Shortest
import DataShelf.Proofs.Backing
import DataShelf.Proofs.CatalogInvariant
import DataShelf.Proofs.CatalogTables
import DataShelf.Proofs.Declarations
import DataShelf.Proofs.DeclaredTables
import DataShelf.Proofs.DirectoryTables
import DataShelf.Proofs.FileNames
import DataShelf.Proofs.Following
import DataShelf.Proofs.NameMap
import DataShelf.Proofs.ObjectKeys
import DataShelf.Proofs.Ownership
import DataShelf.Proofs.PathParts
import DataShelf.Proofs.Registration
import DataShelf.Proofs.Removal
import DataShelf.Proofs.RenderedPaths
import DataShelf.Proofs.RenderedProjects
import DataShelf.Proofs.ScriptTables
import DataShelf.Proofs.SessionTrace
import DataShelf.Proofs.SourceMaps
import DataShelf.Proofs.StatementQuoting
import DataShelf.Proofs.Tokens
import DataShelf.Proofs.ToolCalls
import DataShelf.Proofs.Trace
import DataShelf.Proofs.TreeChanges
import DataShelf.Proofs.ViewOwnership
import DataShelf.Proofs.WalkOrder
import DataShelf.Proofs.Walking
import DataShelf.Query.Connection
import DataShelf.Query.Error
import DataShelf.Query.Gateway
import DataShelf.Query.Row
import DataShelf.Query.Session
import DataShelf.Query.Value
import DataShelf.Query.View
import DataShelf.Rpc.Request
import DataShelf.Rpc.Response
import DataShelf.Server.Budget
import DataShelf.Server.Handler
import DataShelf.Server.Loop
import DataShelf.Server.ResourceUri
import DataShelf.Server.Resources
import DataShelf.Server.Tool
import DataShelf.Server.ToolError
import DataShelf.Sql.Quoted
import DataShelf.Text.Base64
import DataShelf.Text.Blank
import DataShelf.Text.Fingerprint
import DataShelf.Text.Hex
import DataShelf.Text.Percent
import DataShelf.Text.Quoted
import DataShelf.Text.Unprintable
import DataShelf.Text.Utf8
import DataShelf.Text.Width
import DataShelf.Trace
import DataShelf.Wire.Content
import DataShelf.Wire.Handshake
import DataShelf.Wire.Resource
import DataShelf.Wire.Tool
import DataShelf.Proofs.Fallback
import DataShelf.Proofs.Lines
import DataShelf.Proofs.Serving
import DataShelf.Proofs.Independence
import DataShelf.Proofs.ReadBack
import DataShelf.Proofs.BadLines
import DataShelf.Proofs.Responses
import DataShelf.Proofs.Framing
import DataShelf.Proofs.PercentCoding
import DataShelf.Proofs.ResourceAddresses
import DataShelf.Proofs.WideText
import DataShelf.Proofs.Notifications
import DataShelf.Proofs.PreviewViews
import DataShelf.Proofs.ListedResources
import DataShelf.Proofs.FullWriter
import DataShelf.Proofs.Refusals
import DataShelf.Proofs.QueryWays
import DataShelf.Proofs.DrawnGrids
import DataShelf.Proofs.Listings
import DataShelf.Proofs.WireFormats
import DataShelf.Proofs.PathsBelow
import DataShelf.Proofs.Confinement
import DataShelf.Proofs.SchemaChanges
import DataShelf.Proofs.Remainders
import DataShelf.Proofs.Verbatim
import DataShelf.Proofs.TextDecoding
import DataShelf.Proofs.SchemaFields
import DataShelf.Proofs.DescribedTables
import DataShelf.Proofs.ScriptBodies
import DataShelf.Proofs.Counts
import DataShelf.Proofs.CellValues
import DataShelf.Proofs.CompleteResults
import DataShelf.Proofs.RecordColumns
import DataShelf.Proofs.IntegerCells
import DataShelf.Proofs.CivilDates
import DataShelf.Proofs.CalendarTexts
import DataShelf.Proofs.TimesOfDay
import DataShelf.Proofs.DatesAndInstants
import DataShelf.Proofs.ResultBudget
import DataShelf.Proofs.RequestShapes
import DataShelf.Proofs.ShownViews
import DataShelf.Proofs.LongPaths
import DataShelf.Proofs.FoundFiles
import DataShelf.Proofs.TreeGrowth
import DataShelf.Proofs.WritesBelow
import DataShelf.Proofs.FixtureFiles
import DataShelf.Proofs.SingleTable
import DataShelf.Proofs.FixtureTables
