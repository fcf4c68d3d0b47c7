import ChannelSerde.Build.Basic
import ChannelSerde.Calendar
import ChannelSerde.Channel.Basic
import ChannelSerde.Channel.Finding
import ChannelSerde.Channel.RegistryUrl
import ChannelSerde.Channel.SerdeLayer
import ChannelSerde.Config.Basic
import ChannelSerde.Config.DottedKeys
import ChannelSerde.Config.File
import ChannelSerde.Config.Properties
import ChannelSerde.Config.Source
import ChannelSerde.Decimal.Binary64
import ChannelSerde.Decimal.Numeral
import ChannelSerde.Decimal.Shortest
import ChannelSerde.Declaration.Conversion
import ChannelSerde.Declaration.Index
import ChannelSerde.Declaration.Payload
import ChannelSerde.Declaration.Site
import ChannelSerde.Declaration.TypeRef
import ChannelSerde.DevService.ContainerSpec
import ChannelSerde.DevService.Failure
import ChannelSerde.DevService.Readiness
import ChannelSerde.DevService.Running
import ChannelSerde.DevService.Runtime
import ChannelSerde.DevService.Snapshot
import ChannelSerde.Document.Fault
import ChannelSerde.Document.Json
import ChannelSerde.Document.Yaml.Base64
import ChannelSerde.Document.Yaml.Basic
import ChannelSerde.Document.Yaml.Cursor
import ChannelSerde.Document.Yaml.Layout
import ChannelSerde.Document.Yaml.Node
import ChannelSerde.Document.Yaml.Scalar.Block
import ChannelSerde.Document.Yaml.Scalar.Plain
import ChannelSerde.Document.Yaml.Scalar.Quoted
import ChannelSerde.Document.Yaml.Tag
import ChannelSerde.Document.Yaml.Token
import ChannelSerde.Log.BuildId
import ChannelSerde.Log.Record
import ChannelSerde.Log.Setup
import ChannelSerde.OrderedMap
import ChannelSerde.Program.Basic
import ChannelSerde.Program.ClassDef
import ChannelSerde.Program.Hint
import ChannelSerde.Program.Index
import ChannelSerde.Program.Standard
import ChannelSerde.Settings.DevServices
import ChannelSerde.Settings.Duration
import ChannelSerde.Settings.Field
import ChannelSerde.Settings.LaunchMode
import ChannelSerde.Settings.LibraryRules
import ChannelSerde.Settings.Serde
import ChannelSerde.Settings.TextRules
import ChannelSerde.Text.Blank
import ChannelSerde.Text.Digit
import ChannelSerde.Text.LowerCase
import ChannelSerde.Text.LowerCase.Table
import ChannelSerde.Text.Order
import ChannelSerde.Text.Printable
import ChannelSerde.Text.Quoted
import ChannelSerde.Value
import ChannelSerde.Proofs.Build.Address
import ChannelSerde.Proofs.Build.AsConfigured
import ChannelSerde.Proofs.Build.ControlKeys
import ChannelSerde.Proofs.Build.Ends
import ChannelSerde.Proofs.Build.MissingAddress
import ChannelSerde.Proofs.Build.OwnSources
import ChannelSerde.Proofs.Build.Precedence
import ChannelSerde.Proofs.Build.Reachable
import ChannelSerde.Proofs.Build.Rebuild
import ChannelSerde.Proofs.Build.Session
import ChannelSerde.Proofs.Channel.Announcements
import ChannelSerde.Proofs.Channel.Converted
import ChannelSerde.Proofs.Channel.Detection
import ChannelSerde.Proofs.Channel.KeyCount
import ChannelSerde.Proofs.Channel.Keys
import ChannelSerde.Proofs.Channel.LargerIndex
import ChannelSerde.Proofs.Channel.OwnAddress
import ChannelSerde.Proofs.Channel.Unkept
import ChannelSerde.Proofs.Config.Formats
import ChannelSerde.Proofs.Config.Leaves
import ChannelSerde.Proofs.Config.Listing
import ChannelSerde.Proofs.Config.PropertyLines
import ChannelSerde.Proofs.Config.Ranking
import ChannelSerde.Proofs.Config.Resolution
import ChannelSerde.Proofs.Config.Under
import ChannelSerde.Proofs.Declaration.Contents
import ChannelSerde.Proofs.Declaration.ConvertedMarkers
import ChannelSerde.Proofs.Declaration.Edits
import ChannelSerde.Proofs.Declaration.PlainMarkers
import ChannelSerde.Proofs.Declaration.Shelf
import ChannelSerde.Proofs.Declaration.SiteMarkers
import ChannelSerde.Proofs.Declaration.Structured
import ChannelSerde.Proofs.DevService.Containers
import ChannelSerde.Proofs.DevService.Creation
import ChannelSerde.Proofs.DevService.Demand
import ChannelSerde.Proofs.DevService.Failures
import ChannelSerde.Proofs.DevService.Held
import ChannelSerde.Proofs.DevService.History
import ChannelSerde.Proofs.DevService.Kept
import ChannelSerde.Proofs.DevService.Start
import ChannelSerde.Proofs.DevService.Waiting
import ChannelSerde.Proofs.Program.Arguments
import ChannelSerde.Proofs.Program.Classified
import ChannelSerde.Proofs.Program.Enrolled
import ChannelSerde.Proofs.Program.Lineage
import ChannelSerde.Proofs.Program.Recall
import ChannelSerde.Proofs.Program.Targets
import ChannelSerde.Proofs.Settings.Accepted
import ChannelSerde.Proofs.Settings.Alike
import ChannelSerde.Proofs.Settings.Amount
import ChannelSerde.Proofs.Settings.Refused
import ChannelSerde.Proofs.Text.Lines
