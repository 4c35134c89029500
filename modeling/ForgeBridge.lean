import ForgeBridge.CommandLine.Exit
import ForgeBridge.CommandLine.Options
import ForgeBridge.CommandLine.Parser
import ForgeBridge.Config.Basic
import ForgeBridge.Config.Error
import ForgeBridge.Config.Load
import ForgeBridge.Config.Overrides
import ForgeBridge.Delivery
import ForgeBridge.Digest.Hmac
import ForgeBridge.Digest.Sha1
import ForgeBridge.Digest.Sha256
import ForgeBridge.Digest.Words
import ForgeBridge.Expansion
import ForgeBridge.Homeserver
import ForgeBridge.Http.MediaType
import ForgeBridge.Http.Message
import ForgeBridge.Http.Routes
import ForgeBridge.Http.Target
import ForgeBridge.Json.Failure
import ForgeBridge.Json.Printer
import ForgeBridge.Json.Reader
import ForgeBridge.Json.Scalar
import ForgeBridge.Json.Skip
import ForgeBridge.Keyed
import ForgeBridge.Log
import ForgeBridge.Log.Filter
import ForgeBridge.Log.Line
import ForgeBridge.Main
import ForgeBridge.Message
import ForgeBridge.Net.Ipv4
import ForgeBridge.Net.Ipv6
import ForgeBridge.Net.Request
import ForgeBridge.Net.SocketAddress
import ForgeBridge.Net.Uri
import ForgeBridge.Numeric.Binary64
import ForgeBridge.Numeric.Shortest
import ForgeBridge.Reference
import ForgeBridge.Routing
import ForgeBridge.Service.Basic
import ForgeBridge.Service.Live
import ForgeBridge.Service.Registry
import ForgeBridge.Service.Shared
import ForgeBridge.Shape
import ForgeBridge.Startup
import ForgeBridge.Subscriptions
import ForgeBridge.Text.Ascii
import ForgeBridge.Text.CodeRanges
import ForgeBridge.Text.Hex
import ForgeBridge.Text.Pieces
import ForgeBridge.Text.Position
import ForgeBridge.Text.Quoted
import ForgeBridge.Text.Similarity
import ForgeBridge.Text.Unprintable
import ForgeBridge.Toml.Decode
import ForgeBridge.Toml.Document
import ForgeBridge.Toml.Item
import ForgeBridge.Toml.Numbers
import ForgeBridge.Toml.Parser
import ForgeBridge.Toml.Strings
import ForgeBridge.Toml.Times
import ForgeBridge.Toml.Value
import ForgeBridge.Tracker.Breaker
import ForgeBridge.Tracker.Cache
import ForgeBridge.Tracker.Client
import ForgeBridge.Tracker.Resolution
import ForgeBridge.Tracker.Session
import ForgeBridge.Url.Domain
import ForgeBridge.Url.Host
import ForgeBridge.Url.Idna.Allowed
import ForgeBridge.Url.Idna.Composites
import ForgeBridge.Url.Idna.Direction
import ForgeBridge.Url.Idna.Joiners
import ForgeBridge.Url.Idna.Mapping
import ForgeBridge.Url.Idna.Marks
import ForgeBridge.Url.Idna.Normal
import ForgeBridge.Url.Idna.Replacements
import ForgeBridge.Url.Parser
import ForgeBridge.Url.Path
import ForgeBridge.Url.Percent
import ForgeBridge.Url.Punycode
import ForgeBridge.Webhook.Event
import ForgeBridge.Webhook.Payload
import ForgeBridge.Webhook.Request
import ForgeBridge.Webhook.Signature
import ForgeBridge.Proofs.BreakerHistory
import ForgeBridge.Proofs.SessionHistory
import ForgeBridge.Proofs.FrontRuns
import ForgeBridge.Proofs.WebAddress
import ForgeBridge.Proofs.HostTexts
import ForgeBridge.Proofs.NamedPaths
import ForgeBridge.Proofs.RequestAddresses
import ForgeBridge.Proofs.Admission
import ForgeBridge.Proofs.OpenPeriod
import ForgeBridge.Proofs.SerialFetches
import ForgeBridge.Proofs.CachedAnswers
import ForgeBridge.Proofs.TextBytes
import ForgeBridge.Proofs.Passes
import ForgeBridge.Proofs.SignedRequests
import ForgeBridge.Proofs.WebhookAnswers
import ForgeBridge.Proofs.SignatureHeaders
import ForgeBridge.Proofs.AcceptedConfigs
import ForgeBridge.Proofs.Registrations
import ForgeBridge.Proofs.HomeserverPaths
import ForgeBridge.Proofs.TableSwaps
import ForgeBridge.Proofs.SharedSteps
import ForgeBridge.Proofs.RegistryAnswers
import ForgeBridge.Proofs.RegistryHistory
import ForgeBridge.Proofs.PathSegments
import ForgeBridge.Proofs.MessageAddresses
import ForgeBridge.Proofs.ReferenceWords
import ForgeBridge.Proofs.ReferenceTexts
import ForgeBridge.Proofs.ExpansionFilter
import ForgeBridge.Proofs.CacheOrder
import ForgeBridge.Proofs.IssueAddresses
import ForgeBridge.Proofs.JsonTexts
import ForgeBridge.Proofs.JsonSkipping
import ForgeBridge.Proofs.JsonReading
import ForgeBridge.Proofs.JsonShapes
import ForgeBridge.Proofs.JsonWriting
import ForgeBridge.Proofs.Notices
import ForgeBridge.Proofs.ExpansionAnswers
import ForgeBridge.Proofs.DeliveryOrders
import ForgeBridge.Proofs.TableChanges
import ForgeBridge.Proofs.LoadedConfigs
import ForgeBridge.Proofs.TomlTexts
import ForgeBridge.Proofs.TomlParsers
import ForgeBridge.Proofs.TomlStrings
import ForgeBridge.Proofs.TomlTables
import ForgeBridge.Proofs.TomlWriting
import ForgeBridge.Proofs.TableTexts
import ForgeBridge.Proofs.ListenAddresses
import ForgeBridge.Proofs.MessageTexts
import ForgeBridge.Proofs.TextPositions
