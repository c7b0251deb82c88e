import MetricIntake.Cache
import MetricIntake.CertificateCheck
import MetricIntake.Clock
import MetricIntake.Double.Arith
import MetricIntake.Double.Basic
import MetricIntake.Double.Decimal
import MetricIntake.Double.Display
import MetricIntake.Double.Nearest
import MetricIntake.Fault
import MetricIntake.Intake.Batch
import MetricIntake.Intake.Resolution
import MetricIntake.Intake.State
import MetricIntake.IpAddress
import MetricIntake.Json.Basic
import MetricIntake.Json.Bytes
import MetricIntake.Json.Reader
import MetricIntake.Json.Writer
import MetricIntake.Log
import MetricIntake.LogSetup
import MetricIntake.Metrics
import MetricIntake.Named
import MetricIntake.Numeral
import MetricIntake.Numeral.AnyScript
import MetricIntake.Numeral.Digits
import MetricIntake.Proofs.AcceptedNumbers
import MetricIntake.Proofs.Accounting
import MetricIntake.Proofs.Addresses
import MetricIntake.Proofs.Alike
import MetricIntake.Proofs.Answers
import MetricIntake.Proofs.Batching
import MetricIntake.Proofs.Bindings
import MetricIntake.Proofs.CacheWrites
import MetricIntake.Proofs.Calendar
import MetricIntake.Proofs.Chain
import MetricIntake.Proofs.Connections
import MetricIntake.Proofs.Defaults
import MetricIntake.Proofs.Durations
import MetricIntake.Proofs.EndpointFailures
import MetricIntake.Proofs.Fetch
import MetricIntake.Proofs.Grouping
import MetricIntake.Proofs.Instants
import MetricIntake.Proofs.Jobs
import MetricIntake.Proofs.JsonLimits
import MetricIntake.Proofs.JsonSpelling
import MetricIntake.Proofs.JsonText
import MetricIntake.Proofs.Judgements
import MetricIntake.Proofs.KeptSamples
import MetricIntake.Proofs.NearestDouble
import MetricIntake.Proofs.NumberForms
import MetricIntake.Proofs.NumeralGrammar
import MetricIntake.Proofs.Numerals
import MetricIntake.Proofs.OneIntake
import MetricIntake.Proofs.Outage
import MetricIntake.Proofs.Ownership
import MetricIntake.Proofs.Past
import MetricIntake.Proofs.PercentCodes
import MetricIntake.Proofs.PlainNumbers
import MetricIntake.Proofs.Provenance
import MetricIntake.Proofs.Quiescence
import MetricIntake.Proofs.Raising
import MetricIntake.Proofs.Remembering
import MetricIntake.Proofs.Replay
import MetricIntake.Proofs.Replies
import MetricIntake.Proofs.ReplyBodies
import MetricIntake.Proofs.Reports
import MetricIntake.Proofs.RequestEffects
import MetricIntake.Proofs.Resets
import MetricIntake.Proofs.Rounding
import MetricIntake.Proofs.Rows
import MetricIntake.Proofs.Run
import MetricIntake.Proofs.Said
import MetricIntake.Proofs.SampleUrls
import MetricIntake.Proofs.Scripted
import MetricIntake.Proofs.Separation
import MetricIntake.Proofs.Sharing
import MetricIntake.Proofs.SignalChains
import MetricIntake.Proofs.StoreKeys
import MetricIntake.Proofs.Summaries
import MetricIntake.Proofs.SummaryTexts
import MetricIntake.Proofs.Timers
import MetricIntake.Proofs.Times
import MetricIntake.Proofs.UnreadableEntries
import MetricIntake.Proofs.Utf8
import MetricIntake.Proofs.View
import MetricIntake.Proofs.Visit
import MetricIntake.Queue
import MetricIntake.Reading
import MetricIntake.Registry
import MetricIntake.Request
import MetricIntake.Sample
import MetricIntake.Settings.Basic
import MetricIntake.Settings.Dotenv
import MetricIntake.Settings.Layers
import MetricIntake.Shutdown
import MetricIntake.Signals
import MetricIntake.Source.Basic
import MetricIntake.Source.Endpoint
import MetricIntake.Source.Fixed
import MetricIntake.Source.Resolver
import MetricIntake.Store
import MetricIntake.StoreAddress
import MetricIntake.Text.Blank
import MetricIntake.Text.Case
import MetricIntake.Text.Cased
import MetricIntake.Text.CodePoint
import MetricIntake.Text.Digit
import MetricIntake.Text.Hex
import MetricIntake.Text.Percent
import MetricIntake.Text.Printable
import MetricIntake.Text.Quoted
import MetricIntake.Text.Ranges
import MetricIntake.Text.Split
import MetricIntake.Text.Utf8
import MetricIntake.Text.Wide
import MetricIntake.Time.Calendar
import MetricIntake.Time.Reader
import MetricIntake.Time.UtcTime
import MetricIntake.Url
import MetricIntake.Validation.FieldError
import MetricIntake.Validation.Lax
import MetricIntake.Worker
