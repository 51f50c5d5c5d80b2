import NetworkTuning.AgentConfig
import NetworkTuning.Collection
import NetworkTuning.Command.Applier
import NetworkTuning.Command.Basic
import NetworkTuning.Command.Shell
import NetworkTuning.Command.System
import NetworkTuning.Console.Grid
import NetworkTuning.Console.Ink
import NetworkTuning.Console.Page
import NetworkTuning.Decimal.Binary
import NetworkTuning.Decimal.Fixed
import NetworkTuning.Decimal.Natural
import NetworkTuning.Decimal.Reading
import NetworkTuning.Decimal.Shortest
import NetworkTuning.Event
import NetworkTuning.FileTree.Basic
import NetworkTuning.FileTree.Path
import NetworkTuning.Health
import NetworkTuning.Inference.Basic
import NetworkTuning.Inference.Controller
import NetworkTuning.Json.Number
import NetworkTuning.Json.Printer
import NetworkTuning.Json.Reader
import NetworkTuning.Json.Value
import NetworkTuning.Load.Basic
import NetworkTuning.Load.Logarithm
import NetworkTuning.Load.Tolerance
import NetworkTuning.Lookup
import NetworkTuning.Main
import NetworkTuning.Metrics
import NetworkTuning.Profile.Basic
import NetworkTuning.Profile.Column
import NetworkTuning.Random.Draws
import NetworkTuning.Schedule
import NetworkTuning.Session.Basic
import NetworkTuning.Session.Plugin
import NetworkTuning.Session.Run
import NetworkTuning.Settings.Basic
import NetworkTuning.Settings.Entry
import NetworkTuning.Settings.KeyPath
import NetworkTuning.Settings.Labels
import NetworkTuning.Settings.Load
import NetworkTuning.Statistics.Card
import NetworkTuning.Statistics.Collector
import NetworkTuning.Statistics.Counters
import NetworkTuning.Statistics.Readings
import NetworkTuning.Statistics.Sampling
import NetworkTuning.Statistics.Source
import NetworkTuning.Table.Basic
import NetworkTuning.Table.Memory
import NetworkTuning.Table.Search
import NetworkTuning.Table.Synthesis
import NetworkTuning.TableFile.Basic
import NetworkTuning.TableFile.Row
import NetworkTuning.Text.Blank
import NetworkTuning.Text.Cased
import NetworkTuning.Text.Composition
import NetworkTuning.Text.Direction
import NetworkTuning.Text.Glyphless
import NetworkTuning.Text.Joining
import NetworkTuning.Text.Lowercase
import NetworkTuning.Text.Mark
import NetworkTuning.Text.Quoted
import NetworkTuning.Text.Ranges
import NetworkTuning.Text.Utf8
import NetworkTuning.Tool.Arguments
import NetworkTuning.Tool.Run
import NetworkTuning.Training.Basic
import NetworkTuning.Training.Live
import NetworkTuning.Training.Shared
import NetworkTuning.Training.Worker
import NetworkTuning.Web.Address
import NetworkTuning.Web.Client
import NetworkTuning.Web.Domain
import NetworkTuning.Web.Escape
import NetworkTuning.Web.Host
import NetworkTuning.Web.Punycode
import NetworkTuning.Web.Router
import NetworkTuning.Web.Spelling
import NetworkTuning.Wire.Profile
import NetworkTuning.Wire.Record
import NetworkTuning.Wire.Report
import NetworkTuning.Proofs.Table.Calls
import NetworkTuning.Proofs.Table.Search
import NetworkTuning.Proofs.Training.Step
import NetworkTuning.Proofs.Training.Team
import NetworkTuning.Proofs.Inference.HoldOff
import NetworkTuning.Proofs.Double.Nearest
import NetworkTuning.Proofs.Double.Value
import NetworkTuning.Proofs.Double.Arithmetic
import NetworkTuning.Proofs.Table.Completeness
import NetworkTuning.Proofs.Text.Pieces
import NetworkTuning.Proofs.Decimal.Digits
import NetworkTuning.Proofs.Decimal.Special
import NetworkTuning.Proofs.TableFile.Row
import NetworkTuning.Proofs.TableFile.Draft
import NetworkTuning.Proofs.TableFile.RoundTrip
import NetworkTuning.Proofs.FileTree.Moves
import NetworkTuning.Proofs.Training.Live
import NetworkTuning.Proofs.Session.Turns
import NetworkTuning.Proofs.Session.Opening
import NetworkTuning.Proofs.Session.Samplers
import NetworkTuning.Proofs.Double.Extremes
import NetworkTuning.Proofs.Load.Score
import NetworkTuning.Proofs.Inference.Steady
import NetworkTuning.Proofs.Command.Upgrades
import NetworkTuning.Proofs.Training.Choices
import NetworkTuning.Proofs.Decimal.Value
import NetworkTuning.Proofs.Settings.Duration
import NetworkTuning.Proofs.Settings.Validation
import NetworkTuning.Proofs.Table.Extremes
import NetworkTuning.Proofs.Training.KeyRange
import NetworkTuning.Proofs.Training.Observed
import NetworkTuning.Proofs.Training.Accounts
import NetworkTuning.Proofs.Inference.Accounts
import NetworkTuning.Proofs.Training.Patience
import NetworkTuning.Proofs.Training.Copies
import NetworkTuning.Proofs.Training.Snapshots
import NetworkTuning.Proofs.Inference.Lookup
import NetworkTuning.Proofs.Statistics.Published
import NetworkTuning.Proofs.TableFile.Collected
import NetworkTuning.Proofs.FileTree.Names
import NetworkTuning.Proofs.FileTree.Siblings
import NetworkTuning.Proofs.FileTree.Frame
import NetworkTuning.Proofs.Session.Reloads
import NetworkTuning.Proofs.Session.Inputs
import NetworkTuning.Proofs.Session.Snapshot
import NetworkTuning.Proofs.Text.Words
import NetworkTuning.Proofs.Command.Reapplied
import NetworkTuning.Proofs.Table.Between
import NetworkTuning.Proofs.Session.Applier
import NetworkTuning.Proofs.Wire.Record
import NetworkTuning.Proofs.Wire.Profile
import NetworkTuning.Proofs.Wire.Report
import NetworkTuning.Proofs.Double.Quotient
import NetworkTuning.Proofs.Web.Exchange
import NetworkTuning.Proofs.Double.Root
import NetworkTuning.Proofs.Double.Words
import NetworkTuning.Proofs.Load.Logarithm
import NetworkTuning.Proofs.Load.Tolerance
import NetworkTuning.Proofs.Profile.Sizes
import NetworkTuning.Proofs.Table.Consistency
import NetworkTuning.Proofs.Table.Path
import NetworkTuning.Proofs.Table.Recorded
import NetworkTuning.Proofs.Text.Parts
import NetworkTuning.Proofs.Decimal.Grammar
import NetworkTuning.Proofs.Decimal.Nearest
import NetworkTuning.Proofs.TableFile.Grammar
import NetworkTuning.Proofs.TableFile.Lines
import NetworkTuning.Proofs.TableFile.Loading
import NetworkTuning.Proofs.TableFile.Replacing
import NetworkTuning.Proofs.Table.Neighbour
import NetworkTuning.Proofs.Statistics.Counters
import NetworkTuning.Proofs.Statistics.Watermarks
import NetworkTuning.Proofs.Command.Carried
import NetworkTuning.Proofs.Command.Pasted
import NetworkTuning.Proofs.Statistics.Card
import NetworkTuning.Proofs.Table.Beside
import NetworkTuning.Proofs.Training.Watched
