import OpcodeTable.Address
import OpcodeTable.Asker
import OpcodeTable.Batch
import OpcodeTable.Broker
import OpcodeTable.Bytes
import OpcodeTable.Command
import OpcodeTable.Decimal.Binary64
import OpcodeTable.Decimal.Shortest
import OpcodeTable.Endpoint
import OpcodeTable.Engine
import OpcodeTable.Fault
import OpcodeTable.Files
import OpcodeTable.Log.Entry
import OpcodeTable.Log.Handler
import OpcodeTable.Main
import OpcodeTable.Metrics.Exposition
import OpcodeTable.Metrics.Gateway
import OpcodeTable.Metrics.Publish
import OpcodeTable.Metrics.Registry
import OpcodeTable.Path
import OpcodeTable.Pipeline.Assembly
import OpcodeTable.Pipeline.Delivery
import OpcodeTable.Pipeline.Document
import OpcodeTable.Pipeline.Network
import OpcodeTable.Pipeline.Part
import OpcodeTable.Pipeline.Runner
import OpcodeTable.Pipeline.Spec
import OpcodeTable.Problem
import OpcodeTable.Proofs.Acknowledgements
import OpcodeTable.Proofs.BlankRows
import OpcodeTable.Proofs.BufferedOutput
import OpcodeTable.Proofs.CapitalLetters
import OpcodeTable.Proofs.CaseTables
import OpcodeTable.Proofs.Characters
import OpcodeTable.Proofs.ClosedGaps
import OpcodeTable.Proofs.Closing
import OpcodeTable.Proofs.ColumnCut
import OpcodeTable.Proofs.ColumnRuns
import OpcodeTable.Proofs.ConsoleHistory
import OpcodeTable.Proofs.Cuts
import OpcodeTable.Proofs.DecimalText
import OpcodeTable.Proofs.DescriptionColumns
import OpcodeTable.Proofs.Encoding
import OpcodeTable.Proofs.EngineLifecycle
import OpcodeTable.Proofs.EnvironmentOverFile
import OpcodeTable.Proofs.FailedBuild
import OpcodeTable.Proofs.FirstFailure
import OpcodeTable.Proofs.FullLowercase
import OpcodeTable.Proofs.HighWaterMark
import OpcodeTable.Proofs.KnownNames
import OpcodeTable.Proofs.LineReading
import OpcodeTable.Proofs.LineSplitting
import OpcodeTable.Proofs.Linewise
import OpcodeTable.Proofs.LocalAndRemote
import OpcodeTable.Proofs.LowerForms
import OpcodeTable.Proofs.LoweredBytes
import OpcodeTable.Proofs.LoweredDigits
import OpcodeTable.Proofs.MetricsHistory
import OpcodeTable.Proofs.OpcodeFate
import OpcodeTable.Proofs.OpcodeToken
import OpcodeTable.Proofs.OperandOrder
import OpcodeTable.Proofs.OperandSaturation
import OpcodeTable.Proofs.OperandScan
import OpcodeTable.Proofs.Outlines
import OpcodeTable.Proofs.Patterns
import OpcodeTable.Proofs.PolicyDurations
import OpcodeTable.Proofs.Portions
import OpcodeTable.Proofs.ReadingBack
import OpcodeTable.Proofs.Retries
import OpcodeTable.Proofs.RetryProtocol
import OpcodeTable.Proofs.RowClasses
import OpcodeTable.Proofs.RowLimit
import OpcodeTable.Proofs.RowTerminator
import OpcodeTable.Proofs.SettingsLayers
import OpcodeTable.Proofs.SinksInStep
import OpcodeTable.Proofs.SpelledNames
import OpcodeTable.Proofs.StandardPipeline
import OpcodeTable.Proofs.StoppedReading
import OpcodeTable.Proofs.TextLines
import OpcodeTable.Proofs.TokenMove
import OpcodeTable.Proofs.TopicRun
import OpcodeTable.Proofs.TrailingColumns
import OpcodeTable.Proofs.Transform
import OpcodeTable.Proofs.WideRow
import OpcodeTable.Row.Class
import OpcodeTable.Rule.Casing
import OpcodeTable.Rule.Chain
import OpcodeTable.Rule.Columns
import OpcodeTable.Rule.Lowercase
import OpcodeTable.Rule.Operands
import OpcodeTable.Rule.Reorder
import OpcodeTable.Rule.Spacing
import OpcodeTable.Settings.Layer
import OpcodeTable.Settings.Lines
import OpcodeTable.Settings.Loose
import OpcodeTable.Settings.Topics
import OpcodeTable.Sink.Console
import OpcodeTable.Sink.Memory
import OpcodeTable.Sink.Record
import OpcodeTable.Sink.Topic
import OpcodeTable.Sink.Writer
import OpcodeTable.Source.Lines
import OpcodeTable.Source.Memory
import OpcodeTable.Source.Receiver
import OpcodeTable.Source.Topic
import OpcodeTable.Source.Window
import OpcodeTable.Status
import OpcodeTable.Text.Integer
import OpcodeTable.Text.Quoted
import OpcodeTable.Unicode.Case
import OpcodeTable.Unicode.Printable
import OpcodeTable.Url
import OpcodeTable.Utf8
import OpcodeTable.Vector.Client
import OpcodeTable.Vector.Policy
import OpcodeTable.Vector.Rewriter
import OpcodeTable.Vector.Service
import OpcodeTable.Vector.Target
import OpcodeTable.Word
import OpcodeTable.Yaml.Characters
import OpcodeTable.Yaml.Cursor
import OpcodeTable.Yaml.Decoding
import OpcodeTable.Yaml.Document
import OpcodeTable.Yaml.Folding
import OpcodeTable.Yaml.Node
import OpcodeTable.Yaml.Stream
import OpcodeTable.Yaml.Time
import OpcodeTable.Yaml.Token
import OpcodeTable.Yaml.Value
