import CommandTelemetry.Action.Chain
import CommandTelemetry.Action.Interceptor
import CommandTelemetry.Action.Options
import CommandTelemetry.Action.Result
import CommandTelemetry.Attribute.Normalize
import CommandTelemetry.CommandLine.Binding
import CommandTelemetry.CommandLine.Grammar
import CommandTelemetry.CommandLine.Invocation
import CommandTelemetry.CommandLine.Leading
import CommandTelemetry.CommandLine.Parameter
import CommandTelemetry.CommandLine.Refusal
import CommandTelemetry.CommandLine.Word
import CommandTelemetry.ExitCode
import CommandTelemetry.Failure.AuthReader
import CommandTelemetry.Failure.Class
import CommandTelemetry.Failure.Classification
import CommandTelemetry.Failure.DeploymentCodes
import CommandTelemetry.Failure.Graph
import CommandTelemetry.Failure.Search
import CommandTelemetry.Fault
import CommandTelemetry.Json.Document
import CommandTelemetry.Json.Token
import CommandTelemetry.Label.Command
import CommandTelemetry.Label.Service
import CommandTelemetry.Label.Tool
import CommandTelemetry.Log.Record
import CommandTelemetry.Log.Root
import CommandTelemetry.Log.Template
import CommandTelemetry.Main
import CommandTelemetry.Numeral.Binary
import CommandTelemetry.Numeral.Form
import CommandTelemetry.Numeral.Places
import CommandTelemetry.Numeral.Reader
import CommandTelemetry.Numeral.Shortest
import CommandTelemetry.Program.Catalogue
import CommandTelemetry.Program.Commands
import CommandTelemetry.Program.Context
import CommandTelemetry.Program.Exec
import CommandTelemetry.Program.Invoke
import CommandTelemetry.Program.Launch
import CommandTelemetry.Program.Report
import CommandTelemetry.Program.RunName
import CommandTelemetry.Program.Task
import CommandTelemetry.Proofs.AttributeWrites
import CommandTelemetry.Proofs.Classification
import CommandTelemetry.Proofs.CommandLinePrivacy
import CommandTelemetry.Proofs.DiscreetCommands
import CommandTelemetry.Proofs.ExitCategory
import CommandTelemetry.Proofs.FailedInvocation
import CommandTelemetry.Proofs.InterceptorExits
import CommandTelemetry.Proofs.InvocationSpan
import CommandTelemetry.Proofs.NestedSpans
import CommandTelemetry.Proofs.Nesting
import CommandTelemetry.Proofs.NormalAttributes
import CommandTelemetry.Proofs.Outcome
import CommandTelemetry.Proofs.Privacy
import CommandTelemetry.Proofs.SearchOrder
import CommandTelemetry.Proofs.SpanAttributes
import CommandTelemetry.Proofs.UnrecordableUsage
import CommandTelemetry.Script.Journal
import CommandTelemetry.Script.Recorder
import CommandTelemetry.Script.Run
import CommandTelemetry.Script.Step
import CommandTelemetry.Session.Basic
import CommandTelemetry.Session.Provision
import CommandTelemetry.Session.RunNames
import CommandTelemetry.Session.Usage
import CommandTelemetry.Setting.Environment
import CommandTelemetry.Setting.Package
import CommandTelemetry.Setting.Telemetry
import CommandTelemetry.Text.Blank
import CommandTelemetry.Text.CodeRange
import CommandTelemetry.Text.DecimalDigit
import CommandTelemetry.Text.LetterCase
import CommandTelemetry.Text.Lowercase
import CommandTelemetry.Text.Printable
import CommandTelemetry.Text.Quoted
import CommandTelemetry.Text.Uppercase
import CommandTelemetry.Trace.Context
import CommandTelemetry.Trace.Limits
import CommandTelemetry.Trace.Provider
import CommandTelemetry.Trace.Span
import CommandTelemetry.Value.Basic
import CommandTelemetry.Value.Canonical
import CommandTelemetry.Value.Compact
import CommandTelemetry.Value.Display
import CommandTelemetry.Value.Integer
import CommandTelemetry.Value.Order
import CommandTelemetry.Vocabulary
import CommandTelemetry.Proofs.InvocationHistory
import CommandTelemetry.Proofs.SpanLimits
import CommandTelemetry.Proofs.Provisioning
import CommandTelemetry.Proofs.ConsistentDetails
import CommandTelemetry.Proofs.ToolInvocation
import CommandTelemetry.Proofs.ToolTelemetry
import CommandTelemetry.Proofs.JsonGrammar
import CommandTelemetry.Proofs.JsonWriter
import CommandTelemetry.Proofs.DeploymentCodesText
import CommandTelemetry.Proofs.AnsweredInvocation
import CommandTelemetry.Proofs.Precedence
import CommandTelemetry.Proofs.DeploymentLevels
import CommandTelemetry.Proofs.DeploymentFrames
import CommandTelemetry.Proofs.CountLimit
import CommandTelemetry.Proofs.NormalForm
import CommandTelemetry.Proofs.AsciiText
import CommandTelemetry.Proofs.CanonicalText
import CommandTelemetry.Proofs.Redaction
import CommandTelemetry.Proofs.LongestSuffix
import CommandTelemetry.Proofs.Pieces
import CommandTelemetry.Proofs.CaselessText
import CommandTelemetry.Proofs.ToolPaths
import CommandTelemetry.Proofs.FloatOrder
import CommandTelemetry.Proofs.ResolvedSettings
import CommandTelemetry.Proofs.IntegerText
import CommandTelemetry.Proofs.StartUp
import CommandTelemetry.Proofs.BlankEnds
import CommandTelemetry.Proofs.CommandNames
import CommandTelemetry.Proofs.ChainComposition
import CommandTelemetry.Proofs.FinalSigma
import CommandTelemetry.Proofs.ConfiguredRedaction
import CommandTelemetry.Proofs.UsageOnSpan
import CommandTelemetry.Proofs.UsageWrites
import CommandTelemetry.Proofs.SharedUsage
import CommandTelemetry.Proofs.Baggage
import CommandTelemetry.Proofs.ListVariables
