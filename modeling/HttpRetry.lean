import HttpRetry.Text.Printable
import HttpRetry.Text.Base64
import HttpRetry.Time.Timestamp
import HttpRetry.Cli.CompletionScript
import HttpRetry.Cli.Completion
import HttpRetry.Text.Utf8
import HttpRetry.Http.IpAddress
import HttpRetry.Text.Quote
import HttpRetry.Fault
import HttpRetry.Fault.Kind
import HttpRetry.Http.Header
import HttpRetry.Refusal
import HttpRetry.Outcome
import HttpRetry.Text.Decimal
import HttpRetry.Text.Space
import HttpRetry.Time.Civil
import HttpRetry.Time.HttpDate
import HttpRetry.Http.RetryAfter
import HttpRetry.Http.Url
import HttpRetry.Http.Method
import HttpRetry.Http.Body
import HttpRetry.Http.Request
import HttpRetry.Random.Table
import HttpRetry.Random.Lagged
import HttpRetry.Keys
import HttpRetry.Decision
import HttpRetry.Limiter
import HttpRetry.Limiter.Build
import HttpRetry.Schedule
import HttpRetry.Schedule.Build
import HttpRetry.Flow
import HttpRetry.Orchestrator
import HttpRetry.Timeout
import HttpRetry.Client.Event
import HttpRetry.DryRun.Script
import HttpRetry.Text.Integer
import HttpRetry.Text.Double
import HttpRetry.Settings.Value
import HttpRetry.Yaml.Token
import HttpRetry.Yaml.Scanner
import HttpRetry.Yaml.Scalar
import HttpRetry.Yaml.Node
import HttpRetry.Yaml.Load
import HttpRetry.Time.Duration
import HttpRetry.Settings.Decode
import HttpRetry.Settings.Config
import HttpRetry.Settings.Check
import HttpRetry.Settings.Resolve
import HttpRetry.Settings.Load
import HttpRetry.DryRun.Simulate
import HttpRetry.Log.Entry
import HttpRetry.Yaml.Emit
import HttpRetry.Text.Table
import HttpRetry.Cli.Flag
import HttpRetry.Cli.Command
import HttpRetry.Cli.Plan
import HttpRetry.Client.Execution
import HttpRetry.Client.Transport
import HttpRetry.Client.Send
import HttpRetry.Client.Logging
import HttpRetry.Client.Metrics
import HttpRetry.Client.Tracing
import HttpRetry.Main
import HttpRetry.Proofs.FlowCalls
import HttpRetry.Proofs.FlowProtocol
import HttpRetry.Proofs.LimiterCompose
import HttpRetry.Proofs.RetryBound
import HttpRetry.Proofs.SendExecution
import HttpRetry.Proofs.ScheduleDelays
import HttpRetry.Proofs.FlowIsolation
import HttpRetry.Proofs.BudgetLeaves
import HttpRetry.Proofs.EventSnapshots
import HttpRetry.Proofs.AttemptDeadlines
import HttpRetry.Proofs.StreamingBody
import HttpRetry.Proofs.Backoff
import HttpRetry.Proofs.AdvisedDelays
import HttpRetry.Proofs.AdviceReading
import HttpRetry.Proofs.RetryMarking
import HttpRetry.Proofs.DryRunReport
import HttpRetry.Proofs.FaultClassification
import HttpRetry.Proofs.LimiterShape
import HttpRetry.Proofs.JitterDraws
import HttpRetry.Proofs.RequestClone
import HttpRetry.Proofs.ScriptGrammar
