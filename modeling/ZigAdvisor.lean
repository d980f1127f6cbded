import ZigAdvisor.Text.Case
import ZigAdvisor.Text.Quoted
import ZigAdvisor.Text.Utf8
import ZigAdvisor.Review.Registry
import ZigAdvisor.Estimate.Memory
import ZigAdvisor.Estimate.Time
import ZigAdvisor.Estimate.Allocation
import ZigAdvisor.Build.Script
import ZigAdvisor.Build.Manifest
import ZigAdvisor.Generate.Request
import ZigAdvisor.Generate.SourceFile
import ZigAdvisor.Advice.Practices
import ZigAdvisor.Advice.Troubleshooting
import ZigAdvisor.Advice.OptimizeMode
import ZigAdvisor.Advice.Topic
import ZigAdvisor.Number.Double
import ZigAdvisor.Number.Shortest
import ZigAdvisor.Number.Written
import ZigAdvisor.Number.Reading
import ZigAdvisor.Domain.Name
import ZigAdvisor.Json.Writer
import ZigAdvisor.Json.Shown
import ZigAdvisor.Json.Reader
import ZigAdvisor.Http.Message
import ZigAdvisor.Http.Status
import ZigAdvisor.Http.Url.Target
import ZigAdvisor.Service.Log
import ZigAdvisor.Service.Trace
import ZigAdvisor.Service.Settings
import ZigAdvisor.Tool.Arguments
import ZigAdvisor.Tool.Answer
import ZigAdvisor.Tool.Basic
import ZigAdvisor.Tool.Call
import ZigAdvisor.Resource.Fetch
import ZigAdvisor.Resource.Documentation
import ZigAdvisor.Resource.Repositories
import ZigAdvisor.Resource.Examples
import ZigAdvisor.Resource.Basic
import ZigAdvisor.Rpc.Reply
import ZigAdvisor.Rpc.Handle
import ZigAdvisor.Rpc.Session
import ZigAdvisor.Files.Tree
import ZigAdvisor.Command.Option
import ZigAdvisor.Command.Arguments
import ZigAdvisor.Command.Installation
import ZigAdvisor.Command.Run
import ZigAdvisor.Main
import ZigAdvisor.Proofs.Pattern.Spans
import ZigAdvisor.Proofs.Pattern.Scan
import ZigAdvisor.Pattern.Metric
import ZigAdvisor.Proofs.Pattern.Counting
import ZigAdvisor.Proofs.Pattern.Returns
import ZigAdvisor.Proofs.Review.Agreement
import ZigAdvisor.Proofs.Flow.Complexity
import ZigAdvisor.Proofs.Text.Word
import ZigAdvisor.Proofs.Flow.Tokens
import ZigAdvisor.Proofs.Flow.LoopScan
import ZigAdvisor.Proofs.Flow.Braces
import ZigAdvisor.Proofs.Flow.CallScan
import ZigAdvisor.Proofs.Flow.LoopNesting
import ZigAdvisor.Review.Rule
import ZigAdvisor.Proofs.Review.ComplexityLabel
import ZigAdvisor.Proofs.Text.Lines
import ZigAdvisor.Proofs.Flow.LoopLines
import ZigAdvisor.Proofs.Flow.Program
import ZigAdvisor.Proofs.Flow.ProgramLoops
import ZigAdvisor.Proofs.Flow.Juxtaposition
import ZigAdvisor.Proofs.Text.Occurrence
import ZigAdvisor.Proofs.Build.Frames
import ZigAdvisor.Proofs.Build.FreeText
import ZigAdvisor.Proofs.Build.Recommendations
import ZigAdvisor.Proofs.Flow.Growth
import ZigAdvisor.Proofs.Review.Growth
import ZigAdvisor.Proofs.Flow.Respacing
import ZigAdvisor.Proofs.Json.Members
import ZigAdvisor.Proofs.Resource.Reading
import ZigAdvisor.Proofs.Review.Measured
import ZigAdvisor.Proofs.Rpc.Replies
import ZigAdvisor.Proofs.Json.Schema
import ZigAdvisor.Proofs.Tool.Acceptance
import ZigAdvisor.Proofs.Tool.Schema
import ZigAdvisor.Proofs.Rpc.ToolCalls
import ZigAdvisor.Proofs.Number.Digits
import ZigAdvisor.Proofs.Number.Literal
import ZigAdvisor.Proofs.Text.Stream
import ZigAdvisor.Proofs.Service.Outcomes
import ZigAdvisor.Proofs.Number.Shortest
import ZigAdvisor.Proofs.Text.Surrogates
import ZigAdvisor.Proofs.Text.Utf8
import ZigAdvisor.Proofs.Json.Printable
import ZigAdvisor.Proofs.Json.Readable
import ZigAdvisor.Proofs.Json.Reading
import ZigAdvisor.Proofs.Json.Numerals
import ZigAdvisor.Proofs.Json.Escapes
import ZigAdvisor.Proofs.Json.RoundTrip
import ZigAdvisor.Proofs.Json.Shown
import ZigAdvisor.Proofs.Json.Strict
import ZigAdvisor.Proofs.Rpc.Records
import ZigAdvisor.Proofs.Rpc.Sessions
import ZigAdvisor.Proofs.Rpc.Limits
import ZigAdvisor.Proofs.Http.Addresses
import ZigAdvisor.Proofs.Resource.Told
import ZigAdvisor.Proofs.Review.Messages
import ZigAdvisor.Proofs.Build.Echoed
import ZigAdvisor.Proofs.Tool.Texts
import ZigAdvisor.Proofs.Rpc.ReadBack
import ZigAdvisor.Proofs.Rpc.StrictReplies
import ZigAdvisor.Proofs.Files.Tree
import ZigAdvisor.Proofs.Command.Configurations
import ZigAdvisor.Proofs.Command.Installing
import ZigAdvisor.Proofs.Command.Failures
import ZigAdvisor.Proofs.Rpc.Requests
import ZigAdvisor.Proofs.Rpc.Secrecy
import ZigAdvisor.Proofs.Text.CommentLines
import ZigAdvisor.Proofs.Review.FileFigures
import ZigAdvisor.Proofs.Report.Sections
import ZigAdvisor.Proofs.Review.Items
import ZigAdvisor.Proofs.Tool.Sections
import ZigAdvisor.Proofs.Command.Checking
import ZigAdvisor.Proofs.Flow.OpenBodies
import ZigAdvisor.Proofs.Flow.NestedHeaders
import ZigAdvisor.Proofs.Flow.SelfCallers
import ZigAdvisor.Proofs.Flow.LoopsByLine
import ZigAdvisor.Proofs.Resource.Listing
import ZigAdvisor.Proofs.Flow.DeepestRange
import ZigAdvisor.Proofs.Report.Buckets
import ZigAdvisor.Proofs.Zig.Lexer
import ZigAdvisor.Proofs.Zig.Quotations
import ZigAdvisor.Proofs.Zig.Parts
import ZigAdvisor.Proofs.Build.ScriptParts
import ZigAdvisor.Proofs.Zig.Zon
import ZigAdvisor.Proofs.Build.ManifestParts
import ZigAdvisor.Proofs.Build.ManifestValue
import ZigAdvisor.Proofs.Build.Quoting
import ZigAdvisor.Proofs.Build.BoundNames
import ZigAdvisor.Proofs.Text.LowerCase
import ZigAdvisor.Proofs.Generate.Keywords
import ZigAdvisor.Proofs.Review.StyleLines
import ZigAdvisor.Proofs.Build.PlainNames
import ZigAdvisor.Proofs.Build.FurtherSteps
import ZigAdvisor.Proofs.Review.DismissedErrors
