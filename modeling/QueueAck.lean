import QueueAck.Text.Classes
import QueueAck.Text.Case
import QueueAck.Text.Quoted
import QueueAck.Text.Integer
import QueueAck.Number.Double
import QueueAck.Retry
import QueueAck.Value
import QueueAck.Json.Basic
import QueueAck.Json.Reader
import QueueAck.Json.Writer
import QueueAck.Number.Decimal
import QueueAck.Text.Word
import QueueAck.Text.Search
import QueueAck.Template.Basic
import QueueAck.Template.Reader
import QueueAck.Template.Show
import QueueAck.Template.Fill
import QueueAck.Calendar.Basic
import QueueAck.Calendar.Pattern
import QueueAck.Calendar.Stamp
import QueueAck.Argument
import QueueAck.Batch
import QueueAck.Failure.Plain
import QueueAck.Failure.Misuse
import QueueAck.Number.OfValue
import QueueAck.Failure.Basic
import QueueAck.Log.Context
import QueueAck.Log.Level
import QueueAck.Json.Conversion
import QueueAck.Log.Format
import QueueAck.Log.Formatter
import QueueAck.Log.Logger
import QueueAck.World
import QueueAck.Acknowledge
import QueueAck.Client.PubSub
import QueueAck.Client.Sqs
import QueueAck.ClientConfig
import QueueAck.Connection
import QueueAck.Factory
import QueueAck.Log.Program
import QueueAck.Proofs.Guarantee
import QueueAck.Proofs.Recording
import QueueAck.Proofs.Dispatch.Refinement
import QueueAck.Proofs.Conservation
import QueueAck.Proofs.Numbering
import QueueAck.Proofs.Identifiers
import QueueAck.Proofs.Requests
import QueueAck.Proofs.Log.Threads
import QueueAck.Proofs.Submission
import QueueAck.Proofs.Threads.Process
import QueueAck.Proofs.Threads.Drawing
import QueueAck.Proofs.Threads.Interleaving
import QueueAck.Proofs.Responses
import QueueAck.Proofs.Accounting
import QueueAck.Proofs.Service
import QueueAck.Proofs.Translation
import QueueAck.Proofs.SharedClient
import QueueAck.Proofs.Log.Labels
import QueueAck.Proofs.Log.Warnings
import QueueAck.Proofs.DistinctDeadlines
import QueueAck.Proofs.Backends
import QueueAck.Proofs.Isolation
import QueueAck.Proofs.Log.Thresholds
import QueueAck.Proofs.Immediacy
import QueueAck.Proofs.Deferral
import QueueAck.Proofs.Retrying
import QueueAck.Proofs.Results
import QueueAck.Proofs.Named
import QueueAck.Proofs.Text.Numerals
import QueueAck.Proofs.Text.Words
import QueueAck.Proofs.Environment
import QueueAck.Proofs.Log.Levels
import QueueAck.Proofs.Log.SetUps
import QueueAck.Proofs.Json.Strings
import QueueAck.Proofs.Json.RoundTrip
import QueueAck.Proofs.Stamps
import QueueAck.Proofs.Log.Lines
import QueueAck.Proofs.Parties
import QueueAck.Proofs.Sources
import QueueAck.Proofs.Refusal
import QueueAck.Proofs.Encoding
import QueueAck.Proofs.Log.Filtering
import QueueAck.Proofs.Deadlines
import QueueAck.Proofs.SingleDeadline
import QueueAck.Proofs.ClientOptions
import QueueAck.Proofs.Template.Fields
import QueueAck.Proofs.Log.Attributes
import QueueAck.Proofs.Log.Forms
import QueueAck.Proofs.Construction
