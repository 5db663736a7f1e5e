import Authoring.Main
import Authoring.Ledger.Export
import Authoring.Ledger.Shared
import Authoring.Telemetry
import Authoring.CommandLine
import Authoring.Proofs.Contract.Accepts
import Authoring.Proofs.Deliverable.FailOpen
import Authoring.Proofs.Contract.Mentions
import Authoring.Proofs.Deliverable.RoundTrip
import Authoring.Proofs.Deliverable.Verdict
import Authoring.Proofs.Program.Printing
import Authoring.Proofs.Ledger.History
import Authoring.Proofs.Program.Duplicates
import Authoring.Proofs.Value.Json
import Authoring.Proofs.Graph.Decoding
import Authoring.Proofs.Program.Values
import Authoring.Proofs.Score.Reads
import Authoring.Proofs.Service.Compiling
import Authoring.Proofs.Service.Scoring
import Authoring.Proofs.Decimal.Digits
import Authoring.Proofs.Json.Tokens
import Authoring.Proofs.Json.Compact
import Authoring.Proofs.Ledger.Bytes
import Authoring.Proofs.Ledger.Decoding
import Authoring.Proofs.Ledger.Export
import Authoring.Proofs.Program.Shape
import Authoring.Proofs.Program.Joining
import Authoring.Proofs.Program.Order
import Authoring.Proofs.Contract.Describes
import Authoring.Proofs.Contract.Elsewhere
import Authoring.Proofs.Telemetry.Newest
import Authoring.Proofs.Program.Words
import Authoring.Proofs.Program.Edges
import Authoring.Proofs.Program.Errors
import Authoring.Proofs.Program.Nodes
import Authoring.Proofs.Deliverable.Breaks
import Authoring.Proofs.Deliverable.Leniency
import Authoring.Proofs.Decimal.Arithmetic
import Authoring.Proofs.Score.Hints
import Authoring.Proofs.Score.Mean
import Authoring.Proofs.Score.Renaming
import Authoring.Proofs.Score.Repairs
import Authoring.Proofs.Value.Readers
import Authoring.Proofs.Value.Narrow
import Authoring.Proofs.Decimal.Words
import Authoring.Proofs.Ledger.Raw
import Authoring.Proofs.Ledger.Agreement
import Authoring.Proofs.Ledger.Payloads
import Authoring.Proofs.Ledger.Interrupted
import Authoring.Proofs.Telemetry.Disclosure
import Authoring.Proofs.Program.Objects
import Authoring.Proofs.Program.Reasons
import Authoring.Proofs.Deliverable.Accessed
import Authoring.Proofs.Duplicates
import Authoring.Proofs.Program.Pieces
import Authoring.Proofs.Contract.Bounds
import Authoring.Proofs.Contract.Lines
import Authoring.Proofs.Program.Messages
import Authoring.Proofs.Score.Codec
