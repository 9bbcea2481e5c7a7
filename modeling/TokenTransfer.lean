import TokenTransfer.Bytes
import TokenTransfer.Hex
import TokenTransfer.Bounded
import TokenTransfer.Fallible
import TokenTransfer.Table
import TokenTransfer.Chain
import TokenTransfer.Address
import TokenTransfer.Amount
import TokenTransfer.Wire.Tag
import TokenTransfer.Wire.Error
import TokenTransfer.Wire.Reader
import TokenTransfer.Wire.Writer
import TokenTransfer.Wire.Layout
import TokenTransfer.Wire.Message
import TokenTransfer.Wire.Shape
import TokenTransfer.Wire.Envelope
import TokenTransfer.RateLimit
import TokenTransfer.Capability
import TokenTransfer.Network
import TokenTransfer.Fault
import TokenTransfer.Ledger
import TokenTransfer.Transaction
import TokenTransfer.Peer
import TokenTransfer.Inbox
import TokenTransfer.Outbox
import TokenTransfer.Manager.Basic
import TokenTransfer.Manager.Administration
import TokenTransfer.Manager.Sending
import TokenTransfer.Manager.Receiving
import TokenTransfer.Json.Quoted
import TokenTransfer.Json.Token
import TokenTransfer.Json.Value
import TokenTransfer.Json.Format
import TokenTransfer.Deployment.Basic
import TokenTransfer.Deployment.Json
import TokenTransfer.Event
import TokenTransfer.Clock
import TokenTransfer.Node.Basic
import TokenTransfer.Node.Operations
import TokenTransfer.Node.Queries
import TokenTransfer.Adapter
import TokenTransfer.Registry
import TokenTransfer.Proofs.Fallible
import TokenTransfer.Proofs.Table
import TokenTransfer.Proofs.Ledger
import TokenTransfer.Proofs.Amount
import TokenTransfer.Proofs.Amount.Dust
import TokenTransfer.Proofs.RateLimit
import TokenTransfer.Proofs.RateLimit.Alike
import TokenTransfer.Proofs.Wire.Layout
import TokenTransfer.Proofs.Wire.RoundTrip
import TokenTransfer.Proofs.Wire.Encodable
import TokenTransfer.Proofs.Wire.Buffer
import TokenTransfer.Proofs.Wire.Primitive
import TokenTransfer.Proofs.Wire.Canonical
import TokenTransfer.Proofs.Wire.Delimited
import TokenTransfer.Proofs.Wire.Acceptance
import TokenTransfer.Proofs.Manager.Refusals
import TokenTransfer.Proofs.Manager.Run
import TokenTransfer.Proofs.Manager.Alike
import TokenTransfer.Proofs.Manager.Move
import TokenTransfer.Proofs.Manager.Sending
import TokenTransfer.Proofs.Manager.Validation
import TokenTransfer.Proofs.Manager.Receiving
import TokenTransfer.Proofs.Manager.Batch
import TokenTransfer.Proofs.Manager.Operations
import TokenTransfer.Proofs.Manager.Atomicity
import TokenTransfer.Proofs.Manager.OneByOne
import TokenTransfer.Proofs.Manager.Balances
import TokenTransfer.Proofs.Manager.ExactlyOnce
import TokenTransfer.Proofs.Manager.History
import TokenTransfer.Proofs.Manager.Numbering
import TokenTransfer.Proofs.Manager.Accounting
import TokenTransfer.Proofs.Manager.Provenance
import TokenTransfer.Proofs.Manager.Publication
import TokenTransfer.Proofs.Manager.Limits
import TokenTransfer.Proofs.Manager.Order
import TokenTransfer.Proofs.Manager.Throughput
import TokenTransfer.Proofs.Manager.Waiting
import TokenTransfer.Proofs.Manager.Changes
import TokenTransfer.Proofs.Link.Basic
import TokenTransfer.Proofs.Link.Agreement
import TokenTransfer.Proofs.Link.Delivery
import TokenTransfer.Proofs.RateLimit.Ideal
import TokenTransfer.Proofs.RateLimit.Backward
import TokenTransfer.Proofs.Manager.Consistency
import TokenTransfer.Proofs.Manager.Again
import TokenTransfer.Proofs.Node.Capabilities
import TokenTransfer.Proofs.Node.Run
import TokenTransfer.Proofs.Node.Operations
import TokenTransfer.Proofs.Manager.Pause
import TokenTransfer.Proofs.Node.Pause
import TokenTransfer.Proofs.Node.Sending
import TokenTransfer.Proofs.Node.Status
import TokenTransfer.Proofs.Adapter
import TokenTransfer.Proofs.Ledger.Run
import TokenTransfer.Proofs.Address
import TokenTransfer.Proofs.Deployment
