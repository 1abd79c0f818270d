import Mavlink.Dialect.Sample
import Mavlink.Frame.Draft
import Mavlink.Health.SharedMonitor
import Mavlink.Json.Dialect
import Mavlink.Json.Health
import Mavlink.Json.Parser
import Mavlink.Json.Printer
import Mavlink.Link.Outbox
import Mavlink.Link.Receive
import Mavlink.Pipeline
import Mavlink.Proofs.Access.Payload
import Mavlink.Proofs.BitSerial
import Mavlink.Proofs.Checksum
import Mavlink.Proofs.Dialect.BaseLayout
import Mavlink.Proofs.Dialect.Bitmask
import Mavlink.Proofs.Dialect.Compilation
import Mavlink.Proofs.Dialect.Layout
import Mavlink.Proofs.Dialect.Registration
import Mavlink.Proofs.Dialect.Revision
import Mavlink.Proofs.Dialect.TypeGrammar
import Mavlink.Proofs.Frame.Position
import Mavlink.Proofs.Health.Accounting
import Mavlink.Proofs.Health.Arbitration
import Mavlink.Proofs.Health.Duplicates
import Mavlink.Proofs.Health.Forgery
import Mavlink.Proofs.Health.Forgetting
import Mavlink.Proofs.Health.History
import Mavlink.Proofs.Health.Isolation
import Mavlink.Proofs.Health.Primary
import Mavlink.Proofs.Health.Shared
import Mavlink.Proofs.Health.SingleStream
import Mavlink.Proofs.Health.SweepCounts
import Mavlink.Proofs.Health.Sweeping
import Mavlink.Proofs.Health.Symmetry
import Mavlink.Proofs.Health.WellFormed
import Mavlink.Proofs.Link.Buffering
import Mavlink.Proofs.Link.Carriage
import Mavlink.Proofs.Link.Chunking
import Mavlink.Proofs.Link.Corruption
import Mavlink.Proofs.Link.Keys
import Mavlink.Proofs.Link.NoisyStream
import Mavlink.Proofs.Link.OwnOutput
import Mavlink.Proofs.Link.Relay
import Mavlink.Proofs.Link.RoundTrip
import Mavlink.Proofs.Link.Scanner
import Mavlink.Proofs.Link.Sending
import Mavlink.Proofs.Number.Narrow
import Mavlink.Proofs.Payload.Canonical
import Mavlink.Proofs.Payload.Concatenation
import Mavlink.Proofs.Payload.Element
import Mavlink.Proofs.Payload.IntegerRange
import Mavlink.Proofs.Payload.Length
import Mavlink.Proofs.Payload.Prefix
import Mavlink.Proofs.Payload.Reencoding
import Mavlink.Proofs.Payload.RoundTrip
import Mavlink.Proofs.Payload.Shape
import Mavlink.Proofs.Payload.Slots
import Mavlink.Proofs.Payload.TextField
import Mavlink.Proofs.Payload.Tiling
import Mavlink.Proofs.Pipeline
import Mavlink.Proofs.Text.Lexical
import Mavlink.Proofs.Text.Truncation
import Mavlink.Workload
