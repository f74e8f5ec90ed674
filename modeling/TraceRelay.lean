import TraceRelay.Session
import TraceRelay.Proofs.Numeral.Reading
import TraceRelay.Proofs.Numeral.Writing
import TraceRelay.Proofs.Text.Trim
import TraceRelay.Proofs.CloudHeader.Grammar
import TraceRelay.Proofs.CloudHeader.Reading
import TraceRelay.Proofs.Carrier.Textual
import TraceRelay.Proofs.TraceParent.Totality
import TraceRelay.Proofs.CloudHeader.Writing
import TraceRelay.Proofs.Propagator.Totality
import TraceRelay.Proofs.Propagator.Injection
import TraceRelay.Proofs.Derivation.Lineage
import TraceRelay.Proofs.CloudHeader.Canonical
import TraceRelay.Proofs.TraceParent.Grammar
import TraceRelay.Proofs.TraceParent.Reading
import TraceRelay.Proofs.Propagator.Extraction
import TraceRelay.Proofs.Propagator.Combined
import TraceRelay.Proofs.TraceParent.Writing
import TraceRelay.Proofs.Carrier.Written
import TraceRelay.Proofs.Propagator.Agreement
import TraceRelay.Proofs.Carrier.Respelling
import TraceRelay.Proofs.Propagator.Relay
import TraceRelay.Proofs.Propagator.Unusable
import TraceRelay.Proofs.Inbound.Lookup
import TraceRelay.Proofs.Propagator.Replacement
import TraceRelay.Proofs.Propagator.SingleWrite
import TraceRelay.Proofs.Outbound.Shadowing
import TraceRelay.Proofs.Inbound.Agreement
import TraceRelay.Proofs.CloudHeader.Rejection
import TraceRelay.Proofs.Propagator.Footprint
import TraceRelay.Proofs.Session.Settings
import TraceRelay.Proofs.Session.Records
import TraceRelay.Proofs.CloudHeader.Splitting
import TraceRelay.Proofs.Session.Legibility
import TraceRelay.Proofs.Session.Configuration
