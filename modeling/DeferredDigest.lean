import DeferredDigest.Main
import DeferredDigest.Session
import DeferredDigest.Proofs.Gate.Coherence
import DeferredDigest.Proofs.Gate.Clients
import DeferredDigest.Proofs.Dispatch.Cases
import DeferredDigest.Proofs.Session.Steps
import DeferredDigest.Proofs.Worker.Tasks
import DeferredDigest.Proofs.Dispatch.Frame
import DeferredDigest.Proofs.Store.Writes
import DeferredDigest.Proofs.Session.Ledger
import DeferredDigest.Proofs.Text.Numerals
import DeferredDigest.Proofs.Dispatch.Routing
import DeferredDigest.Proofs.Dispatch.Submission
import DeferredDigest.Proofs.Dispatch.Retrieval
import DeferredDigest.Proofs.Session.Progress
import DeferredDigest.Proofs.Session.Visibility
import DeferredDigest.Proofs.Store.WriteOnce
import DeferredDigest.Proofs.Stats.Average
import DeferredDigest.Proofs.Http.FormFields
import DeferredDigest.Proofs.Session.Draining
import DeferredDigest.Proofs.Text.PaddedBase64
import DeferredDigest.Proofs.Dispatch.PathSegments
