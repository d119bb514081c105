import VersionOperator.Json.Writer
import VersionOperator.Json.Pointer
import VersionOperator.Main
import VersionOperator.Tenant.Http
import VersionOperator.Tenant.Scripted
import VersionOperator.Controller.Session
import VersionOperator.Controller.Settings
import VersionOperator.Controller.Watch
import VersionOperator.Proofs.Resolution.Account
import VersionOperator.Proofs.Resolution.Failure
import VersionOperator.Proofs.Resolution.Monotone
import VersionOperator.Proofs.Resolution.Repetition
import VersionOperator.Proofs.Resolution.Verdict
import VersionOperator.Proofs.Resolution.Complete
import VersionOperator.Proofs.Ledger.History
import VersionOperator.Proofs.Ledger.Rewriting
import VersionOperator.Proofs.Resolution.Interference
import VersionOperator.Proofs.Json.Merge
import VersionOperator.Proofs.Resource.RoundTrip
import VersionOperator.Proofs.Resource.StatusPatch
import VersionOperator.Proofs.Resolution.Settling
import VersionOperator.Proofs.Resolution.ProbeTime
import VersionOperator.Proofs.Resolution.Transition
import VersionOperator.Proofs.Resolution.Questions
import VersionOperator.Proofs.Resolution.Throttle
import VersionOperator.Proofs.Resolution.Renewal
import VersionOperator.Proofs.Cluster.Request
import VersionOperator.Proofs.Controller.Backoff
import VersionOperator.Proofs.Controller.Requeue
import VersionOperator.Proofs.Resolution.WithoutToken
import VersionOperator.Proofs.Resource.UnknownFields
import VersionOperator.Proofs.Resource.Faithful
import VersionOperator.Proofs.Image.Grammar
import VersionOperator.Proofs.Controller.SpecChange
import VersionOperator.Proofs.Schema.Structural
import VersionOperator.Proofs.Schema.Agreement
import VersionOperator.Proofs.AgentVersion.Grammar
import VersionOperator.Proofs.AgentVersion.Comparison
import VersionOperator.Proofs.Image.Composition
import VersionOperator.Proofs.Resolution.Asking
import VersionOperator.Proofs.Resolution.BlankSettings
import VersionOperator.Proofs.Resolution.RegistryHost
import VersionOperator.Proofs.Controller.Overflow
