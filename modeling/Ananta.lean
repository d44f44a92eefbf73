import Ananta.Ownership.Atomicity
import Ananta.Ownership.Replay
import Ananta.SideEffects.AtMostOnce
import Ananta.SideEffects.Rounds
import Ananta.Events.Interchange
import Ananta.Events.Delivery
import Ananta.Security.Replay
import Ananta.Budgets.Profiles
import Ananta.Budgets.Atomicity
import Ananta.Queue.Store
import Ananta.Checkpoints.Store
import Ananta.Native.Meaning
import Ananta.Native.Containment
import Ananta.Native.Durability
import Ananta.Native.FreshRuns
import Ananta.Native.Retries
import Ananta.Hub.Leases
import Ananta.Hub.Reconcile
import Ananta.Semantic.Leases
import Ananta.Worker.Slots
import Ananta.Speech.Budget
import Ananta.Rendezvous.Capabilities
import Ananta.Rendezvous.Signals
import Ananta.Rendezvous.RateLimit
import Ananta.Context.References
import Ananta.Speech.Replay
import Ananta.Index.Collection
import Ananta.Approvals.Execution
import Ananta.Audit.Integrity
import Ananta.Egress.Accounting
import Ananta.Mail.Transaction
import Ananta.Shell.Chain
import Ananta.Plan.FanOut
